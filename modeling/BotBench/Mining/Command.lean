import BotBench.Text.Blank

/-! # Commands

A message that begins with a slash is a command. Its name is the first run of characters that are
not blank behind the slash, or empty when there is none. -/

namespace BotBench.Mining

open Text

/-- The name of the command in a message, if the message is one. -/
def commandOf? (message : String) : Option String :=
  match message.toList with
  | '/' :: rest =>
      some (String.ofList ((rest.dropWhile isBlank).takeWhile fun c => !isBlank c))
  | _ => none

end BotBench.Mining
