import BotBench.Mining.Search

/-! # Handlers

A source registers a function for a command by a call `CommandHandler("name", function`, followed by
a comma or the closing parenthesis. -/

namespace BotBench.Mining

open Text

/-- The name of the call that registers a handler. -/
def handlerCall : List Char := "CommandHandler".toList

/-- A run of word characters that is not empty. -/
def readName (cs : List Char) : Option (List Char × List Char) :=
  match cs.takeWhile isWord with
  | [] => none
  | name => some (name, cs.dropWhile isWord)

/-- Recognise the registration of a command: the command between two equal quotes, then the name of
a function as a complete argument. -/
def registration (command : List Char) : Recogniser (List Char) := fun cs => do
  let rest ← afterCallOpen? handlerCall cs
  match rest with
  | [] => none
  | quote :: rest =>
      if quote == '"' || quote == '\'' then do
        let rest ← afterWord? command rest
        match rest with
        | [] => none
        | closing :: rest =>
            if closing == quote then do
              let rest ← afterMark? ',' rest
              let (name, rest) ← readName (skipBlanks rest)
              let rest ← afterArgument? rest
              return (name, rest)
            else none
      else none

/-- The function that a source registers for a command. -/
def handlerName? (source command : String) : Option String :=
  (searchWord (registration command.toList) false source.toList).map fun found =>
    String.ofList found.1

end BotBench.Mining
