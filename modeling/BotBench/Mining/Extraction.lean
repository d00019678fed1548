import BotBench.Chat.Message
import BotBench.Mining.Command
import BotBench.Mining.FunctionBody
import BotBench.Mining.Handler
import BotBench.Mining.Literal

/-! # Mining a reply from a source

The source of a bot in the indentation language is never run. A reply is mined from its text: the
function registered for the command, the function's body, the first literal sent by a `reply_text`
call and the literals of the `KeyboardButton` calls. If one of the first three is missing there is
no reply. -/

namespace BotBench.Mining

/-- The name of the call that sends a reply. -/
def replyCall : List Char := "reply_text".toList

/-- The name of the call that makes a button. -/
def buttonCall : List Char := "KeyboardButton".toList

/-- Recognise a call that sends a literal. What stands behind the literal is not looked at. -/
def replyLiteral : Recogniser (List Char) := fun cs =>
  (afterCallOpen? replyCall cs).bind readLiteral

/-- Recognise a call whose first argument is a literal and nothing else. -/
def buttonLiteral : Recogniser (List Char) := fun cs =>
  match (afterCallOpen? buttonCall cs).bind readLiteral with
  | some (text, rest) => (afterArgument? rest).map (text, ·)
  | none => none

/-- The text that a body replies with. -/
def replyText? (body : String) : Option String :=
  (searchWord replyLiteral false body.toList).map fun found => String.ofList found.1

/-- The texts of the buttons that a body makes, in order. -/
def buttonTexts (body : String) : List String :=
  (searchAll buttonLiteral false body.length body.toList).map String.ofList

/-- What is mined from a source for a command. -/
structure Extraction where
  command : String
  functionName : String
  body : String
  replyText : String
  buttonTexts : List String
  deriving DecidableEq, Repr

/-- Why nothing is mined from a source. -/
inductive Miss
  /-- The message is no command. -/
  | notCommand
  /-- No function is registered for the command. -/
  | unregistered (command : String)
  /-- The registered function is not defined. -/
  | undefinedFunction (name : String)
  /-- The function sends no literal. -/
  | noLiteral (name : String)
  deriving DecidableEq, Repr

/-- The note that is logged about a miss. -/
def Miss.note? : Miss → Option String
  | .notCommand => none
  | .unregistered command => some ("No CommandHandler registered for /" ++ command)
  | .undefinedFunction name => some ("Handler function " ++ name ++ " is not defined")
  | .noLiteral name => some ("Handler function " ++ name ++ " has no literal reply_text call")

/-- Mine a source for the answer to a message. -/
def extract (source message : String) : Except Miss Extraction :=
  match commandOf? message with
  | none => .error .notCommand
  | some command =>
      match handlerName? source command with
      | none => .error (.unregistered command)
      | some functionName =>
          match functionBody? source functionName with
          | none => .error (.undefinedFunction functionName)
          | some body =>
              match replyText? body with
              | none => .error (.noLiteral functionName)
              | some replyText =>
                  .ok { command, functionName, body, replyText, buttonTexts := buttonTexts body }

/-- The reply of an extraction: all buttons stand in one row. -/
def Extraction.toReply (found : Extraction) : Reply where
  text := .str found.replyText
  buttons := Layout.ofRows? [found.buttonTexts.map fun text => .reply (.str text)]

/-- The reply that is mined from a source for a message. -/
def reply? (source message : String) : Option Reply :=
  (extract source message).toOption.map Extraction.toReply

end BotBench.Mining
