import BotBench.Chat.Layout

/-! # Messages and replies

A chat transcript is a list of messages from the user and from the bot. A reply is what a simulated
bot answers; it enters the transcript as a message of the bot. -/

namespace BotBench

/-- Who wrote a message. -/
inductive Sender
  | user
  | bot
  | other (name : String)
  deriving DecidableEq, Inhabited

/-- The sender as it is written in a message. -/
def Sender.name : Sender → String
  | .user => "user"
  | .bot => "bot"
  | .other name => name

/-- The sender with a given name. -/
def Sender.ofName (name : String) : Sender :=
  if name == "user" then .user else if name == "bot" then .bot else .other name

/-- An entry of a chat transcript. -/
structure Message where
  sender : Sender
  text : Json
  buttons : Option Layout := none

/-- The message as an object; the buttons are written exactly when there is a layout. -/
def Message.toJson (message : Message) : Json :=
  let written := [("sender", .str message.sender.name), ("text", message.text)]
  match message.buttons with
  | some layout => .obj (written ++ [("buttons", layout.toJson)])
  | none => .obj written

/-- What a simulated bot answers. -/
structure Reply where
  text : Json
  buttons : Option Layout := none

/-- The reply as a message of the bot. -/
def Reply.toMessage (reply : Reply) : Message where
  sender := .bot
  text := reply.text
  buttons := reply.buttons

/-- The reply as an object: its text and its layout, null when there is none. -/
def Reply.toJson (reply : Reply) : Json :=
  .obj [("text", reply.text), ("buttons", (reply.buttons.map Layout.toJson).getD .null)]

end BotBench
