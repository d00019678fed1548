import BotBench.Script.Program
import BotBench.Script.Token

/-! # Reading scripts

The state in which a script is read: the tokens that are left, and the names that are declared so
far in the function and the blocks around. A name that is declared twice where that is not allowed
is a fault found while reading. -/

namespace BotBench.Script

open Text

/-- The names declared so far in a block. -/
structure BlockNames where
  lexicals : List (String × Bool) := []
  functions : List FunctionNode := []
  /-- Names declared for the whole function inside this block. -/
  passing : List String := []
  deriving Inhabited

/-- The function being read. -/
structure FunctionNames where
  /-- The blocks around, the innermost first and the body last. -/
  blocks : List BlockNames := [{}]
  parameters : List String := []
  vars : List String := []
  isAsync : Bool := false
  isStrict : Bool := false
  usesArguments : Bool := false
  allowsSuper : Bool := false
  allowsSuperCall : Bool := false
  inLoop : Bool := false
  inSwitch : Bool := false
  deriving Inhabited

/-- The state of reading. The token list starts with the current token and is never empty. -/
structure Reader where
  script : Array Char
  tokens : List Token
  /-- The end of the last token passed. -/
  stop : Nat := 0
  function : FunctionNames := {}
  deriving Inhabited

/-- A step of reading. -/
abbrev Read := EStateM ReadingFault Reader

namespace Read

/-- Repeat a step until it has a result, at most once for each token that is left. -/
def iterate {α β : Type} (step : α → Read (α ⊕ β)) : Nat → α → Read β
  | 0, _ => throw .tooDeep
  | fuel + 1, a => do
      match ← step a with
      | .inl next => iterate step fuel next
      | .inr result => pure result

/-- Repeat a step until it has a result. -/
def repeating {α β : Type} (start : α) (step : α → Read (α ⊕ β)) : Read β := do
  iterate step ((← get).tokens.length + 1) start

/-- The current token. -/
def token : Read Token := return (← get).tokens.head?.getD default

/-- The token behind the current one. -/
def nextToken : Read Token := return ((← get).tokens.drop 1).head?.getD default

/-- Fail if the current token is a fault. -/
def checkFault : Read Unit := do
  match (← token).kind with
  | .fault fault => throw fault
  | _ => pure ()

/-- Pass the current token. -/
def advance : Read Unit := do
  modify fun reader =>
    match reader.tokens with
    | current :: next :: rest => { reader with tokens := next :: rest, stop := current.stop }
    | _ => reader
  checkFault

/-- Whether the current token is a mark. -/
def isMark (mark : String) : Read Bool := do
  match (← token).kind with
  | .mark text => return text == mark
  | _ => return false

/-- Whether the current token is a word. -/
def isWord (word : String) : Read Bool := do
  match (← token).kind with
  | .name text => return text == word
  | _ => return false

/-- Pass a mark if it is the current token. -/
def passMark (mark : String) : Read Bool := do
  if ← isMark mark then
    advance
    return true
  else return false

/-- Pass a word if it is the current token. -/
def passWord (word : String) : Read Bool := do
  if ← isWord word then
    advance
    return true
  else return false

/-- Pass a mark that has to be there. -/
def expectMark (mark : String) : Read Unit := do
  unless ← passMark mark do throw (.expecting mark)

/-- Pass a word that has to be there. -/
def expectWord (word : String) : Read Unit := do
  unless ← passWord word do throw (.expecting word)

/-- Pass the end of a statement: a semicolon, or nothing before a closing brace, a line break or the
end. -/
def endStatement : Read Unit := do
  let current ← token
  match current.kind with
  | .mark ";" => advance
  | .mark "\x7d" => pure ()
  | .finish => pure ()
  | _ => unless current.afterLine do throw (.expecting ";")

/-- The text of the script between two places. -/
def textBetween (start stop : Nat) : Read Utf16 :=
  return .whole (String.ofList ((← get).script.extract start stop).toList)

/-- Fail because of the current token. -/
def unexpected {α : Type} : Read α := do
  let current ← token
  throw (.unexpectedToken (← textBetween current.start current.stop).toString)

/-- The tokens behind the bracket that closes the current one. -/
def behindBracket : List Token → Nat → List Token
  | [], _ => []
  | current :: rest, depth =>
      match current.kind with
      | .mark "(" | .mark "[" | .mark "\x7b" | .template _ true false =>
          behindBracket rest (depth + 1)
      | .mark ")" | .mark "]" | .mark "\x7d" | .template _ false true =>
          if depth ≤ 1 then rest else behindBracket rest (depth - 1)
      | _ => behindBracket rest depth

/-- Whether a semicolon stands directly in the bracket that starts at the current token. -/
def semicolonInBrackets : Read Bool := do
  let tokens := (← get).tokens
  let inside := tokens.take (tokens.length - (behindBracket tokens 0).length)
  return (inside.foldl (fun (depth, found) current =>
    match current.kind with
    | .mark "(" | .mark "[" | .mark "\x7b" | .template _ true false => (depth + 1, found)
    | .mark ")" | .mark "]" | .mark "\x7d" | .template _ false true => (depth - 1, found)
    | .mark ";" => (depth, found || depth == 1)
    | _ => (depth, found)) (0, false)).2

/-- The token behind the bracket that closes the current one. -/
def tokenBehindBracket : Read (Option Token) :=
  return (behindBracket (← get).tokens 0).head?

end Read

/-- Whether a token is a certain mark. -/
def Token.isMark (token : Token) (mark : String) : Bool :=
  match token.kind with
  | .mark text => text == mark
  | _ => false

/-- Whether a token is a certain word. -/
def Token.isWord (token : Token) (word : String) : Bool :=
  match token.kind with
  | .name text => text == word
  | _ => false

/-- The words that cannot be names. -/
def reservedWords : List String :=
  ["break", "case", "catch", "class", "const", "continue", "debugger", "default", "delete", "do",
    "else", "enum", "export", "extends", "false", "finally", "for", "function", "if", "import",
    "in", "instanceof", "new", "null", "return", "super", "switch", "this", "throw", "true", "try",
    "typeof", "var", "void", "while", "with"]

namespace Read

/-- Whether a word cannot be a name here. -/
def isReserved (word : String) : Read Bool := do
  let function := (← get).function
  return reservedWords.contains word || (function.isAsync && word == "await") ||
    (function.isStrict && (["let", "static", "yield"].contains word))

/-- Pass a name, failing with a fault if there is none. -/
def readName (fault : ReadingFault) : Read String := do
  match (← token).kind with
  | .name word =>
      if ← isReserved word then throw fault
      advance
      return word
  | _ => throw fault

/-- Change the function being read. -/
def modifyFunction (change : FunctionNames → FunctionNames) : Read Unit :=
  modify fun reader => { reader with function := change reader.function }

/-- Change the innermost block. -/
def modifyBlock (change : BlockNames → BlockNames) : Read Unit :=
  modifyFunction fun function =>
    match function.blocks with
    | block :: outer => { function with blocks := change block :: outer }
    | [] => function

/-- Read something in a block of its own. -/
def inBlock {α : Type} (read : Read α) : Read (α × BlockNames) := do
  modifyFunction fun function => { function with blocks := {} :: function.blocks }
  let result ← read
  let block := (← get).function.blocks.head?.getD {}
  modifyFunction fun function => { function with blocks := function.blocks.drop 1 }
  return (result, block)

/-- Read something as part of a loop or a switch. -/
def inConstruct {α : Type} (isLoop isSwitch : Bool) (read : Read α) : Read α := do
  let function := (← get).function
  modifyFunction fun function =>
    { function with
      inLoop := function.inLoop || isLoop
      inSwitch := function.inSwitch || isSwitch }
  let result ← read
  modifyFunction fun inner =>
    { inner with inLoop := function.inLoop, inSwitch := function.inSwitch }
  return result

/-- Declare a name for the whole function. -/
def declareVar (name : String) : Read Unit := do
  let function := (← get).function
  if function.blocks.any fun block => block.lexicals.any (·.1 == name) then
    throw .redeclaredLexical
  modifyFunction fun function =>
    { function with
      blocks := function.blocks.map fun block => { block with passing := name :: block.passing }
      vars := if function.vars.contains name then function.vars else function.vars ++ [name] }

/-- Declare a name for the innermost block. -/
def declareLexical (name : String) (isConstant : Bool) : Read Unit := do
  let function := (← get).function
  let block := function.blocks.head?.getD {}
  if block.lexicals.any (·.1 == name) then throw .redeclaredLexical
  if function.blocks.length == 1 && function.parameters.contains name then
    throw .redeclaredParameter
  if block.passing.contains name then throw .redeclaredVariable
  modifyBlock fun block => { block with lexicals := block.lexicals ++ [(name, isConstant)] }

/-- Declare a name in the way of its kind of declaration. -/
def declare (kind : DeclarationKind) (name : String) : Read Unit :=
  match kind with
  | .var => declareVar name
  | .letName => declareLexical name false
  | .constName => declareLexical name true

/-- Declare a function: in the body of a function for all of it, in a block for the block, where a
script that is not strict may declare it again and sees it outside too. -/
def declareFunction (node : FunctionNode) : Read Unit := do
  let function := (← get).function
  let block := function.blocks.head?.getD {}
  if function.blocks.length == 1 then declareVar node.name
  else
    let isAgain := block.functions.any (·.name == node.name)
    unless isAgain && !function.isStrict do declareLexical node.name false
    let isHidden := (function.blocks.drop 1).any fun outer => outer.lexicals.any (·.1 == node.name)
    unless function.isStrict || isHidden || function.vars.contains node.name do
      modifyFunction fun function => { function with vars := function.vars ++ [node.name] }
  modifyBlock fun block => { block with functions := block.functions ++ [node] }

/-- Read something as a function of its own, and give the names found in it. -/
def inFunction {α : Type} (start : FunctionNames) (read : Read α) : Read (α × FunctionNames) := do
  let outer := (← get).function
  modifyFunction fun _ => start
  let result ← read
  let inner := (← get).function
  modifyFunction fun _ => outer
  return (result, inner)

end Read

end BotBench.Script
