import BotBench.Text.Utf16

/-! # Programs of the script language

The parts of a script once it is read: expressions, patterns, statements, functions and classes.
Names declared in a block or a function are listed with it, so that running a block starts by making
its names. -/

namespace BotBench.Script

open Text

/-- An operator with one operand that is a value. -/
inductive UnaryOperator
  | minus
  | plus
  | negation
  | complement
  | discard
  deriving DecidableEq, Repr, Inhabited

/-- An operator with two operands that are values. -/
inductive BinaryOperator
  | add
  | subtract
  | multiply
  | divide
  | remainder
  | power
  | bitAnd
  | bitOr
  | bitXor
  | shiftLeft
  | shiftRight
  | shiftRightZero
  | less
  | lessEqual
  | greater
  | greaterEqual
  | equal
  | notEqual
  | same
  | notSame
  | hasKey
  | instanceOf
  deriving DecidableEq, Repr, Inhabited

/-- An operator whose second operand may be left out. -/
inductive ShortCircuit
  | and
  | or
  | coalesce
  deriving DecidableEq, Repr, Inhabited

/-- How a function is written, which decides what it can do: arrows take `this` from outside,
methods and accessors cannot construct, constructors belong to a class. -/
inductive Flavour
  | arrow
  | plain
  | method
  | constructor (derived : Bool)
  deriving DecidableEq, Repr, Inhabited

/-- What a declaration declares. -/
inductive DeclarationKind
  | var
  | letName
  | constName
  deriving DecidableEq, Repr, Inhabited

/-- Whether a method of a class or an object is called, read or written. -/
inductive MethodRole
  | call
  | read
  | write
  deriving DecidableEq, Repr, Inhabited

mutual

/-- An expression. -/
inductive Expr
  | number (x : Float)
  | text (t : Utf16)
  | bool (b : Bool)
  | null
  | name (name : String)
  | newTarget
  /-- A text made of the texts of its parts. -/
  | template (parts : List Item)
  | array (items : List Item)
  | record (fields : List Field)
  | function (node : FunctionNode)
  | classOf (node : ClassNode)
  | unary (operator : UnaryOperator) (operand : Expr)
  | typeOf (operand : Expr)
  | delete (operand : Expr)
  | update (increment before : Bool) (place : Expr)
  | binary (operator : BinaryOperator) (left right : Expr)
  | logical (operator : ShortCircuit) (left right : Expr)
  | conditional (test whenTrue whenFalse : Expr)
  | assign (target : Pattern) (value : Expr)
  | assignBinary (operator : BinaryOperator) (place value : Expr)
  | assignLogical (operator : ShortCircuit) (place value : Expr)
  /-- A property. An optional one is left out, with the rest of its chain, when the object is
  missing. -/
  | member (object : Expr) (key : PropertyName) (isOptional : Bool)
  | superMember (key : PropertyName)
  | call (callee : Expr) (arguments : List Item) (isOptional : Bool)
  | superCall (arguments : List Item)
  | construct (callee : Expr) (arguments : List Item)
  /-- The whole of a chain with optional links. -/
  | chain (whole : Expr)
  | sequence (first second : Expr)
  | await (operand : Expr)

/-- An item of an array or of arguments. -/
inductive Item
  | hole
  | value (e : Expr)
  | spread (e : Expr)

/-- The name of a property, written out or computed. -/
inductive PropertyName
  | fixed (name : Utf16)
  | computed (e : Expr)

/-- A field of an object. -/
inductive Field
  | value (key : PropertyName) (e : Expr)
  | method (role : MethodRole) (key : PropertyName) (node : FunctionNode)
  | ancestor (e : Expr)
  | spread (e : Expr)

/-- Where values go: nowhere, to a name, to another place, or taken apart to several. -/
inductive Pattern
  | nothing
  | name (name : String)
  | place (e : Expr)
  | array (parts : List Part) (rest : Pattern)
  | record (parts : List (PropertyName × Part)) (rest : Pattern)

/-- A pattern with the value that it is given, or that stands in for a missing one. -/
structure Part where
  pattern : Pattern
  value : Option Expr

/-- A function as written. -/
structure FunctionNode where
  name : String
  /-- Whether the function can call itself by its name. -/
  isNamedInside : Bool
  flavour : Flavour
  isAsync : Bool
  isStrict : Bool
  usesArguments : Bool
  parameters : List Part
  /-- Where the arguments behind the parameters go. -/
  rest : Pattern
  /-- The names of the parameters. -/
  parameterNames : List String
  /-- The names that the body declares for the whole function. -/
  vars : List String
  body : Block
  source : Utf16

/-- A class as written. -/
structure ClassNode where
  name : String
  heritage : Option Expr
  constructor : FunctionNode
  members : List ClassMember
  source : Utf16

/-- A member of a class. The value of a field is a function without parameters, so that it is
computed anew for each instance. -/
inductive ClassMember
  | method (isStatic : Bool) (role : MethodRole) (key : PropertyName) (node : FunctionNode)
  | field (isStatic : Bool) (key : PropertyName) (node : FunctionNode)

/-- A statement. -/
inductive Stmt
  | empty
  | expression (e : Expr)
  | declare (kind : DeclarationKind) (bindings : List Part)
  | declareClass (node : ClassNode)
  | block (block : Block)
  | ifElse (test : Expr) (whenTrue whenFalse : Stmt)
  /-- A counting loop, with the names that its start declares for each round. -/
  | forLoop (names : List String) (start : Stmt) (test update : Option Expr) (body : Stmt)
  /-- A loop over the items of a value (`isOf`) or over the names of its properties. -/
  | forEach (isOf : Bool) (kind : Option DeclarationKind) (names : List String) (target : Pattern)
      (subject : Expr) (body : Stmt)
  | whileLoop (test : Expr) (body : Stmt)
  | doWhile (body : Stmt) (test : Expr)
  /-- A choice among the statements of a block, at the labels in it. -/
  | switch (subject : Expr) (block : Block)
  /-- Where a choice starts for a value, or for all other values. -/
  | label (value : Option Expr)
  /-- An attempt, with what is done with a thrown value, which goes to a pattern with some names,
  and with what is done in any case. -/
  | attempt (body : Block) (parameter : Pattern) (names : List String)
      (handler finalizer : Option Block)
  | throw (e : Expr)
  | return (e : Option Expr)
  | break
  | continue

/-- Statements with the names declared for them: names that cannot be read before their declaration
is reached, each with whether it is constant, and functions that are there from the start. -/
structure Block where
  lexicals : List (String × Bool)
  functions : List FunctionNode
  statements : List Stmt

end

instance : Inhabited Expr := ⟨.null⟩
instance : Inhabited Stmt := ⟨.empty⟩
instance : Inhabited Pattern := ⟨.nothing⟩
instance : Inhabited Block := ⟨⟨[], [], []⟩⟩
instance : Inhabited FunctionNode :=
  ⟨⟨"", false, .plain, false, false, false, [], .nothing, [], [], default, .whole ""⟩⟩
instance : Inhabited ClassNode := ⟨⟨"", none, default, [], .whole ""⟩⟩

/-- The body of a function that gives the value of an expression. -/
def Block.ofValue (e : Expr) : Block := ⟨[], [], [.return (some e)]⟩

/-- The constructor of a class that is written without one: it does nothing, or hands its arguments
on to the class above. -/
def FunctionNode.defaultConstructor (derived : Bool) : FunctionNode :=
  let statements : List Stmt :=
    if derived then [.expression (.superCall [.spread (.name "args")])] else []
  { (default : FunctionNode) with
    flavour := .constructor derived
    rest := if derived then .name "args" else .nothing
    parameterNames := if derived then ["args"] else []
    body := ⟨[], [], statements⟩ }

namespace Expr

/-- `this`. -/
def self : Expr := .name "this"

/-- `undefined` as a literal. -/
def missing : Expr := .unary .discard (.number 0)

end Expr

/-- A name that a value gets from where it stands, if it is a function or a class without a name. -/
def Expr.named (name : String) : Expr → Expr
  | .function node => if node.name.isEmpty then .function { node with name } else .function node
  | .classOf node => if node.name.isEmpty then .classOf { node with name } else .classOf node
  | e => e

/-- A value with the name that it gets from the pattern that it goes to. -/
def Pattern.nameFor (pattern : Pattern) (e : Expr) : Expr :=
  match pattern with
  | .name word => e.named word
  | _ => e

end BotBench.Script
