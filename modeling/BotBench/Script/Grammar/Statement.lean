import BotBench.Script.Grammar.Expression

/-! # The grammar of statements

Statements, and the programs made of them. The text of a program is read as the body of a function
whose parameters are the names that the host provides. -/

namespace BotBench.Script

namespace Grammar

open Read

variable (inner : Grammar)

/-- Read the statements of a block between braces, with the names that it declares. -/
def block : Read Block := do
  expectMark "\x7b"
  let (statements, names) ← inBlock (statements inner)
  return { lexicals := names.lexicals, functions := names.functions, statements }

/-- Read a name or a pattern that a declaration binds, if what is ahead is fit to be a pattern. -/
def boundPattern (kind : DeclarationKind) (isPattern : Read Bool) : Read Pattern := do
  match (← token).kind with
  | .name _ =>
      let name ← readName .variableNameExpected
      if name == "let" && kind != .var then throw .letAsLexicalName
      declare kind name
      return .name name
  | _ => if ← isPattern then inner.pattern (some (declare kind)) else throw .variableNameExpected

/-- Read the bindings of a declaration behind its word. Outside the head of a loop, a constant needs
a value and so does a pattern. -/
def bindings (kind : DeclarationKind) (allowIn : Bool) : Read (List Part) :=
  repeating ([] : List Part) fun known => do
    let pattern ← boundPattern inner kind (patternAhead (·.isMark "="))
    let value ←
      if ← passMark "=" then pure (some (pattern.nameFor (← inner.assignment allowIn)))
      else
        if kind == .constName then throw .constantWithoutValue
        pure none
    let known := { pattern, value } :: known
    if ← passMark "," then return .inl known else return .inr known.reverse

/-- The kind of declaration that a word starts. `let` starts one only before a name or a pattern. -/
def declarationAhead : Read (Option DeclarationKind) := do
  match (← token).kind with
  | .name "var" => return some .var
  | .name "const" => return some .constName
  | .name "let" =>
      match (← nextToken).kind with
      | .name word =>
          if ["in", "of", "instanceof"].contains word then return none else return some .letName
      | .mark "[" | .mark "\x7b" => return some .letName
      | _ => return none
  | _ => return none

/-- Read the subject and the body of a loop over items (`of`) or names (`in`). -/
def forEachRest (kind : Option DeclarationKind) (target : Pattern) : Read Stmt := do
  let isOf ← isWord "of"
  unless isOf || (← isWord "in") do throw .loopWordExpected
  advance
  let subject ← if isOf then inner.assignment true else inner.expression true
  expectMark ")"
  let body ← inConstruct true false (inner.statement false)
  return .forEach isOf kind [] target subject body

/-- Read the rest of a counting loop behind its start. -/
def forRest (start : Stmt) : Read Stmt := do
  expectMark ";"
  let test ← if ← isMark ";" then pure none else pure (some (← inner.expression true))
  expectMark ";"
  let update ← if ← isMark ")" then pure none else pure (some (← inner.expression true))
  expectMark ")"
  let body ← inConstruct true false (inner.statement false)
  return .forLoop [] start test update body

/-- Read the rest of a loop whose start is a declaration. -/
def forDeclaration (kind : DeclarationKind) (counts : Bool) : Read Stmt := do
  advance
  if counts then forRest inner (.declare kind (← bindings inner kind false))
  else
    let pattern ← boundPattern inner kind (return (← isMark "[") || (← isMark "\x7b"))
    forEachRest inner (some kind) pattern

/-- Read a loop behind `for`. -/
def forStatement : Read Stmt := do
  advance
  let counts ← semicolonInBrackets
  expectMark "("
  let (loop, names) ← inBlock do
    if let some kind ← declarationAhead then forDeclaration inner kind counts
    else if counts then
      if ← isMark ";" then forRest inner .empty
      else forRest inner (.expression (← inner.expression false))
    else if ← patternAhead (fun behind => behind.isWord "of" || behind.isWord "in") then
      forEachRest inner none (← inner.pattern none)
    else
      match placeOf? (← chainExpression inner) with
      | some place => forEachRest inner none place
      | none => throw .badLoopTarget
  let names := names.lexicals.map (·.1)
  match loop with
  | .forLoop _ start test update body => return .forLoop names start test update body
  | .forEach isOf kind _ target subject body =>
      return .forEach isOf kind names target subject body
  | loop => return loop

/-- Read the statements of a switch, with the labels among them, up to the closing brace. -/
def switchStatements : Read (List Stmt) := do
  unless (← isMark "\x7d") || (← isWord "case") || (← isWord "default") do throw .badSwitch
  repeating ([] : List Stmt) fun known => do
    if ← passMark "\x7d" then return .inr known.reverse
    else if ← passWord "case" then
      let value ← inner.expression true
      expectMark ":"
      return .inl (.label (some value) :: known)
    else if ← passWord "default" then
      expectMark ":"
      return .inl (.label none :: known)
    else return .inl ((← inner.statement true) :: known)

/-- Read a switch behind its word. -/
def switchStatement : Read Stmt := do
  advance
  expectMark "("
  let subject ← inner.expression true
  expectMark ")"
  expectMark "\x7b"
  let (statements, names) ← inBlock (inConstruct false true (switchStatements inner))
  return .switch subject { lexicals := names.lexicals, functions := names.functions, statements }

/-- Read what is done with a thrown value, behind `catch`: the pattern that it goes to, its names,
and the block. -/
def handler : Read (Pattern × List String × Block) := do
  let ((parameter, block), names) ← inBlock do
    let parameter ←
      if ← isMark "\x7b" then pure .nothing
      else
        expectMark "("
        let pattern ← match (← token).kind with
          | .mark "[" | .mark "\x7b" => inner.pattern (some fun name => declareLexical name false)
          | _ =>
              let name ← readName .caughtNameExpected
              declareLexical name false
              pure (.name name)
        expectMark ")"
        pure pattern
    return (parameter, ← block inner)
  return (parameter, names.lexicals.map (·.1), block)

/-- Read an attempt behind its word. -/
def attemptStatement : Read Stmt := do
  advance
  let body ← block inner
  let (parameter, names, caught) ←
    if ← passWord "catch" then do
      let (parameter, names, block) ← handler inner
      pure (parameter, names, some block)
    else pure (.nothing, [], none)
  let finalizer ← if ← passWord "finally" then pure (some (← block inner)) else pure none
  if caught.isNone && finalizer.isNone then throw .handlerExpected
  return .attempt body parameter names caught finalizer

/-- Read a declared function from its word. -/
def functionDeclaration (isAsync : Bool) (start : Nat) : Read Stmt := do
  advance
  let name ← readName .functionNameExpected
  let node := nodeOf (← functionRest inner name false .plain isAsync start)
  declareFunction node
  return .empty

/-- Read the condition in parentheses behind a word. -/
def condition : Read Expr := do
  expectMark "("
  let e ← inner.expression true
  expectMark ")"
  return e

/-- Read a statement that a word starts, if it does. -/
def wordStatement? (allowLexical : Bool) (word : String) : Read (Option Stmt) := do
  let current ← token
  match word with
  | "if" =>
      advance
      let test ← condition inner
      let whenTrue ← inner.statement false
      let whenFalse ← if ← passWord "else" then inner.statement false else pure .empty
      return some (.ifElse test whenTrue whenFalse)
  | "for" => return some (← forStatement inner)
  | "while" =>
      advance
      let test ← condition inner
      return some (.whileLoop test (← inConstruct true false (inner.statement false)))
  | "do" =>
      advance
      let body ← inConstruct true false (inner.statement false)
      expectWord "while"
      let test ← condition inner
      if ← isMark ";" then advance
      return some (.doWhile body test)
  | "switch" => return some (← switchStatement inner)
  | "try" => return some (← attemptStatement inner)
  | "throw" =>
      advance
      if (← token).afterLine then throw .lineBreakAfterThrow
      let e ← inner.expression true
      endStatement
      return some (.throw e)
  | "return" =>
      advance
      let next ← token
      let ends ← isMark ";" <||> isMark "\x7d" <||> pure next.afterLine
      let e ← if ends then pure none else pure (some (← inner.expression true))
      endStatement
      return some (.return e)
  | "break" =>
      unless (← get).function.inLoop || (← get).function.inSwitch do throw .breakOutside
      advance
      endStatement
      return some .break
  | "continue" =>
      unless (← get).function.inLoop do throw .continueOutside
      advance
      endStatement
      return some .continue
  | "debugger" =>
      advance
      endStatement
      return some .empty
  | "function" => return some (← functionDeclaration inner false current.start)
  | "class" =>
      unless allowLexical do throw .lexicalNotAllowed
      advance
      let name ← readName .classNameExpected
      declareLexical name false
      return some (.declareClass (← classRest inner name current.start))
  | "async" =>
      let next ← nextToken
      if next.isWord "function" && !next.afterLine then
        advance
        return some (← functionDeclaration inner true current.start)
      else return none
  | _ => return none

/-- Read a declaration of names, from its word. -/
def declaration (allowLexical : Bool) (kind : DeclarationKind) : Read Stmt := do
  if kind != .var && !allowLexical then throw .lexicalNotAllowed
  advance
  let bindings ← bindings inner kind true
  endStatement
  return .declare kind bindings

/-- Read a statement; whether it may declare names for the block around it. -/
def statementLevel (allowLexical : Bool) : Read Stmt := do
  if ← isMark "\x7b" then return .block (← block inner)
  if ← passMark ";" then return .empty
  if let some kind ← declarationAhead then return ← declaration inner allowLexical kind
  if let .name word := (← token).kind then
    if let some statement ← wordStatement? inner allowLexical word then return statement
    if (← nextToken).isMark ":" && !(← isReserved word) then
      advance
      advance
      return ← inner.statement allowLexical
  let e ← inner.expression true
  endStatement
  return .expression e

/-- The grammar whose nested parts are read by another. -/
def next : Grammar where
  assignment := assignmentLevel inner
  operand := operandLevel inner
  statement := statementLevel inner
  pattern := patternLevel inner

/-- The grammar of scripts that are nested up to a depth. -/
def ofDepth : Nat → Grammar
  | 0 => exhausted
  | depth + 1 => (ofDepth depth).next

/-- The grammar of scripts. -/
def standard : Grammar := ofDepth 1000

end Grammar

/-- Read the text of a function, as a function without a name. -/
def FunctionNode.read (text : String) : Except ReadingFault FunctionNode :=
  let chars := text.toList
  let reader : Reader := { script := chars.toArray, tokens := tokensOf chars }
  let read : Read Expr := do
    Read.checkFault
    let e ← Grammar.standard.expression true
    match (← Read.token).kind with
    | .finish => return e
    | _ => Read.unexpected
  match read.run reader with
  | .ok e _ => .ok (Grammar.nodeOf e)
  | .error fault _ => .error fault

/-- The text of a function with the given parameters and body. -/
def functionText (parameters : List String) (body : String) : String :=
  "(function anonymous(" ++ String.intercalate "," parameters ++ "\n) \x7b\n" ++ body ++ "\n\x7d)"

/-- Read a program as the body of a function with the given parameters. -/
def FunctionNode.ofProgram (parameters : List String) (body : String) :
    Except ReadingFault FunctionNode :=
  FunctionNode.read (functionText parameters body)

end BotBench.Script
