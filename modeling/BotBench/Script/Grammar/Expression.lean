import BotBench.Script.Reader

/-! # The grammar of expressions

What is nested in a script is read one level deeper: a `Grammar` holds the readers of one level, and
each reader of the next level is made from them. The levels are tied together in `Grammar.ofDepth`.
-/

namespace BotBench.Script

/-- The readers of what can be nested. -/
structure Grammar where
  /-- An expression without commas; whether `in` may be an operator. -/
  assignment : Bool → Read Expr
  /-- An operand with the operators before it; whether it may be the base of a power. -/
  operand : Bool → Read Expr
  statement : Bool → Read Stmt
  /-- A pattern, and what to do with each name in it; without it the parts are places. -/
  pattern : Option (String → Read Unit) → Read Pattern

/-- The grammar in which nothing can be nested any more. -/
def Grammar.exhausted : Grammar where
  assignment _ := throw .tooDeep
  operand _ := throw .tooDeep
  statement _ := throw .tooDeep
  pattern _ := throw .tooDeep

namespace Grammar

open Read

variable (inner : Grammar)

/-- Read an expression, its parts separated by commas. -/
def expression (allowIn : Bool) : Read Expr := do
  let first ← inner.assignment allowIn
  repeating first fun first => do
    if ← passMark "," then return .inl (.sequence first (← inner.assignment allowIn))
    else return .inr first

/-- Read the name of a property. -/
def propertyName : Read PropertyName := do
  match (← token).kind with
  | .name word => advance; return .fixed word
  | .privateName word => advance; return .fixed word
  | .text t => advance; return .fixed t
  | .number x => advance; return .fixed (numberText x)
  | .mark "[" =>
      advance
      let e ← inner.expression true
      expectMark "]"
      return .computed e
  | _ => throw .propertyNameExpected

/-- Read a part of a pattern and the value that stands in for it. -/
def part (declares : Option (String → Read Unit)) : Read Part := do
  let pattern ← inner.pattern declares
  if ← passMark "=" then
    return { pattern, value := some (pattern.nameFor (← inner.assignment true)) }
  else return { pattern, value := none }

/-- The place that an expression is, if it is one. -/
def placeOf? : Expr → Option Pattern
  | .name name => if name == "this" then none else some (.name name)
  | .member object key false => some (.place (.member object key false))
  | .superMember key => some (.place (.superMember key))
  | _ => none

/-- Read a pattern of a list. -/
def arrayPattern (declares : Option (String → Read Unit)) : Read Pattern := do
  advance
  repeating ([] : List Part) fun parts => do
    if ← passMark "]" then return .inr (.array parts.reverse .nothing)
    else if ← passMark "," then return .inl ({ pattern := .nothing, value := none } :: parts)
    else if ← passMark "..." then
      let rest ← inner.pattern declares
      expectMark "]"
      return .inr (.array parts.reverse rest)
    else
      let next ← part inner declares
      unless ← isMark "]" do expectMark ","
      return .inl (next :: parts)

/-- Read a field of a pattern of an object. -/
def patternField (declares : Option (String → Read Unit)) : Read (PropertyName × Part) := do
  let start ← token
  let key ← propertyName inner
  if ← passMark ":" then return (key, ← part inner declares)
  else
    match start.kind with
    | .name word =>
        if ← isReserved word then throw (.reservedName word)
        if let some declare := declares then declare word
        if ← passMark "=" then
          let value ← inner.assignment true
          return (key, { pattern := .name word, value := some (value.named word) })
        else return (key, { pattern := .name word, value := none })
    | _ => throw (.expecting ":")

/-- Read a pattern of an object. -/
def recordPattern (declares : Option (String → Read Unit)) : Read Pattern := do
  advance
  repeating ([] : List (PropertyName × Part)) fun parts => do
    if ← passMark "\x7d" then return .inr (.record parts.reverse .nothing)
    else if ← passMark "..." then
      let rest ← inner.pattern declares
      expectMark "\x7d"
      return .inr (.record parts.reverse rest)
    else
      let next ← patternField inner declares
      unless ← isMark "\x7d" do expectMark ","
      return .inl (next :: parts)

/-- Read the parameters of a function up to the closing parenthesis. -/
def parameters : Read (List Part × Pattern) := do
  let declareParameter (name : String) : Read Unit :=
    modifyFunction fun function => { function with parameters := function.parameters ++ [name] }
  let checkStart : Read Unit := do
    let isStart ← match (← token).kind with
      | .name word => pure !(← isReserved word)
      | .mark mark => pure (mark == "[" || mark == "\x7b")
      | _ => pure false
    unless isStart do throw .parameterExpected
  expectMark "("
  repeating ([] : List Part) fun parts => do
    if ← passMark ")" then return .inr (parts.reverse, .nothing)
    else if ← passMark "..." then
      checkStart
      let rest ← inner.pattern (some declareParameter)
      expectMark ")"
      return .inr (parts.reverse, rest)
    else
      checkStart
      let next ← part inner (some declareParameter)
      unless ← isMark ")" do expectMark ","
      return .inl (next :: parts)

/-- Read statements up to a closing brace, and pass it. -/
def statements : Read (List Stmt) :=
  repeating ([] : List Stmt) fun known => do
    if ← passMark "\x7d" then return .inr known.reverse
    else return .inl ((← inner.statement true) :: known)

/-- Read the statements of a body between braces, with the names that it declares. -/
def bodyBlock : Read Block := do
  expectMark "\x7b"
  match (← token).kind with
  | .text (.whole "use strict") =>
      modifyFunction fun function => { function with isStrict := true }
  | _ => pure ()
  let statements ← statements inner
  let names := (← get).function.blocks.head?.getD {}
  return { lexicals := names.lexicals, functions := names.functions, statements }

/-- Read the parameters and the body of a function that starts at a place of the script. -/
def functionRest (name : String) (isNamedInside : Bool) (flavour : Flavour) (isAsync : Bool)
    (start : Nat) : Read Expr := do
  let outer := (← get).function
  let names : FunctionNames :=
    { isAsync
      isStrict := outer.isStrict
      allowsSuper := match flavour with
        | .plain => false
        | .arrow => outer.allowsSuper
        | _ => true
      allowsSuperCall := match flavour with
        | .arrow => outer.allowsSuperCall
        | .constructor isDerived => isDerived
        | _ => false }
  let ((parameters, rest, body), found) ← inFunction names do
    let (parameters, rest) ←
      if flavour != .arrow || (← isMark "(") then parameters inner
      else
        let name ← readName .parameterExpected
        modifyFunction fun function => { function with parameters := [name] }
        pure ([{ pattern := .name name, value := none }], .nothing)
    if flavour == .arrow then expectMark "=>"
    if flavour == .arrow && !(← isMark "\x7b") then
      return (parameters, rest, Block.ofValue (← inner.assignment true))
    else return (parameters, rest, ← bodyBlock inner)
  if flavour == .arrow && found.usesArguments then
    modifyFunction fun function => { function with usesArguments := true }
  let source ← textBetween start (← get).stop
  return .function
    { name, isNamedInside, flavour, isAsync
      isStrict := found.isStrict
      usesArguments := found.usesArguments && flavour != .arrow
      parameters, rest
      parameterNames := found.parameters
      vars := found.vars.filter fun name => !found.parameters.contains name
      body, source }

/-- The function of an expression that is one. -/
def nodeOf : Expr → FunctionNode
  | .function node => node
  | _ => default

/-- Read a method behind its name. -/
def methodRest (key : PropertyName) (role : MethodRole) (flavour : Flavour) (isAsync : Bool)
    (start : Nat) : Read FunctionNode := do
  let name :=
    match key with
    | .fixed name =>
        match role with
        | .call => name.toString
        | .read => "get " ++ name.toString
        | .write => "set " ++ name.toString
    | .computed _ => ""
  return nodeOf (← functionRest inner name false flavour isAsync start)

/-- Whether the current token ends a property name, so that a word before it was the name. -/
def endsName : Read Bool := do
  match (← token).kind with
  | .mark mark => return ["(", ",", ":", "\x7d", "=", ";"].contains mark
  | .finish => return true
  | _ => return false

/-- Read the words before a method's name: whether it is asynchronous, its role, and the name that a
word turned out to be. -/
def methodWords : Read (Bool × MethodRole × Option String) := do
  match (← token).kind with
  | .name word =>
      if word == "async" || word == "get" || word == "set" then
        advance
        if ← endsName then return (false, .call, some word)
        else if word == "async" then return (true, .call, none)
        else return (false, if word == "get" then .read else .write, none)
      else return (false, .call, none)
  | _ => return (false, .call, none)

/-- Read a field of an object. -/
def field : Read Field := do
  let start ← token
  if ← passMark "..." then return .spread (← inner.assignment true)
  let (isAsync, role, word) ← methodWords
  let named := (← token).kind
  let key ← match word with
    | some word => pure (PropertyName.fixed word)
    | none => propertyName inner
  if (← isMark "(") || isAsync || role != .call then
    return .method role key (← methodRest inner key role .method isAsync start.start)
  else if ← passMark ":" then
    let e ← inner.assignment true
    match key with
    | .fixed (.whole "__proto__") => return .ancestor e
    | .fixed name => return .value key (e.named name.toString)
    | .computed _ => return .value key e
  else
    let word? := match word, named with
      | some word, _ => some word
      | none, .name word => some word
      | none, _ => none
    match word? with
    | some word =>
        if ← isReserved word then throw (.expecting ":")
        if word == "arguments" then
          modifyFunction fun function => { function with usesArguments := true }
        return .value key (.name word)
    | none => throw (.expecting ":")

/-- Read the items of an array or of arguments up to a closing mark, and pass it. -/
def items (close : String) (allowHoles : Bool) : Read (List Item) :=
  repeating ([] : List Item) fun known => do
    if ← passMark close then return .inr known.reverse
    else if ← (if allowHoles then passMark "," else pure false) then return .inl (.hole :: known)
    else
      let item ←
        if ← passMark "..." then pure (.spread (← inner.assignment true))
        else pure (.value (← inner.assignment true))
      unless ← isMark close do
        unless ← passMark "," do throw (.expecting (if allowHoles then close else ","))
      return .inl (item :: known)

/-- Read an object. -/
def recordLiteral : Read Expr := do
  advance
  repeating ([] : List Field) fun known => do
    if ← passMark "\x7d" then return .inr (.record known.reverse)
    else
      let next ← field inner
      unless ← passMark "," do
        unless ← isMark "\x7d" do throw (.expecting "\x7d")
      return .inl (next :: known)

/-- Read the rest of a template whose first piece is the current token. -/
def templateLiteral (head : Text.Utf16) (closes : Bool) : Read Expr := do
  advance
  if closes then return .template [.value (.text head)]
  repeating ([.value (.text head)] : List Item) fun known => do
    let e ← inner.expression true
    match (← token).kind with
    | .template piece false closes =>
        advance
        let known := .value (.text piece) :: .value e :: known
        if closes then return .inr (.template known.reverse) else return .inl known
    | _ => throw .templateUnclosed

/-- Read the value of a class field, as a function of its own. -/
def fieldValue (key : PropertyName) : Read FunctionNode := do
  let start := (← token).start
  let (e, found) ← inFunction { isStrict := true, allowsSuper := true } do
    if ← passMark "=" then inner.assignment true else pure .missing
  let e := match key with
    | .fixed name => e.named name.toString
    | .computed _ => e
  return { (default : FunctionNode) with
    flavour := .method
    isStrict := true
    vars := found.vars
    body := .ofValue e
    source := ← textBetween start (← get).stop }

/-- The members of a class read so far. -/
structure ClassMembers where
  constructor : Option FunctionNode := none
  members : List ClassMember := []

/-- Whether a name is that of a constructor. -/
def isConstructorName : PropertyName → Bool
  | .fixed (.whole "constructor") => true
  | _ => false

/-- Read a member of a class. -/
def classMember (derived : Bool) (known : ClassMembers) : Read ClassMembers := do
  let start := (← token).start
  let isStaticWord ← isWord "static"
  if isStaticWord then advance
  let isName ← endsName
  let isStatic := isStaticWord && !isName
  let (isAsync, role, word) ←
    if isStaticWord && isName then pure (false, MethodRole.call, some "static") else methodWords
  let key ← match word with
    | some word => pure (PropertyName.fixed word)
    | none => propertyName inner
  if (← isMark "(") || isAsync || role != .call then
    if !isStatic && role == .call && isConstructorName key then
      if known.constructor.isSome then throw .duplicateConstructor
      let node ← methodRest inner key role (.constructor derived) false start
      return { known with constructor := some node }
    else
      let node ← methodRest inner key role .method isAsync start
      return { known with members := .method isStatic role key node :: known.members }
  else
    let value ← fieldValue inner key
    endStatement
    return { known with members := .field isStatic key value :: known.members }

/-- Read a class behind its word, its name being read already. -/
def classRest (name : String) (start : Nat) : Read ClassNode := do
  let outerStrict := (← get).function.isStrict
  modifyFunction fun function => { function with isStrict := true }
  let heritage ← if ← passWord "extends" then pure (some (← inner.operand false)) else pure none
  expectMark "\x7b"
  let known ← repeating ({} : ClassMembers) fun known => do
    if ← passMark "\x7d" then return .inr known
    else if ← passMark ";" then return .inl known
    else return .inl (← classMember inner heritage.isSome known)
  modifyFunction fun function => { function with isStrict := outerStrict }
  return {
    name, heritage
    constructor := known.constructor.getD (.defaultConstructor heritage.isSome)
    members := known.members.reverse
    source := ← textBetween start (← get).stop }

/-- Read a class as an expression. -/
def classExpression : Read Expr := do
  let start := (← token).start
  advance
  let name ←
    if (← isWord "extends") || (← isMark "\x7b") then pure ""
    else readName .classNameExpected
  return .classOf (← classRest inner name start)

/-- Read a function as an expression, from its first word. -/
def functionExpression (isAsync : Bool) (start : Nat) : Read Expr := do
  advance
  if ← isMark "(" then functionRest inner "" false .plain isAsync start
  else
    let name ← readName (.expecting "(")
    functionRest inner name true .plain isAsync start

/-- Read `super` and what follows it. -/
def superExpression : Read Expr := do
  advance
  let function := (← get).function
  if ← passMark "(" then
    unless function.allowsSuperCall do throw .superCallOutside
    return .superCall (← items inner ")" false)
  else if ← passMark "." then
    unless function.allowsSuper do throw .superOutside
    match (← token).kind with
    | .name word => advance; return .superMember (.fixed word)
    | _ => throw .fieldNameExpected
  else if ← passMark "[" then
    unless function.allowsSuper do throw .superOutside
    let e ← inner.expression true
    expectMark "]"
    return .superMember (.computed e)
  else throw .superAlone

/-- Read what an expression starts with at a word. -/
def wordExpression (word : String) : Read Expr := do
  let current ← token
  match word with
  | "function" => functionExpression inner false current.start
  | "class" => classExpression inner
  | "this" => advance; return .self
  | "null" => advance; return .null
  | "true" => advance; return .bool true
  | "false" => advance; return .bool false
  | "super" => superExpression inner
  | "import" => advance; expectMark "("; unexpected
  | _ =>
      if ← isReserved word then unexpected
      let next ← nextToken
      if word == "async" && next.isWord "function" && !next.afterLine then
        advance
        functionExpression inner true current.start
      else
        if word == "arguments" then
          modifyFunction fun function => { function with usesArguments := true }
        advance
        return .name word

/-- Read what an expression starts with. -/
def primary : Read Expr := do
  match (← token).kind with
  | .number x => advance; return .number x
  | .text t => advance; return .text t
  | .template head true closes => templateLiteral inner head closes
  | .mark "(" =>
      advance
      let e ← inner.expression true
      expectMark ")"
      return e
  | .mark "[" => advance; return .array (← items inner "]" true)
  | .mark "\x7b" => recordLiteral inner
  | .name word => wordExpression inner word
  | _ => unexpected

/-- Read the name of a property behind a point. -/
def memberName : Read PropertyName := do
  match (← token).kind with
  | .name word => advance; return .fixed word
  | .privateName word => advance; return .fixed word
  | _ => throw .fieldNameExpected

/-- Read a chain of properties, without calls, behind its start. -/
def memberChain (start : Expr) : Read Expr :=
  repeating start fun e => do
    if ← passMark "." then return .inl (.member e (← memberName) false)
    else if ← passMark "[" then
      let key ← inner.expression true
      expectMark "]"
      return .inl (.member e (.computed key) false)
    else return .inr e

/-- Read `new` and what it constructs; nested ones are read from inside. -/
def constructExpression : Nat → Read Expr
  | 0 => throw .tooDeep
  | fuel + 1 => do
      advance
      if ← passMark "." then
        expectWord "target"
        return .newTarget
      let callee ← if ← isWord "new" then constructExpression fuel else primary inner
      let callee ← memberChain inner callee
      if ← passMark "(" then return .construct callee (← items inner ")" false)
      else return .construct callee []

/-- Read a chain of properties and calls. -/
def chainExpression : Read Expr := do
  let start ←
    if ← isWord "new" then constructExpression inner ((← get).tokens.length + 1)
    else primary inner
  let (e, hasOptional) ← repeating (start, false) fun (e, hasOptional) => do
    if ← passMark "." then return .inl (.member e (← memberName) false, hasOptional)
    else if ← passMark "?." then
      if ← passMark "(" then return .inl (.call e (← items inner ")" false) true, true)
      else if ← passMark "[" then
        let key ← inner.expression true
        expectMark "]"
        return .inl (.member e (.computed key) true, true)
      else return .inl (.member e (← memberName) true, true)
    else if ← passMark "[" then
      let key ← inner.expression true
      expectMark "]"
      return .inl (.member e (.computed key) false, hasOptional)
    else if ← passMark "(" then return .inl (.call e (← items inner ")" false) false, hasOptional)
    else return .inr (e, hasOptional)
  return if hasOptional then .chain e else e

/-- The place that an update changes. -/
def updatedPlace (e : Expr) : Read Expr := do
  if (placeOf? e).isSome then return e else throw .badUpdateOperand

/-- Read an operand with an update behind it. -/
def updatedOperand : Read Expr := do
  let e ← chainExpression inner
  let current ← token
  if current.afterLine then return e
  else if ← passMark "++" then return .update true false (← updatedPlace e)
  else if ← passMark "--" then return .update false false (← updatedPlace e)
  else return e

/-- The operators that stand before an operand. -/
def unaryOperator? : TokenKind → Option (Expr → Expr)
  | .mark "-" => some (.unary .minus)
  | .mark "+" => some (.unary .plus)
  | .mark "!" => some (.unary .negation)
  | .mark "~" => some (.unary .complement)
  | .name "void" => some (.unary .discard)
  | .name "typeof" => some .typeOf
  | .name "delete" => some .delete
  | _ => none

/-- Read a power behind its base. -/
def powerRest (allowPower : Bool) (base : Expr) : Read Expr := do
  if ← isMark "**" then
    unless allowPower do throw .unaryBeforePower
    advance
    return .binary .power base (← inner.operand true)
  else return base

/-- Read an operand with the operators before it, and a power behind it; an operator other than an
update does not stand before a power. -/
def operandLevel (allowPower : Bool) : Read Expr := do
  let current ← token
  if let some operator := unaryOperator? current.kind then
    advance
    return operator (← inner.operand false)
  else if current.isWord "await" && (← get).function.isAsync then
    advance
    return .await (← inner.operand false)
  else if (← isMark "++") || (← isMark "--") then
    let increments ← isMark "++"
    advance
    let start ← chainExpression inner
    powerRest inner allowPower (.update increments true (← updatedPlace start))
  else powerRest inner allowPower (← updatedOperand inner)

/-- The operators between operands, by how tightly they bind; the loosest come first. -/
def operatorLevels : List (List (String × (Expr → Expr → Expr))) :=
  [ [("|", .binary .bitOr)],
    [("^", .binary .bitXor)],
    [("&", .binary .bitAnd)],
    [("==", .binary .equal), ("!=", .binary .notEqual), ("===", .binary .same),
      ("!==", .binary .notSame)],
    [("<", .binary .less), ("<=", .binary .lessEqual), (">", .binary .greater),
      (">=", .binary .greaterEqual), ("instanceof", .binary .instanceOf), ("in", .binary .hasKey)],
    [("<<", .binary .shiftLeft), (">>", .binary .shiftRight), (">>>", .binary .shiftRightZero)],
    [("+", .binary .add), ("-", .binary .subtract)],
    [("*", .binary .multiply), ("/", .binary .divide), ("%", .binary .remainder)] ]

/-- The operator of a level that a token is. -/
def operatorOf? (allowIn : Bool) (level : List (String × (Expr → Expr → Expr)))
    (token : Token) : Option (Expr → Expr → Expr) :=
  match token.kind with
  | .mark text => level.lookup text
  | .name word =>
      if word == "instanceof" || (word == "in" && allowIn) then level.lookup word else none
  | _ => none

/-- Read operands with the operators of some levels between them. -/
def operatorChain (allowIn : Bool) : List (List (String × (Expr → Expr → Expr))) → Read Expr
  | [] => operandLevel inner true
  | level :: tighter => do
      let first ← operatorChain allowIn tighter
      repeating first fun left => do
        match operatorOf? allowIn level (← token) with
        | some operator =>
            advance
            return .inl (operator left (← operatorChain allowIn tighter))
        | none => return .inr left

/-- Read operands with a logical operator between them, each operand by the given reader. -/
def logicalChain (mark : String) (operator : ShortCircuit) (operand : Read Expr) : Read Expr := do
  let first ← operand
  repeating (first, false) fun (left, isJoined) => do
    if ← passMark mark then return .inl (.logical operator left (← operand), true)
    else if isJoined && (← isMark "??") then throw .mixedCoalescing
    else return .inr left

/-- Read operands with any operators between them. -/
def operation (allowIn : Bool) : Read Expr := do
  let operand := operatorChain inner allowIn operatorLevels
  let first ← logicalChain "||" .or (logicalChain "&&" .and operand)
  repeating first fun left => do
    if ← passMark "??" then return .inl (.logical .coalesce left (← operand)) else return .inr left

/-- Read an expression with a choice behind it. -/
def choice (allowIn : Bool) : Read Expr := do
  let test ← operation inner allowIn
  if ← passMark "?" then
    let whenTrue ← inner.assignment true
    expectMark ":"
    return .conditional test whenTrue (← inner.assignment allowIn)
  else return test

/-- The assignments that combine the old value with the new one. -/
def assignments : List (String × (Expr → Expr → Expr)) :=
  [("+=", .assignBinary .add), ("-=", .assignBinary .subtract), ("*=", .assignBinary .multiply),
    ("/=", .assignBinary .divide), ("%=", .assignBinary .remainder), ("**=", .assignBinary .power),
    ("<<=", .assignBinary .shiftLeft), (">>=", .assignBinary .shiftRight),
    (">>>=", .assignBinary .shiftRightZero), ("&=", .assignBinary .bitAnd),
    ("|=", .assignBinary .bitOr), ("^=", .assignBinary .bitXor), ("&&=", .assignLogical .and),
    ("||=", .assignLogical .or), ("??=", .assignLogical .coalesce)]

/-- Whether the current token starts an arrow function, and whether it is asynchronous. -/
def arrowAhead : Read (Option Bool) := do
  let current ← token
  let next ← nextToken
  match current.kind with
  | .mark "(" =>
      match ← tokenBehindBracket with
      | some behind => return if behind.isMark "=>" then some false else none
      | none => return none
  | .name word =>
      if next.isMark "=>" then return if ← isReserved word then none else some false
      else if word == "async" && !next.afterLine then
        match next.kind with
        | .mark "(" =>
            match (behindBracket ((← get).tokens.drop 1) 0).head? with
            | some behind => return if behind.isMark "=>" then some true else none
            | none => return none
        | .name _ =>
            match ((← get).tokens.drop 2).head? with
            | some behind => return if behind.isMark "=>" then some true else none
            | none => return none
        | _ => return none
      else return none
  | _ => return none

/-- Whether the current token starts a pattern to which a value is assigned. -/
def patternAhead (follows : Token → Bool) : Read Bool := do
  match (← token).kind with
  | .mark "[" | .mark "\x7b" =>
      match ← tokenBehindBracket with
      | some behind => return follows behind
      | none => return false
  | _ => return false

/-- Read an expression without commas. -/
def assignmentLevel (allowIn : Bool) : Read Expr := do
  let start := (← token).start
  if let some isAsync ← arrowAhead then
    if isAsync then advance
    return ← functionRest inner "" false .arrow isAsync start
  if ← patternAhead (·.isMark "=") then
    let target ← inner.pattern none
    expectMark "="
    return .assign target (← inner.assignment allowIn)
  let left ← choice inner allowIn
  if ← isMark "=" then
    match placeOf? left with
    | none => throw .badTarget
    | some target =>
        advance
        let value ← inner.assignment allowIn
        let value := match target with
          | .name name => value.named name
          | _ => value
        return .assign target value
  else
    match (← token).kind with
    | .mark mark =>
        match assignments.lookup mark with
        | some combine =>
            if (placeOf? left).isNone then throw .badTarget
            advance
            return combine left (← inner.assignment allowIn)
        | none => return left
    | _ => return left

/-- Read a pattern. -/
def patternLevel (declares : Option (String → Read Unit)) : Read Pattern := do
  match (← token).kind with
  | .mark "[" => arrayPattern inner declares
  | .mark "\x7b" => recordPattern inner declares
  | _ =>
      match declares with
      | some declare =>
          let name ← readName .badPatternTarget
          declare name
          return .name name
      | none =>
          match placeOf? (← chainExpression inner) with
          | some place => return place
          | none => throw .badPatternTarget

end Grammar

end BotBench.Script
