import BotBench.Json.Reader

/-! # Tokens of a settings document

A settings file is a YAML 1.1 document. `Token.scan?` cuts its text into tokens. Indentation becomes
opening and closing tokens, and a key that is only recognised by the colon behind it gets its key
token in front of it, at the place that was noted when it began. -/

namespace BotBench.Yaml

/-- A token of a document. -/
inductive Token
  | streamEnd
  | directive (name : String) (handle tagStart : String)
  | documentStart
  | documentEnd
  | blockSequenceStart
  | blockMappingStart
  | blockEnd
  | flowSequenceStart
  | flowSequenceEnd
  | flowMappingStart
  | flowMappingEnd
  | blockEntry
  | flowEntry
  | key
  | value
  | alias (name : String)
  | anchor (name : String)
  | tag (handle : Option String) (suffix : String)
  | scalar (text : String) (plain : Bool)
  deriving DecidableEq, Inhabited, Repr

/-- A place where a key may have begun: the number of tokens before it, whether it must turn out to
be a key, and where it stands. -/
structure KeyStart where
  tokenCount : Nat
  required : Bool
  index : Nat
  line : Nat
  column : Nat
  deriving Inhabited

/-- The scanner's place in the text and what it has found so far. The indentation is `-1` outside
every block. -/
structure Scanner where
  rest : List Char
  index : Nat := 0
  line : Nat := 0
  column : Nat := 0
  indent : Int := -1
  indents : List Int := []
  flowDepth : Nat := 0
  keyAllowed : Bool := true
  keyStarts : List (Nat × KeyStart) := []
  tokens : Array Token := #[]
  deriving Inhabited

/-- Whether a character ends a line. -/
def isBreak (c : Char) : Bool :=
  c == '\n' || c == '\r' || c == '\x85' || c == '\u2028' || c == '\u2029'

/-- Whether the text ends, or continues with a blank or a line end. -/
def atGap : List Char → Bool
  | [] => true
  | c :: _ => c == ' ' || c == '\t' || isBreak c

/-- Whether the text ends or the line does. -/
def atLineEnd : List Char → Bool
  | [] => true
  | c :: _ => isBreak c

/-- Whether the text ends, or continues with a space or a line end. -/
def atSpaceEnd : List Char → Bool
  | [] => true
  | c :: _ => c == ' ' || isBreak c

/-- Whether a character is one of those listed. -/
def isOneOf (marks : String) (c : Char) : Bool := marks.toList.contains c

/-- Whether the text continues with a given character. -/
def startsWith (c : Char) : List Char → Bool
  | [] => false
  | d :: _ => d == c

/-- Characters of names of anchors, aliases, directives and tag handles. -/
def isNameChar (c : Char) : Bool := c.isAlphanum || c == '-' || c == '_'

/-- Whether a document may hold a character. -/
def isAllowed (c : Char) : Bool :=
  let code := c.toNat
  code == 9 || code == 10 || code == 13 || (0x20 ≤ code && code ≤ 0x7E) || code == 0x85 ||
    (0xA0 ≤ code && code ≤ 0xD7FF) || (0xE000 ≤ code && code ≤ 0xFFFD) || 0x10000 ≤ code

namespace Scanner

/-- Step over one character. -/
def advance (s : Scanner) : Scanner :=
  match s.rest with
  | [] => s
  | c :: rest =>
      let s := { s with rest, index := s.index + 1 }
      if c == '\n' || c == '\x85' || c == '\u2028' || c == '\u2029' ||
          (c == '\r' && !startsWith '\n' rest) then
        { s with line := s.line + 1, column := 0 }
      else if c == '\uFEFF' then s
      else { s with column := s.column + 1 }

/-- Step over `count` characters. -/
def advanceBy (s : Scanner) : Nat → Scanner
  | 0 => s
  | count + 1 => s.advance.advanceBy count

/-- Step over characters while they satisfy `p`, and return them. -/
def takeWhile (s : Scanner) (p : Char → Bool) : List Char × Scanner :=
  let taken := s.rest.takeWhile p
  (taken, s.advanceBy taken.length)

/-- Step over a line end, if there is one, and return the characters it stands for. -/
def lineBreak (s : Scanner) : List Char × Scanner :=
  match s.rest with
  | '\r' :: '\n' :: _ => (['\n'], s.advanceBy 2)
  | c :: _ =>
      if c == '\u2028' || c == '\u2029' then ([c], s.advance)
      else if isBreak c then (['\n'], s.advance)
      else ([], s)
  | [] => ([], s)

/-- Whether a document marker of three characters `c` begins here. -/
def atMarker (s : Scanner) (c : Char) : Bool :=
  match s.rest with
  | a :: b :: d :: after => a == c && b == c && d == c && atGap after
  | _ => false

/-- Whether either document marker begins here. -/
def atAnyMarker (s : Scanner) : Bool := s.atMarker '-' || s.atMarker '.'

/-- Append a token. -/
def push (s : Scanner) (token : Token) : Scanner := { s with tokens := s.tokens.push token }

/-- The noted key start at the present depth. -/
def keyStart? (s : Scanner) : Option KeyStart :=
  (s.keyStarts.find? fun entry => entry.1 == s.flowDepth).map (·.2)

/-- Forget the key start at the present depth; one that had to be a key is an error. -/
def dropKeyStart (s : Scanner) : Option Scanner :=
  match s.keyStart? with
  | some start =>
      if start.required then none
      else some { s with keyStarts := s.keyStarts.filter fun entry => entry.1 != s.flowDepth }
  | none => some s

/-- Forget key starts that cannot be keys any more: on an earlier line or too far behind. -/
def dropStaleKeyStarts (s : Scanner) : Option Scanner :=
  let stale (start : KeyStart) : Bool := start.line != s.line || s.index - start.index > 1024
  if s.keyStarts.any fun entry => stale entry.2 && entry.2.required then none
  else some { s with keyStarts := s.keyStarts.filter fun entry => !stale entry.2 }

/-- Note that a key may begin here. -/
def noteKeyStart (s : Scanner) : Option Scanner :=
  if s.keyAllowed then do
    let required := s.flowDepth == 0 && s.indent == s.column
    let s ← s.dropKeyStart
    let start : KeyStart :=
      { tokenCount := s.tokens.size
        required
        index := s.index
        line := s.line
        column := s.column }
    return { s with keyStarts := (s.flowDepth, start) :: s.keyStarts }
  else some s

/-- Close blocks that are indented deeper than `column`. -/
def unwindIndent (s : Scanner) (column : Int) : Scanner :=
  if s.flowDepth != 0 then s else close s s.indents
where
  close (s : Scanner) : List Int → Scanner
    | [] => s
    | outer :: outers =>
        if column < s.indent then
          close { s.push .blockEnd with indent := outer, indents := outers } outers
        else s

/-- Open a block at `column` unless it is already open. -/
def addIndent (s : Scanner) (column : Nat) : Bool × Scanner :=
  if s.indent < column then (true, { s with indents := s.indent :: s.indents, indent := column })
  else (false, s)

/-- Step over blanks, comments and line ends to the next token, at most `fuel` lines. -/
def toNextToken (fuel : Nat) (s : Scanner) : Scanner :=
  match fuel with
  | 0 => s
  | fuel + 1 =>
      let (_, s) := s.takeWhile (· == ' ')
      let s := if startsWith '#' s.rest then (s.takeWhile fun c => !isBreak c).2 else s
      match s.lineBreak with
      | ([], s) => s
      | (_, s) => toNextToken fuel (if s.flowDepth == 0 then { s with keyAllowed := true } else s)

/-- Scan the rest of a directive line behind its percent sign. -/
def directive (s : Scanner) : Option Scanner := do
  let (name, s) := s.takeWhile isNameChar
  if name.isEmpty || !atSpaceEnd s.rest then none
  let (token, s) ←
    if name == "YAML".toList then version s
    else if name == "TAG".toList then tagStart s
    else
      let (_, s) := s.takeWhile fun c => !isBreak c
      some (.directive (String.ofList name) "" "", s)
  let (_, s) := s.takeWhile (· == ' ')
  let s := if startsWith '#' s.rest then (s.takeWhile fun c => !isBreak c).2 else s
  if atLineEnd s.rest then return (s.lineBreak.2.push token) else none
where
  /-- The version number of a document; only major version one is read. -/
  version (s : Scanner) : Option (Token × Scanner) := do
    let (_, s) := s.takeWhile (· == ' ')
    let (major, s) := s.takeWhile Char.isDigit
    if major.isEmpty || !startsWith '.' s.rest then none
    let (minor, s) := s.advance.takeWhile Char.isDigit
    if minor.isEmpty || !atSpaceEnd s.rest then none
    return (.directive "YAML" (String.ofList major) (String.ofList minor), s)
  /-- A tag handle and what it stands for. -/
  tagStart (s : Scanner) : Option (Token × Scanner) := do
    let (_, s) := s.takeWhile (· == ' ')
    if !startsWith '!' s.rest then none
    let (name, s) := s.advance.takeWhile isNameChar
    let (closing, s) := if startsWith '!' s.rest then (['!'], s.advance) else ([], s)
    if (closing.isEmpty && !name.isEmpty) || !startsWith ' ' s.rest then none
    let (_, s) := s.takeWhile (· == ' ')
    let (address, s) := s.takeWhile fun c => c.isAlphanum || isOneOf "-;/?:@&=+$,_.!~*'()[]%" c
    if address.isEmpty || !atSpaceEnd s.rest then none
    return (.directive "TAG" (String.ofList ('!' :: name ++ closing)) (String.ofList address), s)

/-- Scan the name of an anchor or alias behind its indicator. -/
def nameToken (s : Scanner) (token : String → Token) : Option Scanner :=
  let (name, s) := s.advance.takeWhile isNameChar
  let ends :=
    match s.rest with
    | [] => true
    | c :: _ => atGap s.rest || isOneOf "?:,]\x7d%@\x60" c
  if name.isEmpty || !ends then none else some (s.push (token (String.ofList name)))

/-- Scan the address of a tag. -/
def tagAddress (s : Scanner) : Option (String × Scanner) :=
  let (address, s) := s.takeWhile fun c => c.isAlphanum || isOneOf "-;/?:@&=+$,_.!~*'()[]" c
  if address.isEmpty then none else some (String.ofList address, s)

/-- Scan a tag. -/
def tag (s : Scanner) : Option Scanner := do
  let (token, s) ←
    match s.rest with
    | _ :: '<' :: _ => do
        let (address, s) ← (s.advanceBy 2).tagAddress
        if !startsWith '>' s.rest then none
        some (Token.tag none address, s.advance)
    | _ :: after =>
        if atGap after then some (.tag none "!", s.advance)
        else
          let word := after.takeWhile fun c => c != ' ' && !isBreak c
          if word.contains '!' then do
            let (name, s) := s.advance.takeWhile isNameChar
            if !startsWith '!' s.rest then none
            let (address, s) ← s.advance.tagAddress
            some (.tag (some (String.ofList ('!' :: name ++ ['!']))) address, s)
          else do
            let (address, s) ← s.advance.tagAddress
            some (.tag (some "!") address, s)
    | [] => none
  if atSpaceEnd s.rest then return s.push token else none

/-- Scan line ends, and blanks up to a column, in front of a line of a block scalar. -/
def blockBreaks (fuel : Nat) (indent : Nat) (s : Scanner) : List Char × Scanner :=
  match fuel with
  | 0 => ([], s)
  | fuel + 1 =>
      let blanks := (s.rest.takeWhile (· == ' ')).length
      let s := s.advanceBy (min blanks (indent - s.column))
      match s.lineBreak with
      | ([], s) => ([], s)
      | (line, s) =>
          let (more, s) := blockBreaks fuel indent s
          (line ++ more, s)

/-- Scan the blank lines in front of a block scalar without a stated indentation: the line ends and
the deepest column reached. -/
def blockIndentation (fuel : Nat) (deepest : Nat) (s : Scanner) : List Char × Nat × Scanner :=
  match fuel with
  | 0 => ([], deepest, s)
  | fuel + 1 =>
      if startsWith ' ' s.rest then
        let s := s.advance
        blockIndentation fuel (max deepest s.column) s
      else
        match s.lineBreak with
        | ([], s) => ([], deepest, s)
        | (line, s) =>
            let (more, deepest, s) := blockIndentation fuel deepest s
            (line ++ more, deepest, s)

/-- How the line ends behind a block scalar are kept. -/
inductive Chomping
  | clip
  | strip
  | keep
  deriving DecidableEq

/-- The chomping and indentation indicators of a block scalar. -/
def blockIndicators (s : Scanner) : Option (Chomping × Option Nat × Scanner) := do
  let chomping? (s : Scanner) : Option Chomping × Scanner :=
    match s.rest with
    | '+' :: _ => (some .keep, s.advance)
    | '-' :: _ => (some .strip, s.advance)
    | _ => (none, s)
  let increment? (s : Scanner) : Option Nat × Scanner :=
    match s.rest with
    | c :: _ => if c.isDigit then (some (c.toNat - '0'.toNat), s.advance) else (none, s)
    | [] => (none, s)
  let (first, s) := chomping? s
  let (increment, s) := increment? s
  let (second, s) := if first.isNone && increment.isSome then chomping? s else (first, s)
  if increment == some 0 || !atSpaceEnd s.rest then none
  return (second.getD .clip, increment, s)

/-- Scan the lines of a block scalar that stand at column `indent`; `gap` holds the line ends read
before the present line. -/
def blockLines (fuel : Nat) (folded : Bool) (indent : Nat) (gap : List Char) (s : Scanner) :
    List Char × List Char × List Char × Scanner :=
  match fuel with
  | 0 => ([], [], gap, s)
  | fuel + 1 =>
      if s.column == indent && !s.rest.isEmpty then
        let indented := startsWith ' ' s.rest || startsWith '\t' s.rest
        let (line, s) := s.takeWhile fun c => !isBreak c
        let (lineEnd, s) := s.lineBreak
        let (breaks, s) := s.blockBreaks (s.rest.length + 1) indent
        if s.column == indent && !s.rest.isEmpty then
          let joins := folded && lineEnd == ['\n'] && !indented &&
            !(startsWith ' ' s.rest || startsWith '\t' s.rest)
          let between := if joins then (if breaks.isEmpty then [' '] else []) else lineEnd
          let (text, lastEnd, trailing, s) := blockLines fuel folded indent breaks s
          (gap ++ line ++ between ++ text, lastEnd, trailing, s)
        else (gap ++ line, lineEnd, breaks, s)
      else ([], [], gap, s)

/-- Scan a block scalar. -/
def blockScalar (s : Scanner) (folded : Bool) : Option Scanner := do
  let (chomping, increment, s) ← s.advance.blockIndicators
  let (_, s) := s.takeWhile (· == ' ')
  let s := if startsWith '#' s.rest then (s.takeWhile fun c => !isBreak c).2 else s
  if !atLineEnd s.rest then none
  let (_, s) := s.lineBreak
  let least := max (s.indent + 1) 1
  let (gap, indent, s) :=
    match increment with
    | none =>
        let (gap, deepest, s) := s.blockIndentation (s.rest.length + 1) 0
        (gap, max least.toNat deepest, s)
    | some increment =>
        let indent := least.toNat + increment - 1
        let (gap, s) := s.blockBreaks (s.rest.length + 1) indent
        (gap, indent, s)
  let (text, lastEnd, trailing, s) := s.blockLines (s.rest.length + 1) folded indent gap
  let text :=
    match chomping with
    | .strip => text
    | .clip => text ++ lastEnd
    | .keep => text ++ lastEnd ++ trailing
  return s.push (.scalar (String.ofList text) false)

/-- The characters of one-letter escapes in double quotes. -/
def escapes : List (Char × Char) :=
  [('0', '\x00'), ('a', '\x07'), ('b', '\x08'), ('t', '\t'), ('\t', '\t'), ('n', '\n'),
    ('v', '\x0b'), ('f', '\x0c'), ('r', '\r'), ('e', '\x1b'), (' ', ' '), ('"', '"'), ('\\', '\\'),
    ('/', '/'), ('N', '\x85'), ('_', '\xa0'), ('L', '\u2028'), ('P', '\u2029')]

/-- The number of hexadecimal digits behind an escape letter. -/
def escapeWidth? : Char → Option Nat
  | 'x' => some 2
  | 'u' => some 4
  | 'U' => some 8
  | _ => none

/-- Scan line ends inside a quoted scalar; a document marker at the start of a line is an error. -/
def quotedBreaks (fuel : Nat) (s : Scanner) : Option (List Char × Scanner) :=
  match fuel with
  | 0 => none
  | fuel + 1 =>
      if s.atAnyMarker then none
      else
        let (_, s) := s.takeWhile fun c => c == ' ' || c == '\t'
        match s.lineBreak with
        | ([], s) => some ([], s)
        | (line, s) => do
            let (more, s) ← quotedBreaks fuel s
            return (line ++ more, s)

/-- Scan an escape in double quotes behind its backslash. -/
def quotedEscape (s : Scanner) : Option (List Char × Scanner) :=
  match s.rest with
  | [] => none
  | c :: after =>
      match escapes.find? fun entry => entry.1 == c with
      | some (_, plain) => some ([plain], s.advance)
      | none =>
          match escapeWidth? c with
          | some width => do
              let digits ← (after.take width).mapM Json.hexValue?
              let code := digits.foldl (fun n digit => 16 * n + digit) 0
              if digits.length == width && code < 0x110000 then
                return ([Json.unitChar code], s.advanceBy (width + 1))
              else none
          | none =>
              if isBreak c then (s.lineBreak.2).quotedBreaks (s.rest.length + 1) else none

/-- Scan a quoted scalar behind its opening quote. -/
def quotedText (fuel : Nat) (quote : Char) (s : Scanner) : Option (List Char × Scanner) :=
  match fuel with
  | 0 => none
  | fuel + 1 =>
      match s.rest with
      | [] => none
      | c :: after =>
          if c == quote then
            if quote == '\'' && startsWith '\'' after then do
              let (text, s) ← quotedText fuel quote (s.advanceBy 2)
              return ('\'' :: text, s)
            else some ([], s.advance)
          else if c == '\\' && quote == '"' then do
            let (part, s) ← s.advance.quotedEscape
            let (text, s) ← quotedText fuel quote s
            return (part ++ text, s)
          else if c == ' ' || c == '\t' || isBreak c then do
            let (blanks, s) := s.takeWhile fun c => c == ' ' || c == '\t'
            if s.rest.isEmpty then none
            let (part, s) ←
              match s.lineBreak with
              | ([], s) => some (blanks, s)
              | (line, s) => do
                  let (breaks, s) ← s.quotedBreaks (s.rest.length + 1)
                  let joint := if line != ['\n'] then line else if breaks.isEmpty then [' '] else []
                  some (joint ++ breaks, s)
            let (text, s) ← quotedText fuel quote s
            return (part ++ text, s)
          else do
            let (text, s) ← quotedText fuel quote s.advance
            return (c :: text, s)

/-- Whether a plain scalar ends in front of this text. -/
def plainEnds (inFlow : Bool) : List Char → Bool
  | [] => true
  | c :: after =>
      atGap [c] ||
        (c == ':' &&
          (atGap after || (inFlow && (after.head?.any fun d => isOneOf ",[]\x7b\x7d" d)))) ||
        (inFlow && isOneOf ",?[]\x7b\x7d" c)

/-- The characters of a plain scalar up to a blank or its end. -/
def plainRun (inFlow : Bool) : List Char → List Char
  | [] => []
  | c :: rest => if plainEnds inFlow (c :: rest) then [] else c :: plainRun inFlow rest

/-- Step over the blank lines between two lines of a plain scalar; nothing is returned at a document
marker. -/
def plainBreaks (fuel : Nat) (s : Scanner) : Option (List Char) × Scanner :=
  match fuel with
  | 0 => (some [], s)
  | fuel + 1 =>
      let (_, s) := s.takeWhile (· == ' ')
      match s.lineBreak with
      | ([], s) => (some [], s)
      | (line, s) =>
          if s.atAnyMarker then (none, s)
          else
            let (more, s) := plainBreaks fuel s
            (more.map (line ++ ·), s)

/-- Scan the blanks behind a part of a plain scalar. -/
def plainSpaces (s : Scanner) : List Char × Scanner :=
  let (blanks, s) := s.takeWhile (· == ' ')
  match s.lineBreak with
  | ([], s) => (blanks, s)
  | (line, s) =>
      let s := { s with keyAllowed := true }
      if s.atAnyMarker then ([], s)
      else
        match s.plainBreaks (s.rest.length + 1) with
        | (none, s) => ([], s)
        | (some breaks, s) =>
            let joint := if line != ['\n'] then line else if breaks.isEmpty then [' '] else []
            (joint ++ breaks, s)

/-- Scan a plain scalar; `gap` holds the blanks read before the present part. -/
def plainText (fuel : Nat) (indent : Int) (gap : List Char) (s : Scanner) : List Char × Scanner :=
  match fuel with
  | 0 => ([], s)
  | fuel + 1 =>
      if startsWith '#' s.rest then ([], s)
      else
        match plainRun (s.flowDepth != 0) s.rest with
        | [] => ([], s)
        | run =>
            let s := { s.advanceBy run.length with keyAllowed := false }
            let (spaces, s) := s.plainSpaces
            if spaces.isEmpty || startsWith '#' s.rest ||
                (s.flowDepth == 0 && s.column < indent) then
              (gap ++ run, s)
            else
              let (text, s) := plainText fuel indent spaces s
              (gap ++ run ++ text, s)

/-- Open a block of entries or keys at the present column, if entries may begin here. -/
def openBlock (s : Scanner) (opening : Token) : Option Scanner :=
  if s.flowDepth != 0 then some s
  else if !s.keyAllowed then none
  else
    match s.addIndent s.column with
    | (true, s) => some (s.push opening)
    | (false, s) => some s

/-- Scan a colon that separates a key from its value. -/
def valueMark (s : Scanner) : Option Scanner := do
  let s ←
    match s.keyStart? with
    | some start =>
        let s := { s with
          keyStarts := s.keyStarts.filter fun entry => entry.1 != s.flowDepth
          keyAllowed := false }
        let place := min start.tokenCount s.tokens.size
        let s := { s with tokens := s.tokens.insertIdx! place .key }
        if s.flowDepth != 0 then some s
        else
          match s.addIndent start.column with
          | (true, s) => some { s with tokens := s.tokens.insertIdx! place .blockMappingStart }
          | (false, s) => some s
    | none => do
        let s ← s.openBlock .blockMappingStart
        some { s with keyAllowed := s.flowDepth == 0 }
  return s.advance.push .value

/-- Scan a bracket or brace that opens a collection. -/
def openFlow (s : Scanner) (token : Token) : Option Scanner := do
  let s ← s.noteKeyStart
  return ({ s with flowDepth := s.flowDepth + 1, keyAllowed := true }.advance.push token)

/-- Scan a bracket or brace that closes a collection. -/
def closeFlow (s : Scanner) (token : Token) : Option Scanner := do
  if s.flowDepth == 0 then none
  let s ← s.dropKeyStart
  return ({ s with flowDepth := s.flowDepth - 1, keyAllowed := false }.advance.push token)

/-- Close all blocks in front of a marker or the end. -/
def closeBlocks (s : Scanner) : Option Scanner := do
  let s ← (s.unwindIndent (-1)).dropKeyStart
  return { s with keyAllowed := false }

/-- Note a possible key start in front of a token that may be a key. -/
def beginKey (s : Scanner) : Option Scanner :=
  s.noteKeyStart.map fun s => { s with keyAllowed := false }

/-- Whether a plain scalar may begin with this text. -/
def plainBegins (inFlow : Bool) : List Char → Bool
  | [] => false
  | c :: after =>
      !(atGap [c] || isOneOf "-?:,[]\x7b\x7d#&*!|>'\"%@\x60" c) ||
        (!atGap after && (c == '-' || (!inFlow && (c == '?' || c == ':'))))

/-- Scan the next token, the text not being at its end. -/
def next (s : Scanner) (c : Char) (after : List Char) : Option Scanner := do
  let inFlow := s.flowDepth != 0
  if c == '%' && s.column == 0 then
    let s ← s.closeBlocks
    s.advance.directive
  else if c == '-' && s.column == 0 && s.atMarker '-' then
    let s ← s.closeBlocks
    return (s.advanceBy 3).push .documentStart
  else if c == '.' && s.column == 0 && s.atMarker '.' then
    let s ← s.closeBlocks
    return (s.advanceBy 3).push .documentEnd
  else if c == '[' then s.openFlow .flowSequenceStart
  else if c == '\x7b' then s.openFlow .flowMappingStart
  else if c == ']' then s.closeFlow .flowSequenceEnd
  else if c == '\x7d' then s.closeFlow .flowMappingEnd
  else if c == ',' then
    let s ← { s with keyAllowed := true }.dropKeyStart
    return s.advance.push .flowEntry
  else if c == '-' && atGap after then
    let s ← s.openBlock .blockSequenceStart
    let s ← { s with keyAllowed := true }.dropKeyStart
    return s.advance.push .blockEntry
  else if c == '?' && (inFlow || atGap after) then
    let s ← s.openBlock .blockMappingStart
    let s ← { s with keyAllowed := !inFlow }.dropKeyStart
    return s.advance.push .key
  else if c == ':' && (inFlow || atGap after) then s.valueMark
  else if c == '*' then
    let s ← s.beginKey
    s.nameToken .alias
  else if c == '&' then
    let s ← s.beginKey
    s.nameToken .anchor
  else if c == '!' then
    let s ← s.beginKey
    s.tag
  else if (c == '|' || c == '>') && !inFlow then
    let s ← { s with keyAllowed := true }.dropKeyStart
    s.blockScalar (c == '>')
  else if c == '\'' || c == '"' then
    let s ← s.beginKey
    let (text, s) ← s.advance.quotedText (after.length + 1) c
    return s.push (.scalar (String.ofList text) false)
  else if plainBegins inFlow s.rest then
    let s ← s.beginKey
    let (text, s) := s.plainText (s.rest.length + 1) (s.indent + 1) []
    return s.push (.scalar (String.ofList text) true)
  else none

/-- Scan all tokens, at most `fuel` of them. -/
def run (fuel : Nat) (s : Scanner) : Option (Array Token) :=
  match fuel with
  | 0 => none
  | fuel + 1 => do
      let s ← (s.toNextToken (s.rest.length + 1)).dropStaleKeyStarts
      let s := s.unwindIndent s.column
      match s.rest with
      | [] =>
          let s ← s.closeBlocks
          return s.tokens.push .streamEnd
      | c :: after =>
          let s ← s.next c after
          run fuel s

end Scanner

/-- The lines of a text file, each line end written as one newline. -/
def normalizeBreaks : List Char → List Char
  | '\r' :: '\n' :: rest => '\n' :: normalizeBreaks rest
  | '\r' :: rest => '\n' :: normalizeBreaks rest
  | c :: rest => c :: normalizeBreaks rest
  | [] => []

/-- The tokens of a document, or nothing if its text breaks the rules. -/
def Token.scan? (text : String) : Option (List Token) :=
  let cs := normalizeBreaks text.toList
  if cs.all isAllowed then
    let cs := if startsWith '\uFEFF' cs then cs.drop 1 else cs
    (Scanner.run (cs.length + 2) { rest := cs }).map Array.toList
  else none

end BotBench.Yaml
