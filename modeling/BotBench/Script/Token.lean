import BotBench.Script.Numeral
import BotBench.Text.Word

/-! # Tokens of scripts

A script is cut into tokens before it is read. A fault does not stop the cutting from giving the
tokens before it: it becomes the last token, and is reported only when reading gets there. -/

namespace BotBench.Script

open Text Number

/-- Why a script cannot be read. -/
inductive ReadingFault
  | endOfComment
  | endOfText
  | badEscape
  | badNumeral
  | badPrivateName
  | unexpectedCharacter
  | unexpectedToken (text : String)
  | expecting (text : String)
  | variableNameExpected
  | functionNameExpected
  | classNameExpected
  | fieldNameExpected
  | propertyNameExpected
  | parameterExpected
  | handlerExpected
  | reservedName (name : String)
  | redeclaredLexical
  | redeclaredParameter
  | redeclaredVariable
  | constantWithoutValue
  | badTarget
  | badUpdateOperand
  | badLoopTarget
  | badPatternTarget
  | caughtNameExpected
  | loopWordExpected
  | letAsLexicalName
  | badSwitch
  | templateUnclosed
  | unaryBeforePower
  | mixedCoalescing
  | lexicalNotAllowed
  | breakOutside
  | continueOutside
  | lineBreakAfterThrow
  | superOutside
  | superCallOutside
  | superAlone
  | duplicateConstructor
  | tooDeep
  deriving DecidableEq, Repr, Inhabited

/-- The wording of a fault. -/
def ReadingFault.message : ReadingFault → String
  | .endOfComment => "unexpected end of comment"
  | .endOfText => "unexpected end of string"
  | .badEscape => "malformed escape sequence in string literal"
  | .badNumeral => "invalid number literal"
  | .badPrivateName => "invalid first character of private name"
  | .unexpectedCharacter => "unexpected character"
  | .unexpectedToken text => "unexpected token in expression: '" ++ text ++ "'"
  | .expecting text => "expecting '" ++ text ++ "'"
  | .variableNameExpected => "variable name expected"
  | .functionNameExpected => "function name expected"
  | .classNameExpected => "class statement requires a name"
  | .fieldNameExpected => "expecting field name"
  | .propertyNameExpected => "invalid property name"
  | .parameterExpected => "missing formal parameter"
  | .handlerExpected => "expecting catch or finally"
  | .reservedName name => "'" ++ name ++ "' is a reserved identifier"
  | .redeclaredLexical => "invalid redefinition of lexical identifier"
  | .redeclaredParameter => "invalid redefinition of parameter name"
  | .redeclaredVariable => "invalid redefinition of a variable"
  | .constantWithoutValue => "missing initializer for const variable"
  | .badTarget => "invalid assignment left-hand side"
  | .badUpdateOperand => "invalid increment/decrement operand"
  | .badLoopTarget => "invalid for in/of left hand-side"
  | .badPatternTarget => "invalid destructuring target"
  | .caughtNameExpected => "identifier expected"
  | .loopWordExpected => "expected 'of' or 'in' in for control expression"
  | .letAsLexicalName => "'let' is not a valid lexical identifier"
  | .badSwitch => "invalid switch statement"
  | .templateUnclosed => "expected '\x7d' after template expression"
  | .unaryBeforePower =>
      "unparenthesized unary expression can't appear on the left-hand side of '**'"
  | .mixedCoalescing => "cannot mix ?? with && or ||"
  | .lexicalNotAllowed => "lexical declarations can't appear in single-statement context"
  | .breakOutside => "break must be inside loop or switch"
  | .continueOutside => "continue must be inside loop"
  | .lineBreakAfterThrow => "line terminator not allowed after throw"
  | .superOutside => "'super' is only valid in a method"
  | .superCallOutside => "super() is only valid in a derived class constructor"
  | .superAlone => "invalid use of 'super'"
  | .duplicateConstructor => "property constructor appears more than once"
  | .tooDeep => "stack overflow"

/-- What a token is. -/
inductive TokenKind
  | name (name : String)
  | privateName (name : String)
  | number (x : Float)
  | text (t : Utf16)
  | mark (text : String)
  /-- A piece of a template, from its start or the end of an expression to the next expression or
  the end of the template. -/
  | template (piece : Utf16) (opens closes : Bool)
  | fault (fault : ReadingFault)
  | finish
  deriving Inhabited

/-- A token, its place in the script, and whether a line break stands before it. -/
structure Token where
  kind : TokenKind
  start : Nat
  stop : Nat
  afterLine : Bool
  deriving Inhabited

/-- The rest of a script and how much of it is behind. -/
structure Cursor where
  rest : List Char
  place : Nat
  deriving Inhabited

namespace Cursor

/-- Pass a number of characters. -/
def skip (cursor : Cursor) (count : Nat) : Cursor :=
  ⟨cursor.rest.drop count, cursor.place + count⟩

/-- Pass the characters of a class. -/
def spanWhile (cursor : Cursor) (belongs : Char → Bool) : List Char × Cursor :=
  let taken := cursor.rest.takeWhile belongs
  (taken, cursor.skip taken.length)

end Cursor

/-- A character that ends a line. -/
def isLineBreak (c : Char) : Bool :=
  c == '\n' || c == '\r' || c.toNat == 0x2028 || c.toNat == 0x2029

/-- A character that a name can start with. -/
def startsName (c : Char) : Bool :=
  c.isAlpha || c == '_' || c == '$' || (128 ≤ c.toNat && isWord c)

/-- A character that a name can go on with. -/
def continuesName (c : Char) : Bool :=
  startsName c || c.isDigit || c.toNat == 0x200C || c.toNat == 0x200D

/-- The place behind the end of a comment, and whether a line ended within it. -/
def commentEnd? : List Char → Nat → Bool → Option (Nat × Bool)
  | [], _, _ => none
  | c :: rest, count, hasLine =>
      if c == '*' && rest.head? == some '/' then some (count + 2, hasLine)
      else commentEnd? rest (count + 1) (hasLine || isLineBreak c)

/-- Pass blanks and comments: the place behind them and whether a line ended within them, or nothing
if a comment does not end. -/
def skipBlanks? : Nat → Cursor → Bool → Option (Cursor × Bool)
  | 0, cursor, hasLine => some (cursor, hasLine)
  | fuel + 1, cursor, hasLine =>
      match cursor.rest with
      | [] => some (cursor, hasLine)
      | '/' :: '/' :: _ =>
          skipBlanks? fuel (cursor.spanWhile fun c => !isLineBreak c).2 hasLine
      | '/' :: '*' :: rest =>
          match commentEnd? rest 0 false with
          | none => none
          | some (count, ended) => skipBlanks? fuel (cursor.skip (count + 2)) (hasLine || ended)
      | c :: _ =>
          if isScriptBlank c then skipBlanks? fuel (cursor.skip 1) (hasLine || isLineBreak c)
          else some (cursor, hasLine)

/-- The value of a hexadecimal numeral. -/
def hexadecimal? (cs : List Char) : Option Nat :=
  match digitsOfBase 16 cs 0 0 with
  | (_ + 1, value, []) => some value
  | _ => none

/-- The units that an escape stands for, and the number of characters behind the backslash that it
takes. -/
def escape? : List Char → Option (List UInt16 × Nat)
  | [] => none
  | c :: rest =>
      match c with
      | 'n' => some ([10], 1)
      | 't' => some ([9], 1)
      | 'r' => some ([13], 1)
      | 'b' => some ([8], 1)
      | 'f' => some ([12], 1)
      | 'v' => some ([11], 1)
      | '\r' => some ([], if rest.head? == some '\n' then 2 else 1)
      | 'x' => do
          let value ← hexadecimal? (rest.take 2)
          if (rest.take 2).length == 2 then some ([.ofNat value], 3) else none
      | 'u' =>
          if rest.head? == some (Char.ofNat 0x7B) then do
            let digits := (rest.drop 1).takeWhile (· != Char.ofNat 0x7D)
            let value ← hexadecimal? digits
            if value ≤ 0x10FFFF then
              let units : List UInt16 :=
                if value < 0x10000 then [.ofNat value] else Utf16.unitsOfChar (Char.ofNat value)
              some (units, digits.length + 3)
            else none
          else do
            let value ← hexadecimal? (rest.take 4)
            if (rest.take 4).length == 4 then some ([.ofNat value], 5) else none
      | _ =>
          if isLineBreak c then some ([], 1)
          else if '0' ≤ c && c ≤ '7' then
            let digits := (c :: rest).takeWhile fun d => '0' ≤ d && d ≤ '7'
            let digits := digits.take (if c ≤ '3' then 3 else 2)
            some ([.ofNat (digitsOfBase 8 digits 0 0).2.1], digits.length)
          else some (Utf16.unitsOfChar c, 1)

/-- The units of a text up to its closing quote, newest first before `known`, and the place behind
the quote. -/
def readText (quote : Char) : Nat → Cursor → List UInt16 → Except ReadingFault (Utf16 × Cursor)
  | 0, _, _ => .error .endOfText
  | fuel + 1, cursor, known =>
      match cursor.rest with
      | [] => .error .endOfText
      | c :: rest =>
          if c == quote then .ok (.ofUnits known.reverse, cursor.skip 1)
          else if c == '\n' || c == '\r' then .error .endOfText
          else if c == '\\' then
            match escape? rest with
            | some (units, count) =>
                readText quote fuel (cursor.skip (count + 1)) (units.reverse ++ known)
            | none => .error (if rest.isEmpty then .endOfText else .badEscape)
          else readText quote fuel (cursor.skip 1) ((Utf16.unitsOfChar c).reverse ++ known)

/-- The mark that opens and closes a template. -/
def templateMark : Char := Char.ofNat 0x60

/-- The units of a piece of a template, newest first before `known`, whether the template ends
behind it, and the place behind its closing mark. -/
def readPiece : Nat → Cursor → List UInt16 → Except ReadingFault (Utf16 × Bool × Cursor)
  | 0, _, _ => .error .endOfText
  | fuel + 1, cursor, known =>
      match cursor.rest with
      | [] => .error .endOfText
      | c :: rest =>
          if c == templateMark then .ok (.ofUnits known.reverse, true, cursor.skip 1)
          else if c == '$' && rest.head? == some (Char.ofNat 0x7B) then
            .ok (.ofUnits known.reverse, false, cursor.skip 2)
          else if c == '\r' then
            readPiece fuel (cursor.skip (if rest.head? == some '\n' then 2 else 1)) (10 :: known)
          else if c == '\\' then
            match escape? rest with
            | some (units, count) =>
                readPiece fuel (cursor.skip (count + 1)) (units.reverse ++ known)
            | none => .error (if rest.isEmpty then .endOfText else .badEscape)
          else readPiece fuel (cursor.skip 1) ((Utf16.unitsOfChar c).reverse ++ known)

/-- Remove the underscores between the digits of a numeral. -/
def withoutSeparators (cs : List Char) : List Char :=
  match cs with
  | d :: '_' :: e :: rest =>
      if d.isAlphanum && e.isAlphanum then d :: withoutSeparators (e :: rest)
      else d :: '_' :: withoutSeparators (e :: rest)
  | d :: rest => d :: withoutSeparators rest
  | [] => []

/-- The characters that a numeral can take, up to a point or a sign that does not belong to it. -/
def numeralLength : List Char → Bool → Bool → Nat
  | [], _, _ => 0
  | c :: rest, seenPoint, seenExponent =>
      if c.isDigit || c == '_' then 1 + numeralLength rest seenPoint seenExponent
      else if c == '.' && !seenPoint && !seenExponent then 1 + numeralLength rest true seenExponent
      else if (c == 'e' || c == 'E') && !seenExponent then
        match rest with
        | sign :: digit :: after =>
            if (sign == '+' || sign == '-') && digit.isDigit then
              3 + numeralLength after seenPoint true
            else if sign.isDigit then 2 + numeralLength (digit :: after) seenPoint true
            else 0
        | [digit] => if digit.isDigit then 2 else 0
        | [] => 0
      else 0

/-- Read a numeral. -/
def readNumeral (cursor : Cursor) : Except ReadingFault (Float × Cursor) :=
  let finish (x : Float) (after : Cursor) : Except ReadingFault (Float × Cursor) :=
    match after.rest with
    | c :: _ => if continuesName c then .error .badNumeral else .ok (x, after)
    | [] => .ok (x, after)
  let decimal : Except ReadingFault (Float × Cursor) :=
    let count := numeralLength cursor.rest false false
    match decimalAtStart? false (withoutSeparators (cursor.rest.take count)) with
    | some (x, []) => finish x (cursor.skip count)
    | _ => .error .badNumeral
  match cursor.rest with
  | '0' :: mark :: rest =>
      match baseOfMark? mark with
      | some base =>
          let digits := rest.takeWhile fun c => c.isAlphanum || c == '_'
          match digitsOfBase base (withoutSeparators digits) 0 0 with
          | (_ + 1, value, []) => finish (numberOfNat value) (cursor.skip (digits.length + 2))
          | _ => .error .badNumeral
      | none =>
          let digits := (mark :: rest).takeWhile Char.isDigit
          if !digits.isEmpty && digits.all (fun d => d ≤ '7') then
            finish (numberOfNat (digitsOfBase 8 digits 0 0).2.1) (cursor.skip (digits.length + 1))
          else decimal
  | _ => decimal

/-- The marks of more than one character, longer ones first. -/
def longMarks : List (List Char) :=
  [">>>=", "===", "!==", "**=", "<<=", ">>=", ">>>", "...", "&&=", "||=", "??=", "=>", "==", "!=",
    "<=", ">=", "&&", "||", "??", "?.", "++", "--", "+=", "-=", "*=", "/=", "%=", "&=", "|=", "^=",
    "<<", ">>", "**"].map String.toList

/-- The mark at the start of a text. A question mark and a point before a digit stay apart. -/
def markAt (cs : List Char) : List Char :=
  match longMarks.find? fun mark => mark.isPrefixOf cs with
  | some mark =>
      if mark == ['?', '.'] && ((cs.drop 2).head?.any Char.isDigit) then ['?'] else mark
  | none => cs.take 1

/-- One token and the place behind it. `depths` counts, for each template that is open, the braces
that are open in its expression. -/
def readToken (cursor : Cursor) (depths : List Nat) :
    Except ReadingFault (TokenKind × Cursor × List Nat) :=
  match cursor.rest with
  | [] => .ok (.finish, cursor, depths)
  | c :: rest =>
      let fuel := cursor.rest.length + 1
      let template (opens : Bool) (outer : List Nat) :=
        (readPiece fuel (cursor.skip 1) []).map fun (piece, closes, after) =>
          (TokenKind.template piece opens closes, after, if closes then outer else 0 :: outer)
      if startsName c then
        let (name, after) := cursor.spanWhile continuesName
        .ok (.name (String.ofList name), after, depths)
      else if c.isDigit || (c == '.' && rest.head?.any Char.isDigit) then
        (readNumeral cursor).map fun (x, after) => (.number x, after, depths)
      else if c == '"' || c == '\'' then
        (readText c fuel (cursor.skip 1) []).map fun (t, after) => (.text t, after, depths)
      else if c == templateMark then template true depths
      else if c == '#' then
        let (name, after) := (cursor.skip 1).spanWhile continuesName
        match name with
        | first :: _ =>
            if startsName first then .ok (.privateName (String.ofList (c :: name)), after, depths)
            else .error .badPrivateName
        | [] => .error .badPrivateName
      else if 128 ≤ c.toNat then .error .unexpectedCharacter
      else
        let mark := markAt (c :: rest)
        let token := (TokenKind.mark (String.ofList mark), cursor.skip mark.length)
        match mark, depths with
        | ['\x7b'], depth :: outer => .ok (token.1, token.2, (depth + 1) :: outer)
        | ['\x7d'], 0 :: outer => template false outer
        | ['\x7d'], (depth + 1) :: outer => .ok (token.1, token.2, depth :: outer)
        | _, _ => .ok (token.1, token.2, depths)

/-- The tokens of the rest of a script. The last one is the finish or a fault. -/
def readTokens : Nat → Cursor → List Nat → List Token
  | 0, cursor, _ => [⟨.finish, cursor.place, cursor.place, false⟩]
  | fuel + 1, cursor, depths =>
      match skipBlanks? (cursor.rest.length + 1) cursor false with
      | none => [⟨.fault .endOfComment, cursor.place, cursor.place, false⟩]
      | some (cursor, afterLine) =>
          match readToken cursor depths with
          | .error fault => [⟨.fault fault, cursor.place, cursor.place, afterLine⟩]
          | .ok (.finish, _) => [⟨.finish, cursor.place, cursor.place, afterLine⟩]
          | .ok (kind, after, depths) =>
              ⟨kind, cursor.place, after.place, afterLine⟩ :: readTokens fuel after depths

/-- The tokens of a script. -/
def tokensOf (chars : List Char) : List Token :=
  readTokens (chars.length + 1) ⟨chars, 0⟩ []

end BotBench.Script
