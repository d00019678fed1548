import BotBench.Mining.Search

/-! # The body of a function

The header of a function stands at the start of a line. Its body is the text behind the header's
colon up to the next line that starts a definition in column zero. -/

namespace BotBench.Mining

open Text

/-- A space or a tab. -/
def isGap (c : Char) : Bool := c == ' ' || c == '\t'

/-- The text behind one or more spaces or tabs. -/
def afterGap? : List Char → Option (List Char)
  | c :: rest => if isGap c then some (rest.dropWhile isGap) else none
  | [] => none

/-- The text behind `word` and at least one space or tab, where the gap may leave some of its
characters to `next`; the longest gap is tried first. -/
def gapThen {α : Type} (next : List Char → Option α) : List Char → Option α
  | [] => none
  | c :: rest => if isGap c then (gapThen next rest).orElse fun _ => next rest else none

/-- The text behind a closing parenthesis inside of which parentheses nest at most one level;
`inner` says whether an inner one is open. -/
def afterParameters? (inner : Bool) : List Char → Option (List Char)
  | [] => none
  | '(' :: rest => if inner then none else afterParameters? true rest
  | ')' :: rest => if inner then afterParameters? false rest else some rest
  | _ :: rest => afterParameters? inner rest

/-- The text behind the colon that ends an annotation. Between the arrow and the colon stands, on
one line, at least one character that is no colon; the last blank may be that character. -/
def afterAnnotation? (cs : List Char) : Option (List Char) :=
  let blanks := cs.takeWhile isBlank
  let rest := cs.dropWhile isBlank
  let written := rest.takeWhile fun c => c != ':' && c != '\n'
  match rest.dropWhile fun c => c != ':' && c != '\n' with
  | ':' :: after =>
      if !written.isEmpty || (!blanks.isEmpty && blanks.getLast? != some '\n') then some after
      else none
  | _ => none

/-- The text behind the colon of a header, behind its parameters: an optional annotation comes
first. -/
def afterResult? (cs : List Char) : Option (List Char) :=
  match skipBlanks cs with
  | ':' :: rest => some rest
  | '-' :: '>' :: rest => afterAnnotation? rest
  | _ => none

/-- The text behind a function's name, its parameters and its colon. -/
def afterSignature? (name : List Char) (cs : List Char) : Option (List Char) :=
  match afterWord? name cs with
  | none => none
  | some rest =>
      match afterMark? '(' rest with
      | none => none
      | some rest =>
          match afterParameters? false rest with
          | none => none
          | some rest => afterResult? rest

/-- The text behind `def`, a gap and the rest of a header. -/
def afterDefinition? (name : List Char) (cs : List Char) : Option (List Char) :=
  match afterWord? "def".toList cs with
  | some rest => gapThen (afterSignature? name) rest
  | none => none

/-- The text behind a function's header, the text being the start of a line. -/
def afterHeader? (name : List Char) (cs : List Char) : Option (List Char) :=
  let cs := cs.dropWhile isGap
  match (afterWord? "async".toList cs).bind afterGap? with
  | some rest => afterDefinition? name rest
  | none => afterDefinition? name cs

/-- The text behind the first header of a function; `atLineStart` says whether the text stands at
the start of a line. -/
def searchHeader (name : List Char) (atLineStart : Bool) : List Char → Option (List Char)
  | [] => none
  | c :: rest =>
      match if atLineStart then afterHeader? name (c :: rest) else none with
      | some after => some after
      | none => searchHeader name (c == '\n') rest

/-- Whether a text is at its end or continues with a character that is no word character. -/
def atWordEnd : List Char → Bool
  | [] => true
  | c :: _ => !isWord c

/-- Whether a text begins with a whole word. -/
def startsWithWord (word : String) (cs : List Char) : Bool :=
  (afterWord? word.toList cs).any atWordEnd

/-- Whether a line that begins with this text starts a definition in column zero. -/
def startsDefinition (cs : List Char) : Bool :=
  startsWithWord "def" cs || startsWithWord "class" cs ||
    ((afterWord? "async".toList cs).bind afterGap?).any (startsWithWord "def")

/-- A text up to the first line that starts a definition in column zero. -/
def untilDefinition (atLineStart : Bool) : List Char → List Char
  | [] => []
  | c :: rest =>
      if atLineStart && startsDefinition (c :: rest) then []
      else c :: untilDefinition (c == '\n') rest

/-- The body of a function in a source. -/
def functionBody? (source name : String) : Option String :=
  (searchHeader name.toList true source.toList).map fun rest =>
    String.ofList (untilDefinition false rest)

end BotBench.Mining
