import BotBench.Text.Word
import BotBench.Text.Blank

/-! # Searching a source

A recogniser accepts a form at the front of a text and returns what it found and what stands behind
it. A call is looked for at every place that is not inside a word; of several places the first
counts. -/

namespace BotBench.Mining

open Text

/-- A recogniser of a form at the front of a text. -/
abbrev Recogniser (α : Type) := List Char → Option (α × List Char)

/-- The text behind a fixed word, if it begins with it. -/
def afterWord? : List Char → List Char → Option (List Char)
  | [], cs => some cs
  | w :: word, c :: cs => if w == c then afterWord? word cs else none
  | _ :: _, [] => none

/-- A text without blanks in front. -/
def skipBlanks (cs : List Char) : List Char := cs.dropWhile isBlank

/-- The text behind an optional run of blanks and a fixed character. -/
def afterMark? (mark : Char) (cs : List Char) : Option (List Char) :=
  match skipBlanks cs with
  | c :: rest => if c == mark then some rest else none
  | [] => none

/-- The text behind the opening of a call: the name, blanks, a parenthesis, blanks. -/
def afterCallOpen? (name : List Char) (cs : List Char) : Option (List Char) :=
  match afterWord? name cs with
  | some rest => (afterMark? '(' rest).map skipBlanks
  | none => none

/-- The text behind blanks and the comma or parenthesis that ends an argument. -/
def afterArgument? (cs : List Char) : Option (List Char) :=
  match skipBlanks cs with
  | c :: rest => if c == ',' || c == ')' then some rest else none
  | [] => none

/-- The first acceptance at a place that is not behind a word character; `inWord` says whether the
text stands behind one. -/
def searchWord {α : Type} (accept : Recogniser α) (inWord : Bool) : Recogniser α
  | [] => none
  | c :: rest =>
      match if inWord then none else accept (c :: rest) with
      | some found => some found
      | none => searchWord accept (isWord c) rest

/-- All acceptances from left to right that do not overlap, at most `fuel` of them. An accepted form
ends in a character that is no word character. -/
def searchAll {α : Type} (accept : Recogniser α) (inWord : Bool) : Nat → List Char → List α
  | 0, _ => []
  | fuel + 1, cs =>
      match searchWord accept inWord cs with
      | some (found, rest) => found :: searchAll accept false fuel rest
      | none => []

end BotBench.Mining
