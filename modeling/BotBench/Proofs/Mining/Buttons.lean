import BotBench.Proofs.Mining.Passing
import BotBench.Proofs.Mining.Spelling

/-! # The buttons of a body

The buttons of a body are mined by one scan from left to right. When calls that make buttons stand
between pieces of text in which no such call begins, the scan finds the text of each call, in order
and nothing else, however the calls are laid out and whatever their texts look like
(`BotBench.Mining.buttonTexts_interleaved`). -/

namespace BotBench.Mining

open Text

/-- A call that makes a button, with blanks between its parts. -/
structure ButtonCall where
  text : String
  quote : Char
  gap : List Char := []
  inner : List Char := []
  outer : List Char := []
  mark : Char := ')'
  quoted : isQuote quote = true
  gap_blank : ∀ c ∈ gap, isBlank c = true
  inner_blank : ∀ c ∈ inner, isBlank c = true
  outer_blank : ∀ c ∈ outer, isBlank c = true
  mark_ends : mark = ',' ∨ mark = ')'

/-- A piece of text between calls. The name of the call may stand in it as the end of a longer name
only. -/
structure Separator where
  text : List Char
  passes : Passes buttonCall text

/-- The call as it is written, with its text escaped, up to the mark that ends its first argument.
-/
def ButtonCall.written (call : ButtonCall) : List Char :=
  buttonCall ++ (call.gap ++ '(' :: (call.inner ++
    (quoteLiteral call.quote call.text.toList ++ (call.outer ++ [call.mark]))))

/-- Calls that make buttons, each with the text behind it. -/
def interleaved (front : Separator) : List (ButtonCall × Separator) → List Char
  | [] => front.text
  | (call, next) :: calls => front.text ++ (call.written ++ interleaved next calls)

/-- A call that makes a button is read, whatever follows it. -/
theorem ButtonCall.buttonLiteral (call : ButtonCall) (rest : List Char) :
    buttonLiteral (call.written ++ rest) = some (call.text.toList, rest) := by
  have isLiteral := isLiteral_quoteLiteral call.quoted call.text.toList
  have opened := afterCallOpen?_spaced buttonCall call.gap_blank call.inner_blank
    (isLiteral.head_solid (call.outer ++ call.mark :: rest))
  simp only [written, Mining.buttonLiteral, List.append_assoc, List.cons_append, List.nil_append,
    opened, Option.bind_some, isLiteral.readLiteral, afterArgument?_append call.outer_blank
    call.mark_ends, Option.map_some]

theorem ButtonCall.written_ne_nil (call : ButtonCall) (rest : List Char) :
    call.written ++ rest ≠ [] :=
  List.append_ne_nil_of_left_ne_nil (List.append_ne_nil_of_left_ne_nil (by decide) _) _

theorem isWord_buttonCall : ∀ c ∈ buttonCall, isWord c = true :=
  List.all_eq_true.mp (by decide)

theorem Separator.searchAll (front : Separator) (fuel : Nat) (rest : List Char) :
    searchAll buttonLiteral false fuel (front.text ++ rest) =
      searchAll buttonLiteral false fuel rest :=
  opensWith_buttonLiteral.searchAll_passes isWord_buttonCall front.passes fuel rest

/-- The scan takes one call after the other, going on behind the mark of each. -/
theorem searchAll_interleaved (front : Separator) (calls : List (ButtonCall × Separator))
    {fuel : Nat} (enough : calls.length ≤ fuel) :
    searchAll buttonLiteral false fuel (interleaved front calls) =
      calls.map fun call => call.1.text.toList := by
  induction calls generalizing front fuel with
  | nil =>
      have passed := front.searchAll fuel []
      rw [List.append_nil] at passed
      rw [interleaved, passed]
      cases fuel <;> rfl
  | cons pair calls ih =>
      obtain ⟨call, next⟩ := pair
      obtain ⟨fuel, rfl⟩ : ∃ less, fuel = less + 1 := ⟨fuel - 1, by simp at enough; omega⟩
      rw [interleaved, front.searchAll, searchAll,
        searchWord_of_accepted (call.buttonLiteral _) (call.written_ne_nil _)]
      dsimp only
      rw [ih next (by simpa using enough), List.map_cons]

theorem length_le_length_interleaved (front : Separator) (calls : List (ButtonCall × Separator)) :
    calls.length ≤ (interleaved front calls).length := by
  induction calls generalizing front with
  | nil => simp
  | cons pair calls ih =>
      obtain ⟨call, next⟩ := pair
      have later := ih next
      have here := List.length_pos_iff.mpr (call.written_ne_nil [])
      simp only [interleaved, List.length_append, List.length_cons, List.append_nil] at later here ⊢
      omega

/-- **The scan for buttons is exact.** It loses, adds and reorders none of the texts. -/
theorem buttonTexts_interleaved (front : Separator) (calls : List (ButtonCall × Separator)) :
    buttonTexts (String.ofList (interleaved front calls)) = calls.map fun call => call.1.text := by
  have enough := length_le_length_interleaved front calls
  rw [buttonTexts, String.toList_ofList, String.length_ofList, searchAll_interleaved front calls
    enough, List.map_map]
  simp

/-- The end of a longer name between two calls. -/
def Separator.inline : Separator where
  text := "[InlineKeyboardButton('no'), ".toList
  passes := by decide

/-- A call whose text looks like another call, with a quote and a backslash at its end. -/
def ButtonCall.nested : ButtonCall where
  text := "KeyboardButton(\"a\") \\"
  quote := '"'
  inner := [' ']
  mark := ','
  quoted := rfl
  gap_blank := List.all_eq_true.mp rfl
  inner_blank := List.all_eq_true.mp rfl
  outer_blank := List.all_eq_true.mp rfl
  mark_ends := .inl rfl

/-- The text of a call is not scanned for further calls, and neither are longer names. -/
theorem buttonTexts_interleaved_nested :
    interleaved .inline [(.nested, .inline), (.nested, .inline)] =
        ("[InlineKeyboardButton('no'), KeyboardButton( \"KeyboardButton(\\\"a\\\") \\\\\"," ++
          "[InlineKeyboardButton('no'), KeyboardButton( \"KeyboardButton(\\\"a\\\") \\\\\"," ++
          "[InlineKeyboardButton('no'), ").toList ∧
      buttonTexts (String.ofList (interleaved .inline [(.nested, .inline), (.nested, .inline)])) =
        ["KeyboardButton(\"a\") \\", "KeyboardButton(\"a\") \\"] :=
  ⟨by decide +kernel, buttonTexts_interleaved _ _⟩

end BotBench.Mining
