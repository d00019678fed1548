import BotBench.Mining.Literal
import BotBench.Proofs.Mining.Reading

/-! # How a text is spelled in a literal

Between the quotes of a literal a character stands for itself, or for another one behind a
backslash. A literal spells a text when its characters do so one after the other; the reader of
literals reads what is spelled and nothing else (`BotBench.Mining.readLiteral_eq_some_iff`). An
escaped text is one of the ways to spell it (`BotBench.Mining.isLiteral_quoteLiteral`). -/

namespace BotBench.Mining

open Text

variable {quote mark c : Char} {text raw cs rest : List Char}

/-- What a character stands for behind a backslash. Nothing stands for a newline but a letter. -/
inductive StandsFor : Char → Char → Prop
  | newline : StandsFor 'n' '\n'
  | tab : StandsFor 't' '\t'
  | carriageReturn : StandsFor 'r' '\r'
  | itself {c : Char} (other : c ∉ ['n', 't', 'r', '\n']) : StandsFor c c

/-- The text that raw characters between two quotes spell. -/
inductive Spells (quote : Char) : List Char → List Char → Prop
  | nil : Spells quote [] []
  | plain {c : Char} {text raw : List Char} (noQuote : c ≠ quote) (noSlash : c ≠ '\\')
      (noLine : c ≠ '\n') (later : Spells quote text raw) : Spells quote (c :: text) (c :: raw)
  | escaped {mark c : Char} {text raw : List Char} (stands : StandsFor mark c)
      (later : Spells quote text raw) : Spells quote (c :: text) ('\\' :: mark :: raw)

/-- A literal of a text, in either kind of quotes. -/
inductive IsLiteral (text : List Char) : List Char → Prop
  | intro {quote : Char} {raw : List Char} (quoted : isQuote quote = true)
      (spells : Spells quote text raw) : IsLiteral text (quote :: (raw ++ [quote]))

theorem standsFor_iff : StandsFor mark c ↔ mark ≠ '\n' ∧ unescape mark = c := by
  constructor
  · intro stands
    cases stands with
    | newline | tab | carriageReturn => decide
    | itself other =>
        simp only [List.mem_cons, List.not_mem_nil, or_false, not_or] at other
        simp [unescape, other]
  · rintro ⟨noLine, rfl⟩
    by_cases letter : mark = 'n' ∨ mark = 't' ∨ mark = 'r'
    · rcases letter with rfl | rfl | rfl
      · exact .newline
      · exact .tab
      · exact .carriageReturn
    · simp only [not_or] at letter
      have same : unescape mark = mark := by simp [unescape, letter]
      rw [same]
      exact .itself (by simp [letter, noLine])

theorem decodeLiteral_cons (noSlash : c ≠ '\\') (raw : List Char) :
    decodeLiteral (c :: raw) = c :: decodeLiteral raw := by
  cases raw <;> simp [decodeLiteral, noSlash]

/-- The decoder takes the same characters for escapes as the spelling does. -/
theorem Spells.decodeLiteral (spells : Spells quote text raw) : decodeLiteral raw = text := by
  induction spells with
  | nil => rfl
  | plain _ noSlash _ _ ih => rw [decodeLiteral_cons noSlash, ih]
  | escaped stands _ ih => rw [Mining.decodeLiteral, (standsFor_iff.mp stands).2, ih]

/-- The raw characters end at the first quote that no backslash takes. -/
theorem Spells.rawLiteral (spells : Spells quote text raw) (noSlash : quote ≠ '\\')
    (rest : List Char) : rawLiteral quote (raw ++ quote :: rest) = some (raw, rest) := by
  induction spells with
  | nil => simp [rawLiteral_cons noSlash]
  | plain noQuote noSlash noLine _ ih =>
      rw [List.cons_append, rawLiteral_cons noSlash, if_neg noQuote, if_neg noLine, ih]
      rfl
  | escaped stands _ ih =>
      have noLine := (standsFor_iff.mp stands).1
      simp [Mining.rawLiteral, noLine, ih]

theorem spells_of_rawLiteral {after : List Char} (found : rawLiteral quote cs = some (raw, after)) :
    cs = raw ++ quote :: after ∧ Spells quote (decodeLiteral raw) raw := by
  fun_induction rawLiteral quote cs generalizing raw with
  | case1 => cases found
  | case2 => cases found
  | case3 c rest noLine ih =>
      obtain ⟨⟨later, behind⟩, read, same⟩ := Option.map_eq_some_iff.mp found
      cases same
      obtain ⟨rfl, spells⟩ := ih read
      have stands : StandsFor c (unescape c) := standsFor_iff.mpr ⟨by simpa using noLine, rfl⟩
      exact ⟨rfl, .escaped stands spells⟩
  | case4 c rest _ closes =>
      cases found
      exact ⟨by simpa using closes, .nil⟩
  | case5 => cases found
  | case6 c rest _ noQuote inside ih =>
      obtain ⟨⟨later, behind⟩, read, same⟩ := Option.map_eq_some_iff.mp found
      cases same
      obtain ⟨rfl, spells⟩ := ih read
      simp only [Bool.or_eq_true, beq_iff_eq, not_or] at noQuote inside
      rw [decodeLiteral_cons inside.2]
      exact ⟨rfl, .plain noQuote inside.2 inside.1 spells⟩

/-- A literal is read, whatever follows it. -/
theorem IsLiteral.readLiteral {literal : List Char} (isLiteral : IsLiteral text literal)
    (rest : List Char) : readLiteral (literal ++ rest) = some (text, rest) := by
  obtain @⟨quote, raw, quoted, spells⟩ := isLiteral
  have noSlash : quote ≠ '\\' := by
    rintro rfl
    revert quoted
    decide
  have quotes : (quote == '"' || quote == '\'') = true := quoted
  rw [List.cons_append, List.append_assoc, List.singleton_append, Mining.readLiteral,
    if_pos quotes, spells.rawLiteral noSlash, Option.map_some]
  dsimp only
  rw [spells.decodeLiteral]

theorem IsLiteral.head_solid {literal : List Char} (isLiteral : IsLiteral text literal)
    (rest : List Char) : ∀ c ∈ (literal ++ rest).head?, isBlank c = false := by
  obtain ⟨quoted, -⟩ := isLiteral
  simpa using isBlank_of_isQuote quoted

/-- **The reader of literals is exact.** It reads a text off the literals that spell it, whatever
follows them, and off nothing else. -/
theorem readLiteral_eq_some_iff :
    readLiteral cs = some (text, rest) ↔
      ∃ literal, cs = literal ++ rest ∧ IsLiteral text literal := by
  constructor
  · intro found
    cases cs with
    | nil => cases found
    | cons quote cs =>
        rw [readLiteral] at found
        split at found
        next quoted =>
          obtain ⟨⟨raw, behind⟩, read, same⟩ := Option.map_eq_some_iff.mp found
          cases same
          obtain ⟨rfl, spells⟩ := spells_of_rawLiteral read
          exact ⟨quote :: (raw ++ [quote]), by simp, .intro quoted spells⟩
        next => cases found
  · rintro ⟨literal, rfl, isLiteral⟩
    exact isLiteral.readLiteral rest

/-- A character is spelled by its escape. -/
theorem Spells.escapeChar (quoted : isQuote quote = true) (c : Char)
    (later : Spells quote text raw) : Spells quote (c :: text) (escapeChar quote c ++ raw) := by
  simp only [isQuote, Bool.or_eq_true, beq_iff_eq] at quoted
  unfold Mining.escapeChar
  by_cases special : c = '\\' ∨ c = quote
  · have stands : StandsFor c c := by
      refine .itself ?_
      rcases special with rfl | rfl
      · decide
      · rcases quoted with rfl | rfl <;> decide
    simpa [special] using Spells.escaped stands later
  · rw [not_or] at special
    by_cases control : c = '\n' ∨ c = '\t' ∨ c = '\r'
    · rcases control with rfl | rfl | rfl
      · simpa [special] using Spells.escaped .newline later
      · simpa [special] using Spells.escaped .tab later
      · simpa [special] using Spells.escaped .carriageReturn later
    · simp only [not_or] at control
      simpa [special, control] using Spells.plain special.2 special.1 control.1 later

theorem spells_escaped (quoted : isQuote quote = true) (text : List Char) :
    Spells quote text (text.flatMap (escapeChar quote)) := by
  induction text with
  | nil => exact .nil
  | cons c text ih =>
      rw [List.flatMap_cons]
      exact ih.escapeChar quoted c

theorem isLiteral_quoteLiteral (quoted : isQuote quote = true) (text : List Char) :
    IsLiteral text (quoteLiteral quote text) :=
  .intro quoted (spells_escaped quoted text)

end BotBench.Mining
