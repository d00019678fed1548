import BotBench.Proofs.Mining.Reading

/-! # Words that end longer words

A call is not looked for inside of a word, so that the end of a longer name is no call. A search
passes a piece of a source in which the name of the call stands only as the end of longer words
(`BotBench.Mining.OpensWith.searchWord_passes`), whatever else the piece holds and whatever follows
it. -/

namespace BotBench.Mining

open Text

variable {α : Type} {accept : Recogniser α} {word piece rest : List Char}

/-- A piece of a text in which a word stands only as the end of a longer word, and behind which no
word goes on. -/
structure Passes (word piece : List Char) : Prop where
  ended : ∀ c ∈ piece.getLast?, isWord c = false
  inside : ∀ front back, piece = front ++ (word ++ back) →
    ∃ c ∈ front.getLast?, isWord c = true

theorem passes_iff :
    Passes word piece ↔ (piece.getLast?.all fun c => !isWord c) = true ∧
      ∀ place ∈ List.range (piece.length + 1), word <+: piece.drop place →
        (piece.take place).getLast?.any isWord = true := by
  constructor
  · rintro ⟨ended, inside⟩
    refine ⟨by simpa [Option.all_eq_true] using ended, ?_⟩
    rintro place - ⟨back, begins⟩
    have split : piece = piece.take place ++ (word ++ back) := by
      rw [begins, List.take_append_drop]
    obtain ⟨c, last, named⟩ := inside _ back split
    simp [Option.mem_def.mp last, named]
  · rintro ⟨ended, inside⟩
    refine ⟨by simpa [Option.all_eq_true] using ended, fun front back split => ?_⟩
    have begins : word <+: piece.drop front.length := ⟨back, by simp [split]⟩
    have place : front.length ∈ List.range (piece.length + 1) := by
      rw [List.mem_range, split, List.length_append]
      omega
    have last := inside front.length place begins
    rw [split, List.take_left] at last
    simpa [Option.any_eq_true] using last

instance : Decidable (Passes word piece) := decidable_of_iff _ passes_iff.symm

theorem Passes.wordless_end (passes : Passes word piece) : endsInWord false piece = false := by
  have ended := passes.ended
  unfold endsInWord
  cases last : piece.getLast? with
  | none => rfl
  | some c => exact ended c last

/-- A word does not begin in such a piece, neither as a whole nor as a word that goes on behind the
piece. -/
theorem Passes.absent (passes : Passes word piece) (named : ∀ c ∈ word, isWord c = true)
    {front back : List Char} (split : piece = front ++ back) (some_left : back ≠ [])
    (apart : endsInWord false front = false) (rest : List Char) :
    afterWord? word (back ++ rest) = none := by
  rw [Option.eq_none_iff_forall_ne_some]
  intro behind found
  rcases List.append_eq_append_iff.mp (afterWord?_eq_some found) with
    ⟨_, rfl, -⟩ | ⟨after, rfl, -⟩
  · -- the last character of the piece would belong to the word
    obtain ⟨ahead, c, rfl⟩ := (List.eq_nil_or_concat back).resolve_left some_left
    have ended : isWord c = false := passes.ended c (by simp [split])
    rw [named c (by simp)] at ended
    cases ended
  · obtain ⟨c, last, word⟩ := passes.inside front after split
    simp [endsInWord, Option.mem_def.mp last, word] at apart

section Passed

variable (opens : OpensWith accept word) (named : ∀ c ∈ word, isWord c = true)
  (passes : Passes word piece)

include opens named passes

theorem OpensWith.searchWord_passes (rest : List Char) :
    searchWord accept false (piece ++ rest) = searchWord accept false rest := by
  have passed := @searchWord_of_refused _ accept piece rest false
    fun front back split some_left apart =>
      opens _ (passes.absent named split some_left apart rest)
  rwa [passes.wordless_end] at passed

theorem OpensWith.searchAll_passes (fuel : Nat) (rest : List Char) :
    Mining.searchAll accept false fuel (piece ++ rest) =
      Mining.searchAll accept false fuel rest := by
  cases fuel with
  | zero => rfl
  | succ fuel => simp only [Mining.searchAll, opens.searchWord_passes named passes]

end Passed

end BotBench.Mining
