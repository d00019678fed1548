import BotBench.Proofs.Mining.Header

/-! # Bodies of functions

The body that is found for a function is what stands between its first header and the next line that
starts a definition in column zero (`BotBench.Mining.functionBody?_exact`). -/

namespace BotBench.Mining

open Text

variable {cs body rest text : List Char}

/-! ## Definitions in column zero -/

/-- The keyword of a definition. -/
inductive IsKeyword : List Char → Prop
  | function : IsKeyword "def".toList
  | type : IsKeyword "class".toList
  | async {gap : List Char} (isGap : IsGap gap) :
      IsKeyword ("async".toList ++ (gap ++ "def".toList))

/-- A text begins with the keyword of a definition as a whole word. -/
def StartsDefinition (cs : List Char) : Prop :=
  ∃ keyword rest, cs = keyword ++ rest ∧ IsKeyword keyword ∧ ∀ c ∈ rest.head?, isWord c = false

theorem startsWithWord_iff (word : String) :
    startsWithWord word cs = true ↔
      ∃ rest, cs = word.toList ++ rest ∧ ∀ c ∈ rest.head?, isWord c = false := by
  have ended (rest : List Char) : atWordEnd rest = true ↔ ∀ c ∈ rest.head?, isWord c = false := by
    cases rest <;> simp [atWordEnd]
  rw [startsWithWord, Option.any_eq_true]
  constructor
  · rintro ⟨rest, found, isEnd⟩
    exact ⟨rest, afterWord?_eq_some found, (ended rest).mp isEnd⟩
  · rintro ⟨rest, rfl, isEnd⟩
    exact ⟨rest, afterWord?_append _ _, (ended rest).mpr isEnd⟩

theorem startsDefinition_iff : startsDefinition cs = true ↔ StartsDefinition cs := by
  rw [startsDefinition, Bool.or_eq_true, Bool.or_eq_true, startsWithWord_iff, startsWithWord_iff,
    Option.any_eq_true]
  constructor
  · rintro ((⟨rest, split, ended⟩ | ⟨rest, split, ended⟩) | ⟨back, spaced, starts⟩)
    · exact ⟨_, rest, split, .function, ended⟩
    · exact ⟨_, rest, split, .type, ended⟩
    · obtain ⟨ahead, async, spaced⟩ := Option.bind_eq_some_iff.mp spaced
      obtain ⟨gap, rfl, isGap⟩ := gap_of_afterGap spaced
      obtain ⟨rest, rfl, ended⟩ := (startsWithWord_iff _).mp starts
      exact ⟨_, rest, by rw [afterWord?_eq_some async]; simp, .async isGap, ended⟩
  · rintro ⟨keyword, rest, rfl, isKeyword, ended⟩
    cases isKeyword with
    | function => exact .inl (.inl ⟨rest, rfl, ended⟩)
    | type => exact .inl (.inr ⟨rest, rfl, ended⟩)
    | async isGap =>
        have spaced := @afterGap?_append ("def".toList ++ rest) _ isGap (by
          rintro _ ⟨rfl⟩
          decide)
        refine .inr ⟨"def".toList ++ rest, ?_, (startsWithWord_iff _).mpr ⟨rest, rfl, ended⟩⟩
        rw [List.append_assoc, List.append_assoc, afterWord?_append]
        exact spaced

/-! ## Where a body ends -/

/-- A text is cut from what is left of a source in front of the first line that starts a definition;
`atLineStart` says whether the text stands at the start of a line. -/
structure IsCut (atLineStart : Bool) (body rest : List Char) : Prop where
  ends : rest = [] ∨
    freeBehind (· == '\n') atLineStart body = true ∧ StartsDefinition rest
  first : ∀ front back, body = front ++ back → back ≠ [] →
    freeBehind (· == '\n') atLineStart front = true → ¬StartsDefinition (back ++ rest)

theorem isCut_untilDefinition (atLineStart : Bool) (cs : List Char) :
    ∃ rest, cs = untilDefinition atLineStart cs ++ rest ∧
      IsCut atLineStart (untilDefinition atLineStart cs) rest := by
  induction cs generalizing atLineStart with
  | nil =>
      refine ⟨[], rfl, .inl rfl, ?_⟩
      intro front back split some_left
      exact absurd (List.append_eq_nil_iff.mp split.symm).2 some_left
  | cons c cs ih =>
      rw [untilDefinition]
      split
      next starts =>
        obtain ⟨isStart, starts⟩ := Bool.and_eq_true_iff.mp starts
        refine ⟨c :: cs, rfl, .inr ⟨isStart, startsDefinition_iff.mp starts⟩, ?_⟩
        intro front back split some_left
        exact absurd (List.append_eq_nil_iff.mp split.symm).2 some_left
      next inside =>
        obtain ⟨rest, split, ends, first⟩ := ih (c == '\n')
        refine ⟨rest, by rw [List.cons_append, ← split], by rwa [freeBehind_cons], ?_⟩
        intro front back split' some_left isStart
        cases front with
        | nil =>
            rw [List.nil_append] at split'
            rw [← split', List.cons_append, ← split, ← startsDefinition_iff]
            intro starts
            exact inside (Bool.and_eq_true_iff.mpr ⟨isStart, starts⟩)
        | cons d ds =>
            obtain ⟨rfl, tails⟩ := List.cons.inj split'
            rw [freeBehind_cons] at isStart
            exact first ds back tails some_left isStart

/-- Of two cuts of one text neither is behind the other. -/
theorem IsCut.length_le {atLineStart : Bool} {body' rest' : List Char}
    (cut : IsCut atLineStart body rest) (cut' : IsCut atLineStart body' rest')
    (same : body ++ rest = body' ++ rest') : body'.length ≤ body.length := by
  by_contra longer
  obtain ⟨back, split, tail⟩ | ⟨back, split, -⟩ := List.append_eq_append_iff.mp same
  · have some_left : back ≠ [] := by
      rintro rfl
      simp [split] at longer
    rcases cut.ends with none_left | ⟨isStart, starts⟩
    · rw [none_left] at tail
      exact some_left (List.append_eq_nil_iff.mp tail.symm).1
    · exact cut'.first body back split some_left isStart (tail ▸ starts)
  · simp [split] at longer

/-- **The search for the end of a body is exact.** -/
theorem untilDefinition_eq_iff {atLineStart : Bool} :
    untilDefinition atLineStart cs = body ↔ ∃ rest, cs = body ++ rest ∧
      IsCut atLineStart body rest := by
  obtain ⟨rest, split, cut⟩ := isCut_untilDefinition atLineStart cs
  constructor
  · rintro rfl
    exact ⟨rest, split, cut⟩
  · rintro ⟨rest', split', cut'⟩
    have same := split.symm.trans split'
    exact (List.append_inj same (le_antisymm (cut'.length_le cut same.symm)
      (cut.length_le cut' same))).1

theorem IsKeyword.last {keyword : List Char} (isKeyword : IsKeyword keyword) :
    ∃ front c, keyword = front ++ [c] ∧ c ≠ '\n' := by
  cases isKeyword with
  | function => exact ⟨['d', 'e'], 'f', rfl, by decide⟩
  | type => exact ⟨['c', 'l', 'a', 's'], 's', rfl, by decide⟩
  | @async gap =>
      exact ⟨"async".toList ++ (gap ++ ['d', 'e']), 'f', by simp, by decide⟩

/-- No line of a body starts a definition, be it cut behind the keyword. -/
theorem IsCut.no_definition (cut : IsCut false body rest) {front back : List Char}
    (line : body = front ++ '\n' :: back) : ¬StartsDefinition back := by
  rintro ⟨keyword, behind, rfl, isKeyword, ended⟩
  have line' : body = (front ++ ['\n']) ++ (keyword ++ behind) := by simpa using line
  obtain ⟨ahead, last, rfl, plain⟩ := isKeyword.last
  refine cut.first _ _ line' (by simp) (by simp [freeBehind])
    ⟨_, behind ++ rest, List.append_assoc _ _ _, isKeyword, ?_⟩
  cases behind with
  | cons c cs => exact ended
  | nil =>
      -- the keyword would be the end of the body, which is at the end of a line
      rcases cut.ends with rfl | ⟨isStart, -⟩
      · simp
      · rw [line', List.append_nil, ← List.append_assoc, freeBehind, List.getLast?_concat]
          at isStart
        exact absurd (beq_iff_eq.mp isStart) plain

/-! ## The body of a function -/

section Named

variable {name : List Char} (named : name ≠ []) (word : ∀ c ∈ name, isWord c = true)

include named word

theorem exact_header :
    Recogniser.Exact (fun cs => (afterHeader? name cs).map ((), ·)) fun _ => IsHeader name where
  sound accepted := by
    obtain ⟨rest, found, same⟩ := Option.map_eq_some_iff.mp accepted
    cases same
    exact (afterHeader?_eq_some_iff named word).mp found
  complete {_ text} rest isHeader := by
    rw [(afterHeader?_eq_some_iff named word).mpr ⟨text, rfl, isHeader⟩]
    rfl
  filled {_} isHeader := by
    have found : afterHeader? name [] = some [] :=
      (afterHeader?_eq_some_iff named word).mpr ⟨[], rfl, isHeader⟩
    cases found

end Named

theorem searches_searchHeader (name : List Char) :
    Searches (fun atLineStart cs => (searchHeader name atLineStart cs).map (((), ·) : _ → Unit × _))
      (fun cs => (afterHeader? name cs).map ((), ·)) (· == '\n') where
  nil _ := rfl
  cons atLineStart c cs := by
    rw [searchHeader]
    cases atLineStart
    · rfl
    · cases afterHeader? name (c :: cs) <;> rfl

/-- **The body of a function is exact.** A body is found if and only if the source has a header of
the function at the start of a line. It is what stands behind the first header up to the first line
that starts a definition, or up to the end of the source. -/
theorem functionBody?_exact (source name : String) (named : name ≠ "")
    (word : ∀ c ∈ name.toList, isWord c = true) :
    ((functionBody? source name).isSome = true ↔
      ∃ front header back,
        Occurs (· == '\n') (IsHeader name.toList) source.toList front header back) ∧
    ∀ body : String, functionBody? source name = some body ↔
      ∃ front header rest,
        OccursFirst (· == '\n') (IsHeader name.toList) source.toList front header
          (body.toList ++ rest) ∧
        IsCut false body.toList rest ∧
        ∀ line back, body.toList = line ++ '\n' :: back → ¬StartsDefinition back := by
  have exact := @exact_header name.toList (by simpa using named) word
  have searches := searches_searchHeader name.toList
  have found_iff (rest : List Char) :=
    @Recogniser.Exact.search_iff _ _ _ _ _ source.toList rest () exact searches
  have isSome_iff := @Recogniser.Exact.search_isSome_iff _ _ _ _ _ source.toList exact searches
  simp only [exists_const, Option.isSome_map, Option.map_eq_some_iff, Prod.mk.injEq, true_and,
    exists_eq_right] at found_iff isSome_iff
  constructor
  · rw [functionBody?, Option.isSome_map]
    exact isSome_iff
  · intro body
    rw [functionBody?, Option.map_eq_some_iff]
    constructor
    · rintro ⟨back, found, rfl⟩
      obtain ⟨front, header, first, -⟩ := (found_iff back).mp found
      obtain ⟨rest, split, cut⟩ := untilDefinition_eq_iff.mp (@rfl _ (untilDefinition false back))
      rw [String.toList_ofList]
      exact ⟨front, header, rest, split ▸ first, cut, fun _ _ line => cut.no_definition line⟩
    · rintro ⟨front, header, rest, first, cut, -⟩
      refine ⟨body.toList ++ rest, (found_iff _).mpr ⟨front, header, first, first.formed⟩, ?_⟩
      rw [untilDefinition_eq_iff.mpr ⟨rest, rfl, cut⟩, String.ofList_toList]

/-- A function with nested parentheses in front of its annotation, between two others. -/
theorem functionBody?_exact_annotated :
    ("f" ≠ "" ∧ ∀ c ∈ "f".toList, isWord c = true) ∧
      ∃ front header rest,
        OccursFirst (· == '\n') (IsHeader "f".toList)
          "def g(): pass\nasync def f (a=(1, 2)) -> int : return\n  1\ndef h(): pass".toList
          front header (" return\n  1\n".toList ++ rest) ∧
        IsCut false " return\n  1\n".toList rest ∧
        ∀ line back, " return\n  1\n".toList = line ++ '\n' :: back →
          ¬StartsDefinition back := by
  have word : ∀ c ∈ "f".toList, isWord c = true := List.forall_mem_singleton.mpr (by decide)
  refine ⟨⟨by decide, word⟩, ?_⟩
  exact ((functionBody?_exact
    "def g(): pass\nasync def f (a=(1, 2)) -> int : return\n  1\ndef h(): pass" "f" (by decide)
    word).2 " return\n  1\n").mp (by decide +kernel)

end BotBench.Mining
