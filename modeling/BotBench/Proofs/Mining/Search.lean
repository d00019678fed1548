import BotBench.Mining.Extraction

/-! # Where a search passes

A search for a call goes over every place of a source at which a word may begin, and passes the
pieces in which nothing is accepted there (`searchWord_of_refused`). A piece that is barren holds no
acceptance at all (`searchWord_of_barren`). A recogniser that begins with a word accepts nothing in
a piece that is clear of the word, and an escaped text is clear of every word that the text does not
hold (`clear_escaped`). -/

namespace BotBench.Mining

open Text

variable {α : Type} {accept : Recogniser α} {word piece first second rest : List Char}

/-- No acceptance begins in a piece that is followed by `rest`. -/
def Barren (accept : Recogniser α) : List Char → List Char → Prop
  | [], _ => True
  | c :: cs, rest => accept (c :: cs ++ rest) = none ∧ Barren accept cs rest

/-- Whether a text stands behind a word character, when a piece of it is passed. -/
def endsInWord (inWord : Bool) (piece : List Char) : Bool :=
  (piece.getLast?.map isWord).getD inWord

theorem endsInWord_cons (inWord : Bool) (c : Char) (cs : List Char) :
    endsInWord inWord (c :: cs) = endsInWord (isWord c) cs := by
  cases cs with
  | nil => rfl
  | cons d ds => simp [endsInWord, List.getLast?_cons]

/-- A search passes a piece of a text in which nothing is accepted where a word may begin. -/
theorem searchWord_of_refused {inWord : Bool}
    (refused : ∀ front back, piece = front ++ back → back ≠ [] →
      endsInWord inWord front = false → accept (back ++ rest) = none) :
    searchWord accept inWord (piece ++ rest) =
      searchWord accept (endsInWord inWord piece) rest := by
  induction piece generalizing inWord with
  | nil => rfl
  | cons c cs ih =>
      have here : (if inWord then none else accept (c :: (cs ++ rest))) = none := by
        cases inWord with
        | true => rfl
        | false => exact refused [] (c :: cs) rfl (by simp) rfl
      rw [endsInWord_cons, List.cons_append, searchWord, here]
      refine ih fun front back split some_left apart => ?_
      exact refused (c :: front) back (by rw [split, List.cons_append]) some_left
        (by rwa [endsInWord_cons])

theorem barren_append :
    Barren accept (first ++ second) rest ↔
      Barren accept first (second ++ rest) ∧ Barren accept second rest := by
  induction first with
  | nil => simp [Barren]
  | cons c cs ih => simp [Barren, ih, and_assoc]

theorem searchWord_of_barren (barren : Barren accept piece rest) (inWord : Bool) :
    searchWord accept inWord (piece ++ rest) =
      searchWord accept (endsInWord inWord piece) rest := by
  apply searchWord_of_refused
  rintro front back rfl some_left -
  cases back with
  | nil => contradiction
  | cons c cs => exact (barren_append.mp barren).2.1

theorem searchAll_of_barren (barren : Barren accept piece rest) (inWord : Bool) (fuel : Nat) :
    searchAll accept inWord fuel (piece ++ rest) =
      searchAll accept (endsInWord inWord piece) fuel rest := by
  cases fuel with
  | zero => rfl
  | succ fuel => simp only [searchAll, searchWord_of_barren barren]

theorem searchWord_of_accepted {cs : List Char} {found : α × List Char}
    (accepted : accept cs = some found) (some_left : cs ≠ []) :
    searchWord accept false cs = some found := by
  cases cs with
  | nil => contradiction
  | cons c cs => simp [searchWord, accepted]

/-- A piece is barren when no end of it begins an acceptance. -/
theorem barren_of_suffix
    (refused : ∀ back, back <:+ piece → back ≠ [] → accept (back ++ rest) = none) :
    Barren accept piece rest := by
  induction piece with
  | nil => trivial
  | cons c cs ih =>
      refine ⟨refused _ List.suffix_rfl (by simp), ih fun back inside => ?_⟩
      exact refused back (inside.trans (List.suffix_cons c cs))

/-- Whether a text differs from a word at a place that both have. -/
def misses : List Char → List Char → Bool
  | w :: word, c :: cs => w != c || misses word cs
  | _, _ => false

/-- Whether a word can begin at no place of a text, whatever follows the text. -/
def clear (word : List Char) : List Char → Bool
  | [] => true
  | c :: cs => misses word (c :: cs) && clear word cs

theorem afterWord?_of_misses (missed : misses word piece = true) (rest : List Char) :
    afterWord? word (piece ++ rest) = none := by
  induction word generalizing piece with
  | nil => simp [misses] at missed
  | cons w word ih =>
      cases piece with
      | nil => simp [misses] at missed
      | cons c cs =>
          by_cases same : w = c
          · simp only [misses, same, bne_self_eq_false, Bool.false_or] at missed
            simpa [afterWord?, same] using ih missed
          · simp [afterWord?, same]

theorem misses_append (missed : misses word first = true) (second : List Char) :
    misses word (first ++ second) = true := by
  induction word generalizing first with
  | nil => simp [misses] at missed
  | cons w word ih =>
      cases first with
      | nil => simp [misses] at missed
      | cons c cs =>
          simp only [misses, Bool.or_eq_true, List.cons_append] at missed ⊢
          exact missed.imp_right ih

theorem clear_append (first : List Char) (before : clear word first = true)
    (behind : clear word second = true) :
    clear word (first ++ second) = true := by
  induction first with
  | nil => exact behind
  | cons c cs ih =>
      simp only [clear, Bool.and_eq_true] at before
      simp only [List.cons_append, clear, Bool.and_eq_true]
      exact ⟨misses_append before.1 second, ih before.2⟩

/-- A text without the first character of a word is clear of the word. -/
theorem clear_of_notMem {w : Char} (absent : w ∉ piece) : clear (w :: word) piece = true := by
  induction piece with
  | nil => rfl
  | cons c cs ih =>
      rw [List.mem_cons, not_or] at absent
      simp [clear, misses, absent.1, ih absent.2]

/-- The recogniser accepts only what begins with a word. -/
def OpensWith (accept : Recogniser α) (word : List Char) : Prop :=
  ∀ cs, afterWord? word cs = none → accept cs = none

theorem OpensWith.barren (opens : OpensWith accept word) (passed : clear word piece = true)
    (rest : List Char) : Barren accept piece rest := by
  induction piece with
  | nil => trivial
  | cons c cs ih =>
      simp only [clear, Bool.and_eq_true] at passed
      exact ⟨opens _ (afterWord?_of_misses passed.1 rest), ih passed.2⟩

theorem OpensWith.searchAll (opens : OpensWith accept word) (passed : clear word piece = true)
    (inWord : Bool) (fuel : Nat) : searchAll accept inWord fuel piece = [] := by
  have nothing := searchAll_of_barren (opens.barren passed []) inWord fuel
  rw [List.append_nil] at nothing
  rw [nothing]
  cases fuel <;> simp [Mining.searchAll, searchWord]

theorem opensWith_replyLiteral : OpensWith replyLiteral replyCall := by
  intro cs absent
  simp [replyLiteral, afterCallOpen?, absent]

theorem opensWith_buttonLiteral : OpensWith buttonLiteral buttonCall := by
  intro cs absent
  simp [buttonLiteral, afterCallOpen?, absent]

theorem opensWith_registration (command : List Char) :
    OpensWith (registration command) handlerCall := by
  intro cs absent
  simp [registration, afterCallOpen?, absent]

/-! ## Escaped texts -/

/-- The characters that stand behind a backslash in an escaped text. -/
def escapeMarks (quote : Char) : List Char :=
  ['\\', quote, 'n', 't', 'r']

/-- A character is escaped by a backslash and a mark, or stands for itself. -/
theorem escapeChar_cases (quote c : Char) :
    (∃ mark ∈ escapeMarks quote, escapeChar quote c = ['\\', mark]) ∨
      escapeChar quote c = [c] ∧ c ≠ '\n' := by
  unfold escapeChar escapeMarks
  split
  · rename_i special
    left
    refine ⟨c, ?_, rfl⟩
    simp only [Bool.or_eq_true, beq_iff_eq] at special
    rcases special with rfl | rfl <;> simp
  · repeat' split
    all_goals simp_all

variable {quote : Char} {text : List Char}

/-- An escaped text and its closing quote differ from a word that holds no quote and no backslash,
unless the text begins with the word. -/
theorem misses_escaped (noQuote : quote ∉ word) (noSlash : '\\' ∉ word)
    (absent : ¬word <+: text) :
    misses word (text.flatMap (escapeChar quote) ++ [quote]) = true := by
  induction word generalizing text with
  | nil => exact absurd List.nil_prefix absent
  | cons w word ih =>
      rw [List.mem_cons, not_or] at noQuote noSlash
      cases text with
      | nil => simp [misses, Ne.symm noQuote.1]
      | cons c cs =>
          rw [List.flatMap_cons, List.append_assoc]
          rcases escapeChar_cases quote c with ⟨mark, -, escaped⟩ | ⟨escaped, -⟩
          · simp [escaped, misses, Ne.symm noSlash.1]
          · by_cases same : w = c
            · have absent : ¬word <+: cs := by
                simpa [same, List.cons_prefix_cons] using absent
              simp [escaped, misses, same, ih noQuote.2 noSlash.2 absent]
            · simp [escaped, misses, same]

/-- **Escaping makes no word.** An escaped text and its closing quote are clear of a word that the
text does not hold, provided that no escape is mistaken for a part of the word. -/
theorem clear_escaped {w : Char} (noQuote : quote ∉ w :: word) (noSlash : '\\' ∉ w :: word)
    (noMark : w ∉ escapeMarks quote) (absent : ¬w :: word <:+: text) :
    clear (w :: word) (text.flatMap (escapeChar quote) ++ [quote]) = true := by
  induction text with
  | nil =>
      rw [List.mem_cons, not_or] at noQuote
      simp [clear, misses, Ne.symm noQuote.1]
  | cons c cs ih =>
      have start := misses_escaped noQuote noSlash fun begins => absent begins.isInfix
      have later := ih fun inside => absent (inside.trans (List.suffix_cons c cs).isInfix)
      rw [List.flatMap_cons, List.append_assoc] at start ⊢
      rcases escapeChar_cases quote c with ⟨mark, marked, escaped⟩ | ⟨escaped, -⟩
      · -- the word begins neither at the backslash nor at the mark behind it
        have differs : w ≠ mark := fun same => noMark (same ▸ marked)
        rw [escaped] at start ⊢
        simp only [List.cons_append, List.nil_append, clear, Bool.and_eq_true] at start ⊢
        exact ⟨start, by simp [misses, differs], later⟩
      · rw [escaped] at start ⊢
        simp only [List.cons_append, List.nil_append, clear, Bool.and_eq_true] at start ⊢
        exact ⟨start, later⟩

/-- An escaped text stays on one line. -/
theorem newline_notMem_escaped (line : quote ≠ '\n') :
    '\n' ∉ text.flatMap (escapeChar quote) := by
  rw [List.mem_flatMap]
  rintro ⟨c, -, inside⟩
  rcases escapeChar_cases quote c with ⟨mark, marked, escaped⟩ | ⟨escaped, plain⟩
  · rw [escaped] at inside
    have : '\n' = mark := by simpa using inside
    subst this
    simp [escapeMarks, Ne.symm line] at marked
  · rw [escaped, List.mem_singleton] at inside
    exact plain inside.symm

end BotBench.Mining
