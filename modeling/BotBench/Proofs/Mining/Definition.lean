import BotBench.Proofs.Mining.Program

/-! # Functions of a program

The header of a function is found behind the registrations and behind the functions of other names
(`Handler.afterHeader?_own`, `Handler.afterHeader?_other`). A body ends where the next function is
defined, since escaped texts stay on one line. -/

namespace BotBench.Mining

open Text

/-! ## The header of a function -/

theorem searchHeader_flat {name line : List Char} (flat : '\n' ∉ line) (rest : List Char) :
    searchHeader name false (line ++ '\n' :: rest) = searchHeader name true rest := by
  induction line with
  | nil => simp [searchHeader]
  | cons c cs ih =>
      rw [List.mem_cons, not_or] at flat
      have apart : (c == '\n') = false := by simpa using Ne.symm flat.1
      simpa [searchHeader, apart] using ih flat.2

/-- The search for a header passes a line that is no such header. -/
theorem searchHeader_line {name line : List Char} (flat : '\n' ∉ line) {rest : List Char}
    (refused : afterHeader? name (line ++ '\n' :: rest) = none) :
    searchHeader name true (line ++ '\n' :: rest) = searchHeader name true rest := by
  cases line with
  | nil =>
      rw [List.nil_append] at refused ⊢
      simp [searchHeader, refused]
  | cons c cs =>
      rw [List.mem_cons, not_or] at flat
      have apart : (c == '\n') = false := by simpa using Ne.symm flat.1
      rw [List.cons_append] at refused ⊢
      rw [searchHeader, if_pos rfl, refused, apart]
      exact searchHeader_flat flat.2 rest

theorem searchHeader_of_accepted {name cs rest : List Char}
    (accepted : afterHeader? name cs = some rest) (some_left : cs ≠ []) :
    searchHeader name true cs = some rest := by
  cases cs with
  | nil => contradiction
  | cons c cs => simp [searchHeader, accepted]

namespace Handler

variable {h h' : Handler}

theorem headerLine_eq : h.headerLine =
    'd' :: 'e' :: 'f' :: ' ' :: (h.name.toList ++ "(update, context):".toList) :=
  rfl

theorem afterHeader?_headerLine (name rest : List Char) :
    afterHeader? name (h.headerLine ++ rest) =
      afterSignature? name (h.name.toList ++ ("(update, context):".toList ++ rest)) := by
  obtain ⟨c, cs, written⟩ := List.exists_cons_of_ne_nil
    (show h.name.toList ≠ [] by simpa using h.name_ne_empty)
  have range := name_range (h.name_plain c (by simp [written]))
  have solid : isGap c = false := by
    simp only [isGap, Bool.or_eq_false_iff, beq_eq_false_iff_ne]
    constructor <;> rintro rfl <;> revert range <;> decide
  have start : isGap 'd' = false := by decide
  have gap : isGap ' ' = true := by decide
  rw [headerLine_eq, written]
  simp [afterHeader?, afterDefinition?, afterWord?, gapThen, start, gap, solid]

theorem afterHeader?_own (rest : List Char) :
    afterHeader? h.name.toList (h.headerLine ++ rest) = some rest := by
  have opening : isBlank '(' = false := by decide
  have colon : isBlank ':' = false := by decide
  rw [afterHeader?_headerLine]
  simp [afterSignature?, afterWord?_append, afterMark?, skipBlanks_solid opening,
    afterParameters?, afterResult?, skipBlanks_solid colon]

theorem afterHeader?_other (other : h'.name ≠ h.name) (rest : List Char) :
    afterHeader? h.name.toList (h'.headerLine ++ rest) = none := by
  rw [afterHeader?_headerLine]
  unfold afterSignature?
  split
  · rfl
  · rename_i behind named
    have same := afterWord?_eq_some named
    split
    · rfl
    · rename_i inner opened
      obtain ⟨gap, split, blank⟩ := afterMark?_eq_some opened
      rw [split] at same
      obtain ⟨same, -⟩ := name_split same h'.name_plain h.name_plain blank (.inl rfl)
      exact absurd (String.toList_injective same) other

theorem afterHeader?_registrationLine (name rest : List Char) :
    afterHeader? name (h.registrationLine ++ rest) = none := by
  have line : h.registrationLine ++ rest =
      'a' :: 'p' :: ("p.add_handler(".toList ++ (h.registrationCall ++ rest)) := by
    unfold registrationLine
    rw [List.append_assoc]
    rfl
  have start : isGap 'a' = false := by decide
  rw [line]
  simp [afterHeader?, afterDefinition?, afterWord?, start]

theorem afterHeader?_replyLine {indent : String} (gap : ∀ c ∈ indent.toList, isGap c = true)
    (name rest : List Char) : afterHeader? name (h.replyLine indent ++ rest) = none := by
  have start : isGap 'u' = false := by decide
  have line : ∃ cs, h.replyLine indent ++ rest = indent.toList ++ 'u' :: cs := by
    unfold replyLine
    rw [List.append_assoc, List.append_assoc]
    exact ⟨_, rfl⟩
  obtain ⟨cs, line⟩ := line
  have dropped : (indent.toList ++ 'u' :: cs).dropWhile isGap = 'u' :: cs := by
    rw [List.dropWhile_append_of_pos gap, List.dropWhile_cons]
    simp [start]
  rw [line, afterHeader?, dropped]
  simp [afterDefinition?, afterWord?]

theorem newline_notMem_registrationLine : '\n' ∉ h.registrationLine := by
  have command : '\n' ∉ h.command.toList := fun inside =>
    absurd (h.command_plain _ inside).1 (by decide)
  have name : '\n' ∉ h.name.toList := fun inside => absurd (h.name_plain _ inside) (by decide)
  unfold registrationLine
  rw [registrationCall_eq]
  simp only [List.mem_append, List.mem_cons, not_or]
  exact ⟨by decide, by decide, by decide, by decide, command, by decide, by decide, by decide,
    name, by decide, by decide, by simp⟩

theorem newline_notMem_headerLine : '\n' ∉ h.headerLine := by
  have name : '\n' ∉ h.name.toList := fun inside => absurd (h.name_plain _ inside) (by decide)
  unfold headerLine
  simp only [List.mem_append, not_or]
  exact ⟨by decide, name, by decide⟩

theorem newline_notMem_quoteLiteral (text : List Char) : '\n' ∉ quoteLiteral '"' text := by
  have escaped : '\n' ∉ text.flatMap (escapeChar '"') := newline_notMem_escaped (by decide)
  unfold quoteLiteral
  simp only [List.mem_append, List.mem_cons, not_or]
  exact ⟨by decide, escaped, by decide, by simp⟩

theorem buttonRow_cons_cons (text next : String) (texts : List String) :
    buttonRow (text :: next :: texts) =
      buttonOf text ++ (", ".toList ++ buttonRow (next :: texts)) := by
  simp only [buttonRow, List.map_cons, List.intercalate_cons_cons, List.append_assoc]

theorem newline_notMem_buttonOf (text : String) : '\n' ∉ buttonOf text := by
  unfold buttonOf
  simp only [List.mem_append, not_or]
  exact ⟨by decide, newline_notMem_quoteLiteral _, by decide⟩

theorem newline_notMem_buttonRow (texts : List String) : '\n' ∉ buttonRow texts := by
  induction texts with
  | nil => simp [buttonRow]
  | cons text texts ih =>
      cases texts with
      | nil => simpa [buttonRow] using newline_notMem_buttonOf text
      | cons next texts =>
          rw [buttonRow_cons_cons, List.mem_append, List.mem_append]
          rintro (inside | inside | inside)
          · exact newline_notMem_buttonOf text inside
          · exact absurd inside (by decide)
          · exact ih inside

theorem newline_notMem_replyLine {indent : String} (gap : ∀ c ∈ indent.toList, isGap c = true) :
    '\n' ∉ h.replyLine indent := by
  have indented : '\n' ∉ indent.toList := fun inside => absurd (gap _ inside) (by decide)
  unfold replyLine
  simp only [List.mem_append, not_or]
  exact ⟨indented, by decide, newline_notMem_quoteLiteral _, by decide,
    newline_notMem_buttonRow _, by decide⟩

/-! ## The body of a function -/

/-- What stands between the header of the function and the next definition. -/
def body (h : Handler) (indent ending : String) : List Char :=
  '\n' :: (h.replyLine indent ++ ending.toList)

end Handler

theorem untilDefinition_flat {line : List Char} (flat : '\n' ∉ line) (rest : List Char) :
    untilDefinition false (line ++ rest) = line ++ untilDefinition false rest := by
  induction line with
  | nil => rfl
  | cons c cs ih =>
      rw [List.mem_cons, not_or] at flat
      have apart : (c == '\n') = false := by simpa using Ne.symm flat.1
      simpa [untilDefinition, apart] using ih flat.2

theorem untilDefinition_newline (rest : List Char) :
    untilDefinition false ('\n' :: rest) = '\n' :: untilDefinition true rest := by
  simp [untilDefinition]

/-- A definition begins with one of three letters. -/
theorem startsDefinition_of_head {c : Char} (other : c ≠ 'a' ∧ c ≠ 'c' ∧ c ≠ 'd')
    (cs : List Char) : startsDefinition (c :: cs) = false := by
  have : 'a' ≠ c := Ne.symm other.1
  have : 'c' ≠ c := Ne.symm other.2.1
  have : 'd' ≠ c := Ne.symm other.2.2
  simp_all [startsDefinition, startsWithWord, afterWord?]

theorem untilDefinition_newlines {ending : List Char} (newlines : ∀ c ∈ ending, c = '\n')
    (atLineStart : Bool) : untilDefinition atLineStart ending = ending := by
  induction ending generalizing atLineStart with
  | nil => rfl
  | cons c cs ih =>
      obtain rfl : c = '\n' := newlines c (by simp)
      have plain := startsDefinition_of_head (c := '\n') (by decide) cs
      simp [untilDefinition, plain, ih fun c inside => newlines c (by simp [inside])]

namespace Handler

variable {h : Handler}

theorem untilDefinition_headerLine (rest : List Char) :
    untilDefinition true (h.headerLine ++ rest) = [] := by
  have ended : isWord ' ' = false := by decide
  rw [headerLine_eq]
  simp [untilDefinition, startsDefinition, startsWithWord, afterWord?, atWordEnd, ended]

theorem untilDefinition_replyLine {indent : String} (gap : ∀ c ∈ indent.toList, isGap c = true)
    (rest : List Char) :
    untilDefinition true (h.replyLine indent ++ rest) =
      h.replyLine indent ++ untilDefinition false rest := by
  have flat := newline_notMem_replyLine (h := h) gap
  have head : ∃ c cs, h.replyLine indent = c :: cs ∧ c ≠ 'a' ∧ c ≠ 'c' ∧ c ≠ 'd' := by
    unfold replyLine
    cases written : indent.toList with
    | nil => exact ⟨'u', _, rfl, by decide⟩
    | cons c cs =>
        refine ⟨c, _, rfl, ?_⟩
        have gapped := gap c (by simp [written])
        refine ⟨?_, ?_, ?_⟩ <;> rintro rfl <;> exact absurd gapped (by decide)
  obtain ⟨c, cs, written, other⟩ := head
  rw [written] at flat ⊢
  rw [List.mem_cons, not_or] at flat
  have apart : (c == '\n') = false := by simpa using Ne.symm flat.1
  rw [List.cons_append, untilDefinition, startsDefinition_of_head other]
  simp [apart, untilDefinition_flat flat.2]

end Handler

end BotBench.Mining
