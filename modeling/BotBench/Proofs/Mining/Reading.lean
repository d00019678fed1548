import BotBench.Proofs.Mining.Search
import Mathlib.Data.List.TakeWhile

/-! # Reading forms in place

What the readers of a source accept, put as an equation of the text: a word, a mark behind blanks,
the opening of a call and the registration of a command. Conversely each reader accepts its form
where it stands. -/

namespace BotBench.Mining

open Text

/-- The two quotes that open and close literals. -/
def isQuote (c : Char) : Bool := c == '"' || c == '\''

/-- A letter, a digit or the underscore, of ASCII alone. -/
def isNameChar (c : Char) : Bool := c.isAlphanum || c == '_'

theorem afterWord?_append (word rest : List Char) : afterWord? word (word ++ rest) = some rest := by
  induction word with
  | nil => rfl
  | cons w word ih => simpa [afterWord?] using ih

theorem afterWord?_eq_some {word cs rest : List Char} (found : afterWord? word cs = some rest) :
    cs = word ++ rest := by
  induction word generalizing cs with
  | nil => simpa [afterWord?] using found
  | cons w word ih =>
      cases cs with
      | nil => simp [afterWord?] at found
      | cons c cs =>
          by_cases same : w = c
          · simp only [afterWord?, same, beq_self_eq_true, if_true] at found
            rw [same, ih found, List.cons_append]
          · simp [afterWord?, same] at found

/-- Two texts that agree are split alike at their first character of a class. -/
theorem split_at_first {p : Char → Bool} {front front' back back' : List Char} {q q' : Char}
    (same : front ++ q :: back = front' ++ q' :: back')
    (before : ∀ c ∈ front, p c = false) (before' : ∀ c ∈ front', p c = false)
    (at_q : p q = true) (at_q' : p q' = true) :
    front = front' ∧ q = q' ∧ back = back' := by
  induction front generalizing front' with
  | nil =>
      cases front' with
      | nil => simpa using same
      | cons c cs =>
          obtain ⟨rfl, -⟩ : q = c ∧ _ := by simpa using same
          simp [before' q (by simp)] at at_q
  | cons c cs ih =>
      cases front' with
      | nil =>
          obtain ⟨rfl, -⟩ : c = q' ∧ _ := by simpa using same
          simp [before c (by simp)] at at_q'
      | cons d ds =>
          obtain ⟨rfl, tails⟩ : c = d ∧ cs ++ q :: back = ds ++ q' :: back' := by simpa using same
          obtain ⟨rfl, rest⟩ := ih tails (fun c inside => before c (by simp [inside]))
            (fun c inside => before' c (by simp [inside]))
          exact ⟨rfl, rest⟩

theorem skipBlanks_spec (cs : List Char) :
    ∃ gap, cs = gap ++ skipBlanks cs ∧ ∀ c ∈ gap, isBlank c = true :=
  ⟨cs.takeWhile isBlank, (List.takeWhile_append_dropWhile).symm,
    fun _ inside => List.mem_takeWhile_imp inside⟩

theorem skipBlanks_solid {c : Char} (solid : isBlank c = false) (cs : List Char) :
    skipBlanks (c :: cs) = c :: cs := by
  simp [skipBlanks, solid]

theorem skipBlanks_blank {c : Char} (blank : isBlank c = true) (cs : List Char) :
    skipBlanks (c :: cs) = skipBlanks cs := by
  simp [skipBlanks, blank]

theorem afterMark?_eq_some {mark : Char} {cs rest : List Char}
    (found : afterMark? mark cs = some rest) :
    ∃ gap, cs = gap ++ mark :: rest ∧ ∀ c ∈ gap, isBlank c = true := by
  obtain ⟨gap, split, blank⟩ := skipBlanks_spec cs
  unfold afterMark? at found
  cases behind : skipBlanks cs with
  | nil => simp [behind] at found
  | cons c tail =>
      by_cases same : c = mark
      · simp only [behind, same, beq_self_eq_true, if_true, Option.some.injEq] at found
        exact ⟨gap, by rw [split, behind, same, found], blank⟩
      · simp [behind, same] at found

theorem afterCallOpen?_eq_some {name cs rest : List Char}
    (found : afterCallOpen? name cs = some rest) :
    ∃ gap inner, cs = name ++ (gap ++ '(' :: (inner ++ rest)) ∧
      (∀ c ∈ gap, isBlank c = true) ∧ ∀ c ∈ inner, isBlank c = true := by
  unfold afterCallOpen? at found
  split at found
  · rename_i called named
    rw [Option.map_eq_some_iff] at found
    obtain ⟨argument, opened, rfl⟩ := found
    obtain ⟨gap, split, blank⟩ := afterMark?_eq_some opened
    obtain ⟨inner, inside, blank'⟩ := skipBlanks_spec argument
    exact ⟨gap, inner, by rw [afterWord?_eq_some named, split, ← inside], blank, blank'⟩
  · simp at found

theorem skipBlanks_append {gap : List Char} (blank : ∀ c ∈ gap, isBlank c = true)
    (rest : List Char) : skipBlanks (gap ++ rest) = skipBlanks rest :=
  List.dropWhile_append_of_pos blank

theorem skipBlanks_of_head {cs : List Char} (solid : ∀ c ∈ cs.head?, isBlank c = false) :
    skipBlanks cs = cs := by
  cases cs with
  | nil => rfl
  | cons c cs => exact skipBlanks_solid (solid c rfl) cs

theorem afterMark?_append {mark : Char} (solid : isBlank mark = false) {gap : List Char}
    (blank : ∀ c ∈ gap, isBlank c = true) (rest : List Char) :
    afterMark? mark (gap ++ mark :: rest) = some rest := by
  simp [afterMark?, skipBlanks_append blank, skipBlanks_solid solid]

/-- A call with blanks around the parenthesis. -/
theorem afterCallOpen?_spaced (name : List Char) {gap inner rest : List Char}
    (blank : ∀ c ∈ gap, isBlank c = true) (blank' : ∀ c ∈ inner, isBlank c = true)
    (solid : ∀ c ∈ rest.head?, isBlank c = false) :
    afterCallOpen? name (name ++ (gap ++ '(' :: (inner ++ rest))) = some rest := by
  simp [afterCallOpen?, afterWord?_append, afterMark?_append (show isBlank '(' = false by decide)
    blank, skipBlanks_append blank', skipBlanks_of_head solid]

/-- A call whose argument follows the parenthesis at once. -/
theorem afterCallOpen?_append (name : List Char) {c : Char} (solid : isBlank c = false)
    (rest : List Char) : afterCallOpen? name (name ++ '(' :: c :: rest) = some (c :: rest) :=
  @afterCallOpen?_spaced name [] [] (c :: rest) (by simp) (by simp) (by simpa using solid)

theorem afterArgument?_eq_some {cs rest : List Char} (found : afterArgument? cs = some rest) :
    ∃ gap mark, cs = gap ++ mark :: rest ∧ (∀ c ∈ gap, isBlank c = true) ∧
      (mark = ',' ∨ mark = ')') := by
  obtain ⟨gap, split, blank⟩ := skipBlanks_spec cs
  unfold afterArgument? at found
  cases behind : skipBlanks cs with
  | nil => simp [behind] at found
  | cons c tail =>
      rw [behind] at found split
      dsimp only at found
      split at found
      next ends =>
        cases found
        exact ⟨gap, c, split, blank, by simpa using ends⟩
      next => cases found

theorem afterArgument?_append {gap : List Char} {mark : Char}
    (blank : ∀ c ∈ gap, isBlank c = true) (ends : mark = ',' ∨ mark = ')') (rest : List Char) :
    afterArgument? (gap ++ mark :: rest) = some rest := by
  have solid : isBlank mark = false := by rcases ends with rfl | rfl <;> decide
  have isEnd : (mark == ',' || mark == ')') = true := by simpa using ends
  simp only [afterArgument?, skipBlanks_append blank, skipBlanks_solid solid, isEnd, if_true]

theorem readName_eq_some {cs name rest : List Char} (found : readName cs = some (name, rest)) :
    cs = name ++ rest ∧ name ≠ [] ∧ ∀ c ∈ name, isWord c = true := by
  unfold readName at found
  split at found
  next => cases found
  next taken =>
    cases found
    exact ⟨List.takeWhile_append_dropWhile.symm, taken,
      fun _ inside => List.mem_takeWhile_imp inside⟩

/-- A text is cut behind a piece of a class when no more of the class follows. -/
theorem while_append {p : Char → Bool} {front : List Char} (inside : ∀ c ∈ front, p c = true)
    (back : List Char) (outside : ∀ c ∈ back.head?, p c = false) :
    (front ++ back).takeWhile p = front ∧ (front ++ back).dropWhile p = back := by
  rw [List.takeWhile_append_of_pos inside, List.dropWhile_append_of_pos inside]
  cases back with
  | nil => exact ⟨List.append_nil front, rfl⟩
  | cons c cs => simp [outside c rfl]

/-- A name is read up to its end. -/
theorem readName_append {name rest : List Char} (named : name ≠ [])
    (word : ∀ c ∈ name, isWord c = true) (ended : ∀ c ∈ rest.head?, isWord c = false) :
    readName (name ++ rest) = some (name, rest) := by
  obtain ⟨taken, dropped⟩ := while_append word rest ended
  unfold readName
  rw [taken, dropped]
  split
  · contradiction
  · rfl

/-! ## Registrations -/

/-- The text that registers a function for a command: the call, the command between two equal
quotes, a comma, the name of the function and the end of the argument, with blanks between them. -/
inductive Registers (command name : List Char) : List Char → Prop
  | intro {gap₁ gap₂ gap₃ gap₄ gap₅ : List Char} {quote mark : Char}
      (blank₁ : ∀ c ∈ gap₁, isBlank c = true) (blank₂ : ∀ c ∈ gap₂, isBlank c = true)
      (quoted : isQuote quote = true) (blank₃ : ∀ c ∈ gap₃, isBlank c = true)
      (blank₄ : ∀ c ∈ gap₄, isBlank c = true) (named : name ≠ [])
      (word : ∀ c ∈ name, isWord c = true) (blank₅ : ∀ c ∈ gap₅, isBlank c = true)
      (ends : mark = ',' ∨ mark = ')') :
      Registers command name (handlerCall ++ (gap₁ ++ '(' :: (gap₂ ++ quote :: (command ++
        quote :: (gap₃ ++ ',' :: (gap₄ ++ (name ++ (gap₅ ++ [mark]))))))))

theorem isBlank_of_isQuote {c : Char} (quoted : isQuote c = true) : isBlank c = false := by
  simp only [isQuote, Bool.or_eq_true, beq_iff_eq] at quoted
  rcases quoted with rfl | rfl <;> decide

/-- What is accepted as a registration is one. -/
theorem registers_of_registration {command cs name rest : List Char}
    (accepted : registration command cs = some (name, rest)) :
    ∃ text, cs = text ++ rest ∧ Registers command name text := by
  simp only [registration, Option.bind_eq_bind, Option.bind_eq_some_iff] at accepted
  obtain ⟨argument, opened, accepted⟩ := accepted
  obtain ⟨gap₁, gap₂, rfl, blank₁, blank₂⟩ := afterCallOpen?_eq_some opened
  cases argument with
  | nil => simp at accepted
  | cons quote argument =>
      dsimp only at accepted
      split at accepted
      next quoted =>
        rw [Option.bind_eq_some_iff] at accepted
        obtain ⟨closed, commanded, accepted⟩ := accepted
        obtain rfl := afterWord?_eq_some commanded
        cases closed with
        | nil => simp at accepted
        | cons closing behind =>
            dsimp only at accepted
            split at accepted
            next closes =>
              obtain rfl : closing = quote := beq_iff_eq.mp closes
              simp only [Option.bind_eq_some_iff] at accepted
              obtain ⟨listed, comma, ⟨name', tail⟩, read, last, ended, found⟩ := accepted
              cases found
              obtain ⟨gap₃, rfl, blank₃⟩ := afterMark?_eq_some comma
              obtain ⟨gap₄, skipped, blank₄⟩ := skipBlanks_spec listed
              obtain ⟨split, named, word⟩ := readName_eq_some read
              obtain ⟨gap₅, mark, rfl, blank₅, ends⟩ := afterArgument?_eq_some ended
              refine ⟨_, ?_, .intro blank₁ blank₂ quoted blank₃ blank₄ named word blank₅ ends⟩
              rw [skipped, split]
              simp only [List.append_assoc, List.cons_append, List.nil_append]
            next => cases accepted
      next => cases accepted

/-- What a registration looks like: the call, a quote, the command and the same quote. -/
theorem registration_eq_some {command cs : List Char} {found : List Char × List Char}
    (accepted : registration command cs = some found) :
    ∃ gap inner quote behind,
      cs = handlerCall ++ (gap ++ '(' :: (inner ++ quote :: (command ++ quote :: behind))) ∧
        (∀ c ∈ gap, isBlank c = true) ∧ (∀ c ∈ inner, isBlank c = true) ∧
        isQuote quote = true := by
  obtain ⟨text, rfl, blank₁, blank₂, quoted, -⟩ := registers_of_registration accepted
  simp only [List.append_assoc, List.cons_append]
  exact ⟨_, _, _, _, rfl, blank₁, blank₂, quoted⟩

/-! ## Characters of names and commands -/

/-- The blanks by their codes. -/
def blankCodes : List Nat :=
  [9, 10, 11, 12, 13, 0x1C, 0x1D, 0x1E, 0x1F, 32, 0x85, 0xA0, 0x1680, 0x2000, 0x2001, 0x2002,
    0x2003, 0x2004, 0x2005, 0x2006, 0x2007, 0x2008, 0x2009, 0x200A, 0x2028, 0x2029, 0x202F,
    0x205F, 0x3000]

theorem mem_blankCodes_of_isBlank {c : Char} (blank : isBlank c = true) :
    c.toNat ∈ blankCodes := by
  simp only [isBlank, isSharedBlank, Bool.or_eq_true, Bool.and_eq_true, decide_eq_true_eq,
    beq_iff_eq] at blank
  simp only [blankCodes, List.mem_cons, List.not_mem_nil, or_false]
  omega

/-- A blank is no word character. -/
theorem isWord_of_isBlank {c : Char} (blank : isBlank c = true) : isWord c = false := by
  have none_word : ∀ code ∈ blankCodes, isWord (Char.ofNat code) = false := by decide +kernel
  have apart := none_word c.toNat (mem_blankCodes_of_isBlank blank)
  rwa [Char.ofNat_toNat] at apart

theorem isBlank_of_isWord {c : Char} (word : isWord c = true) : isBlank c = false := by
  by_contra blank
  rw [isWord_of_isBlank (by simpa using blank)] at word
  cases word

theorem isQuote_of_isBlank {c : Char} (blank : isBlank c = true) : isQuote c = false := by
  by_contra quoted
  simp only [isQuote, Bool.not_eq_false, Bool.or_eq_true, beq_iff_eq] at quoted
  rcases quoted with rfl | rfl <;> revert blank <;> decide

theorem name_range {c : Char} (named : isNameChar c = true) :
    (48 ≤ c.toNat ∧ c.toNat ≤ 57) ∨ (65 ≤ c.toNat ∧ c.toNat ≤ 90) ∨ c.toNat = 95 ∨
      (97 ≤ c.toNat ∧ c.toNat ≤ 122) := by
  -- the class, spelled out by its ranges
  change (((decide (c.val ≥ 'A'.val ∧ c.val ≤ 'Z'.val) ||
    (decide (c.val ≥ 'a'.val) && decide (c.val ≤ 'z'.val))) ||
    (decide (c.val ≥ '0'.val) && decide (c.val ≤ '9'.val))) || c == '_') = true at named
  simp only [Bool.or_eq_true, Bool.and_eq_true, decide_eq_true_eq, beq_iff_eq, ge_iff_le,
    UInt32.le_iff_toNat_le] at named
  rcases named with ((upper | lower) | digit) | rfl
  · exact .inr (.inl upper)
  · exact .inr (.inr (.inr lower))
  · exact .inl digit
  · exact .inr (.inr (.inl rfl))

theorem isWord_of_isNameChar {c : Char} (named : isNameChar c = true) :
    isWord c = true := by
  have small : c.val < 128 := by
    rw [UInt32.lt_iff_toNat_lt]
    have := name_range named
    change c.toNat < 128
    omega
  rw [isWord, if_pos small]
  exact named

theorem isBlank_of_isNameChar {c : Char} (named : isNameChar c = true) :
    isBlank c = false := by
  have range := name_range named
  simp only [isBlank, isSharedBlank, Bool.or_eq_false_iff, Bool.and_eq_false_iff,
    decide_eq_false_iff_not, beq_eq_false_iff_ne, ne_eq]
  omega

/-- A name in front of a parenthesis, read as a name, a gap and an opening parenthesis. -/
theorem name_split {front word gap back back' : List Char} {q : Char}
    (same : front ++ q :: back = word ++ (gap ++ '(' :: back'))
    (named : ∀ c ∈ front, isNameChar c = true) (named' : ∀ c ∈ word, isNameChar c = true)
    (blank : ∀ c ∈ gap, isBlank c = true) (parenthesis : q = '(' ∨ q = ')') :
    front = word ∧ q = '(' := by
  let p : Char → Bool := fun c => isBlank c || c == '(' || c == ')'
  have name : ∀ c, isNameChar c = true → p c = false := by
    intro c named
    have range := name_range named
    simp only [p, isBlank_of_isNameChar named, Bool.false_or, Bool.or_eq_false_iff,
      beq_eq_false_iff_ne]
    constructor <;> rintro rfl <;> revert range <;> decide
  have stop : p q = true := by rcases parenthesis with rfl | rfl <;> decide
  have names := fun c inside => name c (named c inside)
  have names' := fun c inside => name c (named' c inside)
  cases gap with
  | nil =>
      obtain ⟨rfl, rfl, -⟩ := split_at_first same names names' stop (by decide)
      exact ⟨rfl, rfl⟩
  | cons c cs =>
      have gapped : isBlank c = true := blank c (by simp)
      obtain ⟨-, rfl, -⟩ := split_at_first same names names' stop (by simp [p, gapped])
      rcases parenthesis with rfl | rfl <;> exact absurd gapped (by decide)

end BotBench.Mining
