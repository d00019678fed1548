import BotBench.Proofs.Mining.Reading

/-! # Where a form occurs first

A search tries a recogniser at the places of a text where a form may begin, from left to right. A
recogniser is exact for a form if it accepts the texts of the form and nothing else
(`BotBench.Mining.Recogniser.Exact`); the search then finds the occurrence of the form with the
smallest start (`BotBench.Mining.Recogniser.Exact.search_iff`). The form of a registration is the
call with the command in quotes and the name of a function; its occurrences decide which function is
found for a command (`BotBench.Mining.handlerName?_exact`). -/

namespace BotBench.Mining

open Text

/-! ## Searches -/

section Search

variable {β : Type} {search : Bool → List Char → Option β} {accept : List Char → Option β}
  {allows : Char → Bool} {cs front : List Char} {c : Char} {found : β}

/-- Whether something may begin behind a piece of a text: behind a character that allows it, or, if
the piece is empty, where the piece itself may begin. -/
def freeBehind (allows : Char → Bool) (free : Bool) (front : List Char) : Bool :=
  (front.getLast?.map allows).getD free

theorem freeBehind_cons {free : Bool} :
    freeBehind allows free (c :: front) = freeBehind allows (allows c) front := by
  cases front with
  | nil => rfl
  | cons d ds => simp [freeBehind, List.getLast?_cons]

theorem freeBehind_true_iff :
    freeBehind allows true front = true ↔ ∀ c ∈ front.getLast?, allows c = true := by
  unfold freeBehind
  cases front.getLast? <;> simp

/-- A search tries a recogniser at each place where something may begin. -/
structure Searches (search : Bool → List Char → Option β) (accept : List Char → Option β)
    (allows : Char → Bool) : Prop where
  nil : ∀ free, search free [] = none
  cons : ∀ free c cs, search free (c :: cs) =
    (if free then accept (c :: cs) else none).or (search (allows c) cs)

/-- A search finds what is accepted at one place, nothing being accepted at an earlier one. -/
theorem Searches.eq_some_iff (searches : Searches search accept allows)
    (nothing : accept [] = none) (free : Bool) :
    search free cs = some found ↔
      ∃ front back, cs = front ++ back ∧ freeBehind allows free front = true ∧
        accept back = some found ∧ ∀ earlier rest, cs = earlier ++ rest →
          earlier.length < front.length → freeBehind allows free earlier = true →
            accept rest = none := by
  induction cs generalizing free with
  | nil =>
      rw [searches.nil]
      constructor
      · intro absurd
        cases absurd
      · rintro ⟨front, back, split, -, accepted, -⟩
        rw [(List.append_eq_nil_iff.mp split.symm).2, nothing] at accepted
        exact accepted
  | cons c cs ih =>
      rw [searches.cons]
      cases here : (if free then accept (c :: cs) else none) with
      | some other =>
          have isFree : free = true := by
            by_contra bound
            simp [bound] at here
          rw [isFree, if_pos rfl] at here
          rw [Option.some_or]
          constructor
          · rintro ⟨rfl⟩
            exact ⟨[], c :: cs, rfl, isFree, here, by simp⟩
          · rintro ⟨front, back, split, -, accepted, first⟩
            cases front with
            | nil =>
                rw [List.nil_append] at split
                rw [← here, split, accepted]
            | cons d ds =>
                have refused := first [] (c :: cs) rfl (by simp) isFree
                rw [here] at refused
                cases refused
      | none =>
          rw [Option.none_or, ih]
          constructor
          · rintro ⟨front, back, rfl, behind, accepted, first⟩
            refine ⟨c :: front, back, rfl, by rwa [freeBehind_cons], accepted, ?_⟩
            intro earlier rest split before isFree
            cases earlier with
            | nil =>
                have isFree : free = true := isFree
                rw [isFree, if_pos rfl] at here
                rwa [← show c :: (front ++ back) = rest from split]
            | cons d ds =>
                obtain ⟨rfl, tails⟩ := List.cons.inj split
                rw [freeBehind_cons] at isFree
                exact first ds rest tails (by simpa using before) isFree
          · rintro ⟨front, back, split, behind, accepted, first⟩
            cases front with
            | nil =>
                have isFree : free = true := behind
                rw [List.nil_append] at split
                rw [isFree, if_pos rfl, split, accepted] at here
                cases here
            | cons d ds =>
                obtain ⟨rfl, tails⟩ := List.cons.inj split
                rw [freeBehind_cons] at behind
                refine ⟨ds, back, tails, behind, accepted, ?_⟩
                intro earlier rest split before isFree
                exact first (c :: earlier) rest (by rw [split, List.cons_append])
                  (by simpa using before) (by rwa [freeBehind_cons])

/-- A search finds nothing exactly if nothing is accepted anywhere. -/
theorem Searches.eq_none_iff (searches : Searches search accept allows)
    (nothing : accept [] = none) (free : Bool) :
    search free cs = none ↔
      ∀ front back, cs = front ++ back → freeBehind allows free front = true →
        accept back = none := by
  induction cs generalizing free with
  | nil =>
      rw [searches.nil]
      refine iff_of_true rfl fun front back split _ => ?_
      rw [(List.append_eq_nil_iff.mp split.symm).2, nothing]
  | cons c cs ih =>
      rw [searches.cons, Option.or_eq_none_iff, ih]
      constructor
      · rintro ⟨here, later⟩ front back split isFree
        cases front with
        | nil =>
            rw [if_pos (show free = true from isFree)] at here
            rwa [← show c :: cs = back from split]
        | cons d ds =>
            obtain ⟨rfl, tails⟩ := List.cons.inj split
            exact later ds back tails (by rwa [freeBehind_cons] at isFree)
      · intro refused
        refine ⟨?_, fun front back split isFree => ?_⟩
        · split
          · exact refused [] (c :: cs) rfl ‹_›
          · rfl
        · exact refused (c :: front) back (by rw [split, List.cons_append])
            (by rwa [freeBehind_cons])

end Search

/-! ## Occurrences -/

/-- A text of a form stands in a text, between two pieces of it, where it may begin. -/
structure Occurs (allows : Char → Bool) (form : List Char → Prop)
    (cs front text back : List Char) : Prop where
  split : cs = front ++ (text ++ back)
  start : ∀ c ∈ front.getLast?, allows c = true
  formed : form text

/-- No text of the form begins further in front. -/
structure OccursFirst (allows : Char → Bool) (form : List Char → Prop)
    (cs front text back : List Char) : Prop extends Occurs allows form cs front text back where
  first : ∀ front' text' back', Occurs allows form cs front' text' back' →
    front.length ≤ front'.length

section Exact

variable {α : Type} {accept : Recogniser α} {of : α → List Char → Prop} {allows : Char → Bool}
  {search : Bool → Recogniser α} {cs front rest : List Char} {a : α}

/-- A recogniser accepts the texts of a form, whatever follows them, and nothing else. -/
structure Recogniser.Exact (accept : Recogniser α) (of : α → List Char → Prop) : Prop where
  sound : ∀ {cs a rest}, accept cs = some (a, rest) → ∃ text, cs = text ++ rest ∧ of a text
  complete : ∀ {a text} rest, of a text → accept (text ++ rest) = some (a, rest)
  filled : ∀ {a}, ¬of a []

namespace Recogniser.Exact

variable (exact : accept.Exact of)

include exact

theorem accept_nil : accept [] = none := by
  rw [Option.eq_none_iff_forall_ne_some]
  rintro ⟨a, rest⟩ accepted
  obtain ⟨text, split, formed⟩ := exact.sound accepted
  rw [(List.append_eq_nil_iff.mp split.symm).1] at formed
  exact exact.filled formed

/-- What is accepted nowhere further in front occurs nowhere further in front. -/
theorem first_iff :
    (∀ earlier rest, cs = earlier ++ rest → earlier.length < front.length →
        freeBehind allows true earlier = true → accept rest = none) ↔
      ∀ front' text' back', Occurs allows (fun text => ∃ a, of a text) cs front' text' back' →
        front.length ≤ front'.length := by
  constructor
  · intro refused front' text' back' ⟨split, start, a, formed⟩
    by_contra before
    have nothing := refused front' (text' ++ back') split (by omega) (freeBehind_true_iff.mpr start)
    rw [exact.complete back' formed] at nothing
    cases nothing
  · intro first earlier rest split before isFree
    rw [Option.eq_none_iff_forall_ne_some]
    rintro ⟨a, behind⟩ accepted
    obtain ⟨text, split', formed⟩ := exact.sound accepted
    have := first earlier text behind
      ⟨by rw [split, split'], freeBehind_true_iff.mp isFree, a, formed⟩
    omega

variable (searches : Searches search accept allows)

include searches

/-- **A search is exact.** It finds what the first occurrence of the form is of. -/
theorem search_iff :
    search true cs = some (a, rest) ↔
      ∃ front text, OccursFirst allows (fun text => ∃ a, of a text) cs front text rest ∧
        of a text := by
  refine (searches.eq_some_iff exact.accept_nil true).trans ?_
  constructor
  · rintro ⟨front, back, split, behind, accepted, refused⟩
    obtain ⟨text, split', formed⟩ := exact.sound accepted
    exact ⟨front, text, ⟨⟨by rw [split, split'], freeBehind_true_iff.mp behind, a, formed⟩,
      exact.first_iff.mp refused⟩, formed⟩
  · rintro ⟨front, text, ⟨⟨split, start, -⟩, first⟩, formed⟩
    exact ⟨front, text ++ rest, split, freeBehind_true_iff.mpr start,
      exact.complete rest formed, exact.first_iff.mpr first⟩

/-- A search finds something exactly if the form occurs somewhere. -/
theorem search_isSome_iff :
    (search true cs).isSome = true ↔
      ∃ front text back, Occurs allows (fun text => ∃ a, of a text) cs front text back := by
  rw [← not_iff_not, Bool.not_eq_true, Option.isSome_eq_false_iff, Option.isNone_iff_eq_none]
  simp only [not_exists]
  refine (searches.eq_none_iff exact.accept_nil true).trans ?_
  constructor
  · rintro refused front text back ⟨split, start, a, formed⟩
    have accepted := refused front (text ++ back) split (freeBehind_true_iff.mpr start)
    rw [exact.complete back formed] at accepted
    cases accepted
  · intro absent front back split isFree
    rw [Option.eq_none_iff_forall_ne_some]
    rintro ⟨a, behind⟩ accepted
    obtain ⟨text, split', formed⟩ := exact.sound accepted
    exact absent front text behind
      ⟨by rw [split, split'], freeBehind_true_iff.mp isFree, a, formed⟩

end Recogniser.Exact

end Exact

/-! ## The function of a command -/

section Registrations

variable {command name text : List Char}

/-- A character behind which a word may begin. -/
def parts (c : Char) : Bool := !isWord c

theorem searches_searchWord {α : Type} (accept : Recogniser α) :
    Searches (fun free cs => searchWord accept (!free) cs) accept parts where
  nil _ := rfl
  cons free c cs := by
    rw [searchWord]
    cases free
    · simp [parts]
    · cases accept (c :: cs) <;> simp [parts]

/-- A text that goes through a class of characters up to one of the class begins with one. -/
theorem head?_append_cons {gap rest : List Char} {c : Char} {p : Char → Prop}
    (gaps : ∀ c ∈ gap, p c) (stop : p c) : ∀ d ∈ (gap ++ c :: rest).head?, p d := by
  cases gap with
  | nil => simpa using stop
  | cons d ds => simpa using gaps d List.mem_cons_self

/-- A registration is read whatever follows it. -/
theorem registration_of_registers (registers : Registers command name text) (rest : List Char) :
    registration command (text ++ rest) = some (name, rest) := by
  obtain @⟨gap₁, gap₂, gap₃, gap₄, gap₅, quote, mark, blank₁, blank₂, quoted, blank₃, blank₄, named,
    word, blank₅, ends⟩ := registers
  have wordless : isWord mark = false := by rcases ends with rfl | rfl <;> decide
  have ended : ∀ c ∈ (gap₅ ++ mark :: rest).head?, isWord c = false :=
    head?_append_cons (fun c inside => isWord_of_isBlank (blank₅ c inside)) wordless
  have solid : ∀ c ∈ (name ++ (gap₅ ++ mark :: rest)).head?, isBlank c = false := by
    obtain ⟨c, cs, rfl⟩ := List.exists_cons_of_ne_nil named
    simpa using isBlank_of_isWord (word c List.mem_cons_self)
  have opened := @afterCallOpen?_spaced handlerCall gap₁ gap₂ (quote :: (command ++ quote ::
    (gap₃ ++ ',' :: (gap₄ ++ (name ++ (gap₅ ++ mark :: rest)))))) blank₁ blank₂
    (by simpa using isBlank_of_isQuote quoted)
  have listed : afterMark? ',' (gap₃ ++ ',' :: (gap₄ ++ (name ++ (gap₅ ++ mark :: rest)))) =
      some (gap₄ ++ (name ++ (gap₅ ++ mark :: rest))) :=
    afterMark?_append (by decide) blank₃ _
  have quotes : (quote == '"' || quote == '\'') = true := quoted
  simp only [registration, List.append_assoc, List.cons_append, List.nil_append, opened,
    Option.bind_eq_bind, Option.bind_some, quotes, if_true, afterWord?_append, beq_self_eq_true,
    listed, skipBlanks_append blank₄, skipBlanks_of_head solid, readName_append named word ended,
    afterArgument?_append blank₅ ends]
  rfl

/-- A registration begins with its call. -/
theorem not_registers_nil : ¬Registers command name [] := by
  intro registers
  have accepted := registration_of_registers registers []
  rw [List.nil_append, registration, show afterCallOpen? handlerCall [] = none by decide]
    at accepted
  cases accepted

theorem exact_registration (command : List Char) :
    (registration command).Exact (Registers command) where
  sound := registers_of_registration
  complete rest registers := registration_of_registers registers rest
  filled := not_registers_nil

/-- The text of a registration of a command, whatever function it names. -/
def IsRegistration (command text : List Char) : Prop := ∃ name, Registers command name text

/-- A name is a whole word of a text: no word character stands next to it on either side. -/
def WholeIn (name text : List Char) : Prop :=
  ∃ ahead c d behind, text = ahead ++ c :: (name ++ d :: behind) ∧
    isWord c = false ∧ isWord d = false

/-- The name of a function is read up to its end. -/
theorem Registers.wholeIn (registers : Registers command name text) : WholeIn name text := by
  obtain @⟨gap₁, gap₂, gap₃, gap₄, gap₅, quote, mark, -, -, -, -, blank₄, -, -, blank₅, ends⟩ :=
    registers
  have gapped : ∀ c ∈ ',' :: gap₄, isWord c = false :=
    List.forall_mem_cons.mpr ⟨by decide, fun c inside => isWord_of_isBlank (blank₄ c inside)⟩
  have closed : ∀ d ∈ gap₅ ++ [mark], isWord d = false := by
    refine List.forall_mem_append.mpr
      ⟨fun c inside => isWord_of_isBlank (blank₅ c inside), List.forall_mem_singleton.mpr ?_⟩
    rcases ends with rfl | rfl <;> decide
  obtain ⟨front, c, comma⟩ := (List.eq_nil_or_concat (',' :: gap₄)).resolve_left (by simp)
  obtain ⟨d, behind, last⟩ := List.exists_cons_of_ne_nil (List.concat_ne_nil mark gap₅)
  rw [List.concat_eq_append] at comma
  refine ⟨handlerCall ++ (gap₁ ++ '(' :: (gap₂ ++ quote :: (command ++ quote :: (gap₃ ++ front)))),
    c, d, behind, ?_, gapped c (by simp [comma]), closed d (by simp [last])⟩
  rw [last, show ',' :: (gap₄ ++ (name ++ d :: behind)) = front ++ c :: (name ++ d :: behind) by
    rw [← List.cons_append, comma, List.append_assoc, List.singleton_append]]
  simp only [List.append_assoc, List.cons_append]

end Registrations

/-- **The function of a command is exact.** A function is found for a command if and only if the
source registers one somewhere outside of a word. It is the one that the first registration names,
and its name is a whole word there. -/
theorem handlerName?_exact (source command : String) :
    ((handlerName? source command).isSome = true ↔
      ∃ front text back,
        Occurs parts (IsRegistration command.toList) source.toList front text back) ∧
    ∀ name : String, handlerName? source command = some name ↔
      ∃ front text back,
        OccursFirst parts (IsRegistration command.toList) source.toList front text back ∧
          Registers command.toList name.toList text ∧ WholeIn name.toList text := by
  have exact := exact_registration command.toList
  have searches := searches_searchWord (registration command.toList)
  constructor
  · rw [handlerName?, Option.isSome_map]
    exact exact.search_isSome_iff searches
  · intro name
    rw [handlerName?, Option.map_eq_some_iff]
    constructor
    · rintro ⟨⟨named, back⟩, found, rfl⟩
      obtain ⟨front, text, first, registers⟩ := (exact.search_iff searches).mp found
      rw [String.toList_ofList]
      exact ⟨front, text, back, first, registers, registers.wholeIn⟩
    · rintro ⟨front, text, back, first, registers, -⟩
      exact ⟨(name.toList, back), (exact.search_iff searches).mpr ⟨front, text, first, registers⟩,
        String.ofList_toList⟩

/-- A call inside a word and a call with two different quotes are passed over. -/
example :
    handlerName? "XCommandHandler('a', f), CommandHandler('a\", g), CommandHandler ('a' ,h )" "a" =
      some "h" := by
  decide +kernel

end BotBench.Mining
