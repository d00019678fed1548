import BotBench.Proofs.Mining.Occurrence

/-! # Headers of functions

A header has gaps, blanks, nested parentheses and an annotation that could be read in more than one
way. The reader is exact for its form (`BotBench.Mining.afterHeader?_eq_some_iff`), so that a header
ends at one place wherever it begins (`BotBench.Mining.IsHeader.eq_of_append_eq`). -/

namespace BotBench.Mining

open Text

variable {name cs text rest : List Char} {c : Char}

/-! ## Parameters -/

/-- A text without parentheses. -/
def Flat (text : List Char) : Prop := ∀ c ∈ text, c ≠ '(' ∧ c ≠ ')'

/-- A text in which parentheses nest at most one level. -/
inductive Parameters : List Char → Prop
  | nil : Parameters []
  | plain {c : Char} {text : List Char} (opens : c ≠ '(') (closes : c ≠ ')') :
      Parameters text → Parameters (c :: text)
  | nested {inside text : List Char} (flat : Flat inside) :
      Parameters text → Parameters ('(' :: (inside ++ ')' :: text))

theorem afterParameters?_cons (inner : Bool) (c : Char) (cs : List Char) :
    afterParameters? inner (c :: cs) =
      if c = '(' then if inner then none else afterParameters? true cs
      else if c = ')' then if inner then afterParameters? false cs else some cs
      else afterParameters? inner cs := by
  by_cases opens : c = '('
  · rw [opens, afterParameters?, if_pos rfl]
  · by_cases closes : c = ')'
    · cases inner <;> simp [closes, afterParameters?]
    · rw [afterParameters?, if_neg opens, if_neg closes]
      · exact opens
      · exact closes

theorem afterParameters?_flat {inside : List Char} (flat : Flat inside) (inner : Bool)
    (rest : List Char) :
    afterParameters? inner (inside ++ rest) = afterParameters? inner rest := by
  induction inside with
  | nil => rfl
  | cons c cs ih =>
      obtain ⟨⟨opens, closes⟩, flat⟩ := List.forall_mem_cons.mp flat
      rw [List.cons_append, afterParameters?_cons, if_neg opens, if_neg closes, ih flat]

/-- Parameters are read up to the parenthesis behind them. -/
theorem afterParameters?_append (parameters : Parameters text) (rest : List Char) :
    afterParameters? false (text ++ ')' :: rest) = some rest := by
  induction parameters with
  | nil => rfl
  | plain opens closes _ ih =>
      rw [List.cons_append, afterParameters?_cons, if_neg opens, if_neg closes, ih]
  | nested flat _ ih =>
      rw [List.cons_append, List.append_assoc, List.cons_append, afterParameters?_cons,
        if_pos rfl, if_neg (by simp), afterParameters?_flat flat, afterParameters?_cons,
        if_neg (by decide), if_pos rfl, if_pos rfl, ih]

/-- What stands in front of the closing parenthesis, if an inner one is open or not. -/
def Enclosed : Bool → List Char → Prop
  | false, text => Parameters text
  | true, text => ∃ inside outer, text = inside ++ ')' :: outer ∧ Flat inside ∧ Parameters outer

theorem enclosed_of_after {inner : Bool} (found : afterParameters? inner cs = some rest) :
    ∃ text, cs = text ++ ')' :: rest ∧ Enclosed inner text := by
  induction cs generalizing inner with
  | nil => cases found
  | cons c cs ih =>
      rw [afterParameters?_cons] at found
      split at found
      next opens =>
        cases inner
        · obtain ⟨text, rfl, inside, outer, rfl, flat, parameters⟩ := ih found
          exact ⟨c :: (inside ++ ')' :: outer), rfl, opens ▸ .nested flat parameters⟩
        · cases found
      next opens =>
        split at found
        next closes =>
          cases inner
          · cases found
            exact ⟨[], by rw [closes]; rfl, .nil⟩
          · obtain ⟨text, rfl, parameters⟩ := ih found
            exact ⟨c :: text, rfl, [], text, by rw [closes]; rfl, by simp [Flat], parameters⟩
        next closes =>
          obtain ⟨text, rfl, enclosed⟩ := ih found
          refine ⟨c :: text, rfl, ?_⟩
          cases inner
          · exact .plain opens closes enclosed
          · obtain ⟨inside, outer, rfl, flat, parameters⟩ := enclosed
            exact ⟨c :: inside, outer, rfl, List.forall_mem_cons.mpr ⟨⟨opens, closes⟩, flat⟩,
              parameters⟩

/-! ## Annotations -/

/-- A text on one line without a colon. -/
def IsNote (text : List Char) : Prop := ∀ c ∈ text, c ≠ ':' ∧ c ≠ '\n'

/-- An annotation of the result, or nothing: an arrow, blanks, and a note that is not empty. -/
inductive IsRemark : List Char → Prop
  | none : IsRemark []
  | arrow {gap note : List Char} (blank : ∀ c ∈ gap, isBlank c = true) (filled : note ≠ [])
      (isNote : IsNote note) : IsRemark ('-' :: '>' :: (gap ++ note))

theorem skipBlanks_head (cs : List Char) : ∀ c ∈ (skipBlanks cs).head?, isBlank c = false := by
  intro c first
  have stop := List.head?_dropWhile_not isBlank cs
  rw [skipBlanks] at first
  rwa [first] at stop

/-- A note is read up to the colon, whichever of its blanks are taken for the gap before it. -/
theorem afterAnnotation?_append {gap note : List Char} (blank : ∀ c ∈ gap, isBlank c = true)
    (filled : note ≠ []) (isNote : IsNote note) (rest : List Char) :
    afterAnnotation? (gap ++ (note ++ ':' :: rest)) = some rest := by
  -- the blanks in front of the note are passed with the gap, so that less of it may be left
  obtain ⟨blanks, split, blank'⟩ := skipBlanks_spec note
  have solid := skipBlanks_head note
  generalize skipBlanks note = back at split solid
  subst split
  obtain ⟨-, noteBack⟩ := List.forall_mem_append.mp isNote
  have stop : ∀ c ∈ (back ++ ':' :: rest).head?, isBlank c = false := by
    cases back with
    | nil => simpa using show isBlank ':' = false by decide
    | cons c cs => simpa using solid
  have inside : ∀ c ∈ back, (c != ':' && c != '\n') = true := fun c inside => by
    simpa using noteBack c inside
  obtain ⟨taken, dropped⟩ := while_append (List.forall_mem_append.mpr ⟨blank, blank'⟩) _ stop
  obtain ⟨written, colon⟩ := while_append inside (':' :: rest) (by simp)
  have kept : (!back.isEmpty || (!(gap ++ blanks).isEmpty &&
      (gap ++ blanks).getLast? != some '\n')) = true := by
    cases back with
    | cons c cs => rfl
    | nil =>
        rw [List.append_nil] at filled isNote
        obtain ⟨front, c, rfl⟩ := (List.eq_nil_or_concat blanks).resolve_left filled
        have line := (isNote c (by simp)).2
        simp [List.getLast?_append, line]
  unfold afterAnnotation?
  rw [List.append_assoc, ← List.append_assoc gap, taken, dropped]
  dsimp only
  rw [written, colon]
  exact if_pos kept

/-- What is read as an annotation has a note, be it only the last of the blanks. -/
theorem annotation_of_after (found : afterAnnotation? cs = some rest) :
    ∃ gap note, cs = gap ++ (note ++ ':' :: rest) ∧ (∀ c ∈ gap, isBlank c = true) ∧ note ≠ [] ∧
      IsNote note := by
  obtain ⟨blanks, split, blank⟩ : ∃ blanks, cs = blanks ++ cs.dropWhile isBlank ∧
      ∀ c ∈ blanks, isBlank c = true := skipBlanks_spec cs
  have taken : cs.takeWhile isBlank = blanks :=
    List.append_cancel_right (List.takeWhile_append_dropWhile.trans split)
  have line := @List.takeWhile_append_dropWhile _ (fun c => c != ':' && c != '\n')
    (cs.dropWhile isBlank)
  have noted : IsNote ((cs.dropWhile isBlank).takeWhile fun c => c != ':' && c != '\n') :=
    fun c inside => by simpa using List.mem_takeWhile_imp inside
  unfold afterAnnotation? at found
  rw [taken] at found
  dsimp only at found
  generalize (cs.dropWhile isBlank).takeWhile (fun c => c != ':' && c != '\n') = written
    at found line noted
  split at found
  next after colon =>
    rw [colon] at line
    split at found
    next kept =>
      cases found
      cases written with
      | cons c note =>
          exact ⟨blanks, c :: note, by rw [split, ← line], blank, by simp, noted⟩
      | nil =>
          simp only [List.isEmpty_nil, Bool.not_true, Bool.false_or, Bool.and_eq_true,
            Bool.not_eq_true', List.isEmpty_eq_false_iff, bne_iff_ne, ne_eq] at kept
          obtain ⟨gap, c, rfl⟩ := (List.eq_nil_or_concat blanks).resolve_left kept.1
          rw [List.concat_eq_append] at kept split blank
          obtain ⟨blank, last⟩ := List.forall_mem_append.mp blank
          have last : isBlank c = true := last c (by simp)
          have plain : c ≠ ':' ∧ c ≠ '\n' := by
            refine ⟨?_, fun newline => kept.2 (by simp [newline])⟩
            rintro rfl
            revert last
            decide
          exact ⟨gap, [c], by rw [split, ← line]; simp, blank, by simp,
            List.forall_mem_singleton.mpr plain⟩
    next => cases found
  next => cases found

/-! ## Headers -/

/-- A run of spaces and tabs that is not empty. -/
def IsGap (gap : List Char) : Prop := gap ≠ [] ∧ ∀ c ∈ gap, isGap c = true

/-- A header from the name of its function on: the parameters, an annotation or none, and a colon,
with blanks between them. -/
inductive IsSignature (name : List Char) : List Char → Prop
  | intro {gap₁ parameters gap₂ remark : List Char} (blank₁ : ∀ c ∈ gap₁, isBlank c = true)
      (isList : Parameters parameters) (blank₂ : ∀ c ∈ gap₂, isBlank c = true)
      (isRemark : IsRemark remark) :
      IsSignature name (name ++ (gap₁ ++ '(' :: (parameters ++
        ')' :: (gap₂ ++ (remark ++ [':'])))))

/-- The word that may stand in front of a definition, with its gap. -/
inductive IsAsync : List Char → Prop
  | absent : IsAsync []
  | present {gap : List Char} (isGap : IsGap gap) : IsAsync ("async".toList ++ gap)

/-- The header of a function, on an indented line of its own. -/
inductive IsHeader (name : List Char) : List Char → Prop
  | intro {indent async gap signature : List Char} (indented : ∀ c ∈ indent, isGap c = true)
      (isAsync : IsAsync async) (isGap : IsGap gap) (isSignature : IsSignature name signature) :
      IsHeader name (indent ++ (async ++ ("def".toList ++ (gap ++ signature))))

theorem isBlank_of_isGap (gap : isGap c = true) : isBlank c = true := by
  simp only [isGap, Bool.or_eq_true, beq_iff_eq] at gap
  rcases gap with rfl | rfl <;> decide

theorem afterResult?_eq_some_iff :
    afterResult? cs = some rest ↔ ∃ gap remark, cs = gap ++ (remark ++ ':' :: rest) ∧
      (∀ c ∈ gap, isBlank c = true) ∧ IsRemark remark := by
  constructor
  · intro found
    obtain ⟨gap, split, blank⟩ := skipBlanks_spec cs
    unfold afterResult? at found
    split at found
    next colon =>
      cases found
      exact ⟨gap, [], by rw [split, colon]; rfl, blank, .none⟩
    next arrow =>
      obtain ⟨gap', note, rfl, blank', filled, isNote⟩ := annotation_of_after found
      exact ⟨gap, '-' :: '>' :: (gap' ++ note), by rw [split, arrow]; simp, blank,
        .arrow blank' filled isNote⟩
    next => cases found
  · rintro ⟨gap, remark, rfl, blank, isRemark⟩
    rw [afterResult?, skipBlanks_append blank]
    cases isRemark with
    | none =>
        rw [List.nil_append, skipBlanks_solid (by decide)]
        rfl
    | arrow blank' filled isNote =>
        rw [List.cons_append, List.cons_append, skipBlanks_solid (by decide), List.append_assoc]
        exact afterAnnotation?_append blank' filled isNote rest

theorem afterSignature?_eq_some_iff :
    afterSignature? name cs = some rest ↔ ∃ text, cs = text ++ rest ∧ IsSignature name text := by
  constructor
  · intro found
    unfold afterSignature? at found
    split at found
    next => cases found
    next behind named =>
      split at found
      next => cases found
      next inner opened =>
        split at found
        next => cases found
        next result closed =>
          obtain ⟨gap₁, rfl, blank₁⟩ := afterMark?_eq_some opened
          obtain ⟨parameters, rfl, isList⟩ := enclosed_of_after closed
          obtain ⟨gap₂, remark, rfl, blank₂, isRemark⟩ := afterResult?_eq_some_iff.mp found
          exact ⟨_, by rw [afterWord?_eq_some named]; simp,
            .intro blank₁ isList blank₂ isRemark⟩
  · rintro ⟨_, rfl, @⟨gap₁, parameters, gap₂, remark, blank₁, isList, blank₂, isRemark⟩⟩
    have result := @afterResult?_eq_some_iff _ rest |>.mpr ⟨gap₂, remark, rfl, blank₂, isRemark⟩
    simp only [afterSignature?, List.append_assoc, List.cons_append, List.nil_append,
      afterWord?_append, afterMark?_append (show isBlank '(' = false by decide) blank₁,
      afterParameters?_append isList, result]

theorem gap_of_gapThen {α : Type} {next : List Char → Option α} {found : α}
    (accepted : gapThen next cs = some found) :
    ∃ gap back, cs = gap ++ back ∧ IsGap gap ∧ next back = some found := by
  induction cs with
  | nil => cases accepted
  | cons c cs ih =>
      rw [gapThen] at accepted
      split at accepted
      next gapped =>
        cases later : gapThen next cs with
        | some other =>
            rw [later] at accepted
            cases accepted
            obtain ⟨gap, back, rfl, isGap, accepted⟩ := ih later
            exact ⟨c :: gap, back, rfl, ⟨by simp, List.forall_mem_cons.mpr ⟨gapped, isGap.2⟩⟩,
              accepted⟩
        | none =>
            rw [later] at accepted
            exact ⟨[c], cs, rfl, ⟨by simp, List.forall_mem_singleton.mpr gapped⟩, accepted⟩
      next => cases accepted

/-- A gap is passed as a whole, since no shorter one is tried before. -/
theorem gapThen_append {α : Type} {next : List Char → Option α} {found : α} {gap back : List Char}
    (gapped : IsGap gap) (solid : ∀ c ∈ back.head?, isGap c = false)
    (accepted : next back = some found) : gapThen next (gap ++ back) = some found := by
  obtain ⟨c, gap, rfl⟩ := List.exists_cons_of_ne_nil gapped.1
  obtain ⟨isGap, gapped⟩ := List.forall_mem_cons.mp gapped.2
  induction gap generalizing c with
  | nil =>
      have later : gapThen next back = none := by
        cases back with
        | nil => rfl
        | cons d ds => rw [gapThen, if_neg (by simp [solid d rfl])]
      rw [List.singleton_append, gapThen, if_pos isGap, later]
      exact accepted
  | cons d gap ih =>
      obtain ⟨isGap', gapped'⟩ := List.forall_mem_cons.mp gapped
      rw [List.cons_append, gapThen, if_pos isGap, ih d ⟨by simp, gapped⟩ isGap' gapped']
      rfl

theorem gap_of_afterGap (found : afterGap? cs = some rest) :
    ∃ gap, cs = gap ++ rest ∧ IsGap gap := by
  cases cs with
  | nil => cases found
  | cons c cs =>
      rw [afterGap?] at found
      split at found
      next gapped =>
        cases found
        exact ⟨c :: cs.takeWhile isGap, by simp, by simp,
          List.forall_mem_cons.mpr ⟨gapped, fun _ inside => List.mem_takeWhile_imp inside⟩⟩
      next => cases found

theorem afterGap?_append {gap : List Char} (gapped : IsGap gap)
    (solid : ∀ c ∈ rest.head?, isGap c = false) : afterGap? (gap ++ rest) = some rest := by
  obtain ⟨c, gap, rfl⟩ := List.exists_cons_of_ne_nil gapped.1
  obtain ⟨isGap, gapped⟩ := List.forall_mem_cons.mp gapped.2
  rw [List.cons_append, afterGap?, if_pos isGap, (while_append gapped rest solid).2]

section Named

variable (named : name ≠ []) (word : ∀ c ∈ name, isWord c = true)

include named word

theorem IsSignature.head_solid (isSignature : IsSignature name text) :
    ∀ c ∈ (text ++ rest).head?, isGap c = false := by
  obtain ⟨-, -, -, -⟩ := isSignature
  obtain ⟨c, cs, rfl⟩ := List.exists_cons_of_ne_nil named
  have solid := isBlank_of_isWord (word c List.mem_cons_self)
  rw [List.append_assoc, List.cons_append, List.head?_cons]
  rintro _ ⟨rfl⟩
  by_contra gap
  rw [isBlank_of_isGap (by simpa using gap)] at solid
  cases solid

theorem afterDefinition?_eq_some_iff :
    afterDefinition? name cs = some rest ↔ ∃ gap signature,
      cs = "def".toList ++ (gap ++ (signature ++ rest)) ∧ IsGap gap ∧
        IsSignature name signature := by
  constructor
  · intro found
    unfold afterDefinition? at found
    split at found
    next behind defined =>
      obtain ⟨gap, back, rfl, isGap, accepted⟩ := gap_of_gapThen found
      obtain ⟨signature, rfl, isSignature⟩ := afterSignature?_eq_some_iff.mp accepted
      exact ⟨gap, signature, afterWord?_eq_some defined, isGap, isSignature⟩
    next => cases found
  · rintro ⟨gap, signature, rfl, isGap, isSignature⟩
    simp only [afterDefinition?, afterWord?_append]
    exact gapThen_append isGap (isSignature.head_solid named word)
      (afterSignature?_eq_some_iff.mpr ⟨signature, rfl, isSignature⟩)

/-- **The reader of headers is exact.** It accepts the headers of the function, whatever follows
them, and nothing else. -/
theorem afterHeader?_eq_some_iff :
    afterHeader? name cs = some rest ↔ ∃ text, cs = text ++ rest ∧ IsHeader name text := by
  constructor
  · intro found
    obtain ⟨indent, split, indented⟩ : ∃ indent, cs = indent ++ cs.dropWhile isGap ∧
        ∀ c ∈ indent, isGap c = true :=
      ⟨_, List.takeWhile_append_dropWhile.symm, fun _ => List.mem_takeWhile_imp⟩
    unfold afterHeader? at found
    dsimp only at found
    generalize cs.dropWhile isGap = line at split found
    subst split
    split at found
    next behind spaced =>
      obtain ⟨ahead, async, spaced⟩ := Option.bind_eq_some_iff.mp spaced
      obtain ⟨gap, rfl, isGap⟩ := gap_of_afterGap spaced
      obtain ⟨gap', signature, rfl, isGap', isSignature⟩ :=
        (afterDefinition?_eq_some_iff named word).mp found
      exact ⟨_, by rw [afterWord?_eq_some async]; simp,
        .intro indented (.present isGap) isGap' isSignature⟩
    next =>
      obtain ⟨gap, signature, rfl, isGap, isSignature⟩ :=
        (afterDefinition?_eq_some_iff named word).mp found
      exact ⟨_, by simp, .intro indented .absent isGap isSignature⟩
  · rintro ⟨_, rfl, @⟨indent, async, gap, signature, indented, isAsync, isGap, isSignature⟩⟩
    have defined := (afterDefinition?_eq_some_iff named word).mpr
      ⟨gap, signature, @rfl _ ("def".toList ++ (gap ++ (signature ++ rest))), isGap, isSignature⟩
    have solid : ∀ d ∈ ("def".toList ++ (gap ++ (signature ++ rest))).head?,
        Mining.isGap d = false := by
      rintro _ ⟨rfl⟩
      decide
    simp only [List.append_assoc]
    cases isAsync with
    | absent =>
        rw [List.nil_append, afterHeader?, (while_append indented _ solid).2]
        exact defined
    | present isGap' =>
        have spaced := afterGap?_append isGap' solid
        rw [List.append_assoc, afterHeader?, (while_append indented _ (by
          rintro _ ⟨rfl⟩
          decide)).2]
        simp only [afterWord?_append, Option.bind_some, spaced]
        exact defined

/-- Wherever a header begins, it ends at one place. -/
theorem IsHeader.eq_of_append_eq {text' rest' : List Char} (isHeader : IsHeader name text)
    (isHeader' : IsHeader name text') (same : text ++ rest = text' ++ rest') : text = text' := by
  have accepted : afterHeader? name (text ++ rest) = some rest :=
    (afterHeader?_eq_some_iff named word).mpr ⟨text, rfl, isHeader⟩
  have accepted' : afterHeader? name (text ++ rest) = some rest' :=
    (afterHeader?_eq_some_iff named word).mpr ⟨text', same, isHeader'⟩
  obtain rfl : rest = rest' := Option.some_inj.mp (accepted.symm.trans accepted')
  exact List.append_cancel_right same

end Named

end BotBench.Mining
