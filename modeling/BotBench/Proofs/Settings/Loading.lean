import BotBench.Proofs.Number.Infinite
import BotBench.Proofs.Settings.Mapping
import BotBench.Settings.File

/-! # Reports of a settings file

A settings file gives settings, or a fault that is reported in one of several ways, and which it is
depends on the value of the document alone (`BotBench.Settings.load_reports`). A section that is no
mapping is a bad value. So is the first setting that cannot be converted, unless its value is of a
kind that is never a number, or a number beyond the range of its key. A document that is no mapping
is not reported as a bad value. -/

namespace BotBench.Settings

open Number

variable {key : Key} {raw : RawSetting} {fault : SettingFault} {path : FilePath}
  {value : Yaml.Value} {pairs inner : List (Yaml.Value × Yaml.Value)}

/-! ## Values of a key -/

/-- A number is beyond the range of a key. -/
inductive OutOfRange : Key → RawSetting → Prop
  | real (key : RealKey) (n : Int) (large : overflowBound ≤ n.natAbs) :
      OutOfRange (.real key) (.whole n)
  | whole (key : WholeKey) (x : Float) (infinite : x.isInf = true) :
      OutOfRange (.whole key) (.real x)

theorem outOfRange_whole {key : WholeKey} {x : Float} :
    OutOfRange (.whole key) (.real x) ↔ x.isInf = true :=
  ⟨fun | .whole _ _ infinite => infinite, .whole key x⟩

/-- What a value is reported as that cannot be converted for a key. -/
inductive ReportedAs (key : Key) : RawSetting → Report → Prop
  | badKind (kind : String) : ReportedAs key (.unconvertible kind) .badKind
  | outOfRange (raw : RawSetting) (beyond : OutOfRange key raw) : ReportedAs key raw .outOfRange
  | badValue (raw : RawSetting) (convertible : ∀ kind, raw ≠ .unconvertible kind)
      (within : ¬OutOfRange key raw) : ReportedAs key raw .badValue

theorem reported_real {key : RealKey} (refused : raw.toReal = .error fault) :
    ReportedAs (.real key) raw fault.report := by
  cases raw with
  | flag value => cases refused
  | real x => cases refused
  | unconvertible kind =>
      obtain rfl := Except.error.inj refused
      exact .badKind kind
  | written written =>
      cases read : written.real? with
      | some x => simp [RawSetting.toReal, read] at refused
      | none =>
          obtain rfl : .notReal written = fault := by simpa [RawSetting.toReal, read] using refused
          exact .badValue _ nofun nofun
  | whole n =>
      by_cases beyond : (Binary64.ofRat n).toFloat.isInf = true
      · obtain rfl : .tooLarge = fault := by simpa [RawSetting.toReal, beyond] using refused
        exact .outOfRange _ (.real key n ((isInf_ofRat_iff n).mp beyond))
      · simp [RawSetting.toReal, beyond] at refused

theorem reported_whole {key : WholeKey} (refused : raw.toWhole = .error fault) :
    ReportedAs (.whole key) raw fault.report := by
  cases raw with
  | flag value => cases refused
  | whole n => cases refused
  | unconvertible kind =>
      obtain rfl := Except.error.inj refused
      exact .badKind kind
  | written written =>
      cases read : written.whole? with
      | some n => simp [RawSetting.toWhole, read] at refused
      | none =>
          obtain rfl : .notWhole written = fault := by
            simpa [RawSetting.toWhole, read] using refused
          exact .badValue _ nofun nofun
  | real x =>
      cases part : truncate? x with
      | some n => simp [RawSetting.toWhole, part] at refused
      | none =>
          simp only [RawSetting.toWhole, part, Except.error.injEq] at refused
          rcases (truncate?_eq_none_iff x).mp part with infinite | undefined
          · rw [if_neg (Bool.eq_false_iff.mp (not_isNaN_of_isInf infinite))] at refused
            obtain rfl := refused
            exact .outOfRange _ (.whole key x infinite)
          · rw [if_pos undefined] at refused
            obtain rfl := refused
            refine .badValue _ nofun fun beyond => ?_
            rw [outOfRange_whole] at beyond
            rw [not_isNaN_of_isInf beyond] at undefined
            cases undefined

theorem reported_of_refused (refused : key.convert raw = .error fault) :
    ReportedAs key raw fault.report := by
  cases key with
  | real key => exact reported_real (Key.convert_real_error.mp refused)
  | whole key => exact reported_whole (Key.convert_whole_error.mp refused)

theorem reportedAs_badKind_iff : ReportedAs key raw .badKind ↔ ∃ kind, raw = .unconvertible kind :=
  ⟨fun | .badKind kind => ⟨kind, rfl⟩, fun ⟨kind, same⟩ => same ▸ .badKind kind⟩

theorem reportedAs_outOfRange_iff : ReportedAs key raw .outOfRange ↔ OutOfRange key raw :=
  ⟨fun | .outOfRange _ beyond => beyond, .outOfRange raw⟩

theorem reportedAs_badValue_iff : ReportedAs key raw .badValue ↔
    (∀ kind, raw ≠ .unconvertible kind) ∧ ¬OutOfRange key raw :=
  ⟨fun | .badValue _ convertible within => ⟨convertible, within⟩,
    fun ⟨convertible, within⟩ => .badValue raw convertible within⟩

/-- A value is reported in one way. -/
theorem ReportedAs.unique {first second : Report} (reported : ReportedAs key raw first)
    (again : ReportedAs key raw second) : first = second := by
  cases reported with
  | badKind kind =>
      cases again with
      | badKind => rfl
      | outOfRange _ beyond => cases beyond
      | badValue _ convertible => exact absurd rfl (convertible kind)
  | outOfRange _ beyond =>
      cases again with
      | badKind => cases beyond
      | outOfRange => rfl
      | badValue _ _ within => exact absurd beyond within
  | badValue _ convertible within =>
      cases again with
      | badKind kind => exact absurd rfl (convertible kind)
      | outOfRange _ beyond => exact absurd beyond within
      | badValue => rfl

/-! ## Documents -/

/-- The first setting of a document that cannot be converted. -/
def BreaksAt (value : Yaml.Value) (key : Key) (raw : RawSetting) : Prop :=
  ∃ pairs inner fault, value = .map pairs ∧ textKey? "simulator" pairs = some (.map inner) ∧
    FailsFirst (textEntries inner) key raw fault

/-- The settings are refused with a fault that is reported in this way. -/
def Reports (outcome : Except LoadFault Settings) (report : Report) : Prop :=
  ∃ fault, outcome = .error fault ∧ fault.report = report

/-- Settings are given, or they are refused for a bad value. -/
def Settles (outcome : Except LoadFault Settings) : Prop :=
  (∃ s, outcome = .ok s) ∨ Reports outcome .badValue

theorem reports_error {fault : LoadFault} {report : Report} :
    Reports (.error fault) report ↔ fault.report = report := by
  simp [Reports]

theorem reports_ok {s : Settings} {report : Report} : ¬Reports (.ok s) report := by
  simp [Reports]

/-- What a document comes to. -/
inductive Verdict (path : FilePath) (value : Yaml.Value) : Except LoadFault Settings → Prop
  | settings (s : Settings) (shape : value.isEmpty = true ∨ ∃ pairs, value = .map pairs)
      (whole : ∀ key raw, ¬BreaksAt value key raw) : Verdict path value (.ok s)
  | noMapping (filled : value.isEmpty = false) (other : ∀ pairs, value ≠ .map pairs) :
      Verdict path value (.error (.notMapping value.kind))
  | noSection (shape : ∃ pairs, value = .map pairs) (whole : ∀ key raw, ¬BreaksAt value key raw) :
      Verdict path value (.error (.invalidSection path.toString))
  | broken (key : Key) (raw : RawSetting) (fault : SettingFault) (breaks : BreaksAt value key raw)
      (refused : key.convert raw = .error fault) : Verdict path value (.error (.setting fault))

theorem breaksAt_map : BreaksAt (.map pairs) key raw ↔
    ∃ inner fault, textKey? "simulator" pairs = some (.map inner) ∧
      FailsFirst (textEntries inner) key raw fault := by
  constructor
  · rintro ⟨pairs, inner, fault, same, found, fails⟩
    obtain rfl := Yaml.Value.map.inj same
    exact ⟨inner, fault, found, fails⟩
  · rintro ⟨inner, fault, found, fails⟩
    exact ⟨pairs, inner, fault, rfl, found, fails⟩

theorem not_breaksAt_of_isEmpty (empty : value.isEmpty = true) : ¬BreaksAt value key raw := by
  rintro ⟨pairs, inner, fault, rfl, found, -⟩
  obtain rfl : pairs = [] := List.isEmpty_iff.mp empty
  cases found

/-- The section of a mapping that is a mapping itself. -/
theorem verdict_section (found : textKey? "simulator" pairs = some (.map inner)) :
    Verdict path (.map pairs) ((fromMapping (textEntries inner)).mapError .setting) := by
  cases read : fromMapping (textEntries inner) with
  | ok s =>
      refine .settings s (.inr ⟨pairs, rfl⟩) fun key raw breaks => ?_
      obtain ⟨inner', fault, found', fails⟩ := breaksAt_map.mp breaks
      rw [found, Option.some.injEq, Yaml.Value.map.injEq] at found'
      subst found'
      have failed : fromMapping (textEntries inner) = .error fault :=
        foldlM_eq_error_iff.mpr ⟨key, raw, fails⟩
      rw [read] at failed
      cases failed
  | error fault =>
      obtain ⟨key, raw, fails⟩ := foldlM_eq_error_iff.mp read
      exact .broken key raw fault (breaksAt_map.mpr ⟨inner, fault, found, fails⟩) fails.refused

/-- **What a document comes to.** -/
theorem verdict (path : FilePath) (value : Yaml.Value) :
    Verdict path value (ofDocument path value) := by
  unfold ofDocument
  split_ifs with empty
  · exact .settings {} (.inl empty) fun key raw => not_breaksAt_of_isEmpty empty
  · split
    · rename_i pairs
      have whole (absent : ∀ inner, textKey? "simulator" pairs ≠ some (.map inner)) (key : Key)
          (raw : RawSetting) : ¬BreaksAt (.map pairs) key raw := by
        rw [breaksAt_map]
        rintro ⟨inner, -, found, -⟩
        exact absent inner found
      split
      · rename_i missing
        exact .settings {} (.inr ⟨pairs, rfl⟩) (whole fun inner found => by simp [missing] at found)
      · rename_i inner found
        exact verdict_section found
      · rename_i given other found
        refine .noSection ⟨pairs, rfl⟩ (whole fun inner found' => ?_)
        exact other inner (Option.some.inj (found.symm.trans found'))
    · rename_i other
      exact .noMapping (Bool.eq_false_iff.mpr empty) other

theorem BreaksAt.refused (breaks : BreaksAt value key raw) (path : FilePath) :
    ∃ fault, key.convert raw = .error fault ∧ ofDocument path value = .error (.setting fault) := by
  have filled : ¬value.isEmpty = true := fun empty => not_breaksAt_of_isEmpty empty breaks
  obtain ⟨pairs, inner, fault, rfl, found, fails⟩ := breaks
  have failed : fromMapping (textEntries inner) = .error fault :=
    foldlM_eq_error_iff.mpr ⟨key, raw, fails⟩
  exact ⟨fault, fails.refused, by simp [ofDocument, filled, found, failed, Except.mapError]⟩

/-- Only a setting is reported as anything else than a bad value or a missing mapping. -/
theorem reports_iff_breaks {report : Report} (special : report ≠ .badValue ∧ report ≠ .noMapping) :
    Reports (ofDocument path value) report ↔
      ∃ key raw, BreaksAt value key raw ∧ ReportedAs key raw report := by
  constructor
  · intro reports
    have settled := verdict path value
    generalize ofDocument path value = outcome at settled reports
    cases settled with
    | settings s shape whole => exact absurd reports reports_ok
    | noMapping filled other => exact absurd (reports_error.mp reports).symm special.2
    | noSection shape whole => exact absurd (reports_error.mp reports).symm special.1
    | broken key raw fault breaks refused =>
        obtain rfl := reports_error.mp reports
        exact ⟨key, raw, breaks, reported_of_refused refused⟩
  · rintro ⟨key, raw, breaks, reported⟩
    obtain ⟨fault, refused, outcome⟩ := breaks.refused path
    rw [outcome, reports_error]
    exact (reported_of_refused refused).unique reported

theorem reports_noMapping_iff : Reports (ofDocument path value) .noMapping ↔
    value.isEmpty = false ∧ ∀ pairs, value ≠ .map pairs := by
  constructor
  · intro reports
    have settled := verdict path value
    generalize ofDocument path value = outcome at settled reports
    cases settled with
    | settings s shape whole => exact absurd reports reports_ok
    | noMapping filled other => exact ⟨filled, other⟩
    | noSection shape whole => exact absurd (reports_error.mp reports) nofun
    | broken key raw fault breaks refused =>
        have reported := reported_of_refused refused
        rw [show fault.report = .noMapping from reports_error.mp reports] at reported
        cases reported
  · rintro ⟨filled, other⟩
    have outcome : ofDocument path value = .error (.notMapping value.kind) := by
      unfold ofDocument
      rw [if_neg (Bool.eq_false_iff.mp filled)]
      split
      · exact absurd rfl (other _)
      · rfl
    rw [outcome, reports_error, LoadFault.report]

theorem not_settles_error {fault : LoadFault} (other : fault.report ≠ .badValue) :
    ¬Settles (.error fault) := by
  rw [Settles, reports_error, not_or]
  exact ⟨nofun, other⟩

theorem settles_iff : Settles (ofDocument path value) ↔
    (value.isEmpty = true ∨ ∃ pairs, value = .map pairs) ∧
      ∀ key raw, BreaksAt value key raw → ReportedAs key raw .badValue := by
  constructor
  · intro settles
    refine ⟨?_, fun key raw breaks => ?_⟩
    · by_contra shape
      rw [not_or, not_exists, Bool.not_eq_true] at shape
      obtain ⟨fault, outcome, report⟩ := reports_noMapping_iff.mpr shape
      rw [outcome] at settles
      exact not_settles_error (by simp [report]) settles
    · obtain ⟨fault, refused, outcome⟩ := breaks.refused path
      rw [outcome, Settles, reports_error] at settles
      have reported := reported_of_refused refused
      rcases settles with ⟨s, failed⟩ | report
      · cases failed
      · rwa [show fault.report = .badValue from report] at reported
  · rintro ⟨shape, broken⟩
    have settled := verdict path value
    generalize ofDocument path value = outcome at settled
    cases settled with
    | settings s shape whole => exact .inl ⟨s, rfl⟩
    | noMapping filled other =>
        rcases shape with empty | ⟨pairs, same⟩
        · exact absurd empty (Bool.eq_false_iff.mp filled)
        · exact absurd same (other pairs)
    | noSection shape whole => exact .inr (reports_error.mpr rfl)
    | broken key raw fault breaks refused =>
        exact .inr (reports_error.mpr ((reported_of_refused refused).unique (broken key raw breaks)))

/-- **What a settings file is reported as depends on its value alone.** It gives settings or is
reported as a bad value exactly if it is empty or a mapping, and the value of the first setting that
cannot be converted is of a kind that may be a number, and not beyond the range of the setting.
Another document that is no mapping is reported as such, and so are the two exceptions. -/
theorem load_reports (path : FilePath) (value : Yaml.Value) :
    (∀ tree given environment text, choosePath given environment = path →
      tree.lookup path = .file text → Yaml.Value.ofText text = .ok value →
      load tree given environment true = ofDocument path value) ∧
    (Settles (ofDocument path value) ↔
      (value.isEmpty = true ∨ ∃ pairs, value = .map pairs) ∧
        ∀ key raw, BreaksAt value key raw →
          (∀ kind, raw ≠ .unconvertible kind) ∧ ¬OutOfRange key raw) ∧
    (Reports (ofDocument path value) .noMapping ↔
      value.isEmpty = false ∧ ∀ pairs, value ≠ .map pairs) ∧
    (Reports (ofDocument path value) .badKind ↔
      ∃ key kind, BreaksAt value key (.unconvertible kind)) ∧
    (Reports (ofDocument path value) .outOfRange ↔
      ∃ key raw, BreaksAt value key raw ∧ OutOfRange key raw) := by
  refine ⟨?_, ?_, reports_noMapping_iff, ?_, ?_⟩
  · rintro tree given environment text rfl found read
    simp [load, found, read]
  · simp only [settles_iff, reportedAs_badValue_iff]
  · simp only [reports_iff_breaks (show Report.badKind ≠ .badValue ∧
      Report.badKind ≠ .noMapping by decide), reportedAs_badKind_iff]
    constructor
    · rintro ⟨key, raw, breaks, kind, rfl⟩
      exact ⟨key, kind, breaks⟩
    · rintro ⟨key, kind, breaks⟩
      exact ⟨key, _, breaks, kind, rfl⟩
  · simp only [reports_iff_breaks (show Report.outOfRange ≠ .badValue ∧
      Report.outOfRange ≠ .noMapping by decide), reportedAs_outOfRange_iff]

/-- A working directory whose settings file has this text. -/
def settingsFile (text : String) : FileTree := [(["config", "botdeck.yaml"], text)]

theorem lookup_settingsFile (text : String) :
    (settingsFile text).lookup (choosePath none none) = .file text := rfl

/-- Whether a document has the section `simulator` alone, and this lists one and two. -/
def isListedSection : Except Yaml.Fault Yaml.Value → Bool
  | .ok (.map [(.text "simulator", .list [.int 1, .int 2])]) => true
  | _ => false

theorem ofText_listedSection : Yaml.Value.ofText "simulator: [1, 2]\n" =
    .ok (.map [(.text "simulator", .list [.int 1, .int 2])]) := by
  have read : isListedSection (Yaml.Value.ofText "simulator: [1, 2]\n") = true := by
    decide +kernel
  unfold isListedSection at read
  split at read
  · assumption
  · cases read

/-- A section that is a list is a bad value. -/
theorem load_reports_listedSection :
    Settles (load (settingsFile "simulator: [1, 2]\n") none none true) := by
  obtain ⟨loads, settles, -⟩ := load_reports (choosePath none none)
    (.map [(.text "simulator", .list [.int 1, .int 2])])
  rw [loads _ _ _ _ rfl (lookup_settingsFile _) ofText_listedSection]
  refine settles.mpr ⟨.inr ⟨_, rfl⟩, fun key raw breaks => ?_⟩
  obtain ⟨inner, fault, found, -⟩ := breaksAt_map.mp breaks
  cases found

instance decidableRefused (outcome : Except LoadFault Settings) (fault : LoadFault) :
    Decidable (outcome = .error fault) :=
  match outcome with
  | .ok _ => isFalse nofun
  | .error other => decidable_of_iff (other = fault) ⟨congrArg _, Except.error.inj⟩

/-- A list in place of a mapping, no value for a delay and an infinite limit are neither taken nor
reported as bad values. -/
theorem load_not_settled :
    ¬Settles (load (settingsFile "- 1\n") none none true) ∧
      ¬Settles (load (settingsFile "simulator:\n  connect_delay_s:\n") none none true) ∧
      ¬Settles (load (settingsFile "simulator:\n  log_limit: .inf\n") none none true) := by
  have listed : load (settingsFile "- 1\n") none none true = .error (.notMapping "list") := by
    decide +kernel
  have missing : load (settingsFile "simulator:\n  connect_delay_s:\n") none none true =
      .error (.setting (.kindNotReal "NoneType")) := by
    decide +kernel
  have infinite : load (settingsFile "simulator:\n  log_limit: .inf\n") none none true =
      .error (.setting .infiniteWhole) := by
    decide +kernel
  rw [listed, missing, infinite]
  exact ⟨not_settles_error nofun, not_settles_error nofun, not_settles_error nofun⟩

end BotBench.Settings
