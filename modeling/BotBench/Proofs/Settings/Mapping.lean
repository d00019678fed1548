import BotBench.Settings.Basic
import Mathlib.Data.List.Basic

/-! # Settings from a mapping

A mapping is read entry by entry, but each key stands on its own: the settings that are read agree
with the mapping where it gives a known key, and with the defaults elsewhere
(`BotBench.Settings.foldlM_eq_ok_iff`), and the first known key whose value cannot be converted is
the fault of the whole mapping (`BotBench.Settings.foldlM_eq_error_iff`). Neither the order of the
entries nor any unknown key matters to what is read (`BotBench.Settings.fromMapping_by_keys`). -/

namespace BotBench.Settings

variable {s base result : Settings} {key other : Key} {raw : RawSetting} {value : Json}
  {fault : SettingFault} {name : String} {entry : String × RawSetting}
  {entries first second : List (String × RawSetting)}

/-! ## Keys -/

/-- A value converted to the kind of a default. -/
def convertLike (default : Json) (raw : RawSetting) : Except SettingFault Json :=
  match default with
  | .float _ => raw.toReal.map .float
  | _ => raw.toWhole.map .int

/-- A value converted to the kind that the default of a key has. -/
def Key.convert (key : Key) (raw : RawSetting) : Except SettingFault Json :=
  convertLike (({} : Settings).get key) raw

theorem Key.ofName?_name (key : Key) : Key.ofName? key.name = some key := by
  rcases key with key | key <;> cases key <;> decide

theorem Key.ofName?_eq_some_iff : Key.ofName? name = some key ↔ name = key.name := by
  constructor
  · intro named
    have same := List.find?_some named
    exact (beq_iff_eq.mp same).symm
  · rintro rfl
    exact key.ofName?_name

theorem Key.name_injective (same : key.name = other.name) : key = other :=
  Option.some_inj.mp (by rw [← key.ofName?_name, same, other.ofName?_name])

/-- The settings are told apart by the values of their keys. -/
theorem ext_get (same : ∀ key, s.get key = result.get key) : s = result := by
  have reals (key : RealKey) : s.getReal key = result.getReal key :=
    Json.float.inj (same (.real key))
  have wholes (key : WholeKey) : s.getWhole key = result.getWhole key :=
    Json.int.inj (same (.whole key))
  rcases s with ⟨⟩
  rcases result with ⟨⟩
  rw [mk.injEq]
  exact ⟨reals .connectDelay, reals .validateDelay, reals .establishDelay, reals .runningDelay,
    reals .redeployDelay, reals .telemetryInterval, reals .telemetryJitter,
    reals .telemetryFailureRate, wholes .logLimit, wholes .transcriptLimit, wholes .minTokenPrefix,
    wholes .sandboxMemoryLimit, reals .sandboxTimeLimit⟩

theorem get_setReal (s : Settings) (x : Float) (key : RealKey) (other : Key) :
    (s.setReal x key).get other = if other = .real key then .float x else s.get other := by
  cases key <;> rcases other with other | other <;> cases other <;> rfl

theorem get_setWhole (s : Settings) (n : Int) (key : WholeKey) (other : Key) :
    (s.setWhole n key).get other = if other = .whole key then .int n else s.get other := by
  cases key <;> rcases other with other | other <;> cases other <;> rfl

theorem Key.convert_real (key : RealKey) : (Key.real key).convert raw = raw.toReal.map .float := rfl

theorem Key.convert_whole (key : WholeKey) :
    (Key.whole key).convert raw = raw.toWhole.map .int := rfl

theorem Key.convert_real_error {key : RealKey} :
    (Key.real key).convert raw = .error fault ↔ raw.toReal = .error fault := by
  rw [Key.convert_real]
  cases raw.toReal <;> simp [Except.map]

theorem Key.convert_whole_error {key : WholeKey} :
    (Key.whole key).convert raw = .error fault ↔ raw.toWhole = .error fault := by
  rw [Key.convert_whole]
  cases raw.toWhole <;> simp [Except.map]

/-- A value that is converted is put under its key, and no other key is touched. -/
theorem put_of_ok (converted : key.convert raw = .ok value) :
    ∃ result, s.put key raw = .ok result ∧
      ∀ other, result.get other = if other = key then value else s.get other := by
  cases key with
  | real key =>
      rw [Key.convert_real] at converted
      cases read : raw.toReal with
      | error fault => simp [read, Except.map] at converted
      | ok x =>
          obtain rfl : .float x = value := by simpa [read, Except.map] using converted
          exact ⟨s.setReal x key, by simp [put, read, Except.map], get_setReal s x key⟩
  | whole key =>
      rw [Key.convert_whole] at converted
      cases read : raw.toWhole with
      | error fault => simp [read, Except.map] at converted
      | ok n =>
          obtain rfl : .int n = value := by simpa [read, Except.map] using converted
          exact ⟨s.setWhole n key, by simp [put, read, Except.map], get_setWhole s n key⟩

/-- A value that is not converted is the fault. -/
theorem put_of_error (refused : key.convert raw = .error fault) : s.put key raw = .error fault := by
  cases key with
  | real key => rw [put, Key.convert_real_error.mp refused, Except.map]
  | whole key => rw [put, Key.convert_whole_error.mp refused, Except.map]

/-! ## Entries -/

/-- Whether the name of an entry is that of a key. -/
def isKnown (entry : String × RawSetting) : Bool := (Key.ofName? entry.1).isSome

/-- A known key of an entry has a value that can be converted. -/
def Converts (entry : String × RawSetting) : Prop :=
  ∀ key : Key, entry.1 = key.name → ∃ value, key.convert entry.2 = .ok value

theorem known_or_unknown (name : String) :
    (∃ key : Key, name = key.name) ∨ ∀ key : Key, name ≠ key.name := by
  by_cases known : ∃ key : Key, name = key.name
  · exact .inl known
  · exact .inr (not_exists.mp known)

theorem converts_or_refused (entry : String × RawSetting) :
    Converts entry ∨ ∃ (key : Key) (fault : SettingFault), entry.1 = key.name ∧
      key.convert entry.2 = .error fault := by
  rcases known_or_unknown entry.1 with ⟨key, named⟩ | unknown
  · cases converted : key.convert entry.2 with
    | ok value =>
        refine .inl fun other named' => ⟨value, ?_⟩
        rwa [← Key.name_injective (named.symm.trans named')]
    | error fault => exact .inr ⟨key, fault, named, converted⟩
  · exact .inl fun key named => absurd named (unknown key)

theorem putNamed_of_unknown (unknown : ∀ key : Key, name ≠ key.name) :
    s.putNamed (name, raw) = .ok s := by
  cases named : Key.ofName? name with
  | none => simp [putNamed, named]
  | some key => exact absurd (Key.ofName?_eq_some_iff.mp named) (unknown key)

theorem putNamed_name (s : Settings) (key : Key) (raw : RawSetting) :
    s.putNamed (key.name, raw) = s.put key raw := by
  simp [putNamed, key.ofName?_name]

theorem Converts.putNamed (converts : Converts entry) (s : Settings) :
    ∃ result, s.putNamed entry = .ok result := by
  obtain ⟨name, raw⟩ := entry
  rcases known_or_unknown name with ⟨key, rfl⟩ | unknown
  · obtain ⟨value, converted⟩ := converts key rfl
    obtain ⟨result, put, -⟩ := @put_of_ok s key raw value converted
    exact ⟨result, by rw [putNamed_name, put]⟩
  · exact ⟨s, putNamed_of_unknown unknown⟩

/-- The settings agree with a mapping where it gives a known key, and with other settings elsewhere.
-/
structure Takes (entries : List (String × RawSetting)) (base result : Settings) : Prop where
  given : ∀ key raw, (Key.name key, raw) ∈ entries → key.convert raw = .ok (result.get key)
  kept : ∀ key, Key.name key ∉ entries.map Prod.fst → result.get key = base.get key

/-- The first known key whose value cannot be converted. -/
structure FailsFirst (entries : List (String × RawSetting)) (key : Key) (raw : RawSetting)
    (fault : SettingFault) : Prop where
  refused : key.convert raw = .error fault
  first : ∃ before after, entries = before ++ (key.name, raw) :: after ∧
    ∀ entry ∈ before, Converts entry

theorem takes_nil : Takes [] base result ↔ base = result :=
  ⟨fun takes => ext_get fun key => (takes.kept key (by simp)).symm,
    fun same => ⟨by simp, fun _ _ => by rw [same]⟩⟩

/-- A known key in front of other entries has the value that is put there, since it is not named
again. -/
theorem takes_cons {next : Settings} (alone : key.name ∉ entries.map Prod.fst)
    (converted : key.convert raw = .ok value)
    (gets : ∀ other, next.get other = if other = key then value else base.get other) :
    Takes ((key.name, raw) :: entries) base result ↔ Takes entries next result := by
  constructor
  · intro takes
    have here := takes.given key raw List.mem_cons_self
    rw [converted, Except.ok.injEq] at here
    refine ⟨fun other raw' member => takes.given other raw' (List.mem_cons_of_mem _ member),
      fun other absent => ?_⟩
    rw [gets]
    split_ifs with same
    · rw [same, here]
    · refine takes.kept other ?_
      rw [List.map_cons, List.mem_cons, not_or]
      exact ⟨fun named => same (Key.name_injective named), absent⟩
  · intro takes
    have here : result.get key = value := by rw [takes.kept key alone, gets, if_pos rfl]
    refine ⟨fun other raw' member => ?_, fun other absent => ?_⟩
    · rcases List.mem_cons.mp member with same | later
      · obtain ⟨named, rfl⟩ := Prod.mk.inj same
        obtain rfl := Key.name_injective named
        rw [converted, here]
      · exact takes.given other raw' later
    · rw [List.map_cons, List.mem_cons, not_or] at absent
      rw [takes.kept other absent.2, gets, if_neg]
      rintro rfl
      exact absent.1 rfl

theorem takes_cons_of_unknown (unknown : ∀ key : Key, name ≠ key.name) :
    Takes ((name, raw) :: entries) base result ↔ Takes entries base result := by
  constructor
  · intro takes
    refine ⟨fun key raw' member => takes.given key raw' (List.mem_cons_of_mem _ member),
      fun key absent => takes.kept key ?_⟩
    rw [List.map_cons, List.mem_cons, not_or]
    exact ⟨(unknown key).symm, absent⟩
  · intro takes
    refine ⟨fun key raw' member => ?_,
      fun key absent => takes.kept key fun later => absent (List.mem_cons_of_mem _ later)⟩
    rcases List.mem_cons.mp member with same | later
    · exact absurd (Prod.mk.inj same).1.symm (unknown key)
    · exact takes.given key raw' later

/-- **The entries of a mapping are read independently of each other.** -/
theorem foldlM_eq_ok_iff (distinct : (entries.map Prod.fst).Nodup) :
    entries.foldlM putNamed base = .ok result ↔ Takes entries base result := by
  induction entries generalizing base with
  | nil =>
      rw [takes_nil, List.foldlM_nil]
      constructor
      · rintro ⟨⟩
        rfl
      · rintro rfl
        rfl
  | cons entry entries ih =>
      obtain ⟨name, raw⟩ := entry
      obtain ⟨alone, apart⟩ := List.nodup_cons.mp distinct
      rw [List.foldlM_cons]
      rcases known_or_unknown name with ⟨key, rfl⟩ | unknown
      · rw [putNamed_name]
        cases converted : key.convert raw with
        | error fault =>
            rw [put_of_error converted]
            refine iff_of_false nofun fun takes => ?_
            have given := takes.given key raw List.mem_cons_self
            rw [converted] at given
            cases given
        | ok value =>
            obtain ⟨next, put, gets⟩ := @put_of_ok base key raw value converted
            rw [put, takes_cons alone converted gets]
            exact ih apart
      · rw [putNamed_of_unknown unknown, takes_cons_of_unknown unknown]
        exact ih apart

theorem failsFirst_cons_of_converts (converts : Converts entry) :
    FailsFirst (entry :: entries) key raw fault ↔ FailsFirst entries key raw fault := by
  constructor
  · rintro ⟨refused, before, after, split, converted⟩
    cases before with
    | nil =>
        obtain ⟨rfl, -⟩ := List.cons.inj split
        obtain ⟨value, converted⟩ := converts key rfl
        rw [refused] at converted
        cases converted
    | cons head before =>
        obtain ⟨-, rfl⟩ := List.cons.inj split
        exact ⟨refused, before, after, rfl, (List.forall_mem_cons.mp converted).2⟩
  · rintro ⟨refused, before, after, rfl, converted⟩
    exact ⟨refused, entry :: before, after, rfl, List.forall_mem_cons.mpr ⟨converts, converted⟩⟩

theorem failsFirst_cons_of_refused {other : Key} {raw' : RawSetting} {fault' : SettingFault}
    (refused : key.convert raw = .error fault) :
    FailsFirst ((key.name, raw) :: entries) other raw' fault' ↔
      other = key ∧ raw' = raw ∧ fault' = fault := by
  constructor
  · rintro ⟨refused', before, after, split, converted⟩
    cases before with
    | nil =>
        obtain ⟨same, -⟩ := List.cons.inj split
        obtain ⟨named, rfl⟩ := Prod.mk.inj same
        obtain rfl := Key.name_injective named
        rw [refused, Except.error.injEq] at refused'
        exact ⟨rfl, rfl, refused'.symm⟩
    | cons head before =>
        obtain ⟨rfl, -⟩ := List.cons.inj split
        obtain ⟨value, converted⟩ := converted _ List.mem_cons_self key rfl
        rw [refused] at converted
        cases converted
  · rintro ⟨rfl, rfl, rfl⟩
    exact ⟨refused, [], entries, rfl, by simp⟩

/-- **The first known key whose value cannot be converted is the fault of a mapping.** -/
theorem foldlM_eq_error_iff :
    entries.foldlM putNamed base = .error fault ↔ ∃ key raw, FailsFirst entries key raw fault := by
  induction entries generalizing base with
  | nil =>
      refine iff_of_false nofun ?_
      rintro ⟨key, raw, -, before, after, split, -⟩
      simp at split
  | cons entry entries ih =>
      rw [List.foldlM_cons]
      rcases converts_or_refused entry with converts | ⟨key, fault', named, refused⟩
      · obtain ⟨next, put⟩ := converts.putNamed base
        simp only [put, failsFirst_cons_of_converts converts]
        exact ih
      · obtain ⟨name, raw⟩ := entry
        obtain rfl : name = key.name := named
        simp only [putNamed_name, put_of_error refused, failsFirst_cons_of_refused refused,
          exists_and_left, exists_eq_left]
        constructor
        · rintro ⟨⟩
          rfl
        · rintro rfl
          rfl

/-! ## Mappings -/

/-- Unknown keys are passed over. -/
theorem foldlM_filter_isKnown :
    (entries.filter isKnown).foldlM putNamed base = entries.foldlM putNamed base := by
  induction entries generalizing base with
  | nil => rfl
  | cons entry entries ih =>
      by_cases known : isKnown entry = true
      · rw [List.filter_cons_of_pos known, List.foldlM_cons, List.foldlM_cons]
        exact bind_congr fun next => ih
      · have passed : base.putNamed entry = .ok base := by
          cases named : Key.ofName? entry.1 with
          | none => simp [putNamed, named]
          | some key => simp [isKnown, named] at known
        rw [List.filter_cons_of_neg known, List.foldlM_cons, passed, ih]
        rfl

theorem Takes.perm (takes : Takes first base result) (perm : first.Perm second) :
    Takes second base result where
  given key raw member := takes.given key raw (perm.mem_iff.mpr member)
  kept key absent := takes.kept key fun member => absent ((perm.map _).mem_iff.mp member)

theorem fromMapping_perm (distinct : (first.map Prod.fst).Nodup) (perm : first.Perm second) :
    (fromMapping first).toOption = (fromMapping second).toOption := by
  have distinct' : (second.map Prod.fst).Nodup := (perm.map _).nodup_iff.mp distinct
  have same (s : Settings) : fromMapping first = .ok s ↔ fromMapping second = .ok s := by
    rw [fromMapping, fromMapping, foldlM_eq_ok_iff distinct, foldlM_eq_ok_iff distinct']
    exact ⟨fun takes => takes.perm perm, fun takes => takes.perm perm.symm⟩
  cases read : fromMapping first with
  | ok s => rw [(same s).mp read]
  | error fault =>
      cases read' : fromMapping second with
      | ok s => rw [(same s).mpr read'] at read; cases read
      | error fault' => rfl

/-- All fields of the settings, written as a mapping, are the settings. -/
theorem fromMapping_toMapping (s : Settings) : fromMapping s.toMapping = .ok s := by
  have names : s.toMapping.map Prod.fst = Key.all.map Key.name := by
    rw [toMapping, List.map_map]
    rfl
  have complete (key : Key) : key ∈ Key.all := by rcases key with key | key <;> cases key <;> decide
  rw [fromMapping, foldlM_eq_ok_iff (by rw [names]; decide)]
  refine ⟨fun key raw member => ?_, fun key absent => ?_⟩
  · obtain ⟨other, -, same⟩ := List.mem_map.mp member
    obtain ⟨named, rfl⟩ := Prod.mk.inj same
    obtain rfl := Key.name_injective named
    rcases other with key | key <;> rfl
  · rw [names] at absent
    exact absurd (List.mem_map_of_mem (complete key)) absent

/-- **Each key of a mapping stands on its own.** The settings of a mapping have, for each key, its
value converted to the kind of the default, or else the default. They do not depend on the order of
the entries, and entries with unknown names change nothing, whatever their values are. There are no
settings if and only if the value of a known key cannot be converted. Settings that are written as a
mapping are read back. -/
theorem fromMapping_by_keys (distinct : (entries.map Prod.fst).Nodup) :
    (∀ s, fromMapping entries = .ok s ↔ ∀ key : Key,
      (∀ raw, (key.name, raw) ∈ entries →
        convertLike (({} : Settings).get key) raw = .ok (s.get key)) ∧
      (key.name ∉ entries.map Prod.fst → s.get key = ({} : Settings).get key)) ∧
    (∀ others, (entries.filter isKnown).Perm (others.filter isKnown) →
      (fromMapping others).toOption = (fromMapping entries).toOption) ∧
    (∀ others, entries.filter isKnown = others.filter isKnown →
      fromMapping others = fromMapping entries) ∧
    ((∃ fault, fromMapping entries = .error fault) ↔
      ∃ (key : Key) (raw : RawSetting) (fault : SettingFault), (key.name, raw) ∈ entries ∧
        convertLike (({} : Settings).get key) raw = .error fault) ∧
    ∀ s, fromMapping entries = .ok s → fromMapping s.toMapping = .ok s := by
  have known (all : List (String × RawSetting)) :
      fromMapping (all.filter isKnown) = fromMapping all := foldlM_filter_isKnown
  refine ⟨fun s => ?_, fun others perm => ?_, fun others same => ?_, ?_,
    fun s _ => fromMapping_toMapping s⟩
  · rw [fromMapping, foldlM_eq_ok_iff distinct]
    exact ⟨fun takes key => ⟨takes.given key, takes.kept key⟩,
      fun each => ⟨fun key => (each key).1, fun key => (each key).2⟩⟩
  · have apart : ((entries.filter isKnown).map Prod.fst).Nodup :=
      distinct.sublist (List.filter_sublist.map Prod.fst)
    rw [← known others, ← known entries]
    exact (fromMapping_perm apart perm).symm
  · rw [← known others, ← known entries, same]
  · constructor
    · rintro ⟨fault, failed⟩
      obtain ⟨key, raw, refused, before, after, rfl, -⟩ := foldlM_eq_error_iff.mp failed
      exact ⟨key, raw, fault, by simp, refused⟩
    · rintro ⟨key, raw, fault, member, refused⟩
      cases read : fromMapping entries with
      | error fault => exact ⟨fault, rfl⟩
      | ok s =>
          have given := ((foldlM_eq_ok_iff distinct).mp read).given key raw member
          rw [show key.convert raw = .error fault from refused] at given
          cases given

/-- Two known keys with values of other kinds than their defaults, and an unknown key. -/
def overrides : List (String × RawSetting) :=
  [("log_limit", .written (.text " 2_0 ")), ("colour", .unconvertible "dict"),
    ("connect_delay_s", .flag true)]

/-- The known keys are converted, the unknown one is passed over, and the order does not matter. -/
theorem fromMapping_by_keys_overrides :
    (overrides.map Prod.fst).Nodup ∧
      (overrides.filter isKnown).Perm (overrides.reverse.filter isKnown) ∧
      fromMapping overrides = .ok { connectDelay := 1.0, logLimit := 20 } ∧
      (fromMapping overrides.reverse).toOption = some { connectDelay := 1.0, logLimit := 20 } ∧
      fromMapping ({ connectDelay := 1.0, logLimit := 20 } : Settings).toMapping =
        .ok { connectDelay := 1.0, logLimit := 20 } := by
  have distinct : (overrides.map Prod.fst).Nodup := by decide
  have perm : (overrides.filter isKnown).Perm (overrides.reverse.filter isKnown) :=
    overrides.reverse_perm.symm.filter isKnown
  obtain ⟨-, reordered, -, -, again⟩ := fromMapping_by_keys distinct
  have read : fromMapping overrides = .ok { connectDelay := 1.0, logLimit := 20 } := rfl
  exact ⟨distinct, perm, read, by rw [reordered _ perm, read]; rfl, again _ read⟩

end BotBench.Settings
