import BotBench.Mining.Command
import BotBench.Sandbox.Rehearsal
import Mathlib.Data.List.TakeWhile

/-! # Which command a message names

Bots of both languages are addressed by the first word of a message that begins with a slash. In
the script language the word begins right behind the slash and may be empty, whereas a mined command
is the first word behind any blanks. The two agree unless blanks stand between the slash and a word
(`BotBench.Mining.commandOf?_run`). -/

namespace BotBench.Mining

open Text Sandbox

variable {blank : Char → Bool} {cs run run' rest : List Char}

/-- The longest piece at the front of a text in which no character is blank. -/
structure IsRun (blank : Char → Bool) (cs run : List Char) : Prop where
  begins : run <+: cs
  solid : ∀ c ∈ run, blank c = false
  longest : ∀ other, other <+: cs → (∀ c ∈ other, blank c = false) → other.length ≤ run.length

theorem isRun_takeWhile (blank : Char → Bool) (cs : List Char) :
    IsRun blank cs (cs.takeWhile fun c => !blank c) where
  begins := List.takeWhile_prefix _
  solid c inside := by simpa using List.mem_takeWhile_imp inside
  longest other begins solid := by
    obtain ⟨behind, rfl⟩ := begins
    rw [List.takeWhile_append_of_pos fun c inside => by simp [solid c inside], List.length_append]
    omega

/-- There is one longest piece. -/
theorem IsRun.eq (isRun : IsRun blank cs run) (isRun' : IsRun blank cs run') : run = run' := by
  have shorter := isRun'.longest run isRun.begins isRun.solid
  have longer := isRun.longest run' isRun'.begins isRun'.solid
  exact (List.prefix_of_prefix_length_le isRun.begins isRun'.begins shorter).eq_of_length
    (Nat.le_antisymm shorter longer)

theorem isRun_iff : IsRun blank cs run ↔ run = cs.takeWhile fun c => !blank c :=
  ⟨fun isRun => isRun.eq (isRun_takeWhile blank cs), fun same => same ▸ isRun_takeWhile blank cs⟩

/-- A text names its command at once if it does not begin with blanks, or if there is no word in it.
-/
def NamesAtOnce (rest : List Char) : Prop :=
  (∀ c ∈ rest.head?, isBlank c = false) ∨ ∀ c ∈ rest, isBlank c = true

/-- The blanks in front of a word are left out exactly if there are any. -/
theorem run_skipBlanks_iff :
    ((rest.dropWhile isBlank).takeWhile fun c => !isBlank c) =
        (rest.takeWhile fun c => !isBlank c) ↔ NamesAtOnce rest := by
  cases rest with
  | nil => simp [NamesAtOnce]
  | cons c cs =>
      by_cases solid : isBlank c = false
      · simp [NamesAtOnce, solid]
      · have blank : isBlank c = true := by simpa using solid
        have empty : ((c :: cs).takeWhile fun c => !isBlank c) = [] := by simp [blank]
        rw [empty]
        constructor
        · intro none_left
          -- a word behind the blanks would begin with a character that is kept
          have allBlank : (c :: cs).dropWhile isBlank = [] := by
            cases behind : (c :: cs).dropWhile isBlank with
            | nil => rfl
            | cons d ds =>
                have stops := List.head?_dropWhile_not isBlank (c :: cs)
                rw [behind] at stops none_left
                have solid : isBlank d = false := by simpa using stops
                simp [solid] at none_left
          exact .inr (List.dropWhile_eq_nil_iff.mp allBlank)
        · rintro (starts | allBlank)
          · exact absurd (starts c rfl) solid
          · rw [List.dropWhile_eq_nil_iff.mpr allBlank, List.takeWhile_nil]

/-- Where both languages have the same blanks, they have the same longest pieces. -/
theorem takeWhile_shared (shared : ∀ c ∈ cs, isBlank c = isScriptBlank c) :
    (cs.takeWhile fun c => !isScriptBlank c) = cs.takeWhile fun c => !isBlank c := by
  induction cs with
  | nil => rfl
  | cons c cs ih =>
      obtain ⟨here, later⟩ := List.forall_mem_cons.mp shared
      rw [List.takeWhile_cons, List.takeWhile_cons, here, ih later]

/-- **The command of a message.** Behind the slash, blanks are passed, and the command is the
longest piece without blanks that follows. It is therefore the longest such piece right behind the
slash exactly if the text behind the slash names its command at once. Under the same condition the
script language has the message address the same command, provided that the blanks of the message
are blanks of both languages. -/
theorem commandOf?_run {message : String} {rest : List Char}
    (slash : message.toList = '/' :: rest) :
    ∃ command : String, commandOf? message = some command ∧
      (∃ gap words, rest = gap ++ words ∧ (∀ c ∈ gap, isBlank c = true) ∧
        (∀ c ∈ words.head?, isBlank c = false) ∧ IsRun isBlank words command.toList) ∧
      (IsRun isBlank rest command.toList ↔ NamesAtOnce rest) ∧
      ((∀ c ∈ message.toList, isBlank c = isScriptBlank c) →
        (commandKey? message = some ("/" ++ command) ↔ NamesAtOnce rest)) := by
  refine ⟨String.ofList ((rest.dropWhile isBlank).takeWhile fun c => !isBlank c), ?_, ?_, ?_, ?_⟩
  · rw [commandOf?, slash]
    rfl
  · refine ⟨rest.takeWhile isBlank, rest.dropWhile isBlank, ?_, ?_, ?_, ?_⟩
    · exact List.takeWhile_append_dropWhile.symm
    · exact fun c inside => List.mem_takeWhile_imp inside
    · intro c first
      have stops := List.head?_dropWhile_not isBlank rest
      rwa [first] at stops
    · rw [String.toList_ofList]
      exact isRun_takeWhile isBlank _
  · rw [String.toList_ofList, isRun_iff]
    exact run_skipBlanks_iff
  · intro shared
    rw [slash] at shared
    have key : commandKey? message =
        some (String.ofList ('/' :: rest.takeWhile fun c => !isBlank c)) := by
      rw [commandKey?, slash, ← takeWhile_shared (List.forall_mem_cons.mp shared).2]
      rfl
    rw [key, Option.some_inj, ← String.toList_inj, ← run_skipBlanks_iff]
    simp [eq_comm]

theorem shared_of_all (same : (cs.all fun c => isBlank c == isScriptBlank c) = true) :
    ∀ c ∈ cs, isBlank c = isScriptBlank c :=
  fun c inside => beq_iff_eq.mp (List.all_eq_true.mp same c inside)

/-- A command in front of other words is named at once, in both languages. -/
theorem commandOf?_run_start :
    "/start now".toList = '/' :: "start now".toList ∧
      (∀ c ∈ "/start now".toList, isBlank c = isScriptBlank c) ∧ NamesAtOnce "start now".toList ∧
      commandOf? "/start now" = some "start" ∧ IsRun isBlank "start now".toList "start".toList ∧
      commandKey? "/start now" = some ("/" ++ "start") := by
  have slash : "/start now".toList = '/' :: "start now".toList := rfl
  have shared : ∀ c ∈ "/start now".toList, isBlank c = isScriptBlank c :=
    shared_of_all (by decide)
  have atOnce : NamesAtOnce "start now".toList := by
    left
    intro c first
    obtain rfl : 's' = c := Option.some_inj.mp first
    rfl
  obtain ⟨command, found, -, isRun, addressed⟩ := commandOf?_run slash
  have named : commandOf? "/start now" = some "start" := by decide
  obtain rfl : "start" = command := Option.some_inj.mp (named.symm.trans found)
  exact ⟨slash, shared, atOnce, named, isRun.mpr atOnce, (addressed shared).mpr atOnce⟩

/-- A blank behind the slash ends the command at once in the script language only. The mined command
is the word behind the blank, which is not the longest piece behind the slash. -/
theorem command_behind_blank :
    "/ start".toList = '/' :: " start".toList ∧
      (∀ c ∈ "/ start".toList, isBlank c = isScriptBlank c) ∧
      commandOf? "/ start" = some "start" ∧ IsRun isBlank " start".toList "".toList ∧
      ¬IsRun isBlank " start".toList "start".toList ∧ commandKey? "/ start" = some "/" := by
  have empty : IsRun isBlank " start".toList "".toList := isRun_iff.mpr (by decide)
  refine ⟨rfl, shared_of_all (by decide), by decide, empty, fun isRun => ?_, by decide⟩
  exact absurd (isRun.eq empty) (by decide)

end BotBench.Mining
