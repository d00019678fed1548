import BotBench.Proofs.Bench.Roster
import BotBench.Proofs.Number.Nearest
import Mathlib.Tactic.FieldSimp

/-! # What a tick writes

A tick of a running bot lets the bot fail, or draws its usage figures, each from a half-open range.
It changes nothing else of the record but the log, to which it appends one line
(`BotBench.Bench.tick_of_running`). A figure is rounded after it has been scaled to its range. It
stays between the ends of the range, and comes to lie on the excluded one when the draw is so close
to one that the nearest decimal is the end (`BotBench.Bench.Sampled.lt_high_iff`). The arithmetic of
the bench is taken to be exact. -/

namespace BotBench.Bench

open Number

/-- How a figure lies in the range from which it is drawn: it is the nearest hundredth, is never
outside of the range, and is the upper end for the draws next to one only. -/
structure Sampled (low high : ℕ) (draw figure : ℚ) : Prop where
  hundredths : ∃ count : ℕ, figure = count / 100 ∧
    IsNearest count (100 * (draw * (high - low) + low))
  low_le : low ≤ figure
  le_high : figure ≤ high
  lt_high_iff : figure < high ↔ draw < 1 - 1 / (200 * (high - low))

theorem usageFigure_nearest {width low draw : ℚ} (nonneg : 0 ≤ draw * width + low) :
    ∃ count : ℕ, usageFigure id width low draw = count / 100 ∧
      IsNearest count (100 * (draw * width + low)) := by
  have hundred : (10 : ℚ) ^ 2 = 100 := by norm_num
  obtain ⟨count, figure, nearest⟩ := roundDecimals_of_nonneg 2 nonneg
  rw [hundred] at figure nearest
  exact ⟨count, figure, nearest⟩

/-- A usage figure stays in its range, and lies below the upper end unless the scaled draw is within
half a hundredth of it. -/
theorem sampled_usageFigure {low high : ℕ} (order : low < high) {draw : ℚ} (nonneg : 0 ≤ draw)
    (proper : draw < 1) : Sampled low high draw (usageFigure id (high - low) low draw) := by
  have width : (0 : ℚ) < high - low := by
    rw [sub_pos]
    exact_mod_cast order
  have scaled_nonneg : 0 ≤ draw * ((high : ℚ) - low) := mul_nonneg nonneg width.le
  have scaled_lt : draw * ((high : ℚ) - low) < high - low := by
    simpa using mul_lt_mul_of_pos_right proper width
  obtain ⟨count, figure, nearest⟩ :=
    usageFigure_nearest (add_nonneg scaled_nonneg low.cast_nonneg)
  have low_le : 100 * low ≤ count := by
    apply nearest.le_of_le
    push_cast
    linarith
  have le_high : count ≤ 100 * high := by
    apply nearest.ge_of_ge
    push_cast
    linarith
  have even : Even (100 * high) := Even.mul_right (by decide) high
  have below : (count : ℚ) / 100 < high ↔ ¬100 * high ≤ count := by
    rw [div_lt_iff₀ (by norm_num), mul_comm, not_le]
    exact_mod_cast Iff.rfl
  have margin : (1 - 1 / (200 * ((high : ℚ) - low))) * (high - low) = high - low - 1 / 200 := by
    field_simp
  rw [figure]
  refine ⟨⟨count, rfl, nearest⟩, ?_, ?_, ?_⟩
  · rw [le_div_iff₀ (by norm_num), mul_comm]
    exact_mod_cast low_le
  · rw [div_le_iff₀ (by norm_num), mul_comm]
    exact_mod_cast le_high
  · -- the end is reached by rounding a half to the even number of hundredths
    rw [below, nearest.even_le_iff even, ← mul_lt_mul_iff_of_pos_right width, margin]
    push_cast
    constructor <;> intro small <;> linarith

/-- The bench after a change of nothing but the record of one bot, the numbers that have been drawn
and the log of the bench. -/
structure Rewrites (b b' : Bench) (bot : Int) (record : Record) : Prop where
  found : b'.registry.find? bot = some record
  others : ∀ other, other ≠ bot → b'.registry.find? other = b.registry.find? other
  numbers : b'.registry.numbers = b.registry.numbers
  nextId : b'.registry.nextId = b.registry.nextId
  rest : b' = { b with registry := b'.registry, draws := b'.draws, log := b'.log }

variable {config : Config} {b : Bench} {bot : Int} {record : Record}

/-- A record that is there is rewritten by a change of it, with a line for its log. -/
theorem rewrites_update (found : b.registry.find? bot = some record) (draws : Draws)
    (log : List LogEntry) (line : String) {changes : List Change} {changed : Record}
    (applied : Change.applyAll record changes = .ok changed) :
    let drawn : Bench := { b with draws, log }
    Rewrites b (drawn.after (drawn.update config bot (some line) changes)) bot
      { changed with
        logs := window config.settings.logLimit
          (record.logs ++ [stamped (b.now config) line]) } := by
  intro drawn
  have found' : drawn.registry.find? bot = some record := found
  rw [update_of_find? found' applied]
  refine ⟨?_, fun other apart => ?_, ?_, rfl, rfl⟩
  · exact (Registry.find?_put ..).trans (by rw [if_pos rfl, found']; rfl)
  · exact (Registry.find?_put ..).trans (if_neg apart)
  · exact Registry.numbers_put ..

theorem choose_mem {α : Type} [Inhabited α] (b : Bench) (items : List α) (filled : items ≠ []) :
    (b.choose items).1 ∈ items := by
  have positive : (0 : Int) < items.length := by exact_mod_cast List.length_pos_iff.mpr filled
  have inside : (b.draws.pick b.draws.picksUsed % (items.length : Int)).toNat < items.length := by
    have below := Int.emod_lt_of_pos (b.draws.pick b.draws.picksUsed) positive
    omega
  change items.getD _ default ∈ items
  rw [List.getD_eq_getElem?_getD, List.getElem?_eq_getElem inside, Option.getD_some]
  exact List.getElem_mem inside

/-- **A tick of a running bot.** The bot fails if and only if the first draw lies below the failure
rate. Otherwise its figures are sampled by the next two draws, the processor's between 2 and 10 and
the memory's between 25 and 50, and one health line is appended to its log. Nothing else of the
record changes, and no other record. -/
theorem tick_of_running (unrounded : config.rounding = id)
    (found : b.registry.find? bot = some record) (running : record.status = .running)
    (proper : ∀ place, 0 ≤ b.draws.number place ∧ b.draws.number place < 1) :
    ((b.tick config bot).1 = false ↔ drawnBelow (b.draws.number b.draws.numbersUsed)
      config.settings.telemetryFailureRate = true) ∧
    (∀ b', b.tick config bot = (true, b') → ∃ line ∈ healthLines, ∃ cpu ram,
      Sampled 2 10 (b.draws.number (b.draws.numbersUsed + 1)) cpu ∧
      Sampled 25 50 (b.draws.number (b.draws.numbersUsed + 2)) ram ∧
      Rewrites b b' bot { record with
        cpuUsage := cpu, ramUsage := ram
        logs := window config.settings.logLimit
          (record.logs ++ [stamped (b.now config) line]) }) ∧
    ∀ b', b.tick config bot = (false, b') →
      Rewrites b b' bot { record with
        status := .error
        logs := window config.settings.logLimit
          (record.logs ++ [stamped (b.now config) haltLine]) } := by
  unfold tick
  rw [found]
  dsimp only
  rw [if_neg (by simp [running])]
  have draw : b.drawNumber.1 = b.draws.number b.draws.numbersUsed := rfl
  rw [draw]
  by_cases fails : drawnBelow (b.draws.number b.draws.numbersUsed)
      config.settings.telemetryFailureRate = true
  · rw [if_pos fails]
    refine ⟨by simpa using fails, fun b' ticked => by simp at ticked, fun b' ticked => ?_⟩
    have applied : Change.applyAll record [.status .error] =
        .ok { record with status := .error } := rfl
    obtain rfl := (Prod.mk.inj ticked).2
    exact rewrites_update found _ _ haltLine applied
  · rw [if_neg fails]
    refine ⟨by simpa using fails, fun b' ticked => ?_, fun b' ticked => by simp at ticked⟩
    have applied (cpu ram : Rat) : Change.applyAll record [.cpuUsage cpu, .ramUsage ram] =
        .ok { record with cpuUsage := cpu, ramUsage := ram } := rfl
    have chosen := choose_mem b.drawNumber.2 healthLines (by decide)
    obtain ⟨nonneg, small⟩ := proper (b.draws.numbersUsed + 1)
    obtain ⟨nonneg', small'⟩ := proper (b.draws.numbersUsed + 2)
    have cpu : Sampled 2 10 _ _ := sampled_usageFigure (by decide) nonneg small
    have ram : Sampled 25 50 _ _ := sampled_usageFigure (by decide) nonneg' small'
    rw [show (((10 : ℕ) : ℚ) - (2 : ℕ)) = 8 by norm_num] at cpu
    rw [show (((50 : ℕ) : ℚ) - (25 : ℕ)) = 25 by norm_num] at ram
    obtain rfl := (Prod.mk.inj ticked).2
    rw [unrounded]
    exact ⟨_, chosen, _, _, cpu, ram, rewrites_update found _ _ _ (applied _ _)⟩

/-- A bot that runs. -/
def worker : Record where
  id := 1
  name := "Bot #1"
  status := .running
  code := "print()"
  token := "123456:token"
  language := .python

/-- A bench on which one bot runs and the same number is always drawn. -/
def atWork (draw : Rat) : Bench where
  registry := { slots := [(1, worker)], nextId := 2 }
  draws := .ofLists [draw] []

theorem number_atWork (draw : Rat) (place : Nat) : (atWork draw).draws.number place = draw := by
  simp [atWork, Draws.ofLists, Draws.cycled, Nat.mod_one]

/-- Draws from the middle give figures from the middle. -/
theorem tick_of_running_half :
    Config.silent.rounding = id ∧ (atWork (1 / 2)).registry.find? 1 = some worker ∧
      worker.status = .running ∧
      (∀ place, 0 ≤ (atWork (1 / 2)).draws.number place ∧
        (atWork (1 / 2)).draws.number place < 1) ∧
      ((atWork (1 / 2)).tick .silent 1).1 = true ∧
      ∃ line ∈ healthLines, Rewrites (atWork (1 / 2)) ((atWork (1 / 2)).tick .silent 1).2 1
        { worker with cpuUsage := 6, ramUsage := 75 / 2, logs := [stamped 0 line] } := by
  have proper (place : Nat) : 0 ≤ (atWork (1 / 2)).draws.number place ∧
      (atWork (1 / 2)).draws.number place < 1 := by
    rw [number_atWork]
    norm_num
  have ticked : ((atWork (1 / 2)).tick .silent 1).1 = true := by decide +kernel
  have figures : (((atWork (1 / 2)).tick .silent 1).2.registry.find? 1).map
      (fun record => (record.cpuUsage, record.ramUsage)) = some (6, 75 / 2) := by decide +kernel
  have found : (atWork (1 / 2)).registry.find? 1 = some worker := rfl
  obtain ⟨-, samples, -⟩ := @tick_of_running .silent (atWork (1 / 2)) 1 worker rfl found rfl proper
  obtain ⟨line, listed, cpu, ram, -, -, rewrites⟩ := samples _ (Prod.ext ticked rfl)
  have logged : window Config.silent.settings.logLimit
      (worker.logs ++ [stamped ((atWork (1 / 2)).now .silent) line]) = [stamped 0 line] := by
    rw [show (atWork (1 / 2)).now .silent = 0 by decide +kernel]
    rfl
  rw [rewrites.found, Option.map_some, Option.some_inj, Prod.mk.injEq] at figures
  obtain ⟨rfl, rfl⟩ := figures
  rw [logged] at rewrites
  exact ⟨rfl, found, rfl, proper, ticked, line, listed, rewrites⟩

/-- Draws close to one let both figures reach the ends of their ranges. -/
theorem tick_reaches_ends :
    (∀ place, 0 ≤ (atWork (9999 / 10000)).draws.number place ∧
        (atWork (9999 / 10000)).draws.number place < 1) ∧
      ((atWork (9999 / 10000)).tick .silent 1).1 = true ∧
      (((atWork (9999 / 10000)).tick .silent 1).2.registry.find? 1).map
        (fun record => (record.cpuUsage, record.ramUsage)) = some (10, 50) := by
  refine ⟨fun place => ?_, by decide +kernel, by decide +kernel⟩
  rw [number_atWork]
  norm_num

end BotBench.Bench
