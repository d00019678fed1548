import BotBench.Proofs.Bench.Sequence

/-! # Annals of a bot

The annals of a bot keep whole what its record shows a window of: every line of its log since it was
created, and every message since it was created or its transcript was last cleared. They are made of
entries. Moving a window along entry by entry comes to the same as taking one window of the whole
(`BotBench.window_append`), and the messages of the annals are made of turns, so that a window of
them shows a bot's message behind a user's one wherever it shows what stands before it
(`BotBench.Turn.asked_before`). -/

namespace BotBench

/-! ## Windows -/

section Window

variable {α : Type}

/-- A window that is moved along shows what the window of the whole shows. -/
theorem window_append (limit : Int) (items more : List α) :
    window limit (window limit items ++ more) = window limit (items ++ more) := by
  unfold window
  split
  · rw [List.length_append, List.length_append, List.length_drop, List.drop_append,
      List.drop_append, List.drop_drop, List.length_drop]
    congr 2 <;> omega
  · rfl

theorem window_nil (limit : Int) : window limit ([] : List α) = [] := by
  unfold window
  split <;> simp

theorem window_singleton (limit : Int) (item : α) : window limit [item] = [item] := by
  unfold window
  split
  · have whole : [item].length - limit.toNat = 0 := by
      rw [List.length_singleton]
      omega
    rw [whole, List.drop_zero]
  · rfl

/-- A window shows exactly what has its length and stands at the end. -/
theorem window_append_right (limit : Int) (positive : 0 < limit) {more : List α}
    (fits : (more.length : Int) = limit) (items : List α) : window limit (items ++ more) = more := by
  have skipped : (items ++ more).length - limit.toNat = items.length := by
    rw [List.length_append]
    omega
  unfold window
  rw [if_pos positive, skipped, List.drop_left]

/-- A window shows the end of a list. -/
theorem window_eq_drop (limit : Int) (items : List α) :
    ∃ count, window limit items = items.drop count := by
  unfold window
  split
  · exact ⟨_, rfl⟩
  · exact ⟨0, rfl⟩

/-- Lines that are written one after the other move the window along. -/
theorem extendLog_window (limit time : Int) (logs lines : List String) :
    extendLog limit time (window limit logs) lines =
      window limit (logs ++ lines.map (stamped time)) := by
  unfold extendLog
  induction lines generalizing logs with
  | nil => rw [List.foldl_nil, List.map_nil, List.append_nil]
  | cons line lines ih =>
      rw [List.foldl_cons, window_append, ih, List.append_assoc]
      rfl

end Window

/-! ## Entries -/

/-- What is written down about a bot. -/
inductive Entry
  /-- The bot was created, with a first line in its log. -/
  | created (time : Int)
  /-- A line was written into the bot's log. -/
  | line (time : Int) (text : String)
  /-- A message was appended to the bot's transcript. -/
  | message (message : Message)
  /-- The bot's transcript was cleared. -/
  | cleared
  /-- The bot was removed. -/
  | removed

/-- A log and a transcript. -/
structure Page where
  logs : List String
  messages : List Message

namespace Page

/-- Write an entry down. The annals of a bot begin with its creation and end with its removal. -/
def add (page? : Option Page) : Entry → Option Page
  | .created time => some ⟨[stamped time "Bot created."], []⟩
  | .line time text => page?.map fun page => { page with logs := page.logs ++ [stamped time text] }
  | .message message => page?.map fun page => { page with messages := page.messages ++ [message] }
  | .cleared => page?.map fun page => { page with messages := [] }
  | .removed => none

/-- What the windows show of a page. -/
def windowed (limits : Settings) (page : Page) : Page where
  logs := window limits.logLimit page.logs
  messages := window limits.transcriptLimit page.messages

theorem foldl_add_lines (time : Int) (lines : List String) (page? : Option Page) :
    (lines.map (Entry.line time)).foldl add page? =
      page?.map fun page => { page with logs := page.logs ++ lines.map (stamped time) } := by
  induction lines generalizing page? with
  | nil => simp
  | cons line lines ih =>
      rw [List.map_cons, List.foldl_cons, ih]
      cases page? with
      | none => rfl
      | some page => simp [add]

end Page

/-- Some entries about one bot. -/
structure Writing where
  bot : Int
  entries : List Entry

/-- The entries about a bot. -/
def entriesAbout (bot : Int) (writings : List Writing) : List Entry :=
  (writings.filter fun writing => writing.bot == bot).flatMap (·.entries)

/-- The annals of a bot. -/
def annals? (bot : Int) (writings : List Writing) : Option Page :=
  (entriesAbout bot writings).foldl Page.add none

theorem annals?_append (bot : Int) (first second : List Writing) :
    annals? bot (first ++ second) =
      (entriesAbout bot second).foldl Page.add (annals? bot first) := by
  unfold annals? entriesAbout
  rw [List.filter_append, List.flatMap_append, List.foldl_append]

theorem entriesAbout_singleton (bot : Int) (writing : Writing) :
    entriesAbout bot [writing] = if writing.bot = bot then writing.entries else [] := by
  unfold entriesAbout
  by_cases same : writing.bot = bot <;> simp [same]

/-! ## Turns -/

/-- A message of the user, and perhaps one message of the bot that answers it. -/
structure Turn where
  asked : Message
  answer? : Option Message
  user : asked.sender = .user
  bot : ∀ answer, answer? = some answer → answer.sender = .bot

namespace Turn

/-- The messages of a turn. -/
def messages (turn : Turn) : List Message := turn.asked :: turn.answer?.toList

/-- The message at a place behind the first one is a user's, or it is a bot's that stands behind a
user's. -/
theorem asked_before (turns : List Turn) {place : Nat} {message : Message}
    (there : (turns.flatMap messages)[place]? = some message) (sender : message.sender = .bot) :
    ∃ before asked, place = before + 1 ∧ (turns.flatMap messages)[before]? = some asked ∧
      asked.sender = .user := by
  induction turns generalizing place with
  | nil => simp at there
  | cons turn turns ih =>
      rw [List.flatMap_cons] at there ⊢
      by_cases inside : place < turn.messages.length
      · rw [List.getElem?_append_left inside] at there
        match place with
        | 0 =>
            have same : turn.asked = message := by simpa [messages] using there
            rw [← same, turn.user] at sender
            contradiction
        | place + 1 =>
            have first : place = 0 := by
              have few : turn.messages.length ≤ 2 := by
                unfold messages
                cases turn.answer? <;> simp
              omega
            exact ⟨0, turn.asked, by omega, rfl, turn.user⟩
      · rw [List.getElem?_append_right (by omega)] at there
        obtain ⟨before, asked, behind, found, user⟩ := ih there
        refine ⟨before + turn.messages.length, asked, by omega, ?_, user⟩
        rw [List.getElem?_append_right (by omega), Nat.add_sub_cancel]
        exact found

end Turn

namespace Page

/-- A page is in order when its log begins with the creation of its bot and its messages are made of
turns. -/
structure InOrder (page : Page) : Prop where
  created : ∃ time lines, page.logs = stamped time "Bot created." :: lines
  turns : ∃ turns : List Turn, page.messages = turns.flatMap Turn.messages

/-- Entries that keep a page in order, whatever has been written before them. -/
def Orderly (entries : List Entry) : Prop :=
  ∀ page?, (∀ page, page? = some page → page.InOrder) →
    ∀ page, entries.foldl add page? = some page → page.InOrder

theorem Orderly.nil : Orderly [] := fun _ ordered => ordered

theorem Orderly.append {first second : List Entry} (one : Orderly first) (two : Orderly second) :
    Orderly (first ++ second) := by
  intro page? ordered
  rw [List.foldl_append]
  exact two _ (one page? ordered)

theorem orderly_created (time : Int) : Orderly [.created time] := by
  rintro page? - page same
  obtain rfl := Option.some.inj same
  exact ⟨⟨time, [], rfl⟩, [], rfl⟩

theorem orderly_lines (time : Int) (lines : List String) :
    Orderly (lines.map (Entry.line time)) := by
  intro page? ordered page same
  rw [foldl_add_lines] at same
  obtain ⟨before, there, rfl⟩ := Option.map_eq_some_iff.mp same
  obtain ⟨⟨created, first, begins⟩, turns⟩ := ordered before there
  exact ⟨⟨created, first ++ lines.map (stamped time), by simp [begins]⟩, turns⟩

theorem orderly_cleared : Orderly [.cleared] := by
  intro page? ordered page same
  obtain ⟨before, there, rfl⟩ := Option.map_eq_some_iff.mp same
  exact ⟨(ordered before there).created, [], rfl⟩

theorem orderly_removed : Orderly [.removed] := by
  rintro page? - page same
  contradiction

/-- A user's message, some lines, and perhaps a message of the bot and some more lines about it. -/
theorem orderly_turn (turn : Turn) (time : Int) (opening before after : List String) :
    Orderly (.message turn.asked :: (opening.map (Entry.line time) ++
      (before.map (Entry.line time) ++ (turn.answer?.toList.map Entry.message ++
        after.map (Entry.line time))))) := by
  intro page? ordered page same
  rw [List.foldl_cons, List.foldl_append, List.foldl_append, List.foldl_append, foldl_add_lines,
    foldl_add_lines, foldl_add_lines] at same
  cases page? with
  | none =>
      cases answered : turn.answer? <;> simp [answered, add] at same
  | some first =>
      obtain ⟨⟨created, lines, begins⟩, turns, spoken⟩ := ordered first rfl
      refine ⟨⟨created, ?_⟩, turns ++ [turn], ?_⟩
      · cases answered : turn.answer? <;>
          · simp only [answered, add, Option.map_some, Option.toList_none, Option.toList_some,
              List.map_nil, List.map_cons, List.foldl_nil, List.foldl_cons, Option.some.injEq,
              begins] at same
            subst same
            exact ⟨lines ++ (opening ++ (before ++ after)).map (stamped time), by simp⟩
      · cases answered : turn.answer? <;>
          · simp only [answered, add, Option.map_some, Option.toList_none, Option.toList_some,
              List.map_nil, List.map_cons, List.foldl_nil, List.foldl_cons,
              Option.some.injEq] at same
            subst same
            simp [spoken, Turn.messages, answered]

end Page

end BotBench
