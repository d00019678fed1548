import BotBench.Engine
import BotBench.Proofs.Mining.Buttons
import BotBench.Proofs.Mining.Definition
import BotBench.Proofs.Mining.Reply

/-! # Programs of literal replies answer with their literals

Each of the lookups by which a reply is mined lands in its own place of a program, whatever the
texts look like: in the registration of the command (`Program.handlerName?_source`), behind the
header of the function (`Program.functionBody?_source`), at the call that replies
(`Handler.replyText?_body`) and at its buttons (`Handler.buttonTexts_body`). A simulated bot
therefore answers a command with the text and the buttons that its program was written from
(`Program.simulate_source`). -/

namespace BotBench.Mining

open Text

namespace Handler

variable {h : Handler}

/-! ## The literals of a body -/

/-- The text in front of the first literal of a body. -/
def beforeText (indent : String) : List Char :=
  '\n' :: (indent.toList ++ "update.message.".toList)

theorem body_eq (indent ending : String) :
    h.body indent ending = beforeText indent ++ (replyCall ++ '(' ::
      (quoteLiteral '"' h.text.toList ++ (", reply_markup=ReplyKeyboardMarkup([[".toList ++
        (buttonRow h.buttons ++ ("]]))".toList ++ ending.toList))))) := by
  have cut : "update.message.reply_text(".toList =
      "update.message.".toList ++ (replyCall ++ ['(']) := rfl
  unfold body replyLine beforeText
  rw [cut]
  simp only [List.append_assoc, List.cons_append, List.nil_append]

theorem clear_indent {w : Char} {indent : String} (gap : ∀ c ∈ indent.toList, isGap c = true)
    (solid : isGap w = false) (word : List Char) : clear (w :: word) indent.toList = true :=
  clear_of_notMem fun inside => absurd (gap w inside) (by simp [solid])

theorem replyText?_body {indent : String} (gap : ∀ c ∈ indent.toList, isGap c = true)
    (ending : String) : replyText? (String.ofList (h.body indent ending)) = some h.text := by
  have passed : clear replyCall (beforeText indent) = true :=
    clear_append ['\n'] (by decide)
      (clear_append _ (clear_indent gap (by decide) _) (by decide))
  have apart : endsInWord false (beforeText indent) = false := by
    have point : isWord '.' = false := by decide
    have cut : beforeText indent = ('\n' :: (indent.toList ++ "update.message".toList)) ++ ['.'] :=
      by
        unfold beforeText
        rw [List.cons_append, List.append_assoc]
        rfl
    rw [cut]
    simp only [endsInWord, List.getLast?_append, List.getLast?_singleton]
    simp [point]
  have replies : Replies h.text.toList
      (replyCall ++ ([] ++ '(' :: ([] ++ quoteLiteral '"' h.text.toList))) :=
    .intro (by simp) (by simp) (isLiteral_quoteLiteral rfl _)
  have accepted (rest : List Char) : replyLiteral (replyCall ++ '(' ::
      (quoteLiteral '"' h.text.toList ++ rest)) = some (h.text.toList, rest) := by
    simpa using replies.replyLiteral rest
  unfold replyText?
  rw [String.toList_ofList, body_eq, searchWord_of_barren (opensWith_replyLiteral.barren passed _),
    apart, searchWord_of_accepted (accepted _) (by simp)]
  simp

theorem buttonOf_eq (text : String) :
    buttonOf text = buttonCall ++ '(' :: (quoteLiteral '"' text.toList ++ [')']) :=
  rfl

theorem buttonLiteral_buttonOf (text : String) (rest : List Char) :
    buttonLiteral (buttonOf text ++ rest) = some (text.toList, rest) := by
  let call : ButtonCall :=
    { text, quote := '"', quoted := rfl, gap_blank := by simp, inner_blank := by simp,
      outer_blank := by simp, mark_ends := .inr rfl }
  exact call.buttonLiteral rest

/-- The buttons of a row are found one after the other, and none behind it. -/
theorem searchAll_buttonRow {behind : List Char} (passed : clear buttonCall behind = true)
    (texts : List String) {fuel : Nat} (enough : texts.length ≤ fuel) :
    searchAll buttonLiteral false fuel (buttonRow texts ++ behind) =
      texts.map String.toList := by
  induction texts generalizing fuel with
  | nil => exact opensWith_buttonLiteral.searchAll passed _ _
  | cons text texts ih =>
      obtain ⟨fuel, rfl⟩ : ∃ less, fuel = less + 1 := ⟨fuel - 1, by simp at enough; omega⟩
      have enough : texts.length ≤ fuel := by simpa using enough
      have ne_nil : ∀ rest, buttonOf text ++ rest ≠ [] := by
        intro rest
        simp [buttonOf_eq]
      have next := ih enough
      cases texts with
      | nil =>
          have one : buttonRow [text] = buttonOf text := List.intercalate_singleton
          rw [one, searchAll, searchWord_of_accepted (buttonLiteral_buttonOf text _) (ne_nil _)]
          simpa [buttonRow] using next
      | cons second texts =>
          -- the search goes on behind the parenthesis, at the comma
          have comma : Barren buttonLiteral ", ".toList (buttonRow (second :: texts) ++ behind) :=
            opensWith_buttonLiteral.barren (by decide) _
          have apart : endsInWord false ", ".toList = false := by decide
          rw [buttonRow_cons_cons, List.append_assoc, searchAll,
            searchWord_of_accepted (buttonLiteral_buttonOf text _) (ne_nil _)]
          dsimp only
          rw [List.append_assoc, searchAll_of_barren comma, apart, next]
          rfl

theorem length_le_length_buttonRow (texts : List String) :
    texts.length ≤ (buttonRow texts).length := by
  induction texts with
  | nil => simp
  | cons text texts ih =>
      cases texts with
      | nil =>
          simp only [buttonRow, buttonOf_eq, List.map_cons, List.map_nil,
            List.intercalate_singleton, List.length_append, List.length_cons, List.length_nil]
          omega
      | cons second texts =>
          rw [buttonRow_cons_cons]
          simp only [List.length_cons, List.length_append] at ih ⊢
          have : 1 ≤ ", ".toList.length := by decide
          omega

/-- The text in front of the first button of a body. -/
def beforeButtons (h : Handler) (indent : String) : List Char :=
  beforeText indent ++ (replyCall ++ '(' :: (quoteLiteral '"' h.text.toList ++
    ", reply_markup=ReplyKeyboardMarkup([[".toList))

theorem clear_beforeButtons {indent : String} (gap : ∀ c ∈ indent.toList, isGap c = true) :
    clear buttonCall (h.beforeButtons indent) = true := by
  have start : clear buttonCall (beforeText indent) = true :=
    clear_append ['\n'] (by decide)
      (clear_append _ (clear_indent gap (by decide) _) (by decide))
  have literal : clear buttonCall (quoteLiteral '"' h.text.toList) = true :=
    clear_append ['"'] (by decide)
      (clear_escaped (by decide) (by decide) (by decide) h.text_plain)
  exact clear_append _ start (clear_append (replyCall ++ ['(']) (by decide)
    (clear_append _ literal (by decide)))

theorem buttonTexts_body {indent ending : String} (gap : ∀ c ∈ indent.toList, isGap c = true)
    (newlines : ∀ c ∈ ending.toList, c = '\n') :
    buttonTexts (String.ofList (h.body indent ending)) = h.buttons := by
  have cut : h.body indent ending =
      h.beforeButtons indent ++ (buttonRow h.buttons ++ ("]]))".toList ++ ending.toList)) := by
    rw [body_eq]
    unfold beforeButtons
    simp only [List.append_assoc, List.cons_append]
  have apart : endsInWord false (h.beforeButtons indent) = false := by
    have bracket : isWord '[' = false := by decide
    have last : h.beforeButtons indent = (beforeText indent ++ (replyCall ++ '(' ::
        (quoteLiteral '"' h.text.toList ++ ", reply_markup=ReplyKeyboardMarkup([".toList))) ++
          ['['] := by
      unfold beforeButtons
      simp only [List.append_assoc, List.cons_append]
      rfl
    rw [last]
    simp only [endsInWord, List.getLast?_append, List.getLast?_singleton]
    simp [bracket]
  have passed : clear buttonCall ("]]))".toList ++ ending.toList) = true :=
    clear_append _ (by decide)
      (clear_of_notMem fun inside => absurd (newlines _ inside) (by decide))
  have enough : h.buttons.length ≤ (String.ofList (h.body indent ending)).length := by
    have := length_le_length_buttonRow h.buttons
    rw [String.length_ofList, cut]
    simp only [List.length_append]
    omega
  have front := opensWith_buttonLiteral.barren (clear_beforeButtons (h := h) gap)
    (buttonRow h.buttons ++ ("]]))".toList ++ ending.toList))
  unfold buttonTexts
  rw [String.toList_ofList, cut, searchAll_of_barren front, apart, ← cut,
    searchAll_buttonRow passed _ enough, List.map_map]
  simp

end Handler

/-! ## The lookups in a program -/

theorem intercalate_cons (line : List Char) (after : List (List Char)) :
    List.intercalate ['\n'] (line :: after) = line ++ after.flatMap ('\n' :: ·) := by
  induction after generalizing line with
  | nil => simp
  | cons next after ih =>
      rw [List.intercalate_cons_cons, ih]
      simp

/-- Lines joined by newlines, cut in front of one of them. -/
theorem intercalate_cut (before : List (List Char)) (line : List Char) (after : List (List Char)) :
    List.intercalate ['\n'] (before ++ line :: after) =
      before.flatMap (· ++ ['\n']) ++ (line ++ after.flatMap ('\n' :: ·)) := by
  induction before with
  | nil => simp [intercalate_cons]
  | cons first before ih =>
      cases before with
      | nil => simp [intercalate_cons]
      | cons second before =>
          rw [List.cons_append, List.cons_append, List.intercalate_cons_cons, ← List.cons_append,
            ih]
          simp

namespace Program

variable (program : Program) {h : Handler}

theorem commands_differ {before after : List Handler}
    (split : program.handlers = before ++ h :: after) :
    ∀ h' ∈ before, h'.command ≠ h.command := by
  intro h' inside
  have distinct := program.commands_distinct
  rw [split, List.pairwise_append] at distinct
  exact distinct.2.2 h' inside h (by simp)

theorem names_differ {before after : List Handler}
    (split : program.handlers = before ++ h :: after) :
    ∀ h' ∈ before, h'.name ≠ h.name := by
  intro h' inside
  have distinct := program.names_distinct
  rw [split, List.pairwise_append] at distinct
  exact distinct.2.2 h' inside h (by simp)

theorem handlerName?_source (among : h ∈ program.handlers) :
    handlerName? program.source h.command = some h.name := by
  obtain ⟨before, after, split⟩ := List.append_of_mem among
  have lines : program.lines = before.map Handler.registrationLine ++ h.registrationLine ::
      (after.map Handler.registrationLine ++ program.definitionLines program.handlers) := by
    unfold lines
    rw [congrArg (List.map Handler.registrationLine) split]
    simp
  have found := Handler.searchWord_registration (program.commands_differ split)
    ((after.map Handler.registrationLine ++ program.definitionLines program.handlers).flatMap
      ('\n' :: ·) ++ program.ending.toList)
  unfold handlerName? source
  rw [String.toList_ofList, lines, intercalate_cut, List.flatMap_map, List.append_assoc,
    List.append_assoc, found]
  simp

/-- The search for the header of a function passes the registrations and the functions before it. -/
theorem searchHeader_lines {passed : List (List Char)} {name : List Char}
    (others : ∀ line ∈ passed, '\n' ∉ line ∧ ∀ rest, afterHeader? name (line ++ rest) = none)
    (rest : List Char) :
    searchHeader name true (passed.flatMap (· ++ ['\n']) ++ rest) =
      searchHeader name true rest := by
  induction passed with
  | nil => rfl
  | cons line passed ih =>
      obtain ⟨flat, refused⟩ := others line (by simp)
      rw [List.flatMap_cons, List.append_assoc, List.append_assoc, List.singleton_append,
        searchHeader_line flat (refused _)]
      exact ih fun line inside => others line (by simp [inside])

/-- Behind a body there are newlines up to the next definition. -/
theorem untilDefinition_after (after : List Handler) :
    ∃ ending : String, (∀ c ∈ ending.toList, c = '\n') ∧
      untilDefinition false
        ((program.definitionLines after).flatMap ('\n' :: ·) ++ program.ending.toList) =
          ending.toList := by
  cases after with
  | nil => exact ⟨program.ending, program.ending_newlines,
      untilDefinition_newlines program.ending_newlines false⟩
  | cons next after =>
      refine ⟨"\n", by simp, ?_⟩
      rw [definitionLines, List.flatMap_cons, List.flatMap_append, List.flatMap_cons,
        List.cons_append, List.cons_append, List.cons_append, untilDefinition_newline,
        List.append_assoc, List.append_assoc, Handler.untilDefinition_headerLine]
      rfl

theorem functionBody?_source (among : h ∈ program.handlers) :
    ∃ ending : String, (∀ c ∈ ending.toList, c = '\n') ∧
      functionBody? program.source h.name =
        some (String.ofList (h.body program.indent ending)) := by
  obtain ⟨before, after, split⟩ := List.append_of_mem among
  have lines : program.lines = (program.handlers.map Handler.registrationLine ++
      program.definitionLines before) ++ h.headerLine ::
        (h.replyLine program.indent :: program.definitionLines after) := by
    unfold lines
    rw [congrArg program.definitionLines split]
    simp [definitionLines]
  -- no line in front of the header is taken for it, a function with a longer name included
  have others : ∀ line ∈ program.handlers.map Handler.registrationLine ++
      program.definitionLines before,
      '\n' ∉ line ∧ ∀ rest, afterHeader? h.name.toList (line ++ rest) = none := by
    intro line inside
    rw [List.mem_append, List.mem_map, definitionLines, List.mem_flatMap] at inside
    rcases inside with ⟨h', -, rfl⟩ | ⟨h', earlier, inside⟩
    · exact ⟨Handler.newline_notMem_registrationLine, Handler.afterHeader?_registrationLine _⟩
    · rw [List.mem_cons, List.mem_singleton] at inside
      rcases inside with rfl | rfl
      · exact ⟨Handler.newline_notMem_headerLine,
          Handler.afterHeader?_other (program.names_differ split h' earlier)⟩
      · exact ⟨Handler.newline_notMem_replyLine program.indent_gap,
          Handler.afterHeader?_replyLine program.indent_gap _⟩
  have found : ∀ rest, searchHeader h.name.toList true (h.headerLine ++ rest) = some rest :=
    fun rest =>
      searchHeader_of_accepted (Handler.afterHeader?_own rest) (by simp [Handler.headerLine_eq])
  obtain ⟨ending, newlines, ended⟩ := program.untilDefinition_after after
  refine ⟨ending, newlines, ?_⟩
  unfold functionBody? source
  rw [String.toList_ofList, lines, intercalate_cut, List.append_assoc, searchHeader_lines others,
    List.append_assoc, found, Option.map_some, List.flatMap_cons, List.cons_append,
    List.cons_append, untilDefinition_newline, List.append_assoc,
    Handler.untilDefinition_replyLine program.indent_gap, ended]
  rfl

theorem commandOf?_command (h : Handler) {tail : String}
    (apart : ∀ c ∈ tail.toList.head?, isBlank c = true) :
    commandOf? ("/" ++ h.command ++ tail) = some h.command := by
  have solid : ∀ c ∈ h.command.toList, (!isBlank c) = true := fun c inside => by
    simp [(h.command_plain c inside).1]
  have written : ("/" ++ h.command ++ tail).toList = '/' :: (h.command.toList ++ tail.toList) := by
    simp
  have start : (h.command.toList ++ tail.toList).dropWhile isBlank =
      h.command.toList ++ tail.toList := by
    obtain ⟨c, cs, command⟩ := List.exists_cons_of_ne_nil
      (show h.command.toList ≠ [] by simpa using h.command_ne_empty)
    have := (h.command_plain c (by simp [command])).1
    simp [command, this]
  have stop : tail.toList.takeWhile (fun c => !isBlank c) = [] := by
    cases behind : tail.toList with
    | nil => rfl
    | cons c cs => simp [apart c (by simp [behind])]
  unfold commandOf?
  rw [written]
  simp only [Option.some.injEq]
  rw [start, List.takeWhile_append_of_pos solid, stop, List.append_nil, String.ofList_toList]

/-- A row of buttons makes a layout of one row, and no buttons make none. -/
theorem rows_ofRows? (row : List Button) :
    (Layout.ofRows? [row]).map Layout.rows = if row = [] then none else some [row] := by
  cases row <;> simp [Layout.ofRows?]

/-- **A program of literals answers with its literals.** The simulated bot answers each command of
its program, in whatever words the message goes on, with the text of its handler and with the
buttons in one row, or without a layout when there are no buttons. -/
theorem simulate_source (program : Program) {h : Handler} (among : h ∈ program.handlers)
    (settings : Settings) (token : String) {tail : String}
    (apart : ∀ c ∈ tail.toList.head?, isBlank c = true) :
    ∃ layout : Option Layout,
      (Engine.simulate settings .python program.source token
        ("/" ++ h.command ++ tail)).answer =
          .ok (some { text := .str h.text, buttons := layout }) ∧
      layout.map Layout.rows =
        if h.buttons = [] then none
        else some [h.buttons.map fun text => Button.reply (.str text)] := by
  obtain ⟨ending, newlines, body⟩ := program.functionBody?_source among
  have mined : extract program.source ("/" ++ h.command ++ tail) = .ok
      { command := h.command
        functionName := h.name
        body := String.ofList (h.body program.indent ending)
        replyText := h.text
        buttonTexts := h.buttons } := by
    unfold extract
    rw [commandOf?_command h apart]
    dsimp only
    rw [program.handlerName?_source among]
    dsimp only
    rw [body]
    dsimp only
    rw [Handler.replyText?_body program.indent_gap]
    dsimp only
    rw [Handler.buttonTexts_body program.indent_gap newlines]
  refine ⟨Layout.ofRows? [h.buttons.map fun text => Button.reply (.str text)], ?_, ?_⟩
  · simp [Engine.simulate, Engine.mine, reply?, mined, Except.toOption, Extraction.toReply]
  · rw [rows_ofRows?]
    simp

/-- A handler whose text looks like the next function and whose button looks like a reply. -/
def starting : Handler where
  command := "start"
  name := "on"
  text := "Hi\ndef one(update, context):"
  buttons := ["reply_text(\"no\")", "Stop"]
  command_ne_empty := by decide
  command_plain := List.forall_iff_forall_mem.mp (by decide)
  name_ne_empty := by decide
  name_plain := List.all_eq_true.mp (by decide)
  text_plain := by decide +kernel

/-- A handler whose command and name continue those of `starting`. -/
def startled : Handler where
  command := "started"
  name := "one"
  text := "Bye"
  buttons := []
  command_ne_empty := by decide
  command_plain := List.forall_iff_forall_mem.mp (by decide)
  name_ne_empty := by decide
  name_plain := List.all_eq_true.mp (by decide)
  text_plain := by decide

/-- A program of two commands. -/
def greeter : Program where
  handlers := [startled, starting]
  indent := "    "
  ending := "\n"
  commands_distinct := by simp [startled, starting]
  names_distinct := by simp [startled, starting]
  indent_gap := List.all_eq_true.mp (by decide)
  ending_newlines := by simp

/-- The shorter of two commands is answered with its own text and its two buttons. -/
theorem simulate_source_starting :
    starting ∈ greeter.handlers ∧ (∀ c ∈ " now".toList.head?, isBlank c = true) ∧
      ∃ layout : Option Layout,
        (Engine.simulate {} .python greeter.source "1:a"
          ("/" ++ starting.command ++ " now")).answer =
            .ok (some { text := .str starting.text, buttons := layout }) ∧
        layout.map Layout.rows =
          if starting.buttons = [] then none
          else some [starting.buttons.map fun text => Button.reply (.str text)] := by
  have among : starting ∈ greeter.handlers := by simp [greeter]
  have apart : ∀ c ∈ " now".toList.head?, isBlank c = true := by
    rintro c ⟨⟩
    decide
  exact ⟨among, apart, simulate_source greeter among {} "1:a" apart⟩

end Program

end BotBench.Mining
