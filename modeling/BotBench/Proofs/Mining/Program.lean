import BotBench.Proofs.Mining.Reading
import Mathlib.Data.List.Basic

/-! # Programs of literal replies

A program registers a function for each of its commands and then defines the functions, each of
which replies with a literal and a row of literal buttons. The search for the registration of a
command passes the registrations of other commands, whatever these commands look like
(`Handler.searchWord_registration`). -/

namespace BotBench.Mining

open Text

/-- A function that answers a command with a text and a row of buttons. -/
structure Handler where
  command : String
  name : String
  text : String
  buttons : List String
  command_ne_empty : command ≠ ""
  command_plain : ∀ c ∈ command.toList, isBlank c = false ∧ isQuote c = false
  name_ne_empty : name ≠ ""
  name_plain : ∀ c ∈ name.toList, isNameChar c = true
  text_plain : ¬buttonCall <:+: text.toList

namespace Handler

variable (h : Handler)

/-- The call that registers the function for the command. -/
def registrationCall : List Char :=
  "CommandHandler(\"".toList ++ (h.command.toList ++
    ("\", ".toList ++ (h.name.toList ++ "))".toList)))

def registrationLine : List Char :=
  "app.add_handler(".toList ++ h.registrationCall

def headerLine : List Char :=
  "def ".toList ++ (h.name.toList ++ "(update, context):".toList)

/-- The call that makes a button. -/
def buttonOf (text : String) : List Char :=
  "KeyboardButton(".toList ++ (quoteLiteral '"' text.toList ++ [')'])

/-- The row of buttons up to its closing brackets. -/
def buttonRow (texts : List String) : List Char :=
  List.intercalate ", ".toList (texts.map buttonOf)

def replyLine (indent : String) : List Char :=
  indent.toList ++ ("update.message.reply_text(".toList ++ (quoteLiteral '"' h.text.toList ++
    (", reply_markup=ReplyKeyboardMarkup([[".toList ++
      (buttonRow h.buttons ++ "]]))".toList))))

end Handler

/-- Handlers of distinct commands and names, written down line by line: the registrations, and then
the functions with their bodies indented. -/
structure Program where
  handlers : List Handler
  indent : String
  ending : String
  commands_distinct : handlers.Pairwise fun h h' => h.command ≠ h'.command
  names_distinct : handlers.Pairwise fun h h' => h.name ≠ h'.name
  indent_gap : ∀ c ∈ indent.toList, isGap c = true
  ending_newlines : ∀ c ∈ ending.toList, c = '\n'

namespace Program

variable (program : Program)

/-- The lines that define functions. -/
def definitionLines (handlers : List Handler) : List (List Char) :=
  handlers.flatMap fun h => [h.headerLine, h.replyLine program.indent]

def lines : List (List Char) :=
  program.handlers.map Handler.registrationLine ++ program.definitionLines program.handlers

/-- The source of the program; nothing but newlines may stand behind its last line. -/
def source : String :=
  String.ofList (List.intercalate ['\n'] program.lines ++ program.ending.toList)

end Program

namespace Handler

variable {h h' : Handler}

theorem isBlank_name {c : Char} (inside : c ∈ h.name.toList) : isBlank c = false :=
  isBlank_of_isNameChar (h.name_plain c inside)

theorem isWord_name {c : Char} (inside : c ∈ h.name.toList) : isWord c = true :=
  isWord_of_isNameChar (h.name_plain c inside)

/-! ## The registration of a command -/

theorem skipBlanks_name (rest : List Char) :
    skipBlanks (h.name.toList ++ rest) = h.name.toList ++ rest := by
  obtain ⟨c, cs, written⟩ := List.exists_cons_of_ne_nil
    (show h.name.toList ≠ [] by simpa using h.name_ne_empty)
  rw [written, List.cons_append, skipBlanks_solid (isBlank_name (h := h) (by simp [written]))]

theorem readName_name (rest : List Char) :
    readName (h.name.toList ++ ')' :: rest) = some (h.name.toList, ')' :: rest) := by
  have closed : isWord ')' = false := by decide
  exact readName_append (by simpa using h.name_ne_empty) (fun c inside => isWord_name inside)
    (by simpa using closed)

theorem registrationCall_eq : h.registrationCall = handlerCall ++ '(' :: '"' ::
    (h.command.toList ++ '"' :: ',' :: ' ' :: (h.name.toList ++ [')', ')'])) :=
  rfl

theorem registration_registrationCall (rest : List Char) :
    registration h.command.toList (h.registrationCall ++ rest) =
      some (h.name.toList, ')' :: rest) := by
  have written : h.registrationCall ++ rest = handlerCall ++ '(' :: '"' ::
      (h.command.toList ++ '"' :: ',' :: ' ' :: (h.name.toList ++ ')' :: ')' :: rest)) := by
    rw [registrationCall_eq]
    simp
  have opened := afterCallOpen?_append handlerCall (show isBlank '"' = false by decide)
    (h.command.toList ++ '"' :: ',' :: ' ' :: (h.name.toList ++ ')' :: ')' :: rest))
  have listed : afterMark? ',' (',' :: ' ' :: (h.name.toList ++ ')' :: ')' :: rest)) =
      some (' ' :: (h.name.toList ++ ')' :: ')' :: rest)) := by
    simp [afterMark?, skipBlanks_solid (show isBlank ',' = false by decide)]
  have skipped : skipBlanks (' ' :: (h.name.toList ++ ')' :: ')' :: rest)) =
      h.name.toList ++ ')' :: ')' :: rest := by
    rw [skipBlanks_blank (by decide), skipBlanks_name]
  have ended : afterArgument? (')' :: ')' :: rest) = some (')' :: rest) := by
    simp [afterArgument?, skipBlanks_solid (show isBlank ')' = false by decide)]
  simp [registration, written, opened, afterWord?_append, listed, skipped, readName_name, ended]

/-- A registration that begins in front of a quote has its command behind that quote. -/
theorem registration_at_quote {command front back : List Char} {q : Char}
    {found : List Char × List Char}
    (accepted : registration command (front ++ q :: back) = some found)
    (plain : ∀ c ∈ front, isQuote c = false) (opens : isQuote q = true) :
    ∃ quote behind, back = command ++ quote :: behind ∧ isQuote quote = true := by
  obtain ⟨gap, inner, quote, behind, same, blank, blank', quoted⟩ :=
    registration_eq_some accepted
  have plainCall : ∀ c ∈ handlerCall, isQuote c = false :=
    List.forall_iff_forall_mem.mp (by decide)
  have called : ∀ c ∈ handlerCall ++ (gap ++ '(' :: inner), isQuote c = false := by
    intro c among
    simp only [List.mem_append, List.mem_cons] at among
    rcases among with among | among | rfl | among
    · exact plainCall c among
    · exact isQuote_of_isBlank (blank c among)
    · decide
    · exact isQuote_of_isBlank (blank' c among)
  have same : front ++ q :: back =
      (handlerCall ++ (gap ++ '(' :: inner)) ++ quote :: (command ++ quote :: behind) := by
    simpa using same
  obtain ⟨-, -, same⟩ := split_at_first same plain called opens quoted
  exact ⟨quote, behind, same, quoted⟩

/-- No registration of a command begins in front of the registration of another one, whatever
stands in front of it. -/
theorem barren_before_command {front : List Char} (other : h'.command ≠ h.command)
    (plain : ∀ c ∈ front, isQuote c = false) (rest : List Char) :
    Barren (registration h.command.toList) front
      ('"' :: (h'.command.toList ++ '"' :: rest)) := by
  refine barren_of_suffix fun back inside _ => ?_
  by_contra accepted
  obtain ⟨found, accepted⟩ := Option.ne_none_iff_exists'.mp accepted
  obtain ⟨quote, behind, same, quoted⟩ := registration_at_quote accepted
    (fun c among => plain c (inside.subset among)) (by decide)
  obtain ⟨same, -, -⟩ := split_at_first same (fun c among => (h'.command_plain c among).2)
    (fun c among => (h.command_plain c among).2) (by decide) quoted
  exact other (String.toList_injective same)

/-- No registration begins inside a command: its closing quote would have to open another command,
which would hold the blank behind the comma. -/
theorem barren_in_command (rest : List Char) :
    Barren (registration h.command.toList) h'.command.toList ('"' :: ',' :: ' ' :: rest) := by
  refine barren_of_suffix fun back inside _ => ?_
  by_contra accepted
  obtain ⟨found, accepted⟩ := Option.ne_none_iff_exists'.mp accepted
  obtain ⟨quote, behind, same, quoted⟩ := registration_at_quote accepted
    (fun c among => (h'.command_plain c (inside.subset among)).2) (by decide)
  -- a command of one character would be the comma, closed by a blank instead of a quote
  cases written : h.command.toList with
  | nil => exact h.command_ne_empty (by simpa using written)
  | cons c cs =>
      cases cs with
      | nil =>
          simp only [written, List.cons_append, List.nil_append, List.cons.injEq] at same
          rw [← same.2.1] at quoted
          revert quoted
          decide
      | cons d ds =>
          simp only [written, List.cons_append, List.cons.injEq] at same
          have solid := (h.command_plain d (by simp [written])).1
          rw [← same.2.1] at solid
          revert solid
          decide

/-- No registration begins inside the name of a function, as a parenthesis closes behind it. -/
theorem barren_in_name (rest : List Char) :
    Barren (registration h.command.toList) h'.name.toList (')' :: rest) := by
  refine barren_of_suffix fun back inside _ => ?_
  by_contra accepted
  obtain ⟨found, accepted⟩ := Option.ne_none_iff_exists'.mp accepted
  obtain ⟨gap, inner, quote, behind, same, blank, -, -⟩ := registration_eq_some accepted
  have named : ∀ c ∈ handlerCall, isNameChar c = true := List.all_eq_true.mp (by decide)
  obtain ⟨-, wrong⟩ := name_split same (fun c among => h'.name_plain c (inside.subset among))
    named blank (.inr rfl)
  exact absurd wrong (by decide)

/-- No registration of a command begins in the line that registers another one. -/
theorem barren_registrationLine (other : h'.command ≠ h.command) (rest : List Char) :
    Barren (registration h.command.toList) (h'.registrationLine ++ ['\n']) rest := by
  have opens := opensWith_registration h.command.toList
  have written : h'.registrationLine ++ ['\n'] =
      ("app.add_handler(".toList ++ (handlerCall ++ ['('])) ++ (['"'] ++ (h'.command.toList ++
        (['"', ',', ' '] ++ (h'.name.toList ++ [')', ')', '\n'])))) := by
    unfold registrationLine
    rw [registrationCall_eq]
    simp only [List.append_assoc, List.cons_append, List.nil_append]
  -- the line is cut where its command and its name begin and end
  rw [written]
  refine barren_append.mpr ⟨?front, barren_append.mpr ⟨opens.barren (by decide) _,
    barren_append.mpr ⟨?command, barren_append.mpr ⟨opens.barren (by decide) _,
      barren_append.mpr ⟨barren_in_name _, opens.barren (by decide) _⟩⟩⟩⟩⟩
  case front =>
    simp only [List.append_assoc, List.cons_append, List.nil_append]
    exact barren_before_command other (List.forall_iff_forall_mem.mp (by decide)) _
  case command => exact barren_in_command _

theorem endsInWord_line (inWord : Bool) (line : List Char) :
    endsInWord inWord (line ++ ['\n']) = false := by
  have apart : isWord '\n' = false := by decide
  simp [endsInWord, apart]

/-- The registration of a command is found behind the registrations of other ones. -/
theorem searchWord_registration {before : List Handler}
    (others : ∀ h' ∈ before, h'.command ≠ h.command) (rest : List Char) :
    searchWord (registration h.command.toList) false
        (before.flatMap (fun h' => h'.registrationLine ++ ['\n']) ++
          (h.registrationLine ++ rest)) =
      some (h.name.toList, ')' :: rest) := by
  induction before with
  | nil =>
      have front : Barren (registration h.command.toList) "app.add_handler(".toList
          (h.registrationCall ++ rest) :=
        (opensWith_registration _).barren (by decide) _
      have apart : endsInWord false "app.add_handler(".toList = false := by decide
      have accepted := registration_registrationCall (h := h) rest
      unfold registrationLine
      rw [List.flatMap_nil, List.nil_append, List.append_assoc, searchWord_of_barren front, apart]
      exact searchWord_of_accepted accepted (by simp [registrationCall_eq])
  | cons h' before ih =>
      have barren := barren_registrationLine (others h' (by simp))
        (before.flatMap (fun h' => h'.registrationLine ++ ['\n']) ++ (h.registrationLine ++ rest))
      rw [List.flatMap_cons, List.append_assoc, searchWord_of_barren barren, endsInWord_line]
      exact ih fun h' inside => others h' (by simp [inside])

end Handler

end BotBench.Mining
