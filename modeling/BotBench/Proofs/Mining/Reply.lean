import BotBench.Proofs.Mining.Occurrence
import BotBench.Proofs.Mining.Passing
import BotBench.Proofs.Mining.Spelling

/-! # The text that a body replies with

A body replies with the literal of its first `reply_text` call whose argument begins with one
(`BotBench.Mining.replyText?_exact`). What the literal spells is read off it whole, so that every
text can be replied with: it is written down escaped, in either kind of quotes. -/

namespace BotBench.Mining

open Text

variable {text call : List Char}

/-- A call that sends a literal, up to the closing quote of the literal. -/
inductive Replies (text : List Char) : List Char → Prop
  | intro {gap inner literal : List Char} (blank : ∀ c ∈ gap, isBlank c = true)
      (blank' : ∀ c ∈ inner, isBlank c = true) (isLiteral : IsLiteral text literal) :
      Replies text (replyCall ++ (gap ++ '(' :: (inner ++ literal)))

/-- A call that sends a literal, whatever its text is. -/
def IsReply (call : List Char) : Prop := ∃ text, Replies text call

/-- A call that sends a literal is read, whatever follows it. -/
theorem Replies.replyLiteral (replies : Replies text call) (rest : List Char) :
    replyLiteral (call ++ rest) = some (text, rest) := by
  obtain ⟨blank, blank', isLiteral⟩ := replies
  have opened := afterCallOpen?_spaced replyCall blank blank' (isLiteral.head_solid rest)
  simp only [Mining.replyLiteral, List.append_assoc, List.cons_append, opened, Option.bind_some,
    isLiteral.readLiteral]

theorem replies_of_replyLiteral {cs rest : List Char}
    (accepted : replyLiteral cs = some (text, rest)) :
    ∃ call, cs = call ++ rest ∧ Replies text call := by
  obtain ⟨argument, opened, read⟩ := Option.bind_eq_some_iff.mp accepted
  obtain ⟨gap, inner, rfl, blank, blank'⟩ := afterCallOpen?_eq_some opened
  obtain ⟨literal, rfl, isLiteral⟩ := readLiteral_eq_some_iff.mp read
  exact ⟨_, by simp, .intro blank blank' isLiteral⟩

theorem exact_replyLiteral : Recogniser.Exact replyLiteral Replies where
  sound := replies_of_replyLiteral
  complete rest replies := replies.replyLiteral rest
  filled replies := by
    have accepted := replies.replyLiteral []
    rw [List.nil_append, replyLiteral, show afterCallOpen? replyCall [] = none by decide]
      at accepted
    cases accepted

theorem isWord_replyCall : ∀ c ∈ replyCall, isWord c = true :=
  List.all_eq_true.mp (by decide)

/-- **The text of a reply is exact.** A body has one if and only if a call that sends a literal
stands in it, outside of a word. The text is the one that the literal of the first such call spells.
In particular any text, escaped in either kind of quotes, is replied with by a call that sends it
behind a front without such calls. -/
theorem replyText?_exact (body : String) :
    ((replyText? body).isSome = true ↔
      ∃ front call back, Occurs parts IsReply body.toList front call back) ∧
    (∀ text : String, replyText? body = some text ↔
      ∃ front call back, OccursFirst parts IsReply body.toList front call back ∧
        Replies text.toList call) ∧
    ∀ (text : String) (quote : Char) (front gap inner back : List Char), isQuote quote = true →
      Passes replyCall front → (∀ c ∈ gap, isBlank c = true) → (∀ c ∈ inner, isBlank c = true) →
        body.toList = front ++ (replyCall ++ (gap ++ '(' ::
          (inner ++ (quoteLiteral quote text.toList ++ back)))) →
        replyText? body = some text := by
  have searches := searches_searchWord replyLiteral
  refine ⟨?_, fun text => ?_, ?_⟩
  · rw [replyText?, Option.isSome_map]
    exact exact_replyLiteral.search_isSome_iff searches
  · rw [replyText?, Option.map_eq_some_iff]
    constructor
    · rintro ⟨⟨found, back⟩, searched, rfl⟩
      obtain ⟨front, call, first, replies⟩ := (exact_replyLiteral.search_iff searches).mp searched
      exact ⟨front, call, back, first, by rwa [String.toList_ofList]⟩
    · rintro ⟨front, call, back, first, replies⟩
      exact ⟨(text.toList, back),
        (exact_replyLiteral.search_iff searches).mpr ⟨front, call, first, replies⟩,
        String.ofList_toList⟩
  · intro text quote front gap inner back quoted passes blank blank' written
    have replies : Replies text.toList (replyCall ++ (gap ++ '(' ::
        (inner ++ quoteLiteral quote text.toList))) :=
      .intro blank blank' (isLiteral_quoteLiteral quoted _)
    have accepted := replies.replyLiteral back
    simp only [List.append_assoc, List.cons_append] at accepted
    rw [replyText?, written, opensWith_replyLiteral.searchWord_passes isWord_replyCall passes,
      searchWord_of_accepted accepted (List.append_ne_nil_of_left_ne_nil (by decide) _),
      Option.map_some, String.ofList_toList]

/-- The end of a longer name sends nothing, and the text of the call behind it is read with its
quotes. -/
theorem replyText?_exact_quoted :
    isQuote '"' = true ∧ Passes replyCall "no_reply_text('a') or x.".toList ∧
      (∀ c ∈ [' '], isBlank c = true) ∧ (∀ c ∈ ['\n'], isBlank c = true) ∧
      replyText? "no_reply_text('a') or x.reply_text (\n\"Say \\\"hi\\\"\", k)" =
        some "Say \"hi\"" := by
  have passes : Passes replyCall "no_reply_text('a') or x.".toList := by decide
  have blank : ∀ c ∈ [' '], isBlank c = true := List.all_eq_true.mp rfl
  have blank' : ∀ c ∈ ['\n'], isBlank c = true := List.all_eq_true.mp rfl
  refine ⟨rfl, passes, blank, blank', ?_⟩
  exact (replyText?_exact _).2.2 "Say \"hi\"" '"' "no_reply_text('a') or x.".toList [' '] ['\n']
    ", k)".toList rfl passes blank blank' (by decide)

end BotBench.Mining
