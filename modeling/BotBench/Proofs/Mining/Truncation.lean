import BotBench.Proofs.Mining.Reply

/-! # Replies that are cut off

A call may send more than a literal: the literal can be the front of a longer expression. The text
of a reply is read whatever stands behind the closing quote, so that the literal is the whole
argument of the call exactly if what stands there ends an argument
(`BotBench.Mining.readsWhole_iff`). -/

namespace BotBench.Mining

open Text

variable {body : String} {text front call back : List Char}

/-- What stands behind a whole argument: blanks, and the comma or parenthesis that ends it. -/
def EndsArgument (back : List Char) : Prop :=
  ∃ gap mark rest, back = gap ++ mark :: rest ∧ (∀ c ∈ gap, isBlank c = true) ∧
    (mark = ',' ∨ mark = ')')

theorem endsArgument_iff : EndsArgument back ↔ (afterArgument? back).isSome = true := by
  rw [Option.isSome_iff_exists]
  constructor
  · rintro ⟨gap, mark, rest, rfl, blank, ends⟩
    exact ⟨rest, afterArgument?_append blank ends rest⟩
  · rintro ⟨rest, found⟩
    obtain ⟨gap, mark, split, blank, ends⟩ := afterArgument?_eq_some found
    exact ⟨gap, mark, rest, split, blank, ends⟩

instance : Decidable (EndsArgument back) := decidable_of_iff _ endsArgument_iff.symm

/-- The literal that the text of a reply is read from is the whole first argument of its call. -/
def ReadsWhole (body : String) : Prop :=
  ∀ text : String, replyText? body = some text → ∃ front call back,
    OccursFirst parts IsReply body.toList front call back ∧ Replies text.toList call ∧
      EndsArgument back

/-- The literal of the first call is read, and the search ends behind it. -/
theorem searched_iff : searchWord replyLiteral false body.toList = some (text, back) ↔
    ∃ front call, OccursFirst parts IsReply body.toList front call back ∧ Replies text call :=
  exact_replyLiteral.search_iff (searches_searchWord replyLiteral)

theorem readsWhole_of_searched
    (searched : searchWord replyLiteral false body.toList = some (text, back)) :
    ReadsWhole body ↔ EndsArgument back := by
  have read : replyText? body = some (String.ofList text) := by
    rw [replyText?, searched, Option.map_some]
  constructor
  · intro whole
    obtain ⟨front, call, back', first, replies, ends⟩ := whole _ read
    have searched' := searched_iff.mpr ⟨front, call, first, replies⟩
    rw [searched, Option.some.injEq, Prod.mk.injEq] at searched'
    rwa [searched'.2]
  · intro ends text' read'
    obtain ⟨front, call, first, replies⟩ := searched_iff.mp searched
    rw [read, Option.some.injEq] at read'
    exact ⟨front, call, back, first, by rwa [← read', String.toList_ofList], ends⟩

/-- **Nothing is asked of what stands behind a literal.** The text of a reply is read from a whole
argument exactly if what follows the literal of the first call ends the argument. Any text is
replied with by a call that begins its argument with it, and for any continuation of the call; the
continuation alone decides whether the text is cut off. -/
theorem readsWhole_iff (body : String) :
    (ReadsWhole body ↔ ∀ front call back,
      OccursFirst parts IsReply body.toList front call back → EndsArgument back) ∧
    ∀ (text : String) (front call back : List Char), Passes replyCall front →
      Replies text.toList call → body.toList = front ++ (call ++ back) →
      replyText? body = some text ∧ (ReadsWhole body ↔ EndsArgument back) := by
  constructor
  · constructor
    · intro whole front call back first
      obtain ⟨text, replies⟩ := first.formed
      exact (readsWhole_of_searched (searched_iff.mpr ⟨front, call, first, replies⟩)).mp whole
    · intro whole text read
      obtain ⟨front, call, back, first, replies⟩ := ((replyText?_exact body).2.1 text).mp read
      exact ⟨front, call, back, first, replies, whole front call back first⟩
  · intro text front call back passes replies written
    have filled : call ++ back ≠ [] := by
      refine List.append_ne_nil_of_left_ne_nil (fun empty => ?_) back
      exact exact_replyLiteral.filled (empty ▸ replies)
    have searched : searchWord replyLiteral false body.toList = some (text.toList, back) := by
      rw [written, opensWith_replyLiteral.searchWord_passes isWord_replyCall passes,
        searchWord_of_accepted (replies.replyLiteral back) filled]
    exact ⟨by rw [replyText?, searched, Option.map_some, String.ofList_toList],
      readsWhole_of_searched searched⟩

/-- A literal that is followed by a further argument is read whole. -/
theorem readsWhole_iff_markup :
    Passes replyCall "update.message.".toList ∧ Replies "Hi".toList "reply_text('Hi'".toList ∧
      replyText? "update.message.reply_text('Hi' , reply_markup=rows)" = some "Hi" ∧
      ReadsWhole "update.message.reply_text('Hi' , reply_markup=rows)" := by
  have passes : Passes replyCall "update.message.".toList := by decide
  have replies : Replies "Hi".toList "reply_text('Hi'".toList :=
    @Replies.intro _ [] [] _ nofun nofun (@isLiteral_quoteLiteral '\'' rfl "Hi".toList)
  obtain ⟨read, whole⟩ := (readsWhole_iff "update.message.reply_text('Hi' , reply_markup=rows)").2
    "Hi" _ _ " , reply_markup=rows)".toList passes replies (by decide)
  exact ⟨passes, replies, read, whole.mpr (by decide)⟩

/-- The front of a sum is sent without the rest, and a literal in triple quotes as the empty text.
-/
theorem not_readsWhole_computed :
    (replyText? "reply_text(\"Hi \" + name)" = some "Hi " ∧
      ¬ReadsWhole "reply_text(\"Hi \" + name)") ∧
    replyText? "reply_text(\"\"\"Hi\"\"\")" = some "" ∧
      ¬ReadsWhole "reply_text(\"\"\"Hi\"\"\")" := by
  have sum : searchWord replyLiteral false "reply_text(\"Hi \" + name)".toList =
      some ("Hi ".toList, " + name)".toList) := by decide
  have triple : searchWord replyLiteral false "reply_text(\"\"\"Hi\"\"\")".toList =
      some ([], "\"Hi\"\"\")".toList) := by decide
  rw [readsWhole_of_searched sum, readsWhole_of_searched triple, replyText?, replyText?, sum,
    triple]
  exact ⟨⟨rfl, by decide⟩, rfl, by decide⟩

end BotBench.Mining
