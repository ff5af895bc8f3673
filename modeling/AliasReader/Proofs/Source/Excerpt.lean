import AliasReader.Proofs.Source.Walk

/-!
# Excerpts of a Source Text

A text may be read on its own or as a part of a longer one. A cursor in the part and a cursor at
the same place of the whole text see the same characters up to the end of the part, and their
offsets differ by the bytes in front of the part. They take the same runs of characters, unless
a run reaches past the end of the part.

## Main definitions

* `Cursor.Within`: a cursor in a part of a text, and one at the same place of the whole text.

## Main results

* `Cursor.Within.offset`: the offsets of the two cursors;
* `Cursor.Within.skipWhile`: the two cursors behind a run.
-/

namespace AliasReader

namespace Cursor

@[simp]
theorem source_ofString (source : String) : (ofString source).source = source := by
  simp [ofString, Cursor.source]

@[simp]
theorem source_skipWhile (cursor : Cursor) (p : Char → Bool) :
    (cursor.skipWhile p).source = cursor.source := cursor.source_drop _

/-- The first cursor is in a part of a text that has `front` before the part and `tail` behind it,
and the second one is at the same place of the whole text. -/
structure Within (front tail : List Char) (part whole : Cursor) : Prop where
  /-- The part stands between the two texts. -/
  source : whole.source.toList = front ++ part.source.toList ++ tail
  /-- What remains of the part remains of the whole text, with the text behind it. -/
  remaining : whole.remaining = part.remaining ++ tail
  /-- Nothing was put in front of the input. -/
  suffix : part.remaining <:+ part.source.toList

/-- A cursor before the last part of a text is at the start of that part. -/
theorem within_ofString {front tail : List Char} {source : String} {whole : Cursor}
    (hsource : whole.source.toList = front ++ source.toList ++ tail)
    (hremaining : whole.remaining = source.toList ++ tail) :
    Within front tail (ofString source) whole :=
  ⟨by rw [source_ofString, hsource], hremaining, by
    simp only [source_ofString, remaining_ofString, List.suffix_refl]⟩

section Within

variable {front tail : List Char} {part whole : Cursor} (h : Within front tail part whole)

include h

/-- The whole text has the bytes in front of the part in addition. -/
theorem Within.offset : whole.offset = part.offset + byteLength front := by
  obtain ⟨passed, hpassed⟩ := h.suffix
  rw [offset_eq, offset_eq, h.source, h.remaining, ← hpassed]
  simp only [byteLength_append]
  omega

theorem Within.spanFrom (start : Nat) :
    whole.spanFrom (start + byteLength front) =
      (part.spanFrom start).shift (byteLength front) := by
  rw [Cursor.spanFrom, Cursor.spanFrom, Span.shift, h.offset, Nat.add_max_add_right]

/-- Inside the part the two cursors pass over the same characters. -/
theorem Within.drop {count : Nat} (hcount : count ≤ part.remaining.length) :
    Within front tail (part.drop count) (whole.drop count) := by
  refine ⟨?_, ?_, ?_⟩
  · rw [source_drop, source_drop, h.source]
  · rw [remaining_drop, remaining_drop, h.remaining, List.drop_append_of_le_length hcount]
  · rw [remaining_drop, source_drop]
    exact (List.drop_suffix _ _).trans h.suffix

theorem Within.peek? {c : Char} (hpeek : part.peek? = some c) : whole.peek? = some c := by
  rw [Cursor.peek?, h.remaining, remaining_of_peek? hpeek]
  rfl

theorem Within.advance {c : Char} (hpeek : part.peek? = some c) :
    Within front tail part.advance whole.advance := by
  have hone : 1 ≤ part.remaining.length := by
    rw [remaining_of_peek? hpeek]
    simp
  exact h.drop hone

/-- Both cursors take the same run of characters, or the run goes on behind the part. -/
theorem Within.skipWhile (p : Char → Bool) :
    (whole.remaining.takeWhile p = part.remaining.takeWhile p ∧
        Within front tail (part.skipWhile p) (whole.skipWhile p)) ∨
      ((∃ c ∈ tail.head?, p c = true) ∧ (part.skipWhile p).remaining = [] ∧
        (whole.skipWhile p).remaining.length < tail.length) := by
  by_cases hstops : (part.skipWhile p).remaining = [] ∧ ∃ c ∈ tail.head?, p c = true
  · -- the run takes the rest of the part and the first character behind it
    obtain ⟨hend, c, hc, hpc⟩ := hstops
    refine Or.inr ⟨⟨c, hc, hpc⟩, hend, ?_⟩
    obtain ⟨rest, rfl⟩ := List.head?_eq_some_iff.1 hc
    rw [remaining_skipWhile] at hend ⊢
    rw [h.remaining, List.dropWhile_append, hend, List.isEmpty_nil, if_pos rfl,
      List.dropWhile_cons_of_pos hpc, List.length_cons]
    exact Nat.lt_succ_of_le (List.dropWhile_suffix p).length_le
  · have htake : whole.remaining.takeWhile p = part.remaining.takeWhile p := by
      rw [h.remaining, List.takeWhile_append]
      split
      next hall =>
        -- the whole rest of the part is taken, and nothing behind it
        have hself : part.remaining.takeWhile p = part.remaining :=
          (List.takeWhile_prefix p).eq_of_length hall
        have hdrop : part.remaining.dropWhile p = [] := by
          have happend := List.takeWhile_append_dropWhile (p := p) (l := part.remaining)
          rw [hself] at happend
          exact List.append_cancel_left (happend.trans (List.append_nil _).symm)
        have htail : tail.takeWhile p = [] := by
          cases tail with
          | nil => rfl
          | cons c rest =>
            refine List.takeWhile_cons_of_neg fun hpc => hstops ⟨?_, c, rfl, hpc⟩
            rw [remaining_skipWhile, hdrop]
        rw [htail, List.append_nil, hself]
      next => rfl
    refine Or.inl ⟨htake, ?_⟩
    rw [Cursor.skipWhile, Cursor.skipWhile, htake]
    exact h.drop (List.takeWhile_prefix p).length_le

end Within

end Cursor

end AliasReader
