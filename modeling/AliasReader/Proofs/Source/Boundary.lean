import AliasReader.Proofs.Source.Walk
import AliasReader.Source.Line

/-!
# Character Boundaries

An offset into a text may be cut at only where it lies between two characters. A cursor from which
nothing but the end of its source text remains is always at such an offset, so a span from one place
of a walk to a later one fits in the text, and every line that is asked for can be shown.

## Main definitions

* `Span.FitsIn`: a span of a text with both ends between two characters;
* `Cursor.InSource`: nothing was put in front of what remains of the source text.

## Main results

* `isValid_iff_exists`: boundaries in terms of the characters of a text;
* `Cursor.InSource.pending_eq_nil`: in the source nothing is put back;
* `Cursor.InSource.fitsIn_spanFrom`: the span of what was read fits in the source text.
-/

namespace AliasReader

/-! ## Offsets between two characters -/

theorem utf8ByteSize_ofList (cs : List Char) :
    (String.ofList cs).utf8ByteSize = byteLength cs := by
  induction cs with
  | nil => rfl
  | cons c cs ih => rw [String.ofList_cons, String.utf8ByteSize_append,
      String.utf8ByteSize_singleton, ih, byteLength_cons]

/-- The byte length of the characters of a text is the size of the text. -/
theorem byteLength_toList (source : String) :
    byteLength source.toList = source.utf8ByteSize := by
  rw [← utf8ByteSize_ofList, String.ofList_toList]

/-- A boundary cuts the characters of a text in two. -/
theorem isValid_iff_exists {source : String} {offset : Nat} :
    String.Pos.Raw.IsValid source ⟨offset⟩ ↔
      ∃ before after, source.toList = before ++ after ∧ byteLength before = offset := by
  rw [String.Pos.Raw.isValid_iff_exists_append]
  constructor
  · rintro ⟨first, second, rfl, hoffset⟩
    refine ⟨first.toList, second.toList, String.toList_append, ?_⟩
    rw [byteLength_toList]
    exact (congrArg String.Pos.Raw.byteIdx hoffset).symm
  · rintro ⟨before, after, hsource, rfl⟩
    refine ⟨String.ofList before, String.ofList after, ?_, ?_⟩
    · rw [← String.ofList_append, ← hsource, String.ofList_toList]
    · rw [String.rawEndPos, utf8ByteSize_ofList]

/-- At a boundary of a text there is a line. -/
theorem Line.exists_locate {source : String} {offset : Nat}
    (h : String.Pos.Raw.IsValid source ⟨offset⟩) :
    ∃ line, Line.locate source.toList offset = .inLine line := by
  obtain ⟨before, after, hsource, rfl⟩ := isValid_iff_exists.1 h
  rw [hsource]
  exact ⟨_, Line.locate_append before after⟩

/-- A span lies in a text, with both ends between two characters. -/
structure Span.FitsIn (span : Span) (source : String) : Prop where
  /-- The span does not end before it starts. -/
  ordered : span.start ≤ span.stop
  /-- The span ends inside the text. -/
  inside : span.stop ≤ source.utf8ByteSize
  /-- The start is a boundary. -/
  start_isValid : String.Pos.Raw.IsValid source ⟨span.start⟩
  /-- The end is a boundary. -/
  stop_isValid : String.Pos.Raw.IsValid source ⟨span.stop⟩

/-! ## Places of a cursor -/

namespace Cursor

/-- What remains to be read is an end of the source text: nothing was put in front of it. -/
def InSource (cursor : Cursor) : Prop :=
  cursor.remaining <:+ cursor.source.toList

theorem inSource_ofString (source : String) : (ofString source).InSource := by
  show source.toList <:+ (String.ofList ([].reverse ++ source.toList)).toList
  rw [String.toList_ofList]
  exact List.suffix_refl source.toList

/-- The source itself is only ever cut between two characters. -/
theorem isValid_passed (cursor : Cursor) :
    String.Pos.Raw.IsValid cursor.source ⟨byteLength cursor.passed⟩ := by
  apply isValid_iff_exists.2
  exact ⟨cursor.passed.reverse, cursor.ahead, String.toList_ofList, byteLength_reverse _⟩

variable {earlier later : Cursor} (h : earlier.InSource)

include h

/-- A later cursor in the same source is in the source as well. -/
theorem InSource.of_suffix (hsource : later.source = earlier.source)
    (hsuffix : later.remaining <:+ earlier.remaining) : later.InSource := by
  show later.remaining <:+ later.source.toList
  rw [hsource]
  exact hsuffix.trans h

/-- A cursor in its source has nothing put back, as it would have stepped back over it. -/
theorem InSource.pending_eq_nil : earlier.pending = [] := by
  obtain ⟨before, hbefore⟩ := h
  rw [remaining, source, String.toList_ofList, ← List.append_assoc] at hbefore
  have hpassed : before ++ earlier.pending = earlier.passed.reverse :=
    List.append_cancel_right hbefore
  rcases hlast : earlier.pending.getLast? with _ | c
  · exact List.getLast?_eq_none_iff.1 hlast
  · -- the character that was put back first stands in front of the place, too
    refine absurd ?_ (earlier.settled c hlast)
    rw [← List.getLast?_reverse, ← hpassed, List.getLast?_append, hlast]
    rfl

/-- The offset of a cursor in its source is a boundary. -/
theorem InSource.isValid_offset :
    String.Pos.Raw.IsValid earlier.source ⟨earlier.offset⟩ := by
  have hoffset : earlier.offset = byteLength earlier.passed := by
    rw [offset, h.pending_eq_nil, byteLength_nil, Nat.sub_zero]
  rw [hoffset]
  exact earlier.isValid_passed

/-- The span from a place to a later one fits in the source text. -/
theorem InSource.fitsIn_spanFrom (hsource : later.source = earlier.source)
    (hsuffix : later.remaining <:+ earlier.remaining) :
    (later.spanFrom earlier.offset).FitsIn earlier.source := by
  have hlater : String.Pos.Raw.IsValid earlier.source ⟨later.offset⟩ :=
    hsource ▸ (h.of_suffix hsource hsuffix).isValid_offset
  -- what was read in between lies in front of the later place
  have hle : earlier.offset ≤ later.offset := by
    obtain ⟨between, hbetween⟩ := hsuffix
    have hlength := congrArg byteLength hbetween
    rw [byteLength_append] at hlength
    rw [offset_eq, offset_eq, hsource]
    omega
  have hspan : later.spanFrom earlier.offset = ⟨earlier.offset, later.offset⟩ := by
    rw [spanFrom, Nat.max_eq_left hle]
  rw [hspan]
  exact ⟨hle, hlater.le_utf8ByteSize, h.isValid_offset, hlater⟩

end Cursor

end AliasReader
