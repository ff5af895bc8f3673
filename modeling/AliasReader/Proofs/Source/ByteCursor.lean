import AliasReader.Proofs.Source.Boundary
import AliasReader.Proofs.Source.Excerpt

/-!
# Cursors in Bytes

A cursor can be kept as a byte offset into its source text and a stack of the characters that were
put back. Every look at the text then cuts it at the offset, which has an answer only between two
characters, and stepping back subtracts from the offset. `ByteCursor` does so, and gives up where a
cut or a subtraction has no answer. `Cursor.toBytes` is the byte form of a cursor: the operations
of the two go together, so the byte form never gives up.

## Main definitions

* `ByteCursor`: a byte offset into a source text, and the characters put back;
* `Cursor.toBytes`: the byte form of a cursor.

## Main results

* `Cursor.splitAtByte?_toBytes`: the text can be cut at the offset of a byte form;
* `Cursor.peek?_toBytes`, `Cursor.next?_toBytes`, `Cursor.unread_toBytes` and
  `Cursor.skipWhile_toBytes`: each operation of the byte form has an answer, that of the cursor;
* `Cursor.takeUntil_toBytes`: taking characters up to one that is put back takes a longest run;
* `Cursor.toNat_offset_toBytes`: the offset of a short source text fits in 32 bits.
-/

namespace AliasReader

/-- A byte offset into a source text, with characters put back in front of it. -/
structure ByteCursor where
  /-- The source text. -/
  source : String
  /-- The number of bytes before the next character of the source text. -/
  place : Nat
  /-- The characters put back and still to be read, the one put back last first. -/
  pushed : List Char

namespace ByteCursor

/-- The byte form at the start of a source text. -/
def ofString (source : String) : ByteCursor :=
  ⟨source, 0, []⟩

/-- The source text before the place and from it on. There is no answer when the place lies inside
a character or beyond the end. -/
def cut? (cursor : ByteCursor) : Option (List Char × List Char) :=
  splitAtByte? cursor.source.toList cursor.place

/-- The next character, which stays in place. -/
def peek? (cursor : ByteCursor) : Option (Option Char) :=
  match cursor.pushed with
  | c :: _ => some (some c)
  | [] => cursor.cut?.map fun (_, behind) => behind.head?

/-- Take the next character. -/
def next? (cursor : ByteCursor) : Option (Option Char × ByteCursor) :=
  match cursor.pushed with
  | c :: pushed => some (some c, { cursor with pushed })
  | [] => cursor.cut?.map fun (_, behind) =>
      match behind with
      | [] => (none, cursor)
      | c :: _ => (some c, { cursor with place := cursor.place + c.utf8Size })

/-- Put a character in front. The place steps back if nothing is put back yet and the character
stands before it. -/
def unread (cursor : ByteCursor) (c : Char) : Option ByteCursor :=
  match cursor.pushed with
  | d :: pushed => some { cursor with pushed := c :: d :: pushed }
  | [] => cursor.cut?.bind fun (before, _) =>
      if before.getLast? = some c then
        -- the offset cannot become negative
        if c.utf8Size ≤ cursor.place then
          some { cursor with place := cursor.place - c.utf8Size }
        else none
      else some { cursor with pushed := [c] }

/-- Whether every character has been read. -/
def isAtEnd (cursor : ByteCursor) : Option Bool :=
  cursor.peek?.map Option.isNone

/-- The byte offset of the next character, in 32 bits. Characters that were put back count as
standing directly before the place. -/
def offset (cursor : ByteCursor) : UInt32 :=
  .ofNat (cursor.place - byteLength cursor.pushed)

/-- The characters put back and the bytes from the place on, which each character read uses up. -/
def size (cursor : ByteCursor) : Nat :=
  cursor.pushed.length + (byteLength cursor.source.toList - cursor.place)

/-- Taking a character leaves less to be read. -/
theorem size_of_next? {cursor after : ByteCursor} {c : Char} {taken : Option Char}
    (hpeek : cursor.peek? = some (some c)) (hnext : cursor.next? = some (taken, after)) :
    after.size < cursor.size := by
  obtain ⟨source, place, pushed⟩ := cursor
  cases pushed with
  | cons d pushed =>
    obtain ⟨-, rfl⟩ := Prod.mk.inj (Option.some.inj hnext)
    simp only [size, List.length_cons]
    omega
  | nil =>
    obtain ⟨⟨before, behind⟩, hcut, hhead⟩ := Option.map_eq_some_iff.1 hpeek
    obtain ⟨hsource, hplace⟩ := splitAtByte?_eq_some hcut
    rw [next?, hcut, Option.map_some] at hnext
    obtain ⟨d, rest, rfl⟩ : ∃ d rest, behind = d :: rest := by
      cases behind with
      | nil => cases hhead
      | cons d rest => exact ⟨d, rest, rfl⟩
    obtain ⟨-, rfl⟩ := Prod.mk.inj (Option.some.inj hnext)
    have hpos := d.utf8Size_pos
    -- the character that was taken is a part of the text
    simp only at hsource hplace
    simp only [size, hsource, byteLength_append, byteLength_cons, List.length_nil]
    omega

/-- Take characters as long as the next one satisfies `p`. -/
def skipWhile (cursor : ByteCursor) (p : Char → Bool) : Option ByteCursor :=
  match hpeek : cursor.peek? with
  | none => none
  | some none => some cursor
  | some (some c) =>
      if p c then
        match hnext : cursor.next? with
        | none => none
        | some (_, after) =>
            have := size_of_next? hpeek hnext
            after.skipWhile p
      else some cursor
termination_by cursor.size

/-- Taking a character tells it, as looking at it does. -/
theorem peek?_of_next? {cursor after : ByteCursor} {taken : Option Char}
    (hnext : cursor.next? = some (taken, after)) : cursor.peek? = some taken := by
  obtain ⟨source, place, pushed⟩ := cursor
  cases pushed with
  | cons d pushed =>
    obtain ⟨rfl, -⟩ := Prod.mk.inj (Option.some.inj hnext)
    rfl
  | nil =>
    obtain ⟨⟨before, behind⟩, hcut, hhead⟩ := Option.map_eq_some_iff.1 hnext
    rw [peek?, hcut]
    cases behind <;> cases hhead <;> rfl

/-- Take characters one after the other up to one that satisfies `p`, which is taken and put back,
or up to the end. -/
def takeUntil (cursor : ByteCursor) (p : Char → Bool) : Option (List Char × ByteCursor) :=
  match hnext : cursor.next? with
  | none => none
  | some (none, after) => some ([], after)
  | some (some c, after) =>
      if p c then (after.unread c).map fun back => ([], back)
      else
        have := size_of_next? (peek?_of_next? hnext) hnext
        (after.takeUntil p).map fun (taken, last) => (c :: taken, last)
termination_by cursor.size

variable {cursor : ByteCursor} {p : Char → Bool} {taken : Option Char}

/-- The loop ends before a character that does not satisfy `p`, and at the end of the input. -/
theorem skipWhile_of_stop (hpeek : cursor.peek? = some taken) (hstop : ∀ c ∈ taken, p c = false) :
    cursor.skipWhile p = some cursor := by
  rw [skipWhile]
  split
  next hnone => cases hpeek.symm.trans hnone
  next => rfl
  next c hsome =>
    obtain rfl := Option.some.inj (hpeek.symm.trans hsome)
    rw [if_neg (by simp [hstop c rfl])]

/-- The loop goes on behind a character that satisfies `p`. -/
theorem skipWhile_of_next? {after : ByteCursor} {c : Char} (hpeek : cursor.peek? = some (some c))
    (hc : p c = true) (hnext : cursor.next? = some (taken, after)) :
    cursor.skipWhile p = after.skipWhile p := by
  rw [skipWhile]
  split
  next hnone => cases hpeek.symm.trans hnone
  next hend => cases hpeek.symm.trans hend
  next d hsome =>
    obtain rfl := Option.some.inj (Option.some.inj (hpeek.symm.trans hsome))
    rw [if_pos hc]
    split
    next hnone => cases hnext.symm.trans hnone
    next _ other hother =>
      obtain ⟨-, rfl⟩ := Prod.mk.inj (Option.some.inj (hnext.symm.trans hother))
      rfl

/-- The characters that are taken from the end of the input on. -/
theorem takeUntil_of_end {after : ByteCursor} (hnext : cursor.next? = some (none, after)) :
    cursor.takeUntil p = some ([], after) := by
  rw [takeUntil]
  split
  next hnone => cases hnext.symm.trans hnone
  next hend =>
    obtain ⟨-, rfl⟩ := Prod.mk.inj (Option.some.inj (hnext.symm.trans hend))
    rfl
  next hsome => cases hnext.symm.trans hsome

/-- A character that satisfies `p` is put back, and any other one is the first that is taken. -/
theorem takeUntil_of_next? {after : ByteCursor} {c : Char}
    (hnext : cursor.next? = some (some c, after)) :
    cursor.takeUntil p =
      if p c then (after.unread c).map fun back => ([], back)
      else (after.takeUntil p).map fun (taken, last) => (c :: taken, last) := by
  rw [takeUntil]
  split
  next hnone => cases hnext.symm.trans hnone
  next hend => cases hnext.symm.trans hend
  next d other hsome =>
    obtain ⟨hc, rfl⟩ := Prod.mk.inj (Option.some.inj (hnext.symm.trans hsome))
    obtain rfl := Option.some.inj hc
    rfl

end ByteCursor

namespace Cursor

/-- The byte form of a cursor. -/
def toBytes (cursor : Cursor) : ByteCursor :=
  ⟨cursor.source, byteLength cursor.passed, cursor.pending⟩

theorem toBytes_ofString (source : String) :
    (ofString source).toBytes = .ofString source := by
  rw [toBytes, source_ofString]
  rfl

/-- The source text can be cut at the place of a cursor, which lies between two characters. -/
theorem splitAtByte?_toBytes (cursor : Cursor) :
    cursor.toBytes.cut? = some (cursor.passed.reverse, cursor.ahead) := by
  have hcut := splitAtByte?_append cursor.passed.reverse cursor.ahead
  rwa [byteLength_reverse, ← String.toList_ofList (l := _ ++ _)] at hcut

theorem peek?_toBytes (cursor : Cursor) : cursor.toBytes.peek? = some cursor.peek? := by
  have hcut := cursor.splitAtByte?_toBytes
  obtain ⟨passed, ahead, pending, settled⟩ := cursor
  cases pending with
  | nil =>
    rw [ByteCursor.peek?, hcut]
    rfl
  | cons c pending => rfl

theorem isAtEnd_toBytes (cursor : Cursor) : cursor.toBytes.isAtEnd = some cursor.isAtEnd := by
  rw [ByteCursor.isAtEnd, peek?_toBytes]
  rfl

theorem next?_toBytes (cursor : Cursor) :
    cursor.toBytes.next? = some (cursor.next?.1, cursor.next?.2.toBytes) := by
  have hcut := cursor.splitAtByte?_toBytes
  have hsource := cursor.source_advance
  obtain ⟨passed, ahead, pending, settled⟩ := cursor
  cases pending with
  | cons c pending => rfl
  | nil =>
    rw [ByteCursor.next?, hcut]
    cases ahead with
    | nil => rfl
    | cons c ahead =>
      -- the source text is the same, and one more character of it was passed
      simp only [Option.map_some, next?, toBytes, hsource]
      simp [peek?, remaining, advance, Nat.add_comm]

theorem unread_toBytes (cursor : Cursor) (c : Char) :
    cursor.toBytes.unread c = some (cursor.unread c).toBytes := by
  have hcut := cursor.splitAtByte?_toBytes
  have hafter : (cursor.unread c).toBytes =
      ⟨cursor.source, byteLength (cursor.unread c).passed, (cursor.unread c).pending⟩ := by
    rw [toBytes, source_unread]
  rw [hafter]
  obtain ⟨passed, ahead, pending, settled⟩ := cursor
  cases pending with
  | cons d pending => rfl
  | nil =>
    rw [ByteCursor.unread, hcut]
    cases passed with
    | nil => rfl
    | cons last passed =>
      by_cases hlast : last = c
      · -- the place steps back over the character
        subst hlast
        simp [toBytes, unread]
      · simp [toBytes, unread, hlast]

/-- A run starts with the next character, if that satisfies `p`. -/
theorem skipWhile_of_peek? {cursor : Cursor} {p : Char → Bool} {c : Char}
    (hpeek : cursor.peek? = some c) (hc : p c = true) :
    cursor.skipWhile p = cursor.advance.skipWhile p := by
  rw [skipWhile, skipWhile, remaining_of_peek? hpeek, List.takeWhile_cons_of_pos hc,
    List.length_cons, drop, remaining_advance]

theorem skipWhile_toBytes (cursor : Cursor) (p : Char → Bool) :
    cursor.toBytes.skipWhile p = some (cursor.skipWhile p).toBytes := by
  -- by induction on the remaining characters, of which the loop takes one each time
  induction hlength : cursor.remaining.length generalizing cursor with
  | zero =>
    have hpeek : cursor.peek? = none := by
      rw [peek?, List.length_eq_zero_iff.1 hlength, List.head?_nil]
    rw [skipWhile_eq_self (by simp [hpeek])]
    exact ByteCursor.skipWhile_of_stop cursor.peek?_toBytes (by simp [hpeek])
  | succ count ih =>
    obtain ⟨c, rest, hremaining⟩ := List.exists_cons_of_length_eq_add_one hlength
    have hpeek : cursor.peek? = some c := by rw [peek?, hremaining, List.head?_cons]
    have hbytes : cursor.toBytes.peek? = some (some c) := by rw [peek?_toBytes, hpeek]
    cases hc : p c with
    | true =>
      have hrest : cursor.advance.remaining.length = count := by
        rw [remaining_advance, List.length_tail, hlength, Nat.add_sub_cancel]
      rw [skipWhile_of_peek? hpeek hc, ← ih cursor.advance hrest]
      exact ByteCursor.skipWhile_of_next? hbytes hc cursor.next?_toBytes
    | false =>
      rw [skipWhile_eq_self (by simp [hpeek, hc])]
      exact ByteCursor.skipWhile_of_stop hbytes (by simp [hc])

theorem takeWhile_of_stop {cursor : Cursor} {p : Char → Bool}
    (h : ∀ c ∈ cursor.peek?, p c = false) : cursor.takeWhile p = ([], cursor) := by
  have htake : cursor.remaining.takeWhile p = [] := by
    cases hremaining : cursor.remaining with
    | nil => rfl
    | cons c rest =>
      have hc : p c = false := h c (by rw [peek?, hremaining]; rfl)
      rw [List.takeWhile_cons_of_neg (by simp [hc])]
  rw [takeWhile, htake, skipWhile_eq_self h]

theorem takeWhile_of_peek? {cursor : Cursor} {p : Char → Bool} {c : Char}
    (hpeek : cursor.peek? = some c) (hc : p c = true) :
    cursor.takeWhile p =
      (c :: (cursor.advance.takeWhile p).1, (cursor.advance.takeWhile p).2) := by
  rw [takeWhile, takeWhile, skipWhile_of_peek? hpeek hc, remaining_of_peek? hpeek,
    List.takeWhile_cons_of_pos hc, remaining_advance]

/-- Taking characters one after the other takes the longest run of those that do not satisfy `p`.
The character behind the run, which was taken and put back, is the next one again. -/
theorem takeUntil_toBytes (cursor : Cursor) (p : Char → Bool) :
    cursor.toBytes.takeUntil p =
      some ((cursor.takeWhile (!p ·)).1, (cursor.takeWhile (!p ·)).2.toBytes) := by
  -- by induction on the remaining characters, of which the loop takes one each time
  induction hlength : cursor.remaining.length generalizing cursor with
  | zero =>
    have hremaining := List.length_eq_zero_iff.1 hlength
    have hpeek : cursor.peek? = none := by rw [peek?, hremaining, List.head?_nil]
    have hadvance : cursor.advance = cursor := by
      refine eq_of_source_of_remaining cursor.source_advance ?_
      rw [remaining_advance, hremaining, List.tail_nil]
    have hnext : cursor.toBytes.next? = some (none, cursor.toBytes) := by
      rw [next?_toBytes, next?, hpeek, hadvance]
    rw [ByteCursor.takeUntil_of_end hnext, takeWhile_of_stop (by simp [hpeek])]
  | succ count ih =>
    obtain ⟨c, rest, hremaining⟩ := List.exists_cons_of_length_eq_add_one hlength
    have hpeek : cursor.peek? = some c := by rw [peek?, hremaining, List.head?_cons]
    have hnext : cursor.toBytes.next? = some (some c, cursor.advance.toBytes) := by
      rw [next?_toBytes, next?, hpeek]
    rw [ByteCursor.takeUntil_of_next? hnext]
    cases hc : p c with
    | true =>
      -- putting the character back restores the cursor
      rw [if_pos rfl, unread_toBytes, unread_advance hpeek,
        takeWhile_of_stop (by simp [hpeek, hc]), Option.map_some]
    | false =>
      have hrest : cursor.advance.remaining.length = count := by
        rw [remaining_advance, List.length_tail, hlength, Nat.add_sub_cancel]
      rw [if_neg Bool.false_ne_true, ih cursor.advance hrest,
        takeWhile_of_peek? hpeek (by simp [hc]), Option.map_some]

/-- The offset of a cursor fits in 32 bits, if its source text is shorter than that. -/
theorem toNat_offset_toBytes {cursor : Cursor} (hsize : cursor.source.utf8ByteSize < UInt32.size) :
    cursor.toBytes.offset.toNat = cursor.offset := by
  refine UInt32.toNat_ofNat_of_lt' (Nat.lt_of_le_of_lt ?_ hsize)
  rw [← byteLength_toList, source, String.toList_ofList, byteLength_append, byteLength_reverse]
  simp only [toBytes]
  omega

end Cursor

end AliasReader
