import AliasReader.Source.Span
import AliasReader.Text.ByteLength

/-!
# Cursors

A cursor walks over a source text character by character. Any character can be put back in
front of it. Putting back the character that was just taken steps back over it, so that
positions stay exact; any other character waits in front of the source.

Through `remaining` a cursor is the list of the characters still to be read: `peek?` is its
head, `next?` removes the head and `unread` puts a character in front.

## Main definitions

* `Cursor`: a place in a source text, with the characters put back in front of it;
* `Cursor.remaining`: the characters still to be read;
* `Cursor.offset`: the byte offset of the next character.

## Main results

* `Cursor.remaining_advance`, `Cursor.remaining_unread` and `Cursor.remaining_skipWhile`: what
  each operation does to the remaining characters;
* `Cursor.unread_advance`: putting back what was just read restores the cursor;
* `Cursor.eq_of_source_of_remaining`: a cursor is determined by its source text and the
  characters still to be read;
* `Cursor.offset_eq`: the offset in terms of the source text and the remaining characters.
-/

namespace AliasReader

/-- A place in a source text, with characters put back in front of it. -/
structure Cursor where
  /-- The source characters before the place, the last one first. -/
  passed : List Char
  /-- The source characters from the place on. -/
  ahead : List Char
  /-- The characters put back and still to be read, in reading order. -/
  pending : List Char
  /-- The place lies as far back as it can: the character that was put back first is not the
  source character before the place. -/
  settled : ∀ c ∈ pending.getLast?, passed.head? ≠ some c

namespace Cursor

/-- The cursor at the start of a source text. -/
def ofString (source : String) : Cursor :=
  ⟨[], source.toList, [], by simp⟩

/-- The whole source text. -/
def source (cursor : Cursor) : String :=
  String.ofList (cursor.passed.reverse ++ cursor.ahead)

/-- The characters still to be read. -/
def remaining (cursor : Cursor) : List Char :=
  cursor.pending ++ cursor.ahead

/-- The next character, which stays in place. -/
def peek? (cursor : Cursor) : Option Char :=
  cursor.remaining.head?

/-- Whether every character has been read. -/
def isAtEnd (cursor : Cursor) : Bool :=
  cursor.peek?.isNone

/-- What is last in the rest of a list is last in the list. -/
private theorem getLast?_of_tail {c d : Char} {cs : List Char} (h : c ∈ cs.getLast?) :
    c ∈ (d :: cs).getLast? := by
  cases cs with
  | nil => simp at h
  | cons e cs => simpa [List.getLast?_cons] using h

/-- The cursor behind the next character, or the same cursor at the end. -/
def advance (cursor : Cursor) : Cursor :=
  match cursor with
  | ⟨passed, ahead, _ :: pending, settled⟩ =>
      ⟨passed, ahead, pending, fun c h => settled c (getLast?_of_tail h)⟩
  | ⟨passed, c :: ahead, [], _⟩ => ⟨c :: passed, ahead, [], by simp⟩
  | ⟨passed, [], [], settled⟩ => ⟨passed, [], [], settled⟩

/-- Put a character in front of the characters still to be read. -/
def unread (cursor : Cursor) (c : Char) : Cursor :=
  match cursor with
  | ⟨passed, ahead, d :: pending, settled⟩ =>
      ⟨passed, ahead, c :: d :: pending, by simpa [List.getLast?_cons] using settled⟩
  | ⟨[], ahead, [], _⟩ => ⟨[], ahead, [c], by simp⟩
  | ⟨last :: passed, ahead, [], _⟩ =>
      if h : last = c then ⟨passed, c :: ahead, [], by simp⟩
      else ⟨last :: passed, ahead, [c], by simpa using h⟩

/-- Take the next character. -/
def next? (cursor : Cursor) : Option Char × Cursor :=
  (cursor.peek?, cursor.advance)

/-- The byte offset of the next character. Characters that were put back count as standing
directly before the place in the source. -/
def offset (cursor : Cursor) : Nat :=
  byteLength cursor.passed - byteLength cursor.pending

/-- The span from `start` to the present offset. -/
def spanFrom (cursor : Cursor) (start : Nat) : Span :=
  ⟨start, max cursor.offset start⟩

/-- The cursor `count` characters further on. -/
def drop (cursor : Cursor) : Nat → Cursor
  | 0 => cursor
  | count + 1 => cursor.advance.drop count

/-- Move the cursor over the longest run of characters that satisfy `p`. -/
def skipWhile (cursor : Cursor) (p : Char → Bool) : Cursor :=
  cursor.drop (cursor.remaining.takeWhile p).length

/-- Take the longest run of characters that satisfy `p`. -/
def takeWhile (cursor : Cursor) (p : Char → Bool) : List Char × Cursor :=
  (cursor.remaining.takeWhile p, cursor.skipWhile p)

/-- A fresh cursor still has its whole source text to read. -/
@[simp]
theorem remaining_ofString (source : String) :
    (ofString source).remaining = source.toList := rfl

/-- Reading on removes the first remaining character. -/
@[simp]
theorem remaining_advance (cursor : Cursor) :
    cursor.advance.remaining = cursor.remaining.tail := by
  obtain ⟨passed, ahead, pending, settled⟩ := cursor
  cases pending <;> cases ahead <;> rfl

/-- Reading on keeps the source text. -/
@[simp]
theorem source_advance (cursor : Cursor) : cursor.advance.source = cursor.source := by
  obtain ⟨passed, ahead, pending, settled⟩ := cursor
  cases pending <;> cases ahead <;> simp [advance, source]

/-- A character put back is the first one to be read again. -/
@[simp]
theorem remaining_unread (cursor : Cursor) (c : Char) :
    (cursor.unread c).remaining = c :: cursor.remaining := by
  obtain ⟨passed, ahead, pending, settled⟩ := cursor
  cases pending with
  | cons d pending => rfl
  | nil =>
    cases passed with
    | nil => rfl
    | cons last passed => by_cases h : last = c <;> simp [unread, remaining, h]

/-- Putting a character back keeps the source text. -/
@[simp]
theorem source_unread (cursor : Cursor) (c : Char) :
    (cursor.unread c).source = cursor.source := by
  obtain ⟨passed, ahead, pending, settled⟩ := cursor
  cases pending with
  | cons d pending => rfl
  | nil =>
    cases passed with
    | nil => rfl
    | cons last passed => by_cases h : last = c <;> simp [unread, source, h]

/-- Putting back the character that was read restores the cursor. -/
theorem unread_advance {cursor : Cursor} {c : Char} (h : cursor.peek? = some c) :
    cursor.advance.unread c = cursor := by
  obtain ⟨passed, ahead, pending, settled⟩ := cursor
  match pending, ahead with
  | [], [] => simp [peek?, remaining] at h
  | [], d :: ahead =>
    obtain rfl : d = c := by simpa [peek?, remaining] using h
    simp [advance, unread]
  | [d], ahead =>
    obtain rfl : d = c := by simpa [peek?, remaining] using h
    cases passed with
    | nil => rfl
    | cons last passed =>
      have hne : last ≠ d := by simpa using settled d (by simp)
      simp [advance, unread, hne]
  | d :: e :: pending, ahead =>
    obtain rfl : d = c := by simpa [peek?, remaining] using h
    rfl

/-- A cursor with fewer characters ahead than another one has a character put back that it
would step back over. -/
private theorem ahead_eq_of_append {first second : Cursor} {between : List Char}
    (hsource : first.source = second.source)
    (hpending : first.pending = second.pending ++ between)
    (hahead : second.ahead = between ++ first.ahead) : between = [] := by
  have hlist : first.passed.reverse ++ first.ahead = second.passed.reverse ++ second.ahead := by
    simpa [source, ← String.toList_inj] using hsource
  have hpassed : first.passed.reverse = second.passed.reverse ++ between :=
    List.append_cancel_right (by simpa [hahead] using hlist)
  have hpassed : first.passed = between.reverse ++ second.passed := by
    simpa using congrArg List.reverse hpassed
  cases hlast : between.getLast? with
  | none => simpa using hlast
  | some c =>
    -- the last character of `between` was put back first and also stands before the place
    refine absurd ?_ (first.settled c ?_)
    · simp [hpassed, List.head?_append, hlast]
    · simp [hpending, List.getLast?_append, hlast]

/-- A cursor is determined by its source text and the characters still to be read. -/
theorem eq_of_source_of_remaining {first second : Cursor}
    (hsource : first.source = second.source)
    (hremaining : first.remaining = second.remaining) : first = second := by
  have hahead : first.ahead = second.ahead := by
    rcases List.append_eq_append_iff.1 hremaining with ⟨l, hp, ha⟩ | ⟨l, hp, ha⟩
    · simpa [ahead_eq_of_append hsource.symm hp ha] using ha
    · simpa [ahead_eq_of_append hsource hp ha] using ha.symm
  have hpending : first.pending = second.pending := by
    simpa [remaining, hahead] using hremaining
  have hpassed : first.passed = second.passed := by
    simpa [source, hahead, ← String.toList_inj] using hsource
  obtain ⟨passed, ahead, pending, settled⟩ := first
  obtain ⟨passed', ahead', pending', settled'⟩ := second
  simp only at hpassed hahead hpending
  subst hpassed hahead hpending
  rfl

/-- Dropping characters drops them from the remaining ones. -/
@[simp]
theorem remaining_drop (cursor : Cursor) (count : Nat) :
    (cursor.drop count).remaining = cursor.remaining.drop count := by
  induction count generalizing cursor with
  | zero => rfl
  | succ count ih => simp [drop, ih]

/-- Dropping characters keeps the source text. -/
@[simp]
theorem source_drop (cursor : Cursor) (count : Nat) :
    (cursor.drop count).source = cursor.source := by
  induction count generalizing cursor with
  | zero => rfl
  | succ count ih => simp [drop, ih]

/-- The list of the characters that satisfy `p`, taken off the front, is what `skipWhile`
removes. -/
@[simp]
theorem remaining_skipWhile (cursor : Cursor) (p : Char → Bool) :
    (cursor.skipWhile p).remaining = cursor.remaining.dropWhile p := by
  rw [skipWhile, remaining_drop]
  induction cursor.remaining with
  | nil => rfl
  | cons c cs ih => cases h : p c <;> simp [h, ih]

/-- The offset is the number of source bytes less the number of bytes still to be read. -/
theorem offset_eq (cursor : Cursor) :
    cursor.offset = byteLength cursor.source.toList - byteLength cursor.remaining := by
  simp only [offset, source, remaining, String.toList_ofList, byteLength_append,
    byteLength_reverse]
  omega

end Cursor

end AliasReader
