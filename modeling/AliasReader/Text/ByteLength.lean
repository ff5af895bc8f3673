/-!
# Byte Length

Offsets into a source text count the bytes of its UTF-8 encoding. This module measures
lists of characters in bytes and cuts them at a byte offset.

## Main results

* `byteLength_append`: byte lengths add up;
* `splitAtByte?_eq_some` and `splitAtByte?_append`: a cut succeeds exactly between two
  characters, and it loses nothing.
-/

namespace AliasReader

/-- The number of bytes of the UTF-8 encoding of the characters. -/
def byteLength : List Char → Nat
  | [] => 0
  | c :: cs => c.utf8Size + byteLength cs

@[simp]
theorem byteLength_nil : byteLength [] = 0 := rfl

@[simp]
theorem byteLength_cons (c : Char) (cs : List Char) :
    byteLength (c :: cs) = c.utf8Size + byteLength cs := rfl

/-- The byte length of a concatenation is the sum of the byte lengths. -/
@[simp]
theorem byteLength_append (cs ds : List Char) :
    byteLength (cs ++ ds) = byteLength cs + byteLength ds := by
  induction cs with
  | nil => simp
  | cons c cs ih => simp [ih, Nat.add_assoc]

/-- Reversal keeps the byte length. -/
@[simp]
theorem byteLength_reverse (cs : List Char) : byteLength cs.reverse = byteLength cs := by
  induction cs with
  | nil => rfl
  | cons c cs ih => simp [ih, Nat.add_comm]

/-- Only the empty list has byte length zero. -/
theorem byteLength_eq_zero_iff (cs : List Char) : byteLength cs = 0 ↔ cs = [] := by
  cases cs with
  | nil => simp
  | cons c cs =>
    have := c.utf8Size_pos
    simp only [byteLength_cons, reduceCtorEq, iff_false]
    omega

/-- Cut a list of characters after `offset` bytes. There is no answer when the offset lies
inside a character or beyond the end. -/
def splitAtByte? : List Char → Nat → Option (List Char × List Char)
  | cs, 0 => some ([], cs)
  | [], _ + 1 => none
  | c :: cs, offset + 1 =>
      if c.utf8Size ≤ offset + 1 then
        (splitAtByte? cs (offset + 1 - c.utf8Size)).map fun (before, after) =>
          (c :: before, after)
      else none

/-- A cut loses nothing and leaves exactly `offset` bytes in front. -/
theorem splitAtByte?_eq_some {cs before after : List Char} {offset : Nat}
    (h : splitAtByte? cs offset = some (before, after)) :
    cs = before ++ after ∧ byteLength before = offset := by
  induction cs generalizing before after offset with
  | nil =>
    cases offset with
    | zero => simp_all [splitAtByte?]
    | succ n => simp [splitAtByte?] at h
  | cons c cs ih =>
    cases offset with
    | zero => simp_all [splitAtByte?]
    | succ n =>
      rw [splitAtByte?] at h
      split at h
      next hfits =>
        obtain ⟨⟨front, back⟩, hcut, hpair⟩ := Option.map_eq_some_iff.1 h
        obtain ⟨rfl, rfl⟩ := Prod.mk.inj hpair
        obtain ⟨hjoin, hbytes⟩ := ih hcut
        refine ⟨by simp [hjoin], ?_⟩
        simp only [byteLength_cons, hbytes]
        omega
      next => simp at h

/-- Every place between two characters can be cut at. -/
theorem splitAtByte?_append (before after : List Char) :
    splitAtByte? (before ++ after) (byteLength before) = some (before, after) := by
  induction before with
  | nil => cases after <;> rfl
  | cons c cs ih =>
    have hpos := c.utf8Size_pos
    obtain ⟨n, hn⟩ := Nat.exists_eq_add_of_lt (Nat.lt_add_right (byteLength cs) hpos)
    rw [Nat.zero_add] at hn
    rw [List.cons_append, byteLength_cons, hn, splitAtByte?, if_pos (by omega)]
    have hrest : n + 1 - c.utf8Size = byteLength cs := by omega
    simp [hrest, ih]

end AliasReader
