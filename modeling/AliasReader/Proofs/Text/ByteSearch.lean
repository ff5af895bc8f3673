import AliasReader.Text.ByteLength
import Mathlib.Tactic.Common

/-!
# Searching a Text in Bytes

A text in UTF-8 is searched for a character from either end, and the place that is found is a number
of bytes. A part of a text is cut out between two such numbers, which has an answer only if both of
them lie between two characters.

## Main definitions

* `byteIndex?` and `lastByteIndex?`: the bytes in front of the first and of the last occurrence of a
  character;
* `slice?`: the part of a text between two byte offsets.

## Main results

* `byteIndex?_append` and `lastByteIndex?_append`: an occurrence with no other one on the side that
  the search comes from;
* `slice?_append`: a part of a text is cut out at its ends.
-/

namespace AliasReader

/-- The number of bytes in front of the first occurrence of a character. -/
def byteIndex? (c : Char) : List Char → Option Nat
  | [] => none
  | d :: ds => if d = c then some 0 else (byteIndex? c ds).map (d.utf8Size + ·)

theorem byteIndex?_eq_none {c : Char} {cs : List Char} (h : c ∉ cs) : byteIndex? c cs = none := by
  induction cs with
  | nil => rfl
  | cons d ds ih =>
    rw [List.mem_cons, not_or] at h
    rw [byteIndex?, if_neg (Ne.symm h.1), ih h.2]
    rfl

theorem byteIndex?_append {c : Char} {front : List Char} (h : c ∉ front) (behind : List Char) :
    byteIndex? c (front ++ c :: behind) = some (byteLength front) := by
  induction front with
  | nil => exact if_pos rfl
  | cons d ds ih =>
    rw [List.mem_cons, not_or] at h
    rw [List.cons_append, byteIndex?, if_neg (Ne.symm h.1), ih h.2]
    rfl

/-- The number of bytes in front of the last occurrence of a character. -/
def lastByteIndex? (c : Char) : List Char → Option Nat
  | [] => none
  | d :: ds =>
      match lastByteIndex? c ds with
      | some place => some (d.utf8Size + place)
      | none => if d = c then some 0 else none

theorem lastByteIndex?_eq_none {c : Char} {cs : List Char} (h : c ∉ cs) :
    lastByteIndex? c cs = none := by
  induction cs with
  | nil => rfl
  | cons d ds ih =>
    rw [List.mem_cons, not_or] at h
    rw [lastByteIndex?, ih h.2]
    exact if_neg (Ne.symm h.1)

theorem lastByteIndex?_append {c : Char} (front : List Char) {behind : List Char} (h : c ∉ behind) :
    lastByteIndex? c (front ++ c :: behind) = some (byteLength front) := by
  induction front with
  | nil =>
    rw [List.nil_append, lastByteIndex?, lastByteIndex?_eq_none h]
    exact if_pos rfl
  | cons d ds ih => simp only [List.cons_append, lastByteIndex?, ih, byteLength_cons]

/-- The part of a text between two byte offsets. There is no answer when one of them lies inside a
character or beyond the end, or when they are in the wrong order. -/
def slice? (cs : List Char) (start stop : Nat) : Option (List Char) := do
  let (front, _) ← splitAtByte? cs stop
  let (_, part) ← splitAtByte? front start
  return part

/-- A part of a text is cut out at its ends. -/
theorem slice?_append (front part behind : List Char) :
    slice? (front ++ part ++ behind) (byteLength front) (byteLength (front ++ part)) =
      some part := by
  simp only [slice?, splitAtByte?_append, Option.bind_eq_bind, Option.bind_some, Option.pure_def]

end AliasReader
