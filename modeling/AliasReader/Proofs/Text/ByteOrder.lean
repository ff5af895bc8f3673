import Mathlib.Tactic.Common

/-!
# The Order of Texts and of Their Bytes

Texts are compared character by character. In UTF-8 they may as well be compared byte by byte: a
larger character has a larger first byte, or one that differs from the other further on, and no
character is spelled with the first bytes of another one.

## Main definitions

* `utf8Bytes`: the bytes of a text;
* `Precedes`: one list is below another at the first place where they differ.

## Main results

* `precedes_utf8EncodeChar`: the bytes of a smaller character come first;
* `lt_iff_utf8Bytes_lt`: the order of texts is that of their bytes.
-/

namespace AliasReader

/-- The bytes of a text. -/
def utf8Bytes (text : String) : List UInt8 := text.toUTF8.data.toList

/-- The bytes of a text are those of its characters. -/
theorem utf8Bytes_eq (text : String) :
    utf8Bytes text = text.toList.flatMap String.utf8EncodeChar := by
  rw [utf8Bytes, String.toUTF8, ← String.utf8Encode_toList, List.utf8Encode,
    List.toList_data_toByteArray]

/-- The first list is below the second one at the first place where they differ, and this place lies
in both of them. -/
def Precedes : List UInt8 → List UInt8 → Prop
  | x :: xs, y :: ys => x < y ∨ x = y ∧ Precedes xs ys
  | _, _ => False

/-- Whatever follows, the list that is below the other one stays below it. -/
theorem Precedes.append_lt {xs ys : List UInt8} (h : Precedes xs ys) (xs' ys' : List UInt8) :
    xs ++ xs' < ys ++ ys' := by
  induction xs generalizing ys with
  | nil => exact absurd h (by simp [Precedes])
  | cons x xs ih =>
    cases ys with
    | nil => exact absurd h (by simp [Precedes])
    | cons y ys =>
      rw [List.cons_append, List.cons_append, List.cons_lt_cons_iff]
      exact h.imp_right fun ⟨heq, hrest⟩ => ⟨heq, ih hrest⟩

/-- The bytes of a smaller character come first. -/
theorem precedes_utf8EncodeChar {c d : Char} (h : c < d) :
    Precedes (String.utf8EncodeChar c) (String.utf8EncodeChar d) := by
  have hlt : c.val.toNat < d.val.toNat := h
  have hmax : d.val.toNat < 1114112 := by
    obtain hlow | ⟨-, hhigh⟩ := d.valid
    · exact Nat.lt_trans hlow (by decide)
    · exact hhigh
  unfold String.utf8EncodeChar
  generalize c.val.toNat = n at *
  generalize d.val.toNat = m at *
  -- a character with more bytes has a larger first byte; with as many, its digits are compared
  have hbyte (a b : Nat) : (UInt8.ofNat a < UInt8.ofNat b ↔ a % 256 < b % 256) ∧
      (UInt8.ofNat a = UInt8.ofNat b ↔ a % 256 = b % 256) := by
    simp [UInt8.lt_iff_toNat_lt, ← UInt8.toNat_inj]
  -- the digits are taken one after the other
  have hdigits (k : Nat) : k / 4096 = k / 64 / 64 ∧ k / 262144 = k / 64 / 64 / 64 := by
    simp [Nat.div_div_eq_div_mul]
  simp only [hdigits]
  -- one case for each size of either character
  repeat' split
  all_goals
    simp only [Precedes, hbyte, and_false, or_false]
    omega

/-- The bytes of a smaller text come first. -/
theorem flatMap_utf8EncodeChar_lt {cs ds : List Char} (h : cs < ds) :
    cs.flatMap String.utf8EncodeChar < ds.flatMap String.utf8EncodeChar := by
  have hlex := List.lex_lt.2 h
  clear h
  induction hlex with
  | @nil d ds =>
    -- some byte is there against none
    have hne : String.utf8EncodeChar d ≠ [] := String.utf8EncodeChar_ne_nil
    obtain ⟨byte, bytes, hbytes⟩ := List.exists_cons_of_ne_nil hne
    rw [List.flatMap_nil, List.flatMap_cons, hbytes]
    exact List.nil_lt_cons _ _
  | rel hlt =>
    rw [List.flatMap_cons, List.flatMap_cons]
    exact (precedes_utf8EncodeChar hlt).append_lt _ _
  | cons _ ih =>
    rw [List.flatMap_cons, List.flatMap_cons]
    exact List.append_left_lt ih

/-- Texts have the order of their bytes. -/
theorem lt_iff_utf8Bytes_lt (first second : String) :
    first < second ↔ utf8Bytes first < utf8Bytes second := by
  rw [String.lt_iff, utf8Bytes_eq, utf8Bytes_eq]
  refine ⟨flatMap_utf8EncodeChar_lt, fun hbytes => ?_⟩
  -- otherwise the second text would be the first one or a smaller one
  by_contra hnot
  obtain hless | hequal := List.le_iff_lt_or_eq.1 (List.not_lt.1 hnot)
  · exact List.lt_asymm hbytes (flatMap_utf8EncodeChar_lt hless)
  · rw [hequal] at hbytes
    exact List.lt_irrefl _ hbytes

end AliasReader
