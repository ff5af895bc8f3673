import AliasReader.Source.Cursor
import Mathlib.Tactic.Common

/-!
# Walks of a Cursor

What a cursor does when the characters in front of it are known: how far a run reaches, and
where the cursor stands behind a number of characters.
-/

namespace AliasReader

namespace Cursor

theorem remaining_of_peek? {cursor : Cursor} {c : Char} (h : cursor.peek? = some c) :
    cursor.remaining = c :: cursor.remaining.tail := by
  unfold peek? at h
  cases hremaining : cursor.remaining with
  | nil => simp [hremaining] at h
  | cons d cs =>
    obtain rfl : d = c := by simpa [hremaining] using h
    rfl

theorem remaining_of_isAtEnd {cursor : Cursor} (h : cursor.isAtEnd = true) :
    cursor.remaining = [] := by
  rwa [isAtEnd, peek?, Option.isNone_iff_eq_none, List.head?_eq_none_iff] at h

theorem isAtEnd_of_remaining {cursor : Cursor} (h : cursor.remaining = []) :
    cursor.isAtEnd = true := by
  rw [isAtEnd, peek?, h]
  rfl

theorem exists_peek?_of_isAtEnd {cursor : Cursor} (h : cursor.isAtEnd = false) :
    ∃ c, cursor.peek? = some c := by
  rwa [isAtEnd, Option.isNone_eq_false_iff, Option.isSome_iff_exists] at h

/-- A cursor before a character outside the run stays where it is. -/
theorem skipWhile_eq_self {cursor : Cursor} {p : Char → Bool}
    (h : ∀ c ∈ cursor.peek?, p c = false) : cursor.skipWhile p = cursor := by
  have htake : cursor.remaining.takeWhile p = [] := by
    unfold peek? at h
    cases hremaining : cursor.remaining with
    | nil => rfl
    | cons c cs =>
      have hc : p c = false := h c (by simp [hremaining])
      simp [hc]
  rw [skipWhile, htake]
  rfl

/-- A run in front of a character outside it is taken as a whole. -/
theorem takeWhile_of_append {cursor : Cursor} {p : Char → Bool} {run rest : List Char}
    (h : cursor.remaining = run ++ rest) (hrun : ∀ c ∈ run, p c = true)
    (hrest : ∀ c ∈ rest.head?, p c = false) :
    cursor.takeWhile p = (run, cursor.drop run.length) := by
  have hstop : rest.takeWhile p = [] := by
    cases rest with
    | nil => rfl
    | cons c cs =>
      have hc : p c = false := hrest c (by simp)
      simp [hc]
  have htake : cursor.remaining.takeWhile p = run := by
    rw [h, List.takeWhile_append_of_pos hrun, hstop, List.append_nil]
  rw [takeWhile, skipWhile, htake]

/-- A cursor behind a run stands before a character outside it. -/
theorem eq_false_of_peek?_skipWhile {cursor : Cursor} {p : Char → Bool} {c : Char}
    (h : (cursor.skipWhile p).peek? = some c) : p c = false := by
  rw [peek?, remaining_skipWhile] at h
  have hhead := List.head?_dropWhile_not p cursor.remaining
  simpa [h] using hhead

end Cursor

end AliasReader
