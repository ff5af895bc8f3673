import AliasReader.Text.CasePolicy
import Mathlib

/-!
# Inverting the Case of ASCII Texts

The policy `invert` looks twice at a whole text before it maps a character. In an ASCII text the two
looks and the mapping fit together: a text with letters of both cases stays, and in every other text
each letter, if there is one, changes to the other case. Changing the case of every letter only
exchanges what the two looks see, so the same rule takes the change back.

Beyond ASCII letters are lost, as two letters may have the same form in the other case.

## Main definitions

* `CasePolicy.swapCase`: an ASCII letter in the other case;
* `CasePolicy.HasBothCases`: a text has letters of both cases;
* `CasePolicy.IsAscii`: a text consists of ASCII characters.

## Main results

* `Unicode.isUppercase_eq_isUpper`, `Unicode.toLowercase_eq_toLower` and the like: what the case
  tables say about ASCII characters;
* `CasePolicy.foldChars_invert_of_not_hasBothCases`: inverting an ASCII text swaps the case of its
  letters unless it has both cases;
* `CasePolicy.fold_invert_fold_invert`: inverting an ASCII text twice gives it back;
* `CasePolicy.fold_invert_injOn`: no two ASCII texts are inverted to the same text.
-/

namespace AliasReader

namespace Unicode

/-! ## ASCII characters in the case tables

The first entry of each table is the ASCII alphabet, and the second one lies beyond ASCII. -/

/-- A code point in front of the second run is in one of the runs only if it is in the first. -/
theorem hasRun_of_lt {first second : Run} {rest : List Run} {code : Nat}
    (h : code < second.first) : hasRun (first :: second :: rest) code = first.covers code := by
  rw [hasRun, hasRun, if_pos h, Bool.or_false]
  split
  next hlt => simp [Run.covers, Nat.not_le.2 hlt]
  next => rfl

/-- A character in front of the second run is mapped only if it is in the first. -/
theorem mapped_of_lt {first second : ShiftedRun} {rest : List ShiftedRun} {c : Char}
    (h : c.toNat < second.run.first) :
    mapped (first :: second :: rest) c =
      if first.run.covers c.toNat then Char.ofNat (c.toNat + first.shift).toNat else c := by
  have hshift : shiftOf? (first :: second :: rest) c.toNat =
      if first.run.covers c.toNat then some first.shift else none := by
    rw [shiftOf?, shiftOf?, if_pos h]
    split
    next hlt => simp [Run.covers, Nat.not_le.2 hlt]
    next => rfl
  rw [mapped, hshift]
  cases first.run.covers c.toNat <;> rfl

theorem isUpper_iff (c : Char) : c.isUpper = true ↔ 0x41 ≤ c.toNat ∧ c.toNat ≤ 0x5A := by
  simp [Char.isUpper, UInt32.le_iff_toNat_le]

theorem isLower_iff (c : Char) : c.isLower = true ↔ 0x61 ≤ c.toNat ∧ c.toNat ≤ 0x7A := by
  simp [Char.isLower, UInt32.le_iff_toNat_le]

/-- The uppercase letters of ASCII are a run of code points. -/
theorem covers_eq_isUpper (c : Char) : Run.covers ⟨0x41, 0x5A, 1⟩ c.toNat = c.isUpper := by
  rw [Bool.eq_iff_iff, isUpper_iff]
  simp [Run.covers, Nat.mod_one]

/-- The lowercase letters of ASCII are a run of code points. -/
theorem covers_eq_isLower (c : Char) : Run.covers ⟨0x61, 0x7A, 1⟩ c.toNat = c.isLower := by
  rw [Bool.eq_iff_iff, isLower_iff]
  simp [Run.covers, Nat.mod_one]

/-- The letters that core knows are ASCII characters. -/
theorem isAscii_of_isAlpha {c : Char} (h : c.isAlpha = true) : c.isAscii = true := by
  rw [Char.isAlpha, Bool.or_eq_true, isUpper_iff, isLower_iff] at h
  exact decide_eq_true (by omega)

section Ascii

variable {c : Char} (h : c.isAscii = true)

include h

theorem toNat_lt_of_isAscii : c.toNat < 128 := of_decide_eq_true h

theorem isUppercase_eq_isUpper : isUppercase c = c.isUpper := by
  -- the second run of uppercase characters starts at `À`
  have hlt : c.toNat < 0xC0 := (toNat_lt_of_isAscii h).trans (by decide)
  exact (hasRun_of_lt hlt).trans (covers_eq_isUpper c)

theorem isLowercase_eq_isLower : isLowercase c = c.isLower := by
  have hlt : c.toNat < 0xAA := (toNat_lt_of_isAscii h).trans (by decide)
  exact (hasRun_of_lt hlt).trans (covers_eq_isLower c)

theorem toUppercase_eq_toUpper : toUppercase c = c.toUpper := by
  have hlt : c.toNat < 0xB5 := (toNat_lt_of_isAscii h).trans (by decide)
  have hmapped : toUppercase c =
      if c.isLower then Char.ofNat (c.toNat + -32 : Int).toNat else c := by
    rw [← covers_eq_isLower]
    exact mapped_of_lt hlt
  rw [hmapped]
  split
  next hlower =>
    have hcode : (c.toNat + -32 : Int).toNat = c.toNat - 32 := by omega
    rw [Char.toUpper_eq_of_isLower hlower, hcode]
  next hlower => rw [Char.toUpper_eq_of_not_isLower hlower]

theorem toLowercase_eq_toLower : toLowercase c = c.toLower := by
  have hlt : c.toNat < 0xC0 := (toNat_lt_of_isAscii h).trans (by decide)
  have hmapped : toLowercase c =
      if c.isUpper then Char.ofNat (c.toNat + 32 : Int).toNat else c := by
    rw [← covers_eq_isUpper]
    exact mapped_of_lt hlt
  rw [hmapped]
  split
  next hupper =>
    have hcode : (c.toNat + 32 : Int).toNat = c.toNat + 32 := by omega
    rw [Char.toLower_eq_of_isUpper hupper, hcode]
  next hupper => rw [Char.toLower_eq_of_not_isUpper hupper]

end Ascii

end Unicode

namespace CasePolicy

/-! ## ASCII letters in the other case -/

/-- An ASCII letter in the other case, or any other character as it is. -/
def swapCase (c : Char) : Char :=
  if c.isUpper then c.toLower else c.toUpper

theorem swapCase_of_not_isUpper {c : Char} (h : ¬ c.isUpper) : swapCase c = c.toUpper :=
  if_neg h

theorem swapCase_of_not_isLower {c : Char} (h : ¬ c.isLower) : swapCase c = c.toLower := by
  by_cases hupper : c.isUpper = true
  · exact if_pos hupper
  · rw [swapCase_of_not_isUpper hupper, Char.toUpper_eq_of_not_isLower h,
      Char.toLower_eq_of_not_isUpper hupper]

/-- The letters that are uppercase in the end were lowercase. -/
@[simp]
theorem isUpper_swapCase (c : Char) : (swapCase c).isUpper = c.isLower := by
  by_cases hlower : c.isLower = true
  · rw [swapCase_of_not_isUpper (Char.not_isUpper_of_isLower hlower)]
    simp [Char.isAlpha, hlower]
  · rw [swapCase_of_not_isLower hlower]
    simp [hlower]

/-- The letters that are lowercase in the end were uppercase. -/
@[simp]
theorem isLower_swapCase (c : Char) : (swapCase c).isLower = c.isUpper := by
  by_cases hupper : c.isUpper = true
  · rw [swapCase_of_not_isLower (Char.not_isLower_of_isUpper hupper)]
    simp [Char.isAlpha, hupper]
  · rw [swapCase_of_not_isUpper hupper]
    simp [hupper]

/-- Letters have another form in the other case, and nothing else has. -/
theorem swapCase_eq_self_iff (c : Char) : swapCase c = c ↔ c.isAlpha = false := by
  constructor
  · intro hself
    -- a letter of either case would have the other case as well
    have hupper := isUpper_swapCase c
    rw [hself] at hupper
    by_cases hlower : c.isLower = true
    · exact absurd (hupper.trans hlower) (Char.not_isUpper_of_isLower hlower)
    · simp [Char.isAlpha, hupper, hlower]
  · intro halpha
    obtain ⟨hupper, hlower⟩ := Bool.or_eq_false_iff.1 halpha
    rw [swapCase_of_not_isUpper (by simp [hupper])]
    exact Char.toUpper_eq_of_not_isLower (by simp [hlower])

/-- Swapping the case of a character twice gives it back. -/
theorem swapCase_swapCase (c : Char) : swapCase (swapCase c) = c := by
  by_cases hupper : c.isUpper = true
  · -- the lowercase letter that it becomes is none of uppercase, and so is taken to uppercase
    have hlower := Char.not_isLower_of_isUpper hupper
    rw [swapCase_of_not_isUpper (by simpa using hlower), swapCase_of_not_isLower hlower,
      Char.toUpper_toLower_eq_toUpper, Char.toUpper_eq_of_not_isLower hlower]
  · rw [swapCase_of_not_isLower (by simpa using hupper), swapCase_of_not_isUpper hupper,
      Char.toLower_toUpper_eq_toLower, Char.toLower_eq_of_not_isUpper hupper]

/-- A character that was swapped is ASCII still, as letters are. -/
theorem isAscii_swapCase {c : Char} (h : c.isAscii = true) : (swapCase c).isAscii = true := by
  by_cases halpha : c.isAlpha = true
  · refine Unicode.isAscii_of_isAlpha ?_
    rwa [Char.isAlpha, isUpper_swapCase, isLower_swapCase, Bool.or_comm]
  · rwa [(swapCase_eq_self_iff c).2 (Bool.not_eq_true _ ▸ halpha)]

/-! ## Texts in the other case -/

/-- A text has letters of both cases. -/
def HasBothCases (cs : List Char) : Prop :=
  (∃ c ∈ cs, c.isUpper = true) ∧ ∃ c ∈ cs, c.isLower = true

/-- Swapping the case of every letter of a text exchanges its cases. -/
theorem hasBothCases_map_swapCase (cs : List Char) :
    HasBothCases (cs.map swapCase) ↔ HasBothCases cs := by
  simp [HasBothCases, and_comm]

/-- Swapping the case of the letters of a text leaves it only if there are none. -/
theorem map_swapCase_eq_self_iff (cs : List Char) :
    cs.map swapCase = cs ↔ ∀ c ∈ cs, c.isAlpha = false :=
  calc cs.map swapCase = cs
    _ ↔ cs.map swapCase = cs.map id := by rw [List.map_id]
    _ ↔ ∀ c ∈ cs, swapCase c = c := List.map_inj_left
    _ ↔ ∀ c ∈ cs, c.isAlpha = false := forall₂_congr fun c _ => swapCase_eq_self_iff c

/-- Inverting leaves a text with characters of both cases or of neither, whether ASCII or not. -/
theorem foldChars_invert_of_any_eq {cs : List Char}
    (h : cs.any Unicode.isUppercase = cs.any Unicode.isLowercase) : invert.foldChars cs = cs := by
  rw [foldChars, h]
  cases cs.any Unicode.isLowercase <;> rfl

theorem any_congr_of_mem {cs : List Char} {p q : Char → Bool} (h : ∀ c ∈ cs, p c = q c) :
    cs.any p = cs.any q := by
  rw [Bool.eq_iff_iff, List.any_eq_true, List.any_eq_true]
  refine exists_congr fun c => and_congr_right fun hc => ?_
  rw [h c hc]

section Ascii

variable {cs : List Char} (h : ∀ c ∈ cs, c.isAscii = true)

include h

theorem any_isUppercase : cs.any Unicode.isUppercase = cs.any Char.isUpper :=
  any_congr_of_mem fun c hc => Unicode.isUppercase_eq_isUpper (h c hc)

theorem any_isLowercase : cs.any Unicode.isLowercase = cs.any Char.isLower :=
  any_congr_of_mem fun c hc => Unicode.isLowercase_eq_isLower (h c hc)

/-- Inverting an ASCII text with letters of both cases leaves it. -/
theorem foldChars_invert_of_hasBothCases (hboth : HasBothCases cs) : invert.foldChars cs = cs := by
  have hupper : cs.any Char.isUpper = true := List.any_eq_true.2 hboth.1
  have hlower : cs.any Char.isLower = true := List.any_eq_true.2 hboth.2
  refine foldChars_invert_of_any_eq ?_
  rw [any_isUppercase h, any_isLowercase h, hupper, hlower]

/-- Inverting any other ASCII text swaps the case of its letters, of which there may be none. -/
theorem foldChars_invert_of_not_hasBothCases (hboth : ¬ HasBothCases cs) :
    invert.foldChars cs = cs.map swapCase := by
  rw [foldChars, any_isUppercase h, any_isLowercase h]
  cases hupper : cs.any Char.isUpper with
  | true =>
    -- there is no lowercase letter, so that the change to lowercase swaps all letters
    have hlower : cs.any Char.isLower = false := by
      by_contra hne
      rw [Bool.not_eq_false] at hne
      exact hboth ⟨List.any_eq_true.1 hupper, List.any_eq_true.1 hne⟩
    rw [hlower]
    refine List.map_congr_left fun c hc => ?_
    rw [swapCase_of_not_isLower (List.any_eq_false.1 hlower c hc),
      Unicode.toLowercase_eq_toLower (h c hc)]
  | false =>
    have hnone := List.any_eq_false.1 hupper
    cases hlower : cs.any Char.isLower with
    | true =>
      refine List.map_congr_left fun c hc => ?_
      rw [swapCase_of_not_isUpper (hnone c hc), Unicode.toUppercase_eq_toUpper (h c hc)]
    | false =>
      -- without letters there is nothing to swap, and nothing is mapped
      refine ((map_swapCase_eq_self_iff cs).2 fun c hc => ?_).symm
      simp [Char.isAlpha, hnone c hc, List.any_eq_false.1 hlower c hc]

/-- Inverting an ASCII text twice gives it back. -/
theorem foldChars_invert_foldChars_invert : invert.foldChars (invert.foldChars cs) = cs := by
  by_cases hboth : HasBothCases cs
  · rw [foldChars_invert_of_hasBothCases h hboth, foldChars_invert_of_hasBothCases h hboth]
  · -- the swapped text has both cases no more than the text, and is swapped back
    have hascii : ∀ c ∈ cs.map swapCase, c.isAscii = true := by
      intro d hd
      obtain ⟨c, hc, rfl⟩ := List.mem_map.1 hd
      exact isAscii_swapCase (h c hc)
    have hswapped : ¬ HasBothCases (cs.map swapCase) := by
      rwa [hasBothCases_map_swapCase]
    rw [foldChars_invert_of_not_hasBothCases h hboth,
      foldChars_invert_of_not_hasBothCases hascii hswapped, List.map_map]
    exact (List.map_congr_left fun c _ => swapCase_swapCase c).trans (List.map_id cs)

/-- Exactly the ASCII texts with letters of both cases or without letters are left by inverting. -/
theorem foldChars_invert_eq_self_iff :
    invert.foldChars cs = cs ↔ HasBothCases cs ∨ ∀ c ∈ cs, c.isAlpha = false := by
  by_cases hboth : HasBothCases cs
  · exact iff_of_true (foldChars_invert_of_hasBothCases h hboth) (Or.inl hboth)
  · rw [foldChars_invert_of_not_hasBothCases h hboth, or_iff_right hboth]
    exact map_swapCase_eq_self_iff cs

end Ascii

/-! ## Strings -/

/-- A text consists of ASCII characters. -/
def IsAscii (text : String) : Prop :=
  ∀ c ∈ text.toList, c.isAscii = true

instance (text : String) : Decidable (IsAscii text) :=
  List.decidableBAll (fun c : Char => c.isAscii = true) text.toList

/-- Inverting an ASCII text twice gives it back. -/
theorem fold_invert_fold_invert {text : String} (h : IsAscii text) :
    invert.fold (invert.fold text) = text := by
  rw [fold, toList_fold, foldChars_invert_foldChars_invert h, String.ofList_toList]

-- the long s is a lowercase letter, and its uppercase form is that of another one
example : invert.fold (invert.fold "ſ") = "s" := by decide

/-- ASCII texts that are inverted to the same text are the same. -/
theorem fold_invert_injOn : Set.InjOn invert.fold {text | IsAscii text} := by
  intro text htext other hother heq
  rw [← fold_invert_fold_invert htext, heq, fold_invert_fold_invert hother]

/-- A folded text is the text if its characters are. -/
theorem fold_eq_self_iff_foldChars (policy : CasePolicy) (text : String) :
    policy.fold text = text ↔ policy.foldChars text.toList = text.toList := by
  rw [← String.toList_inj, toList_fold]

end CasePolicy

end AliasReader
