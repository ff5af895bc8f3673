import AliasReader.Text.CasePolicy
import AliasReader.Proofs.Unicode.CaseMapping

/-!
# Folding Character by Character

Every policy but `invert` folds each character on its own. Such a folding changes nothing the
second time and keeps the colons of a text where they are.
This is what lets an alias that was folded alone meet an alias that was folded inside a
reference.

## Main results

* `CasePolicy.foldChars_eq_map`: folding a text folds its characters;
* `CasePolicy.fold_fold`: folding a folded text changes nothing;
* `CasePolicy.colon_mem_foldChars_iff`: folding makes no colon and takes none away.
-/

namespace AliasReader

namespace CasePolicy

/-- Fold one character; the policy `invert` decides on no character alone. -/
def foldChar : CasePolicy → Char → Char
  | upcase, c => Unicode.toUppercase c
  | downcase, c => Unicode.toLowercase c
  | preserve, c => c
  | invert, c => c

/-- Folding a folded character changes nothing. -/
theorem foldChar_foldChar (policy : CasePolicy) (c : Char) :
    policy.foldChar (policy.foldChar c) = policy.foldChar c := by
  cases policy with
  | upcase => exact Unicode.separated_uppercaseShifts.mapped_mapped c
  | downcase => exact Unicode.separated_lowercaseShifts.mapped_mapped c
  | preserve => rfl
  | invert => rfl

/-- A character is folded to the colon only if it is the colon. -/
theorem foldChar_eq_colon_iff (policy : CasePolicy) (c : Char) :
    policy.foldChar c = ':' ↔ c = ':' := by
  cases policy with
  | upcase => exact Unicode.separated_uppercaseShifts.mapped_eq_colon_iff c
  | downcase => exact Unicode.separated_lowercaseShifts.mapped_eq_colon_iff c
  | preserve => rfl
  | invert => rfl

variable {policy : CasePolicy} (h : policy ≠ .invert)

include h

/-- Folding a text folds its characters. -/
theorem foldChars_eq_map (cs : List Char) : policy.foldChars cs = cs.map policy.foldChar := by
  cases policy with
  | upcase => rfl
  | downcase => rfl
  | preserve => exact (List.map_id cs).symm
  | invert => exact absurd rfl h

theorem foldChars_foldChars (cs : List Char) :
    policy.foldChars (policy.foldChars cs) = policy.foldChars cs := by
  rw [foldChars_eq_map h, foldChars_eq_map h, List.map_map]
  exact List.map_congr_left fun c _ => foldChar_foldChar policy c

/-- Folding a folded text changes nothing. -/
theorem fold_fold (token : String) : policy.fold (policy.fold token) = policy.fold token := by
  rw [fold, toList_fold, foldChars_foldChars h, fold]

/-- A folded text holds a colon only if the text does. -/
theorem colon_mem_foldChars_iff (cs : List Char) : ':' ∈ policy.foldChars cs ↔ ':' ∈ cs := by
  rw [foldChars_eq_map h, List.mem_map]
  constructor
  · -- a character that is folded to the colon is the colon
    rintro ⟨c, hmem, hc⟩
    obtain rfl := (foldChar_eq_colon_iff policy c).1 hc
    exact hmem
  · intro hmem
    exact ⟨':', hmem, (foldChar_eq_colon_iff policy ':').2 rfl⟩

end CasePolicy

end AliasReader
