import AliasReader.Unicode.LetterCase

/-!
# Case Policies

A reader folds the letter case of a token before the token becomes a name. The policy says
how. Folding maps each character on its own, so it neither adds nor drops characters; the
`invert` policy alone first looks at the whole token.
-/

namespace AliasReader

/-- How the letter case of a token is folded. -/
inductive CasePolicy where
  /-- Every letter becomes uppercase. -/
  | upcase
  /-- Every letter becomes lowercase. -/
  | downcase
  /-- The token stays as written. -/
  | preserve
  /-- A token with letters of one case only changes to the other case; any other token
  stays as written. -/
  | invert
deriving DecidableEq, Repr

namespace CasePolicy

/-- All policies. -/
def all : List CasePolicy :=
  [upcase, downcase, preserve, invert]

/-- The name a user gives for a policy. -/
def name : CasePolicy → String
  | upcase => "upcase"
  | downcase => "downcase"
  | preserve => "preserve"
  | invert => "invert"

/-- The policy of a given name. -/
def ofName? (text : String) : Option CasePolicy :=
  all.find? fun policy => policy.name == text

/-- The policy as it appears in a description of a read table. -/
def inspect : CasePolicy → String
  | upcase => "Upcase"
  | downcase => "Downcase"
  | preserve => "Preserve"
  | invert => "Invert"

/-- Fold a list of characters. -/
def foldChars : CasePolicy → List Char → List Char
  | upcase, cs => cs.map Unicode.toUppercase
  | downcase, cs => cs.map Unicode.toLowercase
  | preserve, cs => cs
  | invert, cs =>
      match cs.any Unicode.isUppercase, cs.any Unicode.isLowercase with
      | true, false => cs.map Unicode.toLowercase
      | false, true => cs.map Unicode.toUppercase
      | _, _ => cs

/-- Fold a token. -/
def fold (policy : CasePolicy) (token : String) : String :=
  String.ofList (policy.foldChars token.toList)

/-- Every policy is found again under its own name. -/
theorem ofName?_name (policy : CasePolicy) : ofName? policy.name = some policy := by
  cases policy <;> decide

/-- Folding keeps the number of characters. -/
@[simp]
theorem length_foldChars (policy : CasePolicy) (cs : List Char) :
    (policy.foldChars cs).length = cs.length := by
  cases policy <;> simp only [foldChars, List.length_map]
  split <;> simp

/-- The characters of a folded token are the folded characters of the token. -/
@[simp]
theorem toList_fold (policy : CasePolicy) (token : String) :
    (policy.fold token).toList = policy.foldChars token.toList := by
  simp [fold]

/-- Folding a token that is not empty gives one that is not empty. -/
theorem fold_ne_empty (policy : CasePolicy) {token : String} (h : token ≠ "") :
    policy.fold token ≠ "" := by
  intro hfold
  have hlength := policy.length_foldChars token.toList
  rw [← toList_fold, hfold] at hlength
  exact h (String.toList_eq_nil_iff.1 (List.eq_nil_of_length_eq_zero hlength.symm))

end CasePolicy

end AliasReader
