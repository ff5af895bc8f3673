import AliasReader.Alias.Reference
import AliasReader.Proofs.Text.ByteSearch
import Mathlib.Data.List.TakeWhile
import Mathlib.Tactic.Common

/-!
# The Grammar of References

A token is taken apart at its first colon, by looking at no more than the two characters behind the
alias. What comes out can be told without looking: `Reference.Spells` lists the two ways to write a
reference, and a token is read as a reference exactly when it is one of them. All other tokens have
no colon, or end with their first one.

The token may also be cut at byte offsets, that of the first colon and the one behind it.
`Reference.parseBytes?` does so, and gives up where a cut falls inside a character, which it never
does.

## Main definitions

* `Reference.Spells`: a token is a way to write a reference;
* `Reference.Unseparated`: a token has no alias and name;
* `Reference.parseBytes?`: taking a token apart in bytes.

## Main results

* `Reference.parse?_eq_some_iff` and `Reference.parse?_eq_none_iff`: what a token is read as;
* `Reference.parse_exact`: reading a token inverts writing a reference, in bytes, too.
-/

namespace AliasReader

namespace Reference

/-! ## Spellings -/

/-- The ways to write a reference. One colon is followed by a name that is not empty and does not
begin with a colon, two colons are followed by any name, the empty one included. -/
inductive Spells : Reference → List Char → Prop
  /-- One colon stands between alias and name. -/
  | single {qualifier name : List Char} {c : Char} : ':' ∉ qualifier → c ≠ ':' →
      Spells ⟨qualifier, false, c :: name⟩ (qualifier ++ ':' :: c :: name)
  /-- Two colons stand between alias and name. -/
  | double {qualifier name : List Char} : ':' ∉ qualifier →
      Spells ⟨qualifier, true, name⟩ (qualifier ++ ':' :: ':' :: name)

/-- A token has no colon, or its first colon is its last character. -/
def Unseparated (token : List Char) : Prop :=
  ':' ∉ token ∨ ∃ qualifier, ':' ∉ qualifier ∧ token = qualifier ++ [':']

variable {reference other : Reference} {token : List Char}

/-- The written form of a reference is the token that it is spelled by. -/
theorem Spells.write_eq (h : reference.Spells token) : reference.write = token := by
  cases h <;> rfl

/-- A reference is spelled by its written form if its alias has no colon and its name, behind one
colon, begins with another character. -/
theorem spells_write (hqualifier : ':' ∉ reference.qualifier)
    (hname : reference.any = false → ∃ c cs, reference.name = c :: cs ∧ c ≠ ':') :
    reference.Spells reference.write := by
  obtain ⟨qualifier, any, name⟩ := reference
  cases any with
  | true => exact .double hqualifier
  | false =>
    obtain ⟨c, cs, rfl, hc⟩ := hname rfl
    exact .single hqualifier hc

/-- Every token spells a reference or has none. -/
theorem exists_spells_or_unseparated (token : List Char) :
    (∃ reference : Reference, reference.Spells token) ∨ Unseparated token := by
  by_cases hcolon : ':' ∈ token
  · -- the token is split by its first colon, and what follows tells which way it is written
    obtain ⟨qualifier, behind, rfl, hqualifier⟩ := List.eq_append_cons_of_mem hcolon
    rcases behind with _ | ⟨c, name⟩
    · exact Or.inr (Or.inr ⟨qualifier, hqualifier, rfl⟩)
    · by_cases hc : c = ':'
      · subst hc
        exact Or.inl ⟨_, .double hqualifier⟩
      · exact Or.inl ⟨_, .single hqualifier hc⟩
  · exact Or.inr (Or.inl hcolon)

/-! ## Reading a token -/

theorem takeWhile_qualifier {qualifier : List Char} (h : ':' ∉ qualifier) (behind : List Char) :
    (qualifier ++ ':' :: behind).takeWhile (· ≠ ':') = qualifier ∧
      (qualifier ++ ':' :: behind).dropWhile (· ≠ ':') = ':' :: behind := by
  have hall : ∀ c ∈ qualifier, decide (c ≠ ':') = true := by
    intro c hc
    rw [decide_eq_true_eq]
    rintro rfl
    exact h hc
  rw [List.takeWhile_append_of_pos hall, List.dropWhile_append_of_pos hall]
  simp

theorem Spells.parse?_eq (h : reference.Spells token) : parse? token = some reference := by
  cases h with
  | @single qualifier name c hqualifier hc =>
    obtain ⟨htake, hdrop⟩ := takeWhile_qualifier hqualifier (c :: name)
    simp only [parse?, htake, hdrop]
    -- the name does not begin with a colon that could be taken for the second one
    simp [hc]
  | @double qualifier name hqualifier =>
    obtain ⟨htake, hdrop⟩ := takeWhile_qualifier hqualifier (':' :: name)
    simp only [parse?, htake, hdrop]

theorem Unseparated.parse?_eq (h : Unseparated token) : parse? token = none := by
  rcases h with hcolon | ⟨qualifier, hqualifier, rfl⟩
  · have hdrop : token.dropWhile (· ≠ ':') = [] := by
      simp only [List.dropWhile_eq_nil_iff, decide_eq_true_eq]
      rintro c hc rfl
      exact hcolon hc
    simp only [parse?, hdrop]
  · simp only [parse?, (takeWhile_qualifier hqualifier []).2]

/-- A token is read as the reference that it spells. -/
theorem parse?_eq_some_iff : parse? token = some reference ↔ reference.Spells token := by
  refine ⟨fun hparse => ?_, Spells.parse?_eq⟩
  rcases exists_spells_or_unseparated token with ⟨spelled, hspelled⟩ | hnone
  · obtain rfl := Option.some.inj (hspelled.parse?_eq.symm.trans hparse)
    exact hspelled
  · cases hnone.parse?_eq.symm.trans hparse

/-- A token is read as no reference when it has no alias and name. -/
theorem parse?_eq_none_iff : parse? token = none ↔ Unseparated token := by
  refine ⟨fun hparse => ?_, Unseparated.parse?_eq⟩
  rcases exists_spells_or_unseparated token with ⟨spelled, hspelled⟩ | hnone
  · cases hspelled.parse?_eq.symm.trans hparse
  · exact hnone

/-- A token spells one reference at most. -/
theorem Spells.unique (h : reference.Spells token) (hother : other.Spells token) :
    reference = other :=
  Option.some.inj (h.parse?_eq.symm.trans hother.parse?_eq)

/-! ## Cutting a token in bytes -/

/-- Take a token apart at byte offsets. The colon is the first one, if it is not the last byte; the
alias is cut off in front of it and the rest behind it, and a second colon is taken off the rest.
There is no answer when the token would be cut inside a character. -/
def parseBytes? (token : List Char) : Option (Option Reference) :=
  match (byteIndex? ':' token).filter (· + 1 < byteLength token) with
  | none => some none
  | some colon => do
      let (qualifier, _) ← splitAtByte? token colon
      let (_, rest) ← splitAtByte? token (colon + 1)
      match rest with
      | ':' :: name => return some ⟨qualifier, true, name⟩
      | name => return some ⟨qualifier, false, name⟩

/-- The two cuts at a colon fall between characters. -/
theorem splitAtByte?_colon (qualifier behind : List Char) :
    splitAtByte? (qualifier ++ ':' :: behind) (byteLength qualifier) =
        some (qualifier, ':' :: behind) ∧
      splitAtByte? (qualifier ++ ':' :: behind) (byteLength qualifier + 1) =
        some (qualifier ++ [':'], behind) := by
  have hcolon : byteLength (qualifier ++ [':']) = byteLength qualifier + 1 := byteLength_append _ _
  refine ⟨splitAtByte?_append _ _, ?_⟩
  rw [List.append_cons, ← hcolon]
  exact splitAtByte?_append _ _

/-- Where something stands behind the first colon, the token is cut there. -/
theorem parseBytes?_append {qualifier : List Char} (h : ':' ∉ qualifier) (c : Char)
    (name : List Char) :
    parseBytes? (qualifier ++ ':' :: c :: name) =
      some (some (if c = ':' then ⟨qualifier, true, name⟩ else ⟨qualifier, false, c :: name⟩)) := by
  have hbehind : byteLength qualifier + 1 < byteLength (qualifier ++ ':' :: c :: name) := by
    have hc := c.utf8Size_pos
    have hcolon : ':'.utf8Size = 1 := rfl
    simp only [byteLength_append, byteLength_cons, hcolon]
    omega
  obtain ⟨hfront, hrest⟩ := splitAtByte?_colon qualifier (c :: name)
  rw [parseBytes?, byteIndex?_append h, Option.filter_some, if_pos (by simpa using hbehind)]
  simp only [hfront, hrest]
  by_cases hc : c = ':'
  · subst hc
    rfl
  · simp [hc]

theorem Spells.parseBytes?_eq (h : reference.Spells token) :
    parseBytes? token = some (some reference) := by
  cases h with
  | single hqualifier hc => rw [parseBytes?_append hqualifier, if_neg hc]
  | double hqualifier => rw [parseBytes?_append hqualifier, if_pos rfl]

theorem Unseparated.parseBytes?_eq (h : Unseparated token) : parseBytes? token = some none := by
  rcases h with hcolon | ⟨qualifier, hqualifier, rfl⟩
  · rw [parseBytes?, byteIndex?_eq_none hcolon]
    rfl
  · -- the colon is the last byte
    have hlast : byteLength (qualifier ++ [':']) = byteLength qualifier + 1 :=
      byteLength_append _ _
    rw [parseBytes?, byteIndex?_append hqualifier, hlast, Option.filter_some, if_neg (by simp)]

/-- In bytes a token is never cut inside a character, and it is read as it is read by characters. -/
theorem parseBytes?_eq (token : List Char) : parseBytes? token = some (parse? token) := by
  rcases exists_spells_or_unseparated token with ⟨reference, hreference⟩ | hnone
  · rw [hreference.parseBytes?_eq, hreference.parse?_eq]
  · rw [hnone.parseBytes?_eq, hnone.parse?_eq]

/-! ## The grammar -/

theorem parse_eq_ok_iff {text : String} :
    parse text = .ok reference ↔ parse? text.toList = some reference := by
  unfold parse
  cases parse? text.toList <;> simp

/-- Reading a token is exact and can be undone. A token is read as a reference exactly when it
spells that reference; it spells no other one, and the reference is written as the token again.
Every other token is malformed, and has no colon, or ends with its first colon. In bytes a token is
never cut inside a character. -/
theorem parse_exact (text : String) :
    (∀ reference, parse text = .ok reference ↔ Spells reference text.toList) ∧
    (∀ reference other : Reference, reference.Spells text.toList → other.Spells text.toList →
      reference = other) ∧
    (∀ reference, parse text = .ok reference → String.ofList reference.write = text) ∧
    (∀ failure, parse text = .error failure ↔
      failure = .malformedReference ∧ Unseparated text.toList) ∧
    parseBytes? text.toList = some (parse? text.toList) := by
  refine ⟨fun reference => parse_eq_ok_iff.trans parse?_eq_some_iff,
    fun reference other h hother => h.unique hother, ?_, ?_, parseBytes?_eq _⟩
  · intro reference hparse
    have hspells := parse?_eq_some_iff.1 (parse_eq_ok_iff.1 hparse)
    rw [hspells.write_eq, String.ofList_toList]
  · intro failure
    rw [← parse?_eq_none_iff]
    unfold parse
    cases parse? text.toList <;> simp [eq_comm]

-- of three colons in a row two separate, and the third one belongs to the name
example : parse? "ü:::c".toList = some ⟨['ü'], true, [':', 'c']⟩ := by decide

end Reference

end AliasReader
