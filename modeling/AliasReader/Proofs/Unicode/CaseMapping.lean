import AliasReader.Unicode.LetterCase
import Mathlib.Tactic.Common

/-!
# Case Mappings of Characters

The case mappings are tables of runs. What is needed of them is that no image is mapped any
further and that the colon stays apart from the letters. Both are facts about the code points
that a table mentions, so they are checked once on sets of code points kept as bits of a number.

## Main results

* `Unicode.Separated.mapped_mapped`: mapping an image again changes nothing;
* `Unicode.Separated.mapped_eq_colon_iff`: the colon is the image of itself only;
* `Unicode.separated_uppercaseShifts` and `Unicode.separated_lowercaseShifts`: both tables are
  separated.
-/

namespace AliasReader.Unicode

/-! ## Sets of code points -/

/-- The number whose set bits are the members of a list. -/
def bitSet (codes : List Nat) : Nat :=
  codes.foldr (fun code bits => 1 <<< code ||| bits) 0

/-- The set bits of a set are its members. -/
theorem testBit_bitSet (codes : List Nat) (code : Nat) :
    (bitSet codes).testBit code = decide (code ∈ codes) := by
  induction codes with
  | nil => simp [bitSet]
  | cons first rest ih =>
    have hcons : bitSet (first :: rest) = 1 <<< first ||| bitSet rest := rfl
    rw [hcons, Nat.testBit_or, Nat.one_shiftLeft, Nat.testBit_two_pow, ih]
    simp [List.mem_cons, eq_comm]

/-- Sets with no bit in common have no member in common. -/
theorem disjoint_of_bitSet {codes others : List Nat} (h : bitSet codes &&& bitSet others = 0)
    {code : Nat} (hcode : code ∈ codes) : code ∉ others := by
  intro hother
  have hbit : (bitSet codes &&& bitSet others).testBit code = true := by
    rw [Nat.testBit_and, testBit_bitSet, testBit_bitSet]
    simp [hcode, hother]
  simp [h] at hbit

/-! ## The code points of a table -/

/-- The code points of a run. -/
def Run.codes (run : Run) : List Nat :=
  (List.range ((run.last - run.first) / run.step + 1)).map (run.first + run.step * ·)

/-- The code points to which the members of a run are mapped. -/
def ShiftedRun.images (entry : ShiftedRun) : List Nat :=
  entry.run.codes.map fun code : Nat => (code + entry.shift).toNat

/-- The code points that a table maps. -/
def domain (table : List ShiftedRun) : List Nat :=
  table.flatMap (·.run.codes)

/-- The code points to which a table maps. -/
def range (table : List ShiftedRun) : List Nat :=
  table.flatMap ShiftedRun.images

/-- A code point that a run covers is one of its members. -/
theorem Run.mem_codes {run : Run} {code : Nat} (h : run.covers code = true) :
    code ∈ run.codes := by
  simp only [covers, Bool.and_eq_true, decide_eq_true_eq, beq_iff_eq] at h
  obtain ⟨⟨hfirst, hlast⟩, hstep⟩ := h
  -- the code point is that many steps behind the first one
  refine List.mem_map.2 ⟨(code - run.first) / run.step, List.mem_range.2 ?_, ?_⟩
  · have hle := @Nat.div_le_div_right _ _ run.step (Nat.sub_le_sub_right hlast run.first)
    omega
  · have hdiv := Nat.div_add_mod (code - run.first) run.step
    omega

/-- A code point with a shift is mapped by the table, and its image is where the shift leads. -/
theorem mem_of_shiftOf? {table : List ShiftedRun} {code : Nat} {shift : Int}
    (h : shiftOf? table code = some shift) :
    code ∈ domain table ∧ (code + shift).toNat ∈ range table := by
  induction table with
  | nil => simp [shiftOf?] at h
  | cons entry rest ih =>
    rw [shiftOf?] at h
    split at h
    · -- the runs are in order, so the code point lies before all of them
      cases h
    · split at h
      next hcovers =>
        obtain rfl := Option.some.inj h
        have hcode := Run.mem_codes hcovers
        have himage : (code + entry.shift).toNat ∈ entry.images :=
          List.mem_map.2 ⟨code, hcode, rfl⟩
        simp [domain, range, hcode, himage]
      next =>
        obtain ⟨hdomain, hrange⟩ := ih h
        exact ⟨List.mem_append_right _ hdomain, List.mem_append_right _ hrange⟩

/-! ## Separated tables -/

/-- A table maps no image, and the colon is neither mapped nor an image. The null character,
which stands for code points that no character has, is not mapped either. -/
structure Separated (table : List ShiftedRun) : Prop where
  /-- No mapped code point is null, the colon or an image. -/
  disjoint : bitSet (domain table) &&& bitSet (0 :: ':'.toNat :: range table) = 0
  /-- The colon is no image. -/
  colon : ':'.toNat ∉ range table

/-- The code point of a character that was made from a code point is that code point or null. -/
theorem toNat_ofNat (code : Nat) :
    (Char.ofNat code).toNat = code ∨ (Char.ofNat code).toNat = 0 := by
  by_cases h : code.isValidChar
  · have hvalid : Char.ofNat code = Char.ofNatAux code h := dif_pos h
    rw [hvalid]
    exact Or.inl rfl
  · exact Or.inr (by simp [Char.ofNat, h])

namespace Separated

variable {table : List ShiftedRun} (h : Separated table)

include h

/-- Null, the colon and the images are mapped to themselves. -/
theorem shiftOf?_eq_none {code : Nat} (hcode : code ∈ 0 :: ':'.toNat :: range table) :
    shiftOf? table code = none := by
  cases hshift : shiftOf? table code with
  | none => rfl
  | some shift => exact absurd hcode (disjoint_of_bitSet h.disjoint (mem_of_shiftOf? hshift).1)

/-- Mapping an image again changes nothing. -/
theorem mapped_mapped (c : Char) : mapped table (mapped table c) = mapped table c := by
  cases hshift : shiftOf? table c.toNat with
  | none => rw [mapped_eq_self hshift, mapped_eq_self hshift]
  | some shift =>
    have hrange := (mem_of_shiftOf? hshift).2
    have hmapped : mapped table c = Char.ofNat (c.toNat + shift).toNat := by simp [mapped, hshift]
    rw [hmapped]
    refine mapped_eq_self (h.shiftOf?_eq_none ?_)
    -- an image that is no character has become the null character
    rcases toNat_ofNat (c.toNat + shift).toNat with hcode | hcode
    · rw [hcode]
      exact List.mem_cons_of_mem _ (List.mem_cons_of_mem _ hrange)
    · rw [hcode]
      exact List.mem_cons_self

/-- The colon is the image of itself only. -/
theorem mapped_eq_colon_iff (c : Char) : mapped table c = ':' ↔ c = ':' := by
  constructor
  · intro hcolon
    cases hshift : shiftOf? table c.toNat with
    | none => rwa [mapped_eq_self hshift] at hcolon
    | some shift =>
      have hrange := (mem_of_shiftOf? hshift).2
      have hcode : (Char.ofNat (c.toNat + shift).toNat).toNat = ':'.toNat := by
        rw [← hcolon]
        simp [mapped, hshift]
      rcases toNat_ofNat (c.toNat + shift).toNat with hsame | hnull
      · rw [← hsame, hcode] at hrange
        exact absurd hrange h.colon
      · rw [hnull] at hcode
        exact absurd hcode (by decide)
  · rintro rfl
    exact mapped_eq_self (h.shiftOf?_eq_none (by simp))

end Separated

/-! ## The two tables -/

/-- Uppercase forms are not mapped any further, and the colon stays apart. -/
theorem separated_uppercaseShifts : Separated uppercaseShifts where
  -- one conjunction of two large numbers in place of a search for each code point
  disjoint := by decide +kernel
  colon := by decide +kernel

/-- Lowercase forms are not mapped any further, and the colon stays apart. -/
theorem separated_lowercaseShifts : Separated lowercaseShifts where
  disjoint := by decide +kernel
  colon := by decide +kernel

end AliasReader.Unicode
