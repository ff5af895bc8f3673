/-!
# Dictionaries

Finite maps kept as lists of key and value in ascending order of the keys. Putting a value
under a key replaces the value that was there. The lookup equations below hold of every
list; the order makes the list of entries canonical.

## Main definitions

* `Dictionary`: the list of entries;
* `Dictionary.find?`, `Dictionary.insert` and `Dictionary.erase`;
* `Dictionary.Ascending`: the keys ascend strictly.

## Main results

* `Dictionary.find?_insert` and `Dictionary.find?_erase`: the lookup equations;
* `Dictionary.Ascending.insert`: putting a value under a key keeps the order.
-/

namespace AliasReader

/-- A finite map from keys to values. -/
structure Dictionary (κ ν : Type) where
  /-- The keys and their values. -/
  entries : List (κ × ν)
deriving DecidableEq, Repr

namespace Dictionary

variable {κ ν : Type}

/-- The dictionary without entries. -/
def empty : Dictionary κ ν := ⟨[]⟩

/-- The number of entries. -/
def size (d : Dictionary κ ν) : Nat := d.entries.length

/-- The keys in ascending order. -/
def keys (d : Dictionary κ ν) : List κ := d.entries.map Prod.fst

/-- The keys ascend strictly. -/
def Ascending [LT κ] (d : Dictionary κ ν) : Prop :=
  d.entries.Pairwise fun e f => e.1 < f.1

variable [DecidableEq κ]

/-- The value of the first entry with the key `k`. -/
def lookup (k : κ) : List (κ × ν) → Option ν
  | [] => none
  | (key, value) :: rest => if key = k then some value else lookup k rest

/-- The value under a key. -/
def find? (d : Dictionary κ ν) (k : κ) : Option ν := lookup k d.entries

/-- Whether there is a value under a key. -/
def contains (d : Dictionary κ ν) (k : κ) : Bool := (d.find? k).isSome

/-- The dictionary without the entries under a key. -/
def erase (d : Dictionary κ ν) (k : κ) : Dictionary κ ν :=
  ⟨d.entries.filter fun e => e.1 ≠ k⟩

variable [LT κ] [DecidableLT κ]

/-- Put an entry in front of the first larger key, or in place of the entry with its
key. -/
def place (k : κ) (v : ν) : List (κ × ν) → List (κ × ν)
  | [] => [(k, v)]
  | (key, value) :: rest =>
      if key = k then (k, v) :: rest
      else if k < key then (k, v) :: (key, value) :: rest
      else (key, value) :: place k v rest

/-- Put a value under a key. -/
def insert (d : Dictionary κ ν) (k : κ) (v : ν) : Dictionary κ ν :=
  ⟨place k v d.entries⟩

omit [LT κ] [DecidableLT κ] in
@[simp]
theorem find?_empty (k : κ) : (empty : Dictionary κ ν).find? k = none := rfl

/-- The value last put under a key is found there. -/
@[simp]
theorem find?_insert_self (d : Dictionary κ ν) (k : κ) (v : ν) :
    (d.insert k v).find? k = some v := by
  obtain ⟨entries⟩ := d
  simp only [find?, insert]
  induction entries with
  | nil => simp [place, lookup]
  | cons e rest ih =>
    obtain ⟨key, value⟩ := e
    by_cases hkey : key = k
    · simp [place, lookup, hkey]
    · by_cases hlt : k < key <;> simp [place, lookup, hkey, hlt, ih]

/-- Putting a value under one key changes no other key. -/
theorem find?_insert_of_ne (d : Dictionary κ ν) {k j : κ} (v : ν) (h : j ≠ k) :
    (d.insert k v).find? j = d.find? j := by
  obtain ⟨entries⟩ := d
  simp only [find?, insert]
  induction entries with
  | nil => simp [place, lookup, Ne.symm h]
  | cons e rest ih =>
    obtain ⟨key, value⟩ := e
    by_cases hkey : key = k
    · subst hkey; simp [place, lookup, Ne.symm h]
    · by_cases hlt : k < key
      · simp [place, lookup, hkey, hlt, Ne.symm h]
      · simp [place, lookup, hkey, hlt, ih]

/-- The lookup equation of `insert`. -/
theorem find?_insert (d : Dictionary κ ν) (k j : κ) (v : ν) :
    (d.insert k v).find? j = if j = k then some v else d.find? j := by
  split
  next h => simp [h]
  next h => exact d.find?_insert_of_ne v h

omit [LT κ] [DecidableLT κ] in
/-- The lookup equation of `erase`. -/
theorem find?_erase (d : Dictionary κ ν) (k j : κ) :
    (d.erase k).find? j = if j = k then none else d.find? j := by
  obtain ⟨entries⟩ := d
  simp only [find?, erase]
  induction entries with
  | nil => simp [lookup]
  | cons e rest ih =>
    obtain ⟨key, value⟩ := e
    by_cases hkey : key = k
    · by_cases hj : j = k
      · simpa [List.filter_cons, lookup, hkey, hj] using ih
      · have : k ≠ j := fun h => hj h.symm
        simpa [List.filter_cons, lookup, hkey, hj, this] using ih
    · by_cases hj : key = j
      · subst hj; simp [lookup, hkey]
      · simpa [List.filter_cons, lookup, hkey, hj] using ih

/-- An entry found after placing one is that one or an earlier one. -/
theorem mem_place (k : κ) (v : ν) (entries : List (κ × ν)) {e : κ × ν}
    (h : e ∈ place k v entries) : e = (k, v) ∨ e ∈ entries := by
  induction entries with
  | nil => simpa [place] using h
  | cons f rest ih =>
    obtain ⟨key, value⟩ := f
    rw [place] at h
    split at h
    next => rcases List.mem_cons.1 h with h | h <;> simp [h]
    next =>
      split at h
      next => rcases List.mem_cons.1 h with h | h <;> simp [h]
      next =>
        rcases List.mem_cons.1 h with h | h
        · simp [h]
        · rcases ih h with h | h <;> simp [h]

section Order

variable [Std.Trichotomous (α := κ) (· < ·)] [Trans (α := κ) (· < ·) (· < ·) (· < ·)]

/-- Putting a value under a key keeps the keys in ascending order. -/
theorem Ascending.insert {d : Dictionary κ ν} (h : d.Ascending) (k : κ) (v : ν) :
    (d.insert k v).Ascending := by
  obtain ⟨entries⟩ := d
  simp only [Ascending, Dictionary.insert] at *
  induction entries with
  | nil => simp [place]
  | cons e rest ih =>
    obtain ⟨key, value⟩ := e
    obtain ⟨hhead, htail⟩ := List.pairwise_cons.1 h
    rw [place]
    split
    next heq =>
      subst heq
      exact List.pairwise_cons.2 ⟨hhead, htail⟩
    next hne =>
      split
      next hlt =>
        refine List.pairwise_cons.2 ⟨fun f hf => ?_, h⟩
        rcases List.mem_cons.1 hf with rfl | hf
        · exact hlt
        · exact Trans.trans hlt (hhead f hf)
      next hge =>
        have hlt : key < k :=
          (Classical.byContradiction fun hnot =>
            hne (Std.Trichotomous.trichotomous key k hnot hge))
        refine List.pairwise_cons.2 ⟨fun f hf => ?_, ih htail⟩
        rcases mem_place k v rest hf with rfl | hf
        · exact hlt
        · exact hhead f hf

end Order

end Dictionary

end AliasReader
