import AliasReader.Proofs.Namespace.InternedTexts
import Mathlib.Data.List.Forall2

/-!
# Tables Keyed by Names

A hash table that is keyed by the handles of texts can stand for a dictionary that is keyed by the
texts themselves. It does so as long as no handle is taken for an entry before it is issued, also
when further texts are interned.

## Main definitions

* `Interner.Handles`: names are the handles of texts;
* `Keyed`: a table keyed by handles says what a dictionary keyed by texts says.

## Main results

* `Keyed.grow`: it goes on to do so when further texts are interned;
* `Keyed.insertAll` and `Keyed.eraseAll`: entries are put in and taken away in both.
-/

namespace AliasReader

instance : Hashable Name := ⟨fun name => hash name.index⟩

/-! ## Handles of texts -/

namespace Interner

variable {interner later : Interner} {text other : String} {name : Name}

/-- Different texts have different handles. -/
theorem get?_inj (h : interner.get? text = some name) (h' : interner.get? other = some name) :
    text = other :=
  Option.some.inj ((lookup?_of_get? h).symm.trans (lookup?_of_get? h'))

theorem ne_of_get? (h : interner.get? text = some name) {otherName : Name}
    (h' : interner.get? other = some otherName) (hne : other ≠ text) : name ≠ otherName := by
  rintro rfl
  exact hne (get?_inj h' h)

theorem index_lt_of_get? (h : interner.get? text = some name) : name.index < interner.size :=
  (List.getElem?_eq_some_iff.1 (lookup?_of_get? h)).1

/-- A text keeps its handle when further texts are interned. -/
theorem get?_of_grows (hgrows : interner.texts <+: later.texts)
    (h : interner.get? text = some name) : later.get? text = some name := by
  obtain ⟨more, hmore⟩ := hgrows
  obtain ⟨index, hfind, rfl⟩ := Option.map_eq_some_iff.1 h
  rw [get?, ← hmore, List.findIdx?_append, hfind]
  rfl

/-- A text that is interned has the handle that is told. -/
theorem get?_intern_self (interner : Interner) (text : String) :
    (interner.intern text).2.get? text = some (interner.intern text).1 := by
  unfold intern
  rcases hget : interner.get? text with _ | name
  · show (⟨interner.texts ++ [text]⟩ : Interner).get? text = _
    rw [get?_append hget, if_pos rfl]
    rfl
  · exact hget

/-- A further text has a further handle. -/
theorem size_le_index_of_grows (hgrows : interner.texts <+: later.texts)
    (h : interner.get? text = none) (h' : later.get? text = some name) :
    interner.size ≤ name.index := by
  obtain ⟨more, hmore⟩ := hgrows
  by_contra hless
  -- an earlier handle leads to an earlier text
  have hlookup := lookup?_of_get? h'
  rw [lookup?, ← hmore, List.getElem?_append_left (Nat.lt_of_not_le hless)] at hlookup
  exact (interner.get?_eq_none_iff text).1 h (List.mem_of_getElem? hlookup)

/-- Names are the handles of texts, in the same order. -/
def Handles (interner : Interner) (names : List Name) (texts : List String) : Prop :=
  List.Forall₂ (fun name text => interner.get? text = some name) names texts

theorem Handles.grow {names : List Name} {texts : List String} (h : interner.Handles names texts)
    (hgrows : interner.texts <+: later.texts) : later.Handles names texts :=
  List.Forall₂.imp (fun _ _ => get?_of_grows hgrows) h

end Interner

/-! ## Tables -/

/-- A table that is keyed by the handles of texts says what one says that is keyed by the texts. -/
structure Keyed {ν : Type} (texts : Interner) (byName : Std.HashMap Name ν)
    (byText : Dictionary String ν) : Prop where
  /-- A text has its entry under its handle, and no entry if it has no handle. -/
  find?_eq : ∀ text, ((texts.get? text).bind fun name => byName[name]?) = byText.find? text
  /-- Only handles of texts have entries. -/
  issued : ∀ name ∈ byName, name.index < texts.size

namespace Keyed

variable {ν : Type} {texts later : Interner} {byName : Std.HashMap Name ν}
  {byText : Dictionary String ν} {name : Name} {text : String}

theorem empty (texts : Interner) : Keyed texts (∅ : Std.HashMap Name ν) .empty where
  find?_eq text := by cases texts.get? text <;> simp
  issued name hname := absurd hname Std.HashMap.not_mem_empty

theorem getElem?_eq (h : Keyed texts byName byText) (hname : texts.get? text = some name) :
    byName[name]? = byText.find? text := by
  rw [← h.find?_eq, hname, Option.bind_some]

/-- Further texts have no entries yet. -/
theorem grow (h : Keyed texts byName byText) (hgrows : texts.texts <+: later.texts) :
    Keyed later byName byText where
  find?_eq text := by
    rw [← h.find?_eq]
    rcases hearlier : texts.get? text with _ | name
    · rcases hlater : later.get? text with _ | name
      · rfl
      · -- the handle was not issued yet when the entries were made
        have hnone : name ∉ byName := fun hmem =>
          Nat.not_lt_of_le (Interner.size_le_index_of_grows hgrows hearlier hlater)
            (h.issued name hmem)
        rw [Option.bind_some, Std.HashMap.getElem?_eq_none hnone, Option.bind_none]
    · rw [Interner.get?_of_grows hgrows hearlier]
  issued name hname := Nat.lt_of_lt_of_le (h.issued name hname) hgrows.length_le

theorem insert (h : Keyed texts byName byText) (hname : texts.get? text = some name) (value : ν) :
    Keyed texts (byName.insert name value) (byText.insert text value) where
  find?_eq other := by
    rw [Dictionary.find?_insert]
    split
    next hother =>
      subst hother
      rw [hname, Option.bind_some, Std.HashMap.getElem?_insert_self]
    next hother =>
      rw [← h.find?_eq]
      apply Option.bind_congr
      intro name' hname'
      have hne := Interner.ne_of_get? hname hname' hother
      rw [Std.HashMap.getElem?_insert, if_neg (by simpa using hne)]
  issued name' hmem := by
    rcases Std.HashMap.mem_insert.1 hmem with heq | hold
    · rw [← eq_of_beq heq]
      exact Interner.index_lt_of_get? hname
    · exact h.issued name' hold

theorem erase (h : Keyed texts byName byText) (hname : texts.get? text = some name) :
    Keyed texts (byName.erase name) (byText.erase text) where
  find?_eq other := by
    rw [Dictionary.find?_erase]
    split
    next hother =>
      subst hother
      rw [hname, Option.bind_some, Std.HashMap.getElem?_erase_self]
    next hother =>
      rw [← h.find?_eq]
      apply Option.bind_congr
      intro name' hname'
      have hne := Interner.ne_of_get? hname hname' hother
      rw [Std.HashMap.getElem?_erase, if_neg (by simpa using hne)]
  issued name' hmem := h.issued name' (Std.HashMap.mem_erase.1 hmem).2

/-- Entries are put under names as under their texts. -/
theorem insertAll {names : List Name} {given : List String} (hnames : texts.Handles names given)
    (h : Keyed texts byName byText) (value : ν) :
    Keyed texts (names.foldl (·.insert · value) byName)
      (given.foldl (·.insert · value) byText) := by
  induction hnames generalizing byName byText with
  | nil => exact h
  | cons hname _ ih => exact ih (h.insert hname value)

/-- Entries are taken away under names as under their texts. -/
theorem eraseAll {names : List Name} {given : List String} (hnames : texts.Handles names given)
    (h : Keyed texts byName byText) :
    Keyed texts (names.foldl Std.HashMap.erase byName) (given.foldl Dictionary.erase byText) := by
  induction hnames generalizing byName byText with
  | nil => exact h
  | cons hname _ ih => exact ih (h.erase hname)

end Keyed

end AliasReader
