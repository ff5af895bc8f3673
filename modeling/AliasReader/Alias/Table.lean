import AliasReader.Dictionary
import AliasReader.Namespace.Designator

/-!
# Alias Tables

The aliases of one namespace: a finite map from aliases to designators, in ascending order
of the aliases. Of several pairs with one alias the last one counts.
-/

namespace AliasReader

/-- The aliases of a namespace. -/
structure AliasTable where
  /-- The designator of each alias. -/
  designators : Dictionary String Designator
  /-- The aliases ascend strictly. -/
  ascending : designators.Ascending

namespace AliasTable

/-- The table without aliases. -/
def empty : AliasTable := ⟨.empty, List.Pairwise.nil⟩

/-- Put a designator under an alias. -/
def insert (table : AliasTable) (key : String) (designator : Designator) : AliasTable :=
  ⟨table.designators.insert key designator, table.ascending.insert key designator⟩

/-- The table of a list of pairs, of which later ones replace earlier ones. -/
def ofPairs (pairs : List (Designator × String)) : AliasTable :=
  pairs.foldl (fun table (designator, key) => table.insert key designator) empty

/-- The designator of an alias. -/
def find? (table : AliasTable) (key : String) : Option Designator :=
  table.designators.find? key

/-- The aliases and their designators in ascending order of the aliases. -/
def entries (table : AliasTable) : List (String × Designator) :=
  table.designators.entries

/-- The number of aliases. -/
def size (table : AliasTable) : Nat := table.designators.size

/-- Whether there is no alias. -/
def isEmpty (table : AliasTable) : Bool := table.entries.isEmpty

/-- Two tables with the same entries are equal. -/
theorem ext_entries {first second : AliasTable} (h : first.entries = second.entries) :
    first = second := by
  obtain ⟨⟨_⟩, _⟩ := first
  obtain ⟨⟨_⟩, _⟩ := second
  simpa [entries] using h

instance : DecidableEq AliasTable := fun first second =>
  if h : first.entries = second.entries then .isTrue (ext_entries h)
  else .isFalse fun heq => h (heq ▸ rfl)

end AliasTable

end AliasReader
