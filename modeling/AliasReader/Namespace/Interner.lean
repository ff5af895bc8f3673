import AliasReader.Namespace.Handle

/-!
# Interner

An interner gives every text one handle. Handles are issued in the order in which texts
first occur; the empty text is there from the start under the handle `Name.empty`. There is a
handle for any number of texts here. `IndexedInterner` is the interner with a limit, the number
of handles in 32 bits, and stops the program beyond it.
-/

namespace AliasReader

/-- The interned texts, in the order of their handles. -/
structure Interner where
  /-- The text of each handle. -/
  texts : List String
deriving DecidableEq, Repr

namespace Interner

/-- The interner that holds the empty text only. -/
def new : Interner := ⟨[""]⟩

/-- The handle of a text that is interned already. -/
def get? (interner : Interner) (text : String) : Option Name :=
  (interner.texts.findIdx? (· = text)).map Name.mk

/-- The text of a handle. -/
def lookup? (interner : Interner) (name : Name) : Option String :=
  interner.texts[name.index]?

/-- The handle of a text, which is interned if it is new. -/
def intern (interner : Interner) (text : String) : Name × Interner :=
  match interner.get? text with
  | some name => (name, interner)
  | none => (⟨interner.texts.length⟩, ⟨interner.texts ++ [text]⟩)

/-- The interner with all the given texts interned in order. -/
def internAll (interner : Interner) (texts : List String) : Interner :=
  texts.foldl (fun interner text => (interner.intern text).2) interner

/-- The number of interned texts, the empty one included. -/
def size (interner : Interner) : Nat := interner.texts.length

/-- Whether no text but the empty one is interned. -/
def isEmpty (interner : Interner) : Bool := interner.size ≤ 1

/-- The interner as it appears in a description. -/
def inspect (interner : Interner) : String :=
  "StringInterner \x7b len: " ++ toString interner.size ++ " \x7d"

/-- The empty text has the first handle of a new interner. -/
theorem get?_new_empty : new.get? "" = some Name.empty := by decide

/-- A text that has a handle keeps it when it is interned again. -/
theorem intern_of_get? {interner : Interner} {text : String} {name : Name}
    (h : interner.get? text = some name) : interner.intern text = (name, interner) := by
  simp [intern, h]

end Interner

end AliasReader
