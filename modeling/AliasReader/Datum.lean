import AliasReader.Namespace.SymbolTable

/-!
# Data

Reading produces data: symbols, texts, lists and quoted data. A datum is a tree over its
symbols, so that the same type serves for what is read (`Datum SymbolId`) and for what is
shown or interpreted (`Datum String`). `Datum.traverse?` goes from one to the other.
-/

namespace AliasReader

/-- A value that is read, with symbols of the type `σ`. -/
inductive Datum (σ : Type) where
  /-- A symbol. -/
  | symbol (s : σ)
  /-- A text, which is written between double quotes. -/
  | text (content : String)
  /-- A list, which is written between parentheses. -/
  | list (items : List (Datum σ))
  /-- A datum behind a quote. -/
  | quote (quoted : Datum σ)
deriving Repr

namespace Datum

variable {σ τ : Type}

/-- The items of a list. -/
def items? : Datum σ → Option (List (Datum σ))
  | list items => some items
  | _ => none

mutual

/-- The symbols of a datum, in reading order. -/
def symbols : Datum σ → List σ
  | symbol s => [s]
  | text _ => []
  | list items => symbolsOfItems items
  | quote quoted => quoted.symbols

/-- The symbols of a list of data, in reading order. -/
def symbolsOfItems : List (Datum σ) → List σ
  | [] => []
  | item :: rest => item.symbols ++ symbolsOfItems rest

end

mutual

/-- The datum with every symbol replaced by its image, if all of them have one. -/
def traverse? (f : σ → Option τ) : Datum σ → Option (Datum τ)
  | symbol s => (f s).map symbol
  | text content => some (text content)
  | list items => (traverseItems? f items).map list
  | quote quoted => (quoted.traverse? f).map quote

/-- The data with every symbol replaced by its image, if all of them have one. -/
def traverseItems? (f : σ → Option τ) : List (Datum σ) → Option (List (Datum τ))
  | [] => some []
  | item :: rest =>
      match item.traverse? f, traverseItems? f rest with
      | some item, some rest => some (item :: rest)
      | _, _ => none

end

mutual

/-- The written form of a datum whose symbols are written as they are. -/
def write : Datum String → List Char
  | symbol s => s.toList
  | text content => Quoted.textChars content.toList
  | list items => '(' :: writeItems items ++ [')']
  | quote quoted => '\'' :: quoted.write

/-- The written forms of data, with a blank between neighbours. -/
def writeItems : List (Datum String) → List Char
  | [] => []
  | [item] => item.write
  | item :: next :: rest => item.write ++ ' ' :: writeItems (next :: rest)

end

/-- The text that a datum stands for in a directive: the name of a symbol, or a text. -/
def word? : Datum String → Option String
  | symbol name => some name
  | text content => some content
  | list _ => none
  | quote _ => none

end Datum

namespace SymbolTable

/-- The datum with symbols replaced by their names. -/
def spell? (table : SymbolTable) (datum : Datum SymbolId) : Option (Datum String) :=
  datum.traverse? table.symbolName?

/-- The written form of a datum whose symbols are shown with the names of their
namespaces. -/
def show? (table : SymbolTable) (datum : Datum SymbolId) : Option String :=
  (datum.traverse? table.qualifiedName?).map fun shown => String.ofList shown.write

end SymbolTable

end AliasReader
