import AliasReader.Dictionary
import AliasReader.Namespace.Handle
import AliasReader.Text.CasePolicy
import AliasReader.Text.Quoted

/-!
# Read Tables

A read table says how a reader treats each character. A character without a binding belongs
to plain tokens. A bound character at the start of a form starts the handler that it is
bound to; inside a token it ends the token if its binding is terminating. The table also
carries the case policy for plain tokens.

Handlers are values. Some of them hold another read table, whose binding for the trigger
they fall back on.
-/

namespace AliasReader

/-- A handler that is bound to a character. -/
structure Binding (η : Type) where
  /-- The handler. -/
  handler : η
  /-- Whether the character ends a token that it stands in. -/
  terminating : Bool

/-- A case policy and the bindings of characters to handlers. -/
structure DispatchTable (η : Type) where
  /-- How plain tokens are folded. -/
  case : CasePolicy
  /-- The bound characters. -/
  bindings : Dictionary Char (Binding η)

namespace DispatchTable

variable {η : Type}

/-- The table without bound characters. -/
def empty : DispatchTable η := ⟨.upcase, .empty⟩

/-- The table with another case policy. -/
def withCase (table : DispatchTable η) (case : CasePolicy) : DispatchTable η :=
  { table with case }

/-- The binding of a character. -/
def binding? (table : DispatchTable η) (c : Char) : Option (Binding η) :=
  table.bindings.find? c

/-- The handler that a character is bound to. -/
def handler? (table : DispatchTable η) (c : Char) : Option η :=
  (table.binding? c).map Binding.handler

/-- Whether a character is bound. -/
def isBound (table : DispatchTable η) (c : Char) : Bool :=
  (table.binding? c).isSome

/-- Whether a character ends a token that it stands in. -/
def isTerminating (table : DispatchTable η) (c : Char) : Bool :=
  (table.binding? c).any Binding.terminating

/-- Bind a character. -/
def bind (table : DispatchTable η) (c : Char) (binding : Binding η) : DispatchTable η :=
  { table with bindings := table.bindings.insert c binding }

/-- Take away the binding of a character. -/
def unbind (table : DispatchTable η) (c : Char) : DispatchTable η :=
  { table with bindings := table.bindings.erase c }

/-- Bind a character as another table binds it, or not at all if it is unbound there. -/
def rebindFrom (table source : DispatchTable η) (c : Char) : DispatchTable η :=
  match source.binding? c with
  | some binding => table.bind c binding
  | none => table.unbind c

/-- The table as it appears in a description: its policy and its bound characters in
ascending order. -/
def inspect (table : DispatchTable η) : String :=
  "ReadTable \x7b case: " ++ table.case.inspect ++ ", bound: [" ++
    ", ".intercalate (table.bindings.keys.map Quoted.char) ++ "] \x7d"

/-- After rebinding, the character is bound as in the other table and every other character
as before. -/
theorem binding?_rebindFrom (table source : DispatchTable η) (c d : Char) :
    (table.rebindFrom source c).binding? d =
      if d = c then source.binding? c else table.binding? d := by
  unfold rebindFrom
  cases h : source.binding? c with
  | some binding => exact table.bindings.find?_insert c d binding
  | none => exact table.bindings.find?_erase c d

end DispatchTable

/-- The number of an alias registry that handlers refer to. -/
structure StoreId where
  /-- The number. -/
  index : Nat
deriving DecidableEq, Repr

/-- What is done when a bound character starts a form. The character has been read when the
handler starts. -/
inductive Handler where
  /-- Read data up to the closing parenthesis. -/
  | list
  /-- Refuse a closing parenthesis that closes nothing. -/
  | close
  /-- Read a text up to the next trigger; a backslash makes the next character literal. -/
  | text
  /-- Read the next datum and quote it. -/
  | quote
  /-- Pass over the rest of the line. -/
  | comment
  /-- Read an aliased reference if the current namespace has aliases in the registry, and
  otherwise read the form with the trigger bound as in the fallback table. -/
  | sentinel (store : StoreId) (fallback : DispatchTable Handler)
  /-- Read an aliased reference. -/
  | aliasing (store : StoreId)
  /-- Read the form with the trigger bound as in the fallback table. -/
  | delegating (fallback : DispatchTable Handler)
  /-- Read a form and put it into a list of its own. -/
  | wrap
  /-- Read all data up to the end of the input as one list. -/
  | gather
  /-- Read nothing further and produce no value. -/
  | nothing
  /-- Read nothing further and produce a fixed text. -/
  | constant (content : String)
  /-- Produce a text that tells the trigger, its offset and the offset behind it. -/
  | position
  /-- Put characters in front of the input and read a form. -/
  | expand (content : String)
  /-- Read a form under a case policy. -/
  | underCase (policy : CasePolicy)
  /-- Read a form with another namespace as the current one. -/
  | inNamespace (id : NamespaceId)

/-- A case policy and the bindings of characters to handlers of a reader. -/
abbrev ReadTable := DispatchTable Handler

mutual

/-- The greatest number of fallback tables inside each other in a handler. -/
def Handler.depth : Handler → Nat
  | .sentinel _ fallback => depthOfTable fallback + 1
  | .delegating fallback => depthOfTable fallback + 1
  | _ => 0
termination_by structural handler => handler

/-- The greatest depth of the handlers of a table. -/
def depthOfTable : DispatchTable Handler → Nat
  | ⟨_, bindings⟩ => depthOfBindings bindings
termination_by structural table => table

/-- The greatest depth of the bound handlers. -/
def depthOfBindings : Dictionary Char (Binding Handler) → Nat
  | ⟨entries⟩ => depthOfEntries entries
termination_by structural bindings => bindings

/-- The greatest depth of the handlers of a list of entries. -/
def depthOfEntries : List (Char × Binding Handler) → Nat
  | [] => 0
  | (_, ⟨handler, _⟩) :: rest => max handler.depth (depthOfEntries rest)
termination_by structural entries => entries

end

namespace ReadTable

/-- The greatest number of fallback tables inside each other in a read table. -/
def depth (table : ReadTable) : Nat := depthOfTable table

/-- The standard table: lists, texts, quotes and comments. -/
def standard : ReadTable :=
  (((((DispatchTable.empty).bind '(' ⟨.list, true⟩).bind ')' ⟨.close, true⟩).bind
    '"' ⟨.text, true⟩).bind '\'' ⟨.quote, true⟩).bind ';' ⟨.comment, true⟩

end ReadTable

end AliasReader
