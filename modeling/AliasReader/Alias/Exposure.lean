import AliasReader.Alias.Registry

/-!
# Exposed Aliases

For the length of a call, the aliases of a namespace can be made visible to every name
lookup: the namespace behind each alias gets one more nickname, the trigger followed by the
alias. An `Exposure` keeps the names from before, and withdrawing it gives them back, those
of the namespace that was renamed last first. Thus a namespace behind several aliases ends
with the names that it had at the start.
-/

namespace AliasReader

/-- The names that namespaces had before aliases were exposed. -/
structure Exposure where
  /-- The renamed namespaces with their earlier names and nicknames, the one renamed last
  first. -/
  earlier : List (NamespaceId × String × List String)
deriving DecidableEq, Repr

namespace Exposure

/-- The exposure of nothing. -/
def empty : Exposure := ⟨[]⟩

/-- The number of exposed aliases. -/
def size (exposure : Exposure) : Nat := exposure.earlier.length

/-- Give the renamed namespaces back their names. A name that belongs to another namespace
by now is not given back; the renamed namespace then keeps the names that it has. -/
def withdraw (exposure : Exposure) (host : SymbolTable) : SymbolTable :=
  exposure.earlier.foldl
    (fun host (id, name, nicknames) => (host.rename id name nicknames).2) host

/-- The nickname for an alias. -/
def nickname (trigger : Char) (key : String) : String :=
  String.ofList (trigger :: key.toList)

/-- Expose the aliases of a list, one after the other. An alias that designates no namespace
is passed over. At the first nickname that belongs to another namespace everything is taken
back. -/
def extend (trigger : Char) :
    List (String × Designator) → SymbolTable × Exposure → SymbolTable × Exposure
  | [], state => state
  | (key, designator) :: rest, (host, exposure) =>
      match host.find? designator with
      | none => extend trigger rest (host, exposure)
      | some target =>
          match host.namespace? target with
          | none => extend trigger rest (host, exposure)
          | some entry =>
              let nicknames := entry.nicknames ++ [nickname trigger key]
              match host.rename target entry.name nicknames with
              | (some (.ok ()), host) =>
                  extend trigger rest
                    (host, ⟨(target, entry.name, entry.nicknames) :: exposure.earlier⟩)
              -- a nickname is taken: nothing is exposed at all
              | (_, host) => (exposure.withdraw host, empty)

/-- Expose the aliases of a namespace in ascending order of the aliases. -/
def ofAliases (host : SymbolTable) (registry : AliasRegistry) (id : NamespaceId)
    (trigger : Char) : SymbolTable × Exposure :=
  match registry.table? id with
  | none => (host, empty)
  | some table => extend trigger table.entries (host, empty)

/-- Nothing changes when the exposure of nothing is withdrawn. -/
@[simp]
theorem withdraw_empty (host : SymbolTable) : empty.withdraw host = host := rfl

end Exposure

namespace SymbolTable

/-- Run `body` while the aliases of a namespace are exposed. -/
def withExposed {m : Type → Type} [Monad m] {α : Type} (host : SymbolTable)
    (registry : AliasRegistry) (id : NamespaceId) (trigger : Char)
    (body : SymbolTable → m (α × SymbolTable)) : m (α × SymbolTable) := do
  let (host, exposure) := Exposure.ofAliases host registry id trigger
  let (answer, host) ← body host
  return (answer, exposure.withdraw host)

end SymbolTable

/-- A switch that says whether aliases are exposed around a call. -/
structure ExposureSwitch where
  /-- The character in front of every added nickname. -/
  trigger : Char
  /-- Whether aliases are exposed. -/
  isOn : Bool
deriving DecidableEq, Repr

namespace ExposureSwitch

/-- The switch for a trigger, turned off. -/
def ofTrigger (trigger : Char) : ExposureSwitch := ⟨trigger, false⟩

/-- Turn the switch on. -/
def turnOn (switch : ExposureSwitch) : ExposureSwitch := { switch with isOn := true }

/-- Turn the switch off. -/
def turnOff (switch : ExposureSwitch) : ExposureSwitch := { switch with isOn := false }

/-- Run `body`, while the aliases of a namespace are exposed if the switch is on. -/
def around {m : Type → Type} [Monad m] {α : Type} (switch : ExposureSwitch)
    (host : SymbolTable) (registry : AliasRegistry) (id : NamespaceId)
    (body : SymbolTable → m (α × SymbolTable)) : m (α × SymbolTable) :=
  if switch.isOn then host.withExposed registry id switch.trigger body else body host

end ExposureSwitch

end AliasReader
