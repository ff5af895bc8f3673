import AliasReader.Reader.Form

/-!
# Sentinels

A sentinel is a trigger character in front of aliased references. It is installed over the
binding that the character had before, and that binding goes on to hold in every namespace
without aliases.
-/

namespace AliasReader

/-- What a sentinel does in a namespace. -/
inductive SentinelMode where
  /-- It reads aliased references. -/
  | aliasing
  /-- It falls back on the earlier binding. -/
  | delegating
deriving DecidableEq, Repr

/-- What a sentinel over the registry does in a namespace. -/
def AliasRegistry.sentinelMode (registry : AliasRegistry) (id : NamespaceId) :
    SentinelMode :=
  if registry.hasAliases id then .aliasing else .delegating

/-- The settings of a sentinel. -/
structure SentinelConfig where
  /-- The trigger character. -/
  trigger : Char := '$'
  /-- The case policy of the table in which the sentinel is installed. -/
  case : CasePolicy := .upcase
deriving DecidableEq, Repr

namespace ReadTable

/-- Install a sentinel. Without a fallback table the table itself, as it is, serves as one.
The trigger ends tokens if it does so in the fallback table. -/
def installSentinel (table : ReadTable) (trigger : Char) (fallback : Option ReadTable)
    (store : StoreId) : ReadTable :=
  let fallback := fallback.getD table
  table.bind trigger ⟨.sentinel store fallback, fallback.isTerminating trigger⟩

/-- Set the case policy and install a sentinel over the table. -/
def installConfigured (table : ReadTable) (config : SentinelConfig) (store : StoreId) :
    ReadTable :=
  installSentinel (table.withCase config.case) config.trigger none store

/-- A sentinel with the given fallback table as it appears in a description. -/
def inspectSentinel (fallback : ReadTable) : String :=
  "SentinelDispatcher \x7b fallback: " ++ fallback.inspect ++ ", .. \x7d"

end ReadTable

end AliasReader
