import AliasReader.Alias.Registry

/-!
# Aliased References

The token of an aliased reference is an alias and a name with one or two colons between
them. With one colon the name has to be external in the aliased namespace; with two colons
any symbol of it may be named. The first colon of the token is the separator, so an alias
holds no colon, while a name may.
-/

namespace AliasReader

/-- A token taken apart. -/
structure Reference where
  /-- The alias in front of the separator. -/
  qualifier : List Char
  /-- Whether two colons separate alias and name. -/
  any : Bool
  /-- The name behind the separator. -/
  name : List Char
deriving DecidableEq, Repr

namespace Reference

/-- The characters of the token of a reference. -/
def write (reference : Reference) : List Char :=
  reference.qualifier ++ ':' :: ((if reference.any then [':'] else []) ++ reference.name)

/-- Take a token apart at its first colon. -/
def parse? (token : List Char) : Option Reference :=
  let qualifier := token.takeWhile (· ≠ ':')
  match token.dropWhile (· ≠ ':') with
  | [] => none
  | [_] => none
  | _ :: ':' :: name => some ⟨qualifier, true, name⟩
  | _ :: name => some ⟨qualifier, false, name⟩

/-- Take a token apart, or say that it is malformed. -/
def parse (token : String) : Except AliasFailure Reference :=
  match parse? token.toList with
  | some reference => .ok reference
  | none => .error .malformedReference

/-- The symbol that a reference names in the namespace `target`. There is no answer when
the target is no namespace. -/
def lookup? (reference : Reference) (host : SymbolTable) (target : NamespaceId) :
    Option (Except AliasFailure SymbolId) :=
  let name := String.ofList reference.name
  match host.lookup? target name, host.name? target with
  | some (.found symbol .external), some _ => some (.ok symbol)
  | some (.found symbol .internal), some text =>
      some (if reference.any then .ok symbol else .error (.notExternal text name))
  | some .missing, some text => some (.error (.unresolvedIdentifier text name))
  | _, _ => none

/-- The symbol that a reference names by the aliases of the namespace `id`. -/
def resolve? (reference : Reference) (host : SymbolTable) (registry : AliasRegistry)
    (id : NamespaceId) : Option (Except AliasFailure SymbolId) :=
  match registry.resolve host id (String.ofList reference.qualifier) with
  | .error failure => some (.error failure)
  | .ok target => reference.lookup? host target

/-- The symbol that a folded token names by the aliases of the namespace `id`. A failure
tells the name of that namespace; there is no answer when it has none. -/
def resolveToken? (host : SymbolTable) (registry : AliasRegistry) (id : NamespaceId)
    (token : String) : Option (Except ReferenceFailure SymbolId) :=
  let answer : Option (Except AliasFailure SymbolId) := match parse token with
    | .error failure => some (.error failure)
    | .ok reference => reference.resolve? host registry id
  match answer with
  | none => none
  | some (.ok symbol) => some (.ok symbol)
  | some (.error failure) => (host.name? id).map fun name => .error ⟨failure, token, name⟩

end Reference

end AliasReader
