import AliasReader.Reader.Sentinel
import AliasReader.Script.Failure

/-!
# Sessions

A session runs scripts one after the other over one symbol table and one alias registry. A
script is read form by form. Directives are carried out as they are read; every other datum
is emitted in its written form. The first failure ends the script, and the session goes on
from the state reached by then.

## Main definitions

* `Session`: the state that scripts share;
* `Session.execute`: carry out a directive;
* `Session.react`: what becomes of a datum;
* `Session.run`: run a script.
-/

namespace AliasReader

/-- The state that scripts share. -/
structure Session where
  /-- The namespaces and symbols. -/
  host : SymbolTable
  /-- The aliases of the namespaces. -/
  registry : AliasRegistry
  /-- The table that scripts are read with. -/
  table : ReadTable
  /-- The settings of the sentinel. -/
  config : SentinelConfig
  /-- The namespace in which the next script starts. -/
  current : NamespaceId

/-- How the run of a script ends. -/
inductive Ending where
  /-- The script was run to its end. -/
  | finished
  /-- A failure stopped the script. -/
  | failed (failure : ScriptFailure)
  /-- A handle named nothing. -/
  | dangling
  /-- The run was given up because it took more steps than it was allowed. -/
  | exhausted
deriving DecidableEq, Repr

/-- What the run of a script leaves. -/
structure ScriptRun where
  /-- The emitted lines. -/
  lines : List String
  /-- How the run ended. -/
  ending : Ending
  /-- The session afterwards. -/
  session : Session

namespace Session

/-- The name of the first namespace, before folding. -/
def firstNamespace : String := "user"

/-- The one registry of a session, under the number that its handlers use. -/
def store : StoreId := ⟨0⟩

/-- A new session, in a namespace without symbols. -/
def start (config : SentinelConfig) : Session :=
  { host := (SymbolTable.empty.create (config.case.fold firstNamespace)).2
    registry := .empty
    table := ReadTable.standard.installConfigured config store
    config
    current := ⟨0⟩ }

/-- A reader at a place in a script. -/
def reader (session : Session) (cursor : Cursor) : Reader :=
  ⟨cursor, session.table, session.host, session.current⟩

/-- The session after a form was read. -/
def afterReading (session : Session) (reader : Reader) : Session :=
  { session with host := reader.host, current := reader.current }

/-- The registries that handlers refer to. -/
def stores (session : Session) : Stores := fun _ => session.registry

/-- Make symbols in a namespace: first external ones, then internal ones. -/
def declare (host : SymbolTable) (id : NamespaceId) (external internal : List String) :
    SymbolTable :=
  let host := external.foldl (fun host name => (host.internExternal id name).2) host
  internal.foldl (fun host name => (host.intern id name).2) host

/-- Carry out a directive whose form is at `span`. -/
def execute (session : Session) (span : Span) (directive : Directive) :
    Except ScriptFailure Unit × Session :=
  match directive with
  | .define name external internal =>
      match session.host.create name with
      | (.error failure, host) => (.error (.host failure span), { session with host })
      | (.ok id, host) => (.ok (), { session with host := declare host id external internal })
  | .enter name =>
      match session.host.require (.named name) with
      | .error failure => (.error (.host failure span), session)
      | .ok current => (.ok (), { session with current })
  | .setAliases pairs =>
      let designated := pairs.map fun (target, key) => (Designator.named target, key)
      match session.registry.register session.current designated session.table.case with
      | .error failure => (.error (.aliases failure span), session)
      | .ok registry => (.ok (), { session with registry })

/-- What becomes of a datum of a script: a line to emit, or a directive carried out. -/
inductive Reaction where
  /-- The datum is emitted. -/
  | emit (line : String)
  /-- The datum is a directive. -/
  | executed (session : Session)
  /-- The datum stops the script. -/
  | stopped (failure : ScriptFailure) (session : Session)
  /-- A symbol of the datum names nothing. -/
  | dangling

/-- React to a datum that was read from `span`. -/
def react (session : Session) (span : Span) (datum : Datum SymbolId) : Reaction :=
  match session.host.spell? datum with
  | none => .dangling
  | some spelled =>
      match Directive.ofDatum? session.table.case spelled with
      | some (keyword, .error problem) =>
          .stopped (.directive keyword problem span) session
      | some (_, .ok directive) =>
          match session.execute span directive with
          | (.error failure, session) => .stopped failure session
          | (.ok (), session) => .executed session
      | none =>
          match session.host.show? datum with
          | none => .dangling
          | some line => .emit line

/-- Run at most `count` forms of a script from a place on. -/
def runForms : Nat → Session → Cursor → ScriptRun
  | 0, session, _ => ⟨[], .exhausted, session⟩
  | count + 1, session, cursor =>
      let cursor := cursor.skipWhile Unicode.isWhitespace
      if cursor.isAtEnd then ⟨[], .finished, session⟩
      else match (session.reader cursor).readForm session.stores with
        | .failed failure reader =>
            ⟨[], .failed (.read failure), session.afterReading reader⟩
        | .dangling reader => ⟨[], .dangling, session.afterReading reader⟩
        | .exhausted => ⟨[], .exhausted, session⟩
        | .value none reader => runForms count (session.afterReading reader) reader.cursor
        | .value (some datum) reader =>
            let session := session.afterReading reader
            match session.react (reader.cursor.spanFrom cursor.offset) datum with
            | .emit line =>
                let rest := runForms count session reader.cursor
                { rest with lines := line :: rest.lines }
            | .executed session => runForms count session reader.cursor
            | .stopped failure session => ⟨[], .failed failure, session⟩
            | .dangling => ⟨[], .dangling, session⟩

/-- Run a script. Every form takes at least one character of it. -/
def run (session : Session) (source : String) : ScriptRun :=
  runForms (source.toList.length + 1) session (.ofString source)

/-- The primary name of the current namespace. -/
def currentName? (session : Session) : Option String :=
  session.host.name? session.current

end Session

end AliasReader
