import AliasReader.Alias.Reference
import AliasReader.Datum
import AliasReader.Reader.Failure
import AliasReader.Reader.ReadTable
import AliasReader.Unicode.Whitespace

/-!
# Readers

A reader has a place in a source text, an active read table, a symbol table and a current
namespace in which it makes symbols. This module holds the steps of reading that call no
other step: passing over white space, taking a plain token, a text or an aliased reference.
-/

namespace AliasReader

/-- The state of reading. -/
structure Reader where
  /-- The place in the source text. -/
  cursor : Cursor
  /-- The active read table. -/
  table : ReadTable
  /-- The namespaces and symbols. -/
  host : SymbolTable
  /-- The namespace in which symbols are made. -/
  current : NamespaceId

/-- The result of a step of reading. -/
inductive Outcome (α : Type) where
  /-- The step has a value. -/
  | value (result : α) (reader : Reader)
  /-- The step failed. -/
  | failed (failure : ReadFailure) (reader : Reader)
  /-- The step needed the current namespace, and its handle names nothing. -/
  | dangling (reader : Reader)
  /-- The step was given up because reading took more steps than it was allowed. -/
  | exhausted

namespace Outcome

variable {α β : Type}

/-- Go on with the value of a step. -/
def andThen (outcome : Outcome α) (next : α → Reader → Outcome β) : Outcome β :=
  match outcome with
  | value result reader => next result reader
  | failed failure reader => failed failure reader
  | dangling reader => dangling reader
  | exhausted => exhausted

/-- Change the value of a step. -/
def map (f : α → β) (outcome : Outcome α) : Outcome β :=
  outcome.andThen fun result reader => value (f result) reader

/-- Change the reader when a step has come to a value or a failure. -/
def onReturn (change : Reader → Reader) : Outcome α → Outcome α
  | value result reader => value result (change reader)
  | failed failure reader => failed failure (change reader)
  | dangling reader => dangling reader
  | exhausted => exhausted

@[simp]
theorem andThen_value (result : α) (reader : Reader) (next : α → Reader → Outcome β) :
    (value result reader).andThen next = next result reader := rfl

@[simp]
theorem andThen_failed (failure : ReadFailure) (reader : Reader)
    (next : α → Reader → Outcome β) :
    (failed failure reader : Outcome α).andThen next = failed failure reader := rfl

@[simp]
theorem andThen_dangling (reader : Reader) (next : α → Reader → Outcome β) :
    (dangling reader : Outcome α).andThen next = dangling reader := rfl

@[simp]
theorem andThen_exhausted (next : α → Reader → Outcome β) :
    (exhausted : Outcome α).andThen next = exhausted := rfl

end Outcome

/-- Scan a text up to the closing `quote`. The answer is the text and the number of
characters up to and with the quote; there is none if the input ends first. -/
def scanText (quote : Char) : List Char → Option (List Char × Nat)
  | [] => none
  | c :: cs =>
      if c = quote then some ([], 1)
      else if c = '\\' then
        match cs with
        | [] => none
        | escaped :: rest =>
            (scanText quote rest).map fun (text, count) => (escaped :: text, count + 2)
      else (scanText quote cs).map fun (text, count) => (c :: text, count + 1)

namespace Reader

/-- A reader at the start of a source text. -/
def ofSource (source : String) (table : ReadTable) (host : SymbolTable)
    (current : NamespaceId) : Reader :=
  ⟨.ofString source, table, host, current⟩

/-- The next character, which stays in place. -/
def peek? (reader : Reader) : Option Char := reader.cursor.peek?

/-- The reader behind the next character. -/
def advance (reader : Reader) : Reader :=
  { reader with cursor := reader.cursor.advance }

/-- Put a character in front of the input. -/
def unread (reader : Reader) (c : Char) : Reader :=
  { reader with cursor := reader.cursor.unread c }

/-- Pass over white space. -/
def skipWhitespace (reader : Reader) : Reader :=
  { reader with cursor := reader.cursor.skipWhile Unicode.isWhitespace }

/-- Run a step with another read table, and set the present one again afterwards. -/
def withTable {α : Type} (reader : Reader) (table : ReadTable)
    (step : Reader → Outcome α) : Outcome α :=
  (step { reader with table }).onReturn fun after => { after with table := reader.table }

/-- Run a step with another current namespace, and set the present one again
afterwards. -/
def withCurrent {α : Type} (reader : Reader) (current : NamespaceId)
    (step : Reader → Outcome α) : Outcome α :=
  (step { reader with current }).onReturn fun after =>
    { after with current := reader.current }

/-- Whether a character goes on a plain token under a read table. -/
def continuesToken (table : ReadTable) (c : Char) : Bool :=
  !(Unicode.isWhitespace c || table.isTerminating c)

/-- Take a plain token and make it a symbol of the current namespace. -/
def takeSymbol (reader : Reader) : Outcome (Datum SymbolId) :=
  let (token, cursor) := reader.cursor.takeWhile (continuesToken reader.table)
  let name := reader.table.case.fold (String.ofList token)
  match reader.host.intern reader.current name with
  | (some symbol, host) => .value (.symbol symbol) { reader with cursor, host }
  | (none, host) => .dangling { reader with cursor, host }

/-- Take a text whose opening quote, at `start`, has been read. -/
def takeText (reader : Reader) (quote : Char) (start : Nat) :
    Outcome (Option (Datum SymbolId)) :=
  match scanText quote reader.cursor.remaining with
  | some (text, count) =>
      .value (some (.text (String.ofList text)))
        { reader with cursor := reader.cursor.drop count }
  | none =>
      let cursor := reader.cursor.drop reader.cursor.remaining.length
      .failed (.unterminatedText (cursor.spanFrom start)) { reader with cursor }

/-- Take the token behind the trigger at `start` and resolve it by the aliases of the
current namespace. -/
def takeReference (reader : Reader) (registry : AliasRegistry) (trigger : Char)
    (start : Nat) : Outcome (Option (Datum SymbolId)) :=
  let (token, cursor) := AliasToken.take reader.cursor
  let reader := { reader with cursor }
  let fail (failure : ReferenceFailure) : Outcome (Option (Datum SymbolId)) :=
    .failed (.reference trigger (cursor.spanFrom start) failure) reader
  match token.fold reader.table.case with
  | .error cause =>
      match reader.host.name? reader.current with
      | some name => fail ⟨cause, token.text, name⟩
      | none => .dangling reader
  | .ok folded =>
      match Reference.resolveToken? reader.host registry reader.current folded with
      | some (.ok symbol) => .value (some (.symbol symbol)) reader
      | some (.error failure) => fail failure
      | none => .dangling reader

end Reader

end AliasReader
