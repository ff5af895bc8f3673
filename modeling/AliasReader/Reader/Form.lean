import AliasReader.Reader.State

/-!
# Reading Forms

Reading is a family of four steps that call each other: a form, the next datum, all data,
and the items of a list. `Steps.refine` says what each step does in terms of the steps that
it calls, and `Steps.upTo` allows that many calls inside each other. The functions
`Reader.readForm`, `Reader.readNext` and `Reader.readAll` allow enough of them: a call
either reads on in the source or goes to a handler with fewer fallback tables inside it.
-/

namespace AliasReader

/-- The alias registries that handlers refer to. -/
abbrev Stores := StoreId → AliasRegistry

/-- The steps of reading that call each other. -/
structure Steps where
  /-- Read one form, which may have no value. There is no value at the end of the input. -/
  form : Reader → Outcome (Option (Datum SymbolId))
  /-- Read the next datum, passing over forms without a value. -/
  next : Reader → Outcome (Option (Datum SymbolId))
  /-- Read all data up to the end of the input. -/
  all : Reader → Outcome (List (Datum SymbolId))
  /-- Read the items of the list that starts at an offset, and its closing parenthesis. -/
  items : Nat → Reader → Outcome (List (Datum SymbolId))

namespace Steps

/-- The steps that are given up at once. -/
def exhausted : Steps :=
  ⟨fun _ => .exhausted, fun _ => .exhausted, fun _ => .exhausted, fun _ _ => .exhausted⟩

/-- Read a form with the trigger bound as in the fallback table. -/
def delegate (steps : Steps) (fallback : ReadTable) (trigger : Char) (reader : Reader) :
    Outcome (Option (Datum SymbolId)) :=
  (reader.unread trigger).withTable (reader.table.rebindFrom fallback trigger) steps.form

/-- The text that tells a trigger, its offset and the offset behind it. -/
def positionText (trigger : Char) (start stop : Nat) : String :=
  String.singleton trigger ++ " " ++ toString start ++ " " ++ toString stop

/-- Run the handler of the trigger at `start`, which has been read. -/
def handle (stores : Stores) (steps : Steps) (handler : Handler) (trigger : Char)
    (start : Nat) (reader : Reader) : Outcome (Option (Datum SymbolId)) :=
  match handler with
  | .list => (steps.items start reader).map fun items => some (.list items)
  | .close => .failed (.unmatchedClose (reader.cursor.spanFrom start)) reader
  | .text => reader.takeText trigger start
  | .quote =>
      (steps.next reader).andThen fun
        | some datum, reader => .value (some (.quote datum)) reader
        | none, reader =>
            .failed (.unexpectedEnd (reader.cursor.spanFrom start)) reader
  | .comment =>
      .value none { reader with cursor := reader.cursor.skipWhile (· ≠ '\n') }
  | .sentinel store fallback =>
      if (stores store).hasAliases reader.current then
        reader.takeReference (stores store) trigger start
      else steps.delegate fallback trigger reader
  | .aliasing store => reader.takeReference (stores store) trigger start
  | .delegating fallback => steps.delegate fallback trigger reader
  | .wrap => (steps.form reader).map fun item => some (.list item.toList)
  | .gather => (steps.all reader).map fun items => some (.list items)
  | .nothing => .value none reader
  | .constant content => .value (some (.text content)) reader
  | .position =>
      .value (some (.text (positionText trigger start reader.cursor.offset))) reader
  -- the last character is put back first, so that the first one is read first
  | .expand content => steps.form (content.toList.reverse.foldl Reader.unread reader)
  | .underCase policy => reader.withTable (reader.table.withCase policy) steps.form
  | .inNamespace id => reader.withCurrent id steps.form

/-- Read one form by the given steps. -/
def readForm (stores : Stores) (steps : Steps) (reader : Reader) :
    Outcome (Option (Datum SymbolId)) :=
  let reader := reader.skipWhitespace
  match reader.peek? with
  | none => .value none reader
  | some c =>
      match reader.table.handler? c with
      | some handler => handle stores steps handler c reader.cursor.offset reader.advance
      | none => reader.takeSymbol.map some

/-- Read the next datum by the given steps. -/
def readNext (steps : Steps) (reader : Reader) : Outcome (Option (Datum SymbolId)) :=
  let reader := reader.skipWhitespace
  if reader.cursor.isAtEnd then .value none reader
  else (steps.form reader).andThen fun
    | some datum, reader => .value (some datum) reader
    | none, reader => steps.next reader

/-- Read all data by the given steps. -/
def readAll (steps : Steps) (reader : Reader) : Outcome (List (Datum SymbolId)) :=
  (steps.next reader).andThen fun
    | none, reader => .value [] reader
    | some datum, reader => (steps.all reader).map (datum :: ·)

/-- Read the items of a list by the given steps. -/
def readItems (steps : Steps) (start : Nat) (reader : Reader) :
    Outcome (List (Datum SymbolId)) :=
  let reader := reader.skipWhitespace
  match reader.peek? with
  | none => .failed (.unterminatedList (reader.cursor.spanFrom start)) reader
  | some c =>
      if c = ')' then .value [] reader.advance
      else (steps.form reader).andThen fun item reader =>
        (steps.items start reader).map (item.toList ++ ·)

/-- The steps that call the given ones. -/
def refine (stores : Stores) (steps : Steps) : Steps :=
  ⟨readForm stores steps, readNext steps, readAll steps, readItems steps⟩

/-- The steps with at most `count` calls inside each other. -/
def upTo (stores : Stores) : Nat → Steps
  | 0 => exhausted
  | count + 1 =>
      ⟨fun reader => readForm stores (upTo stores count) reader,
        fun reader => readNext (upTo stores count) reader,
        fun reader => readAll (upTo stores count) reader,
        fun start reader => readItems (upTo stores count) start reader⟩

/-- One more allowed call refines the steps once more. -/
theorem upTo_succ (stores : Stores) (count : Nat) :
    upTo stores (count + 1) = refine stores (upTo stores count) := rfl

end Steps

namespace Reader

/-- The number of calls inside each other that is allowed on account of the characters that
handlers put in front of the input. -/
def expansionAllowance : Nat := 10000

/-- The number of calls inside each other that reading is allowed. -/
def allowance (reader : Reader) : Nat :=
  (reader.cursor.remaining.length + 1) * (reader.table.depth + 3) + expansionAllowance

/-- Read one form at the next character that is no white space. There is no value at the
end of the input, or when the form is read by a handler that produces none. -/
def readForm (stores : Stores) (reader : Reader) : Outcome (Option (Datum SymbolId)) :=
  (Steps.upTo stores reader.allowance).form reader

/-- Read the next datum, passing over forms without a value. There is no datum at the end
of the input. -/
def readNext (stores : Stores) (reader : Reader) : Outcome (Option (Datum SymbolId)) :=
  (Steps.upTo stores reader.allowance).next reader

/-- Read all data up to the end of the input. -/
def readAll (stores : Stores) (reader : Reader) : Outcome (List (Datum SymbolId)) :=
  (Steps.upTo stores reader.allowance).all reader

end Reader

end AliasReader
