import AliasReader.Proofs.Namespace.Representation

/-!
# The History of an Arena

What an arena knows about symbols can be told from the requests that were made to it, in whatever
order and of whatever namespaces: a request for a name is answered with the symbol of that name,
always the same one, and a namespace exports the symbols that it was asked to. Renamings play no
part in it. This holds while each symbol and each text has a handle of its own.

A request that stops the program has no answer and counts as not made.

## Main definitions

* `Arena.Answered`: a request was answered with a symbol in the course of requests;
* `Arena.Reflects`: what an arena tells about a name is what the requests for it were.

## Main results

* `Arena.reflects_after`: an arena reflects the requests that were made to it.
-/

namespace AliasReader

open SymbolTable (Request)

/-- A symbol in the reply is the symbol in the answer. -/
theorem SymbolTable.reply_eq_symbol_iff (table : SymbolTable) (request : Request)
    (symbol : SymbolId) :
    table.reply request = .symbol symbol ↔ table.answer? request = some symbol := by
  cases request with
  | create name =>
    rw [reply, answer?]
    rcases (table.create name).1 with _ | _ <;> simp [Reply.of]
  | intern id name =>
    rw [reply, answer?]
    rcases (table.intern id name).1 with _ | _ <;> simp [Reply.of]
  | internExternal id name =>
    rw [reply, answer?]
    rcases (table.internExternal id name).1 with _ | _ <;> simp [Reply.of]
  | rename id name nicknames =>
    rw [reply, answer?]
    rcases (table.rename id name nicknames).1 with _ | _ | _ <;> simp [Reply.of]

namespace Arena

variable {requests : List Request} {id : NamespaceId} {text : String} {symbol : SymbolId}

/-- In the course of requests to a new arena, a request is answered with a symbol. -/
def Answered (requests : List Request) (request : Request) (symbol : SymbolId) : Prop :=
  ∃ before later, requests = before ++ request :: later ∧
    (after before).reply request = .symbol symbol

/-- What an arena tells about a name in a namespace is what the requests for it were. -/
structure Reflects (requests : List Request) (id : NamespaceId) (text : String) : Prop where
  /-- A name that was ever exported stands for an external symbol, the one that the request was
  answered with. -/
  exported : ∀ symbol, Answered requests (.internExternal id text) symbol →
    (after requests).lookup? id text = some (.found symbol .external)
  /-- A name that was only interned stands for an internal symbol, again the answer. -/
  interned : ∀ symbol, Answered requests (.intern id text) symbol →
    (∀ other, ¬ Answered requests (.internExternal id text) other) →
    (after requests).lookup? id text = some (.found symbol .internal)
  /-- Any other name stands for nothing. -/
  missing : (∀ request : Request, request.IsFor id text →
      ∀ symbol, ¬ Answered requests request symbol) →
    (after requests).lookup? id text = some .missing
  /-- Every request for the name, made of the namespace when it was there, has the same answer:
  the symbol that the name stands for at last. -/
  answered : ∀ before (request : Request) later, requests = before ++ request :: later →
    request.IsFor id text → (after before).hasNamespace id = true →
    ∃ symbol visibility, (after before).reply request = .symbol symbol ∧
      (after requests).lookup? id text = some (.found symbol visibility)
  /-- The symbol has this name, this home and this visibility, and no other name anywhere stands
  for it. -/
  found : ∀ symbol visibility, (after requests).lookup? id text = some (.found symbol visibility) →
    (after requests).symbolName? symbol = some text ∧ (after requests).home? symbol = some id ∧
      (after requests).visibility? symbol = some visibility ∧
      ∀ other otherText otherVisibility,
        (after requests).lookup? other otherText = some (.found symbol otherVisibility) →
        other = id ∧ otherText = text
  /-- A renaming on the way changes none of this, whether it is granted or refused. -/
  renamed : ∀ before ns name nicknames later,
    requests = before ++ .rename ns name nicknames :: later →
    (after before).hasNamespace id = true →
    (after (before ++ [.rename ns name nicknames])).lookup? id text =
        (after before).lookup? id text ∧
      ∀ symbol,
        (after (before ++ [.rename ns name nicknames])).symbolName? symbol =
          (after before).symbolName? symbol ∧
        (after (before ++ [.rename ns name nicknames])).home? symbol =
          (after before).home? symbol ∧
        (after (before ++ [.rename ns name nicknames])).visibility? symbol =
          (after before).visibility? symbol

/-- A request is answered from the arena when it is from the table. -/
theorem answered_iff (room : (SymbolTable.empty.performAll requests).Fits) {request : Request} :
    Answered requests request symbol ↔ SymbolTable.Answered requests request symbol := by
  constructor
  · rintro ⟨before, later, rfl, hreply⟩
    rw [reply_after room, SymbolTable.reply_eq_symbol_iff] at hreply
    exact ⟨before, later, rfl, hreply⟩
  · rintro ⟨before, later, rfl, hanswer⟩
    rw [← SymbolTable.reply_eq_symbol_iff, ← reply_after room] at hanswer
    exact ⟨before, later, rfl, hanswer⟩

/-- An arena reflects the requests that were made to it: in every namespace every name stands for
what the requests for it were answered with. -/
theorem reflects_after {requests : List Request}
    (room : (SymbolTable.empty.performAll requests).Fits) {id : NamespaceId}
    (hid : (after requests).hasNamespace id = true) (text : String) :
    Reflects requests id text := by
  have hsame := represents_after room
  have hformed := (SymbolTable.Reachable.empty.performAll requests).wellFormed
  rw [hsame.hasNamespace_eq] at hid
  constructor
  case exported =>
    intro symbol hanswered
    rw [hsame.lookup?_eq]
    exact SymbolTable.lookup?_of_exported ((answered_iff room).1 hanswered)
  case interned =>
    intro symbol hanswered hnever
    rw [hsame.lookup?_eq]
    apply SymbolTable.lookup?_of_interned ((answered_iff room).1 hanswered)
    intro other hother
    exact hnever other ((answered_iff room).2 hother)
  case missing =>
    intro hnever
    rw [hsame.lookup?_eq]
    apply SymbolTable.lookup?_of_never hid
    intro request hfor symbol hanswered
    exact hnever request hfor symbol ((answered_iff room).2 hanswered)
  case answered =>
    rintro before request later rfl hfor hthere
    rw [(represents_after room.of_append).hasNamespace_eq] at hthere
    obtain ⟨symbol, visibility, hanswer, hfound⟩ := SymbolTable.exists_answer hfor hthere
    refine ⟨symbol, visibility, ?_, ?_⟩
    · rw [reply_after room, SymbolTable.reply_eq_symbol_iff]
      exact hanswer
    · rw [hsame.lookup?_eq]
      exact hfound
  case found =>
    intro symbol visibility hfound
    rw [hsame.lookup?_eq, hformed.lookup?_eq_found_iff] at hfound
    obtain ⟨howns, hvisibility⟩ := hfound
    rw [hsame.symbolName?_eq, hsame.home?_eq, hsame.visibility?_eq]
    refine ⟨howns.2, howns.1, hvisibility, ?_⟩
    intro other otherText otherVisibility hother
    rw [hsame.lookup?_eq, hformed.lookup?_eq_found_iff] at hother
    exact hother.1.unique howns
  case renamed =>
    rintro before ns name nicknames later rfl hthere
    rw [List.append_cons] at room
    have hbefore := represents_after room.of_append.of_append
    have hafter := represents_after room.of_append
    have hformed := (SymbolTable.Reachable.empty.performAll before).wellFormed
    rw [hbefore.hasNamespace_eq] at hthere
    rw [SymbolTable.performAll_concat] at hafter
    refine ⟨?_, fun symbol => ⟨?_, ?_, ?_⟩⟩
    · rw [hafter.lookup?_eq, hbefore.lookup?_eq]
      exact SymbolTable.lookup?_rename hformed hthere ns name nicknames
    · rw [hafter.symbolName?_eq, hbefore.symbolName?_eq, SymbolTable.perform,
        SymbolTable.symbolName?, SymbolTable.symbols_rename]
      rfl
    · rw [hafter.home?_eq, hbefore.home?_eq, SymbolTable.perform, SymbolTable.home?,
        SymbolTable.symbols_rename]
      rfl
    · rw [hafter.visibility?_eq, hbefore.visibility?_eq]
      exact SymbolTable.visibility?_rename _ ns name nicknames symbol

/-- One name in two namespaces, exported before it is interned again in the first one, and only
interned in the second one, which is renamed in between. The request that names no namespace has no
answer. -/
theorem reflects_after_twoNamespaces :
    let requests : List Request := [.internExternal ⟨1⟩ "X", .create "A", .create "B",
      .internExternal ⟨0⟩ "X", .intern ⟨1⟩ "X", .rename ⟨1⟩ "C" ["B"], .intern ⟨0⟩ "X"]
    (SymbolTable.empty.performAll requests).Fits ∧ (after requests).hasNamespace ⟨1⟩ = true ∧
      (after requests).lookup? ⟨0⟩ "X" = some (.found ⟨0⟩ .external) ∧
      (after requests).lookup? ⟨1⟩ "X" = some (.found ⟨1⟩ .internal) ∧
      (after requests).lookup? ⟨1⟩ "A" = some .missing ∧ Reflects requests ⟨1⟩ "X" := by
  intro requests
  have room : (SymbolTable.empty.performAll requests).Fits := ⟨by decide, by decide⟩
  have hsame := represents_after room
  have hid : (after requests).hasNamespace ⟨1⟩ = true := by
    rw [hsame.hasNamespace_eq]
    decide
  refine ⟨room, hid, ?_, ?_, ?_, reflects_after room hid "X"⟩
  all_goals
    rw [hsame.lookup?_eq]
    decide

end Arena

end AliasReader
