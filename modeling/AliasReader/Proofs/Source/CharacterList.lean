import AliasReader.Proofs.Source.ByteCursor

/-!
# Cursors as Lists of Characters

A character that is put back either moves the place in the source text or waits in front of it,
and a character from elsewhere may happen to be the one before the place. None of this shows: over
any course of requests a cursor answers as the plain list of the characters still to be read does,
and its offset can be told from that list. In bytes the same requests always have an answer.

## Main definitions

* `Cursor.Request` and `Cursor.Answer`: what can be asked of a cursor, and what it answers;
* `Cursor.answer`, `Cursor.answerFrom` and `ByteCursor.answer?`: the answers of a cursor, of a list
  of characters, and of a byte form;
* `Cursor.serve?`: the answers to a course of requests;
* `Cursor.ReadsAsList`: what a course of requests leads to.

## Main results

* `Cursor.answer_eq` and `Cursor.answer?_toBytes`: the three answer one request alike;
* `Cursor.exists_readsAsList`: they answer every course of requests alike.
-/

namespace AliasReader

namespace Cursor

/-- What can be asked of a cursor. -/
inductive Request where
  /-- Tell the next character. -/
  | peek
  /-- Take the next character. -/
  | next
  /-- Put a character in front. -/
  | unread (c : Char)
  /-- Tell whether every character has been read. -/
  | isAtEnd
  /-- Pass over the longest run of characters that satisfy `p`. -/
  | skipWhile (p : Char → Bool)

/-- What a request is answered with. -/
inductive Answer where
  /-- A character, or none at the end. -/
  | character (c : Option Char)
  /-- Yes or no. -/
  | truth (holds : Bool)
  /-- Nothing is told. -/
  | done
deriving DecidableEq, Repr

/-- The answer of a cursor, and the cursor afterwards. -/
def answer (cursor : Cursor) : Request → Answer × Cursor
  | .peek => (.character cursor.peek?, cursor)
  | .next => (.character cursor.next?.1, cursor.next?.2)
  | .unread c => (.done, cursor.unread c)
  | .isAtEnd => (.truth cursor.isAtEnd, cursor)
  | .skipWhile p => (.done, cursor.skipWhile p)

/-- The answer of a list of characters, and the list afterwards. -/
def answerFrom (cs : List Char) : Request → Answer × List Char
  | .peek => (.character cs.head?, cs)
  | .next => (.character cs.head?, cs.tail)
  | .unread c => (.done, c :: cs)
  | .isAtEnd => (.truth cs.isEmpty, cs)
  | .skipWhile p => (.done, cs.dropWhile p)

/-- The answers to a course of requests, and the state afterwards. There are none if one of the
requests has no answer. -/
def serve? {σ : Type} (answer? : σ → Request → Option (Answer × σ)) :
    List Request → σ → Option (List Answer × σ)
  | [], state => some ([], state)
  | request :: rest, state => do
      let (first, state) ← answer? state request
      let (others, state) ← serve? answer? rest state
      return (first :: others, state)

end Cursor

/-- The answer of a byte form, and the byte form afterwards. There is none where the text would be
cut inside a character. -/
def ByteCursor.answer? (cursor : ByteCursor) :
    Cursor.Request → Option (Cursor.Answer × ByteCursor)
  | .peek => cursor.peek?.map fun c => (.character c, cursor)
  | .next => cursor.next?.map fun (c, after) => (.character c, after)
  | .unread c => (cursor.unread c).map fun after => (.done, after)
  | .isAtEnd => cursor.isAtEnd.map fun holds => (.truth holds, cursor)
  | .skipWhile p => (cursor.skipWhile p).map fun after => (.done, after)

namespace Cursor

/-- A cursor answers a request as its remaining characters do. -/
theorem answer_eq (cursor : Cursor) (request : Request) :
    answerFrom cursor.remaining request =
      ((cursor.answer request).1, (cursor.answer request).2.remaining) := by
  cases request with
  | peek => rfl
  | next => rw [answerFrom, answer, next?, remaining_advance, peek?]
  | unread c => rw [answerFrom, answer, remaining_unread]
  | isAtEnd =>
    rw [answerFrom, answer, isAtEnd, peek?]
    cases cursor.remaining <;> rfl
  | skipWhile p => rw [answerFrom, answer, remaining_skipWhile]

/-- A request leaves the source text. -/
theorem source_answer (cursor : Cursor) (request : Request) :
    (cursor.answer request).2.source = cursor.source := by
  cases request with
  | peek => rfl
  | next => exact cursor.source_advance
  | unread c => exact cursor.source_unread c
  | isAtEnd => rfl
  | skipWhile p => exact cursor.source_skipWhile p

/-- The byte form of a cursor has an answer to every request, that of the cursor. -/
theorem answer?_toBytes (cursor : Cursor) (request : Request) :
    cursor.toBytes.answer? request =
      some ((cursor.answer request).1, (cursor.answer request).2.toBytes) := by
  cases request with
  | peek => rw [ByteCursor.answer?, peek?_toBytes, answer, Option.map_some]
  | next => rw [ByteCursor.answer?, next?_toBytes, answer, Option.map_some]
  | unread c => rw [ByteCursor.answer?, unread_toBytes, answer, Option.map_some]
  | isAtEnd => rw [ByteCursor.answer?, isAtEnd_toBytes, answer, Option.map_some]
  | skipWhile p => rw [ByteCursor.answer?, skipWhile_toBytes, answer, Option.map_some]

/-- What answers one request as a cursor does answers a course of requests as the cursor does. -/
theorem exists_serve?_eq {σ τ : Type} (answer? : σ → Request → Option (Answer × σ))
    (answer?' : τ → Request → Option (Answer × τ)) {view : Cursor → σ} {view' : Cursor → τ}
    (h : ∀ cursor request, answer? (view cursor) request =
      some ((cursor.answer request).1, view (cursor.answer request).2))
    (h' : ∀ cursor request, answer?' (view' cursor) request =
      some ((cursor.answer request).1, view' (cursor.answer request).2))
    (requests : List Request) (cursor : Cursor) :
    ∃ answers after, after.source = cursor.source ∧
      serve? (fun cursor request => some (answer cursor request)) requests cursor =
        some (answers, after) ∧
      serve? answer? requests (view cursor) = some (answers, view after) ∧
      serve? answer?' requests (view' cursor) = some (answers, view' after) := by
  -- by induction on the requests; the first answer leads all three to forms of one cursor
  induction requests generalizing cursor with
  | nil => exact ⟨[], cursor, rfl, rfl, rfl, rfl⟩
  | cons request rest ih =>
    obtain ⟨answers, after, hsource, hcursor, hview, hview'⟩ := ih (cursor.answer request).2
    refine ⟨(cursor.answer request).1 :: answers, after,
      hsource.trans (cursor.source_answer request), ?_, ?_, ?_⟩
    · simp [serve?, hcursor]
    · simp [serve?, h, hview]
    · simp [serve?, h', hview']

/-- From the start of a source text, a course of requests leads a cursor to a later one, with the
answers that the list of the characters of the text gives. -/
structure ReadsAsList (source : String) (requests : List Request) (answers : List Answer)
    (after : Cursor) : Prop where
  /-- The cursor gives the answers. -/
  cursor : serve? (fun cursor request => some (answer cursor request)) requests
    (ofString source) = some (answers, after)
  /-- The list of characters gives the same answers, and what it holds at last remains. -/
  list : serve? (fun cs request => some (answerFrom cs request)) requests source.toList =
    some (answers, after.remaining)
  /-- In bytes every request has an answer, again the same one. -/
  bytes : serve? ByteCursor.answer? requests (.ofString source) = some (answers, after.toBytes)
  /-- The offset counts the bytes of the text without those that remain, and is 0 when more bytes
  remain than the text has. -/
  offset : after.offset = byteLength source.toList - byteLength after.remaining
  /-- In bytes the offset is the same one. -/
  offset_bytes : after.toBytes.offset.toNat = after.offset
  /-- The place in the text lies between two characters. -/
  place : String.Pos.Raw.IsValid source ⟨after.toBytes.place⟩
  /-- A character that is taken and put back leaves the cursor as it was, in bytes, too. -/
  restored : ∀ c, after.next?.1 = some c → after.next?.2.unread c = after ∧
    serve? ByteCursor.answer? [.next, .unread c] after.toBytes =
      some ([.character (some c), .done], after.toBytes)

/-- A cursor is a list of characters. Whatever is asked of it, characters put back that come from
elsewhere included, it answers as the list of the characters still to be read. Its offset can be
told from the list, and its place in the text is always one that the text can be cut at. -/
theorem exists_readsAsList {source : String} (hsize : source.utf8ByteSize < UInt32.size)
    (requests : List Request) : ∃ answers after, ReadsAsList source requests answers after := by
  obtain ⟨answers, after, hsource, hcursor, hlist, hbytes⟩ :=
    exists_serve?_eq (fun cs request => some (answerFrom cs request)) ByteCursor.answer?
      (fun cursor request => congrArg some (cursor.answer_eq request)) answer?_toBytes requests
      (ofString source)
  rw [source_ofString] at hsource
  rw [toBytes_ofString] at hbytes
  rw [remaining_ofString] at hlist
  refine ⟨answers, after, hcursor, hlist, hbytes, ?_, ?_, ?_, ?_⟩
  · rw [offset_eq, hsource]
  · exact toNat_offset_toBytes (hsource ▸ hsize)
  · have hplace := after.isValid_passed
    rwa [hsource] at hplace
  · intro c hc
    have hback : after.next?.2.unread c = after := unread_advance hc
    refine ⟨hback, ?_⟩
    have hnext := after.answer?_toBytes .next
    have hunread := after.next?.2.answer?_toBytes (.unread c)
    simp only [answer] at hnext hunread
    simp [serve?, hnext, hunread, hback, hc]

/-- In a text of two-byte letters a foreign character is put back and read, and another one, put
back from nowhere, happens to be the letter before the place. At last more bytes remain than the
text has. -/
theorem exists_readsAsList_coincidence :
    let requests : List Request := [.next, .unread '#', .next, .unread 'λ', .peek,
      .skipWhile (· = 'λ'), .peek, .unread 'é', .unread 'λ', .unread 'é', .isAtEnd]
    "λλx".utf8ByteSize < UInt32.size ∧
      ∃ after, after.remaining = ['é', 'λ', 'é', 'x'] ∧ after.offset = 0 ∧
        ReadsAsList "λλx" requests [.character (some 'λ'), .done, .character (some '#'), .done,
          .character (some 'λ'), .done, .character (some 'x'), .done, .done, .done,
          .truth false] after := by
  intro requests
  have hsize : "λλx".utf8ByteSize < UInt32.size := by decide
  obtain ⟨answers, after, h⟩ := exists_readsAsList hsize requests
  obtain ⟨hanswers, hremaining⟩ := Prod.mk.inj (Option.some.inj h.list)
  subst hanswers
  refine ⟨hsize, after, hremaining.symm, ?_, h⟩
  rw [h.offset, ← hremaining]
  rfl

end Cursor

end AliasReader
