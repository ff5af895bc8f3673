/-!
# Spans

A span is a range of byte offsets into a source text.
-/

namespace AliasReader

/-- The bytes from `start` up to, not including, `stop`. -/
structure Span where
  /-- The offset of the first byte. -/
  start : Nat
  /-- The offset behind the last byte. -/
  stop : Nat
deriving DecidableEq, Repr, Inhabited

namespace Span

/-- The span of things that come from no source text. -/
def none : Span := ⟨0, 0⟩

/-- The number of bytes of a span. A span that stops before it starts has length 0 here. In numbers
of 32 bits the difference does not exist then: it is a fault where overflow is checked, and wraps
around where it is not. -/
def length (span : Span) : Nat :=
  span.stop - span.start

/-- Whether a span holds no byte. -/
def isEmpty (span : Span) : Bool :=
  span.start == span.stop

/-- The span moved towards the end of the text by `offset` bytes. -/
def shift (span : Span) (offset : Nat) : Span :=
  ⟨span.start + offset, span.stop + offset⟩

/-- The two offsets with two dots between them. -/
def inspect (span : Span) : String :=
  toString span.start ++ ".." ++ toString span.stop

end Span

end AliasReader
