import AliasReader.Text.ByteLength

/-!
# Lines

A byte offset into a source text stands in one line of it. `Line.at?` finds the line by
cutting the text at the offset and going back and forth to the nearest newlines.
-/

namespace AliasReader

/-- A place in a source text, described by its line. -/
structure Line where
  /-- The number of the line, the first one being 1. -/
  number : Nat
  /-- The number of bytes of the line in front of the place. -/
  column : Nat
  /-- The text of the line, without its newline. -/
  text : List Char
deriving DecidableEq, Repr

namespace Line

/-- What there is at a byte offset of a text. -/
inductive Location where
  /-- The offset is larger than the text. -/
  | outside
  /-- The offset is not on a boundary between two characters. -/
  | insideCharacter
  /-- The offset stands in a line. -/
  | inLine (line : Line)
deriving DecidableEq, Repr

/-- The line at the place between two parts of a text. -/
def between (before after : List Char) : Line :=
  let lead := before.reverse.takeWhile (· ≠ '\n')
  { number := before.count '\n' + 1
    column := byteLength lead
    text := lead.reverse ++ after.takeWhile (· ≠ '\n') }

/-- Find the line of a byte offset. -/
def locate (source : List Char) (offset : Nat) : Location :=
  if byteLength source < offset then .outside
  else match splitAtByte? source offset with
    | none => .insideCharacter
    | some (before, after) => .inLine (between before after)

/-- A boundary between two parts of a text is always located. -/
theorem locate_append (before after : List Char) :
    locate (before ++ after) (byteLength before) = .inLine (between before after) := by
  have hle : ¬ byteLength before + byteLength after < byteLength before := by omega
  simp [locate, splitAtByte?_append, hle]

end Line

end AliasReader
