import AliasReader.Unicode.HiddenTable

/-!
# Quoted Text

The written form of a text between quotes. The quote itself and the backslash are escaped
by a backslash, four control characters have a short escape, and every other character
that shows nothing of its own is written by its code point.
-/

namespace AliasReader

namespace Quoted

/-- Whether a character shows nothing of its own when printed. -/
def isHidden (c : Char) : Bool :=
  Unicode.hasRun Unicode.hiddenRuns c.toNat

/-- A code point between braces, in lowercase hexadecimal digits. -/
def codePoint (c : Char) : List Char :=
  ['\\', 'u', '\x7b'] ++ Nat.toDigits 16 c.toNat ++ ['\x7d']

/-- One character as it stands between two `quote` characters. -/
def escape (quote c : Char) : List Char :=
  if c = '\x00' then ['\\', '0']
  else if c = '\t' then ['\\', 't']
  else if c = '\r' then ['\\', 'r']
  else if c = '\n' then ['\\', 'n']
  else if c = quote || c = '\\' then ['\\', c]
  else if isHidden c then codePoint c
  else [c]

/-- The characters of a text between double quotes. -/
def textChars (cs : List Char) : List Char :=
  '"' :: cs.flatMap (escape '"') ++ ['"']

/-- A text between double quotes. -/
def text (s : String) : String :=
  String.ofList (textChars s.toList)

/-- A character between single quotes. -/
def char (c : Char) : String :=
  String.ofList ('\'' :: escape '\'' c ++ ['\''])

/-- The empty text is written as two quotes. -/
theorem text_empty : text "" = "\"\"" := by decide

end Quoted

end AliasReader
