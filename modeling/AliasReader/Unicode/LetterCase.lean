import AliasReader.Unicode.CaseTables

/-!
# Letter Case of a Character

The case properties and one-character case mappings of `Char`, over all of Unicode.
-/

namespace AliasReader.Unicode

/-- Whether a character has the Unicode property `Uppercase`. -/
def isUppercase (c : Char) : Bool :=
  hasRun uppercaseRuns c.toNat

/-- Whether a character has the Unicode property `Lowercase`. -/
def isLowercase (c : Char) : Bool :=
  hasRun lowercaseRuns c.toNat

/-- The uppercase form of a character, or the character itself when its uppercase form is
not a single character. -/
def toUppercase (c : Char) : Char :=
  mapped uppercaseShifts c

/-- The lowercase form of a character, or the character itself when its lowercase form is
not a single character. -/
def toLowercase (c : Char) : Char :=
  mapped lowercaseShifts c

end AliasReader.Unicode
