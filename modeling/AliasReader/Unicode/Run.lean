/-!
# Runs of Code Points

Character properties and one-character mappings are stored as ascending lists of runs. A
run is an arithmetic progression of code points; step two covers the scripts whose upper-
and lowercase letters alternate.
-/

namespace AliasReader.Unicode

/-- The code points `first`, `first + step`, … up to `last`. -/
structure Run where
  /-- The least code point of the run. -/
  first : Nat
  /-- The greatest code point of the run. -/
  last : Nat
  /-- The distance between neighbours. -/
  step : Nat
deriving DecidableEq, Repr

/-- A run whose code points all map to the code point `shift` further on. -/
structure ShiftedRun where
  /-- The code points that are mapped. -/
  run : Run
  /-- The distance from a code point to its image. -/
  shift : Int
deriving DecidableEq, Repr

/-- Whether a code point belongs to a run. -/
def Run.covers (run : Run) (code : Nat) : Bool :=
  run.first ≤ code && code ≤ run.last && (code - run.first) % run.step == 0

/-- Whether a code point belongs to one of the runs, which ascend by their first member. -/
def hasRun : List Run → Nat → Bool
  | [], _ => false
  | run :: rest, code =>
      if code < run.first then false else run.covers code || hasRun rest code

/-- The shift of the first run that holds a code point; the runs ascend by their first
member. -/
def shiftOf? : List ShiftedRun → Nat → Option Int
  | [], _ => none
  | entry :: rest, code =>
      if code < entry.run.first then none
      else if entry.run.covers code then some entry.shift
      else shiftOf? rest code

/-- The character a table maps `c` to, which is `c` itself when no run holds it. -/
def mapped (table : List ShiftedRun) (c : Char) : Char :=
  match shiftOf? table c.toNat with
  | some shift => Char.ofNat (c.toNat + shift).toNat
  | none => c

/-- A character that no run holds is mapped to itself. -/
theorem mapped_eq_self {table : List ShiftedRun} {c : Char}
    (h : shiftOf? table c.toNat = none) : mapped table c = c := by
  simp [mapped, h]

end AliasReader.Unicode
