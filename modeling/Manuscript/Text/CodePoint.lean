import Manuscript.Text.Basic

/-!
# Sets and maps of code points

Unicode properties are lists of ranges in increasing order. Case maps are lists of runs: the code
points of a run stand one or two apart and all move by the same offset.
-/

namespace Manuscript.Text

/-- Whether a code point lies in one of the ranges, which are in increasing order. -/
def inRanges (code : Nat) : List (Nat × Nat) → Bool
  | [] => false
  | (low, high) :: rest => if code < low then false else code ≤ high || inRanges code rest

/-- The code points `first`, `first + step`, … `last`, each mapped to itself plus `offset`. -/
structure ShiftRun where
  /-- The first code point of the run. -/
  first : Nat
  /-- The last code point of the run. -/
  last : Nat
  /-- The distance between neighbours in the run. -/
  step : Nat
  /-- What is added to a code point of the run. -/
  offset : Int
deriving DecidableEq, Repr

namespace ShiftRun

/-- Whether a code point belongs to a run. -/
def contains (run : ShiftRun) (code : Nat) : Bool :=
  run.first ≤ code && code ≤ run.last && (code - run.first) % run.step == 0

/-- The characters of a run that are mapped to `image`. -/
def sources (run : ShiftRun) (image : Char) : List Char :=
  let code := (image.toNat - run.offset : Int).toNat
  if run.contains code then [Char.ofNat code] else []

end ShiftRun

/-- Maps a character by the run that it belongs to, and leaves every other character alone. -/
def shiftChar (runs : List ShiftRun) (c : Char) : Char :=
  match runs.find? (fun run => run.contains c.toNat) with
  | some run => Char.ofNat (c.toNat + run.offset).toNat
  | none => c

end Manuscript.Text
