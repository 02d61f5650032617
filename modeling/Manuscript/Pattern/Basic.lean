import Manuscript.Text.Blank
import Manuscript.Text.CaseFolding
import Manuscript.Text.DecimalDigit
import Manuscript.Text.Letter
import Manuscript.Text.WordCharacter

/-!
# Patterns

A pattern describes texts. It is built from sets of characters and conditions on the place between
two characters, by sequence, choice and repetition. Matching keeps the set of places that a pattern
can end at, so it needs no backtracking and does not depend on which of several matches is
preferred.
-/

namespace Manuscript

/-- A set of characters, as a pattern describes it. -/
inductive CharSet where
  | none
  | any
  /-- The characters from the first to the second, both included. -/
  | range (low high : Char)
  /-- Decimal digits. -/
  | digit
  /-- White space. -/
  | blank
  /-- Word characters: letters, marks, digits, connectors and joiners. -/
  | word
  | letter
  | union (left right : CharSet)
  | intersection (left right : CharSet)
  | complement (set : CharSet)
  /-- The characters of a set and those that differ from one of them only in letter case. -/
  | folded (set : CharSet)
deriving DecidableEq, Repr

namespace CharSet

/-- Whether a character is in a set. -/
def contains : CharSet → Char → Bool
  | none, _ => false
  | any, _ => true
  | range low high, c => low ≤ c && c ≤ high
  | digit, c => Text.isDecimalDigit c
  | blank, c => Text.isBlank c
  | word, c => Text.isWordCharacter c
  | letter, c => Text.isLetter c
  | union left right, c => left.contains c || right.contains c
  | intersection left right, c => left.contains c && right.contains c
  | complement set, c => !set.contains c
  | folded set, c => set.contains c || (Text.foldOrbit c).any set.contains

/-- The set of one character. -/
def single (c : Char) : CharSet :=
  range c c

/-- The characters of the first set that are not in the second. -/
def difference (left right : CharSet) : CharSet :=
  intersection left (complement right)

/-- The characters that are in exactly one of two sets. -/
def symmetricDifference (left right : CharSet) : CharSet :=
  union (difference left right) (difference right left)

/-- A set of ASCII characters given by ranges. -/
def ofRanges (ranges : List (Char × Char)) : CharSet :=
  ranges.foldr (fun (low, high) set => union (range low high) set) none

end CharSet

/-- A condition on the place between two characters. -/
inductive Boundary where
  | textStart
  | textEnd
  | lineStart
  | lineEnd
  /-- A word character on exactly one side. -/
  | wordEdge
  /-- A word character on both sides or on neither. -/
  | noWordEdge
  | wordStart
  | wordEnd
deriving DecidableEq, Repr

namespace Boundary

/-- Whether a condition holds between the given characters; a missing one is an end of the text. -/
def holds (before after : Option Char) : Boundary → Bool
  | textStart => before.isNone
  | textEnd => after.isNone
  | lineStart => before.all (· = '\n')
  | lineEnd => after.all (· = '\n')
  | wordEdge => before.any Text.isWordCharacter != after.any Text.isWordCharacter
  | noWordEdge => before.any Text.isWordCharacter == after.any Text.isWordCharacter
  | wordStart => !before.any Text.isWordCharacter && after.any Text.isWordCharacter
  | wordEnd => before.any Text.isWordCharacter && !after.any Text.isWordCharacter

end Boundary

/-- A pattern over texts. -/
inductive Pattern where
  | empty
  | one (set : CharSet)
  | boundary (condition : Boundary)
  | sequence (first second : Pattern)
  | choice (left right : Pattern)
  /-- At least `least` and, if there is a bound, at most `most` times the pattern. -/
  | repetition (least : Nat) (most : Option Nat) (body : Pattern)
deriving DecidableEq, Repr

namespace Pattern

/-- The union of two lists of numbers, without repetition. -/
def merge (left right : List Nat) : List Nat :=
  left ++ right.filter fun place => !left.contains place

/-- The places that can be reached from `places` by at most `count` steps. -/
def reachWithin (step : List Nat → List Nat) : Nat → List Nat → List Nat
  | 0, places => places
  | count + 1, places =>
    let next := step places
    if next.all places.contains then places else reachWithin step count (merge places next)

/-- The places in a text that a pattern can end at when it begins at one of the given places. -/
def ends (chars : Array Char) : Pattern → List Nat → List Nat
  | empty, places => places
  | one set, places =>
    places.filterMap fun place =>
      match chars[place]? with
      | some c => if set.contains c then some (place + 1) else none
      | none => none
  | boundary condition, places =>
    places.filter fun place =>
      condition.holds (if place = 0 then none else chars[place - 1]?) chars[place]?
  | sequence first second, places => ends chars second (ends chars first places)
  | choice left right, places => merge (ends chars left places) (ends chars right places)
  | repetition least most body, places =>
    let started := Nat.repeat (ends chars body) least places
    reachWithin (ends chars body)
      (match most with | some most => most - least | none => chars.size + 1)
      started

/-- Whether a pattern matches some part of a text. -/
def occursIn (pattern : Pattern) (text : Text) : Bool :=
  let chars := text.toArray
  !(pattern.ends chars (List.range (chars.size + 1))).isEmpty

end Pattern

end Manuscript
