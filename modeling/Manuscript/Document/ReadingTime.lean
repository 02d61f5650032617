import Manuscript.Document.Basic
import Manuscript.Text.Blank

/-!
# Reading time

The estimate counts the words of the prose. Code and markup count as a gap between words. A node
ends a word unless it is one of the inline kinds that can stand inside a word.
-/

namespace Manuscript

/-- How long a document takes to read. -/
structure ReadingTime where
  /-- Number of words of prose. -/
  words : Nat
  /-- Number of minutes, rounded up. -/
  minutes : Nat
deriving DecidableEq, Repr

namespace Kind

/-- Whether a word may run across the border of a node of this kind. -/
def joinsWords : Kind → Bool
  | emphasis => true
  | strong => true
  | delete => true
  | mark => true
  | abbreviation _ => true
  | link _ _ => true
  | _ => false

end Kind

namespace Node

mutual

/-- The prose of a tree, with a blank wherever a word has to end. -/
def prose : Node → Text
  | ⟨.text value, _, _, _⟩ => value
  | ⟨.code _ _ _, _, _, _⟩ => [' ']
  | ⟨.inlineCode _, _, _, _⟩ => [' ']
  | ⟨.html _, _, _, _⟩ => [' ']
  | ⟨kind, children, _, _⟩ => proseList children ++ if kind.joinsWords then [] else [' ']

/-- The prose of a list of trees. -/
def proseList : List Node → Text
  | [] => []
  | node :: rest => prose node ++ proseList rest

end

end Node

namespace ReadingTime

/-- The most minutes an estimate gives. -/
def maxMinutes : Nat := 4294967295

/-- The reading time of a number of words. A rate of zero counts as one word per minute. -/
def ofWords (words wordsPerMinute : Nat) : ReadingTime :=
  let rate := max wordsPerMinute 1
  { words, minutes := min ((words + rate - 1) / rate) maxMinutes }

/-- The reading time of a document. -/
def estimate (tree : Node) (wordsPerMinute : Nat) : ReadingTime :=
  ofWords (Text.words tree.prose).length wordsPerMinute

end ReadingTime

end Manuscript
