import Manuscript.Document.TextSubstitution
import Manuscript.Text.Blank
import Manuscript.Text.DecimalDigit
import Manuscript.Text.WordCharacter

/-!
# Typographic replacements

Arrows, plus-minus, fractions and the multiplication sign. The rules run one after the other, longer
sequences first. Each rule has a name by which it can be switched off; the two rules for a left
arrow share theirs.
-/

namespace Manuscript

/-- What a replacement rule looks for. -/
inductive Replacement.Search where
  /-- One of several literal texts. -/
  | literals (needles : List Text)
  /-- A literal text that a character must not follow. -/
  | unlessFollowed (needle : Text) (forbidden : Char)
  /-- A literal text that is a word by itself. -/
  | wholeWord (needle : Text)
  /-- Two numbers with a letter x between them. -/
  | product
deriving DecidableEq, Repr

/-- A replacement rule. -/
structure Replacement where
  /-- Name in options. -/
  name : Text
  /-- What is looked for. -/
  search : Replacement.Search
  /-- What takes its place. -/
  image : Text
deriving DecidableEq, Repr

namespace Replacement

/-- All rules, in the order in which they run. -/
def all : List Replacement :=
  [ ⟨"arrow_double_lr".toList, .literals ["<==>".toList], ['⇔']⟩,
    ⟨"arrow_double_right".toList, .literals ["==>".toList], ['⇒']⟩,
    ⟨"arrow_double_left".toList, .unlessFollowed "<==".toList '=', ['⇐']⟩,
    ⟨"arrow_lr".toList, .literals ["<-->".toList, "<—>".toList], ['↔']⟩,
    ⟨"arrow_right".toList, .literals ["-->".toList, "—>".toList], ['→']⟩,
    ⟨"arrow_left".toList, .unlessFollowed "<--".toList '-', ['←']⟩,
    ⟨"arrow_left".toList, .unlessFollowed "<—".toList '—', ['←']⟩,
    ⟨"plusminus".toList, .literals ["+-".toList], ['±']⟩,
    ⟨"onehalf".toList, .wholeWord "1/2".toList, ['½']⟩,
    ⟨"onequarter".toList, .wholeWord "1/4".toList, ['¼']⟩,
    ⟨"threequarters".toList, .wholeWord "3/4".toList, ['¾']⟩,
    ⟨"multiplication".toList, .product, ['×']⟩ ]

/-- Names of a list of rules, with neighbours of one name counted once. -/
def distinctNames : List Replacement → List Text
  | [] => []
  | [rule] => [rule.name]
  | rule :: next :: rest =>
    if rule.name = next.name then distinctNames (next :: rest)
    else rule.name :: distinctNames (next :: rest)

/-- The names of the rules. -/
def names : List Text :=
  distinctNames all

/-- Whether a place between two characters is not inside a word, given that one of the two is a word
character; `neighbour` is the other one. -/
def isWordEdge (neighbour : Option Char) : Bool :=
  !neighbour.any Text.isWordCharacter

/-- Reads two numbers with a letter x between them. -/
def product? (text : Text) : Option (Text × Text × Text) :=
  let first := text.takeWhile Text.isDecimalDigit
  match first, (text.dropWhile Text.isDecimalDigit).dropWhile Text.isBlank with
  | _ :: _, x :: rest =>
    if x = 'x' || x = 'X' then
      let rest := rest.dropWhile Text.isBlank
      let second := rest.takeWhile Text.isDecimalDigit
      let after := rest.dropWhile Text.isDecimalDigit
      if !second.isEmpty && isWordEdge after.head? then some (first, second, after) else none
    else none
  | _, _ => none

/-- Looks for a rule at the start of a text, after the character `before`. Gives what is written in
place of the part that was looked at, and what follows that part. -/
def matchAt? (rule : Replacement) (before : Option Char) (text : Text) : Option (Text × Text) :=
  match rule.search with
  | .literals needles =>
    needles.findSome? fun needle => (Text.dropFront? needle text).map (rule.image, ·)
  | .unlessFollowed needle forbidden =>
    (Text.dropFront? needle text).map fun after =>
      (if after.head? = some forbidden then needle else rule.image, after)
  | .wholeWord needle => do
    let after ← Text.dropFront? needle text
    guard (isWordEdge before && isWordEdge after.head?)
    return (rule.image, after)
  | .product => do
    guard (isWordEdge before)
    let (first, second, after) ← product? text
    return (first ++ ' ' :: rule.image ++ ' ' :: second, after)

/-- Applies a rule from left to right, after the character `before`. The next `skip` characters
belong to a place that was found before. -/
def applyFrom (rule : Replacement) (before : Option Char) (skip : Nat) : Text → Text
  | [] => []
  | c :: rest =>
    if 0 < skip then applyFrom rule (some c) (skip - 1) rest
    else
      match matchAt? rule before (c :: rest) with
      | some (image, after) => image ++ applyFrom rule (some c) (rest.length - after.length) rest
      | none => c :: applyFrom rule (some c) 0 rest

/-- Applies a list of rules to a text, one after the other. -/
def applyAll (rules : List Replacement) (text : Text) : Text :=
  rules.foldl (fun text rule => applyFrom rule none 0 text) text

/-- The rules that are left when some are switched off. -/
def active (disabled : List Text) : List Replacement :=
  all.filter fun rule => !disabled.contains rule.name

/-- The first name that is no rule's. -/
def unknown? (disabled : List Text) : Option Text :=
  disabled.find? fun name => !names.contains name

/-- Applies rules to the texts of a document. -/
def replaceTexts (rules : List Replacement) (tree : Node) : Node :=
  tree.substituteTexts fun value node =>
    let replaced := applyAll rules value
    if replaced = value then none else some [node.withText replaced]

end Replacement

end Manuscript
