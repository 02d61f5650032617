import Manuscript.Document.Basic
import Manuscript.Text.Blank

/-!
# Abbreviations

A paragraph made of lines `*[NAME]: Title` defines abbreviations and is removed. Elsewhere every use
of a name that touches no ASCII letter becomes an abbreviation node with the title. Longer names are
looked for first, and of several definitions of one name the last one counts.
-/

namespace Manuscript

/-- A name and what it stands for. -/
structure Abbreviation where
  /-- The short form. -/
  name : Text
  /-- The long form. -/
  title : Text
deriving DecidableEq, Repr

namespace Abbreviation

/-- Reads one trimmed line `*[NAME]: Title`. -/
def ofLine? : Text → Option Abbreviation
  | '*' :: '[' :: rest =>
    let name := rest.takeWhile (· ≠ ']')
    match name, rest.dropWhile (· ≠ ']') with
    | _ :: _, ']' :: ':' :: title =>
      if title.isEmpty then none else some { name, title := Text.trim title }
    | _, _ => none
  | _ => none

/-- The definitions of a paragraph that holds definition lines and nothing else. -/
def ofParagraph? (node : Node) : Option (List Abbreviation) :=
  match node.kind, node.children with
  | .paragraph, [⟨.text value, _, _, _⟩] =>
    let lines := ((Text.lines value).map Text.trim).filter fun line => !line.isEmpty
    if lines.isEmpty then none else lines.mapM ofLine?
  | _, _ => none

mutual

/-- Removes the definition paragraphs below a node. -/
def removeDefinitions : Node → Node
  | ⟨kind, children, data, span⟩ => ⟨kind, removeDefinitionList children, data, span⟩

/-- Removes the definition paragraphs of a list of siblings and below them. -/
def removeDefinitionList : List Node → List Node
  | [] => []
  | node :: rest =>
    match ofParagraph? node with
    | some _ => removeDefinitionList rest
    | none => removeDefinitions node :: removeDefinitionList rest

end

mutual

/-- The definitions below a node, in document order. -/
def definitions : Node → List Abbreviation
  | ⟨_, children, _, _⟩ => definitionList children

/-- The definitions in a list of siblings, in document order. -/
def definitionList : List Node → List Abbreviation
  | [] => []
  | node :: rest => (ofParagraph? node).getD (definitions node) ++ definitionList rest

end

/-- Keeps the last definition of every name. -/
def lastDefinitions : List Abbreviation → List Abbreviation
  | [] => []
  | entry :: rest =>
    if rest.any (·.name = entry.name) then lastDefinitions rest else entry :: lastDefinitions rest

/-- Longer names come first; names of one length are in the order of their characters. -/
def precedes (a b : Abbreviation) : Bool :=
  let m := Text.byteLength a.name
  let n := Text.byteLength b.name
  n < m || (m == n && !List.lex b.name a.name fun c d => c.toNat < d.toNat)

/-- The abbreviations of a document in the order in which they are looked for. -/
def ofDocument (tree : Node) : List Abbreviation :=
  (lastDefinitions (definitions tree)).mergeSort precedes

/-- A use of an abbreviation: where it begins in a text, in characters, and what it stands for. -/
structure Use where
  /-- Number of characters before the use. -/
  start : Nat
  /-- The abbreviation that is used. -/
  entry : Abbreviation
deriving Repr

namespace Use

/-- Number of characters up to the end of a use. -/
def stop (use : Use) : Nat :=
  use.start + use.entry.name.length

/-- Whether two uses share a character. -/
def overlaps (a b : Use) : Bool :=
  a.start < b.stop && b.start < a.stop

/-- Whether an ASCII letter stands directly before or after a use. -/
def touchesLetter (text : Text) (use : Use) : Bool :=
  (0 < use.start && (text[use.start - 1]?).any Char.isAlpha) || (text[use.stop]?).any Char.isAlpha

/-- Adds a use to a list in order of position. -/
def insert (use : Use) : List Use → List Use
  | [] => [use]
  | other :: rest =>
    if use.start ≤ other.start then use :: other :: rest else other :: insert use rest

end Use

/-- Where a name occurs, in characters and from left to right. The next `skip` characters belong to
an occurrence that has been found; `start` is the position of the text. -/
def occurrences (name : Text) (skip start : Nat) : Text → List Nat
  | [] => []
  | c :: rest =>
    if 0 < skip then occurrences name (skip - 1) (start + 1) rest
    else if name.isPrefixOf (c :: rest) then
      start :: occurrences name (name.length - 1) (start + 1) rest
    else occurrences name 0 (start + 1) rest

/-- Adds the uses of one abbreviation to those that were found before, which win where they
overlap. -/
def addUses (text : Text) (found : List Use) (entry : Abbreviation) : List Use :=
  (occurrences entry.name 0 0 text).foldl
    (fun found start =>
      let use : Use := { start, entry }
      if found.any (Use.overlaps use) || use.touchesLetter text then found else use.insert found)
    found

/-- All uses of abbreviations in a text, from left to right. -/
def uses (entries : List Abbreviation) (text : Text) : List Use :=
  entries.foldl (addUses text) []

/-- The node for a use. -/
def node (entry : Abbreviation) : Node :=
  { kind := .abbreviation entry.title, children := [Node.text entry.name] }

/-- Cuts the rest of a text, which begins after `position` characters, around its uses. With
`expandFirst` the first use of every name in the document is written out; `expanded` holds the names
for which that has happened. -/
def cut (expandFirst : Bool) (position : Nat) (text : Text) :
    List Use → List Text → List Node × List Text
  | [], expanded => (Node.ofText text, expanded)
  | use :: rest, expanded =>
    let before := text.take (use.start - position)
    let after := text.drop (use.stop - position)
    let entry := use.entry
    if expandFirst && !expanded.contains entry.name then
      let (nodes, expanded) := cut expandFirst use.stop after rest (expanded ++ [entry.name])
      (Node.ofText before ++ Node.text (entry.title ++ " (".toList) :: node entry
        :: Node.text ")".toList :: nodes, expanded)
    else
      let (nodes, expanded) := cut expandFirst use.stop after rest expanded
      (Node.ofText before ++ node entry :: nodes, expanded)

mutual

/-- Marks the uses of abbreviations below a node. -/
def markUses (expandFirst : Bool) (entries : List Abbreviation) :
    Node → List Text → Node × List Text
  | ⟨kind, children, data, span⟩, expanded =>
    let (children, expanded) := markUseList expandFirst entries children expanded
    (⟨kind, children, data, span⟩, expanded)

/-- Marks the uses of abbreviations in a list of siblings, outside abbreviations that are already
marked. -/
def markUseList (expandFirst : Bool) (entries : List Abbreviation) :
    List Node → List Text → List Node × List Text
  | [], expanded => ([], expanded)
  | ⟨.text value, children, data, span⟩ :: rest, expanded =>
    match uses entries value with
    | [] =>
      let (rest, expanded) := markUseList expandFirst entries rest expanded
      (⟨.text value, children, data, span⟩ :: rest, expanded)
    | found =>
      let (nodes, expanded) := cut expandFirst 0 value found expanded
      let (rest, expanded) := markUseList expandFirst entries rest expanded
      (nodes ++ rest, expanded)
  | ⟨.abbreviation title, children, data, span⟩ :: rest, expanded =>
    let (rest, expanded) := markUseList expandFirst entries rest expanded
    (⟨.abbreviation title, children, data, span⟩ :: rest, expanded)
  | node :: rest, expanded =>
    let (node, expanded) := markUses expandFirst entries node expanded
    let (rest, expanded) := markUseList expandFirst entries rest expanded
    (node :: rest, expanded)

end

/-- Reads and removes the definitions of a document and marks the uses of the abbreviations. -/
def markDocument (expandFirst : Bool) (tree : Node) : Node :=
  match ofDocument tree with
  | [] => removeDefinitions tree
  | entries => (markUses expandFirst entries (removeDefinitions tree) []).1

end Abbreviation

end Manuscript
