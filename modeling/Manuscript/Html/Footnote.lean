import Manuscript.Document.Basic
import Manuscript.Html.Basic
import Manuscript.Options.Basic
import Manuscript.Template
import Manuscript.Text.Lowercase

/-!
# Footnotes

A footnote is known by its identifier: its label in lower case, with everything that is unsafe in a
link percent-encoded. Footnotes are numbered in the order in which they are first referred to, and
every reference to one has an anchor of its own, so that the footnote can lead back to each.
-/

namespace Manuscript.Footnote

/-- A hexadecimal digit in upper case. -/
def hexDigit (n : Nat) : Char :=
  if n < 10 then Char.ofNat ('0'.toNat + n) else Char.ofNat ('A'.toNat + n - 10)

/-- The bytes of the UTF-8 form of a character. -/
def utf8Bytes (c : Char) : List Nat :=
  let n := c.toNat
  if n < 0x80 then [n]
  else if n < 0x800 then [0xC0 + n / 0x40, 0x80 + n % 0x40]
  else if n < 0x10000 then [0xE0 + n / 0x1000, 0x80 + n / 0x40 % 0x40, 0x80 + n % 0x40]
  else [0xF0 + n / 0x40000, 0x80 + n / 0x1000 % 0x40, 0x80 + n / 0x40 % 0x40, 0x80 + n % 0x40]

/-- Whether a character stands for itself in an identifier. -/
def isSafe (c : Char) : Bool :=
  c.isAlphanum || c == '-' || c == '_' || c == '.' || c == '~'

/-- What a character contributes to an identifier. -/
def encodeChar (c : Char) : Text :=
  if isSafe c then [c]
  else (utf8Bytes c).flatMap fun byte => ['%', hexDigit (byte / 16), hexDigit (byte % 16)]

/-- The identifier for a label. -/
def identifier (label : Text) : Text :=
  (Text.lowercase label).flatMap encodeChar

/-- The footnotes that have been referred to, in the order of their first reference, each with the
number of its references so far. -/
abbrev References := List (Text × Nat)

namespace References

/-- Counts one more reference to a footnote. -/
def add (id : Text) : References → References
  | [] => [(id, 1)]
  | (other, count) :: rest =>
    if other = id then (other, count + 1) :: rest else (other, count) :: add id rest

/-- The number of a footnote, counted from one. -/
def number (id : Text) (references : References) : Nat :=
  references.findIdx (·.1 = id) + 1

/-- How often a footnote has been referred to. -/
def count (id : Text) (references : References) : Nat :=
  (references.lookup id).getD 0

end References

/-- What is appended to the anchor of a footnote's reference: nothing for the first one. -/
def reuseMark (reuse : Nat) : Text :=
  if 1 < reuse then '-' :: Text.ofNat reuse else []

/-- The identifier of the anchor of a reference. -/
def referenceAnchor (front id : Text) (reuse : Nat) : Text :=
  front ++ "fnref-".toList ++ id ++ reuseMark reuse

/-- The identifier of a footnote's list item. -/
def itemAnchor (front id : Text) : Text :=
  front ++ "fn-".toList ++ id

/-- The link to the footnote with the given number, which is the `reuse`-th to it. -/
def referenceLink (front id : Text) (number reuse : Nat) : Html :=
  let tag : Tag :=
    { name := ['a']
      attributes :=
        [ ("href".toList, '#' :: itemAnchor front id),
          ("id".toList, referenceAnchor front id reuse),
          ("data-footnote-ref".toList, []),
          ("aria-describedby".toList, "footnote-label".toList) ] }
  .element tag [.text (Text.ofNat number)]

/-- Where a reference stands among the references of a document. -/
structure Place where
  /-- The number of its footnote, counted from one. -/
  number : Nat
  /-- How often the footnote has been referred to, this reference included. -/
  reuse : Nat
deriving DecidableEq, Repr

/-- What becomes of a reference to a footnote. -/
structure Citation where
  /-- The label in the source. -/
  label : Text
  /-- Its place, if the footnote can be referred to. -/
  place : Option Place
deriving DecidableEq, Repr

namespace Citation

/-- The identifier of the footnote that is referred to. -/
def id (citation : Citation) : Text :=
  identifier citation.label

/-- Whether the reference becomes a link. -/
def isLink (citation : Citation) : Bool :=
  citation.place.isSome

/-- The link that the reference becomes. -/
def link? (front : Text) (citation : Citation) : Option Html :=
  citation.place.map fun place => referenceLink front citation.id place.number place.reuse

/-- The nodes for a reference: a raised link, or the source text if there is nothing to link to. -/
def lower (front : Text) (citation : Citation) : List Html :=
  match citation.link? front with
  | some link => [.element { name := "sup".toList } [link]]
  | none => [.text ("[^".toList ++ citation.label ++ [']'])]

end Citation

/-- Finds the place of a reference, if its footnote is one of those that can be referred to. -/
def cite (defined : List Text) (label : Text) (references : References) : Citation × References :=
  let id := identifier label
  if defined.contains id then
    let references := references.add id
    ({ label, place := some ⟨references.number id, references.count id⟩ }, references)
  else ({ label, place := none }, references)

/-- The arrow that leads back to a reference. -/
def arrow : Html :=
  .text ['↩']

/-- The way back to the `reuse`-th reference of the footnote with the given number. -/
def backReference (options : FootnoteOptions) (id : Text) (number reuse : Nat) : Html :=
  let label := Template.render ⟨options.backLabel⟩
    [("ref".toList, Text.ofNat number ++ reuseMark reuse)]
  let tag : Tag :=
    { name := ['a']
      classes := ["data-footnote-backref".toList]
      attributes :=
        [ ("href".toList, '#' :: referenceAnchor options.clobberFront id reuse),
          ("data-footnote-backref".toList, []),
          ("aria-label".toList, label) ] }
  let mark : List Html :=
    if 1 < reuse then [.element { name := "sup".toList } [.text (Text.ofNat reuse)]] else []
  .element tag (arrow :: mark)

/-- The ways back to all references of a footnote, with a blank between each two. -/
def backReferences (options : FootnoteOptions) (id : Text) (number count : Nat) : List Html :=
  ((List.range count).map fun index => backReference options id number (index + 1)).intersperse
    (.text [' '])

/-- Adds nodes to the last paragraph of a footnote, after a blank, or to the end of the footnote
when it has no paragraph. The content is given last node first. -/
def addToLastParagraph (nodes : List Html) : List Html → Option (List Html)
  | [] => none
  | .element tag children :: rest =>
    if tag.name = ['p'] then some (.element tag (children ++ .text [' '] :: nodes) :: rest)
    else (addToLastParagraph nodes rest).map (.element tag children :: ·)
  | node :: rest => (addToLastParagraph nodes rest).map (node :: ·)

/-- The content of a footnote with the ways back at its end. -/
def withBackReferences (nodes content : List Html) : List Html :=
  match addToLastParagraph nodes content.reverse with
  | some reversed => reversed.reverse
  | none => content ++ nodes

end Manuscript.Footnote
