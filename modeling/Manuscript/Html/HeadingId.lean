import Manuscript.Html.Basic
import Manuscript.Slug

/-!
# Heading identifiers

Every heading gets an identifier made from its text, unless it has one already. Headings in the
section of the footnotes, and headings inside other headings, are left alone. The headings that have
an identifier afterwards are reported in document order.
-/

namespace Manuscript

/-- A heading of a compiled document. -/
structure Heading where
  /-- Level from one to six. -/
  level : Nat
  /-- Identifier. -/
  slug : Text
  /-- Text without markup. -/
  text : Text
deriving DecidableEq, Repr

namespace HeadingId

/-- Gives a heading an identifier, if it needs one and its text has one. -/
def assign (tag : Tag) (children : List Html) (level : Nat) (slugger : Slugger) :
    Tag × Slugger × List Heading :=
  let text := Text.trim (Html.textContentList children)
  match tag.attribute? "id".toList with
  | some id => (tag, slugger.reserve id, [{ level, slug := id, text }])
  | none =>
    match slugger.next text with
    | (some slug, slugger) => (tag.setAttribute "id".toList slug, slugger, [{ level, slug, text }])
    | (none, slugger) => (tag, slugger, [])

mutual

/-- Assigns identifiers to a node and below it. -/
def assignNode : Html → Slugger → Html × Slugger × List Heading
  | .element tag children, slugger =>
    if Html.isFootnoteSection tag then (.element tag children, slugger, [])
    else
      match Html.headingLevel? tag.name with
      | some level =>
        let (tag, slugger, headings) := assign tag children level slugger
        (.element tag children, slugger, headings)
      | none =>
        let (children, slugger, headings) := assignList children slugger
        (.element tag children, slugger, headings)
  | node, slugger => (node, slugger, [])

/-- Assigns identifiers to a list of siblings and below them. -/
def assignList : List Html → Slugger → List Html × Slugger × List Heading
  | [], slugger => ([], slugger, [])
  | node :: rest, slugger =>
    let (node, slugger, headings) := assignNode node slugger
    let (rest, slugger, more) := assignList rest slugger
    (node :: rest, slugger, headings ++ more)

end

/-- Assigns identifiers below the top of a tree, which is no heading itself, and reports the
headings. -/
def assignTree : Html → Html × List Heading
  | .root children =>
    let (children, _, headings) := assignList children {}
    (.root children, headings)
  | .element tag children =>
    let (children, _, headings) := assignList children {}
    (.element tag children, headings)
  | node => (node, [])

end HeadingId

end Manuscript
