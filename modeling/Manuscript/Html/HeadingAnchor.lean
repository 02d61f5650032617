import Manuscript.Html.Basic

/-!
# Heading anchors

A heading with an identifier gets a link to itself in front of its text, unless it has one.
-/

namespace Manuscript.HeadingAnchor

/-- The class by which an anchor is known. -/
def anchorClass : Text := "heading-anchor".toList

/-- The anchor for an identifier. -/
def anchor (id : Text) : Html :=
  let tag : Tag :=
    { name := ['a']
      classes := [anchorClass]
      attributes :=
        [ ("aria-hidden".toList, "true".toList), ("tabindex".toList, "-1".toList),
          ("href".toList, '#' :: id) ] }
  .element tag [.element { name := "span".toList, classes := ["anchor-link".toList] } [.text ['🔗']]]

/-- Whether a tag is that of an anchor. -/
def isAnchorTag (tag : Tag) : Bool :=
  tag.name = ['a'] && tag.hasClass anchorClass

/-- The children of a heading with an anchor in front. -/
def withAnchor (tag : Tag) (children : List Html) : List Html :=
  match tag.attribute? "id".toList with
  | none => children
  | some id =>
    if (children.head?.bind Html.tag?).any isAnchorTag then children else anchor id :: children

mutual

/-- Adds anchors to a node and below it. -/
def anchorNode : Html → Html
  | .element tag children =>
    if Html.isFootnoteSection tag then .element tag children
    else if (Html.headingLevel? tag.name).isSome then .element tag (withAnchor tag children)
    else .element tag (anchorList children)
  | node => node

/-- Adds anchors to a list of siblings and below them. -/
def anchorList : List Html → List Html
  | [] => []
  | node :: rest => anchorNode node :: anchorList rest

end

/-- Adds anchors below the top of a tree. -/
def anchorTree : Html → Html
  | .root children => .root (anchorList children)
  | .element tag children => .element tag (anchorList children)
  | node => node

end Manuscript.HeadingAnchor
