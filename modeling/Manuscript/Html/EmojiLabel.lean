import Manuscript.Emoji.Basic
import Manuscript.Html.HeadingAnchor

/-!
# Labels of emoji

Every emoji in the prose is put into an element with its name, so that it can be read out. At each
place the longest emoji counts, with one variation selector after it. Text inside code and the like,
inside a label and inside the anchor of a heading is left alone.
-/

namespace Manuscript.EmojiLabel

/-- The mark of a key cap. -/
def keycap : Char := '\u20e3'

/-- Names of the elements whose text is left alone. -/
def skippedNames : List Text :=
  ["pre".toList, "code".toList, "kbd".toList, "script".toList, "style".toList, "math".toList]

/-- Whether the text of an element is left alone. -/
def isSkipped (tag : Tag) : Bool :=
  skippedNames.contains tag.name
    || (tag.name = "span".toList && tag.attribute? "role".toList = some "img".toList)
    || HeadingAnchor.isAnchorTag tag

/-- The emoji at the start of a text. A digit or another ASCII character begins one only if a
variation selector or the mark of a key cap follows. -/
def emojiAt? : Text → Option Emoji
  | [] => none
  | c :: rest =>
    if c.toNat < 128
        && !(rest.head?.any fun next => next == Emoji.variationSelector || next == keycap) then
      none
    else Emoji.longestAt? (c :: rest)

/-- The element for an emoji, which is written as `text`. -/
def label (name text : Text) : Html :=
  .element
    { name := "span".toList
      attributes := [("role".toList, "img".toList), ("aria-label".toList, name)] }
    [.text text]

/-- The node for a plain piece of text that is given last character first, if it is not empty. -/
def plainNode (reversed : Text) : List Html :=
  if reversed.isEmpty then [] else [.text reversed.reverse]

/-- Cuts a text into plain pieces and labelled emoji. `plain` is the plain text directly before,
last character first. -/
def cut (plain : Text) (text : Text) : List Html :=
  match text with
  | [] => plainNode plain
  | c :: rest =>
    match emojiAt? (c :: rest) with
    | none => cut (c :: plain) rest
    | some emoji =>
      let more := emoji.sequence.length - 1
      let count := if rest[more]? = some Emoji.variationSelector then more + 1 else more
      plainNode plain ++ label emoji.name (c :: rest.take count) :: cut [] (rest.drop count)
termination_by text.length
decreasing_by
  · simp
  · simp only [List.length_drop, List.length_cons]; omega

/-- The nodes that take the place of a text: the text itself when it has no emoji. -/
def nodes (value : Text) : List Html :=
  match cut [] value with
  | [] => [.text value]
  | pieces => pieces

mutual

/-- Labels the emoji below a node. -/
def labelNode : Html → Html
  | .element tag children =>
    if isSkipped tag then .element tag children else .element tag (labelList children)
  | node => node

/-- Labels the emoji in a list of siblings and below them. -/
def labelList : List Html → List Html
  | [] => []
  | .text value :: rest => nodes value ++ labelList rest
  | node :: rest => labelNode node :: labelList rest

end

/-- Labels the emoji below the top of a tree. -/
def labelTree : Html → Html
  | .root children => .root (labelList children)
  | .element tag children => .element tag (labelList children)
  | node => node

end Manuscript.EmojiLabel
