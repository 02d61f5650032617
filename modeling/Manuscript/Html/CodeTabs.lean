import Manuscript.Html.Basic

/-!
# Code tabs

Neighbouring code blocks of one tab group are put into one set of tabs, and every other code block
gets a set of its own, so that all code is shown in the same frame. Diagrams, mathematics and plain
text stay bare. What is inside a set of tabs is not looked at again.
-/

namespace Manuscript.CodeTabs

/-- Name of the element for a set of tabs. -/
def setName : Text := "code-tabs".toList

/-- Name of the attribute for the group. -/
def groupName : Text := "data-code-tabs-group".toList

/-- Name of the attribute for the label. -/
def labelName : Text := "data-code-tabs-tab".toList

/-- Languages whose blocks stay bare. -/
def bareLanguages : List Text :=
  ["mermaid".toList, "math".toList, "text".toList]

/-- The value of an attribute, if it is set and not empty. -/
def filled? (tag : Tag) (name : Text) : Option Text :=
  (tag.attribute? name).bind Text.nonempty?

/-- The first element among siblings. -/
def firstElement? : List Html → Option Tag
  | [] => none
  | .element tag _ :: _ => some tag
  | _ :: rest => firstElement? rest

/-- The tag of a code block with group and label copied from the element inside, unless it has both.
Gives the group too; a block without a group or without a label belongs to no set. -/
def withGroup (tag : Tag) (children : List Html) : Tag × Option Text :=
  match filled? tag groupName, filled? tag labelName with
  | some group, some _ => (tag, some group)
  | _, _ =>
    match firstElement? children with
    | none => (tag, none)
    | some code =>
      match filled? code groupName, filled? code labelName with
      | some group, some label =>
        ((tag.setAttribute groupName group).setAttribute labelName label, some group)
      | _, _ => (tag, none)

/-- The tag of an element among siblings. That of a code block gets the group of the block. -/
def siblingTag (tag : Tag) (children : List Html) : Tag :=
  if tag.name = "pre".toList then (withGroup tag children).1 else tag

/-- A code block with its group copied to its outer element. -/
def withGroupNode : Html → Html
  | .element tag children => .element (siblingTag tag children) children
  | node => node

/-- The group of a code block. -/
def group? : Html → Option Text
  | .element tag children =>
    if tag.name = "pre".toList then (withGroup tag children).2 else none
  | _ => none

/-- A sibling while its list is grouped. -/
structure Sibling where
  /-- The node as it was. A block that goes into a set of tabs goes in like this. -/
  plain : Html
  /-- The node with its group copied to it and everything below it grouped. -/
  grouped : Html

namespace Sibling

/-- The group of a sibling. -/
def group? (sibling : Sibling) : Option Text :=
  CodeTabs.group? sibling.plain

end Sibling

/-- Cuts siblings after the last of the blocks at their start that belong to a group; blanks between
and after the blocks are dropped. Gives the blocks and what follows. -/
def takeRun (group : Text) : List Sibling → List Html × List Sibling
  | [] => ([], [])
  | sibling :: rest =>
    if sibling.plain.isBlank then takeRun group rest
    else if sibling.group? = some group then
      let (run, after) := takeRun group rest
      (withGroupNode sibling.plain :: run, after)
    else ([], sibling :: rest)

/-- What follows a run is no longer than the siblings. -/
theorem length_of_takeRun (group : Text) (siblings : List Sibling) :
    (takeRun group siblings).2.length ≤ siblings.length := by
  induction siblings with
  | nil => simp [takeRun]
  | cons sibling rest ih =>
    unfold takeRun
    split
    · simp only [List.length_cons]; omega
    · split
      · simp only [List.length_cons]; omega
      · simp

/-- The set of tabs for a group. -/
def tabSet (group : Option Text) (blocks : List Html) : Html :=
  let tag : Tag := { name := setName, classes := [setName] }
  .element (match group with
    | some group => tag.setAttribute groupName group
    | none => tag) blocks

/-- The text after a given beginning. -/
def languageOfClass? (name : Text) : Option Text :=
  Text.dropFront? "language-".toList name

/-- The first element with a given name among siblings. -/
def firstNamed? (name : Text) : List Html → Option Tag
  | [] => none
  | .element tag _ :: rest => if tag.name = name then some tag else firstNamed? name rest
  | _ :: rest => firstNamed? name rest

/-- A text without the blanks around it, unless nothing is left. -/
def trimmed? (text : Text) : Option Text :=
  Text.nonempty? (Text.trim text)

/-- The language of a code block: an attribute of its outer element, or a class or an attribute of
the element inside. -/
def language? (tag : Tag) (children : List Html) : Option Text :=
  ((tag.attribute? "data-language".toList).bind trimmed?) <|> do
    let code ← firstNamed? "code".toList children
    ((code.classes.findSome? languageOfClass?).bind trimmed?)
      <|> ((code.attribute? "data-language".toList).bind trimmed?)

/-- Whether a code block stays bare. -/
def isBare (tag : Tag) (children : List Html) : Bool :=
  (language? tag children).any fun language => bareLanguages.contains (Text.asciiLowercase language)

/-- Puts a code block that is alone into a set of tabs, unless its language stays bare. -/
def wrapAlone (sibling : Sibling) : Html :=
  match sibling.plain with
  | .element tag children =>
    if tag.name = "pre".toList && !isBare tag children then
      tabSet (withGroup tag children).2 [withGroupNode sibling.plain]
    else sibling.grouped
  | _ => sibling.grouped

/-- Puts every run of two or more blocks of one group into a set of tabs, and every other block that
does not stay bare into a set of its own. -/
def wrapSiblings (siblings : List Sibling) : List Html :=
  match siblings with
  | [] => []
  | sibling :: rest =>
    match sibling.group? with
    | none => wrapAlone sibling :: wrapSiblings rest
    | some group =>
      let run := takeRun group rest
      if run.1.isEmpty then wrapAlone sibling :: wrapSiblings rest
      else tabSet (some group) (withGroupNode sibling.plain :: run.1) :: wrapSiblings run.2
termination_by siblings.length
decreasing_by
  · simp
  · simp
  · have := length_of_takeRun group rest
    simp only [List.length_cons]; omega

mutual

/-- Groups the code blocks below a node that stands among siblings. A code block gets its group from
what is below it before that is grouped. -/
def groupNode : Html → Html
  | .element tag children =>
    if tag.name = setName then .element tag children
    else .element (siblingTag tag children) (wrapSiblings (groupList children))
  | node => node

/-- Prepares a list of siblings for being grouped. -/
def groupList : List Html → List Sibling
  | [] => []
  | node :: rest => { plain := node, grouped := groupNode node } :: groupList rest

end

/-- Groups the code blocks of a tree. -/
def groupTree : Html → Html
  | .root children => .root (wrapSiblings (groupList children))
  | .element tag children =>
    if tag.name = setName then .element tag children
    else .element tag (wrapSiblings (groupList children))
  | node => node

end Manuscript.CodeTabs
