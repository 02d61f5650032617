import Manuscript.Html.Basic

/-!
# Table of contents

The first heading whose text is that of a table of contents opens a section. What the section holds
is replaced by a nested list of links to the headings after it. Nothing changes when there is no
such heading or when no heading that could be listed follows.
-/

namespace Manuscript.Contents

/-- A heading in the list. -/
structure Entry where
  /-- Level of the heading. -/
  level : Nat
  /-- Identifier of the heading. -/
  id : Text
  /-- Text of the heading. -/
  text : Text
deriving DecidableEq, Repr

/-- The entry for a heading that has an identifier and is not too deep. -/
def entry? (maxDepth level : Nat) (tag : Tag) (children : List Html) : List Entry :=
  match tag.attribute? "id".toList with
  | some id =>
    if level ≤ maxDepth then [{ level, id, text := Text.trim (Html.textContentList children) }]
    else []
  | none => []

mutual

/-- The entries for the headings of a node. -/
def collectNode (maxDepth : Nat) : Html → List Entry
  | .element tag children =>
    if Html.isFootnoteSection tag then []
    else
      match Html.headingLevel? tag.name with
      | some level => entry? maxDepth level tag children
      | none => collectList maxDepth children
  | _ => []

/-- The entries for the headings of a list of siblings, in document order. -/
def collectList (maxDepth : Nat) : List Html → List Entry
  | [] => []
  | node :: rest => collectNode maxDepth node ++ collectList maxDepth rest

end

/-- The link to a heading. -/
def link (entry : Entry) : Html :=
  .element { name := ['a'], attributes := [("href".toList, '#' :: entry.id)] } [.text entry.text]

/-- A line feed. -/
def newline : Html :=
  .text ['\n']

/-- The items for entries; the entries of a deeper level that follow an entry are listed inside its
item. -/
def items (entries : List Entry) : List Html :=
  match entries with
  | [] => []
  | entry :: rest =>
    let nested := rest.takeWhile (entry.level < ·.level)
    let after := rest.dropWhile (entry.level < ·.level)
    let inner : List Html :=
      if nested.isEmpty then []
      else [newline, .element { name := "ul".toList } (items nested ++ [newline]), newline]
    newline :: .element { name := "li".toList } (link entry :: inner) :: items after
termination_by entries.length
decreasing_by
  · have := (List.takeWhile_sublist (l := rest)
      fun e : Entry => decide (entry.level < e.level)).length_le
    simp only [List.length_cons]; omega
  · have := (List.dropWhile_sublist (l := rest)
      fun e : Entry => decide (entry.level < e.level)).length_le
    simp only [List.length_cons]; omega

/-- The nested list for entries. -/
def list (entries : List Entry) : Html :=
  .element { name := "ul".toList } (items entries ++ [newline])

/-- Whether a node is a heading that ends a section of the given level. -/
def endsSection (level : Nat) (node : Html) : Bool :=
  ((node.tag?.bind fun tag => Html.headingLevel? tag.name)).any (· ≤ level)

/-- The siblings after the heading of the table, with the list in place of its section. -/
def fill (maxDepth level : Nat) (siblings : List Html) : List Html :=
  let after := siblings.dropWhile fun node => !endsSection level node
  match collectList maxDepth after with
  | [] => siblings
  | entries => newline :: list entries :: (if after.isEmpty then [] else newline :: after)

mutual

/-- Fills the table of contents in a node, if it is there. -/
def fillNode? (isTitle : Text → Bool) (maxDepth : Nat) : Html → Option Html
  | .element tag children =>
    if Html.isFootnoteSection tag || (Html.headingLevel? tag.name).isSome then none
    else (fillList? isTitle maxDepth children).map (.element tag ·)
  | _ => none

/-- Fills the table of contents among siblings, if it is there. The first heading of a table counts,
whether or not its section is replaced. -/
def fillList? (isTitle : Text → Bool) (maxDepth : Nat) : List Html → Option (List Html)
  | [] => none
  | node :: rest =>
    match titleLevel? isTitle node with
    | some level => some (node :: fill maxDepth level rest)
    | none =>
      match fillNode? isTitle maxDepth node with
      | some filled => some (filled :: rest)
      | none => (fillList? isTitle maxDepth rest).map (node :: ·)

/-- The level of the heading of a table of contents. -/
def titleLevel? (isTitle : Text → Bool) : Html → Option Nat
  | .element tag children =>
    if Html.isFootnoteSection tag then none
    else
      (Html.headingLevel? tag.name).filter fun _ =>
        isTitle (Text.trim (Html.textContentList children))
  | _ => none

end

/-- Fills the table of contents below the top of a tree. -/
def fillTree (isTitle : Text → Bool) (maxDepth : Nat) : Html → Html
  | .root children => .root ((fillList? isTitle maxDepth children).getD children)
  | .element tag children => .element tag ((fillList? isTitle maxDepth children).getD children)
  | node => node

end Manuscript.Contents
