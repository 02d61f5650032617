import Manuscript.Document.Basic
import Manuscript.Options.Basic
import Manuscript.Text.WebAddress

/-!
# Quotations

The last lines of a block quote may say where it is from: a line that begins with the marker is an
attribution, a line that begins with the caption start is a caption. Either makes the quote a
figure; a quote with neither stays as it is. A line is found in the visible text of a paragraph, and
the paragraph is cut before it; the cut is counted in bytes, and it fails when it falls inside a
character.
-/

namespace Manuscript.Quotation

/-- The blank-separated parts of a class setting. -/
def classList (setting : Text) : List Text :=
  Text.words setting

mutual

/-- The visible text of an inline node: its texts and inline code, in order. -/
def visibleText : Node → Text
  | ⟨.text value, _, _, _⟩ => value
  | ⟨.inlineCode value, _, _, _⟩ => value
  | ⟨_, children, _, _⟩ => visibleTextList children

/-- The visible text of a list of inline nodes. -/
def visibleTextList : List Node → Text
  | [] => []
  | node :: rest => visibleText node ++ visibleTextList rest

end

mutual

/-- Keeps the first `budget` bytes of the visible text of a node. Gives the node, unless it has to
go, and what is left of the budget; a piece of code is kept whole or not at all, and ends the cut
when it does not fit. Fails when the cut would fall inside a character. -/
def cutNode (budget : Nat) : Node → Option (Option Node × Nat)
  | ⟨.text value, children, data, span⟩ =>
    let size := Text.byteLength value
    if size ≤ budget then some (some ⟨.text value, children, data, span⟩, budget - size)
    else (Text.splitAtByte? budget value).map fun (front, _) =>
      (some ⟨.text front, children, data, span⟩, 0)
  | ⟨.inlineCode value, children, data, span⟩ =>
    let size := Text.byteLength value
    if size ≤ budget then some (some ⟨.inlineCode value, children, data, span⟩, budget - size)
    else some (none, budget)
  | ⟨kind, children, data, span⟩ =>
    (cutList budget children).map fun (children, left) => (some ⟨kind, children, data, span⟩, left)

/-- Keeps the first `budget` bytes of the visible text of a list of nodes, and gives what is left of
the budget. -/
def cutList (budget : Nat) : List Node → Option (List Node × Nat)
  | [] => some ([], budget)
  | node :: rest =>
    if budget = 0 then some ([], 0)
    else
      match cutNode budget node with
      | none => none
      | some (none, left) => some ([], left)
      | some (some node, left) => (cutList left rest).map fun (rest, left) => (node :: rest, left)

end

/-- Number of characters before the first line that begins with `start`. -/
def lineStart? (start text : Text) : Option Nat :=
  if Text.startsWith start text then some 0
  else (Text.splitFirst? ('\n' :: start) text).map fun (before, _) => before.length + 1

/-- A line without what it begins with. -/
def dropStart (start line : Text) : Text :=
  let trimmed := Text.trimStart line
  match Text.dropFront? start trimmed with
  | some rest => Text.trimStart rest
  | none => trimmed

/-- A line of metadata: the text from `position` up to the other line, if that comes later. -/
def metadataLine (start : Text) (drop : Bool) (position : Nat) (other : Option Nat) (text : Text) :
    Text :=
  let stop := match other with
    | some next => if position < next then next else text.length
    | none => text.length
  let line := Text.trimStart ((text.take stop).drop position)
  Text.trim (if drop then dropStart start line else line)

/-- What has been found at the end of a quote. -/
structure Metadata where
  /-- The attribution, without its marker. -/
  attribution : Option Text := none
  /-- The caption, without its start. -/
  caption : Option Text := none
deriving DecidableEq, Repr

/-- The earlier of two positions that may be missing. -/
def earlier : Option Nat → Option Nat → Option Nat
  | some a, some b => some (min a b)
  | some a, none => some a
  | none, b => b

namespace Metadata

/-- Whether nothing is left to be found. -/
def isComplete (found : Metadata) : Bool :=
  found.attribution.isSome && found.caption.isSome

/-- Where an attribution begins in a text, if none has been found. -/
def attributionStart? (options : BlockquoteOptions) (found : Metadata) (text : Text) : Option Nat :=
  if found.attribution.isSome then none else lineStart? options.marker text

/-- Where a caption begins in a text, if none has been found. -/
def captionStart? (options : BlockquoteOptions) (found : Metadata) (text : Text) : Option Nat :=
  if found.caption.isSome then none else lineStart? options.captionStart text

/-- Where the metadata of a paragraph begins in its visible text. -/
def start? (options : BlockquoteOptions) (found : Metadata) (node : Node) : Option Nat :=
  let text := visibleText node
  if node.isParagraph && !Text.isBlankText text then
    earlier (found.attributionStart? options text) (found.captionStart? options text)
  else none

/-- What has been found when the lines of a text have been taken too. -/
def addLines (options : BlockquoteOptions) (text : Text) (found : Metadata) : Metadata :=
  let markerAt := found.attributionStart? options text
  let captionAt := found.captionStart? options text
  { attribution := match markerAt with
      | some position =>
        some (metadataLine options.marker options.removeMarker position captionAt text)
      | none => found.attribution
    caption := match captionAt with
      | some position =>
        some (metadataLine options.captionStart options.removeCaptionStart position markerAt text)
      | none => found.caption }

end Metadata

/-- The visible text of a node before the metadata that begins at the given position. -/
def contentText (position : Nat) (node : Node) : Text :=
  Text.trimEnd ((visibleText node).take position)

/-- What is kept of a node whose metadata begins at the given position: nothing if there is no text
before that. -/
def keepContent (position : Nat) (node : Node) : Option (List Node) :=
  let content := contentText position node
  if content.isEmpty then some []
  else (cutList (Text.byteLength content) node.children).map fun (children, _) =>
    [{ node with children }]

/-- Takes the metadata from the children of a quote, given last child first, and gives the children
that are left in the same order. Paragraphs are looked at until both lines are found; each line is
taken from the last paragraph that has it. -/
def takeMetadata (options : BlockquoteOptions) :
    List Node → Metadata → Option (List Node × Metadata)
  | [], found => some ([], found)
  | node :: rest, found =>
    match found.start? options node with
    | none => (takeMetadata options rest found).map fun (rest, found) => (node :: rest, found)
    | some position => do
      let kept ← keepContent position node
      let found := found.addLines options (visibleText node)
      if found.isComplete then some (kept ++ rest, found)
      else (takeMetadata options rest found).map fun (rest, found) => (kept ++ rest, found)

/-- Whether a character can continue an address. -/
def isAddressChar (c : Char) : Bool :=
  !(Text.isBlank c || c == '(' || c == ')')

/-- What follows the address at the start of a text. -/
def dropAddress? (text : Text) : Option Text :=
  match WebAddress.dropScheme? text with
  | some (first :: second :: rest) =>
    if isAddressChar first && !(first == '/' || first == '$' || first == '.' || first == '?'
        || first == '#') && second != '\n' then some (rest.dropWhile isAddressChar)
    else none
  | _ => none

/-- The first address in a text, with the text on either side of it. -/
def firstAddress? : Text → Option (Text × Text × Text)
  | [] => none
  | c :: rest =>
    match dropAddress? (c :: rest) with
    | some after => some ([], (c :: rest).take (rest.length + 1 - after.length), after)
    | none => (firstAddress? rest).map fun (before, url, after) => (c :: before, url, after)

/-- Writes one space for every run of two or more blanks. -/
def collapseBlanks : Text → Text
  | [] => []
  | [c] => [c]
  | c :: next :: rest =>
    if Text.isBlank c && Text.isBlank next then ' ' :: collapseBlanks (rest.dropWhile Text.isBlank)
    else c :: collapseBlanks (next :: rest)
termination_by text => text.length
decreasing_by
  · have := (List.dropWhile_sublist Text.isBlank (l := rest)).length_le
    simp only [List.length_cons]; omega
  · simp

/-- Splits `Name (details)` into the name and the details. -/
def splitDetails (text : Text) : Text × Option Text :=
  let trimmed := Text.trim text
  match Text.dropBack? [')'] trimmed with
  | none => (trimmed, none)
  | some front =>
    match Text.splitLast? ['('] front with
    | none => (trimmed, none)
    | some (name, details) =>
      let name := Text.trim name
      let details := Text.trim details
      if name.isEmpty || details.isEmpty then (trimmed, none) else (name, some details)

/-- The lines of an attribution: the name, and the details on a line of their own. -/
def attributionLines (visible : Text) : List Node :=
  let (name, details) := splitDetails visible
  Node.paragraph [Node.text name]
    :: (details.toList.map fun details => Node.paragraph [Node.text details])

/-- The part of an attribution that is shown, and the address that is taken out of it. -/
def splitAddress (text : Text) : Text × Option Text :=
  match firstAddress? text with
  | some (before, url, after) => (Text.trim (collapseBlanks (before ++ after)), some url)
  | none => (text, none)

/-- The node that shows an attribution. -/
def attributionNode (options : BlockquoteOptions) (hasCaption : Bool) (visible : Text) : Node :=
  Node.container (if hasCaption then "div".toList else "figcaption".toList)
    (classList options.attributionClass)
    [Node.container "div".toList [] (attributionLines visible)]

/-- The node that shows a caption. -/
def captionNode (options : BlockquoteOptions) (caption : Text) : Node :=
  { Node.paragraph [Node.text caption] with
    data := { tagName := some "figcaption".toList, classes := classList options.captionClass } }

/-- The classes of a figure. -/
def figureClasses (options : BlockquoteOptions) (hasCaption : Bool) : List Text :=
  classList options.figureClass
    ++ if hasCaption then classList options.captionFigureClass else []

/-- The figure for a quote without its metadata. -/
def figure (options : BlockquoteOptions) (quote : Node) (attribution caption : Option Text) :
    Node :=
  let split := attribution.map splitAddress
  let cite := (split.bind Prod.snd) <|> quote.data.cite
  let quote := { quote with data := { quote.data with cite } }
  Node.container "figure".toList (figureClasses options caption.isSome)
    (quote :: (split.toList.map fun (visible, _) => attributionNode options caption.isSome visible)
      ++ caption.toList.map (captionNode options))

/-- Makes a quote with metadata a figure, and leaves every other quote as it is. -/
def transform (options : BlockquoteOptions) (quote : Node) : Option Node := do
  let (kept, found) ← takeMetadata options quote.children.reverse {}
  let attribution := found.attribution.bind Text.nonempty?
  let caption := found.caption.bind Text.nonempty?
  if attribution.isNone && caption.isNone then return quote
  return figure options { quote with children := kept.reverse } attribution caption

mutual

/-- Transforms the quotes below a node, inner ones first. -/
def transformBelow (options : BlockquoteOptions) : Node → Option Node
  | ⟨kind, children, data, span⟩ =>
    (transformList options children).map fun children => ⟨kind, children, data, span⟩

/-- Transforms the quotes in a list of siblings and below them. -/
def transformList (options : BlockquoteOptions) : List Node → Option (List Node)
  | [] => some []
  | node :: rest => do
    let node ← transformBelow options node
    let node ← if node.kind = .blockquote then transform options node else some node
    let rest ← transformList options rest
    return node :: rest

end

end Manuscript.Quotation
