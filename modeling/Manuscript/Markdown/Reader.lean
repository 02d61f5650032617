import Manuscript.Markdown.Block
import Manuscript.Markdown.Inline

/-!
# Reading a document

First the blocks of a source are read, and with them all definitions. Then their running text can be
read, and the whole is a stream of events, from which the tree is built.

The blocks of an item of a tight list are one run of text: their paragraphs are not marked, and
emphasis may begin in one of them and end in another.
-/

namespace Manuscript.Markdown

/-- Where a block stands. -/
inductive Place where
  | outside
  | inList (tight : Bool)
  | inItem (tight : Bool)
deriving DecidableEq, Repr

/-- Events inside a construct. -/
def enclose (construct : Construct) (span : Span) (events : List LocatedEvent) :
    List LocatedEvent :=
  { event := .enter construct, span } :: (events ++ [{ event := .leave, span }])

/-- The events of a cell. -/
def Cell.events (references : References) (cell : Cell) : List LocatedEvent :=
  enclose .tableCell cell.span (pairRuns (Inline.tokens references true cell.content))

/-- The events of a row. -/
def Row.events (references : References) (construct : Construct) (row : Row) : List LocatedEvent :=
  enclose construct row.span (row.cells.flatMap (Cell.events references))

/-- The events of the rows of a table, of which the first one is the head. -/
def rowEvents (references : References) : List Row → List LocatedEvent
  | [] => []
  | head :: body =>
    head.events references .tableHead ++ body.flatMap (Row.events references .tableRow)

namespace Block

mutual

/-- The pieces of a block. -/
def tokens (references : References) (place : Place) : Block → List Token
  | .paragraph span content =>
    let inner := Inline.tokens references false content
    if place = .inItem true then inner
    else [.events (enclose .paragraph span (pairRuns inner))]
  | .heading span level content closing =>
    let inner := pairRuns (Inline.tokens references false content)
    let mark : List LocatedEvent :=
      closing.toList.map fun offset => { event := .text [], span := ⟨offset, offset⟩ }
    [.events (enclose (.heading level) span (inner ++ mark))]
  | .thematicBreak span => [.events [{ event := .rule, span }]]
  | .code span construct value =>
    [.events (enclose construct span [{ event := .text value, span }])]
  | .html span value => [.events (enclose .htmlBlock span [{ event := .html value, span }])]
  | .table span columns rows =>
    [.events (enclose (.table columns) span (rowEvents references rows))]
  | .taskMark span checked => [.events [{ event := .taskMark checked, span }]]
  | .list span start tight items =>
    [.events (enclose (.list start) span (pairRuns (tokensOf references (.inList tight) items)))]
  | .container span construct blocks =>
    let inner := match place with
      | .inList tight => Place.inItem tight
      | _ => Place.outside
    [.events (enclose construct span (pairRuns (tokensOf references inner blocks)))]

/-- The pieces of blocks in order. -/
def tokensOf (references : References) (place : Place) : List Block → List Token
  | [] => []
  | block :: rest => tokens references place block ++ tokensOf references place rest

end

end Block

/-- What the running text of an outline can refer to. Of several definitions with one label the
first one counts. -/
def Outline.references (source : Text) (outline : Outline) : References where
  source := source
  targets := outline.definitions.map fun definition =>
    (labelKey definition.label, definition.target)
  footnotes := outline.footnotes

/-- The events of a source. -/
def readEvents (source : Text) : List LocatedEvent :=
  let outline := readOutline source
  pairRuns (Block.tokensOf (outline.references source) .outside outline.blocks.reverse)

/-- The tree of a source. -/
def read (source : Text) : Node :=
  build (Text.byteLength source) (readEvents source)

end Manuscript.Markdown
