import Manuscript.Document.TextSubstitution
import Manuscript.Text.Blank

/-!
# The fence line of a code block

What stands after the language on a fence line may hold a token `[group:label]`, which puts the
block into a set of tabs. The rest is kept for a syntax highlighter.
-/

namespace Manuscript.CodeFence

/-- Whether a character can be part of the name of a tab group. -/
def isGroupChar (c : Char) : Bool :=
  !(c == '[' || c == ']' || c == ':' || Text.isBlank c)

/-- Whether a character can be part of the label of a tab. -/
def isLabelChar (c : Char) : Bool :=
  !(c == '[' || c == ']')

/-- Reads `group:label]`, the part of a token after its opening bracket. Gives the group, the label
and the text after the token. -/
def tokenTail? (text : Text) : Option (Text × Text × Text) :=
  let group := text.takeWhile isGroupChar
  match group, text.dropWhile isGroupChar with
  | _ :: _, ':' :: rest =>
    let label := rest.takeWhile isLabelChar
    match label, rest.dropWhile isLabelChar with
    | _ :: _, ']' :: after => some (group, label, after)
    | _, _ => none
  | _, _ => none

/-- A token with the text on either side of it. -/
structure Token where
  /-- The text before the token. -/
  before : Text
  /-- The name of the group. -/
  group : Text
  /-- The label as it is written. -/
  label : Text
  /-- The text after the token. -/
  after : Text
deriving DecidableEq, Repr

/-- The first token of a text. -/
def firstToken? : Text → Option Token
  | [] => none
  | c :: rest =>
    match if c = '[' then tokenTail? rest else none with
    | some (group, label, after) => some { before := [], group, label, after }
    | none => (firstToken? rest).map fun token => { token with before := c :: token.before }

/-- The tab that the first token names, and the text without the token; nothing when there is no
token or when the label of the first one is blank. -/
def extractTab? (fence : Text) : Option (CodeTab × Option Text) := do
  let token ← firstToken? fence
  let group := Text.trim token.group
  let label := Text.trim token.label
  guard (!group.isEmpty && !label.isEmpty)
  let rest := Text.trim (Text.trimEnd token.before ++ ' ' :: Text.trimStart token.after)
  return ({ group, label }, Text.nonempty? rest)

/-- Moves the token of a code block from its fence line to its annotations. -/
def groupCode (node : Node) : Node :=
  match node.kind with
  | .code language (some fence) value =>
    match extractTab? fence with
    | some (tab, rest) =>
      { node with
        kind := .code language rest value, data := { node.data with codeTab := some tab } }
    | none => node
  | _ => node

/-- Copies what is left of a fence line to the annotations. -/
def keepFence (node : Node) : Node :=
  match node.kind with
  | .code _ (some fence) _ =>
    if Text.isBlankText fence then node
    else { node with data := { node.data with fenceMeta := some fence } }
  | _ => node

/-- Puts the code blocks of a document into tab groups. -/
def groupTabs (tree : Node) : Node :=
  tree.mapCode groupCode

/-- Keeps the fence lines of a document for a syntax highlighter. -/
def preserveMeta (tree : Node) : Node :=
  tree.mapCode keepFence

end Manuscript.CodeFence
