import Manuscript.Document.Basic
import Manuscript.Text.Blank
import Manuscript.Text.Pairs

/-!
# Attribute blocks

A block `{.class #id name="value"}`, or the same between double brackets, gives attributes to the
node before it: to emphasis, code, a link or an image directly before it, to a heading that it ends
or follows, and to a code block whose fence line begins with it. A block that cannot be read is
literal text.
-/

namespace Manuscript

/-- The attributes that a block gives. -/
structure AttributeBlock where
  /-- Classes, in order. -/
  classes : List Text := []
  /-- The identifier, if there is one. -/
  id : Option Text := none
  /-- Other attributes, in order. -/
  properties : List (Text × Text) := []
deriving DecidableEq, Repr

namespace AttributeBlock

/-- One entry of a block. -/
inductive Entry where
  /-- A class, written `.name`. -/
  | className (name : Text)
  /-- An identifier, written `#name`. -/
  | id (name : Text)
  /-- A named value, written `name=value` or `name`. -/
  | property (name value : Text)
deriving DecidableEq, Repr

/-- Adds an entry to a block. The names `class` and `id` mean the same as the short forms, except
that several classes may stand in one value. -/
def add (block : AttributeBlock) : Entry → AttributeBlock
  | .className name => { block with classes := block.classes ++ [name] }
  | .id name => { block with id := some name }
  | .property name value =>
    if name = "class".toList then { block with classes := block.classes ++ Text.words value }
    else if name = "id".toList then { block with id := some value }
    else { block with properties := block.properties ++ [(name, value)] }

/-- Whether a character can begin the name of an attribute. -/
def isNameStart (c : Char) : Bool :=
  c.isAlpha || c == '_' || c == ':'

/-- Whether a character can be part of the name of an attribute. -/
def isNameChar (c : Char) : Bool :=
  c.isAlphanum || c == '_' || c == ':' || c == '.' || c == '-'

/-- Whether a character can be part of a value without quotes. -/
def isBareChar (c : Char) : Bool :=
  !(Text.isBlank c || c == '"' || c == '\'')

/-- Reads a value: between quotes of one kind, or a run of characters without blanks and quotes. -/
def value? : Text → Option (Text × Text)
  | [] => some ([], [])
  | c :: rest =>
    if c = '"' || c = '\'' then Text.splitFirst? [c] rest
    else some ((c :: rest).takeWhile isBareChar, (c :: rest).dropWhile isBareChar)

/-- Reads one entry, and gives what follows it. -/
def entry? : Text → Option (Entry × Text)
  | [] => none
  | c :: rest =>
    if c = '.' || c = '#' then
      match rest.takeWhile (!Text.isBlank ·) with
      | [] => none
      | name =>
        some (if c = '.' then .className name else .id name, rest.dropWhile (!Text.isBlank ·))
    else if isNameStart c then
      let name := c :: rest.takeWhile isNameChar
      match rest.dropWhile isNameChar with
      | '=' :: tail => (value? tail).map fun (value, after) => (.property name value, after)
      | tail => some (.property name [], tail)
    else none

/-- What follows a value is no longer than the text. -/
theorem length_of_value? {text value after : Text} (found : value? text = some (value, after)) :
    after.length ≤ text.length := by
  unfold value? at found
  split at found
  · simp_all
  · rename_i c rest
    split at found
    · have := Text.length_after_lt (by simp) found
      simp only [List.length_cons]; omega
    · simp only [Option.some.injEq, Prod.mk.injEq] at found
      rw [← found.2]
      exact (List.dropWhile_sublist _).length_le

/-- What follows an entry is shorter than the text. -/
theorem length_of_entry? {text after : Text} {entry : Entry}
    (found : entry? text = some (entry, after)) : after.length < text.length := by
  unfold entry? at found
  split at found
  · cases found
  · rename_i c rest
    have names := (List.dropWhile_sublist (!Text.isBlank ·) (l := rest)).length_le
    have tails := (List.dropWhile_sublist isNameChar (l := rest)).length_le
    simp only [List.length_cons]
    split at found
    · split at found
      · cases found
      · simp only [Option.some.injEq, Prod.mk.injEq] at found
        rw [← found.2]; omega
    · split at found
      · split at found
        · rename_i tail shape
          simp only [Option.map_eq_some_iff, Prod.exists, Prod.mk.injEq] at found
          obtain ⟨value, rest', read, _, rfl⟩ := found
          have := length_of_value? read
          rw [shape] at tails
          simp only [List.length_cons] at tails
          omega
        · simp only [Option.some.injEq, Prod.mk.injEq] at found
          rw [← found.2]; omega
      · cases found

/-- Reads the entries of a block up to the end of the text, separated by blanks. -/
def entries? (text : Text) : Option (List Entry) :=
  match text with
  | [] => some []
  | c :: rest =>
    match _found : entry? (c :: rest) with
    | none => none
    | some (entry, after) =>
      if after.head?.any (!Text.isBlank ·) then none
      else (entries? (Text.trimStart after)).map (entry :: ·)
termination_by text.length
decreasing_by
  have shorter := length_of_entry? _found
  have := (List.dropWhile_sublist Text.isBlank (l := after)).length_le
  simp only [Text.trimStart]
  omega

/-- Reads what stands between the delimiters of a block: at least one entry. -/
def ofInner? (inner : Text) : Option AttributeBlock :=
  match Text.trimStart inner with
  | [] => none
  | text => (entries? text).map fun entries => entries.foldl add {}

/-- Cuts a text at the first `close` that is not inside quotes. `quote` is the quote that the text
begins in. -/
def splitClose? (close : Text) (quote : Option Char) : Text → Option (Text × Text)
  | [] => none
  | c :: rest =>
    match quote with
    | some q => continue' c (splitClose? close (if c = q then none else some q) rest)
    | none =>
      if c = '"' || c = '\'' then continue' c (splitClose? close (some c) rest)
      else
        match Text.dropFront? close (c :: rest) with
        | some after => some ([], after)
        | none => continue' c (splitClose? close none rest)
where
  /-- Puts a character in front of the part before the cut. -/
  continue' (c : Char) (found : Option (Text × Text)) : Option (Text × Text) :=
    found.map fun (before, after) => (c :: before, after)

/-- Reads a block from its inner text to its closing delimiter, and gives what follows it. -/
def closedBy? (close text : Text) : Option (AttributeBlock × Text) := do
  let (inner, after) ← splitClose? close none text
  let block ← ofInner? inner
  return (block, after)

/-- Reads a block at the start of a text, and gives what follows it. One blank may stand before
double brackets. -/
def read? : Text → Option (AttributeBlock × Text)
  | '\x7b' :: rest => closedBy? ['\x7d'] rest
  | ' ' :: '[' :: '[' :: rest => closedBy? [']', ']'] rest
  | '[' :: '[' :: rest => closedBy? [']', ']'] rest
  | _ => none

/-- Whether the name of an attribute is that of an event handler. -/
def isEventHandler (name : Text) : Bool :=
  Text.startsWith ['o', 'n'] (Text.asciiLowercase name)

/-- The block without its event handlers, unless they are allowed. -/
def filterHandlers (allowed : Bool) (block : AttributeBlock) : AttributeBlock :=
  if allowed then block
  else { block with properties := block.properties.filter fun (name, _) => !isEventHandler name }

/-- Adds a class to a list unless it is there. -/
def addClass (classes : List Text) (name : Text) : List Text :=
  if classes.contains name then classes else classes ++ [name]

/-- Puts the attributes of a block on a node. -/
def apply (block : AttributeBlock) (data : Annotations) : Annotations :=
  { data with
    classes := block.classes.foldl addClass data.classes
    id := block.id <|> data.id
    properties := Pairs.setAll block.properties data.properties }

/-- Puts the attributes of a block on a code block, where repeated names are kept. -/
def applyToCode (block : AttributeBlock) (data : Annotations) : Annotations :=
  { data with
    classes := data.classes ++ block.classes
    id := block.id <|> data.id
    properties := data.properties ++ block.properties }

/-- Whether a node takes the block that directly follows it. -/
def takesBlock : Kind → Bool
  | .emphasis => true
  | .strong => true
  | .delete => true
  | .inlineCode _ => true
  | .link _ _ => true
  | .image _ _ _ => true
  | _ => false

/-- Moves a block at the start of the next sibling to an inline node. -/
def attachInline (allowed : Bool) (node : Node) : List Node → Node × List Node
  | ⟨.text value, children, data, span⟩ :: rest =>
    match read? value with
    | some (block, after) =>
      let node := { node with data := (block.filterHandlers allowed).apply node.data }
      if after.isEmpty then (node, rest) else (node, ⟨.text after, children, data, span⟩ :: rest)
    | none => (node, ⟨.text value, children, data, span⟩ :: rest)
  | siblings => (node, siblings)

/-- Whether a heading takes up more than one line of the source, as underlined headings do. -/
def isUnderlined (source : Text) (heading : Node) : Bool :=
  match heading.span with
  | none => false
  | some span =>
    match Text.slice? source span.start span.stop with
    | none => false
    | some written => '\n' ∈ Text.trimEnd written

/-- The block at the end of a text, with the title before it. -/
def trailing? (value : Text) : Option (Text × AttributeBlock) := do
  let opening ←
    if Text.endsWith ['\x7d'] value then some ['\x7b']
    else if Text.endsWith [']', ']'] value then some ['[', '[']
    else none
  let (title, inner) ← Text.splitLast? opening value
  let (block, after) ← read? (opening ++ inner)
  guard after.isEmpty
  return (Text.trimEnd title, block)

/-- Moves a block at the end of a heading to the heading. A heading of nothing but a block keeps it
as text. -/
def attachHeading (allowed : Bool) (source : Text) (heading : Node) : Node :=
  if isUnderlined source heading then heading
  else
    match heading.children.getLast? with
    | some ⟨.text value, children, data, span⟩ =>
      match trailing? value with
      | some (title, block) =>
        let front := heading.children.dropLast
        let data' := (block.filterHandlers allowed).apply heading.data
        if !title.isEmpty then
          { heading with children := front ++ [⟨.text title, children, data, span⟩], data := data' }
        else if front.isEmpty then heading
        else { heading with children := front, data := data' }
      | none => heading
    | _ => heading

/-- Moves a block that is the paragraph after a heading to the heading. -/
def attachNextLine (allowed : Bool) (heading : Node) : List Node → Node × List Node
  | ⟨.paragraph, [⟨.text value, children, data, span⟩], data', span'⟩ :: rest =>
    let unchanged :=
      (heading, ⟨.paragraph, [⟨.text value, children, data, span⟩], data', span'⟩ :: rest)
    match read? value with
    | some (block, after) =>
      if after.isEmpty then
        ({ heading with data := (block.filterHandlers allowed).apply heading.data }, rest)
      else unchanged
    | none => unchanged
  | siblings => (heading, siblings)

/-- Moves a block at the start of a fence line to the code block. The fence line stays as it is. -/
def attachCode (allowed : Bool) (node : Node) : Node :=
  match node.kind with
  | .code (some _) (some fence) _ =>
    match read? (Text.trimStart fence) with
    | some (block, _) =>
      { node with data := (block.filterHandlers allowed).applyToCode node.data }
    | none => node
  | _ => node

/-- Gives a node the block that belongs to it, taken from the node itself or from what follows. -/
def attach (allowed : Bool) (source : Text) (node : Node) (rest : List Node) : Node × List Node :=
  match node.kind with
  | .heading _ => attachNextLine allowed (attachHeading allowed source node) rest
  | .code _ _ _ => (attachCode allowed node, rest)
  | kind => if takesBlock kind then attachInline allowed node rest else (node, rest)

/-- A node takes no more nodes than there are when it takes the block after it. -/
theorem weight_attachInline (allowed : Bool) (node : Node) (rest : List Node) :
    (attachInline allowed node rest).1.children = node.children ∧
      Node.weightList (attachInline allowed node rest).2 ≤ Node.weightList rest := by
  unfold attachInline
  split
  · split
    · split <;> simp [Node.weight_eq]
    · simp
  · simp

/-- The children of a heading weigh no more without a block at their end. -/
theorem weight_attachHeading (allowed : Bool) (source : Text) (heading : Node) :
    Node.weightList (attachHeading allowed source heading).children
      ≤ Node.weightList heading.children := by
  unfold attachHeading
  split
  · exact Nat.le_refl _
  · split
    · rename_i value children data span last
      obtain ⟨front, shape⟩ := List.getLast?_eq_some_iff.1 last
      have whole : heading.children
          = heading.children.dropLast ++ [⟨.text value, children, data, span⟩] := by
        simp [shape]
      have total := congrArg Node.weightList whole
      rw [Node.weightList_append] at total
      split
      · dsimp only
        split
        · rw [total]; simp [Node.weightList_append, Node.weight_eq]
        · split
          · exact Nat.le_refl _
          · dsimp only; omega
      · exact Nat.le_refl _
    · exact Nat.le_refl _

/-- A heading takes no more nodes than there are when it takes the paragraph after it. -/
theorem weight_attachNextLine (allowed : Bool) (heading : Node) (rest : List Node) :
    (attachNextLine allowed heading rest).1.children = heading.children ∧
      Node.weightList (attachNextLine allowed heading rest).2 ≤ Node.weightList rest := by
  unfold attachNextLine
  split
  · split
    · split <;> simp
    · simp
  · simp

/-- Attaching blocks adds no nodes. -/
theorem weight_attach (allowed : Bool) (source : Text) (node : Node) (rest : List Node) :
    Node.weightList (attach allowed source node rest).1.children ≤ Node.weightList node.children ∧
      Node.weightList (attach allowed source node rest).2 ≤ Node.weightList rest := by
  unfold attach
  split
  · have next := weight_attachNextLine allowed (attachHeading allowed source node) rest
    rw [next.1]
    exact ⟨weight_attachHeading allowed source node, next.2⟩
  · constructor
    · unfold attachCode
      split
      · split <;> simp
      · simp
    · simp
  · split
    · have inline := weight_attachInline allowed node rest
      rw [inline.1]
      exact ⟨Nat.le_refl _, inline.2⟩
    · simp

/-- Attaches the blocks in a list of siblings and below them. -/
def attachList (allowed : Bool) (source : Text) (nodes : List Node) : List Node :=
  match nodes with
  | [] => []
  | node :: rest =>
    let attached := attach allowed source node rest
    { attached.1 with children := attachList allowed source attached.1.children }
      :: attachList allowed source attached.2
termination_by Node.weightList nodes
decreasing_by
  all_goals
    have bound := weight_attach allowed source node rest
    have positive := Node.weight_eq node
    simp only [Node.weightList_cons]
    omega

/-- Attaches the attribute blocks of a document. -/
def attachDocument (allowed : Bool) (source : Text) (tree : Node) : Node :=
  { tree with children := attachList allowed source tree.children }

end AttributeBlock

end Manuscript
