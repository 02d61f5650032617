import Manuscript.Prose.Alignment

/-!
# The ends of a paragraph

Of the nodes in a paragraph, the pass over aligned blocks looks at its first and its last text, and
apart from that only at whether everything else is blank. `Shape` is this view of a list of nodes,
and what is read from a list and what it becomes are functions of its ends (`Ends.opening`,
`Ends.closing`). Two paragraphs with the same ends are therefore the same to the pass
(`SameEnds`), whatever stands between the ends.
-/

namespace Manuscript.Alignment

/-- No node of a list is a text. -/
def Textless (nodes : List Node) : Prop :=
  ∀ node ∈ nodes, node.isText = false

/-- There is no text among no nodes. -/
theorem textless_nil : Textless [] := by
  simp [Textless]

/-- One more node that is no text leaves siblings without texts. -/
theorem Textless.cons {node : Node} {rest : List Node} (textless : Textless rest)
    (other : node.isText = false) : Textless (node :: rest) :=
  List.forall_mem_cons.2 ⟨other, textless⟩

/-- Siblings have no text if neither part of them has one. -/
theorem Textless.append {front back : List Node} (before : Textless front)
    (after : Textless back) : Textless (front ++ back) :=
  List.forall_mem_append.2 ⟨before, after⟩

/-- Whether a list of nodes holds nothing but blank texts. -/
def isBlankList (nodes : List Node) : Bool :=
  nodes.all fun node => node.textValue?.any Text.isBlankText

/-- The first and the last text of a list of nodes, which may be one. -/
inductive Ends where
  | none
  | one (text : Node)
  | two (first last : Node)

/-- The ends of a list of nodes, and whether everything else in it is blank. -/
inductive Shape : List Node → Ends → Bool → Prop
  | none {nodes : List Node} (textless : Textless nodes) : Shape nodes .none nodes.isEmpty
  | one {front back : List Node} {text : Node} (before : Textless front) (after : Textless back)
      (isText : text.isText = true) :
      Shape (front ++ text :: back) (.one text) (front.isEmpty && back.isEmpty)
  | two {front middle back : List Node} {first last : Node} (before : Textless front)
      (after : Textless back) (isText : first.isText = true) (isText' : last.isText = true) :
      Shape (front ++ first :: (middle ++ last :: back)) (.two first last)
        (front.isEmpty && isBlankList middle && back.isEmpty)

/-- Every list of nodes has ends. -/
theorem exists_shape (nodes : List Node) : ∃ ends clear, Shape nodes ends clear := by
  induction nodes with
  | nil => exact ⟨_, _, .none textless_nil⟩
  | cons node rest ih =>
    obtain ⟨ends, clear, shape⟩ := ih
    by_cases isText : node.isText = true
    · cases shape with
      | none textless => exact ⟨_, _, @Shape.one [] rest node textless_nil textless isText⟩
      | @one front back text before after isText' =>
        exact ⟨_, _, @Shape.two [] front back node text textless_nil after isText isText'⟩
      | @two front middle back first last before after isText' isText'' =>
        have regroup : node :: (front ++ first :: (middle ++ last :: back)) =
            [] ++ node :: ((front ++ first :: middle) ++ last :: back) := by simp
        rw [regroup]
        exact ⟨_, _, .two textless_nil after isText isText''⟩
    · have other : node.isText = false := Bool.eq_false_iff.2 isText
      cases shape with
      | none before => exact ⟨_, _, .none (before.cons other)⟩
      | one before after isText' =>
        exact ⟨_, _, Shape.one (before.cons other) after isText'⟩
      | two before after isText' isText'' =>
        exact ⟨_, _, Shape.two (before.cons other) after isText' isText''⟩

namespace Ends

/-- Reads the first of the ends. -/
def readFirst (read : Node → Node × Option Marker) : Ends → Ends × Option Marker
  | none => (none, .none)
  | one text => (one (read text).1, (read text).2)
  | two first last => (two (read first).1 last, (read first).2)

/-- Reads the last of the ends. -/
def readLast (read : Node → Node × Option Marker) : Ends → Ends × Option Marker
  | none => (none, .none)
  | one text => (one (read text).1, (read text).2)
  | two first last => (two first (read last).1, (read last).2)

/-- Reads the only text of a list of nodes, if there is nothing else in it. -/
def readOnly (source : Text) (clear : Bool) : Ends → Ends × Option Marker
  | one text =>
    if clear then (one (readAlone source text).1, (readAlone source text).2) else (one text, .none)
  | ends => (ends, .none)

/-- Reads a marker from the ends of a paragraph. -/
def readMarker (source : Text) (read : Ends → Ends × Option Marker) (clear : Bool) (ends : Ends) :
    Ends × Option Found :=
  match ends.readOnly source clear with
  | (ends, some marker) => (ends, some ⟨marker, true⟩)
  | (ends, .none) => ((read ends).1, (read ends).2.map (⟨·, false⟩))

end Ends

/-- A way of reading a text gives a text. -/
def KeepsText (read : Node → Node × Option Marker) : Prop :=
  ∀ node, node.isText = true → (read node).1.isText = true

/-- A node with another text is a text. -/
@[simp] theorem isText_withText (value : Text) (node : Node) :
    (node.withText value).isText = true := rfl

/-- Marking a node as escaped keeps its kind. -/
@[simp] theorem isText_markEscaped (node : Node) : (markEscaped node).isText = node.isText := rfl

/-- Reading a tag that stands alone leaves a text a text. -/
theorem readAlone_keepsText (source : Text) : KeepsText (readAlone source) := by
  intro node isText
  unfold readAlone
  dsimp only
  repeat' split
  all_goals simp [isText]

/-- Reading a tag at the start leaves a text a text. -/
theorem readStart_keepsText (source : Text) : KeepsText (readStart source) := by
  intro node isText
  unfold readStart
  repeat' split
  all_goals simp [isText]
  all_goals repeat' split
  all_goals simp [isText]

/-- Reading a tag at the end leaves a text a text. -/
theorem readEnd_keepsText (source : Text) : KeepsText (readEnd source) := by
  intro node isText
  unfold readEnd
  repeat' split
  all_goals simp [isText]

/-- The first text of a list of nodes is the one that has no text before it. -/
theorem readFirst_append {front : List Node} (textless : Textless front) {text : Node}
    (isText : text.isText = true) (read : Node → Node × Option Marker) (back : List Node) :
    readFirst read (front ++ text :: back) = (front ++ (read text).1 :: back, (read text).2) := by
  induction front with
  | nil => simp [readFirst, isText]
  | cons node front ih =>
    have other : node.isText = false := textless node List.mem_cons_self
    have rest := ih fun node member => textless node (List.mem_cons_of_mem _ member)
    simp [readFirst, other, rest]

/-- Nothing is read from a list without texts. -/
theorem readFirst_of_textless {nodes : List Node} (textless : Textless nodes)
    (read : Node → Node × Option Marker) : readFirst read nodes = (nodes, none) := by
  induction nodes with
  | nil => rfl
  | cons node rest ih =>
    have other : node.isText = false := textless node List.mem_cons_self
    have later := ih fun node member => textless node (List.mem_cons_of_mem _ member)
    simp [readFirst, other, later]

/-- A list without texts has none in any order. -/
theorem Textless.reverse {nodes : List Node} (textless : Textless nodes) :
    Textless nodes.reverse :=
  fun node member => textless node (List.mem_reverse.1 member)

/-- The last text of a list of nodes is the one that has no text after it. -/
theorem readLast_append {back : List Node} (textless : Textless back) {text : Node}
    (isText : text.isText = true) (read : Node → Node × Option Marker) (front : List Node) :
    readLast read (front ++ text :: back) = (front ++ (read text).1 :: back, (read text).2) := by
  have reversed : (front ++ text :: back).reverse = back.reverse ++ text :: front.reverse := by
    simp
  rw [readLast, reversed, readFirst_append textless.reverse isText]
  simp

/-- Nothing is read from a list without texts. -/
theorem readLast_of_textless {nodes : List Node} (textless : Textless nodes)
    (read : Node → Node × Option Marker) : readLast read nodes = (nodes, none) := by
  rw [readLast, readFirst_of_textless textless.reverse]
  simp

/-- What is read from a list of nodes is read from its ends, and the ends of what it becomes are
what they become. -/
def ReadsEnds (read : List Node → List Node × Option Marker) (clear : Bool)
    (ofEnds : Ends → Ends × Option Marker) : Prop :=
  ∀ nodes ends, Shape nodes ends clear →
    (read nodes).2 = (ofEnds ends).2 ∧ Shape (read nodes).1 (ofEnds ends).1 clear

/-- The first text is one of the ends. -/
theorem readFirst_readsEnds {read : Node → Node × Option Marker} (keeps : KeepsText read)
    (clear : Bool) : ReadsEnds (readFirst read) clear (Ends.readFirst read) := by
  intro nodes ends shape
  cases shape with
  | none textless =>
    rw [readFirst_of_textless textless]
    exact ⟨rfl, .none textless⟩
  | one before after isText =>
    rw [readFirst_append before isText]
    exact ⟨rfl, .one before after (keeps _ isText)⟩
  | two before after isText isText' =>
    rw [readFirst_append before isText]
    exact ⟨rfl, .two before after (keeps _ isText) isText'⟩

/-- The last text is one of the ends. -/
theorem readLast_readsEnds {read : Node → Node × Option Marker} (keeps : KeepsText read)
    (clear : Bool) : ReadsEnds (readLast read) clear (Ends.readLast read) := by
  intro nodes ends shape
  cases shape with
  | none textless =>
    rw [readLast_of_textless textless]
    exact ⟨rfl, .none textless⟩
  | one before after isText =>
    rw [readLast_append after isText]
    exact ⟨rfl, .one before after (keeps _ isText)⟩
  | @two front middle back first last before after isText isText' =>
    have regroup : front ++ first :: (middle ++ last :: back) =
        (front ++ first :: middle) ++ last :: back := by simp
    rw [regroup, readLast_append after isText', List.append_assoc, List.cons_append]
    exact ⟨rfl, .two before after isText (keeps _ isText')⟩

/-- A list of two or more nodes is not read as one that holds a text alone. -/
theorem readOnly_of_length {source : Text} {nodes : List Node} (several : nodes.length ≠ 1) :
    readOnly source nodes = (nodes, none) := by
  rw [readOnly]
  rintro node rfl
  exact several rfl

/-- The only text is one of the ends. -/
theorem readOnly_readsEnds (source : Text) (clear : Bool) :
    ReadsEnds (readOnly source) clear (Ends.readOnly source clear) := by
  intro nodes ends shape
  cases shape with
  | @none nodes textless =>
    have same : readOnly source nodes = (nodes, none) := by
      by_cases single : nodes.length = 1
      · obtain ⟨node, rfl⟩ := List.length_eq_one_iff.1 single
        have other : node.isText = false := textless node List.mem_cons_self
        have unread : readAlone source node = (node, none) := by
          unfold readAlone
          split
          · rename_i value kind
            rw [Node.isText, Node.textValue?, kind] at other
            cases other
          · rfl
        rw [readOnly, unread]
      · exact readOnly_of_length single
    rw [same]
    exact ⟨rfl, .none textless⟩
  | @one front back text before after isText =>
    by_cases alone : front = [] ∧ back = []
    · obtain ⟨rfl, rfl⟩ := alone
      exact ⟨rfl, .one before after (readAlone_keepsText source _ isText)⟩
    · have clutter : (front.isEmpty && back.isEmpty) = false := by
        rw [Bool.and_eq_false_iff, List.isEmpty_eq_false_iff, List.isEmpty_eq_false_iff]
        exact Classical.not_and_iff_not_or_not.1 alone
      have several : (front ++ text :: back).length ≠ 1 := by
        rw [List.length_append, List.length_cons]
        intro single
        exact alone ⟨List.length_eq_zero_iff.1 (by omega), List.length_eq_zero_iff.1 (by omega)⟩
      rw [readOnly_of_length several, Ends.readOnly, clutter]
      have shape := Shape.one before after isText
      rw [clutter] at shape
      exact ⟨rfl, shape⟩
  | @two front middle back first last before after isText isText' =>
    have several : (front ++ first :: (middle ++ last :: back)).length ≠ 1 := by
      simp only [List.length_append, List.length_cons]
      omega
    rw [readOnly_of_length several]
    exact ⟨rfl, .two before after isText isText'⟩

/-- Two lists of nodes have the same ends. -/
def SameEnds (nodes others : List Node) : Prop :=
  ∃ ends clear, Shape nodes ends clear ∧ Shape others ends clear

/-- The same is read from paragraphs with the same ends, and they have the same ends afterwards. -/
theorem SameEnds.readBlock {source : Text} {read : List Node → List Node × Option Marker}
    {ofEnds : Ends → Ends × Option Marker} (reads : ∀ clear, ReadsEnds read clear ofEnds)
    {block other : Node} (isParagraph : block.isParagraph = true)
    (isParagraph' : other.isParagraph = true) (same : SameEnds block.children other.children) :
    (readBlock source read block).2 = (readBlock source read other).2 ∧
      SameEnds (readBlock source read block).1.children
        (readBlock source read other).1.children := by
  obtain ⟨ends, clear, shape, shape'⟩ := same
  have view : ∀ node : Node, node.isParagraph = true → Shape node.children ends clear →
      (Alignment.readBlock source read node).2 = (ends.readMarker source ofEnds clear).2 ∧
        Shape (Alignment.readBlock source read node).1.children
          (ends.readMarker source ofEnds clear).1 clear := by
    intro node isParagraph shape
    obtain ⟨marker, after⟩ := readOnly_readsEnds source clear node.children ends shape
    rw [Alignment.readBlock, if_pos isParagraph, Ends.readMarker]
    cases only : readOnly source node.children with
    | mk children found =>
      cases onlyEnds : ends.readOnly source clear with
      | mk endsOnly foundEnds =>
        rw [only, onlyEnds] at marker after
        dsimp only at marker after
        subst marker
        cases found with
        | some marker => exact ⟨rfl, after⟩
        | none =>
          obtain ⟨marker, later⟩ := reads clear children endsOnly after
          exact ⟨congrArg (Option.map _) marker, later⟩
  obtain ⟨marker, after⟩ := view block isParagraph shape
  obtain ⟨marker', after'⟩ := view other isParagraph' shape'
  exact ⟨marker.trans marker'.symm, _, clear, after, after'⟩

/-- A list without texts is blank if it is empty. -/
theorem isBlankList_of_textless {nodes : List Node} (textless : Textless nodes) :
    isBlankList nodes = nodes.isEmpty := by
  cases nodes with
  | nil => rfl
  | cons node rest =>
    have other := textless node List.mem_cons_self
    rw [Node.isText, Option.isSome_eq_false_iff, Option.isNone_iff_eq_none] at other
    simp [isBlankList, other]

/-- Siblings are blank if both parts of them are. -/
theorem isBlankList_append (front back : List Node) :
    isBlankList (front ++ back) = (isBlankList front && isBlankList back) :=
  List.all_append

/-- What becomes of the first text when a tag is taken from its start. -/
def stripText (tag : Text) (node : Node) : List Node :=
  stripStart tag [node]

/-- What becomes of the last text when a tag is taken from its end. -/
def stripTextEnd (tag : Text) (node : Node) : List Node :=
  stripEnd tag [node]

/-- A node that is no text has no value. -/
theorem textValue?_of_not_isText {node : Node} (other : node.isText = false) :
    node.textValue? = none := by
  rwa [Node.isText, Option.isSome_eq_false_iff, Option.isNone_iff_eq_none] at other

/-- A tag is taken from the first text of a list of nodes. -/
theorem stripStart_append (tag : Text) {front : List Node} (textless : Textless front) {text : Node}
    (isText : text.isText = true) (back : List Node) :
    stripStart tag (front ++ text :: back) = front ++ stripText tag text ++ back := by
  induction front with
  | nil =>
    obtain ⟨value, own⟩ := Option.isSome_iff_exists.1 isText
    simp only [List.nil_append, stripStart, stripText, own]
    split <;> simp_all
  | cons node front ih =>
    have other := textValue?_of_not_isText (textless node List.mem_cons_self)
    have rest := ih fun node member => textless node (List.mem_cons_of_mem _ member)
    simp [stripStart, other, rest]

/-- A tag is taken from the last text of a list of nodes, given last node first. -/
theorem stripEndReversed_append (tag : Text) {front : List Node} (textless : Textless front)
    {text : Node} (isText : text.isText = true) (back : List Node) :
    stripEndReversed tag (front ++ text :: back) =
      front ++ stripEndReversed tag [text] ++ back := by
  induction front with
  | nil =>
    obtain ⟨value, own⟩ := Option.isSome_iff_exists.1 isText
    simp only [List.nil_append, stripEndReversed, own]
    split <;> simp_all
  | cons node front ih =>
    have other := textValue?_of_not_isText (textless node List.mem_cons_self)
    have rest := ih fun node member => textless node (List.mem_cons_of_mem _ member)
    simp [stripEndReversed, other, rest]

/-- A tag is taken from the last text of a list of nodes. -/
theorem stripEnd_append (tag : Text) {back : List Node} (textless : Textless back) {text : Node}
    (isText : text.isText = true) (front : List Node) :
    stripEnd tag (front ++ text :: back) = front ++ stripTextEnd tag text ++ back := by
  have reversed : (front ++ text :: back).reverse = back.reverse ++ text :: front.reverse := by
    simp
  have single : stripTextEnd tag text = (stripEndReversed tag [text]).reverse := rfl
  rw [stripEnd, reversed, stripEndReversed_append tag textless.reverse isText, single]
  simp

/-- There is no tag in a list without texts. -/
theorem stripStart_of_textless (tag : Text) {nodes : List Node} (textless : Textless nodes) :
    stripStart tag nodes = nodes := by
  induction nodes with
  | nil => rfl
  | cons node rest ih =>
    have other := textValue?_of_not_isText (textless node List.mem_cons_self)
    have later := ih fun node member => textless node (List.mem_cons_of_mem _ member)
    simp [stripStart, other, later]

/-- There is no tag in a list without texts. -/
theorem stripEnd_of_textless (tag : Text) {nodes : List Node} (textless : Textless nodes) :
    stripEnd tag nodes = nodes := by
  have reversed : stripEndReversed tag nodes.reverse = nodes.reverse := by
    have backwards := textless.reverse
    generalize nodes.reverse = nodes at backwards
    induction nodes with
    | nil => rfl
    | cons node rest ih =>
      have other := textValue?_of_not_isText (backwards node List.mem_cons_self)
      have later := ih fun node member => backwards node (List.mem_cons_of_mem _ member)
      simp [stripEndReversed, other, later]
  rw [stripEnd, reversed, List.reverse_reverse]

/-- A text without a tag at its start is a text, or nothing. -/
theorem stripText_cases (tag : Text) {text : Node} (isText : text.isText = true) :
    stripText tag text = [] ∨ ∃ other, stripText tag text = [other] ∧ other.isText = true := by
  obtain ⟨value, own⟩ := Option.isSome_iff_exists.1 isText
  simp only [stripText, stripStart, own]
  split
  · exact .inr ⟨text, rfl, isText⟩
  · exact .inl rfl
  · exact .inr ⟨_, rfl, rfl⟩

namespace Ends

/-- Whether the ends are blank without a tag at their start. -/
def isBlankStart (tag : Text) : Ends → Bool
  | none => true
  | one text => isBlankList (stripText tag text)
  | two first last => isBlankList (stripText tag first) && isBlankList [last]

/-- Whether the ends are blank without a tag at their end. -/
def isBlankEnd (tag : Text) : Ends → Bool
  | none => true
  | one text => isBlankList (stripTextEnd tag text)
  | two first last => isBlankList [first] && isBlankList (stripTextEnd tag last)

/-- Whether the ends are blank without a tag at their start and one at their end. -/
def isBlankWithin (opening closing : Text) : Ends → Bool
  | none => true
  | one text => isBlankList (stripEnd closing (stripText opening text))
  | two first last =>
    isBlankList (stripText opening first) && isBlankList (stripTextEnd closing last)

end Ends

/-- Whether a list is blank without a tag at its start is seen from its ends. -/
theorem Shape.isBlankStart {nodes : List Node} {ends : Ends} {clear : Bool}
    (shape : Shape nodes ends clear) (tag : Text) :
    isBlankList (stripStart tag nodes) = (clear && ends.isBlankStart tag) := by
  cases shape with
  | none textless =>
    rw [stripStart_of_textless tag textless, isBlankList_of_textless textless]
    exact (Bool.and_true _).symm
  | one before after isText =>
    rw [stripStart_append tag before isText, isBlankList_append, isBlankList_append,
      isBlankList_of_textless before, isBlankList_of_textless after, Ends.isBlankStart]
    ac_rfl
  | @two front middle back first last before after isText isText' =>
    have single : isBlankList (last :: back) = (isBlankList [last] && isBlankList back) :=
      isBlankList_append [last] back
    rw [stripStart_append tag before isText, isBlankList_append, isBlankList_append,
      isBlankList_append, single, isBlankList_of_textless before, isBlankList_of_textless after,
      Ends.isBlankStart]
    ac_rfl

/-- Whether a list is blank without a tag at its end is seen from its ends. -/
theorem Shape.isBlankEnd {nodes : List Node} {ends : Ends} {clear : Bool}
    (shape : Shape nodes ends clear) (tag : Text) :
    isBlankList (stripEnd tag nodes) = (clear && ends.isBlankEnd tag) := by
  cases shape with
  | none textless =>
    rw [stripEnd_of_textless tag textless, isBlankList_of_textless textless]
    exact (Bool.and_true _).symm
  | one before after isText =>
    rw [stripEnd_append tag after isText, isBlankList_append, isBlankList_append,
      isBlankList_of_textless before, isBlankList_of_textless after, Ends.isBlankEnd]
    ac_rfl
  | @two front middle back first last before after isText isText' =>
    have regroup : front ++ first :: (middle ++ last :: back) =
        (front ++ [first] ++ middle) ++ last :: back := by simp
    rw [regroup, stripEnd_append tag after isText', isBlankList_append, isBlankList_append,
      isBlankList_append, isBlankList_append, isBlankList_of_textless before,
      isBlankList_of_textless after, Ends.isBlankEnd]
    ac_rfl

/-- Whether a list is blank without a tag at its start and one at its end is seen from its ends. -/
theorem Shape.isBlankWithin {nodes : List Node} {ends : Ends} {clear : Bool}
    (shape : Shape nodes ends clear) (opening closing : Text) :
    isBlankList (stripEnd closing (stripStart opening nodes)) =
      (clear && ends.isBlankWithin opening closing) := by
  cases shape with
  | none textless =>
    rw [stripStart_of_textless opening textless, stripEnd_of_textless closing textless,
      isBlankList_of_textless textless]
    exact (Bool.and_true _).symm
  | @one front back text before after isText =>
    rw [stripStart_append opening before isText, Ends.isBlankWithin]
    rcases stripText_cases opening isText with gone | ⟨other, left, isText'⟩
    · rw [gone, List.append_nil, stripEnd_of_textless closing (before.append after),
        isBlankList_append, isBlankList_of_textless before, isBlankList_of_textless after]
      exact (Bool.and_true _).symm
    · have single : stripEnd closing [other] = stripTextEnd closing other := rfl
      rw [left, List.append_assoc, List.singleton_append, stripEnd_append closing after isText',
        isBlankList_append, isBlankList_append, isBlankList_of_textless before,
        isBlankList_of_textless after, single]
      ac_rfl
  | @two front middle back first last before after isText isText' =>
    have regroup : front ++ stripText opening first ++ (middle ++ last :: back) =
        (front ++ stripText opening first ++ middle) ++ last :: back := by simp
    rw [stripStart_append opening before isText, regroup, stripEnd_append closing after isText',
      isBlankList_append, isBlankList_append, isBlankList_append, isBlankList_append,
      isBlankList_of_textless before, isBlankList_of_textless after, Ends.isBlankWithin]
    ac_rfl

end Manuscript.Alignment
