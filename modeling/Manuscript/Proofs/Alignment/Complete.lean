import Manuscript.Proofs.Alignment.Recognition
import Manuscript.Proofs.Alignment.Trim
import Manuscript.Proofs.Alignment.Visit

/-!
# Complete aligned blocks

An aligned block is complete when a closing tag follows its opening tag: in a paragraph of its own
after blocks without tags, or at the end of the paragraph that begins with the opening tag
(`Complete`). The pass takes such a block as a range, whatever siblings come after it
(`Complete.outcome`), and puts its contents into a wrapper. If it has none, nothing is put into its
place, and the pass goes on one sibling too late (`alignList_complete`).
-/

namespace Manuscript.Alignment

/-- An opening and a closing tag of one alignment. -/
structure Pair (opening closing : Marker) : Prop where
  isOpening : opening.closing = false
  isClosing : closing.closing = true
  aligned : closing.alignment = opening.alignment

/-- The children of a paragraph that begins with an opening tag and ends with a closing tag, neither
of them escaped, and what they are without the tags. -/
inductive Inline (source : Text) (opening closing : Marker) : List Node → List Node → Prop
  | one {front back : List Node} {text : Node} {within : Text}
      (before : Textless front) (after : Textless back)
      (kind : text.kind = .text (opening.tag ++ (within ++ closing.tag)))
      (plain : text.data.escaped = false) (unescaped : escapedBefore source text = false)
      (bare : within.getLast? ≠ some '\\')
      (unescaped' : escapedEnd source closing.tag text = false) :
      Inline source opening closing (front ++ text :: back)
        (front ++ unlessEmpty within text ++ back)
  | two {front middle back : List Node} {first last : Node} {rest rest' : Text}
      (before : Textless front) (after : Textless back)
      (kind : first.kind = .text (opening.tag ++ rest)) (plain : first.data.escaped = false)
      (unescaped : escapedBefore source first = false)
      (kind' : last.kind = .text (rest' ++ closing.tag)) (plain' : last.data.escaped = false)
      (bare : rest'.getLast? ≠ some '\\')
      (unescaped' : escapedEnd source closing.tag last = false) :
      Inline source opening closing (front ++ first :: (middle ++ last :: back))
        (front ++ unlessEmpty rest first ++ middle ++ unlessEmpty rest' last ++ back)

/-- A complete aligned block, with its tags and what stands between them. -/
inductive Complete (source : Text) : List Node → Found → Found → List Node → Prop
  | siblings {opening closing : Marker} {first last : Node} {between : List Node}
      (pair : Pair opening closing) (opens : IsTag source opening first)
      (closes : IsTag source closing last)
      (tagless : ∀ block ∈ between, ∀ marker, ¬ HasTag marker block) :
      Complete source (first :: (between ++ [last])) ⟨opening, true⟩ ⟨closing, true⟩ between
  | inline {opening closing : Marker} {block : Node} {children : List Node}
      (pair : Pair opening closing) (isParagraph : block.isParagraph = true)
      (inline : Inline source opening closing block.children children) :
      Complete source [block] ⟨opening, false⟩ ⟨closing, false⟩
        (unlessBlank { block with children })

section

variable {source : Text} {opening closing : Marker}

/-- Trimming takes nothing from the end of a tag. -/
theorem trimEnd_tag (marker : Marker) (front : Text) :
    Text.trimEnd (front ++ marker.tag) = front ++ marker.tag := by
  obtain ⟨closes, _⟩ := tag_closes marker
  rw [closes, Text.trimEnd, List.reverse_append, List.reverse_concat, List.cons_append,
    List.dropWhile_cons_of_neg (by decide), ← List.cons_append, ← List.reverse_concat,
    ← List.reverse_append, List.reverse_reverse]

/-- A text with two tags is not read as one. -/
theorem readAlone_of_two {text : Node} {within : Text} (pair : Pair opening closing)
    (kind : text.kind = .text (opening.tag ++ (within ++ closing.tag)))
    (plain : text.data.escaped = false) : readAlone source text = (text, none) := by
  have trimmed : Text.trim (opening.tag ++ (within ++ closing.tag)) =
      opening.tag ++ (within ++ closing.tag) := by
    rw [Text.trim, trimStart_tag, ← List.append_assoc, trimEnd_tag]
  have none : (Marker.openings ++ Marker.closings).find?
      (·.tag = opening.tag ++ (within ++ closing.tag)) = none := by
    refine List.find?_eq_none.2 fun marker _ same => ?_
    have whole : marker.tag = opening.tag ++ (within ++ closing.tag) := of_decide_eq_true same
    have first : marker = opening := eq_of_begins List.prefix_rfl ⟨_, whole.symm⟩
    have last : marker = closing :=
      eq_of_ends List.suffix_rfl ⟨opening.tag ++ within, by rw [whole, List.append_assoc]⟩
    have opens := pair.isOpening
    rw [← first, last, pair.isClosing] at opens
    cases opens
  obtain ⟨rest, tag, _⟩ := tag_brackets opening
  rw [tag, List.cons_append] at kind trimmed none
  simp only [readAlone, kind, plain, trimmed, none]
  exact ite_self _

/-- A text that is given a value has no other one. -/
theorem unlessEmpty_withText (value other : Text) (text : Node) :
    unlessEmpty value (text.withText other) = unlessEmpty value text := rfl

/-- Such a paragraph has a tag at either end, and is not read as one that holds a tag alone. -/
theorem Inline.reads {nodes children : List Node}
    (inline : Inline source opening closing nodes children) (pair : Pair opening closing) :
    readOnly source nodes = (nodes, none) ∧
      readFirst (readStart source) nodes = (nodes, some opening) ∧
        readLast (readEnd source) nodes = (nodes, some closing) := by
  cases inline with
  | @one front back text within before after kind plain unescaped bare unescaped' =>
    have isText := Node.isText_of_kind kind
    have begins : HoldsTag StandsFirst opening text :=
      ⟨plain, _, kind, pair.isOpening, List.prefix_append _ _⟩
    have bare' : (opening.tag ++ within).getLast? ≠ some '\\' := by
      obtain ⟨tag, _⟩ := tag_closes opening
      rw [List.getLast?_append, tag, List.getLast?_concat]
      cases last : within.getLast? with
      | none => decide
      | some c =>
        rw [last] at bare
        exact bare
    refine ⟨?_, ?_, ?_⟩
    · by_cases alone : front = [] ∧ back = []
      · obtain ⟨rfl, rfl⟩ := alone
        rw [List.nil_append, readOnly, readAlone_of_two pair kind plain]
      · refine readOnly_of_length fun single => alone ?_
        rw [List.length_append, List.length_cons] at single
        exact ⟨List.length_eq_zero_iff.1 (by omega), List.length_eq_zero_iff.1 (by omega)⟩
    · rw [readFirst_append before isText, readStart_of_holds begins unescaped]
    · rw [← List.append_assoc] at kind
      rw [readLast_append after isText,
        readEnd_of_holds pair.isClosing kind plain bare' unescaped']
  | @two front middle back first last rest rest' before after kind plain unescaped kind' plain' bare
      unescaped' =>
    have isText := Node.isText_of_kind kind
    have isText' := Node.isText_of_kind kind'
    have several : (front ++ first :: (middle ++ last :: back)).length ≠ 1 := by
      simp only [List.length_append, List.length_cons]
      omega
    have regroup : front ++ first :: (middle ++ last :: back) =
        (front ++ first :: middle) ++ last :: back := by simp
    have begins : HoldsTag StandsFirst opening first :=
      ⟨plain, _, kind, pair.isOpening, List.prefix_append _ _⟩
    refine ⟨readOnly_of_length several, ?_, ?_⟩
    · rw [readFirst_append before isText, readStart_of_holds begins unescaped]
    · rw [regroup, readLast_append after isText',
        readEnd_of_holds pair.isClosing kind' plain' bare unescaped']

/-- The closing tag is left when the opening tag is taken away, and without both tags the children
are what the paragraph holds between them. -/
theorem Inline.strips {nodes children : List Node}
    (inline : Inline source opening closing nodes children) :
    isBlankList (stripStart opening.tag nodes) = false ∧
      stripEnd closing.tag (stripStart opening.tag nodes) = children := by
  cases inline with
  | @one front back text within before after kind plain unescaped bare unescaped' =>
    have left : stripStart opening.tag (front ++ text :: back) =
        front ++ text.withText (within ++ closing.tag) :: back := by
      rw [stripStart_append _ before (Node.isText_of_kind kind), stripText_of_kind kind,
        unlessEmpty_of_tag, List.append_assoc, List.singleton_append]
    have kind' : (text.withText (within ++ closing.tag)).kind =
        .text (within ++ (closing.tag ++ [])) := by
      rw [List.append_nil]
      rfl
    rw [left]
    refine ⟨not_isBlankList_of_tag (by simp) kind', ?_⟩
    rw [stripEnd_append _ after rfl, stripTextEnd_of_kind rfl, unlessEmpty_withText]
  | @two front middle back first last rest rest' before after kind plain unescaped kind' plain' bare
      unescaped' =>
    have left : stripStart opening.tag (front ++ first :: (middle ++ last :: back)) =
        (front ++ unlessEmpty rest first ++ middle) ++ last :: back := by
      rw [stripStart_append _ before (Node.isText_of_kind kind), stripText_of_kind kind]
      simp
    have isText' := Node.isText_of_kind kind'
    rw [left]
    constructor
    · rw [← List.append_nil closing.tag] at kind'
      exact not_isBlankList_of_tag (by simp) kind'
    · rw [stripEnd_append _ after isText', stripTextEnd_of_kind kind']

/-- A paragraph with a tag at either end is read as them, and left as it is. -/
theorem Inline.readBlock {block : Node} {children : List Node}
    (inline : Inline source opening closing block.children children)
    (isParagraph : block.isParagraph = true) (pair : Pair opening closing) :
    readOpening source block = (block, some ⟨opening, false⟩) ∧
      readClosing source block = (block, some ⟨closing, false⟩) := by
  obtain ⟨only, first, last⟩ := inline.reads pair
  rw [readOpening, readClosing, Alignment.readBlock, Alignment.readBlock, if_pos isParagraph,
    if_pos isParagraph, only]
  dsimp only
  rw [first, last]
  cases block
  exact ⟨rfl, rfl⟩

/-- Blocks from an opening tag to the first block that closes it are a range if the search leaves
them as they are, whatever comes after them. -/
theorem outcome_of_closesAt {opening closing : Found} {first last : Node} {tail front : List Node}
    (opens : readOpening source first = (first, some opening))
    (isOpening : opening.marker.closing = false) (whole : first :: tail = front ++ [last])
    (unchanged : ∀ block ∈ first :: tail, passed source block = block)
    (closed : ClosesAt source opening true front last closing) (rest : List Node) :
    outcome source first (tail ++ rest) = .range ⟨opening, closing, first :: tail⟩ rest := by
  have same : (first :: tail).map (passed source) = first :: tail :=
    (List.map_congr_left unchanged).trans (List.map_id _)
  have all : first :: (tail ++ rest) = front ++ last :: rest := by
    rw [← List.cons_append, whole, List.append_assoc, List.singleton_append]
  have found := findClosing?_eq_some_iff.2 ⟨front, last, all, rfl, closed⟩
  have opened : (some opening).filter (!·.marker.closing) = some opening := by
    rw [Option.filter_some, isOpening]
    rfl
  rw [← whole, same] at found
  rw [outcome, opens]
  dsimp only
  rw [opened]
  dsimp only
  rw [found]

namespace Complete

variable {blocks contents : List Node} {opening closing : Found}

/-- The pass takes a complete block as a range, and leaves the siblings after it for later. -/
theorem outcome (complete : Complete source blocks opening closing contents) :
    ∃ first tail, blocks = first :: tail ∧
      (∀ rest, Alignment.outcome source first (tail ++ rest) =
          .range ⟨opening, closing, blocks⟩ rest) ∧
        (Range.mk opening closing blocks).inner = contents := by
  cases complete with
  | @siblings opening closing first last _ pair opens closes tagless =>
    have reads : ∀ block ∈ contents, readClosing source block = (block, none) :=
      fun block member => readClosing_of_tagless (tagless block member)
    have unchanged : ∀ block ∈ first :: (contents ++ [last]), passed source block = block := by
      intro block member
      rw [passed]
      rcases List.mem_cons.1 member with rfl | member
      · rw [readClosing, opens.readBlock]
      · rcases List.mem_append.1 member with member | member
        · rw [reads block member]
        · rw [List.mem_singleton.1 member, readClosing, closes.readBlock]
    have closed : ClosesAt source ⟨opening, true⟩ true (first :: contents) last
        ⟨closing, true⟩ := by
      refine ⟨?_, ?_, ?_⟩
      · rw [readClosing, closes.readBlock]
      · rw [Alignment.closes, pair.aligned]
        simp
      · intro before other after split found read
        cases before with
        | nil =>
          cases split
          rw [readClosing, opens.readBlock] at read
          cases read
          exact closes_self _ rfl
        | cons _ before =>
          cases split
          rw [reads other (by simp)] at read
          cases read
    refine ⟨first, contents ++ [last], rfl, fun rest => ?_, ?_⟩
    · exact outcome_of_closesAt (opens.readBlock _) pair.isOpening rfl unchanged closed rest
    · rw [Range.inner, dropBoth_append, dropOpening_singleton, dropClosing_singleton]
      exact List.append_nil contents
  | @inline opening closing block children pair isParagraph inline =>
    obtain ⟨opens, closes⟩ := inline.readBlock isParagraph pair
    have unchanged : ∀ other ∈ [block], passed source other = other := by
      intro other member
      rw [List.mem_singleton.1 member, passed, closes]
    have closed : ClosesAt source ⟨opening, false⟩ true [] block ⟨closing, false⟩ := by
      refine closesAt_nil_iff.2 ?_
      rw [closes, Option.filter_some, Alignment.closes, pair.aligned]
      simp
    refine ⟨block, [], rfl, fun rest => ?_, ?_⟩
    · exact outcome_of_closesAt opens pair.isOpening rfl unchanged closed rest
    · obtain ⟨filled, rfl⟩ := inline.strips
      have kept : isBlankParagraph
          { block with children := stripStart opening.tag block.children } = false :=
        Bool.and_eq_false_imp.2 fun _ => filled
      rw [Range.inner, dropOpening_singleton, if_neg Bool.false_ne_true, unlessBlank, kept,
        if_neg Bool.false_ne_true, dropClosing_singleton]
      rfl

end Complete

/-- The wrapper for the contents of an aligned block, if it has any. -/
def wrapper (options : AlignOptions) (opening closing : Found) (contents : List Node) : List Node :=
  if contents.isEmpty then []
  else [Node.container "div".toList (classes options opening closing) contents]

/-- A complete aligned block becomes the wrapper for its contents, and the siblings after it become
what they become on their own, if it has contents. If it has none, the sibling after it stays as it
is and only those after that become what they become on their own; this is the same as going on
with all of them exactly when the pass leaves the first of these. -/
theorem alignList_complete (options : AlignOptions) {source : Text} {blocks contents : List Node}
    {opening closing : Found} (complete : Complete source blocks opening closing contents)
    (rest : List Node) :
    (alignList options source (blocks ++ rest) =
        if contents.isEmpty then rest.take 1 ++ alignList options source (rest.drop 1)
        else wrapper options opening closing contents ++ alignList options source rest) ∧
      (alignList options source (blocks ++ rest) =
          wrapper options opening closing contents ++ alignList options source rest ↔
        contents ≠ [] ∨ alignList options source rest =
          rest.take 1 ++ alignList options source (rest.drop 1)) := by
  obtain ⟨first, tail, rfl, found, inner⟩ := complete.outcome
  have whole : alignList options source (first :: tail ++ rest) =
      if contents.isEmpty then rest.take 1 ++ alignList options source (rest.drop 1)
      else wrapper options opening closing contents ++ alignList options source rest := by
    rw [List.cons_append, alignList_of_range (found rest), Range.wrapper?_eq, Range.skipped,
      Range.remaining, inner, wrapper]
    split <;> rfl
  refine ⟨whole, ?_⟩
  rw [whole]
  cases contents with
  | nil =>
    rw [or_iff_right (not_not_intro rfl)]
    exact eq_comm
  | cons block contents => exact iff_of_true rfl (.inl (List.cons_ne_nil _ _))

end

/-- A source with an aligned block that is empty and another one after it. -/
def emptyThenLeft : Text :=
  "[center]\n\n[/center]\n\n[left]x[/left]".toList

/-- The first two blocks that are read from it, apart from their places. -/
def emptyCentered : List Node :=
  [Node.paragraph [Node.text "[center]".toList], Node.paragraph [Node.text "[/center]".toList]]

/-- The third one. -/
def leftInline : Node :=
  Node.paragraph [Node.text "[left]x[/left]".toList]

/-- The range that the pass finds in the empty block. -/
def emptyRange : Range where
  opening := ⟨⟨.center, .stacked, false⟩, true⟩
  closing := ⟨⟨.center, .stacked, true⟩, true⟩
  blocks := emptyCentered

/-- The range that it finds in the block after it. -/
def leftRange : Range where
  opening := ⟨⟨.left, .stacked, false⟩, false⟩
  closing := ⟨⟨.left, .stacked, true⟩, false⟩
  blocks := [leftInline]

/-- The first two blocks are a complete aligned block without contents. -/
theorem complete_emptyCentered :
    Complete emptyThenLeft emptyCentered emptyRange.opening emptyRange.closing [] := by
  have pair : Pair ⟨.center, .stacked, false⟩ ⟨.center, .stacked, true⟩ := ⟨rfl, rfl, rfl⟩
  have opens : IsTag emptyThenLeft ⟨.center, .stacked, false⟩
      (Node.paragraph [Node.text "[center]".toList]) :=
    ⟨rfl, _, rfl, ⟨rfl, _, rfl, rfl⟩, rfl⟩
  have closes : IsTag emptyThenLeft ⟨.center, .stacked, true⟩
      (Node.paragraph [Node.text "[/center]".toList]) :=
    ⟨rfl, _, rfl, ⟨rfl, _, rfl, rfl⟩, rfl⟩
  exact .siblings pair opens closes fun _ none => absurd none List.not_mem_nil

/-- The empty block goes, and the block after it stays as it is. -/
theorem alignList_emptyCentered :
    Complete emptyThenLeft emptyCentered emptyRange.opening emptyRange.closing [] ∧
      alignList {} emptyThenLeft (emptyCentered ++ [leftInline]) =
        [leftInline] ++ alignList {} emptyThenLeft [] :=
  ⟨complete_emptyCentered, (alignList_complete {} complete_emptyCentered [leftInline]).1⟩

/-- On its own the block after the empty one is wrapped, but not behind it. -/
theorem leftInline_is_skipped :
    Complete emptyThenLeft emptyCentered emptyRange.opening emptyRange.closing [] ∧
      alignList {} emptyThenLeft (emptyCentered ++ [leftInline]) = [leftInline] ∧
        alignList {} emptyThenLeft [leftInline] =
          [Node.container "div".toList ["text-left".toList]
            [Node.paragraph [Node.text "x".toList]]] := by
  have empty : outcome emptyThenLeft (Node.paragraph [Node.text "[center]".toList])
      [Node.paragraph [Node.text "[/center]".toList], leftInline] =
        .range emptyRange [leftInline] :=
    rfl
  have left : outcome emptyThenLeft leftInline [] = .range leftRange [] := rfl
  refine ⟨complete_emptyCentered, ?_, ?_⟩
  · rw [emptyCentered, List.cons_append, List.cons_append, List.nil_append,
      alignList_of_range empty, show emptyRange.remaining [leftInline] = [] from rfl, alignList]
    rfl
  · rw [alignList_of_range left, show leftRange.remaining [] = [] from rfl, alignList]
    rfl

end Manuscript.Alignment
