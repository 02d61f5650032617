import Manuscript.Proofs.Alignment.Ends
import Manuscript.Proofs.Alignment.Turns
import Manuscript.Proofs.Document.Induction
import Manuscript.Proofs.Text.Ends
import Mathlib.Data.List.Forall2

/-!
# What reading leaves behind

While the pass over aligned blocks looks for tags it settles escapes: a text with an escaped tag
loses the backslash and is marked, and no tag is read from a marked text. `Settles` is what can
happen to a text in this way and `Met` what can happen to a block, however often it is read; a text
from which a tag is read has not been changed before (`Settles.eq_of_plain`).
-/

namespace Manuscript.Alignment

/-- What becomes of a text when its escapes are settled: it stays as it is, it is marked as escaped,
or it loses the backslash before a tag and is marked. -/
inductive Settles : Node → Node → Prop
  | same (node : Node) : Settles node node
  | marked {node : Node} (isText : node.isText = true) (plain : node.data.escaped = false) :
      Settles node (markEscaped node)
  | literal {node : Node} {front back : Text} (marker : Marker)
      (plain : node.data.escaped = false)
      (kind : node.kind = .text (front ++ '\\' :: (marker.tag ++ back))) :
      Settles node (markEscaped (node.withText (front ++ (marker.tag ++ back))))

/-- A text may begin with an escaped tag. -/
theorem Settles.literal_start {node : Node} {back : Text} (marker : Marker)
    (plain : node.data.escaped = false) (kind : node.kind = .text ('\\' :: (marker.tag ++ back))) :
    Settles node (markEscaped (node.withText (marker.tag ++ back))) := by
  rw [← List.nil_append (marker.tag ++ back)]
  exact .literal marker plain kind

/-- A text may end with an escaped tag. -/
theorem Settles.literal_end {node : Node} {front : Text} (marker : Marker)
    (plain : node.data.escaped = false) (kind : node.kind = .text (front ++ '\\' :: marker.tag)) :
    Settles node (markEscaped (node.withText (front ++ marker.tag))) := by
  rw [← List.append_nil marker.tag] at kind ⊢
  exact .literal marker plain kind

/-- A text that is not marked has not been changed. -/
theorem Settles.eq_of_plain {node other : Node} (settles : Settles node other)
    (plain : other.data.escaped = false) : other = node := by
  cases settles with
  | same => rfl
  | marked => cases plain
  | literal => cases plain

/-- A marked text is not changed any more. -/
theorem Settles.eq_of_escaped {node other : Node} (settles : Settles node other)
    (escaped : node.data.escaped = true) : other = node := by
  cases settles with
  | same => rfl
  | marked _ plain =>
    rw [escaped] at plain
    cases plain
  | literal _ plain =>
    rw [escaped] at plain
    cases plain

/-- Settling twice is settling once. -/
theorem Settles.trans {first second third : Node} (once : Settles first second)
    (again : Settles second third) : Settles first third := by
  cases escaped : second.data.escaped with
  | false => rwa [← once.eq_of_plain escaped]
  | true => rwa [again.eq_of_escaped escaped]

/-- Settling keeps what is below a node. -/
theorem Settles.children {node other : Node} (settles : Settles node other) :
    other.children = node.children := by
  cases settles <;> rfl

/-- Settling keeps the kind of a node, as far as it is seen whether it is a text. -/
theorem Settles.isText {node other : Node} (settles : Settles node other) :
    other.isText = node.isText := by
  cases settles with
  | same => rfl
  | marked => rfl
  | literal _ _ kind => rw [isText_markEscaped, isText_withText, Node.isText_of_kind kind]

/-- Only texts are changed. -/
theorem Settles.eq_of_not_isText {node other : Node} (settles : Settles node other)
    (block : node.isText = false) : other = node := by
  cases settles with
  | same => rfl
  | marked isText =>
    rw [block] at isText
    cases isText
  | literal _ _ kind =>
    rw [Node.isText_of_kind kind] at block
    cases block

/-- A tag stands alone in a text, apart from blanks. -/
def StandsAlone (marker : Marker) (value : Text) : Prop :=
  Text.trim value = marker.tag

/-- An opening tag stands at the start of a text. -/
def StandsFirst (marker : Marker) (value : Text) : Prop :=
  marker.closing = false ∧ marker.tag <+: value

/-- A closing tag stands at the end of a text. -/
def StandsLast (marker : Marker) (value : Text) : Prop :=
  marker.closing = true ∧ marker.tag <:+ value

/-- A way of reading settles the escapes of a text, and the tag that it reads stands in the text as
`stands` says and is not escaped. -/
structure Finds (read : Node → Node × Option Marker) (stands : Marker → Text → Prop) : Prop where
  settles : ∀ node, Settles node (read node).1
  found : ∀ {node marker}, (read node).2 = some marker →
    (read node).1 = node ∧ node.data.escaped = false ∧
      ∃ value, node.kind = .text value ∧ stands marker value

/-- The opening tags do not close, and the closing tags do. -/
theorem closing_of_mem_openings : ∀ marker ∈ Marker.openings, marker.closing = false := by
  decide

/-- The closing tags close. -/
theorem closing_of_mem_closings : ∀ marker ∈ Marker.closings, marker.closing = true := by
  decide

/-- A text that is read as a whole has its escape settled, and a tag that is found stands alone. -/
theorem readAlone_finds (source : Text) : Finds (readAlone source) StandsAlone := by
  constructor
  · intro node
    unfold readAlone
    dsimp only
    split
    · rename_i value kind
      split
      · exact .same node
      · rename_i plain
        split
        · rename_i tag trimmed
          split
          · rename_i known
            obtain ⟨marker, _, written⟩ := List.any_eq_true.1 known
            obtain ⟨blanks, _, whole⟩ := Text.blanks_trim_blanks value
            have tail : value.drop ((value.takeWhile Text.isBlank).length +
                (Text.trim value).length) = blanks := by
              rw [← List.length_append]
              conv_lhs =>
                arg 2
                rw [whole, ← List.append_assoc]
              exact List.drop_left
            rw [tail, ← of_decide_eq_true written, List.append_assoc]
            refine .literal marker (Bool.eq_false_iff.2 plain) ?_
            rw [kind, of_decide_eq_true written, ← List.cons_append, ← trimmed, ← whole]
          · exact .same node
        · split <;> exact .same node
    · exact .same node
  · intro node marker found
    unfold readAlone at found ⊢
    dsimp only at found ⊢
    split at found
    · rename_i value kind
      split at found
      · cases found
      · rename_i plain
        split at found
        · split at found <;> cases found
        · rename_i unescaped
          split at found
          · cases found
          · rename_i clear
            have stands := List.find?_some found
            refine ⟨?_, Bool.eq_false_iff.2 plain, value, kind, (of_decide_eq_true stands).symm⟩
            simp [plain, clear]
    · cases found

/-- A text that is read from its start has its escape settled, and a tag that is found stands
first. -/
theorem readStart_finds (source : Text) : Finds (readStart source) StandsFirst := by
  constructor
  · intro node
    unfold readStart
    dsimp only
    split
    · rename_i value kind
      split
      · exact .same node
      · rename_i plain
        have unescaped := Bool.eq_false_iff.2 plain
        split
        · rename_i rest literal
          split at literal
          · rename_i after
            split at literal
            · rename_i known
              cases literal
              obtain ⟨marker, _, begins⟩ := List.any_eq_true.1 known
              obtain ⟨back, rfl⟩ := List.isPrefixOf_iff_prefix.1 begins
              exact Settles.literal_start marker unescaped kind
            · cases literal
          · cases literal
        · split
          · split
            · exact .marked (Node.isText_of_kind kind) unescaped
            · exact .same node
          · exact .same node
    · exact .same node
  · intro node marker found
    unfold readStart at found ⊢
    dsimp only at found ⊢
    split at found
    · rename_i value kind
      split at found
      · cases found
      · rename_i plain
        split at found
        · cases found
        · rename_i literal
          split at found
          · cases found
          · rename_i clear
            dsimp only at found
            have begins := List.find?_some
              (p := fun marker : Marker => Text.startsWith marker.tag value) found
            have member : marker ∈ Marker.openings := List.mem_of_find?_eq_some found
            have opens := closing_of_mem_openings marker member
            refine ⟨?_, Bool.eq_false_iff.2 plain, value, kind, opens,
              List.isPrefixOf_iff_prefix.1 begins⟩
            simp [plain, clear]
    · cases found

/-- A text that is read from its end has its escape settled, and a tag that is found stands last. -/
theorem readEnd_finds (source : Text) : Finds (readEnd source) StandsLast := by
  constructor
  · intro node
    unfold readEnd
    split
    · rename_i value kind
      split
      · exact .same node
      · rename_i plain
        have unescaped := Bool.eq_false_iff.2 plain
        split
        · rename_i rest literal
          obtain ⟨marker, _, ends⟩ := List.exists_of_findSome?_eq_some literal
          rw [Option.map_eq_some_iff] at ends
          obtain ⟨front, ends, rfl⟩ := ends
          have whole := Text.dropBack?_eq_some_iff.1 ends
          exact Settles.literal_end marker unescaped (kind.trans (congrArg _ whole))
        · split
          · exact .same node
          · split
            · exact .marked (Node.isText_of_kind kind) unescaped
            · exact .same node
    · exact .same node
  · intro node marker found
    unfold readEnd at found ⊢
    split at found
    · rename_i value kind
      split at found
      · cases found
      · rename_i plain
        split at found
        · cases found
        · rename_i literal
          split at found
          · cases found
          · rename_i other here
            split at found
            · cases found
            · rename_i clear
              cases found
              have ends := List.find?_some
                (p := fun marker : Marker => Text.endsWith marker.tag value) here
              have closes := closing_of_mem_closings marker (List.mem_of_find?_eq_some here)
              refine ⟨?_, Bool.eq_false_iff.2 plain, value, kind, closes,
                List.isSuffixOf_iff_suffix.1 ends⟩
              simp [plain, clear]
    · cases found

/-- Siblings among which escapes have been settled. -/
abbrev SettlesList : List Node → List Node → Prop :=
  List.Forall₂ Settles

/-- Siblings may stay as they are. -/
theorem SettlesList.refl (nodes : List Node) : SettlesList nodes nodes :=
  List.forall₂_same.2 fun node _ => .same node

/-- Nodes that are related in two steps are related in one if each of them is. -/
theorem forall₂_trans {related : Node → Node → Prop} {first second third : List Node}
    (once : List.Forall₂ related first second) (again : List.Forall₂ related second third)
    (trans : ∀ {a b c : Node}, related a b → related b c → related a c) :
    List.Forall₂ related first third := by
  induction once generalizing third with
  | nil =>
    cases again
    exact .nil
  | cons own _ ih =>
    cases again with
    | cons next later => exact .cons (trans own next) (ih later)

/-- Escapes may be settled in two steps. -/
theorem SettlesList.trans {first second third : List Node} (once : SettlesList first second)
    (again : SettlesList second third) : SettlesList first third :=
  forall₂_trans once again Settles.trans

/-- Nodes that are related to those of two lists are two lists. -/
theorem split_forall₂ {related : Node → Node → Prop} {nodes front back : List Node}
    (all : List.Forall₂ related nodes (front ++ back)) :
    ∃ front' back', nodes = front' ++ back' ∧ List.Forall₂ related front' front ∧
      List.Forall₂ related back' back :=
  ⟨_, _, (List.take_append_drop front.length nodes).symm, List.forall₂_take_append _ _ _ all,
    List.forall₂_drop_append _ _ _ all⟩

/-- Only one node is related to the only node of a list. -/
theorem forall₂_singleton {related : Node → Node → Prop} {nodes : List Node} {other : Node}
    (all : List.Forall₂ related nodes [other]) : ∃ node, nodes = [node] ∧ related node other := by
  cases all with
  | cons own none =>
    cases none
    exact ⟨_, rfl, own⟩

/-- What siblings around a text become stands around what becomes of the text. -/
theorem SettlesList.split {front back others : List Node} {text : Node}
    (settles : SettlesList (front ++ text :: back) others) :
    ∃ front' text' back', others = front' ++ text' :: back' ∧ SettlesList front front' ∧
      Settles text text' ∧ SettlesList back back' := by
  induction front generalizing others with
  | nil =>
    cases settles with
    | cons own later => exact ⟨[], _, _, rfl, .nil, own, later⟩
  | cons node front ih =>
    cases settles with
    | cons own later =>
      obtain ⟨front', text', back', rfl, before, text, after⟩ := ih later
      exact ⟨_ :: front', text', back', rfl, .cons own before, text, after⟩

/-- A text that is not marked stood among the siblings before. -/
theorem SettlesList.split_plain {nodes front back : List Node} {text : Node}
    (settles : SettlesList nodes (front ++ text :: back)) (plain : text.data.escaped = false) :
    ∃ front' back', nodes = front' ++ text :: back' ∧ SettlesList front' front ∧
      SettlesList back' back := by
  obtain ⟨front', later, rfl, before, after⟩ := split_forall₂ settles
  cases after with
  | @cons node _ back' _ own after =>
    rw [own.eq_of_plain plain]
    exact ⟨front', back', rfl, before, after⟩

/-- Settling escapes makes no texts of other nodes, and no other nodes of texts. -/
theorem SettlesList.textless_iff {nodes others : List Node} (settles : SettlesList nodes others) :
    Textless nodes ↔ Textless others := by
  induction settles with
  | nil => rfl
  | cons own _ ih =>
    rw [Textless, Textless, List.forall_mem_cons, List.forall_mem_cons, own.isText]
    exact and_congr_right' ih

/-- Reading the first text settles its escapes. -/
theorem readFirst_settles {read : Node → Node × Option Marker} {stands : Marker → Text → Prop}
    (finds : Finds read stands) (nodes : List Node) :
    SettlesList nodes (readFirst read nodes).1 := by
  induction nodes with
  | nil => exact .nil
  | cons node rest ih =>
    rw [readFirst]
    split
    · exact .cons (finds.settles node) (SettlesList.refl rest)
    · exact .cons (.same node) ih

/-- Reading the last text settles its escapes. -/
theorem readLast_settles {read : Node → Node × Option Marker} {stands : Marker → Text → Prop}
    (finds : Finds read stands) (nodes : List Node) :
    SettlesList nodes (readLast read nodes).1 := by
  have backwards := readFirst_settles finds nodes.reverse
  rw [readLast]
  exact List.forall₂_reverse_iff.1 (by rwa [List.reverse_reverse])

/-- Reading the only text settles its escapes. -/
theorem readOnly_settles (source : Text) (nodes : List Node) :
    SettlesList nodes (readOnly source nodes).1 := by
  unfold readOnly
  split
  · exact .cons ((readAlone_finds source).settles _) .nil
  · exact SettlesList.refl _

/-- What becomes of a block when the pass comes to it: a text or another block has been settled
itself, and the texts of a paragraph have been settled. -/
inductive Met : Node → Node → Prop
  | settled {node other : Node} (settles : Settles node other) : Met node other
  | paragraph {node : Node} {children : List Node} (isParagraph : node.isParagraph = true)
      (settles : SettlesList node.children children) : Met node { node with children }

/-- A block may stay as it is. -/
theorem Met.refl (node : Node) : Met node node :=
  .settled (.same node)

/-- A paragraph is no text. -/
theorem not_isText_of_isParagraph {node : Node} (isParagraph : node.isParagraph = true) :
    node.isText = false := by
  rw [Node.isParagraph, decide_eq_true_eq] at isParagraph
  rw [Node.isText, Node.textValue?, isParagraph]
  rfl

/-- A text is no paragraph. -/
theorem not_isParagraph_of_isText {node : Node} (isText : node.isText = true) :
    node.isParagraph = false := by
  refine Bool.eq_false_iff.2 fun isParagraph => ?_
  rw [not_isText_of_isParagraph isParagraph] at isText
  cases isText

/-- A paragraph is only met as one, with its texts settled. -/
theorem Met.eq_of_isParagraph {node other : Node} (met : Met node other)
    (isParagraph : node.isParagraph = true) :
    other = { node with children := other.children } ∧
      SettlesList node.children other.children := by
  cases met with
  | settled settles =>
    have same := settles.eq_of_not_isText (not_isText_of_isParagraph isParagraph)
    subst same
    exact ⟨by cases other; rfl, SettlesList.refl _⟩
  | paragraph _ settles => exact ⟨rfl, settles⟩

/-- What is met as a paragraph is one. -/
theorem Met.isParagraph {node other : Node} (met : Met node other) :
    other.isParagraph = node.isParagraph := by
  cases met with
  | settled settles =>
    cases isText : node.isText with
    | false => rw [settles.eq_of_not_isText isText]
    | true =>
      rw [not_isParagraph_of_isText isText,
        not_isParagraph_of_isText (settles.isText.trans isText)]
  | paragraph => rfl

/-- Meeting a block twice is meeting it once. -/
theorem Met.trans {first second third : Node} (once : Met first second)
    (again : Met second third) : Met first third := by
  cases isParagraph : first.isParagraph with
  | true =>
    obtain ⟨whole, settles⟩ := once.eq_of_isParagraph isParagraph
    obtain ⟨whole', settles'⟩ := again.eq_of_isParagraph (by rw [once.isParagraph, isParagraph])
    rw [whole', whole]
    exact .paragraph isParagraph (settles.trans settles')
  | false =>
    cases once with
    | paragraph isParagraph' =>
      rw [isParagraph] at isParagraph'
      cases isParagraph'
    | settled settles =>
      cases again with
      | settled settles' => exact .settled (settles.trans settles')
      | paragraph isParagraph' =>
        rw [(Met.settled settles).isParagraph, isParagraph] at isParagraph'
        cases isParagraph'

/-- Meeting a block meets what is below it. -/
theorem Met.children {node other : Node} (met : Met node other) :
    List.Forall₂ Met node.children other.children := by
  cases met with
  | settled settles =>
    rw [settles.children]
    exact List.forall₂_same.2 fun child _ => .refl child
  | paragraph _ settles => exact settles.imp fun _ _ => .settled

/-- Reading a marker from a block is meeting it. -/
theorem readBlock_met (source : Text) {read : List Node → List Node × Option Marker}
    (settles : ∀ nodes, SettlesList nodes (read nodes).1) (block : Node) :
    Met block (readBlock source read block).1 := by
  have only := readOnly_settles source block.children
  rw [readBlock]
  cases isParagraph : block.isParagraph with
  | false => exact .refl block
  | true =>
    rw [if_pos rfl]
    split
    · rename_i children marker found
      rw [found] at only
      exact .paragraph isParagraph only
    · rename_i children found
      rw [found] at only
      exact .paragraph isParagraph (only.trans (settles children))

/-- Reading an opening tag does no more to a block than coming to it. -/
theorem readOpening_met (source : Text) (block : Node) :
    Met block (readOpening source block).1 :=
  readBlock_met source (readFirst_settles (readStart_finds source)) block

/-- Passing over a block does no more to it than coming to it. -/
theorem passed_met (source : Text) (block : Node) : Met block (passed source block) :=
  readBlock_met source (readLast_settles (readEnd_finds source)) block

/-- Passing over blocks is meeting them. -/
theorem map_passed_met (source : Text) (nodes : List Node) :
    List.Forall₂ Met nodes (nodes.map (passed source)) := by
  rw [List.forall₂_map_right_iff]
  exact List.forall₂_same.2 fun node _ => passed_met source node

end Manuscript.Alignment
