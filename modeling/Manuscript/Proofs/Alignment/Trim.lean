import Manuscript.Proofs.Alignment.Deletion

/-!
# What is trimmed from siblings

`Trimmed` relates siblings to what is left of them when tags are taken from their texts and
paragraphs that are blank without them are removed. All other nodes stay in their order
(`Trimmed.frame_eq`), and the texts, joined, lose no more than `Deletes` allows
(`Trimmed.deletes`). Taking the opening tag from the first block of a range and the closing tag from
its last trims them (`trimmed_dropOpening`, `trimmed_dropClosing`, `trimmed_dropBoth`).
-/

namespace Manuscript.Alignment

/-- What is seen of the nodes among siblings and below them that are neither texts nor paragraphs,
in the order of the document. -/
def frame (nodes : List Node) : List (Kind × Annotations × Option Span) :=
  ((Node.nodesBelow nodes).filter fun node => !node.isText && !node.isParagraph).map fun node =>
    (node.kind, node.data, node.span)

/-- The frame of siblings is that of the first of them and that of the others. -/
theorem frame_append (front back : List Node) :
    frame (front ++ back) = frame front ++ frame back := by
  rw [frame, Node.nodesBelow_append, List.filter_append, List.map_append]
  rfl

/-- A text or a paragraph is not seen itself. -/
theorem frame_of_hidden {node : Node} (hidden : node.isText = true ∨ node.isParagraph = true) :
    frame [node] = frame node.children := by
  have unseen : (!node.isText && !node.isParagraph) = false := by
    rcases hidden with isText | isParagraph
    · rw [isText]; rfl
    · rw [isParagraph, Bool.not_true, Bool.and_false]
  rw [frame, Node.nodesBelow_singleton, List.filter_cons_of_neg (by simp [unseen])]
  rfl

/-- What is seen of a node that is no text does not depend on its children. -/
theorem frame_congr {node : Node} {children : List Node}
    (same : frame node.children = frame children) :
    frame [node] = frame [{ node with children }] := by
  have root : ∀ other : Node, frame [other] =
      (([other].filter fun node => !node.isText && !node.isParagraph).map fun node =>
        (node.kind, node.data, node.span)) ++ frame other.children := by
    intro other
    rw [frame, Node.nodesBelow_singleton, ← List.singleton_append, List.filter_append,
      List.map_append]
    rfl
  rw [root, root, same]
  congr 1
  have alike : (!({ node with children } : Node).isText &&
      !({ node with children } : Node).isParagraph) = (!node.isText && !node.isParagraph) := rfl
  rw [List.filter_singleton, List.filter_singleton, alike]
  cases !node.isText && !node.isParagraph <;> rfl

/-- The texts among siblings have nothing below them. -/
def LeafTexts (nodes : List Node) : Prop :=
  ∀ node ∈ nodes, node.isText = true → node.children = []

/-- What may become of siblings when the given tags are taken from their texts: texts lose them, a
text goes that becomes empty, and a paragraph goes that is blank apart from tags. -/
inductive Trimmed (paragraphs : List Node) : List Marker → List Node → List Node → Prop
  | nil : Trimmed paragraphs [] [] []
  | append {tags tags' : List Marker} {front front' back back' : List Node}
      (first : Trimmed paragraphs tags front front')
      (later : Trimmed paragraphs tags' back back') :
      Trimmed paragraphs (tags ++ tags') (front ++ back) (front' ++ back')
  | text {own below : List Marker} {node other : Node} {value value' : Text}
      (kind : node.kind = .text value) (kind' : other.kind = .text value')
      (deletes : Deletes [] own value value')
      (inside : Trimmed paragraphs below node.children other.children) :
      Trimmed paragraphs (own ++ below) [node] [other]
  | emptied {tags : List Marker} {node : Node} {value : Text} (kind : node.kind = .text value)
      (leaf : node.children = []) (deletes : Deletes [] tags value []) :
      Trimmed paragraphs tags [node] []
  | inside {tags : List Marker} {node : Node} {children : List Node} (other : node.isText = false)
      (below : Trimmed paragraphs tags node.children children) :
      Trimmed paragraphs tags [node] [{ node with children }]
  | removed {tags : List Marker} {node : Node} (member : node ∈ paragraphs)
      (isParagraph : node.isParagraph = true) (bare : frame node.children = []) (tagged : tags ≠ [])
      (leaves : LeavesBlank tags node.plainText) : Trimmed paragraphs tags [node] []

namespace Trimmed

variable {paragraphs : List Node} {tags : List Marker} {node other : Node}
  {nodes others : List Node}

/-- The nodes that are neither texts nor paragraphs stay, in their order. -/
theorem frame_eq (trimmed : Trimmed paragraphs tags nodes others) : frame nodes = frame others := by
  induction trimmed with
  | nil => rfl
  | append _ _ first later => rw [frame_append, frame_append, first, later]
  | text kind kind' _ _ ih =>
    rw [frame_of_hidden (.inl (Node.isText_of_kind kind)),
      frame_of_hidden (.inl (Node.isText_of_kind kind')), ih]
  | emptied kind leaf =>
    rw [frame_of_hidden (.inl (Node.isText_of_kind kind)), leaf]
  | inside _ _ ih => exact frame_congr ih
  | removed _ isParagraph bare => exact (frame_of_hidden (.inr isParagraph)).trans bare

/-- The texts lose the tags, and nothing else but what may go with them. -/
theorem deletes (trimmed : Trimmed paragraphs tags nodes others) :
    Deletes paragraphs tags (Node.plainTextList nodes) (Node.plainTextList others) := by
  induction trimmed with
  | nil => exact .nil
  | append _ _ first later =>
    rw [Node.plainTextList_append, Node.plainTextList_append]
    exact first.append later
  | text kind kind' deletes _ ih =>
    rw [Node.plainTextList_singleton, Node.plainTextList_singleton, Node.plainText_of_kind kind,
      Node.plainText_of_kind kind']
    exact deletes.widen.append ih
  | emptied kind leaf deletes =>
    rw [Node.plainTextList_singleton, Node.plainText_of_kind kind, leaf, Node.plainTextList,
      List.append_nil]
    exact deletes.widen
  | @inside _ node children other _ ih =>
    have still : ({ node with children } : Node).isText = false := other
    rw [Node.plainTextList_singleton, Node.plainTextList_singleton,
      Node.plainText_of_not_isText other, Node.plainText_of_not_isText still]
    exact ih
  | @removed tags node member isParagraph _ tagged leaves =>
    have removed := Deletes.paragraph member isParagraph tagged leaves .nil
    rwa [List.append_nil, List.append_nil, ← Node.plainTextList_singleton] at removed

/-- Siblings of which blank texts are left were blank apart from the tags. -/
theorem bare_of_blank (trimmed : Trimmed paragraphs tags nodes others)
    (blank : isBlankList others = true) (leaf : LeafTexts nodes) :
    frame nodes = [] ∧ LeavesBlank tags (Node.plainTextList nodes) := by
  induction trimmed with
  | nil => exact ⟨rfl, .nil⟩
  | append _ _ first later =>
    rw [isBlankList_append, Bool.and_eq_true] at blank
    obtain ⟨leafFront, leafBack⟩ := List.forall_mem_append.1 leaf
    obtain ⟨bare, leaves⟩ := first blank.1 leafFront
    obtain ⟨bare', leaves'⟩ := later blank.2 leafBack
    rw [frame_append, bare, bare', Node.plainTextList_append]
    exact ⟨rfl, leaves.append leaves'⟩
  | @text own below node other value value' kind kind' deletes inside _ =>
    have isText := Node.isText_of_kind kind
    have childless := leaf node List.mem_cons_self isText
    have left : Text.isBlankText value' = true := by
      rw [isBlankList, List.all_cons, Node.textValue?, kind'] at blank
      exact (Bool.and_eq_true_iff.1 blank).1
    have untagged : below = [] := inside.deletes.eq_nil (by rw [childless, Node.plainTextList])
    rw [frame_of_hidden (.inl isText), untagged, List.append_nil, Node.plainTextList_singleton,
      Node.plainText_of_kind kind, childless, Node.plainTextList, List.append_nil]
    exact ⟨rfl, deletes.leavesBlank left⟩
  | emptied kind childless deletes =>
    rw [frame_of_hidden (.inl (Node.isText_of_kind kind)), childless,
      Node.plainTextList_singleton, Node.plainText_of_kind kind, childless, Node.plainTextList,
      List.append_nil]
    exact ⟨rfl, deletes.leavesBlank rfl⟩
  | @inside _ node children other _ _ =>
    have valueless : ({ node with children } : Node).textValue? = none :=
      textValue?_of_not_isText other
    rw [isBlankList, List.all_cons, valueless] at blank
    cases blank
  | removed _ isParagraph bare _ leaves =>
    rw [Node.plainTextList_singleton]
    exact ⟨(frame_of_hidden (.inr isParagraph)).trans bare, leaves⟩

/-- A node may be trimmed below. -/
theorem keep {children : List Node} (below : Trimmed paragraphs tags node.children children) :
    Trimmed paragraphs tags [node] [{ node with children }] := by
  cases own : node.textValue? with
  | none =>
    have other : node.isText = false := by rw [Node.isText, own]; rfl
    exact .inside other below
  | some value =>
    have kind := Node.kind_of_textValue? own
    exact .text kind (by exact kind) (.refl value) below

/-- Nothing need be trimmed. -/
theorem refl (nodes : List Node) : Trimmed paragraphs [] nodes nodes := by
  have both : (∀ tree, Trimmed paragraphs [] [tree] [tree]) ∧
      ∀ nodes, Trimmed paragraphs [] nodes nodes :=
    Node.induction (fun _ _ _ _ below => .keep below) .nil fun _ _ own later => own.append later
  exact both.2 nodes

/-- A node may be trimmed below when its escapes are settled. -/
theorem settled {children : List Node} (settles : Settles node other)
    (below : Trimmed paragraphs tags node.children children) :
    Trimmed paragraphs tags [node] [{ other with children }] := by
  cases settles with
  | same => exact .keep below
  | marked isText =>
    obtain ⟨value, own⟩ := Option.isSome_iff_exists.1 isText
    have kind := Node.kind_of_textValue? own
    exact .text kind (by exact kind) (.refl value) below
  | @literal front back marker _ kind =>
    have deletes : Deletes [] [] (front ++ '\\' :: (marker.tag ++ back))
        (front ++ (marker.tag ++ back)) :=
      (Deletes.refl front).append (.backslash marker (.refl back))
    exact .text kind rfl deletes below

/-- Settling escapes takes no tag from siblings. -/
theorem of_settles (settles : Settles node other) : Trimmed paragraphs [] [node] [other] := by
  have below : Trimmed paragraphs [] node.children other.children := by
    rw [settles.children]
    exact .refl _
  have own := settled settles below
  cases other
  exact own

/-- Settling the escapes takes no tags. -/
theorem of_settlesList (settles : SettlesList nodes others) :
    Trimmed paragraphs [] nodes others := by
  induction settles with
  | nil => exact .nil
  | cons own _ later => exact (of_settles own).append later

/-- Meeting siblings takes no tag from them. -/
theorem of_met (met : List.Forall₂ Met nodes others) : Trimmed paragraphs [] nodes others := by
  induction met with
  | nil => exact .nil
  | @cons node other _ _ own _ later =>
    have first : Trimmed paragraphs [] [node] [other] := by
      cases own with
      | settled settles => exact of_settles settles
      | paragraph isParagraph settles =>
        exact .inside (not_isText_of_isParagraph isParagraph) (of_settlesList settles)
    exact first.append later

/-- A block may be trimmed below when it has been met. -/
theorem kept {children : List Node} (met : Met node other)
    (below : Trimmed paragraphs tags node.children children) :
    Trimmed paragraphs tags [node] [{ other with children }] := by
  cases met with
  | settled settles => exact settled settles below
  | paragraph => exact keep below

/-- The tags may be taken from a text among siblings while the escapes around it are settled. -/
theorem amid {front front' back back' others : List Node}
    (before : Trimmed paragraphs [] front front') (middle : Trimmed paragraphs tags [node] others)
    (after : Trimmed paragraphs [] back back') :
    Trimmed paragraphs tags (front ++ node :: back) (front' ++ others ++ back') := by
  have whole := (before.append middle).append after
  rwa [List.nil_append, List.append_nil, List.append_assoc, List.singleton_append] at whole

/-- When the tags are taken from a paragraph and it is blank without them, it goes. -/
theorem unlessBlank {children : List Node} (member : node ∈ paragraphs)
    (isParagraph : node.isParagraph = true) (leaf : LeafTexts node.children) (tagged : tags ≠ [])
    (below : Trimmed paragraphs tags node.children children) :
    Trimmed paragraphs tags [node] (Alignment.unlessBlank { node with children }) := by
  have other := not_isText_of_isParagraph isParagraph
  rw [Alignment.unlessBlank]
  split
  · rename_i blank
    have blankList : isBlankList children = true := (Bool.and_eq_true_iff.1 blank).2
    obtain ⟨bare, leaves⟩ := below.bare_of_blank blankList leaf
    rw [← Node.plainText_of_not_isText other] at leaves
    exact .removed member isParagraph bare tagged leaves
  · exact .inside other below

end Trimmed

/-- The text node with another value, or nothing if that is empty. -/
def unlessEmpty (value : Text) (text : Node) : List Node :=
  if value.isEmpty then [] else [text.withText value]

/-- A text with a tag in it is not empty. -/
theorem unlessEmpty_of_tag (marker : Marker) (front : Text) (text : Node) :
    unlessEmpty (front ++ marker.tag) text = [text.withText (front ++ marker.tag)] := by
  obtain ⟨rest, tag, _⟩ := tag_brackets marker
  rw [unlessEmpty, tag]
  exact if_neg (by simp)

/-- A text loses a tag at its start, and goes if nothing else is in it. -/
theorem stripText_of_kind {tag rest : Text} {text : Node} (kind : text.kind = .text (tag ++ rest)) :
    stripText tag text = unlessEmpty rest text := by
  have own : text.textValue? = some (tag ++ rest) := by rw [Node.textValue?, kind]
  simp only [stripText, stripStart, own, Text.dropFront?_eq_some_iff.2 rfl]
  cases rest <;> rfl

/-- A text loses a tag at its end, and goes if nothing else is in it. -/
theorem stripTextEnd_of_kind {tag front : Text} {text : Node}
    (kind : text.kind = .text (front ++ tag)) : stripTextEnd tag text = unlessEmpty front text := by
  have own : text.textValue? = some (front ++ tag) := by rw [Node.textValue?, kind]
  simp only [stripTextEnd, stripEnd, List.reverse_singleton, stripEndReversed, own,
    Text.dropBack?_eq_some_iff.2 rfl]
  cases front <;> rfl

section

variable {paragraphs : List Node}

/-- A text without anything below may be given a value that has lost the tags, and goes if that is
empty. -/
theorem trimmed_unlessEmpty {tags : List Marker} {text other : Node} {value left : Text}
    (kind : text.kind = .text value) (leaf : text.children = []) (settles : Settles text other)
    (deletes : Deletes [] tags value left) :
    Trimmed paragraphs tags [text] (unlessEmpty left other) := by
  rw [unlessEmpty]
  split
  · rename_i empty
    rw [List.isEmpty_iff.1 empty] at deletes
    exact .emptied kind leaf deletes
  · have below : Trimmed paragraphs [] text.children (other.withText left).children := by
      rw [show (other.withText left).children = text.children from settles.children]
      exact .refl _
    have kept : Trimmed paragraphs (tags ++ []) [text] [other.withText left] :=
      .text kind rfl deletes below
    rwa [List.append_nil] at kept

/-- Siblings with a text in which there is a tag are not blank. -/
theorem not_isBlankList_of_tag {nodes : List Node} {text : Node} {marker : Marker}
    {front back : Text} (member : text ∈ nodes)
    (kind : text.kind = .text (front ++ (marker.tag ++ back))) : isBlankList nodes = false := by
  refine List.all_eq_false.2 ⟨text, member, ?_⟩
  rw [Node.textValue?, kind, Option.any_some, not_blank_of_tag marker front back]
  exact Bool.false_ne_true

section

variable {nodes others : List Node} {marker opening closing : Marker}

/-- Taking an opening tag from the first text trims the siblings when their escapes have been
settled. -/
theorem trimmed_stripStart (leaf : LeafTexts nodes) (holds : HoldsFirst marker nodes)
    (settles : SettlesList nodes others) :
    Trimmed paragraphs [marker] nodes (stripStart marker.tag others) := by
  obtain ⟨front, text, back, rfl, textless, tagged⟩ := holds
  obtain ⟨value, kind, _, rest, rfl⟩ := tagged.value
  obtain ⟨front', text', back', rfl, before, own, after⟩ := settles.split
  have childless := leaf text (by simp) tagged.isText
  obtain ⟨rest', kind', deletes⟩ := own.after_tag kind
  rw [stripStart_append _ (before.textless_iff.1 textless) (Node.isText_of_kind kind'),
    stripText_of_kind kind']
  exact .amid (.of_settlesList before)
    (trimmed_unlessEmpty kind childless own (.tag marker deletes)) (.of_settlesList after)

/-- Taking a closing tag from the last text trims the siblings. -/
theorem trimmed_stripEnd (leaf : LeafTexts nodes) (settles : SettlesList nodes others)
    (holds : HoldsLast marker others) :
    Trimmed paragraphs [marker] nodes (stripEnd marker.tag others) := by
  obtain ⟨front, text, back, rfl, textless, tagged⟩ := holds
  obtain ⟨value, kind, _, rest, rfl⟩ := tagged.value
  obtain ⟨front₀, back₀, rfl, before, after⟩ := settles.split_plain tagged.plain
  have childless := leaf text (by simp) tagged.isText
  rw [stripEnd_append _ textless tagged.isText, stripTextEnd_of_kind kind]
  exact .amid (.of_settlesList before)
    (trimmed_unlessEmpty kind childless (.same text) (.last rest marker)) (.of_settlesList after)

/-- Taking an opening tag from the first text and a closing tag from the last trims the siblings,
and they are not blank in between. -/
theorem trimmed_stripBoth (leaf : LeafTexts nodes) (settles : SettlesList nodes others)
    (opens : HoldsFirst opening others) (closes : HoldsLast closing others) :
    isBlankList (stripStart opening.tag others) = false ∧
      Trimmed paragraphs [opening, closing] nodes
        (stripEnd closing.tag (stripStart opening.tag others)) := by
  obtain ⟨front, text, back, rfl, textless, tagged⟩ := opens
  obtain ⟨front', text', back', same, textless', tagged'⟩ := closes
  obtain ⟨value, kind, isOpening, begins⟩ := tagged.value
  obtain ⟨value', kind', isClosing, ends⟩ := tagged'.value
  obtain ⟨front₀, back₀, rfl, before, after⟩ := settles.split_plain tagged.plain
  have childless := leaf text (by simp) tagged.isText
  rcases eq_or_later same textless tagged'.isText with ⟨rfl, rfl, rfl⟩ | ⟨middle, rfl, rfl⟩
  · -- One text holds both tags.
    rw [kind] at kind'
    cases kind'
    obtain ⟨between, rfl⟩ := exists_between_tags isOpening isClosing begins ends
    have left : unlessEmpty (between ++ closing.tag) text =
        [text.withText (between ++ closing.tag)] := by
      obtain ⟨_, tag, _⟩ := tag_brackets closing
      rw [unlessEmpty, if_neg]
      simp [tag]
    have kindLeft : (text.withText (between ++ closing.tag)).kind =
        .text (between ++ closing.tag) := rfl
    have stripped := stripStart_append opening.tag textless tagged.isText back
    rw [stripText_of_kind kind, left, List.append_assoc, List.singleton_append] at stripped
    rw [stripped]
    constructor
    · have ended : (text.withText (between ++ closing.tag)).kind =
          .text (between ++ (closing.tag ++ [])) := by rw [List.append_nil]; rfl
      exact not_isBlankList_of_tag (by simp) ended
    · have again : unlessEmpty between (text.withText (between ++ closing.tag)) =
          unlessEmpty between text := rfl
      rw [stripEnd_append _ textless' rfl, stripTextEnd_of_kind kindLeft, again]
      exact .amid (.of_settlesList before)
        (trimmed_unlessEmpty kind childless (.same text) (.tag opening (.last between closing)))
        (.of_settlesList after)
  · -- The closing tag is in a later text.
    obtain ⟨rest, rfl⟩ := begins
    obtain ⟨rest', rfl⟩ := ends
    obtain ⟨middle₀, back'₀, rfl, amid, behind⟩ := after.split_plain tagged'.plain
    have childless' := leaf text' (by simp) tagged'.isText
    rw [stripStart_append _ textless tagged.isText, stripText_of_kind kind]
    constructor
    · have ended : text'.kind = .text (rest' ++ (closing.tag ++ [])) := by rwa [List.append_nil]
      exact not_isBlankList_of_tag (by simp) ended
    · rw [← List.append_assoc, stripEnd_append _ textless' tagged'.isText,
        stripTextEnd_of_kind kind', List.append_assoc, List.append_assoc, List.append_assoc,
        ← List.append_assoc middle]
      have first : Trimmed paragraphs [opening] [text] (unlessEmpty rest text) :=
        trimmed_unlessEmpty kind childless (.same text) (.tag opening (.refl rest))
      have last : Trimmed paragraphs [closing] [text'] (unlessEmpty rest' text') :=
        trimmed_unlessEmpty kind' childless' (.same text') (.last rest' closing)
      exact (Trimmed.of_settlesList before).append
        (first.append (.amid (.of_settlesList amid) last (.of_settlesList behind)))

end

section

variable {original block : Node}

/-- A paragraph with a tag that stands alone in it is blank apart from the tag. -/
theorem trimmed_of_alone {marker : Marker} (member : original ∈ paragraphs)
    (leaf : LeafTexts original.children) (isParagraph : original.isParagraph = true)
    (alone : HoldsAlone marker original.children) :
    Trimmed paragraphs [marker] [original] [] := by
  obtain ⟨text, whole, holds⟩ := alone
  obtain ⟨value, kind, stands⟩ := holds.value
  have childless : text.children = [] := leaf text (by simp [whole]) holds.isText
  have plainText : original.plainText = value := by
    rw [Node.plainText_of_not_isText (not_isText_of_isParagraph isParagraph), whole,
      Node.plainTextList_singleton, Node.plainText_of_kind kind, childless, Node.plainTextList,
      List.append_nil]
  refine .removed member isParagraph ?_ (List.cons_ne_nil _ _) ?_
  · rw [whole, frame_of_hidden (.inl holds.isText), childless]
    rfl
  · rw [plainText]
    exact stands.leavesBlank

/-- Taking the opening tag from the first block of a range trims it. -/
theorem trimmed_dropOpening {opening : Found} (member : original ∈ paragraphs)
    (leaf : LeafTexts original.children) (carries : Carries HoldsFirst opening original)
    (met : Met original block) :
    Trimmed paragraphs [opening.marker] [original] (dropOpening opening [block]) := by
  have isParagraph := carries.isParagraph
  obtain ⟨whole, settles⟩ := met.eq_of_isParagraph isParagraph
  rw [dropOpening_singleton]
  split
  · rename_i alone
    exact trimmed_of_alone member leaf isParagraph (carries.alone alone)
  · rename_i beside
    have holds := carries.beside (Bool.eq_false_iff.2 beside)
    rw [whole]
    exact .unlessBlank member isParagraph leaf (List.cons_ne_nil _ _)
      (trimmed_stripStart leaf holds settles)

/-- Taking the closing tag from the last block of a range trims it. -/
theorem trimmed_dropClosing {closing : Found} (member : original ∈ paragraphs)
    (leaf : LeafTexts original.children) (met : Met original block)
    (carries : Carries HoldsLast closing block) :
    Trimmed paragraphs [closing.marker] [original] (dropClosing closing [block]) := by
  have isParagraph := met.isParagraph.symm.trans carries.isParagraph
  obtain ⟨whole, settles⟩ := met.eq_of_isParagraph isParagraph
  rw [dropClosing_singleton]
  split
  · rename_i alone
    have before := carries.of_met met holdsLast_stays
    exact trimmed_of_alone member leaf isParagraph (before.alone alone)
  · rename_i beside
    have holds := carries.beside (Bool.eq_false_iff.2 beside)
    rw [whole]
    exact .unlessBlank member isParagraph leaf (List.cons_ne_nil _ _)
      (trimmed_stripEnd leaf settles holds)

/-- Taking both tags from the only block of a range trims it. -/
theorem trimmed_dropBoth {opening closing : Found} (member : original ∈ paragraphs)
    (leaf : LeafTexts original.children) (met : Met original block)
    (opens : Carries HoldsFirst opening block) (closes : Carries HoldsLast closing block)
    (beside : opening.alone = false) (beside' : closing.alone = false) :
    Trimmed paragraphs [opening.marker, closing.marker] [original]
      (dropClosing closing (dropOpening opening [block])) := by
  have isParagraph := met.isParagraph.symm.trans opens.isParagraph
  obtain ⟨whole, settles⟩ := met.eq_of_isParagraph isParagraph
  obtain ⟨filled, trimmed⟩ :=
    trimmed_stripBoth leaf settles (opens.beside beside) (closes.beside beside')
  have kept : isBlankParagraph
      { block with children := stripStart opening.marker.tag block.children } = false :=
    Bool.and_eq_false_imp.2 fun _ => filled
  rw [dropOpening_singleton, beside, if_neg Bool.false_ne_true, unlessBlank, kept,
    if_neg Bool.false_ne_true, dropClosing_singleton, beside', if_neg Bool.false_ne_true, whole]
  exact .unlessBlank member isParagraph leaf (List.cons_ne_nil _ _) trimmed

end

end

end Manuscript.Alignment
