import Manuscript.Proofs.Abbreviation.Marking
import Manuscript.Proofs.Abbreviation.Uses
import Manuscript.Proofs.Alignment.Recognition

/-!
# Escaped tags in a document with abbreviations

A paragraph that begins with a tag escaped in the source is not read as an opening one, as long as
its first text is whole. When uses of abbreviations are marked in that text, the escape is lost
exactly if the whole tag comes before the first of them (`EscapesOpening.opens_after_marking_iff`).
`wraps_after_marking` sums up what the marking means for the aligned blocks of a document.
-/

namespace Manuscript.Abbreviation

open Manuscript.Alignment

/-- The first text of a paragraph begins with an opening tag that is escaped in the source. -/
structure EscapesOpening (source : Text) (paragraph : Node) (value : Text) (marker : Marker) :
    Prop where
  /-- The block is a paragraph. -/
  isParagraph : paragraph.isParagraph = true
  /-- Its first text was read from a place after a backslash. -/
  escaped : ∃ front node back, paragraph.children = front ++ node :: back ∧ Textless front ∧
    node.kind = .text value ∧ escapedBefore source node = true
  /-- The tag is an opening one. -/
  isOpening : marker ∈ Marker.openings
  /-- The text begins with the tag. -/
  begins : ∃ rest, value = marker.tag ++ rest

/-- When a paragraph is no tag that stands alone, its marker is read from its ends. -/
theorem readBlock_of_readOnly {source : Text} {read : List Node → List Node × Option Marker}
    {block : Node} {children : List Node} (isParagraph : block.isParagraph = true)
    (only : readOnly source block.children = (children, none)) :
    (readBlock source read block).2 = (read children).2.map (⟨·, false⟩) := by
  rw [readBlock, if_pos isParagraph, only]

/-- A paragraph that begins with an escaped tag does not open anything. -/
theorem EscapesOpening.readOpening {source value : Text} {paragraph : Node} {marker : Marker}
    (escapes : EscapesOpening source paragraph value marker) :
    (readOpening source paragraph).2 = none := by
  obtain ⟨front, node, back, whole, textless, kind, escaped⟩ := escapes.escaped
  have isText := Node.isText_of_kind kind
  by_cases single : (front ++ node :: back).length = 1
  · have alone : front = [] ∧ back = [] := by
      rw [List.length_append, List.length_cons] at single
      exact ⟨List.length_eq_zero_iff.1 (by omega), List.length_eq_zero_iff.1 (by omega)⟩
    obtain ⟨rfl, rfl⟩ := alone
    obtain ⟨unread, stays⟩ := readAlone_of_escaped escaped
    have only : readOnly source paragraph.children = ([(readAlone source node).1], none) := by
      rw [whole, List.nil_append, readOnly, ← unread]
    have first := readFirst_append textless (readAlone_keepsText source node isText)
      (readStart source) []
    rw [List.nil_append] at first
    rw [Alignment.readOpening, readBlock_of_readOnly escapes.isParagraph only, first,
      readStart_of_escaped stays]
    rfl
  · have only := @readOnly_of_length source _ single
    rw [← whole] at only
    rw [Alignment.readOpening, readBlock_of_readOnly escapes.isParagraph only, whole,
      readFirst_append textless isText, readStart_of_escaped escaped]
    rfl

/-- No opening tag is the start of another. -/
theorem tag_eq_of_startsWith : ∀ first ∈ Marker.openings, ∀ second ∈ Marker.openings,
    first.tag <+: second.tag → first.tag = second.tag := by
  decide

/-- In a text that begins with an opening tag, a bracket closes the tag, and none opens from the
second character up to that bracket. -/
theorem exists_tag_end (marker : Marker) (rest : Text) :
    ∃ last, (marker.tag ++ rest)[last]? = some ']' ∧
      ∀ place, 0 < place → place ≤ last → (marker.tag ++ rest)[place]? ≠ some '[' := by
  obtain ⟨tagRest, tag, closes, unopened⟩ := tag_brackets marker
  have inTag : ∀ place, place < tagRest.length →
      (marker.tag ++ rest)[place + 1]? = tagRest[place]? := by
    intro place inside
    rw [tag, List.cons_append, List.getElem?_cons_succ, List.getElem?_append_left inside]
  rw [List.getLast?_eq_getElem?] at closes
  obtain ⟨size, _⟩ := List.getElem?_eq_some_iff.1 closes
  refine ⟨tagRest.length, ?_, ?_⟩
  · have there := inTag _ size
    rw [Nat.sub_add_cancel (by omega)] at there
    rw [there, closes]
  · intro place positive within
    have there := inTag (place - 1) (by omega)
    rw [Nat.sub_add_cancel positive] at there
    rw [there]
    exact fun opens => unopened (List.mem_of_getElem? opens)

/-- When the uses leave a character of a text alone, the text that comes first among the pieces
begins at that character or before it. -/
theorem exists_first_text {text : Text} {kept : Nat} (inside : kept < text.length)
    {uses : List Use} (apart : Use.Apart uses)
    (spared : ∀ use ∈ uses, use.start ≤ kept → use.stop ≤ kept) {position : Nat}
    (behind : ∀ use ∈ uses, position ≤ use.start) (before : position ≤ kept) :
    ∃ front piece back place, (cut false position (text.drop position) uses []).1 =
        front ++ Node.text piece :: back ∧
      Textless front ∧ position ≤ place ∧ place ≤ kept ∧ piece.head? = text[place]? := by
  induction uses generalizing position with
  | nil =>
    have nonempty : (text.drop position).isEmpty = false := by
      refine List.isEmpty_eq_false_iff.2 fun empty => ?_
      have := List.drop_eq_nil_iff.1 empty
      omega
    refine ⟨[], text.drop position, [], position, ?_, textless_nil, Nat.le_refl _, before,
      List.head?_drop⟩
    rw [cut, Node.ofText, nonempty]
    rfl
  | cons use later ih =>
    obtain ⟨ordered, apart⟩ := List.pairwise_cons.1 apart
    have reached := behind use List.mem_cons_self
    rw [cut_cons]
    by_cases first : position < use.start
    · have nonempty : ((text.drop position).take (use.start - position)).isEmpty = false := by
        refine List.isEmpty_eq_false_iff.2 fun empty => ?_
        have size := congrArg List.length empty
        rw [List.length_take, List.length_drop, List.length_nil] at size
        omega
      rw [Node.ofText, nonempty]
      refine ⟨[], _, _, position, rfl, textless_nil, Nat.le_refl _, before, ?_⟩
      rw [List.head?_take, if_neg (by omega), List.head?_drop]
    · have here : use.start = position := by omega
      have stop : position + (use.stop - position) = use.stop := by
        rw [Use.stop]
        omega
      obtain ⟨front, piece, back, place, pieces, textless, after, within, head⟩ :=
        ih apart (fun other member => spared other (List.mem_cons_of_mem _ member)) ordered
          (spared use List.mem_cons_self (by omega))
      refine ⟨Abbreviation.node use.entry :: front, piece, back, place, ?_, textless.cons rfl,
        by omega, within, head⟩
      rw [here, Nat.sub_self, List.take_zero, List.drop_drop, stop, pieces]
      rfl

/-- A paragraph with the uses in its texts marked. -/
def markBelow (entries : List Abbreviation) (paragraph : Node) : Node :=
  { paragraph with children := mark entries paragraph.children }

/-- A text without span and annotations is read as an opening if it begins with an opening tag. -/
theorem readStart_text {source text : Text} (visible : text.head? = some '[') :
    (readStart source (Node.text text)).2 =
      Marker.openings.find? fun marker => Text.startsWith marker.tag text := by
  obtain ⟨rest, rfl⟩ : ∃ rest, text = '[' :: rest := by
    cases text with
    | nil => cases visible
    | cons c rest =>
      cases visible
      exact ⟨rest, rfl⟩
  rfl

/-- A text without span that does not begin with a bracket is no opening. -/
theorem readStart_text_of_plain {source text : Text} (plain : text.head? ≠ some '[') :
    (readStart source (Node.text text)).2 = none := by
  have unfound : (Marker.openings.find? fun marker => Text.startsWith marker.tag text) = none := by
    refine List.find?_eq_none.2 fun marker isOpening begins => plain ?_
    obtain ⟨rest, tag, -⟩ := tag_brackets marker
    obtain ⟨back, rfl⟩ := List.isPrefixOf_iff_prefix.1 begins
    rw [tag]
    rfl
  unfold readStart
  repeat' split
  all_goals simp_all [Node.text, escapedBefore]

/-- A paragraph that holds more than a text without span is read as an opening by that text, if it
is the first. -/
theorem readOpening_of_first {source piece : Text} {paragraph : Node} {front back : List Node}
    (isParagraph : paragraph.isParagraph = true)
    (whole : paragraph.children = front ++ Node.text piece :: back) (textless : Textless front)
    (several : front ++ back ≠ []) :
    (readOpening source paragraph).2 =
      (readStart source (Node.text piece)).2.map (⟨·, false⟩) := by
  have size : paragraph.children.length ≠ 1 := by
    have := List.length_pos_iff.2 several
    rw [List.length_append] at this
    rw [whole, List.length_append, List.length_cons]
    omega
  rw [readOpening, readBlock_of_readOnly isParagraph (readOnly_of_length size), whole,
    readFirst_append textless rfl]

/-- When the first use comes after the start of an escaped tag, the paragraph is read as an opening
after marking exactly if the use comes after the whole tag. -/
theorem EscapesOpening.opens_iff_of_inside {source value : Text} {paragraph : Node}
    {marker : Marker} (escapes : EscapesOpening source paragraph value marker)
    {entries : List Abbreviation} {use : Use} {later : List Use}
    (used : uses entries value = use :: later) (inside : 0 < use.start) :
    (Alignment.readOpening source (markBelow entries paragraph)).2.isSome = true ↔
      marker.tag.length ≤ use.start := by
  have isParagraph : (markBelow entries paragraph).isParagraph = true := escapes.isParagraph
  obtain ⟨front, node, back, whole, textless, kind, escaped⟩ := escapes.escaped
  obtain ⟨rest, rfl⟩ := escapes.begins
  obtain ⟨tagRest, tag, -⟩ := tag_brackets marker
  have visible : ((marker.tag ++ rest).take use.start).head? = some '[' := by
    obtain ⟨size, positive⟩ := Nat.exists_eq_succ_of_ne_zero (Nat.ne_of_gt inside)
    rw [positive, tag]
    rfl
  have nonempty : ((marker.tag ++ rest).take use.start).isEmpty = false := by
    refine List.isEmpty_eq_false_iff.2 fun empty => ?_
    rw [empty] at visible
    cases visible
  -- What is before the use is the first text, and it has lost its span.
  have marked : (markBelow entries paragraph).children =
      mark entries front ++ Node.text ((marker.tag ++ rest).take use.start) ::
        (Abbreviation.node use.entry :: (cut false use.stop ((marker.tag ++ rest).drop use.stop)
          later []).1 ++ mark entries back) := by
    rw [markBelow, whole, mark_append, mark_cons, pieces_of_used kind used, cut_cons, Nat.sub_zero,
      Nat.sub_zero, Node.ofText, nonempty]
    rfl
  rw [readOpening_of_first isParagraph marked (textless_mark textless) (by simp),
    readStart_text visible, Option.isSome_map, List.find?_isSome]
  constructor
  · rintro ⟨other, isOpening, begins⟩
    have front := List.isPrefixOf_iff_prefix.1 begins
    have bound := front.length_le
    have inValue := front.trans <| List.take_prefix use.start (marker.tag ++ rest)
    have same : other.tag = marker.tag := by
      rcases List.prefix_or_prefix_of_prefix inValue (List.prefix_append marker.tag rest) with
        start | start
      · exact tag_eq_of_startsWith other isOpening marker escapes.isOpening start
      · exact (tag_eq_of_startsWith marker escapes.isOpening other isOpening start).symm
    rw [same, List.length_take] at bound
    omega
  · intro before
    refine ⟨marker, escapes.isOpening, List.isPrefixOf_iff_prefix.2 ?_⟩
    rw [List.take_append, List.take_of_length_le before]
    exact List.prefix_append _ _

/-- When the first use is at the start of an escaped tag, the paragraph is not read as an opening
after marking: no use reaches over the bracket at the end of the tag, and the first text begins at
that bracket or before it. -/
theorem EscapesOpening.unopened_of_start {source value : Text} {paragraph : Node}
    {marker : Marker} (escapes : EscapesOpening source paragraph value marker)
    {entries : List Abbreviation} (named : ∀ entry ∈ entries, entry.IsNamed) {use : Use}
    {later : List Use} (used : uses entries value = use :: later) (atStart : use.start = 0) :
    (Alignment.readOpening source (markBelow entries paragraph)).2 = none := by
  have isParagraph : (markBelow entries paragraph).isParagraph = true := escapes.isParagraph
  obtain ⟨front, node, back, whole, textless, kind, escaped⟩ := escapes.escaped
  obtain ⟨rest, rfl⟩ := escapes.begins
  obtain ⟨last, atLast, unopened⟩ := exists_tag_end marker rest
  obtain ⟨standing, apart⟩ := uses_found named (marker.tag ++ rest)
  rw [used] at standing apart
  have spared : ∀ other ∈ use :: later, other.start ≤ last → other.stop ≤ last :=
    fun other member => Use.stop_le (named _ (standing other member).isEntry).unbracketed
      (standing other member).stands atLast
  obtain ⟨ordered, apart⟩ := List.pairwise_cons.1 apart
  obtain ⟨inside, _⟩ := List.getElem?_eq_some_iff.1 atLast
  obtain ⟨passed, piece, behind, place, pieces, textlessPassed, after, within, head⟩ :=
    exists_first_text inside apart
      (fun other member => spared other (List.mem_cons_of_mem _ member)) ordered
      (spared use List.mem_cons_self (by omega))
  have marked : (markBelow entries paragraph).children =
      (mark entries front ++ Abbreviation.node use.entry :: passed) ++ Node.text piece ::
        (behind ++ mark entries back) := by
    rw [markBelow, whole, mark_append, mark_cons, pieces_of_used kind used, cut_cons, Nat.sub_zero,
      Nat.sub_zero, pieces, atStart, Node.ofText]
    simp
  have textlessFront : Textless (mark entries front ++ Abbreviation.node use.entry :: passed) :=
    (textless_mark textless).append (textlessPassed.cons rfl)
  have plain : piece.head? ≠ some '[' := by
    have positive : 0 < use.stop := by
      have := List.length_pos_iff.2 (named _ (standing use List.mem_cons_self).isEntry).nonempty
      rw [Use.stop]
      omega
    rw [head]
    exact unopened place (by omega) within
  rw [readOpening_of_first isParagraph marked textlessFront (by simp),
    readStart_text_of_plain plain]
  rfl

/-- A paragraph whose first text has no uses begins with an escaped tag after marking too. -/
theorem EscapesOpening.markBelow {source value : Text} {paragraph : Node} {marker : Marker}
    (escapes : EscapesOpening source paragraph value marker) {entries : List Abbreviation}
    (unused : uses entries value = []) :
    EscapesOpening source (markBelow entries paragraph) value marker where
  isParagraph := escapes.isParagraph
  isOpening := escapes.isOpening
  begins := escapes.begins
  escaped := by
    obtain ⟨front, node, back, whole, textless, kind, escaped⟩ := escapes.escaped
    refine ⟨mark entries front, node, mark entries back, ?_, textless_mark textless, kind, escaped⟩
    rw [Abbreviation.markBelow, whole, mark_append, mark_cons, pieces_of_unused kind unused]
    rfl

/-- A paragraph that begins with an escaped tag is read as an opening after marking exactly when its
first text has uses, and the first of them comes after the tag. -/
theorem EscapesOpening.opens_after_marking_iff {source value : Text} {paragraph : Node}
    {marker : Marker} (escapes : EscapesOpening source paragraph value marker)
    {entries : List Abbreviation} (named : ∀ entry ∈ entries, entry.IsNamed) :
    (Alignment.readOpening source (Abbreviation.markBelow entries paragraph)).2.isSome = true ↔
      ∃ use later, uses entries value = use :: later ∧ marker.tag.length ≤ use.start := by
  obtain ⟨_, tag, -⟩ := tag_brackets marker
  cases used : uses entries value with
  | nil =>
    rw [(escapes.markBelow used).readOpening]
    simp
  | cons use later =>
    have first : (∃ other rest, use :: later = other :: rest ∧ marker.tag.length ≤ other.start) ↔
        marker.tag.length ≤ use.start := by simp
    rw [first]
    rcases Nat.eq_zero_or_pos use.start with atStart | inside
    · rw [escapes.unopened_of_start named used atStart, atStart, tag]
      simp
    · exact escapes.opens_iff_of_inside used inside

/-- Without abbreviations nothing is marked. -/
theorem mark_nil (nodes : List Node) : mark [] nodes = nodes := by
  refine (Node.induction (P := fun node => pieces [] node = [node])
    (Q := fun nodes => mark [] nodes = nodes) ?_ ?_ ?_).2 nodes
  · intro kind children data span below
    cases kind with
    | text value => exact pieces_of_unused rfl rfl
    | abbreviation title => rfl
    | _ => exact (pieces_of_block rfl).trans (by rw [below])
  · rw [mark_eq]
    rfl
  · intro node rest head tail
    rw [mark_cons, head, tail]
    rfl

/-- The definitions of a document are removed, and the uses in what is left are marked. -/
theorem children_markDocument (tree : Node) :
    (markDocument false tree).children =
      mark (ofDocument tree) (removeDefinitions tree).children := by
  rw [markDocument]
  cases ofDocument tree with
  | nil => exact (mark_nil _).symm
  | cons entry rest =>
    dsimp only
    rw [(markUseList_eq (entry :: rest)).1]

/-- What the marking of abbreviations means for the aligned blocks of a document, which the pass
makes turn by turn. No blocks are wrapped that would not be wrapped without it exactly when all
blocks that stand between tags after it do so without it; that is so, and the same blocks are
wrapped, if no abbreviation is used in the first or the last text of a paragraph. An escaped opening
tag is read as a tag after the marking exactly when it comes before the first use in its text. -/
theorem wraps_after_marking (options : AlignOptions) (source : Text) (tree : Node) :
    let entries := ofDocument tree
    let alone := (removeDefinitions tree).children
    let marked := (markDocument false tree).children
    (∀ siblings, alignList options source siblings =
      (turns options source 0 siblings).flatMap (Turn.made options source)) ∧
    ((∀ path first stop, Wraps options source marked path first stop →
        Wraps options source alone path first stop) ↔
      ∀ path siblings first stop, Comes options source path marked siblings →
        Tagged options source siblings first stop →
        ∃ others, Comes options source path alone others ∧
          Tagged options source others first stop) ∧
    ((∀ entry ∈ entries, Text.isBlankText entry.name = false) →
      (∀ paragraph ∈ Node.nodesBelow alone, paragraph.isParagraph = true →
        UnusedAtEnds entries paragraph) →
      ∀ path first stop, Wraps options source marked path first stop ↔
        Wraps options source alone path first stop) ∧
    ∀ paragraph value marker, EscapesOpening source paragraph value marker →
      (readOpening source paragraph).2 = none ∧
      ((readOpening source (markBelow entries paragraph)).2.isSome = true ↔
        ∃ use later, uses entries value = use :: later ∧ marker.tag.length ≤ use.start) := by
  intro entries alone marked
  have tagged : ∀ nodes path first stop, Wraps options source nodes path first stop ↔
      ∃ siblings, Comes options source path nodes siblings ∧
        Tagged options source siblings first stop := fun nodes path first stop =>
    exists_congr fun siblings => and_congr_right fun _ => wrapsFrom_iff_tagged
  refine ⟨alignList_eq_turns options source 0, ?_, ?_, ?_⟩
  · constructor
    · intro harmless path siblings first stop comes stands
      exact (tagged _ _ _ _).1 (harmless path first stop ((tagged _ _ _ _).2
        ⟨siblings, comes, stands⟩))
    · intro same path first stop wraps
      obtain ⟨siblings, comes, stands⟩ := (tagged _ _ _ _).1 wraps
      exact (tagged _ _ _ _).2 (same path siblings first stop comes stands)
  · intro visible unused path first stop
    have mirror := mirror_mark visible unused
    rw [← children_markDocument] at mirror
    exact (wraps_mirror mirror path first stop).symm
  · intro paragraph value marker escapes
    exact ⟨escapes.readOpening,
      escapes.opens_after_marking_iff fun entry => isNamed_of_mem_ofDocument⟩

/-- A paragraph of one text. -/
def textParagraph (value : Text) (start stop : Nat) : Node :=
  ⟨.paragraph, [⟨.text value, [], {}, some ⟨start, stop⟩⟩], {}, some ⟨start, stop⟩⟩

/-- A text between tags that uses an abbreviation. -/
def taggedText : Text :=
  "[center] HTML [/center]".toList

/-- A source with an escaped tag before a use of an abbreviation, and its definition. -/
def escapedSource : Text :=
  "\\[center] HTML [/center]\n\n*[HTML]: Hyper".toList

/-- What is read from `escapedSource`. -/
def escapedDocument : Node :=
  ⟨.root, [textParagraph taggedText 1 24, textParagraph "*[HTML]: Hyper".toList 26 40], {}, none⟩

/-- The escape is lost: the paragraph is wrapped after marking, and only then. -/
theorem escapedDocument_is_wrapped :
    Wraps {} escapedSource (markDocument false escapedDocument).children [] 0 1 ∧
      ¬ Wraps {} escapedSource (removeDefinitions escapedDocument).children [] 0 1 := by
  have alone : (removeDefinitions escapedDocument).children = [textParagraph taggedText 1 24] :=
    rfl
  constructor
  · have entries : ofDocument escapedDocument = [⟨"HTML".toList, "Hyper".toList⟩] := by
      have last : lastDefinitions (definitions escapedDocument) =
          [⟨"HTML".toList, "Hyper".toList⟩] := rfl
      rw [ofDocument, last, List.mergeSort_singleton]
    have used : uses [⟨"HTML".toList, "Hyper".toList⟩] taggedText =
        [⟨9, ⟨"HTML".toList, "Hyper".toList⟩⟩] := rfl
    have marked : mark [⟨"HTML".toList, "Hyper".toList⟩] [textParagraph taggedText 1 24] =
        [⟨.paragraph, [Node.text "[center] ".toList,
          Abbreviation.node ⟨"HTML".toList, "Hyper".toList⟩, Node.text " [/center]".toList],
          {}, some ⟨1, 24⟩⟩] := by
      rw [mark_cons, pieces_of_block rfl, textParagraph, mark_cons, pieces_of_used rfl used]
      rfl
    refine ⟨_, rfl, ?_⟩
    rw [children_markDocument, entries, alone, marked]
    exact wrapsFrom_cons.2 (.inl ⟨_, [], rfl, rfl, rfl⟩)
  · rintro ⟨_, rfl, wraps⟩
    have escaped : escapedBefore escapedSource ⟨.text taggedText, [], {}, some ⟨1, 24⟩⟩ = true := by
      have backslash : backslashAt escapedSource 0 = true := by
        rw [backslashAt, Text.charAtByte?, Text.splitAtByte?]
        rfl
      rw [escapedBefore, Option.any_some, Bool.or_eq_true]
      exact .inr backslash
    have escapes : EscapesOpening escapedSource (textParagraph taggedText 1 24) taggedText
        ⟨.center, .stacked, false⟩ :=
      { isParagraph := rfl
        escaped := ⟨[], _, [], rfl, textless_nil, rfl, escaped⟩
        isOpening := by decide
        begins := ⟨_, rfl⟩ }
    have kept : ∃ block, step {} escapedSource (textParagraph taggedText 1 24) [] =
        .kept block [] := by
      rw [step, escapes.readOpening]
      exact ⟨_, rfl⟩
    obtain ⟨block, kept⟩ := kept
    rw [alone] at wraps
    rcases wrapsFrom_cons.1 wraps with ⟨_, _, taken, _⟩ | ⟨turn, member, _⟩
    · rw [kept] at taken
      cases taken
    · rw [Turn.next, kept, turns] at member
      cases member

end Manuscript.Abbreviation
