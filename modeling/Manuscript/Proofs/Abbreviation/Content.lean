import Manuscript.Proofs.Abbreviation.Covering
import Manuscript.Proofs.Abbreviation.Definition

/-!
# What marking abbreviations leaves as it is

Marking the abbreviations of a document removes its definition paragraphs and splits texts around
uses (`Splits`). The uses stand apart from each other in the text, touch no letter, and have as
title the last definition of their name (`IsSplit`). When the first use of a name is written out,
that is all that is added: the same uses are marked at the same places, and exactly the first of
each name in the document stands in parentheses behind its title (`markDocument_splits`).
-/

namespace Manuscript.Abbreviation

/-! ## Texts that are split -/

/-- A use of an abbreviation that is marked in a text. -/
structure Mark where
  /-- The text between the use before it and the use. -/
  before : Text
  /-- What the use stands for. -/
  entry : Abbreviation
  /-- Whether the use is the first of its name. -/
  isFirst : Bool

/-- A text in which uses are marked; `tail` stands behind the last one. -/
def textOf (tail : Text) : List Mark → Text
  | [] => tail
  | mark :: later => mark.before ++ (mark.entry.name ++ textOf tail later)

/-- What is written for a use: its node, and with `expandFirst` the title before the first use of a
name. -/
def Mark.written (expandFirst : Bool) (mark : Mark) : List Node :=
  let use : Node :=
    { kind := .abbreviation mark.entry.title, children := [Node.text mark.entry.name] }
  if expandFirst && mark.isFirst then
    [Node.text (mark.entry.title ++ " (".toList), use, Node.text ")".toList]
  else [use]

/-- The nodes for a text in which uses are marked. -/
def nodesOf (expandFirst : Bool) (tail : Text) : List Mark → List Node
  | [] => Node.ofText tail
  | mark :: later =>
    Node.ofText mark.before ++ (mark.written expandFirst ++ nodesOf expandFirst tail later)

/-- A text is split around uses: it is what stands between them and their names, and each use has
the last definition of its name and touches no letter. -/
structure IsSplit (defined : List Abbreviation) (value : Text) (marks : List Mark) (tail : Text) :
    Prop where
  /-- The text is the same. -/
  whole : textOf tail marks = value
  /-- Names are used as they are defined last. -/
  isLast : ∀ mark ∈ marks, IsLastDefinition defined mark.entry
  /-- No letter stands directly before or after a use. -/
  free : ∀ front mark back, marks = front ++ mark :: back →
    (textOf mark.before front).getLast?.any Char.isAlpha = false ∧
      (textOf tail back).head?.any Char.isAlpha = false

/-- What becomes of nodes when the uses in their texts are marked, without writing out the first
uses and with it. The marks are those of all texts in document order. -/
inductive Splits (defined : List Abbreviation) : List Node → List Mark → (Bool → List Node) → Prop
  | nil : Splits defined [] [] fun _ => []
  | kept {node : Node} {rest : List Node} {marks : List Mark} {others : Bool → List Node}
      (closed : node.isText = true ∨ ∃ title, node.kind = .abbreviation title)
      (later : Splits defined rest marks others) :
      Splits defined (node :: rest) marks fun expandFirst => node :: others expandFirst
  | split {node : Node} {value tail : Text} {own marks : List Mark} {rest : List Node}
      {others : Bool → List Node} (kind : node.kind = .text value)
      (isSplit : IsSplit defined value own tail) (used : own ≠ [])
      (later : Splits defined rest marks others) :
      Splits defined (node :: rest) (own ++ marks) fun expandFirst =>
        nodesOf expandFirst tail own ++ others expandFirst
  | inside {node : Node} {inner marks : List Mark} {rest : List Node}
      {children others : Bool → List Node} (notText : node.isText = false)
      (notAbbreviation : ∀ title, node.kind ≠ .abbreviation title)
      (below : Splits defined node.children inner children)
      (later : Splits defined rest marks others) :
      Splits defined (node :: rest) (inner ++ marks) fun expandFirst =>
        { node with children := children expandFirst } :: others expandFirst

/-- The marked uses that are first are exactly those of a name that is not among the given ones and
has no use before. -/
def AreFirst (expanded : List Text) (marks : List Mark) : Prop :=
  ∀ front mark back, marks = front ++ mark :: back →
    (mark.isFirst = true ↔
      mark.entry.name ∉ expanded ∧ ∀ other ∈ front, other.entry.name ≠ mark.entry.name)

/-! ## The text stays the same -/

/-- What a mark among others covers stands in the text as its name. -/
theorem textOf_append (tail : Text) (front : List Mark) (mark : Mark) (back : List Mark) :
    textOf tail (front ++ mark :: back) =
      textOf mark.before front ++ (mark.entry.name ++ textOf tail back) := by
  induction front with
  | nil => rfl
  | cons first rest ih => rw [List.cons_append, textOf, ih, textOf, List.append_assoc,
      List.append_assoc]

/-- The nodes made of a text hold that text. -/
theorem plainTextList_nodesOf (tail : Text) (marks : List Mark) :
    Node.plainTextList (nodesOf false tail marks) = textOf tail marks := by
  induction marks with
  | nil => exact Node.plainTextList_ofText tail
  | cons mark later ih =>
    have own : Node.plainTextList (mark.written false) = mark.entry.name := by
      rw [Mark.written, Bool.false_and, if_neg Bool.false_ne_true, Node.plainTextList_singleton,
        Node.plainText_of_not_isText rfl]
      exact (Node.plainTextList_singleton _).trans (List.append_nil _)
    rw [nodesOf, Node.plainTextList_append, Node.plainTextList_append, Node.plainTextList_ofText,
      own, ih, textOf]

/-- Marking uses does not change the text, if texts are leaves. -/
theorem Splits.plainTextList_eq {defined : List Abbreviation} {nodes : List Node}
    {marks : List Mark} {result : Bool → List Node} (splits : Splits defined nodes marks result)
    (leaves : Node.TextLeaves nodes) :
    Node.plainTextList (result false) = Node.plainTextList nodes := by
  induction splits with
  | nil => rfl
  | kept _ _ ih => rw [Node.plainTextList, ih (Node.textLeaves_cons.1 leaves).2, Node.plainTextList]
  | split kind isSplit _ _ ih =>
    obtain ⟨first, rest⟩ := Node.textLeaves_cons.1 leaves
    have leaf := (Node.textLeaves_singleton.1 first).1 (Node.isText_of_kind kind)
    rw [Node.plainTextList_append, plainTextList_nodesOf, isSplit.whole, ih rest,
      Node.plainTextList, Node.plainText_of_kind kind, leaf, Node.plainTextList, List.append_nil]
  | inside notText _ _ _ ihBelow ihLater =>
    obtain ⟨first, rest⟩ := Node.textLeaves_cons.1 leaves
    have inner := ihBelow (Node.textLeaves_singleton.1 first).2
    rw [Node.plainTextList, ihLater rest, Node.plainTextList, Node.plainText_of_not_isText notText,
      ← inner]
    exact congrArg (· ++ _) (Node.plainText_of_not_isText notText)

/-! ## First uses -/

/-- Marks note the names that are used, after those that were noted before. -/
structure Notes (expanded : List Text) (marks : List Mark) (noted : List Text) : Prop where
  areFirst : AreFirst expanded marks
  names : ∀ name, name ∈ noted ↔ name ∈ expanded ∨ ∃ mark ∈ marks, mark.entry.name = name

/-- Without marks nothing is noted. -/
theorem notes_nil (expanded : List Text) : Notes expanded [] expanded where
  areFirst front mark back whole := by cases (List.append_eq_nil_iff.1 whole.symm).2
  names name := by simp

/-- The name of one use is noted if it is the first one. -/
theorem notes_singleton (expanded : List Text) (before : Text) (entry : Abbreviation) :
    Notes expanded [⟨before, entry, !expanded.contains entry.name⟩]
      (if !expanded.contains entry.name then expanded ++ [entry.name] else expanded) where
  areFirst front mark back whole := by
    cases front with
    | nil =>
      cases whole
      simp
    | cons other front => cases (List.append_eq_nil_iff.1 (List.cons.inj whole).2.symm).2
  names name := by
    simp only [List.mem_singleton, exists_eq_left]
    split
    · rw [List.mem_append, List.mem_singleton]
      exact or_congr_right eq_comm
    · rename_i known
      have known : entry.name ∈ expanded := by simpa using known
      exact ⟨.inl, fun either => either.elim id fun same => same ▸ known⟩

/-- What is noted at the first marks is known at the later ones. -/
theorem Notes.append {expanded between noted : List Text} {marks more : List Mark}
    (first : Notes expanded marks between) (later : Notes between more noted) :
    Notes expanded (marks ++ more) noted where
  areFirst front mark back whole := by
    -- The mark is one of the later marks, or one of the first marks.
    have inLater : ∀ rest, front = marks ++ rest → more = rest ++ mark :: back →
        (mark.isFirst = true ↔ mark.entry.name ∉ expanded ∧
          ∀ other ∈ front, other.entry.name ≠ mark.entry.name) := by
      rintro rest rfl inside
      rw [later.areFirst rest mark back inside, first.names, not_or, List.forall_mem_append,
        not_exists, and_assoc]
      simp only [not_and, ne_eq]
    rcases List.append_eq_append_iff.1 whole with ⟨rest, same, inside⟩ | ⟨rest, inside, same⟩
    · exact inLater rest same inside
    · cases rest with
      | nil => exact inLater [] (by rw [inside, List.append_nil, List.append_nil]) same.symm
      | cons other rest =>
        cases same
        exact first.areFirst front mark rest inside
  names name := by
    rw [later.names, first.names, or_assoc]
    simp only [List.mem_append, or_and_right, exists_or]

/-! ## Texts are split around the uses in them -/

/-- A use that is found touches no letter. -/
theorem not_touchesLetter_of_mem_uses {entries : List Abbreviation} {text : Text} :
    ∀ use ∈ uses entries text, use.touchesLetter text = false := by
  let Free (found : List Use) := ∀ use ∈ found, use.touchesLetter text = false
  refine List.foldlRecOn (motive := Free) entries (addUses text)
    (fun _ none => absurd none List.not_mem_nil) ?_
  intro found free entry _
  rw [addUses_eq_foldl]
  refine List.foldlRecOn (motive := Free) _ (addUse text entry) free ?_
  intro found free start _ use member
  rw [addUse] at member
  split at member
  · exact free use member
  · rename_i apart
    rcases Use.mem_insert.1 member with rfl | before
    · exact (Bool.or_eq_false_iff.1 (Bool.eq_false_iff.2 apart)).2
    · exact free use before

/-- A text is cut into what is before its first use, what is written for the use, and what the rest
is cut into. -/
theorem cut_cons_mark (expandFirst : Bool) (position : Nat) (text : Text) (use : Use)
    (rest : List Use) (expanded : List Text) :
    let mark : Mark := ⟨text.take (use.start - position), use.entry,
      !expanded.contains use.entry.name⟩
    let later := cut expandFirst use.stop (text.drop (use.stop - position)) rest
      (if expandFirst && mark.isFirst then expanded ++ [use.entry.name] else expanded)
    cut expandFirst position text (use :: rest) expanded =
      (Node.ofText mark.before ++ (mark.written expandFirst ++ later.1), later.2) := by
  rw [cut]
  dsimp only [Mark.written]
  split <;> rfl

/-- Where marks stand in a text that begins after `position` characters. -/
def StandAt (position : Nat) (marks : List Mark) (uses : List Use) : Prop :=
  ∀ front mark back, marks = front ++ mark :: back →
    ⟨position + (textOf mark.before front).length, mark.entry⟩ ∈ uses

/-- A mark stands where its use is, and the marks after it in the text behind the use. -/
theorem StandAt.cons {position : Nat} {mark : Mark} {marks : List Mark} {use : Use}
    {later : List Use} (place : use.start = position + mark.before.length)
    (entry : use.entry = mark.entry)
    (behind : StandAt use.stop marks later) : StandAt position (mark :: marks) (use :: later) := by
  intro front other back inside
  cases front with
  | nil =>
    cases inside
    rw [textOf, ← place, ← entry]
    exact List.mem_cons_self
  | cons first front =>
    cases inside
    have length : position + (textOf other.before (mark :: front)).length =
        use.stop + (textOf other.before front).length := by
      rw [textOf, List.length_append, List.length_append, Use.stop, place, entry]
      omega
    rw [length]
    exact List.mem_cons_of_mem _ (behind front other back rfl)

/-- A text is what is before a use, its name, and what is after the use. -/
theorem Use.StandsIn.parts {entries : List Abbreviation} {value : Text} {use : Use}
    (stands : use.StandsIn entries value) (nonempty : use.entry.name ≠ []) {position : Nat}
    (reached : position ≤ use.start) :
    let before := (value.drop position).take (use.start - position)
    value.drop position = before ++ (use.entry.name ++ value.drop use.stop) ∧
      (value.drop position).drop (use.stop - position) = value.drop use.stop ∧
      use.start = position + before.length := by
  obtain ⟨after, whole⟩ := stands.stands
  have size := congrArg List.length whole
  have filled := List.length_pos_iff.2 nonempty
  rw [List.length_append, List.length_drop] at size
  have ends : value.drop use.stop = after := by
    rw [Use.stop, ← List.drop_drop, ← whole, List.drop_left]
  refine ⟨?_, ?_, ?_⟩
  · have here : (value.drop position).drop (use.start - position) = use.entry.name ++ after := by
      rw [List.drop_drop, Nat.add_sub_cancel' reached, whole]
    rw [ends, ← here, List.take_append_drop]
  · rw [List.drop_drop, Nat.add_sub_cancel' (by rw [Use.stop]; omega)]
  · rw [List.length_take, List.length_drop]
    omega

/-- A text is cut around uses that stand in it, in order, whether or not first uses are written out.
-/
theorem exists_marks {entries : List Abbreviation} (named : ∀ entry ∈ entries, entry.IsNamed)
    {value : Text} {uses : List Use} (standing : ∀ use ∈ uses, use.StandsIn entries value)
    (apart : Use.Apart uses) {position : Nat} (behind : ∀ use ∈ uses, position ≤ use.start)
    (expanded : List Text) :
    ∃ marks tail, textOf tail marks = value.drop position ∧ StandAt position marks uses ∧
      (uses ≠ [] → marks ≠ []) ∧
      (∀ any, (cut false position (value.drop position) uses any).1 = nodesOf false tail marks) ∧
      (cut true position (value.drop position) uses expanded).1 = nodesOf true tail marks ∧
      Notes expanded marks (cut true position (value.drop position) uses expanded).2 := by
  induction uses generalizing position expanded with
  | nil =>
    refine ⟨[], value.drop position, rfl, fun front mark back whole => ?_,
      fun used => absurd rfl used, fun _ => rfl, rfl, notes_nil expanded⟩
    cases (List.append_eq_nil_iff.1 whole.symm).2
  | cons use later ih =>
    obtain ⟨stands, standing⟩ := List.forall_mem_cons.1 standing
    obtain ⟨reached, _⟩ := List.forall_mem_cons.1 behind
    obtain ⟨ordered, apart⟩ := List.pairwise_cons.1 apart
    obtain ⟨whole, rest, place⟩ := stands.parts (named _ stands.isEntry).nonempty reached
    have cutOnce (expandFirst : Bool) (expanded : List Text) :=
      cut_cons_mark expandFirst position (value.drop position) use later expanded
    dsimp only at cutOnce
    rw [rest] at cutOnce
    generalize (value.drop position).take (use.start - position) = before at whole place cutOnce
    let mark : Mark := ⟨before, use.entry, !expanded.contains use.entry.name⟩
    let next := if true && mark.isFirst then expanded ++ [use.entry.name] else expanded
    obtain ⟨marks, tail, same, standAt, _, marked, spelled, notes⟩ := ih standing apart ordered next
    refine ⟨mark :: marks, tail, ?_, standAt.cons place rfl, fun _ => List.cons_ne_nil _ _, ?_, ?_,
      ?_⟩
    · rw [textOf, same, whole]
    · intro any
      rw [cutOnce]
      dsimp only
      rw [marked, nodesOf]
      rfl
    · rw [cutOnce, nodesOf, ← spelled]
    · rw [cutOnce]
      exact Notes.append (notes_singleton expanded before use.entry) notes

/-- A use touches a letter when one stands at the end of what is before it or at the start of what
is after it. -/
theorem touchesLetter_append (before : Text) (entry : Abbreviation) (after : Text) :
    Use.touchesLetter (before ++ (entry.name ++ after)) ⟨before.length, entry⟩ =
      (before.getLast?.any Char.isAlpha || after.head?.any Char.isAlpha) := by
  have behind :
      (before ++ (entry.name ++ after))[Use.stop ⟨before.length, entry⟩]? = after.head? := by
    rw [Use.stop, ← List.append_assoc, ← List.length_append,
      List.getElem?_append_right (Nat.le_refl _), Nat.sub_self, List.head?_eq_getElem?]
  rw [Use.touchesLetter, behind]
  congr 1
  rcases before.eq_nil_or_concat with rfl | ⟨front, last, rfl⟩
  · rfl
  · simp

/-- A text is split around the uses that are found in it. -/
theorem exists_isSplit {entries defined : List Abbreviation}
    (named : ∀ entry ∈ entries, entry.IsNamed)
    (isLast : ∀ entry ∈ entries, IsLastDefinition defined entry) (value : Text)
    (expanded : List Text) :
    ∃ marks tail, IsSplit defined value marks tail ∧ (uses entries value ≠ [] → marks ≠ []) ∧
      (∀ any, (cut false 0 value (uses entries value) any).1 = nodesOf false tail marks) ∧
      (cut true 0 value (uses entries value) expanded).1 = nodesOf true tail marks ∧
      Notes expanded marks (cut true 0 value (uses entries value) expanded).2 := by
  obtain ⟨standing, apart⟩ := uses_found named value
  obtain ⟨marks, tail, whole, standAt, used, marked, spelled, notes⟩ :=
    exists_marks named standing apart (fun _ _ => Nat.zero_le _) expanded
  refine ⟨marks, tail, ⟨whole, fun mark member => ?_, fun front mark back same => ?_⟩, used, marked,
    spelled, notes⟩
  · obtain ⟨front, back, same⟩ := List.append_of_mem member
    exact isLast mark.entry (standing _ (standAt front mark back same)).isEntry
  · have found := standAt front mark back same
    have free := not_touchesLetter_of_mem_uses _ found
    have parts : value = textOf mark.before front ++ (mark.entry.name ++ textOf tail back) := by
      rw [← textOf_append, ← same]
      exact whole.symm
    rw [Nat.zero_add, parts, touchesLetter_append] at free
    exact Bool.or_eq_false_iff.1 free

/-! ## Documents -/

/-- The uses in the texts of nodes are marked in document order, the same ones whether or not first
uses are written out, and the names that are used are noted. -/
def Marks (entries defined : List Abbreviation) (nodes : List Node) : Prop :=
  ∀ expanded, ∃ marks result, Splits defined nodes marks result ∧
    (∀ any, (markUseList false entries nodes any).1 = result false) ∧
      (markUseList true entries nodes expanded).1 = result true ∧
        Notes expanded marks (markUseList true entries nodes expanded).2

section

variable {entries defined : List Abbreviation} {rest : List Node}

/-- A text without uses and an abbreviation that is marked already stay as they are. -/
theorem Marks.kept {node : Node} (later : Marks entries defined rest)
    (closed : node.isText = true ∨ ∃ title, node.kind = .abbreviation title)
    (same : ∀ expandFirst expanded, markUseList expandFirst entries (node :: rest) expanded =
      (node :: (markUseList expandFirst entries rest expanded).1,
        (markUseList expandFirst entries rest expanded).2)) :
    Marks entries defined (node :: rest) := by
  intro expanded
  obtain ⟨marks, others, splits, marked, spelled, notes⟩ := later expanded
  refine ⟨marks, _, .kept closed splits, fun any => ?_, ?_, ?_⟩
  · rw [same, marked]
  · rw [same, spelled]
  · rw [same]
    exact notes

/-- A text is split around the uses in it. -/
theorem Marks.text (named : ∀ entry ∈ entries, entry.IsNamed)
    (isLast : ∀ entry ∈ entries, IsLastDefinition defined entry)
    (later : Marks entries defined rest) (value : Text) (children : List Node) (data : Annotations)
    (span : Option Span) : Marks entries defined (⟨.text value, children, data, span⟩ :: rest) := by
  cases found : uses entries value with
  | nil => exact later.kept (.inl rfl) fun expandFirst expanded => by rw [markUseList, found]
  | cons use others =>
    have same : ∀ expandFirst expanded,
        let own := cut expandFirst 0 value (uses entries value) expanded
        markUseList expandFirst entries (⟨.text value, children, data, span⟩ :: rest) expanded =
          (own.1 ++ (markUseList expandFirst entries rest own.2).1,
            (markUseList expandFirst entries rest own.2).2) := fun expandFirst expanded => by
      rw [markUseList, found]
    dsimp only at same
    intro expanded
    obtain ⟨own, tail, isSplit, used, markedOwn, spelledOwn, notesOwn⟩ :=
      exists_isSplit named isLast value expanded
    obtain ⟨marks, others, splits, marked, spelled, notes⟩ :=
      later (cut true 0 value (uses entries value) expanded).2
    refine ⟨own ++ marks, _, .split rfl isSplit (used (by rw [found]; exact List.cons_ne_nil _ _))
      splits, fun any => ?_, ?_, ?_⟩
    · rw [same, markedOwn, marked]
    · rw [same, spelledOwn, spelled]
    · rw [same]
      exact notesOwn.append notes

/-- Any other node stays, with the uses below it marked. -/
theorem Marks.inside {node : Node} (below : Marks entries defined node.children)
    (later : Marks entries defined rest) (notText : node.isText = false)
    (notAbbreviation : ∀ title, node.kind ≠ .abbreviation title) :
    Marks entries defined (node :: rest) := by
  have same : ∀ expandFirst expanded,
      let own := markUseList expandFirst entries node.children expanded
      markUseList expandFirst entries (node :: rest) expanded =
        ({ node with children := own.1 } :: (markUseList expandFirst entries rest own.2).1,
          (markUseList expandFirst entries rest own.2).2) := by
    obtain ⟨kind, children, data, span⟩ := node
    intro expandFirst expanded
    cases kind with
    | text value => cases notText
    | abbreviation title => exact absurd rfl (notAbbreviation title)
    | _ => rfl
  dsimp only at same
  intro expanded
  obtain ⟨inner, children, splitsInner, markedInner, spelledInner, notesInner⟩ := below expanded
  obtain ⟨marks, others, splits, marked, spelled, notes⟩ :=
    later (markUseList true entries node.children expanded).2
  refine ⟨inner ++ marks, _, .inside notText notAbbreviation splitsInner splits, fun any => ?_, ?_,
    ?_⟩
  · rw [same, markedInner, marked]
  · rw [same, spelledInner, spelled]
  · rw [same]
    exact notesInner.append notes

end

/-- The uses in the texts of a list of nodes are marked. -/
theorem marks_markUseList {entries defined : List Abbreviation}
    (named : ∀ entry ∈ entries, entry.IsNamed)
    (isLast : ∀ entry ∈ entries, IsLastDefinition defined entry) (nodes : List Node) :
    Marks entries defined nodes := by
  refine (Node.induction (P := fun node => Marks entries defined node.children)
    (Q := Marks entries defined) (fun _ _ _ _ below => below)
    (fun expanded => ⟨[], _, .nil, fun _ => rfl, rfl, notes_nil expanded⟩) ?_).2 nodes
  rintro ⟨kind, children, data, span⟩ rest below later
  cases kind with
  | text value => exact later.text named isLast value children data span
  | abbreviation title =>
    exact later.kept (.inr ⟨title, rfl⟩) fun expandFirst expanded => by rw [markUseList]
  | _ => exact below.inside later rfl (by simp)

/-- Without abbreviations nothing is marked. -/
theorem markUseList_nil (expandFirst : Bool) (nodes : List Node) (expanded : List Text) :
    markUseList expandFirst [] nodes expanded = (nodes, expanded) := by
  refine (Node.induction
    (P := fun node => ∀ expanded,
      markUseList expandFirst [] node.children expanded = (node.children, expanded))
    (Q := fun nodes => ∀ expanded, markUseList expandFirst [] nodes expanded = (nodes, expanded))
    (fun _ _ _ _ below => below) (fun _ => rfl) ?_).2 nodes expanded
  rintro ⟨kind, children, data, span⟩ rest below later expanded
  dsimp only at below
  cases kind with
  | text value =>
    have unused : uses [] value = [] := rfl
    rw [markUseList, unused]
    dsimp only
    rw [later]
  | abbreviation title => rw [markUseList, later]
  | _ => simp only [markUseList, markUses, below, later]

/-- What is looked for in a document is what is defined last for its name. -/
theorem isLastDefinition_of_mem_ofDocument {tree : Node} {entry : Abbreviation}
    (member : entry ∈ ofDocument tree) : IsLastDefinition (definitionList tree.children) entry := by
  rw [ofDocument, List.mem_mergeSort] at member
  obtain ⟨kind, children, data, span⟩ := tree
  exact mem_lastDefinitions_iff.1 member

/-- A document is marked by marking what is left of it without its definition paragraphs. -/
theorem markDocument_eq (expandFirst : Bool) (tree : Node) :
    markDocument expandFirst tree = { tree with
      children := (markUseList expandFirst (ofDocument tree)
        (removeDefinitionList tree.children) []).1 } := by
  obtain ⟨kind, children, data, span⟩ := tree
  rw [markDocument]
  split
  · rename_i none
    rw [none, markUseList_nil]
    rfl
  · rfl

/-- In every document, the definition paragraphs are removed, and texts are split around uses that
touch no letter, each with the last definition of its name as title. The text of what is left stays
the same. With `expandFirst` the same uses are marked at the same places, and exactly the first use
of each name is written behind its title and in parentheses. -/
theorem markDocument_splits (tree : Node) (leaves : Node.TextLeaves tree.children) :
    ∃ defined left marks result,
      WithoutDefinitions tree.children defined left ∧ Splits defined left marks result ∧
        AreFirst [] marks ∧
          (∀ expandFirst,
            markDocument expandFirst tree = { tree with children := result expandFirst }) ∧
            Node.plainTextList (result false) = Node.plainTextList left := by
  have removed := withoutDefinitions_removeDefinitionList tree.children
  obtain ⟨marks, result, splits, marked, spelled, notes⟩ :=
    marks_markUseList (fun _ => isNamed_of_mem_ofDocument)
      (fun _ => isLastDefinition_of_mem_ofDocument) (removeDefinitionList tree.children) []
  refine ⟨_, _, marks, result, removed, splits, notes.areFirst, fun expandFirst => ?_,
    splits.plainTextList_eq (removed.textLeaves leaves)⟩
  rw [markDocument_eq]
  cases expandFirst with
  | false => rw [marked]
  | true => rw [spelled]

/-- A document with one name inside another, a definition that is given again, and two uses. -/
def redefinedDocument : Node :=
  { kind := .root
    children :=
      [ Node.paragraph [Node.text "*[CSS]: Old\n*[CSS 3]: Level".toList],
        Node.paragraph [Node.text "CSS, ".toList,
          { kind := .emphasis, children := [Node.text "CSS 3 and CSS".toList] }],
        Node.paragraph [Node.text "*[CSS]: New".toList] ] }

/-- Marking the uses in a document leaves its text as it is. -/
theorem markDocument_splits_redefinedDocument :
    Node.TextLeaves redefinedDocument.children ∧
      ∃ defined left marks result,
        WithoutDefinitions redefinedDocument.children defined left ∧
          Splits defined left marks result ∧ AreFirst [] marks ∧
            (∀ expandFirst, markDocument expandFirst redefinedDocument =
              { redefinedDocument with children := result expandFirst }) ∧
              Node.plainTextList (result false) = Node.plainTextList left :=
  have leaves : Node.TextLeaves redefinedDocument.children := by
    rw [Node.TextLeaves]
    decide
  ⟨leaves, markDocument_splits redefinedDocument leaves⟩

end Manuscript.Abbreviation
