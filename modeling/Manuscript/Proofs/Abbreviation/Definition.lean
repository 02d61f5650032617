import Manuscript.Proofs.Abbreviation.Uses
import Manuscript.Proofs.Document.Induction
import Manuscript.Proofs.Text.Search
import Mathlib.Data.List.Forall2

/-!
# Definitions of abbreviations

A line defines an abbreviation when it is `*[`, the name, `]:` and a title (`Defines`), and a
paragraph is a definition paragraph when each of its lines is such a line (`IsDefinitionParagraph`).
These paragraphs are what is removed from a document, and what they define is what is collected
(`withoutDefinitions_removeDefinitionList`). Of several definitions of one name the last one is kept
(`mem_lastDefinitions_iff`).
-/

namespace Manuscript.Abbreviation

/-- A line is `*[`, the name of an abbreviation, `]:` and its title with blanks around it. -/
structure Defines (line : Text) (entry : Abbreviation) : Prop where
  /-- The name is one. -/
  named : entry.IsNamed
  /-- How the line is written. -/
  written : ∃ title, title ≠ [] ∧ entry.title = Text.trim title ∧
    line = '*' :: '[' :: (entry.name ++ ']' :: ':' :: title)

/-- The name of a definition ends at the bracket behind it. -/
theorem takeWhile_name {entry : Abbreviation} (named : entry.IsNamed) (rest : Text) :
    (entry.name ++ ']' :: rest).takeWhile (· ≠ ']') = entry.name ∧
      (entry.name ++ ']' :: rest).dropWhile (· ≠ ']') = ']' :: rest := by
  refine Text.span_append (fun c member => ?_) (fun c first => ?_)
  · exact decide_eq_true fun bracket => named.unbracketed (bracket ▸ member)
  · cases first
    rfl

/-- What is read as a definition is a line that defines. -/
theorem ofLine?_eq_some_iff {line : Text} {entry : Abbreviation} :
    ofLine? line = some entry ↔ Defines line entry := by
  constructor
  · intro read
    refine ⟨isNamed_of_ofLine? read, ?_⟩
    unfold ofLine? at read
    split at read
    · rename_i rest
      have whole := rest.takeWhile_append_dropWhile (p := (· ≠ ']'))
      dsimp only at read
      split at read
      · rename_i title taken dropped
        split at read
        · cases read
        · rename_i filled
          cases read
          refine ⟨title, fun empty => filled (List.isEmpty_iff.2 empty), rfl, ?_⟩
          rw [dropped] at whole
          rw [whole]
      · cases read
    · cases read
  · rintro ⟨named, title, filled, isTitle, rfl⟩
    obtain ⟨taken, dropped⟩ := takeWhile_name named (':' :: title)
    obtain ⟨name, trimmed⟩ := entry
    obtain ⟨first, others, rfl⟩ := List.exists_cons_of_ne_nil named.nonempty
    dsimp only at taken dropped isTitle ⊢
    rw [ofLine?, taken, dropped, isTitle]
    exact if_neg (by rwa [List.isEmpty_iff])

/-- A paragraph with one text, all of whose lines that are not blank define an abbreviation. -/
structure IsDefinitionParagraph (node : Node) (entries : List Abbreviation) : Prop where
  /-- The node is a paragraph. -/
  isParagraph : node.kind = .paragraph
  /-- What is in it. -/
  lines : ∃ text value, node.children = [text] ∧ text.kind = .text value ∧
    let lines := ((Text.lines value).map Text.trim).filter fun line => !line.isEmpty
    lines ≠ [] ∧ List.Forall₂ Defines lines entries

/-- Lines are read as definitions exactly when each of them defines one. -/
theorem mapM_ofLine?_eq_some_iff {lines : List Text} {entries : List Abbreviation} :
    lines.mapM ofLine? = some entries ↔ List.Forall₂ Defines lines entries := by
  induction lines generalizing entries with
  | nil =>
    rw [List.mapM_nil, List.forall₂_nil_left_iff]
    exact Option.some_inj.trans eq_comm
  | cons line rest ih =>
    rw [List.mapM_cons, List.forall₂_cons_left_iff]
    constructor
    · intro read
      obtain ⟨entry, here, read⟩ := Option.bind_eq_some_iff.1 read
      obtain ⟨others, there, read⟩ := Option.bind_eq_some_iff.1 read
      exact ⟨entry, others, ofLine?_eq_some_iff.1 here, ih.1 there, (Option.some.inj read).symm⟩
    · rintro ⟨entry, others, here, there, rfl⟩
      rw [ofLine?_eq_some_iff.2 here, ih.2 there]
      rfl

/-- What is read as definitions is a definition paragraph. -/
theorem ofParagraph?_eq_some_iff {node : Node} {entries : List Abbreviation} :
    ofParagraph? node = some entries ↔ IsDefinitionParagraph node entries := by
  constructor
  · intro read
    unfold ofParagraph? at read
    split at read
    · rename_i value _ _ _ isParagraph children
      dsimp only at read
      split at read
      · cases read
      · rename_i filled
        exact ⟨isParagraph, _, value, children, rfl, fun empty => filled (List.isEmpty_iff.2 empty),
          mapM_ofLine?_eq_some_iff.1 read⟩
    · cases read
  · rintro ⟨isParagraph, ⟨_, below, data, span⟩, value, children, rfl, filled, defined⟩
    rw [ofParagraph?, isParagraph, children]
    dsimp only
    rw [if_neg (by rwa [List.isEmpty_iff]), mapM_ofLine?_eq_some_iff.2 defined]

/-- Nodes, what is defined among and below them in document order, and what is left of the nodes
without the definition paragraphs. -/
inductive WithoutDefinitions : List Node → List Abbreviation → List Node → Prop
  | nil : WithoutDefinitions [] [] []
  | removed {node : Node} {entries later : List Abbreviation} {rest left : List Node}
      (defines : IsDefinitionParagraph node entries) (others : WithoutDefinitions rest later left) :
      WithoutDefinitions (node :: rest) (entries ++ later) left
  | kept {node : Node} {inner later : List Abbreviation} {children rest left : List Node}
      (other : ∀ entries, ¬ IsDefinitionParagraph node entries)
      (below : WithoutDefinitions node.children inner children)
      (others : WithoutDefinitions rest later left) :
      WithoutDefinitions (node :: rest) (inner ++ later) ({ node with children } :: left)

/-- Definitions are collected and removed from a list of nodes. -/
theorem withoutDefinitions_removeDefinitionList (nodes : List Node) :
    WithoutDefinitions nodes (definitionList nodes) (removeDefinitionList nodes) := by
  refine (Node.induction
    (P := fun node => WithoutDefinitions node.children (definitions node)
      (removeDefinitions node).children)
    (Q := fun nodes => WithoutDefinitions nodes (definitionList nodes) (removeDefinitionList nodes))
    ?_ .nil ?_).2 nodes
  · intro kind children data span below
    rw [definitions, removeDefinitions]
    exact below
  · intro node rest own later
    rw [definitionList, removeDefinitionList]
    cases read : ofParagraph? node with
    | some entries => exact .removed (ofParagraph?_eq_some_iff.1 read) later
    | none =>
      have other : ∀ entries, ¬ IsDefinitionParagraph node entries := fun entries defines => by
        cases read.symm.trans (ofParagraph?_eq_some_iff.2 defines)
      obtain ⟨kind, children, data, span⟩ := node
      exact .kept other own later

/-- What is left has no texts with something below if there were none before. -/
theorem WithoutDefinitions.textLeaves {nodes left : List Node} {entries : List Abbreviation}
    (removed : WithoutDefinitions nodes entries left) (leaves : Node.TextLeaves nodes) :
    Node.TextLeaves left := by
  induction removed with
  | nil => exact leaves
  | removed _ _ ih => exact ih (Node.textLeaves_cons.1 leaves).2
  | @kept node inner later children rest left other below others ihBelow ihOthers =>
    obtain ⟨first, rest⟩ := Node.textLeaves_cons.1 leaves
    obtain ⟨own, inside⟩ := Node.textLeaves_singleton.1 first
    have leaf : ({ node with children } : Node).isText = true → children = [] := fun isText => by
      rw [own isText] at below
      cases below
      rfl
    exact Node.textLeaves_cons.2
      ⟨Node.textLeaves_singleton.2 ⟨leaf, ihBelow inside⟩, ihOthers rest⟩

/-- An abbreviation is defined, and its name is not defined again later. -/
def IsLastDefinition (entries : List Abbreviation) (entry : Abbreviation) : Prop :=
  ∃ front back, entries = front ++ entry :: back ∧ ∀ other ∈ back, other.name ≠ entry.name

/-- The definitions that count are those whose name is not defined again later. -/
theorem mem_lastDefinitions_iff {entries : List Abbreviation} {entry : Abbreviation} :
    entry ∈ lastDefinitions entries ↔ IsLastDefinition entries entry := by
  induction entries with
  | nil =>
    refine ⟨fun none => absurd none List.not_mem_nil, ?_⟩
    rintro ⟨front, back, whole, _⟩
    cases List.append_eq_nil_iff.1 whole.symm |>.2
  | cons first rest ih =>
    have later : IsLastDefinition rest entry → IsLastDefinition (first :: rest) entry := by
      rintro ⟨front, back, rfl, last⟩
      exact ⟨first :: front, back, rfl, last⟩
    have again : (rest.any (·.name = first.name)) = false ↔
        ∀ other ∈ rest, other.name ≠ first.name := by
      simp
    have cases : IsLastDefinition (first :: rest) entry →
        (entry = first ∧ rest.any (·.name = first.name) = false) ∨ IsLastDefinition rest entry := by
      rintro ⟨front, back, whole, last⟩
      cases front with
      | nil =>
        cases whole
        exact .inl ⟨rfl, again.2 last⟩
      | cons other front =>
        cases whole
        exact .inr ⟨front, back, rfl, last⟩
    rw [lastDefinitions]
    split
    · rename_i repeated
      rw [ih]
      refine ⟨later, fun last => (cases last).elim (fun first => ?_) id⟩
      rw [first.2] at repeated
      cases repeated
    · rename_i single
      rw [List.mem_cons, ih]
      refine ⟨?_, fun last => (cases last).imp_left And.left⟩
      rintro (rfl | last)
      · exact ⟨[], rest, rfl, again.1 (Bool.eq_false_iff.2 single)⟩
      · exact later last

end Manuscript.Abbreviation
