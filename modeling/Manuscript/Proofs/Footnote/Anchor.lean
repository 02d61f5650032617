import Manuscript.Proofs.Footnote.Ledger
import Manuscript.Proofs.Heading.Slugger
import Mathlib.Data.List.Infix

/-!
# Which anchors of footnotes are the same

Every link to a footnote has an anchor, and so has every item of the section and its heading. An
anchor is put together from the front, a word for what it is, the identifier of the footnote and,
from the second link to a footnote on, a mark with a number. The first two always tell anchors
apart, the identifier and the mark do not: an identifier can end like a mark. `anchors_nodup_iff`
says that this is the only way for two anchors of a document to be the same.
-/

namespace Manuscript

namespace Footnote

/-- A number is written without hyphens. -/
theorem hyphen_not_mem_ofNat (n : Nat) : '-' ∉ Text.ofNat n := by
  intro member
  have digit := Nat.isDigit_of_mem_toDigits (by decide) (by decide) member
  exact absurd digit (by decide)

/-- The mark of a later link determines which link it is. -/
theorem reuseMark_of_lt {reuse : Nat} (later : 1 < reuse) :
    reuseMark reuse = '-' :: Text.ofNat reuse :=
  if_pos later

/-- The first link to a footnote has no mark behind its number. -/
theorem reuseMark_of_le {reuse : Nat} (first : reuse ≤ 1) : reuseMark reuse = [] :=
  if_neg (Nat.not_lt.2 first)

/-- Two identifiers with marks are the same text only if both identifiers and both marks are the
same, or one identifier is the other with its mark. -/
theorem eq_of_append_reuseMark {id other : Text} {m n : Nat} (first : 1 ≤ m) (second : 1 ≤ n)
    (same : id ++ reuseMark m = other ++ reuseMark n) :
    (id = other ∧ m = n) ∨ (1 < m ∧ n = 1 ∧ other = id ++ reuseMark m) ∨
      (1 < n ∧ m = 1 ∧ id = other ++ reuseMark n) := by
  rcases Nat.lt_or_ge 1 m with later | isFirst
  · rcases Nat.lt_or_ge 1 n with otherLater | otherFirst
    · -- Both texts end in a number, and the last hyphen of each is the one before it.
      rw [reuseMark_of_lt later, reuseMark_of_lt otherLater] at same
      have inside : ∀ (between : Text) (k l : Nat),
          '-' :: Text.ofNat k = between ++ '-' :: Text.ofNat l → between = [] := by
        rintro (_ | ⟨c, between⟩) k l split
        · rfl
        · have rest := (List.cons.inj split).2
          exact absurd (rest ▸ List.mem_append_right between List.mem_cons_self)
            (hyphen_not_mem_ofNat k)
      rcases List.append_eq_append_iff.1 same with ⟨between, rfl, split⟩ | ⟨between, rfl, split⟩
      · cases inside between m n split
        exact .inl ⟨by simp, Slug.ofNat_injective (List.cons.inj split).2⟩
      · cases inside between n m split
        exact .inl ⟨by simp, (Slug.ofNat_injective (List.cons.inj split).2).symm⟩
    · rw [reuseMark_of_le otherFirst, List.append_nil] at same
      exact .inr (.inl ⟨later, by omega, same.symm⟩)
  · rcases Nat.lt_or_ge 1 n with otherLater | otherFirst
    · rw [reuseMark_of_le isFirst, List.append_nil] at same
      exact .inr (.inr ⟨otherLater, by omega, same⟩)
    · rw [reuseMark_of_le isFirst, reuseMark_of_le otherFirst, List.append_nil,
        List.append_nil] at same
      exact .inl ⟨same, by omega⟩

/-- Anchors of links are the same if what follows the front and the word is. -/
theorem referenceAnchor_inj {front id other : Text} {m n : Nat} :
    referenceAnchor front id m = referenceAnchor front other n ↔
      id ++ reuseMark m = other ++ reuseMark n := by
  simp [referenceAnchor, List.append_assoc]

/-- Items of different footnotes have different anchors. -/
theorem itemAnchor_inj {front id other : Text} :
    itemAnchor front id = itemAnchor front other ↔ id = other := by
  simp [itemAnchor]

/-- No link has the anchor of an item. -/
theorem referenceAnchor_ne_itemAnchor (front id other : Text) (reuse : Nat) :
    referenceAnchor front id reuse ≠ itemAnchor front other := by
  simp [referenceAnchor, itemAnchor, List.append_assoc]

/-- The identifier of the heading of the section. -/
abbrev headingId : Text := "footnote-label".toList

/-- A text with one of the words in it is not the identifier of the heading. -/
theorem ne_headingId (front back : Text) : front ++ "fn".toList ++ back ≠ headingId := by
  intro same
  have starts : ∃ rest ∈ headingId.tails, "fn".toList <+: rest := by
    refine ⟨"fn".toList ++ back, ?_, List.prefix_append _ _⟩
    rw [List.mem_tails]
    exact ⟨front, by rw [← List.append_assoc, same]⟩
  exact absurd starts (by decide)

/-- The places of the links among references: the footnote of each, and which link to it it is. -/
def linkPlaces (citations : List Citation) : List (Text × Nat) :=
  citations.filterMap fun citation => citation.place.map fun place => (citation.id, place.reuse)

/-- The links to one footnote have the numbers of the tally. -/
theorem reuse_linkPlaces {citations : List Citation} {references : References}
    (tally : Tally citations references) (id : Text) :
    ((linkPlaces citations).filter (·.1 = id)).map Prod.snd =
      List.range' 1 (linksTo id citations).length := by
  have own : (((linkPlaces citations).filter (·.1 = id)).map Prod.snd).map some =
      (linksTo id citations).map fun citation => citation.place.map (·.reuse) := by
    clear tally
    induction citations with
    | nil => rfl
    | cons citation rest ih =>
      obtain ⟨label, place⟩ := citation
      cases place with
      | none => simpa [linkPlaces, linksTo, Citation.isLink] using ih
      | some place =>
        by_cases same : identifier label = id <;>
          simpa [linkPlaces, linksTo, Citation.isLink, Citation.id, same] using ih
  rw [tally.reuse, tally.count] at own
  exact List.map_injective_iff.2 (fun _ _ => Option.some.inj) own

/-- A list of pairs has no repetition if there is none among the pairs with the same first part. -/
theorem nodup_of_columns {α β : Type} [DecidableEq α] {pairs : List (α × β)}
    (columns : ∀ a, ((pairs.filter (·.1 = a)).map Prod.snd).Nodup) : pairs.Nodup := by
  induction pairs with
  | nil => exact List.nodup_nil
  | cons pair rest ih =>
    apply List.nodup_cons.2
    constructor
    · intro again
      have column := columns pair.1
      rw [List.filter_cons_of_pos (by simp), List.map_cons, List.nodup_cons] at column
      apply column.1
      exact List.mem_map_of_mem (List.mem_filter.2 ⟨again, by simp⟩)
    · apply ih
      intro a
      exact (columns a).sublist (((List.sublist_cons_self _ _).filter _).map _)

end Footnote

namespace Lowering

open Footnote

/-- The identifiers of nodes that have one. -/
def ids (nodes : List Html) : List Text :=
  nodes.filterMap (·.attribute? "id".toList)

namespace Ledger

/-- All identifiers that are made for the footnotes of a document: those of the links, and those of
the heading and of the items in the section. -/
def anchors (options : LoweringOptions) (ledger : Ledger) : List Text :=
  let parts := (notesSection options ledger).flatMap (·.children)
  ids (ledger.links options.footnotes.clobberFront) ++
    (ids parts ++ ids (parts.flatMap (·.children)))

/-- The links have the anchors for their places. -/
theorem ids_links (front : Text) (ledger : Ledger) :
    ids (ledger.links front) =
      (linkPlaces ledger.citations).map fun place => referenceAnchor front place.1 place.2 := by
  rw [ids, links, linkPlaces, List.filterMap_filterMap, List.map_filterMap]
  refine List.filterMap_congr fun citation _ => ?_
  obtain ⟨label, place⟩ := citation
  cases place with
  | none => rfl
  | some place => exact (attributes_referenceLink front _ place.number place.reuse).2

/-- The items of the section have the anchors of their footnotes. -/
theorem ids_items (options : LoweringOptions) (ledger : Ledger) :
    ids (ledger.notes.mapIdx (noteItem options ledger.citations)) =
      ledger.notes.map fun note => itemAnchor options.footnotes.clobberFront note.id := by
  have each : ∀ (items : Nat → Note → Html) (notes : List Note),
      (∀ index note, (items index note).attribute? "id".toList =
        some (itemAnchor options.footnotes.clobberFront note.id)) →
      ids (notes.mapIdx items) =
        notes.map fun note => itemAnchor options.footnotes.clobberFront note.id := by
    intro items notes
    induction notes generalizing items with
    | nil => exact fun _ => rfl
    | cons note rest ih =>
      intro anchored
      have later := ih (fun index => items (index + 1)) fun index => anchored (index + 1)
      rw [List.mapIdx_cons, ids, List.filterMap_cons_some (anchored 0 note), List.map_cons,
        ← later, ids]
  exact each _ _ fun index note => id_noteItem options ledger.citations index note

end Ledger

/-- Line feeds around nodes have no identifiers. -/
theorem ids_surround (nodes : List Html) : ids (surround nodes) = ids nodes :=
  read_surround ids (fun _ _ => List.filterMap_append ..) rfl nodes

/-- A text has no identifier. -/
theorem ids_cons_text (value : Text) (nodes : List Html) : ids (.text value :: nodes) = ids nodes :=
  rfl

/-- The section holds its heading and the list of its items. -/
theorem exists_footnoteSection (label : Text) (items : List Html) :
    ∃ tag heading list, footnoteSection label items = .element tag (surround [heading, list]) ∧
      heading.attribute? "id".toList = some headingId ∧ heading.children = [.text label] ∧
      list.attribute? "id".toList = none ∧ list.children = surround items :=
  ⟨_, _, _, rfl, rfl, rfl, rfl, rfl⟩

/-- The section has the identifier of its heading and those of its items. -/
theorem ids_notesSection (options : LoweringOptions) {ledger : Ledger}
    (linked : ledger.notes ≠ []) :
    let parts := (notesSection options ledger).flatMap (·.children)
    ids parts ++ ids (parts.flatMap (·.children)) =
      headingId :: ids (ledger.notes.mapIdx (noteItem options ledger.citations)) := by
  obtain ⟨tag, heading, list, isSection, headingNamed, headingText, listUnnamed, listItems⟩ :=
    exists_footnoteSection options.footnotes.label
      (ledger.notes.mapIdx (noteItem options ledger.citations))
  have parts : (notesSection options ledger).flatMap (·.children) = surround [heading, list] := by
    rw [notesSection, if_neg (by simpa using linked), isSection, List.flatMap_singleton]
    rfl
  have named : ids [heading, list] = [headingId] := by
    rw [ids, List.filterMap_cons_some headingNamed, List.filterMap_cons_none listUnnamed,
      List.filterMap_nil]
  have inside : [heading, list].flatMap (·.children) = .text options.footnotes.label ::
      surround (ledger.notes.mapIdx (noteItem options ledger.citations)) := by
    simp [headingText, listItems]
  dsimp only
  rw [parts, ids_surround,
    read_surround (·.flatMap (·.children)) (fun _ _ => List.flatMap_append) rfl,
    named, inside, ids_cons_text, ids_surround]
  rfl

/-- No footnote of the section is another one. -/
theorem nodup_notes (tree : Node) : ((Ledger.ofDocument tree).notes.map (·.id)).Nodup := by
  rw [ids_ofDocument]
  exact nodup_linkedIds _

/-- The links to one footnote of a document have the numbers from one on. -/
theorem reuse_ofDocument (tree : Node) (id : Text) :
    ((linkPlaces (Ledger.ofDocument tree).citations).filter (·.1 = id)).map Prod.snd =
      List.range' 1 (linksTo id (Ledger.ofDocument tree).citations).length := by
  obtain ⟨final, tally⟩ := (emission_ofDocument {} tree).tallied
  exact reuse_linkPlaces tally id

/-- The places of a document are those of its footnotes: each footnote has as many as it has links.
-/
theorem mem_linkPlaces_iff (tree : Node) {id : Text} {reuse : Nat} :
    (id, reuse) ∈ linkPlaces (Ledger.ofDocument tree).citations ↔
      1 ≤ reuse ∧ reuse ≤ (linksTo id (Ledger.ofDocument tree).citations).length := by
  have inColumn : (id, reuse) ∈ linkPlaces (Ledger.ofDocument tree).citations ↔
      reuse ∈ ((linkPlaces (Ledger.ofDocument tree).citations).filter (·.1 = id)).map Prod.snd := by
    simp [List.mem_map, List.mem_filter]
  rw [inColumn, reuse_ofDocument, List.mem_range'_1]
  omega

/-- No place is taken by two links. -/
theorem nodup_linkPlaces (tree : Node) : (linkPlaces (Ledger.ofDocument tree).citations).Nodup := by
  apply nodup_of_columns
  intro id
  rw [reuse_ofDocument]
  exact List.nodup_range'

/-- A footnote has an item exactly when it is linked to. -/
theorem mem_notes_iff (tree : Node) {id : Text} :
    id ∈ (Ledger.ofDocument tree).notes.map (·.id) ↔
      1 ≤ (linksTo id (Ledger.ofDocument tree).citations).length := by
  rw [ids_ofDocument, linkedIds, List.mem_eraseDups, Nat.one_le_iff_ne_zero,
    ← Nat.pos_iff_ne_zero, List.length_pos_iff_exists_mem]
  simp only [linksTo, List.mem_map, List.mem_filter, Bool.and_eq_true, decide_eq_true_eq]
  constructor
  · rintro ⟨citation, ⟨there, isLink⟩, same⟩
    exact ⟨citation, there, isLink, same⟩
  · rintro ⟨citation, there, isLink, same⟩
    exact ⟨citation, ⟨there, isLink⟩, same⟩

/-- Two links of a document have the same anchor only if the identifier of one footnote is that of
the other with the mark of a later link to it. -/
theorem anchors_of_links_distinct_iff (front : Text) (tree : Node) :
    let ledger := Ledger.ofDocument tree
    ((linkPlaces ledger.citations).map
        fun place => referenceAnchor front place.1 place.2).Nodup ↔
      ∀ note ∈ ledger.notes, ∀ reuse, 1 < reuse →
        reuse ≤ (linksTo note.id ledger.citations).length →
        ∀ other ∈ ledger.notes, other.id ≠ note.id ++ '-' :: Text.ofNat reuse := by
  intro ledger
  rw [List.nodup_map_iff_inj_on (nodup_linkPlaces tree)]
  constructor
  · intro injective note inNotes reuse later within other otherIn same
    have first : (other.id, 1) ∈ linkPlaces ledger.citations :=
      (mem_linkPlaces_iff tree).2
        ⟨Nat.le_refl 1, (mem_notes_iff tree).1 (List.mem_map_of_mem otherIn)⟩
    have repeated : (note.id, reuse) ∈ linkPlaces ledger.citations :=
      (mem_linkPlaces_iff tree).2 ⟨Nat.le_of_lt later, within⟩
    have shared := injective _ first _ repeated (by
      rw [referenceAnchor_inj, reuseMark_of_le (Nat.le_refl 1), reuseMark_of_lt later,
        List.append_nil, same])
    have isFirst : 1 = reuse := congrArg Prod.snd shared
    omega
  · rintro apart ⟨id, m⟩ first ⟨other, n⟩ second same
    obtain ⟨firstPositive, firstWithin⟩ := (mem_linkPlaces_iff tree).1 first
    obtain ⟨secondPositive, secondWithin⟩ := (mem_linkPlaces_iff tree).1 second
    obtain ⟨note, inNotes, rfl⟩ := List.mem_map.1
      ((mem_notes_iff tree).2 (Nat.le_trans firstPositive firstWithin))
    obtain ⟨otherNote, otherIn, rfl⟩ := List.mem_map.1
      ((mem_notes_iff tree).2 (Nat.le_trans secondPositive secondWithin))
    rcases eq_of_append_reuseMark firstPositive secondPositive (referenceAnchor_inj.1 same) with
      ⟨sameId, rfl⟩ | ⟨later, _, looksLike⟩ | ⟨later, _, looksLike⟩
    · exact Prod.ext sameId rfl
    · rw [reuseMark_of_lt later] at looksLike
      exact absurd looksLike (apart note inNotes m later firstWithin otherNote otherIn)
    · rw [reuseMark_of_lt later] at looksLike
      exact absurd looksLike (apart otherNote otherIn n later secondWithin note inNotes)

/-- The heading and the items of the section have identifiers of their own, which no link has. -/
theorem nodup_headingId_items (front : Text) (tree : Node) :
    let ledger := Ledger.ofDocument tree
    (headingId :: ledger.notes.map fun note => itemAnchor front note.id).Nodup ∧
      ∀ place ∈ linkPlaces ledger.citations, referenceAnchor front place.1 place.2 ∉
        headingId :: ledger.notes.map fun note => itemAnchor front note.id := by
  intro ledger
  refine ⟨List.nodup_cons.2 ⟨?_, ?_⟩, ?_⟩
  · rintro member
    obtain ⟨note, _, same⟩ := List.mem_map.1 member
    exact ne_headingId front ('-' :: note.id) (by simpa [itemAnchor] using same)
  · have distinct := List.Nodup.map (fun _ _ => (@itemAnchor_inj front _ _).1) (nodup_notes tree)
    rwa [List.map_map] at distinct
  · rintro place _ member
    rcases List.mem_cons.1 member with isHeading | isItem
    · refine ne_headingId front ("ref-".toList ++ place.1 ++ reuseMark place.2) ?_
      rw [← isHeading]
      simp [referenceAnchor]
    · obtain ⟨note, _, same⟩ := List.mem_map.1 isItem
      exact referenceAnchor_ne_itemAnchor _ _ _ _ same.symm

/-- The identifiers that are made for the footnotes of a document are different, one from another,
unless the identifier of a footnote is that of another with the mark of a later link to it. -/
theorem anchors_nodup_iff (options : LoweringOptions) (tree : Node) :
    let ledger := Ledger.ofDocument tree
    lowerDocument options tree = lowerWithLedger options tree ledger ∧
    ((ledger.anchors options).Nodup ↔
      ∀ note ∈ ledger.notes, ∀ reuse, 1 < reuse →
        reuse ≤ (linksTo note.id ledger.citations).length →
        ∀ other ∈ ledger.notes, other.id ≠ note.id ++ '-' :: Text.ofNat reuse) := by
  intro ledger
  refine ⟨lowerDocument_eq options tree, ?_⟩
  refine Iff.trans ?_ (anchors_of_links_distinct_iff options.footnotes.clobberFront tree)
  rw [Ledger.anchors, Ledger.ids_links]
  by_cases linked : ledger.notes = []
  · have noSection : notesSection options ledger = [] := by
      rw [notesSection, if_pos (by simpa using linked)]
    simp [noSection, ids, ledger]
  · obtain ⟨own, apart⟩ := nodup_headingId_items options.footnotes.clobberFront tree
    rw [ids_notesSection options linked, Ledger.ids_items, List.nodup_append]
    constructor
    · exact fun all => all.1
    · refine fun links => ⟨links, own, ?_⟩
      rintro anchor isLink _ inSection rfl
      obtain ⟨place, there, rfl⟩ := List.mem_map.1 isLink
      exact apart place there inSection

/-- A document with two links to the footnote `a` and one to the footnote `a-2`. -/
def suffixedLabel : Node :=
  let reference (label : String) : Node := ⟨.footnoteReference label.toList, [], {}, none⟩
  let definition (label : String) : Node :=
    ⟨.footnoteDefinition label.toList, [Node.paragraph [Node.text "x".toList]], {}, none⟩
  ⟨.root, [Node.paragraph [reference "a", reference "a", reference "a-2"], definition "a",
    definition "a-2"], {}, none⟩

/-- Its second link to `a` has the anchor of its link to `a-2`. -/
theorem suffixedLabel_shares_anchor :
    ¬ ∀ (options : LoweringOptions) (tree : Node),
      ((Ledger.ofDocument tree).anchors options).Nodup := by
  intro distinct
  have links := ((List.nodup_append.1 (distinct {} suffixedLabel)).1)
  rw [Ledger.ids_links, Ledger.citations, linkPlaces, List.filterMap_append,
    List.map_append] at links
  have body := (List.nodup_append.1 links).1
  exact absurd body (by decide)

end Lowering

end Manuscript
