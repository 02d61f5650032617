import Manuscript.Pass
import Manuscript.Proofs.Link.Keeping

/-!
# Links after they are made

The passes after the one over bare links take no link away, make none and change no address
(`becomes_afterLinks`). They do write over the text of a link as over any other
text; a text in which none of them finds anything (`Unaltered`) stays.
-/

namespace Manuscript.BareLink

open Node (substituteTexts substituteTextList mapCode mapCodeList)

/-- A text in which the passes after the one over bare links find nothing. -/
structure Unaltered (options : Options) (text : Text) : Prop where
  /-- There is no highlighted span in it. -/
  highlight : Highlight.cut? text = none
  /-- No replacement rule changes it. -/
  replacements :
    Replacement.applyAll (Replacement.active options.replacements.disable) text = text
  /-- No punctuation is set in it, whatever stands before. -/
  typography : ∀ before, (SmartPunctuation.smarten options.typography before text).1 = text

/-- What may become of a link: the address stays, and so does a text that is left alone. -/
structure Link.Becomes (plain : Text → Prop) (link other : Link) : Prop where
  url : other.url = link.url
  label : ∀ text, plain text → link.label? = some text → other.label? = some text

/-- What may become of a list of links. -/
abbrev BecomeAll (plain : Text → Prop) : List Link → List Link → Prop :=
  List.Forall₂ (Link.Becomes plain)

variable {plain : Text → Prop}

/-- What becomes of a link in two steps may become of it. -/
theorem Link.Becomes.trans {first second third : Link} (once : first.Becomes plain second)
    (again : second.Becomes plain third) : first.Becomes plain third :=
  ⟨again.url.trans once.url, fun text isPlain own =>
    again.label text isPlain (once.label text isPlain own)⟩

/-- Links may stay as they are. -/
theorem becomeAll_refl (links : List Link) : BecomeAll plain links links :=
  List.forall₂_same.2 fun _ _ => ⟨rfl, fun _ _ own => own⟩

/-- What becomes of links in two steps may become of them. -/
theorem becomeAll_trans {first second third : List Link} (once : BecomeAll plain first second)
    (again : BecomeAll plain second third) : BecomeAll plain first third := by
  induction once generalizing third with
  | nil => exact again
  | cons own _ ih =>
    cases again with
    | cons own' later => exact .cons (own.trans own') (ih later)

/-- The children of a link may be rewritten when a text that is left alone stays. -/
theorem becomeAll_link {url : Text} {children children' : List Node}
    (label : ∀ text, plain text → label? children = some text → label? children' = some text)
    (below : BecomeAll plain (linksList noLinks children) (linksList noLinks children')) :
    BecomeAll plain (⟨url, label? children⟩ :: linksList noLinks children)
      (⟨url, label? children'⟩ :: linksList noLinks children') :=
  .cons ⟨rfl, label⟩ below

/-- Children that have a text as a label are a single text. -/
theorem exists_of_label? {children : List Node} {text : Text} (own : label? children = some text) :
    ∃ below data span, children = [⟨.text text, below, data, span⟩] := by
  unfold label? at own
  split at own
  · rename_i node
    have kind := Node.kind_of_textValue? own
    obtain ⟨_, below, data, span⟩ := node
    cases kind
    exact ⟨below, data, span, rfl⟩
  · cases own

/-! ## Passes that replace texts -/

section

variable {replacement : Text → Node → Option (List Node)}

/-- A pass that replaces texts by nodes without links keeps the links, and it keeps a text that it
does not replace. -/
theorem becomeAll_substituteTexts (keeps : ∀ text node, plain text → replacement text node = none)
    (linkless : ∀ {text node nodes}, replacement text node = some nodes →
      linksList noLinks nodes = []) :
    (∀ tree : Node, BecomeAll plain (linksNode noLinks tree)
      (linksNode noLinks (tree.substituteTexts replacement))) ∧
    ∀ nodes, BecomeAll plain (linksList noLinks nodes)
      (linksList noLinks (substituteTextList replacement nodes)) := by
  refine Node.induction ?_ .nil ?_
  · intro kind children data span below
    cases kind with
    | text value => exact .nil
    | link url title =>
      refine becomeAll_link (fun text isPlain own => ?_) below
      obtain ⟨inside, data', span', rfl⟩ := exists_of_label? own
      rw [substituteTextList, keeps text _ isPlain]
      rfl
    | _ => exact below
  · intro node rest own later
    obtain ⟨kind, children, data, span⟩ := node
    rw [substituteTextList.eq_def]
    split
    · rename_i equal
      cases equal
    · rename_i value _ _ _ _ equal
      cases equal
      have none : linksList noLinks
          ((replacement value ⟨.text value, children, data, span⟩).getD
            [⟨.text value, children, data, span⟩]) = [] := by
        cases found : replacement value ⟨.text value, children, data, span⟩ with
        | none => rfl
        | some nodes => exact linkless found
      rw [linksList_append, none]
      exact later
    · rename_i equal
      cases equal
      exact List.rel_append own later

end

/-- Highlighting keeps the links. -/
theorem becomes_highlight (keeps : ∀ text, plain text → Highlight.cut? text = none) (tree : Node) :
    BecomeAll plain (linksList noLinks tree.children)
      (linksList noLinks (Highlight.markDocument tree).children) := by
  obtain ⟨kind, children, data, span⟩ := tree
  change BecomeAll plain (linksList noLinks children) (linksList noLinks (substituteTextList
    (fun value _ => (Highlight.cut? value).map Highlight.Cut.nodes) children))
  refine (becomeAll_substituteTexts (fun text node isPlain => ?_) fun found => ?_).2 children
  · rw [keeps text isPlain]
    rfl
  · obtain ⟨cut, _, rfl⟩ := Option.map_eq_some_iff.1 found
    rw [Highlight.Cut.nodes, linksList_append, linksList_ofText, linksList_cons, linksList_ofText]
    rfl

/-- Applying replacement rules keeps the links. -/
theorem becomes_replacements {rules : List Replacement}
    (keeps : ∀ text, plain text → Replacement.applyAll rules text = text) (tree : Node) :
    BecomeAll plain (linksList noLinks tree.children)
      (linksList noLinks (Replacement.replaceTexts rules tree).children) := by
  obtain ⟨kind, children, data, span⟩ := tree
  change BecomeAll plain (linksList noLinks children) (linksList noLinks (substituteTextList
    (fun value node => if Replacement.applyAll rules value = value then none
      else some [node.withText (Replacement.applyAll rules value)]) children))
  refine (becomeAll_substituteTexts (fun text node isPlain => ?_) fun found => ?_).2 children
  · exact if_pos (keeps text isPlain)
  · split at found
    · cases found
    · cases found
      rfl

/-! ## Passes over fence lines -/

/-- A change of a code block that concerns its fence line and its annotations alone. -/
def ChangesFence (change : Node → Node) : Prop :=
  ∀ language fence value children data span, ∃ fence' data',
    change ⟨.code language fence value, children, data, span⟩ =
      ⟨.code language fence' value, children, data', span⟩

/-- Reading a tab changes nothing but what is kept of the fence. -/
theorem changesFence_groupCode : ChangesFence CodeFence.groupCode := by
  intro language fence value children data span
  cases fence with
  | none => exact ⟨_, _, rfl⟩
  | some fence =>
    cases found : CodeFence.extractTab? fence with
    | none => exact ⟨some fence, data, by simp [CodeFence.groupCode, found]⟩
    | some extracted =>
      obtain ⟨tab, rest⟩ := extracted
      exact ⟨rest, { data with codeTab := some tab }, by simp [CodeFence.groupCode, found]⟩

/-- Keeping the rest of the fence changes nothing but what is kept of it. -/
theorem changesFence_keepFence : ChangesFence CodeFence.keepFence := by
  intro language fence value children data span
  cases fence with
  | none => exact ⟨_, _, rfl⟩
  | some fence =>
    by_cases blank : Text.isBlankText fence = true
    · exact ⟨some fence, data, by simp [CodeFence.keepFence, blank]⟩
    · exact ⟨some fence, { data with fenceMeta := some fence }, by
        simp [CodeFence.keepFence, blank]⟩

/-- A pass over fence lines keeps the links. -/
theorem becomes_mapCode {change : Node → Node} (changes : ChangesFence change) (tree : Node) :
    BecomeAll plain (linksList noLinks tree.children)
      (linksList noLinks (tree.mapCode change).children) := by
  have both : (∀ tree : Node, BecomeAll plain (linksNode noLinks tree)
      (linksNode noLinks (tree.mapCode change))) ∧
      ∀ nodes, BecomeAll plain (linksList noLinks nodes)
        (linksList noLinks (mapCodeList change nodes)) := by
    refine Node.induction ?_ .nil fun node rest own later => List.rel_append own later
    intro kind children data span below
    cases kind with
    | text value => exact .nil
    | link url title =>
      refine becomeAll_link (fun text _ own => ?_) below
      obtain ⟨inside, data', span', rfl⟩ := exists_of_label? own
      rfl
    | code language fence value =>
      obtain ⟨fence', data', same⟩ := changes language fence value children data span
      rw [Node.mapCode, same]
      exact becomeAll_refl _
    | _ => exact below
  obtain ⟨kind, children, data, span⟩ := tree
  cases kind with
  | code language fence value =>
    obtain ⟨fence', data', same⟩ := changes language fence value children data span
    rw [Node.mapCode, same]
    exact becomeAll_refl _
  | _ => exact both.2 children

/-! ## Smart punctuation -/

/-- Setting punctuation keeps the links. -/
theorem becomes_smarten {options : TypographyOptions}
    (keeps : ∀ text, plain text → ∀ before, (SmartPunctuation.smarten options before text).1 = text)
    (tree : Node) :
    BecomeAll plain (linksList noLinks tree.children)
      (linksList noLinks (SmartPunctuation.smartenDocument options tree).children) := by
  have both : (∀ tree : Node, ∀ state, BecomeAll plain (linksNode noLinks tree)
      (linksNode noLinks (SmartPunctuation.smartenNode options tree state).1)) ∧
      ∀ nodes, ∀ state, BecomeAll plain (linksList noLinks nodes)
        (linksList noLinks (SmartPunctuation.smartenNodeList options nodes state).1) := by
    refine Node.induction ?_ (fun _ => .nil) fun node rest own later state =>
      List.rel_append (own state) (later _)
    intro kind children data span below state
    cases kind with
    | text value =>
      rw [SmartPunctuation.smartenNode]
      split <;> exact .nil
    | link url title =>
      refine becomeAll_link (fun text isPlain own => ?_) (below state)
      obtain ⟨inside, data', span', rfl⟩ := exists_of_label? own
      have single : label? (SmartPunctuation.smartenNodeList options
          [⟨.text text, inside, data', span'⟩] state).1 =
          (SmartPunctuation.smartenNode options ⟨.text text, inside, data', span'⟩
            state).1.textValue? := rfl
      rw [single, SmartPunctuation.smartenNode]
      split
      · exact congrArg some (keeps text isPlain state.before)
      · rfl
    | html | inlineCode | code | lineBreak =>
      rw [SmartPunctuation.smartenNode]
      exact becomeAll_refl _
    | _ =>
      unfold SmartPunctuation.smartenNode
      exact below _
  obtain ⟨kind, children, data, span⟩ := tree
  exact both.2 children {}

/-! ## All of them -/

/-- The passes after the one over bare links, in the order in which they run. -/
def afterLinks (options : Options) (tree : Node) : Node :=
  SmartPunctuation.smartenDocument options.typography
    (Replacement.replaceTexts (Replacement.active options.replacements.disable)
      (CodeFence.preserveMeta (CodeFence.groupTabs (Highlight.markDocument tree))))

/-- The links stay in their order with their addresses, and so do their texts as far as the passes
find nothing in them. -/
theorem becomes_afterLinks (options : Options) (tree : Node) :
    BecomeAll (Unaltered options) (linksList noLinks tree.children)
      (linksList noLinks (afterLinks options tree).children) := by
  refine becomeAll_trans (becomes_highlight (fun _ isPlain => isPlain.highlight) tree) ?_
  refine becomeAll_trans (becomes_mapCode changesFence_groupCode _) ?_
  refine becomeAll_trans (becomes_mapCode changesFence_keepFence _) ?_
  refine becomeAll_trans (becomes_replacements (fun _ isPlain => isPlain.replacements) _) ?_
  exact becomes_smarten (fun _ isPlain => isPlain.typography) _

end Manuscript.BareLink
