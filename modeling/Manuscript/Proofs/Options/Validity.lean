import Manuscript.Pipeline
import Mathlib.Data.List.Nodup

/-!
# Options without faults

Options have no fault just if each list of passes is in order, with none listed twice and no two in
an order that is a fault, and what the passes need is set (`isValid_iff`). Both hold of a part of
the passes if they hold of all of them (`isValid_of_sublist`).
-/

namespace Manuscript

/-! ## Lists of passes -/

section

variable {α : Type} [DecidableEq α]

/-- No member is found exactly if none is repeated and none has been seen before. -/
theorem firstRepeated?_eq_none_iff {seen items : List α} :
    firstRepeated? seen items = none ↔ items.Nodup ∧ ∀ item ∈ items, item ∉ seen := by
  induction items generalizing seen with
  | nil => simp [firstRepeated?]
  | cons item rest ih =>
    rw [firstRepeated?, List.nodup_cons, List.forall_mem_cons]
    by_cases repeated : item ∈ seen
    · simp [repeated]
    · rw [List.contains_eq_mem, decide_eq_false repeated, if_neg Bool.false_ne_true, ih]
      constructor
      · rintro ⟨nodup, fresh⟩
        exact ⟨⟨fun later => fresh item later List.mem_cons_self, nodup⟩, repeated,
          fun other member seen => fresh other member (List.mem_cons_of_mem _ seen)⟩
      · rintro ⟨⟨once, nodup⟩, _, fresh⟩
        refine ⟨nodup, fun other member => ?_⟩
        have distinct : other ≠ item := fun same => once (same ▸ member)
        exact List.not_mem_cons_of_ne_of_not_mem distinct (fresh other member)

/-- Which of two comes first is told by the first of a list, unless it is neither. -/
theorem comesBefore_cons (first second item : α) (rest : List α) :
    comesBefore first second (item :: rest) =
      if item = second then false
      else if item = first then decide (second ∈ rest)
      else comesBefore first second rest := by
  unfold comesBefore
  rw [List.idxOf?_cons, List.idxOf?_cons]
  by_cases isSecond : item = second
  · subst isSecond
    cases (if (item == first) = true then some 0 else (rest.idxOf? first).map (· + 1)) <;> simp
  · by_cases isFirst : item = first
    · subst isFirst
      cases found : rest.idxOf? second with
      | none => simp [isSecond, List.idxOf?_eq_none_iff.1 found]
      | some place =>
        have : second ∈ rest := List.isSome_idxOf?.1 (found ▸ rfl)
        simp [isSecond, this]
    · cases rest.idxOf? first <;> cases rest.idxOf? second <;> simp [isFirst, isSecond]

/-- In a list without repetitions one member comes before another exactly when the list has the two
in this order. -/
theorem comesBefore_iff {first second : α} {order : List α} (nodup : order.Nodup) :
    comesBefore first second order = true ↔ [first, second].Sublist order := by
  induction order with
  | nil => simp [comesBefore]
  | cons item rest ih =>
    obtain ⟨once, nodupRest⟩ := List.nodup_cons.1 nodup
    rw [comesBefore_cons, List.cons_sublist_cons', List.singleton_sublist, ← ih nodupRest]
    by_cases isSecond : item = second
    · subst isSecond
      rw [if_pos rfl, ih nodupRest]
      refine iff_of_false Bool.false_ne_true ?_
      rintro (inside | ⟨_, later⟩)
      · exact once (inside.subset (List.mem_cons_of_mem _ List.mem_cons_self))
      · exact once later
    · rw [if_neg isSecond]
      by_cases isFirst : item = first
      · subst isFirst
        rw [if_pos rfl, decide_eq_true_eq, ih nodupRest]
        refine ⟨fun later => .inr ⟨rfl, later⟩, ?_⟩
        rintro (inside | ⟨_, later⟩)
        · exact inside.subset (List.mem_cons_of_mem _ List.mem_cons_self)
        · exact later
      · rw [if_neg isFirst, or_iff_left fun own => isFirst own.1.symm]

end

/-- A list of passes that has none twice, and no two in one of the given orders. -/
structure IsOrderly {α : Type} (misorders : List (α × α)) (order : List α) : Prop where
  nodup : order.Nodup
  ordered : ∀ pair ∈ misorders, ¬ [pair.1, pair.2].Sublist order

/-- A part of an orderly list is orderly. -/
theorem IsOrderly.of_sublist {α : Type} {misorders : List (α × α)} {part order : List α}
    (orderly : IsOrderly misorders order) (within : part.Sublist order) :
    IsOrderly misorders part where
  nodup := orderly.nodup.sublist within
  ordered pair listed inside := orderly.ordered pair listed (inside.trans within)

/-- An order is fine if nothing is repeated and no pair stands the wrong way round. -/
theorem isOrderly_iff {α : Type} [DecidableEq α] {misorders : List (α × α)} {order : List α} :
    IsOrderly misorders order ↔ firstRepeated? [] order = none ∧
      ∀ pair ∈ misorders, comesBefore pair.1 pair.2 order = false := by
  rw [firstRepeated?_eq_none_iff]
  constructor
  · intro orderly
    refine ⟨⟨orderly.nodup, fun _ _ => List.not_mem_nil⟩, fun pair listed => ?_⟩
    rw [Bool.eq_false_iff, ne_eq, comesBefore_iff orderly.nodup]
    exact orderly.ordered pair listed
  · rintro ⟨⟨nodup, _⟩, ordered⟩
    refine ⟨nodup, fun pair listed inside => ?_⟩
    have before := (comesBefore_iff nodup).2 inside
    rw [ordered pair listed] at before
    cases before

namespace Options

/-! ## Options without faults -/

/-- The orders of two Markdown passes that are faults. -/
def markdownMisorders : List (MarkdownPass × MarkdownPass) :=
  [ (.codeMeta, .codeTabs), (.replacements, .attributes), (.typography, .attributes),
    (.replacements, .linkify), (.typography, .linkify), (.breaks, .abbreviations),
    (.breaks, .blockquote) ]

/-- The orders of two HTML passes that are faults. -/
def htmlMisorders : List (HtmlPass × HtmlPass) :=
  [ (.utilityClasses, .headingIds), (.colorSwatch, .headingIds), (.footnoteTitles, .headingIds),
    (.autolinkHeadings, .headingIds), (.toc, .headingIds) ]

/-- The order of the Markdown passes has no faults if no pair of them stands the wrong way round. -/
theorem markdownOrderFaults_eq_nil_iff {order : List MarkdownPass} :
    markdownOrderFaults order = [] ↔
      ∀ pair ∈ markdownMisorders, comesBefore pair.1 pair.2 order = false := by
  simp [markdownOrderFaults, markdownMisorders, and_assoc]

/-- The order of the HTML passes has no faults if no pair of them stands the wrong way round. -/
theorem htmlOrderFaults_eq_nil_iff {order : List HtmlPass} :
    htmlOrderFaults order = [] ↔
      ∀ pair ∈ htmlMisorders, comesBefore pair.1 pair.2 order = false := by
  simp [htmlOrderFaults, htmlMisorders]

/-- What options without a fault are like: their passes are in order, and what the passes need is
set. -/
structure IsSound (options : Options) : Prop where
  markdown : IsOrderly markdownMisorders options.passes.markdown
  html : IsOrderly htmlMisorders options.passes.html
  titleTemplate : .footnoteTitles ∈ options.passes.html →
    Text.isBlankText options.footnotes.titleTemplate = false
  label : Text.isBlankText options.footnotes.label = false
  contentsDepth : .toc ∈ options.passes.html → options.hasContentsDepth = true
  readingSpeed : options.wordsPerMinute ≠ 0
  quotationStarts : options.blockquote.marker ≠ [] ∧ options.blockquote.captionStart ≠ []
  markdownPasses : ∀ pass ∈ options.passes.markdown, MarkdownPass.fault? options pass = none
  htmlPasses : ∀ pass ∈ options.passes.html, HtmlPass.fault? options pass = none

/-- The settings have no faults if each has a value that the passes which use it can work with. -/
theorem settingFaults_eq_nil_iff {options : Options} :
    options.settingFaults = [] ↔
      (.footnoteTitles ∈ options.passes.html →
        Text.isBlankText options.footnotes.titleTemplate = false) ∧
      Text.isBlankText options.footnotes.label = false ∧
      (.toc ∈ options.passes.html → options.hasContentsDepth = true) ∧
      options.wordsPerMinute ≠ 0 ∧
      options.blockquote.marker ≠ [] ∧ options.blockquote.captionStart ≠ [] := by
  simp [settingFaults]

/-- Options are valid exactly when they are sound. -/
theorem isValid_iff {options : Options} : options.IsValid ↔ options.IsSound := by
  have shape : options.IsValid ↔
      ((firstRepeated? [] options.passes.markdown = none ∧
          firstRepeated? [] options.passes.html = none) ∧
        markdownOrderFaults options.passes.markdown = [] ∧
        htmlOrderFaults options.passes.html = [] ∧ options.settingFaults = []) ∧
      (∀ pass ∈ options.passes.markdown, MarkdownPass.fault? options pass = none) ∧
      ∀ pass ∈ options.passes.html, HtmlPass.fault? options pass = none := by
    simp [IsValid, faults, wholeFaults, passFaults, and_assoc]
  rw [shape, markdownOrderFaults_eq_nil_iff, htmlOrderFaults_eq_nil_iff, settingFaults_eq_nil_iff]
  constructor
  · rintro ⟨⟨⟨once, onceHtml⟩, ordered, orderedHtml, template, label, depth, speed, starts⟩, passes,
      passesHtml⟩
    exact ⟨isOrderly_iff.2 ⟨once, ordered⟩, isOrderly_iff.2 ⟨onceHtml, orderedHtml⟩, template,
      label, depth, speed, starts, passes, passesHtml⟩
  · rintro ⟨markdown, html, template, label, depth, speed, starts, passes, passesHtml⟩
    obtain ⟨once, ordered⟩ := isOrderly_iff.1 markdown
    obtain ⟨onceHtml, orderedHtml⟩ := isOrderly_iff.1 html
    exact ⟨⟨⟨once, onceHtml⟩, ordered, orderedHtml, template, label, depth, speed, starts⟩, passes,
      passesHtml⟩

/-- Options stay valid when passes are left out. -/
theorem isValid_of_sublist {options : Options} {passes : PassList} (valid : options.IsValid)
    (markdown : passes.markdown.Sublist options.passes.markdown)
    (html : passes.html.Sublist options.passes.html) : IsValid { options with passes } := by
  have sound := isValid_iff.1 valid
  exact isValid_iff.2 {
    markdown := sound.markdown.of_sublist markdown
    html := sound.html.of_sublist html
    titleTemplate := fun listed => sound.titleTemplate (html.subset listed)
    label := sound.label
    contentsDepth := fun listed => sound.contentsDepth (html.subset listed)
    readingSpeed := sound.readingSpeed
    quotationStarts := sound.quotationStarts
    markdownPasses := fun pass listed => sound.markdownPasses pass (markdown.subset listed)
    htmlPasses := fun pass listed => sound.htmlPasses pass (html.subset listed) }

/-- A pipeline is built exactly from options without a fault. -/
theorem ofOptions_isOk_iff {options : Options} :
    (∃ pipeline, Pipeline.ofOptions options = .ok pipeline) ↔ options.IsValid := by
  unfold Pipeline.ofOptions
  split
  · rename_i none
    exact iff_of_true ⟨_, rfl⟩ none
  · rename_i fault rest found
    refine iff_of_false (fun ⟨_, same⟩ => nomatch same) fun none => ?_
    rw [IsValid, found] at none
    cases none

end Options

end Manuscript
