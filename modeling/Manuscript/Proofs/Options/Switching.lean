import Manuscript.Proofs.Options.Validity

/-!
# Switching passes on and off

A pass that is switched off leaves the others in their order, so that no fault comes of it, and a
pass that is switched on is listed once (`Switches.nodup_apply`). So a pipeline that can be built
can be built without some of its passes, whichever they are (`ofOptions_after_switches`).
-/

namespace Manuscript

/-- Options after several settings, one after the other. -/
def Options.after (settings : List Setting) (options : Options) : Options :=
  settings.foldl (fun options setting => setting.apply options) options

/-! ## Settings that switch passes -/

/-- Lists of passes in which none stands twice. -/
def PassList.Nodup (passes : PassList) : Prop :=
  passes.markdown.Nodup ∧ passes.html.Nodup

/-- A member that is not there yet is added without repeating any. -/
theorem nodup_appendNew {α : Type} [DecidableEq α] {items : List α} (nodup : items.Nodup)
    (item : α) : (appendNew item items).Nodup := by
  rw [appendNew, List.contains_eq_mem]
  by_cases listed : item ∈ items
  · rwa [if_pos (decide_eq_true listed)]
  · rw [if_neg (by simpa using listed), ← List.concat_eq_append]
    exact nodup.concat listed

/-- A list stays as it is when something is added that is in it. -/
theorem appendNew_of_mem {α : Type} [DecidableEq α] {item : α} {items : List α}
    (listed : item ∈ items) : appendNew item items = items :=
  if_pos (List.contains_iff_mem.2 listed)

/-- Removing keeps the order of the others. -/
theorem remove_sublist {α : Type} [DecidableEq α] (item : α) (items : List α) :
    (remove item items).Sublist items :=
  List.filter_sublist

namespace Setting

/-- A setting that switches a pass off. -/
inductive Disables : Setting → Prop
  | markdown (pass : MarkdownPass) : Disables (.disableMarkdown pass)
  | html (pass : HtmlPass) : Disables (.disableHtml pass)

/-- A setting that switches a pass on or off. -/
inductive Switches : Setting → Prop
  | enableMarkdown (pass : MarkdownPass) : Switches (.enableMarkdown pass)
  | enableHtml (pass : HtmlPass) : Switches (.enableHtml pass)
  | disable {setting : Setting} (disables : Disables setting) : Switches setting

variable {setting : Setting}

/-- Switching a pass off leaves out passes and changes nothing else. -/
theorem Disables.apply_eq (disables : setting.Disables) (options : Options) :
    ∃ passes : PassList, setting.apply options = { options with passes } ∧
      passes.markdown.Sublist options.passes.markdown ∧
      passes.html.Sublist options.passes.html := by
  cases disables with
  | markdown pass =>
    exact ⟨⟨remove pass options.passes.markdown, options.passes.html⟩, rfl, remove_sublist _ _,
      .refl _⟩
  | html pass =>
    exact ⟨⟨options.passes.markdown, remove pass options.passes.html⟩, rfl, .refl _,
      remove_sublist _ _⟩

/-- Options stay valid when a pass is switched off. -/
theorem Disables.isValid_apply (disables : setting.Disables) {options : Options}
    (valid : options.IsValid) : (setting.apply options).IsValid := by
  obtain ⟨passes, same, markdown, html⟩ := disables.apply_eq options
  rw [same]
  exact Options.isValid_of_sublist valid markdown html

/-- Switching a pass on or off lists none twice. -/
theorem Switches.nodup_apply (switches : setting.Switches) {options : Options}
    (nodup : options.passes.Nodup) : (setting.apply options).passes.Nodup := by
  cases switches with
  | enableMarkdown pass => exact ⟨nodup_appendNew nodup.1 pass, nodup.2⟩
  | enableHtml pass => exact ⟨nodup.1, nodup_appendNew nodup.2 pass⟩
  | disable disables =>
    obtain ⟨passes, same, markdown, html⟩ := disables.apply_eq options
    rw [same]
    exact ⟨nodup.1.sublist markdown, nodup.2.sublist html⟩

/-- What each of several settings keeps, they keep together. -/
theorem keeps_after {settings : List Setting} {P : Options → Prop}
    (each : ∀ setting ∈ settings, ∀ options, P options → P (setting.apply options))
    {options : Options} (holds : P options) : P (options.after settings) := by
  induction settings generalizing options with
  | nil => exact holds
  | cons setting rest ih =>
    obtain ⟨first, others⟩ := List.forall_mem_cons.1 each
    exact ih others (first options holds)

/-- A pipeline that can be built can also be built after any passes have been switched off. To
switch on a pass that is on changes nothing, and no pass comes to be listed twice when passes are
switched on and off. -/
theorem ofOptions_after_switches :
    (∀ (options : Options) (settings : List Setting), (∀ setting ∈ settings, setting.Disables) →
      (∃ pipeline, Pipeline.ofOptions options = .ok pipeline) →
        ∃ pipeline, Pipeline.ofOptions (options.after settings) = .ok pipeline) ∧
    (∀ (options : Options) (pass : MarkdownPass), pass ∈ options.passes.markdown →
      (enableMarkdown pass).apply options = options) ∧
    (∀ (options : Options) (pass : HtmlPass), pass ∈ options.passes.html →
      (enableHtml pass).apply options = options) ∧
    ∀ (options : Options) (settings : List Setting), (∀ setting ∈ settings, setting.Switches) →
      options.passes.Nodup → (options.after settings).passes.Nodup := by
  refine ⟨fun options settings disable built => ?_, fun options pass listed => ?_,
    fun options pass listed => ?_, fun options settings switch nodup => ?_⟩
  · rw [Options.ofOptions_isOk_iff] at built ⊢
    exact keeps_after (P := Options.IsValid)
      (fun setting member _ => (disable setting member).isValid_apply) built
  · rw [apply, appendNew_of_mem listed]
  · rw [apply, appendNew_of_mem listed]
  · exact keeps_after (P := fun options => options.passes.Nodup)
      (fun setting member _ => (switch setting member).nodup_apply) nodup

/-- Switches off smart punctuation and the table of contents. -/
def plainSettings : List Setting :=
  [.disableMarkdown .typography, .disableHtml .toc]

/-- The default options make a pipeline without two of their passes too, they list smart punctuation
already, and none of their passes comes to be listed twice. -/
theorem ofOptions_after_switches_plainSettings :
    ((∀ setting ∈ plainSettings, setting.Disables) ∧
      (∃ pipeline, Pipeline.ofOptions {} = .ok pipeline) ∧
        ∃ pipeline, Pipeline.ofOptions (Options.after plainSettings {}) = .ok pipeline) ∧
    (MarkdownPass.typography ∈ ({} : Options).passes.markdown ∧
      (enableMarkdown .typography).apply {} = {}) ∧
    (HtmlPass.toc ∈ ({} : Options).passes.html ∧ (enableHtml .toc).apply {} = {}) ∧
    (∀ setting ∈ plainSettings, setting.Switches) ∧ ({} : Options).passes.Nodup ∧
      (Options.after plainSettings {}).passes.Nodup := by
  obtain ⟨builds, markdown, html, nodup⟩ := ofOptions_after_switches
  have disable : ∀ setting ∈ plainSettings, setting.Disables :=
    List.forall_mem_cons.2 ⟨.markdown _, List.forall_mem_singleton.2 (.html _)⟩
  have switch : ∀ setting ∈ plainSettings, setting.Switches :=
    fun setting member => .disable (disable setting member)
  have built : ∃ pipeline, Pipeline.ofOptions {} = .ok pipeline :=
    Options.ofOptions_isOk_iff.2 (by decide +kernel)
  have once : ({} : Options).passes.Nodup := ⟨by decide, by decide⟩
  have quotes : MarkdownPass.typography ∈ ({} : Options).passes.markdown := by decide
  have contents : HtmlPass.toc ∈ ({} : Options).passes.html := by decide
  exact ⟨⟨disable, built, builds _ _ disable built⟩, ⟨quotes, markdown _ _ quotes⟩,
    ⟨contents, html _ _ contents⟩, switch, once, nodup _ _ switch once⟩

end Setting

end Manuscript
