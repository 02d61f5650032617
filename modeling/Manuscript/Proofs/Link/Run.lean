import Manuscript.Proofs.Link.Abbreviated
import Manuscript.Proofs.Link.Aligned
import Manuscript.Proofs.Link.Attributed
import Manuscript.Proofs.Link.Later
import Manuscript.Proofs.Link.Quoted
import Manuscript.Proofs.Pipeline.Failure
import Mathlib.Data.List.Count
import Mathlib.Data.List.Perm.Subperm

/-!
# What becomes of an address

The pass over bare links is the seventh of the Markdown passes. Those before it take some words of
the prose for something else, and with them the addresses that are `taken`. Every other address of
the document becomes a link, and the passes after it keep the link (`addresses_become_links`).
-/

namespace Manuscript.Pipeline

open BareLink (addresses addressesOf Keeps Link linksNode linksList noLinks madeLinks linkTexts
  afterLinks BecomeAll Unaltered)
open Node (openTextList)
open Quotation (CannotBeCut transformBelow)

/-- A document with its abbreviations marked. -/
def marked (options : Options) (tree : Node) : Node :=
  Abbreviation.markDocument options.abbreviations.expandFirst tree

/-- A marked document with its aligned blocks in wrappers. -/
def aligned (options : Options) (source : Text) (tree : Node) : Node :=
  Alignment.alignDocument options.align source (marked options tree)

/-- An aligned document with its attribute blocks attached. -/
def attached (options : Options) (source : Text) (tree : Node) : Node :=
  AttributeBlock.attachDocument options.allowDangerousHtml source (aligned options source tree)

/-- A document as the pass over bare links finds it, once its quotations are figures. -/
def prepared (quoted : Node) : Node :=
  Shortcode.replaceTexts (LineBreak.breakLines quoted)

/-- The last tree of a run is that of a run of the passes after the first on what it makes. -/
theorem map_lastTree_cons {options : Options} {source : Text} {tree next : Node}
    {pass : MarkdownPass} (run : pass.run options source tree = some next)
    (passes : List MarkdownPass) :
    (runMarkdown options source (pass :: passes) tree).map (lastTree tree) =
      (runMarkdown options source passes next).map (lastTree next) := by
  rw [runMarkdown_cons_of_run run, Option.map_map]
  congr 1
  funext stages
  exact lastTree_cons tree pass next stages

/-- What the passes after the one over bare links make of a document. -/
theorem map_lastTree_afterLinks (options : Options) (source : Text) (tree : Node) :
    (runMarkdown options source (MarkdownPass.all.drop 7) tree).map (lastTree tree) =
      some (afterLinks options tree) :=
  ((((map_lastTree_cons rfl _).trans (map_lastTree_cons rfl _)).trans
    (map_lastTree_cons rfl _)).trans (map_lastTree_cons rfl _)).trans (map_lastTree_cons rfl _)

/-- A run of the passes before the one over bare links and of others is a run of the others on the
document that is prepared, if the pass over quotations does not fail. -/
theorem map_lastTree_prepared (options : Options) (source : Text) (tree : Node)
    (later : List MarkdownPass) :
    (runMarkdown options source (MarkdownPass.all.take 6 ++ later) tree).map (lastTree tree) =
      (transformBelow options.blockquote (attached options source tree)).bind fun quoted =>
        (runMarkdown options source later (prepared quoted)).map (lastTree (prepared quoted)) := by
  have before : (runMarkdown options source (MarkdownPass.all.take 6 ++ later) tree).map
      (lastTree tree) = (runMarkdown options source ((MarkdownPass.all.take 6).drop 3 ++ later)
        (attached options source tree)).map (lastTree (attached options source tree)) :=
    ((map_lastTree_cons rfl _).trans (map_lastTree_cons rfl _)).trans (map_lastTree_cons rfl _)
  rw [before]
  cases made : transformBelow options.blockquote (attached options source tree) with
  | none =>
    have fails :
        MarkdownPass.run options source (attached options source tree) .blockquote = none := made
    rw [Option.bind_none, Option.map_eq_none_iff, runMarkdown_eq_none_iff]
    exact ⟨[], .blockquote, _, [], rfl, rfl, fails⟩
  | some quoted =>
    have quotes : MarkdownPass.run options source (attached options source tree) .blockquote =
        some quoted := made
    exact ((map_lastTree_cons quotes _).trans (map_lastTree_cons rfl _)).trans
      (map_lastTree_cons rfl _)

/-- The passes before the one over bare links prepare a document, if the pass over quotations does
not fail. -/
theorem map_lastTree_before (options : Options) (source : Text) (tree : Node) :
    (runMarkdown options source (MarkdownPass.all.take 6) tree).map (lastTree tree) =
      (transformBelow options.blockquote (attached options source tree)).map prepared := by
  refine (map_lastTree_prepared options source tree []).trans ?_
  rw [Option.map_eq_bind]
  rfl

/-- What all Markdown passes make of a document, if the pass over quotations does not fail. -/
theorem map_lastTree_all (options : Options) (source : Text) (tree : Node) :
    (runMarkdown options source MarkdownPass.all tree).map (lastTree tree) =
      (transformBelow options.blockquote (attached options source tree)).map fun quoted =>
        afterLinks options (linkTexts (prepared quoted)) := by
  refine (map_lastTree_prepared options source tree (MarkdownPass.all.drop 6)).trans ?_
  rw [Option.map_eq_bind]
  refine congrArg (Option.bind _) (funext fun quoted => ?_)
  exact (map_lastTree_cons rfl _).trans (map_lastTree_afterLinks options source _)

/-- The addresses that a pass before the one over bare links takes. -/
def taken (options : Options) (source : Text) (tree : Node) : List Text :=
  Abbreviation.taken tree ++ (Alignment.taken (marked options tree) ++
    (AttributeBlock.taken options.allowDangerousHtml source (aligned options source tree) ++
      (Quotation.taken options.blockquote (attached options source tree) ++
        ((transformBelow options.blockquote (attached options source tree)).map fun quoted =>
          Shortcode.taken (LineBreak.breakLines quoted)).getD [])))

/-- The passes before the one over bare links keep every address that is not taken. -/
theorem keeps_prepared {options : Options} {source : Text} {tree quoted : Node} (url : Text)
    (made : transformBelow options.blockquote (attached options source tree) = some quoted) :
    Keeps url (taken options source tree) tree.children (prepared quoted).children := by
  rw [taken, made]
  have marks : Keeps url _ tree.children (marked options tree).children :=
    Abbreviation.keeps_markDocument options.abbreviations.expandFirst tree
  have aligns : Keeps url _ (marked options tree).children (aligned options source tree).children :=
    Alignment.keeps_alignDocument options.align source (marked options tree)
  have attaches : Keeps url _ (aligned options source tree).children
      (attached options source tree).children :=
    AttributeBlock.keeps_attachDocument options.allowDangerousHtml source _
  have prepares : Keeps url _ quoted.children (prepared quoted).children :=
    (LineBreak.keeps_breakLines quoted).trans (Shortcode.keeps_replaceTexts _)
  exact marks.trans (aligns.trans (attaches.trans
    ((Quotation.keeps_transformBelow made).trans prepares)))

/-- The link that is made for an address. -/
def linkTo (url : Text) : Link :=
  ⟨url, some url⟩

/-- The links of siblings whose texts stand for links are those for their addresses, and those that
they have of their own. -/
theorem linksList_madeLinks_perm (nodes : List Node) :
    (linksList madeLinks nodes).Perm
      ((addressesOf nodes).map linkTo ++ linksList noLinks nodes) := by
  have both : (∀ tree : Node, (linksNode madeLinks tree).Perm
      ((tree.openTexts.flatMap addresses).map linkTo ++ linksNode noLinks tree)) ∧
      ∀ nodes, (linksList madeLinks nodes).Perm
        ((addressesOf nodes).map linkTo ++ linksList noLinks nodes) := by
    refine Node.induction ?_ (List.Perm.refl _) ?_
    · intro kind children data span below
      cases kind with
      | text value =>
        rw [Node.openTexts_of_kind rfl, List.flatMap_singleton]
        exact List.Perm.of_eq (List.append_nil _).symm
      | link address title => exact List.Perm.refl _
      | _ => exact below
    · intro node rest own later
      rw [BareLink.addressesOf, Node.openTextList_cons, List.flatMap_append, List.map_append,
        BareLink.linksList_cons, BareLink.linksList_cons, List.append_assoc]
      refine (own.append later).trans ?_
      rw [List.append_assoc]
      exact (List.perm_append_comm_assoc _ _ _).append_left _
  exact both.2 nodes

/-- The Markdown passes, in their default order, fail on a document only when a quotation cannot be
cut. When they do not, every address of its prose that no pass before the one over bare links takes
is still in the prose when that pass comes, which makes a link for each address and keeps the links
that are there. The address of a link stays in the end, and so does its text unless a later pass
finds something in it. -/
theorem addresses_become_links (options : Options) (source : Text) (tree : Node) :
    (runMarkdown options source MarkdownPass.all tree = none ↔
      ∃ quote ∈ (attached options source tree).descendants,
        CannotBeCut options.blockquote quote) ∧
    ∀ stages, runMarkdown options source MarkdownPass.all tree = some stages →
      ∃ before links,
        (runMarkdown options source (MarkdownPass.all.take 6) tree).map (lastTree tree) =
          some before ∧
        ((addressesOf tree.children).diff (taken options source tree)).Subperm
          (addressesOf before.children) ∧
        links.Perm ((addressesOf before.children).map linkTo ++
          linksList noLinks before.children) ∧
        BecomeAll (Unaltered options) links
          (linksList noLinks (lastTree tree stages).children) := by
  have run := map_lastTree_all options source tree
  constructor
  · rw [← (Quotation.transform_fails_iff options.blockquote).1, ← Option.map_eq_none_iff, run,
      Option.map_eq_none_iff]
  · intro stages ran
    rw [ran, Option.map_some] at run
    obtain ⟨quoted, made, last⟩ := Option.map_eq_some_iff.1 run.symm
    refine ⟨prepared quoted, linksList noLinks (linkTexts (prepared quoted)).children, ?_, ?_, ?_,
      ?_⟩
    · rw [map_lastTree_before, made, Option.map_some]
    · refine List.subperm_ext_iff.2 fun url _ => ?_
      have kept := keeps_prepared url made
      rw [List.count_diff]
      rw [Keeps] at kept
      omega
    · have linked : linksList noLinks (linkTexts (prepared quoted)).children =
          linksList madeLinks (prepared quoted).children := by
        obtain ⟨kind, children, data, span⟩ := prepared quoted
        exact BareLink.links_linkTexts.2 children
      rw [linked]
      exact linksList_madeLinks_perm _
    · rw [← last]
      exact BareLink.becomes_afterLinks options _

/-- A sentence with an address in it. -/
def sentence : Text :=
  "See https://a.test/b, please.".toList

/-- The address in the sentence is not taken, and it becomes a link. -/
theorem address_of_sentence_becomes_link :
    ∃ stages links,
      runMarkdown {} sentence MarkdownPass.all (Markdown.read sentence) = some stages ∧
      linkTo "https://a.test/b".toList ∈ links ∧
      BecomeAll (Unaltered {}) links
        (linksList noLinks (lastTree (Markdown.read sentence) stages).children) := by
  have runs :
      (runMarkdown {} sentence MarkdownPass.all (Markdown.read sentence)).isSome = true := by
    decide +kernel
  have kept : (addressesOf (Markdown.read sentence).children).diff
      (taken {} sentence (Markdown.read sentence)) = ["https://a.test/b".toList] := by
    decide +kernel
  obtain ⟨stages, ran⟩ := Option.isSome_iff_exists.1 runs
  obtain ⟨before, links, _, stays, made, become⟩ :=
    (addresses_become_links {} sentence (Markdown.read sentence)).2 stages ran
  rw [kept] at stays
  have inProse := stays.subset (List.mem_singleton_self _)
  exact ⟨stages, links, ran,
    made.mem_iff.2 (List.mem_append_left _ (List.mem_map_of_mem inProse)), become⟩

/-- A quotation with an address in its attribution. -/
def attributedAddress : Text :=
  "> a\n> — https://a.test B".toList

/-- The address is the source of the quotation in the end, and no link. -/
theorem attributedAddress_is_no_link :
    addressesOf (Markdown.read attributedAddress).children = ["https://a.test".toList] ∧
      (runMarkdown {} attributedAddress MarkdownPass.all (Markdown.read attributedAddress)).map
        (fun stages => linksList noLinks
          (lastTree (Markdown.read attributedAddress) stages).children) = some [] := by
  decide +kernel

end Manuscript.Pipeline
