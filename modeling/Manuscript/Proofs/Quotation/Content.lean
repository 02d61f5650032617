import Manuscript.Proofs.Quotation.Failure

/-!
# What a figure keeps of its quote

A paragraph with metadata is cut to the length of its content: the visible text before the first
line of metadata, without the blanks at its end. The cut leaves a prefix of the text that it is
counted on (`isCut_cutList`), so the paragraph keeps its content exactly when that text begins with
the content. The two differ when the content ends inside a piece of code, which happens when the
blanks that were dropped are the last characters of the code: the code does not fit then, and goes.
What takes its place, if anything, is whatever follows the node that the code is in, the metadata
included.
-/

namespace Manuscript

namespace Quotation

open Text

/-- What a cut leaves of a text: a prefix, as long as the budget and the text allow. -/
structure IsCut (budget : Nat) (text front : Text) : Prop where
  /-- Nothing is changed before the cut. -/
  within : front <+: text
  /-- The budget is used up unless the text is too short. -/
  size : byteLength front = min budget (byteLength text)

/-- What comes after a text adds to its length, unless it is nothing. -/
theorem eq_nil_of_byteLength_append {front back : Text}
    (bound : byteLength (front ++ back) ≤ byteLength front) : back = [] := by
  apply eq_nil_of_byteLength
  rw [byteLength_append] at bound
  omega

/-- Prefixes of one text that have the same length are the same. -/
theorem eq_of_prefix_of_byteLength {first second text : Text} (inFirst : first <+: text)
    (inSecond : second <+: text) (same : byteLength first = byteLength second) :
    first = second := by
  rcases List.prefix_or_prefix_of_prefix inFirst inSecond with ⟨rest, rfl⟩ | ⟨rest, rfl⟩
  · rw [eq_nil_of_byteLength_append (Nat.le_of_eq same.symm), List.append_nil]
  · rw [eq_nil_of_byteLength_append (Nat.le_of_eq same), List.append_nil]

namespace IsCut

variable {budget : Nat} {text front : Text}

/-- A text that is short enough is left as it is. -/
theorem whole (fits : byteLength text ≤ budget) : IsCut budget text text where
  within := List.prefix_refl text
  size := (Nat.min_eq_right fits).symm

/-- A text that is too long is split. -/
theorem of_splitAtByte? {back : Text} (split : splitAtByte? budget text = some (front, back)) :
    IsCut budget text front where
  within := by
    obtain ⟨rfl, _⟩ := splitAtByte?_eq_some_iff.1 split
    exact List.prefix_append front back
  size := by
    obtain ⟨rfl, rfl⟩ := splitAtByte?_eq_some_iff.1 split
    rw [byteLength_append]
    omega

/-- What is left of one text after another is cut on what is left of the budget. -/
theorem append {text' front' : Text} (first : IsCut budget text front)
    (second : IsCut (budget - byteLength text) text' front') :
    IsCut budget (text ++ text') (front ++ front') := by
  obtain ⟨within, size⟩ := first
  obtain ⟨within', size'⟩ := second
  constructor
  · by_cases fits : byteLength text ≤ budget
    · have all : front = text :=
        eq_of_prefix_of_byteLength within (List.prefix_refl text) (by omega)
      rw [all]
      exact (List.prefix_append_right_inj text).2 within'
    · have nothing : front' = [] := eq_nil_of_byteLength (by omega)
      rw [nothing, List.append_nil]
      exact within.trans (List.prefix_append text text')
  · rw [byteLength_append, byteLength_append]
    omega

/-- A cut that is as long as a part of the text leaves that part exactly when the text begins with
it. -/
theorem eq_iff {content : Text} (cut : IsCut (byteLength content) text front) :
    front = content ↔ content <+: text := by
  constructor
  · rintro rfl
    exact cut.within
  · intro begins
    have bound : byteLength content ≤ byteLength text := by
      obtain ⟨rest, rfl⟩ := begins
      rw [byteLength_append]
      omega
    exact eq_of_prefix_of_byteLength cut.within begins (by rw [cut.size]; omega)

/-- A cut never leaves more than the budget, not even blanks. -/
theorem eq_iff_blanks {content : Text} (cut : IsCut (byteLength content) text front) :
    (∃ blanks, isBlankText blanks = true ∧ front = content ++ blanks) ↔ front = content := by
  constructor
  · rintro ⟨blanks, -, rfl⟩
    have size := cut.size
    have bound : byteLength (content ++ blanks) ≤ byteLength content := by omega
    rw [eq_nil_of_byteLength_append bound, List.append_nil]
  · intro same
    exact ⟨[], rfl, by rw [same, List.append_nil]⟩

end IsCut

/-- What is kept of a node is a cut of its counted text. -/
structure NodeIsCut (node : Node) : Prop where
  /-- A node that goes has no counted text, and the budget is left. -/
  skips : ∀ budget left, cutNode budget node = some (none, left) →
    countedText? budget node = none ∧ left = budget
  /-- A node that stays keeps what the budget allows, and the rest of the budget is left. -/
  keeps : ∀ budget kept left, cutNode budget node = some (some kept, left) →
    ∃ text, countedText? budget node = some text ∧ left = budget - byteLength text ∧
      IsCut budget text (visibleText kept)

/-- What is kept of a list of nodes is a cut of their counted text. -/
def ListIsCut (nodes : List Node) : Prop :=
  ∀ budget kept left, cutList budget nodes = some (kept, left) →
    left = budget - byteLength (countedText budget nodes) ∧
      IsCut budget (countedText budget nodes) (visibleTextList kept)

/-- A text keeps what the budget allows. -/
theorem nodeIsCut_text (value : Text) (children : List Node) (data : Annotations)
    (span : Option Span) : NodeIsCut ⟨.text value, children, data, span⟩ where
  skips budget left cut := by
    rw [cutNode] at cut
    split at cut
    · cases cut
    · simp [Option.map_eq_some_iff] at cut
  keeps budget kept left cut := by
    rw [cutNode] at cut
    by_cases fits : byteLength value ≤ budget
    · rw [if_pos fits] at cut
      cases cut
      exact ⟨value, rfl, rfl, .whole fits⟩
    · rw [if_neg fits, Option.map_eq_some_iff] at cut
      obtain ⟨⟨front, back⟩, split, same⟩ := cut
      cases same
      exact ⟨value, rfl, by omega, .of_splitAtByte? split⟩

/-- A piece of code is kept if the budget allows it. -/
theorem nodeIsCut_inlineCode (value : Text) (children : List Node) (data : Annotations)
    (span : Option Span) : NodeIsCut ⟨.inlineCode value, children, data, span⟩ where
  skips budget left cut := by
    rw [cutNode] at cut
    rw [countedText?]
    split at cut
    · cases cut
    · rename_i long
      cases cut
      exact ⟨if_neg long, rfl⟩
  keeps budget kept left cut := by
    rw [cutNode] at cut
    rw [countedText?]
    split at cut
    · rename_i fits
      cases cut
      exact ⟨value, if_pos fits, rfl, .whole fits⟩
    · cases cut

/-- Any other node keeps what its children keep. -/
theorem nodeIsCut_of_children {kind : Kind} (children : List Node) (data : Annotations)
    (span : Option Span) (outer : isVisibleValue kind = false) (below : ListIsCut children) :
    NodeIsCut ⟨kind, children, data, span⟩ where
  skips budget left cut := by
    rw [cutNode_of_outer outer, Option.map_eq_some_iff] at cut
    obtain ⟨_, _, same⟩ := cut
    cases same
  keeps budget kept left cut := by
    rw [cutNode_of_outer outer, Option.map_eq_some_iff] at cut
    obtain ⟨⟨others, _⟩, inChildren, same⟩ := cut
    cases same
    obtain ⟨rest, isCut⟩ := below _ _ _ inChildren
    rw [visibleText_of_outer outer]
    exact ⟨_, countedText?_of_outer outer children data span budget, rest, isCut⟩

/-- What is kept of a list is what is kept of its first node and of the others. -/
theorem listIsCut_cons (node : Node) (rest : List Node) (head : NodeIsCut node)
    (tail : ListIsCut rest) : ListIsCut (node :: rest) := by
  intro budget kept left cut
  rw [cutList] at cut
  by_cases empty : budget = 0
  · rw [if_pos empty] at cut
    cases cut
    subst empty
    exact ⟨(Nat.zero_sub _).symm, List.nil_prefix, (Nat.zero_min _).symm⟩
  · rw [if_neg empty] at cut
    rw [countedText]
    cases cutFirst : cutNode budget node with
    | none =>
      rw [cutFirst] at cut
      cases cut
    | some result =>
      obtain ⟨first, leftFirst⟩ := result
      rw [cutFirst] at cut
      cases first with
      | none =>
        cases cut
        obtain ⟨counted, rfl⟩ := head.skips _ _ cutFirst
        rw [counted]
        exact ⟨rfl, .whole (Nat.zero_le _)⟩
      | some first =>
        dsimp only at cut
        rw [Option.map_eq_some_iff] at cut
        obtain ⟨⟨others, _⟩, cutOthers, same⟩ := cut
        cases same
        obtain ⟨text, counted, rfl, isFirst⟩ := head.keeps _ _ _ cutFirst
        obtain ⟨rfl, areOthers⟩ := tail _ _ _ cutOthers
        rw [counted]
        exact ⟨by rw [byteLength_append]; omega, isFirst.append areOthers⟩

/-- A cut keeps the first bytes of the text that it is counted on. -/
theorem isCut_cutList {budget left : Nat} {nodes kept : List Node}
    (cut : cutList budget nodes = some (kept, left)) :
    IsCut budget (countedText budget nodes) (visibleTextList kept) := by
  have all : ∀ nodes, ListIsCut nodes := by
    refine (cutInduction nodeIsCut_text nodeIsCut_inlineCode
      (fun _ children data span => nodeIsCut_of_children children data span) ?_
      listIsCut_cons).2
    intro budget kept left cut
    rw [cutList] at cut
    cases cut
    exact ⟨rfl, .whole (Nat.zero_le _)⟩
  exact (all nodes budget kept left cut).2

/-- Content that does not end inside a piece of code is counted. -/
theorem prefix_countedText {content others : Text} {nodes : List Node}
    (visible : visibleTextList nodes = content ++ others)
    (apart : ¬ EndsInCode (byteLength content) nodes) :
    content <+: countedText (byteLength content) nodes := by
  rcases agrees.2 nodes (byteLength content) with
    ends | same | ⟨common, restCounted, restVisible, counted, whole, bound⟩
  · exact absurd ends apart
  · rw [same, visible]
    exact List.prefix_append content others
  · rw [counted]
    refine List.IsPrefix.trans ?_ (List.prefix_append common restCounted)
    have inVisible : common <+: content ++ others := ⟨restVisible, by rw [← whole, visible]⟩
    rcases List.prefix_or_prefix_of_prefix (List.prefix_append content others) inVisible with
      shorter | ⟨rest, rfl⟩
    · exact shorter
    · have nothing : rest = [] := eq_nil_of_byteLength_append bound
      simp [nothing]

/-- How a paragraph that has been cut before its metadata keeps its content. -/
structure KeepsContent (content : Text) (before after : List Node) : Prop where
  /-- The visible text is the content exactly when the text that the cut is counted on begins with
  the content. -/
  exact_iff : visibleTextList after = content ↔ content <+: countedText (byteLength content) before
  /-- It is no different if blanks may stay at the end. -/
  blanks_iff : (∃ blanks, isBlankText blanks = true ∧ visibleTextList after = content ++ blanks) ↔
    content <+: countedText (byteLength content) before
  /-- So it is unless the content ends inside a piece of code. -/
  of_not_endsInCode : ¬ EndsInCode (byteLength content) before → visibleTextList after = content

/-- A paragraph cut to the length of its content keeps the content in this way. -/
theorem keepsContent_of_cutList {content others : Text} {before after : List Node} {left : Nat}
    (visible : visibleTextList before = content ++ others)
    (cut : cutList (byteLength content) before = some (after, left)) :
    KeepsContent content before after := by
  have isCut := isCut_cutList cut
  constructor
  · exact isCut.eq_iff
  · exact isCut.eq_iff_blanks.trans isCut.eq_iff
  · intro apart
    exact isCut.eq_iff.2 (prefix_countedText visible apart)

/-- What has been found when a node has been looked at too. -/
def Metadata.after (options : BlockquoteOptions) (node : Node) (found : Metadata) : Metadata :=
  if (found.start? options node).isSome then found.addLines options (visibleText node) else found

/-- What is found in a list of nodes, the last one first. -/
def foundIn (options : BlockquoteOptions) (nodes : List Node) : Metadata :=
  nodes.foldr (Metadata.after options) {}

/-- `Body options children body`: what a quote with these children has left of them when it is a
figure. -/
inductive Body (options : BlockquoteOptions) : List Node → List Node → Prop
  /-- Nothing is left of nothing. -/
  | nil : Body options [] []
  /-- A child without metadata stays as it is. -/
  | other {child : Node} {rest body : List Node}
      (without : (foundIn options rest).start? options child = none)
      (later : Body options rest body) : Body options (child :: rest) (child :: body)
  /-- A paragraph without content before its metadata goes. -/
  | gone {child : Node} {rest body : List Node} {position : Nat}
      (start : (foundIn options rest).start? options child = some position)
      (empty : contentText position child = []) (later : Body options rest body) :
      Body options (child :: rest) body
  /-- Any other paragraph with metadata is cut. -/
  | cut {child : Node} {rest body after : List Node} {position : Nat}
      (start : (foundIn options rest).start? options child = some position)
      (content : contentText position child ≠ [])
      (keeps : KeepsContent (contentText position child) child.children after)
      (later : Body options rest body) :
      Body options (child :: rest) ({ child with children := after } :: body)

/-- What is kept of one child adds to what is kept of those after it. -/
theorem Body.cons {options : BlockquoteOptions} {child : Node} {rest body kept : List Node}
    {found : Metadata} (later : Body options rest body)
    (taken : takeFrom options (foundIn options rest) child = some (kept, found)) :
    Body options (child :: rest) (kept.reverse ++ body) ∧
      found = foundIn options (child :: rest) := by
  rw [foundIn, List.foldr_cons, ← foundIn, Metadata.after]
  rw [takeFrom] at taken
  cases start : (foundIn options rest).start? options child with
  | none =>
    rw [start] at taken
    cases taken
    exact ⟨.other start later, rfl⟩
  | some position =>
    rw [start] at taken
    dsimp only at taken
    rw [Option.map_eq_some_iff] at taken
    obtain ⟨_, keep, same⟩ := taken
    cases same
    refine ⟨?_, rfl⟩
    rw [keepContent] at keep
    by_cases empty : contentText position child = []
    · rw [if_pos (by rw [empty]; rfl)] at keep
      cases keep
      exact .gone start empty later
    · rw [if_neg (by rwa [List.isEmpty_iff]), Option.map_eq_some_iff] at keep
      obtain ⟨⟨after, left⟩, cut, same⟩ := keep
      cases same
      obtain ⟨others, visible⟩ := visibleTextList_eq_content (kind_of_start? start) position
      exact .cut start empty (keepsContent_of_cutList visible cut) later

/-- The metadata is taken from one list after the other. -/
theorem takeMetadata_append (options : BlockquoteOptions) (front back : List Node)
    (found : Metadata) :
    takeMetadata options (front ++ back) found =
      (takeMetadata options front found).bind fun (kept, found) =>
        (takeMetadata options back found).map fun (rest, found) => (kept ++ rest, found) := by
  induction front generalizing found with
  | nil => simp [takeMetadata]
  | cons node rest ih =>
    rw [List.cons_append, takeMetadata_cons, takeMetadata_cons]
    cases takeFrom options found node with
    | none => rfl
    | some result =>
      obtain ⟨kept, next⟩ := result
      simp only [Option.bind_some, ih]
      cases takeMetadata options rest next with
      | none => rfl
      | some result => simp [Option.map_map, Function.comp_def]

/-- What is kept of the children of a quote is its body. -/
theorem body_of_takeMetadata {options : BlockquoteOptions} {children kept : List Node}
    {found : Metadata} (taken : takeMetadata options children.reverse {} = some (kept, found)) :
    Body options children kept.reverse ∧ found = foundIn options children := by
  induction children generalizing kept found with
  | nil =>
    cases taken
    exact ⟨.nil, rfl⟩
  | cons child rest ih =>
    rw [List.reverse_cons, takeMetadata_append, Option.bind_eq_some_iff] at taken
    obtain ⟨⟨later, foundLater⟩, inRest, inChild⟩ := taken
    obtain ⟨body, rfl⟩ := ih inRest
    rw [Option.map_eq_some_iff, takeMetadata_cons] at inChild
    obtain ⟨⟨own, _⟩, inFirst, same⟩ := inChild
    cases same
    rw [Option.bind_eq_some_iff] at inFirst
    obtain ⟨⟨first, next⟩, fromChild, nothing⟩ := inFirst
    simp only [takeMetadata, Option.map_some, List.append_nil, Option.some.injEq] at nothing
    cases nothing
    rw [List.reverse_append]
    exact body.cons fromChild

/-- A quote becomes a figure when an attribution or a caption that is not blank is found in its
children. The figure has the quote in it with what the metadata leaves of each child. -/
theorem body_of_transform {options : BlockquoteOptions} {quote result : Node}
    (made : transform options quote = some result) :
    ∃ attribution caption,
      attribution = (foundIn options quote.children).attribution.bind nonempty? ∧
      caption = (foundIn options quote.children).caption.bind nonempty? ∧
      if attribution = none ∧ caption = none then result = quote
      else ∃ body, Body options quote.children body ∧
        result = figure options { quote with children := body } attribution caption := by
  rw [transform, Option.bind_eq_bind, Option.bind_eq_some_iff] at made
  obtain ⟨⟨kept, found⟩, taken, same⟩ := made
  obtain ⟨body, rfl⟩ := body_of_takeMetadata taken
  refine ⟨_, _, rfl, rfl, ?_⟩
  dsimp only at same
  by_cases nothing : (foundIn options quote.children).attribution.bind nonempty? = none ∧
      (foundIn options quote.children).caption.bind nonempty? = none
  · rw [if_pos nothing]
    rw [nothing.1, nothing.2] at same
    cases same
    rfl
  · rw [if_neg nothing]
    rw [if_neg (by simpa using nothing)] at same
    cases same
    exact ⟨kept.reverse, body, rfl⟩

/-- A paragraph with an attribution on its last line. -/
def attributedBy (name : Text) (content : List Node) : Node :=
  Node.paragraph (content ++ [Node.text ("\n— ".toList ++ name)])

/-- A quotation that ends with an attribution. -/
def quoteBy (name : Text) (content : List Node) : Node :=
  ⟨.blockquote, [attributedBy name content], {}, none⟩

/-- A piece of code. -/
def codeOf (value : String) : Node :=
  ⟨.inlineCode value.toList, [], {}, none⟩

/-- What a quotation with code at the end of its content keeps when the code has no blank at its
end. -/
theorem body_of_transform_quoteBy :
    ∃ result, transform {} (quoteBy ['N'] [Node.text ['x', ' '], codeOf "ab"]) = some result ∧
      ∃ body, Body {} [attributedBy ['N'] [Node.text ['x', ' '], codeOf "ab"]] body ∧
        result = figure {} ⟨.blockquote, body, {}, none⟩ (some ['N']) none := by
  refine ⟨_, rfl, ?_⟩
  obtain ⟨_, _, rfl, rfl, made⟩ := @body_of_transform {}
    (quoteBy ['N'] [Node.text ['x', ' '], codeOf "ab"]) _ rfl
  exact made

/-- A blank at the end of the code is no part of the content, so that the code does not fit and is
lost. -/
theorem codeWithBlank_is_lost :
    (Metadata.start? {} {} (attributedBy ['N'] [Node.text ['x', ' '], codeOf "ab "])).map
        (contentText · (attributedBy ['N'] [Node.text ['x', ' '], codeOf "ab "])) =
      some "x ab".toList ∧
    ∃ after, transform {} (quoteBy ['N'] [Node.text ['x', ' '], codeOf "ab "]) =
        some (figure {} ⟨.blockquote, [Node.paragraph after], {}, none⟩ (some ['N']) none) ∧
      ∀ blanks, visibleTextList after ≠ "x ab".toList ++ blanks := by
  refine ⟨rfl, [Node.text ['x', ' ']], rfl, ?_⟩
  intro blanks same
  cases same

end Quotation

end Manuscript
