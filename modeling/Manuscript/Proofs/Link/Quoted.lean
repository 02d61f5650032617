import Manuscript.Proofs.Link.Keeping
import Manuscript.Proofs.Quotation.Failure
import Mathlib.Data.List.Count

/-!
# Addresses in quotations

What a quotation says about its source is taken from its paragraphs as visible text, and the
addresses that do not end before it are taken with it (`Quotation.taken`). All addresses in the rest
of a paragraph stay, though the paragraph is cut byte by byte (`keeps_cutList`).
-/

namespace Manuscript.Quotation

open BareLink (addresses addressesOf sitesAt Site Keeps)
open Text (byteLength splitAtByte?)

variable {url : Text}

/-! ## Cutting a paragraph -/

mutual

/-- The addresses of a node that do not end within the first `budget` bytes of its visible text.
Nothing below a piece of code is visible. -/
def beyond (budget : Nat) : Node → List Text
  | ⟨.text value, _, _, _⟩ =>
    ((sitesAt 0 value).filter fun site => budget < byteLength (value.take site.stop)).map Site.url
  | ⟨.inlineCode _, children, _, _⟩ => addressesOf children
  | ⟨.link _ _, _, _, _⟩ => []
  | ⟨_, children, _, _⟩ => beyondList budget children

/-- The addresses of siblings that do not end within the first `budget` bytes of their visible text.
-/
def beyondList (budget : Nat) : List Node → List Text
  | [] => []
  | node :: rest => beyond budget node ++ beyondList (budget - byteLength (visibleText node)) rest

end

/-- Some bytes of a text are more than those before its first character. -/
theorem byteLength_take_lt {value : Text} {size stop : Nat} (order : size < stop)
    (within : stop ≤ value.length) :
    byteLength (value.take size) < byteLength (value.take stop) := by
  induction value generalizing size stop with
  | nil =>
    rw [List.length_nil] at within
    omega
  | cons c rest ih =>
    have positive := c.utf8Size_pos
    cases stop with
    | zero => omega
    | succ stop =>
      rw [List.take_succ_cons, byteLength]
      cases size with
      | zero =>
        rw [List.take_zero, byteLength]
        omega
      | succ size =>
        rw [List.length_cons] at within
        have shorter := ih (Nat.lt_of_succ_lt_succ order) (Nat.le_of_succ_le_succ within)
        rw [List.take_succ_cons, byteLength]
        omega

/-- Within no bytes ends no address. -/
theorem keeps_beyond_zero (nodes : List Node) : Keeps url (beyondList 0 nodes) nodes [] := by
  have both : (∀ tree : Node, Keeps url (beyond 0 tree) [tree] []) ∧
      ∀ nodes, Keeps url (beyondList 0 nodes) nodes [] := by
    refine Node.induction ?_ (Keeps.refl []) ?_
    · intro kind children data span below
      cases kind with
      | text value =>
        have all : beyond 0 ⟨.text value, children, data, span⟩ = addresses value := by
          rw [beyond, List.filter_eq_self.2]
          · rfl
          · intro site member
            obtain ⟨_, nonempty, within⟩ := BareLink.site_bounds member
            rw [Nat.zero_add] at within
            have some := byteLength_take_lt (Nat.zero_lt_of_lt nonempty) within
            rw [decide_eq_true_eq]
            omega
        rw [Keeps, all, BareLink.addressesOf_text rfl]
        exact Nat.le_add_left _ _
      | link => exact Nat.zero_le _
      | inlineCode value =>
        rw [Keeps, BareLink.addressesOf_other rfl rfl]
        exact Nat.le_add_left _ _
      | _ =>
        rw [Keeps, BareLink.addressesOf_other rfl rfl]
        exact below
    · intro node rest own later
      rw [beyondList, Nat.zero_sub]
      exact own.append later
  exact both.2 nodes

/-- What a cut of a node keeps, when no less than `small` bytes are to be kept of it. -/
structure CutKeeps (url : Text) (small : Nat) (node : Node) (kept : Option Node) (left : Nat) :
    Prop where
  addresses : Keeps url (beyond small node) [node] kept.toList
  left : small - byteLength (visibleText node) ≤ left
  gone : kept = none → small ≤ byteLength (visibleText node)

/-- What a cut of siblings keeps, when no less than `small` bytes are to be kept of them. -/
structure CutKeepsList (url : Text) (small : Nat) (nodes kept : List Node) (left : Nat) :
    Prop where
  addresses : Keeps url (beyondList small nodes) nodes kept
  left : small - byteLength (visibleTextList nodes) ≤ left

/-- The addresses that end within the first bytes of a text are in these bytes. -/
theorem count_addresses_splitAtByte {value front back : Text} {budget small : Nat}
    (cut : splitAtByte? budget value = some (front, back)) (within : small ≤ budget) :
    (addresses value).count url ≤ (addresses front).count url +
      (((sitesAt 0 value).filter fun site => small < byteLength (value.take site.stop)).map
        Site.url).count url := by
  obtain ⟨whole, size⟩ := Text.splitAtByte?_eq_some_iff.1 cut
  have taken : value.take front.length = front := by rw [whole, List.take_left]
  have split := BareLink.count_addresses_take url value front.length
  have fewer := BareLink.count_filter_le url (sitesAt 0 value)
    (fun site => front.length < site.stop) (fun site => small < byteLength (value.take site.stop))
    (fun _ => false) fun site member long => by
      obtain ⟨_, _, inside⟩ := BareLink.site_bounds member
      rw [Nat.zero_add] at inside
      have longer := byteLength_take_lt (of_decide_eq_true long) inside
      rw [taken] at longer
      exact .inl (decide_eq_true (by omega))
  rw [taken] at split
  rw [List.filter_false, List.map_nil, List.count_nil] at fewer
  omega

section Cut

variable {children : List Node} {data : Annotations} {span : Option Span}
  {budget small left : Nat}

/-- A text that is cut keeps the addresses that end before the cut. -/
theorem cutKeeps_text {value : Text} {kept : Option Node} (within : small ≤ budget)
    (cut : cutNode budget ⟨.text value, children, data, span⟩ = some (kept, left)) :
    CutKeeps url small ⟨.text value, children, data, span⟩ kept left := by
  rw [cutNode] at cut
  split at cut
  · cases cut
    exact ⟨(Keeps.refl _).widen _, Nat.sub_le_sub_right within _, fun gone => by cases gone⟩
  · rename_i long
    obtain ⟨parts, split, same⟩ := Option.map_eq_some_iff.1 cut
    obtain ⟨front, back⟩ := parts
    cases same
    refine ⟨.reword rfl rfl (count_addresses_splitAtByte split within), ?_,
      fun gone => by cases gone⟩
    rw [visibleText]
    omega

/-- Code is kept as a whole or not at all. -/
theorem cutKeeps_inlineCode {value : Text} {kept : Option Node} (within : small ≤ budget)
    (cut : cutNode budget ⟨.inlineCode value, children, data, span⟩ = some (kept, left)) :
    CutKeeps url small ⟨.inlineCode value, children, data, span⟩ kept left := by
  rw [cutNode] at cut
  split at cut
  · cases cut
    exact ⟨(Keeps.refl _).widen _, Nat.sub_le_sub_right within _, fun gone => by cases gone⟩
  · rename_i long
    cases cut
    refine ⟨?_, Nat.le_trans (Nat.sub_le _ _) within, fun _ => ?_⟩
    · rw [Keeps, BareLink.addressesOf_other rfl rfl]
      exact Nat.le_add_left _ _
    · rw [visibleText]
      omega

/-- Siblings that are cut keep what the first of them and the others keep. -/
theorem cutKeepsList_cons {node : Node} {rest kept : List Node} (within : small ≤ budget)
    (own : ∀ kept left, cutNode budget node = some (kept, left) →
      CutKeeps url small node kept left)
    (later : ∀ budget small kept left, small ≤ budget → cutList budget rest = some (kept, left) →
      CutKeepsList url small rest kept left)
    (cut : cutList budget (node :: rest) = some (kept, left)) :
    CutKeepsList url small (node :: rest) kept left := by
  have size : byteLength (visibleTextList (node :: rest)) =
      byteLength (visibleText node) + byteLength (visibleTextList rest) := by
    rw [visibleTextList, Text.byteLength_append]
  rw [cutList] at cut
  split at cut
  · rename_i empty
    cases cut
    cases Nat.le_zero.1 (empty ▸ within)
    exact ⟨keeps_beyond_zero _, by omega⟩
  · split at cut
    · cases cut
    · rename_i first
      cases cut
      obtain ⟨keeps, leaves, gone⟩ := own none left first
      have none : small - byteLength (visibleText node) = 0 := Nat.sub_eq_zero_of_le (gone rfl)
      refine ⟨?_, by omega⟩
      rw [beyondList, none]
      exact keeps.append (keeps_beyond_zero rest)
    · rename_i first left' first
      obtain ⟨parts, others, same⟩ := Option.map_eq_some_iff.1 cut
      obtain ⟨rest', left''⟩ := parts
      cases same
      obtain ⟨keeps, leaves, _⟩ := own _ left' first
      obtain ⟨keepsRest, leavesRest⟩ := later left' _ rest' left leaves others
      exact ⟨keeps.append keepsRest, by omega⟩

end Cut

/-- Cutting siblings keeps the addresses that end within the bytes to be kept. -/
theorem keeps_cutList {budget left : Nat} {nodes kept : List Node}
    (cut : cutList budget nodes = some (kept, left)) :
    Keeps url (beyondList budget nodes) nodes kept := by
  -- The bytes to be kept may be fewer than the budget, which code that is left out does not use.
  have both : (∀ node : Node, ∀ budget small kept left, small ≤ budget →
      cutNode budget node = some (kept, left) → CutKeeps url small node kept left) ∧
      ∀ nodes, ∀ budget small kept left, small ≤ budget →
        cutList budget nodes = some (kept, left) → CutKeepsList url small nodes kept left := by
    refine Node.induction ?_ ?_ ?_
    · intro kind children data span below budget small kept left within cut
      cases kind with
      | text value => exact cutKeeps_text within cut
      | inlineCode value => exact cutKeeps_inlineCode within cut
      | link address title =>
        obtain ⟨parts, inside, same⟩ := Option.map_eq_some_iff.1 cut
        obtain ⟨children', left'⟩ := parts
        cases same
        obtain ⟨_, leaves⟩ := below budget small children' left within inside
        exact ⟨.of_kind rfl (.inr rfl), leaves, fun gone => by cases gone⟩
      | _ =>
        obtain ⟨parts, inside, same⟩ := Option.map_eq_some_iff.1 cut
        obtain ⟨children', left'⟩ := parts
        cases same
        obtain ⟨keeps, leaves⟩ := below budget small children' left within inside
        exact ⟨.inside rfl keeps (by rintro (⟨⟨⟩⟩ | ⟨⟨⟩⟩)), leaves, fun gone => by cases gone⟩
    · intro budget small kept left within cut
      rw [cutList] at cut
      cases cut
      exact ⟨.refl [], Nat.le_trans (Nat.sub_le _ _) within⟩
    · intro node rest own later budget small kept left within cut
      exact cutKeepsList_cons within (fun kept left => own budget small kept left within) later cut
  exact (both.2 nodes budget budget kept left (Nat.le_refl _) cut).addresses

/-! ## Taking the metadata -/

/-- The addresses that do not end before the metadata of a paragraph. -/
def inMetadata (options : BlockquoteOptions) : List Node → Metadata → List Text
  | [], _ => []
  | node :: rest, found =>
    match found.start? options node with
    | none => inMetadata options rest found
    | some position =>
      beyondList (byteLength (contentText position node)) node.children ++
        inMetadata options rest (found.addLines options (visibleText node))

/-- What is kept of a paragraph has the addresses that end before its metadata. -/
theorem keeps_keepContent {options : BlockquoteOptions} {found : Metadata} {position : Nat}
    {node : Node} {kept : List Node} (start : found.start? options node = some position)
    (cut : keepContent position node = some kept) :
    Keeps url (beyondList (byteLength (contentText position node)) node.children) [node] kept := by
  have isParagraph : node.isParagraph = true := by
    rw [Metadata.start?] at start
    split at start
    · rename_i stands
      exact (Bool.and_eq_true_iff.1 stands).1
    · cases start
  rw [keepContent] at cut
  split at cut
  · rename_i empty
    cases cut
    rw [List.isEmpty_iff.1 empty, byteLength, Keeps, BareLink.addressesOf_paragraph isParagraph]
    exact keeps_beyond_zero node.children
  · obtain ⟨parts, within, same⟩ := Option.map_eq_some_iff.1 cut
    obtain ⟨children, left⟩ := parts
    cases same
    have other : ({ node with children } : Node).isParagraph = true := isParagraph
    rw [Keeps, BareLink.addressesOf_paragraph isParagraph, BareLink.addressesOf_paragraph other]
    exact keeps_cutList within

/-- Taking the metadata from siblings takes the addresses that do not end before it. -/
theorem keeps_takeMetadata {options : BlockquoteOptions} {nodes kept : List Node}
    {found later : Metadata} (taken : takeMetadata options nodes found = some (kept, later)) :
    Keeps url (inMetadata options nodes found) nodes kept := by
  induction nodes generalizing found kept with
  | nil =>
    rw [takeMetadata] at taken
    cases taken
    exact .refl []
  | cons node rest ih =>
    rw [takeMetadata_cons] at taken
    obtain ⟨own, first, taken⟩ := Option.bind_eq_some_iff.1 taken
    obtain ⟨others, after, same⟩ := Option.map_eq_some_iff.1 taken
    cases same
    rw [inMetadata]
    rw [takeFrom] at first
    split
    · rename_i start
      rw [start] at first
      cases first
      exact (Keeps.refl [node]).append (ih after)
    · rename_i position start
      rw [start] at first
      obtain ⟨content, cut, same⟩ := Option.map_eq_some_iff.1 first
      cases same
      exact (keeps_keepContent start cut).append (ih after)

/-! ## The pass -/

/-- The nodes that show what a quotation says about its source. -/
def shown (options : BlockquoteOptions) (attribution caption : Option Text) : List Node :=
  ((attribution.map splitAddress).toList.map fun split =>
    attributionNode options caption.isSome split.1) ++ caption.toList.map (captionNode options)

/-- The addresses that go with the metadata of a quotation and are not shown again. -/
def inQuote (options : BlockquoteOptions) (quote : Node) : List Text :=
  match takeMetadata options quote.children.reverse {} with
  | none => []
  | some (_, found) =>
    let attribution := found.attribution.bind Text.nonempty?
    let caption := found.caption.bind Text.nonempty?
    if attribution.isNone && caption.isNone then []
    else (inMetadata options quote.children.reverse {}).diff
      (addressesOf (shown options attribution caption))

/-- A quotation has the addresses of its children. -/
theorem addressesOf_quote {quote : Node} (isQuote : quote.kind = .blockquote) :
    addressesOf [quote] = addressesOf quote.children := by
  obtain ⟨kind, children, data, span⟩ := quote
  cases isQuote
  exact BareLink.addressesOf_other rfl rfl

/-- A figure has the addresses of its quotation and those that are shown beside it. -/
theorem count_figure (url : Text) (options : BlockquoteOptions) {quote : Node}
    (isQuote : quote.kind = .blockquote) (attribution caption : Option Text) :
    (addressesOf [figure options quote attribution caption]).count url =
      (addressesOf quote.children).count url +
        (addressesOf (shown options attribution caption)).count url := by
  have wrapped : ∀ (node : Node) (rest : List Node) (tagName : Text) (classes : List Text),
      addressesOf [Node.container tagName classes (node :: rest)] =
        addressesOf [node] ++ addressesOf rest := fun node rest _ _ =>
    (BareLink.addressesOf_other rfl rfl).trans (BareLink.addressesOf_cons node rest)
  have inside : ∀ data, addressesOf [{ quote with data }] = addressesOf quote.children :=
    fun _ => addressesOf_quote isQuote
  rw [figure]
  refine (congrArg (List.count url) (wrapped _ _ _ _)).trans ?_
  rw [List.count_append, inside]
  rfl

/-- Making a quotation a figure takes the addresses that go with its metadata and are not shown. -/
theorem keeps_transform {options : BlockquoteOptions} {quote other : Node}
    (isQuote : quote.kind = .blockquote) (made : transform options quote = some other) :
    Keeps url (inQuote options quote) [quote] [other] := by
  rw [transform] at made
  obtain ⟨parts, taken, made⟩ := Option.bind_eq_some_iff.1 made
  obtain ⟨kept, found⟩ := parts
  have content : Keeps url _ quote.children kept.reverse := (keeps_takeMetadata taken).reverse
  dsimp only at made
  rw [inQuote, taken]
  dsimp only
  split at made
  · rename_i nothing
    cases made
    rw [if_pos nothing]
    exact .refl _
  · rename_i something
    cases made
    have same : ∀ attribution caption, (addressesOf [figure options
        { quote with children := kept.reverse } attribution caption]).count url =
        (addressesOf kept.reverse).count url +
          (addressesOf (shown options attribution caption)).count url :=
      count_figure url options isQuote
    rw [if_neg something, Keeps, same, List.count_diff, addressesOf_quote isQuote]
    rw [Keeps] at content
    omega

mutual

/-- The addresses that go with the metadata of the quotations below a node. -/
def takenBelow (options : BlockquoteOptions) : Node → List Text
  | ⟨.text _, _, _, _⟩ => []
  | ⟨.link _ _, _, _, _⟩ => []
  | ⟨_, children, _, _⟩ => takenList options children

/-- The addresses that go with the metadata of the quotations among siblings and below them, inner
ones first. -/
def takenList (options : BlockquoteOptions) : List Node → List Text
  | [] => []
  | node :: rest =>
    takenBelow options node ++
      (if node.kind = .blockquote then
        ((transformBelow options node).map (inQuote options)).getD [] else []) ++
      takenList options rest

end

/-- Making the quotations among siblings figures takes the addresses that go with their metadata. -/
theorem keeps_transformList {options : BlockquoteOptions} {nodes others : List Node}
    (made : transformList options nodes = some others) :
    Keeps url (takenList options nodes) nodes others := by
  have both : (∀ node : Node, ∀ other, transformBelow options node = some other →
      Keeps url (takenBelow options node) [node] [other]) ∧
      ∀ nodes, ∀ others, transformList options nodes = some others →
        Keeps url (takenList options nodes) nodes others := by
    refine Node.induction ?_ ?_ ?_
    · intro kind children data span below other made
      rw [transformBelow] at made
      obtain ⟨children', inside, same⟩ := Option.map_eq_some_iff.1 made
      cases same
      cases kind with
      | text value => exact .of_kind rfl (.inl rfl)
      | link address title => exact .of_kind rfl (.inr rfl)
      | _ => exact .inside rfl (below _ inside) (by rintro (⟨⟨⟩⟩ | ⟨⟨⟩⟩))
    · intro others made
      rw [transformList] at made
      cases made
      exact .refl []
    · intro node rest own later others made
      rw [transformList] at made
      obtain ⟨inner, below, made⟩ := Option.bind_eq_some_iff.1 made
      have kind := kind_of_transformBelow below
      rw [takenList, below]
      split at made
      · rename_i isQuote
        obtain ⟨outer, quoted, made⟩ := Option.bind_eq_some_iff.1 made
        obtain ⟨rest', after, made⟩ := Option.bind_eq_some_iff.1 made
        cases made
        rw [if_pos (kind ▸ isQuote)]
        exact Keeps.cons ((own inner below).trans (keeps_transform isQuote quoted))
          (later rest' after)
      · rename_i noQuote
        obtain ⟨outer, same, made⟩ := Option.bind_eq_some_iff.1 made
        cases same
        obtain ⟨rest', after, made⟩ := Option.bind_eq_some_iff.1 made
        cases made
        rw [if_neg (kind ▸ noQuote), List.append_nil]
        exact Keeps.cons (own inner below) (later rest' after)
  exact both.2 nodes others made

/-- The addresses that go with the metadata of the quotations of a document. -/
def taken (options : BlockquoteOptions) (tree : Node) : List Text :=
  takenList options tree.children

/-- The pass over quotations takes the addresses that go with their metadata. -/
theorem keeps_transformBelow {options : BlockquoteOptions} {tree other : Node}
    (made : transformBelow options tree = some other) :
    Keeps url (taken options tree) tree.children other.children := by
  obtain ⟨kind, children, data, span⟩ := tree
  rw [transformBelow] at made
  obtain ⟨children', inside, same⟩ := Option.map_eq_some_iff.1 made
  cases same
  exact keeps_transformList inside

end Manuscript.Quotation
