import Manuscript.Proofs.Link.Keeping
import Manuscript.Proofs.Text.Ends
import Manuscript.Prose.AttributeBlock

/-!
# Addresses in attribute blocks

A block that is attached goes with the addresses that begin in it: at the start of the text after a
node that takes it, at the end of a heading, or in the paragraph after a heading
(`AttributeBlock.taken`). Every other address stays.
-/

namespace Manuscript.AttributeBlock

open BareLink (addresses addressesOf sitesAt Site Keeps)

variable {url : Text}

/-! ## What is read as a block -/

/-- What follows a block ends the text. -/
theorem suffix_of_splitClose? {close text inner after : Text} {quote : Option Char}
    (found : splitClose? close quote text = some (inner, after)) : after <:+ text := by
  induction text generalizing quote inner with
  | nil => cases found
  | cons c rest ih =>
    have later : ∀ {quote}, splitClose?.continue' c (splitClose? close quote rest) =
        some (inner, after) → after <:+ c :: rest := by
      intro quote found
      obtain ⟨parts, inRest, same⟩ := Option.map_eq_some_iff.1 found
      cases same
      exact (ih inRest).trans (List.suffix_cons c rest)
    unfold splitClose? at found
    split at found
    · exact later found
    · split at found
      · exact later found
      · split at found
        · rename_i cut
          cases found
          rw [Text.dropFront?_eq_some_iff.1 cut]
          exact List.suffix_append close _
        · exact later found

/-- What is left behind a block is the end of the text. -/
theorem suffix_of_read? {text after : Text} {block : AttributeBlock}
    (found : read? text = some (block, after)) : after <:+ text := by
  have closed : ∀ {close rest : Text}, closedBy? close rest = some (block, after) →
      after <:+ rest := by
    intro close rest found
    obtain ⟨parts, cut, found⟩ := Option.bind_eq_some_iff.1 found
    obtain ⟨_, _, same⟩ := Option.bind_eq_some_iff.1 found
    cases same
    exact suffix_of_splitClose? cut
  unfold read? at found
  split at found
  · exact (closed found).trans (List.suffix_cons _ _)
  · exact (closed found).trans ⟨[' ', '[', '['], rfl⟩
  · exact (closed found).trans ⟨['[', '['], rfl⟩
  · cases found

/-- What is before the last place of a text begins the whole. -/
theorem prefix_of_splitLast? {needle text : Text} {parts : Text × Text}
    (found : Text.splitLast? needle text = some parts) : parts.1 <+: text := by
  obtain ⟨reversed, cut, rfl⟩ := Option.map_eq_some_iff.1 found
  obtain ⟨back, front⟩ := reversed
  have whole := Text.eq_append_of_splitFirst? cut
  rw [← List.reverse_reverse text, List.reverse_prefix, whole]
  exact List.suffix_append _ _

/-- The title before a block begins the text. -/
theorem prefix_of_trailing? {value title : Text} {block : AttributeBlock}
    (found : trailing? value = some (title, block)) : title <+: value := by
  have ofOpening : ∀ opening : Text,
      ((Text.splitLast? opening value).bind fun parts =>
        (read? (opening ++ parts.2)).bind fun result =>
          (guard (result.2.isEmpty = true) : Option Unit).bind fun _ =>
            some (Text.trimEnd parts.1, result.1)) = some (title, block) → title <+: value := by
    intro opening found
    obtain ⟨parts, cut, found⟩ := Option.bind_eq_some_iff.1 found
    obtain ⟨_, _, found⟩ := Option.bind_eq_some_iff.1 found
    obtain ⟨_, _, same⟩ := Option.bind_eq_some_iff.1 found
    cases same
    obtain ⟨blanks, _, trimmed⟩ := Text.trimEnd_blanks parts.1
    have begins : Text.trimEnd parts.1 <+: parts.1 := ⟨blanks, trimmed.symm⟩
    exact begins.trans (prefix_of_splitLast? cut)
  unfold trailing? at found
  by_cases braces : Text.endsWith ['\x7d'] value = true
  · rw [if_pos braces] at found
    exact ofOpening _ found
  · rw [if_neg braces] at found
    by_cases brackets : Text.endsWith [']', ']'] value = true
    · rw [if_pos brackets] at found
      exact ofOpening _ found
    · rw [if_neg brackets] at found
      cases found

/-! ## What is attached -/

/-- The addresses that begin in the block at the start of a text. -/
def inBlock (value : Text) : List Text :=
  match read? value with
  | some (_, after) =>
    ((sitesAt 0 value).filter fun site => site.start < value.length - after.length).map Site.url
  | none => []

/-- The addresses of a text that do not end before the block at its end. -/
def inTrailing (value : Text) : List Text :=
  match trailing? value with
  | some (title, _) => ((sitesAt 0 value).filter fun site => title.length < site.stop).map Site.url
  | none => []

/-- The addresses in the block at the start of the next sibling. -/
def inNextText : List Node → List Text
  | ⟨.text value, _, _, _⟩ :: _ => inBlock value
  | _ => []

/-- The addresses in the block that ends a heading. A block that is all of a heading stays. -/
def inHeading (source : Text) (heading : Node) : List Text :=
  if isUnderlined source heading then []
  else
    match heading.children.getLast? with
    | some ⟨.text value, _, _, _⟩ =>
      if (trailing? value).any (·.1.isEmpty) && heading.children.dropLast.isEmpty then []
      else inTrailing value
    | _ => []

/-- The addresses in the paragraph after a heading, if that is a block. -/
def inNextLine : List Node → List Text
  | ⟨.paragraph, [⟨.text value, _, _, _⟩], _, _⟩ :: _ =>
    if (read? value).any (·.2.isEmpty) then addresses value else []
  | _ => []

/-- The addresses in the blocks that belong to a node. -/
def inAttached (source : Text) (node : Node) (rest : List Node) : List Text :=
  match node.kind with
  | .heading _ => inHeading source node ++ inNextLine rest
  | .code _ _ _ => []
  | kind => if takesBlock kind then inNextText rest else []

/-- A text keeps the addresses behind a block at its start. -/
theorem count_addresses_read (url : Text) {value after : Text} {block : AttributeBlock}
    (found : read? value = some (block, after)) :
    (addresses value).count url ≤ (addresses after).count url + (inBlock value).count url := by
  have back := BareLink.count_addresses_drop url value (value.length - after.length)
  rw [← List.suffix_iff_eq_drop.1 (suffix_of_read? found)] at back
  rwa [inBlock, found]

/-- A text keeps the addresses before a block at its end. -/
theorem count_addresses_title (url : Text) {value title : Text} {block : AttributeBlock}
    (found : trailing? value = some (title, block)) :
    (addresses value).count url ≤ (addresses title).count url + (inTrailing value).count url := by
  have front := BareLink.count_addresses_take url value title.length
  rw [← List.prefix_iff_eq_take.1 (prefix_of_trailing? found)] at front
  rwa [inTrailing, found]

/-- Giving an inline node the block after it takes the addresses that begin in the block. -/
theorem keeps_attachInline (allowed : Bool) (node : Node) (rest : List Node) :
    Keeps url (inNextText rest) (node :: rest)
      ((attachInline allowed node rest).1 :: (attachInline allowed node rest).2) := by
  unfold attachInline
  split
  · rename_i value children data span rest
    have lost : inNextText (⟨.text value, children, data, span⟩ :: rest) = inBlock value := rfl
    rw [lost]
    split
    · rename_i block after read
      have kept := count_addresses_read url read
      dsimp only
      split
      · rename_i empty
        rw [List.isEmpty_iff.1 empty] at kept
        exact (Keeps.annotate node _).append ((Keeps.emptied rfl kept).head rest)
      · exact (Keeps.annotate node _).append ((Keeps.reword rfl rfl kept).head rest)
    · exact (Keeps.refl _).widen _
  · exact (Keeps.refl _).widen _

/-- Giving a heading the block at its end takes the addresses that do not end before the block. -/
theorem keeps_attachHeading (allowed : Bool) (source : Text) {heading : Node} {level : Nat}
    (isHeading : heading.kind = .heading level) :
    Keeps url (inHeading source heading) [heading] [attachHeading allowed source heading] := by
  unfold attachHeading inHeading
  split
  · exact .refl _
  · cases last : heading.children.getLast? with
    | none => exact .refl _
    | some final =>
      have whole := List.dropLast_append_getLast? _ last
      obtain ⟨kind, children, data, span⟩ := final
      cases kind with
      | text value =>
        dsimp only
        rw [inTrailing]
        cases found : trailing? value with
        | none => exact .refl _
        | some parts =>
          obtain ⟨title, block⟩ := parts
          have kept := count_addresses_title url found
          rw [inTrailing, found] at kept
          have open' : ¬(heading.isText = true ∨ heading.isLink = true) := by
            rw [Node.isText, Node.textValue?, Node.isLink, isHeading]
            simp
          dsimp only at kept ⊢
          cases titleless : title.isEmpty with
          | false =>
            simp only [Option.any_some, titleless, Bool.false_and, Bool.not_false, if_true,
              Bool.false_eq_true, if_false]
            refine Keeps.inside rfl ?_ (absurd · open')
            conv => arg 3; rw [← whole]
            exact Keeps.append (.refl _) (.reword rfl rfl kept)
          | true =>
            obtain rfl := List.isEmpty_iff.1 titleless
            cases only : heading.children.dropLast.isEmpty with
            | true =>
              simp only [Option.any_some, titleless, Bool.true_and, Bool.not_true, if_true,
                Bool.false_eq_true, if_false]
              exact .refl _
            | false =>
              simp only [Option.any_some, titleless, Bool.and_false, Bool.not_true,
                Bool.false_eq_true, if_false]
              refine Keeps.inside rfl ?_ (absurd · open')
              conv => arg 3; rw [← whole]
              conv => arg 4; rw [← List.append_nil heading.children.dropLast]
              exact Keeps.append (.refl _) (.emptied rfl kept)
      | _ => exact .refl _

/-- Giving a heading the block in the paragraph after it takes the addresses of the paragraph. -/
theorem keeps_attachNextLine (allowed : Bool) (heading : Node) (rest : List Node) :
    Keeps url (inNextLine rest) (heading :: rest)
      ((attachNextLine allowed heading rest).1 :: (attachNextLine allowed heading rest).2) := by
  unfold attachNextLine
  split
  · rename_i value children data span data' span' rest
    have lost : inNextLine (⟨.paragraph, [⟨.text value, children, data, span⟩], data', span'⟩ ::
        rest) = if (read? value).any (·.2.isEmpty) then addresses value else [] := rfl
    rw [lost]
    cases read : read? value with
    | none => exact .refl _
    | some parts =>
      obtain ⟨block, after⟩ := parts
      dsimp only
      rw [Option.any_some]
      split
      · have gone : Keeps url (addresses value)
            [⟨.paragraph, [⟨.text value, children, data, span⟩], data', span'⟩] [] := by
          rw [Keeps, BareLink.addressesOf_paragraph rfl, BareLink.addressesOf_text rfl]
          exact Nat.le_add_left _ _
        exact (Keeps.annotate heading _).append (gone.head rest)
      · exact .refl _
  · exact (Keeps.refl _).widen _

/-- Giving a node the block that belongs to it takes the addresses in the block. -/
theorem keeps_attach (allowed : Bool) (source : Text) (node : Node) (rest : List Node) :
    Keeps url (inAttached source node rest) (node :: rest)
      ((attach allowed source node rest).1 :: (attach allowed source node rest).2) := by
  unfold attach inAttached
  cases kind : node.kind with
  | heading level =>
    exact ((keeps_attachHeading allowed source kind).head rest).trans
      (keeps_attachNextLine _ _ rest)
  | code language fence value =>
    dsimp only
    rw [attachCode]
    split
    · split
      · exact (Keeps.annotate node _).head rest
      · exact .refl _
    · exact .refl _
  | emphasis | strong | delete | inlineCode | link | image =>
    exact keeps_attachInline allowed node rest
  | _ => exact .refl _

/-- The addresses in the blocks that belong to siblings and to nodes below them. -/
def takenList (allowed : Bool) (source : Text) (nodes : List Node) : List Text :=
  match nodes with
  | [] => []
  | node :: rest =>
    let attached := attach allowed source node rest
    inAttached source node rest ++
      ((if attached.1.isText || attached.1.isLink then []
        else takenList allowed source attached.1.children) ++
        takenList allowed source attached.2)
termination_by Node.weightList nodes
decreasing_by
  all_goals
    have bound := weight_attach allowed source node rest
    have positive := Node.weight_eq node
    simp only [Node.weightList_cons]
    omega

/-- Attaching the blocks among siblings takes the addresses in them. -/
theorem keeps_attachList (allowed : Bool) (source : Text) (nodes : List Node) :
    Keeps url (takenList allowed source nodes) nodes (attachList allowed source nodes) := by
  induction nodes using attachList.induct allowed source with
  | case1 =>
    rw [attachList]
    exact (Keeps.refl []).widen _
  | case2 node rest attached below later =>
    have own : Keeps url
        (if attached.1.isText || attached.1.isLink then []
          else takenList allowed source attached.1.children) [attached.1]
        [{ attached.1 with children := attachList allowed source attached.1.children }] := by
      split
      · rename_i closed
        exact .of_kind rfl (Bool.or_eq_true_iff.1 closed)
      · rename_i open'
        exact .inside rfl below (absurd · (by rwa [Bool.or_eq_true_iff] at open'))
    rw [attachList, takenList]
    exact (keeps_attach allowed source node rest).trans (own.append later)

/-- The addresses in the attribute blocks of a document. -/
def taken (allowed : Bool) (source : Text) (tree : Node) : List Text :=
  takenList allowed source tree.children

/-- The pass over attribute blocks takes the addresses in them. -/
theorem keeps_attachDocument (allowed : Bool) (source : Text) (tree : Node) :
    Keeps url (taken allowed source tree) tree.children
      (attachDocument allowed source tree).children :=
  keeps_attachList allowed source tree.children

end Manuscript.AttributeBlock
