import Manuscript.Proofs.Pipeline.Failure
import Manuscript.Proofs.Quotation.Line

/-!
# What becomes of a quote

A quote that can be cut stays as it is when its attribution and its caption are empty or missing.
Otherwise it is put into a figure, with its attribution and its caption after it. At most two of its
paragraphs are cut or removed, for each of the two lines takes its own from one child, and it cites
the first address of the attribution, if there is one (`quote_or_figure`).
-/

namespace Manuscript

namespace Quotation

open Text

/-! ## The children that are left -/

/-- `Trimmed options count before after`: `count` of the children that hold a line of metadata are
cut or removed. All other children stay as they are, in order. -/
inductive Trimmed (options : BlockquoteOptions) : Nat → List Node → List Node → Prop
  /-- Nothing is left of nothing. -/
  | nil : Trimmed options 0 [] []
  /-- A child stays as it is. -/
  | keep {count : Nat} {before after : List Node} (child : Node)
      (later : Trimmed options count before after) :
      Trimmed options count (child :: before) (child :: after)
  /-- A child with metadata goes. -/
  | remove {count : Nat} {before after : List Node} {child : Node}
      (holds : Holds options.marker child ∨ Holds options.captionStart child)
      (later : Trimmed options count before after) :
      Trimmed options (count + 1) (child :: before) after
  /-- A child with metadata has only its content changed. -/
  | cut {count : Nat} {before after : List Node} {child : Node} (content : List Node)
      (holds : Holds options.marker child ∨ Holds options.captionStart child)
      (later : Trimmed options count before after) :
      Trimmed options (count + 1) (child :: before) ({ child with children := content } :: after)

/-- How many of the two lines have been found. -/
def Metadata.count (found : Metadata) : Nat :=
  found.attribution.isSome.toNat + found.caption.isSome.toNat

/-- There is one attribution and one caption at most. -/
theorem Metadata.count_le_two (found : Metadata) : found.count ≤ 2 :=
  Nat.add_le_add (Bool.toNat_le _) (Bool.toNat_le _)

section

variable {options : BlockquoteOptions} {child : Node} {found : Metadata}

/-- Where metadata begins in a child, one of the two lines begins that has not been found before. -/
theorem holds_of_start? (start : (found.start? options child).isSome = true) :
    found.attribution = none ∧ Holds options.marker child ∨
      found.caption = none ∧ Holds options.captionStart child := by
  rw [isSome_start?, Bool.and_eq_true, Bool.or_eq_true, Metadata.attributionStart?,
    Metadata.captionStart?] at start
  obtain ⟨visible, attributed | captioned⟩ := start
  · cases attribution : found.attribution with
    | none =>
      rw [attribution] at attributed
      exact .inl ⟨rfl, holds_iff.2 ⟨visible, attributed⟩⟩
    | some line =>
      rw [attribution] at attributed
      cases attributed
  · cases caption : found.caption with
    | none =>
      rw [caption] at captioned
      exact .inr ⟨rfl, holds_iff.2 ⟨visible, captioned⟩⟩
    | some line =>
      rw [caption] at captioned
      cases captioned

/-- A child in which metadata begins gives a line that has not been found before. -/
theorem count_after (start : (found.start? options child).isSome = true) :
    found.count < (found.after options child).count := by
  rw [Metadata.count, Metadata.count, attribution_after, caption_after, Option.isSome_or,
    Option.isSome_or]
  rcases holds_of_start? start with ⟨missing, holds⟩ | ⟨missing, holds⟩
  · have grows : ∀ other own : Bool,
        false.toNat + other.toNat < (false || true).toNat + (other || own).toNat := by
      decide
    rw [missing, isSome_ownLine?.2 holds]
    exact grows _ _
  · have grows : ∀ other own : Bool,
        other.toNat + false.toNat < (other || own).toNat + (false || true).toNat := by
      decide
    rw [missing, isSome_ownLine?.2 holds]
    exact grows _ _

end

/-- The body of a figure is what is left of as many children as lines have been found, at most. -/
theorem exists_trimmed {options : BlockquoteOptions} {children body : List Node}
    (left : Body options children body) :
    ∃ count ≤ (foundIn options children).count, Trimmed options count children body := by
  induction left with
  | nil => exact ⟨0, Nat.zero_le _, .nil⟩
  | @other child rest body without _ ih =>
    obtain ⟨count, bound, trimmed⟩ := ih
    have same : foundIn options (child :: rest) = foundIn options rest := by
      rw [foundIn, List.foldr_cons, ← foundIn, Metadata.after, without]
      rfl
    exact ⟨count, same ▸ bound, .keep child trimmed⟩
  | @gone child rest body position start _ _ ih =>
    obtain ⟨count, bound, trimmed⟩ := ih
    have begins : ((foundIn options rest).start? options child).isSome = true := by
      rw [start]
      rfl
    exact ⟨count + 1, Nat.lt_of_le_of_lt bound (count_after begins),
      .remove ((holds_of_start? begins).imp And.right And.right) trimmed⟩
  | @cut child rest body after position start _ _ _ ih =>
    obtain ⟨count, bound, trimmed⟩ := ih
    have begins : ((foundIn options rest).start? options child).isSome = true := by
      rw [start]
      rfl
    exact ⟨count + 1, Nat.lt_of_le_of_lt bound (count_after begins),
      .cut after ((holds_of_start? begins).imp And.right And.right) trimmed⟩

/-! ## The address that is cited -/

/-- Dropping letters leaves the end of a text. -/
theorem suffix_of_dropLetters? {letters text rest : Text}
    (read : dropLetters? letters text = some rest) : rest <:+ text := by
  fun_induction dropLetters? letters text with
  | case1 =>
    cases read
    exact List.suffix_refl _
  | case2 letter letters c tail _ ih => exact (ih read).trans (List.suffix_cons c tail)
  | case3 => cases read
  | case4 => cases read

/-- Skipping a letter leaves the end of a text. -/
theorem suffix_skipLetter (letter : Char) (text : Text) : skipLetter letter text <:+ text := by
  unfold skipLetter
  split
  · split
    · exact List.suffix_cons _ _
    · exact List.suffix_refl _
  · exact List.suffix_refl _

/-- What follows an address at the start of a text is the end of the text. -/
theorem suffix_of_dropAddress? {text after : Text} (read : dropAddress? text = some after) :
    after <:+ text := by
  rw [dropAddress?] at read
  split at read
  · rename_i first second rest scheme
    split at read
    · cases read
      rw [WebAddress.dropScheme?, Option.bind_eq_bind, Option.bind_eq_some_iff] at scheme
      obtain ⟨afterName, name, slashes⟩ := scheme
      have inHost : rest.dropWhile isAddressChar <:+ first :: second :: rest :=
        (List.dropWhile_suffix _).trans ⟨[first, second], rfl⟩
      have afterSlashes : first :: second :: rest <:+ skipLetter 's' afterName :=
        ⟨_, (dropFront?_eq_some_iff.1 slashes).symm⟩
      exact ((inHost.trans afterSlashes).trans (suffix_skipLetter 's' afterName)).trans
        (suffix_of_dropLetters? name)
    · cases read
  · cases read

/-- The first address in a text, between what stands before and after it. -/
structure FirstAddress (before url after text : Text) : Prop where
  whole : text = before ++ (url ++ after)
  /-- An address begins there, and is read to its end. -/
  reads : dropAddress? (url ++ after) = some after
  /-- None begins before. -/
  first : ∀ front back, before = front ++ back → back ≠ [] →
    dropAddress? (back ++ (url ++ after)) = none

/-- No address begins in a text. -/
def LacksAddress (text : Text) : Prop :=
  ∀ tail, tail <:+ text → dropAddress? tail = none

/-- A text that begins with an address has it for its first. -/
theorem firstAddress?_of_dropAddress? {c : Char} {rest after : Text}
    (here : dropAddress? (c :: rest) = some after) :
    ∃ url, firstAddress? (c :: rest) = some ([], url, after) ∧
      FirstAddress [] url after (c :: rest) := by
  obtain ⟨url, whole⟩ := suffix_of_dropAddress? here
  have size : rest.length + 1 - after.length = url.length := by
    have := congrArg List.length whole
    rw [List.length_append, List.length_cons] at this
    omega
  have own : (c :: rest).take (rest.length + 1 - after.length) = url := by
    rw [size, ← whole, List.take_left]
  refine ⟨url, ?_, whole.symm, whole ▸ here, ?_⟩
  · rw [firstAddress?, here]
    dsimp only
    rw [own]
  · intro front back nothing solid
    exact absurd (List.append_eq_nil_iff.1 nothing.symm).2 solid

/-- A text is split at its first address, if it has one. -/
theorem firstAddress?_cases (text : Text) :
    (firstAddress? text = none ∧ LacksAddress text) ∨
      ∃ before url after, firstAddress? text = some (before, url, after) ∧
        FirstAddress before url after text := by
  induction text with
  | nil =>
    refine .inl ⟨rfl, fun tail inside => ?_⟩
    rw [List.suffix_nil.1 inside]
    rfl
  | cons c rest ih =>
    cases here : dropAddress? (c :: rest) with
    | some after =>
      obtain ⟨url, found⟩ := firstAddress?_of_dropAddress? here
      exact .inr ⟨[], url, after, found⟩
    | none =>
      rw [firstAddress?, here]
      dsimp only
      rcases ih with ⟨none, lacks⟩ | ⟨before, url, after, found, rfl, reads, first⟩
      · refine .inl ⟨by rw [none]; rfl, fun tail inside => ?_⟩
        rcases List.suffix_cons_iff.1 inside with rfl | inRest
        · exact here
        · exact lacks tail inRest
      · refine .inr ⟨c :: before, url, after, by rw [found]; rfl, rfl, reads, ?_⟩
        intro front back whole solid
        cases front with
        | nil =>
          cases whole
          exact here
        | cons d front =>
          cases whole
          exact first front back rfl solid

/-- `Cites old attribution new`: the source of a quote is overwritten by the first address of its
attribution, and stays if there is no address in it. -/
inductive Cites (old attribution : Option Text) : Option Text → Prop
  | overwrites {line before url after : Text} (isAttribution : attribution = some line)
      (first : FirstAddress before url after line) : Cites old attribution (some url)
  | keeps (without : ∀ line ∈ attribution, LacksAddress line) : Cites old attribution old

/-- The address that is split from an attribution is cited. -/
theorem cites_splitAddress (old attribution : Option Text) :
    Cites old attribution (((attribution.map splitAddress).bind Prod.snd) <|> old) := by
  cases attribution with
  | none => exact .keeps nofun
  | some line =>
    rw [Option.map_some, Option.bind_some, splitAddress]
    rcases firstAddress?_cases line with ⟨none, lacks⟩ | ⟨before, url, after, found, first⟩
    · rw [none]
      exact .keeps fun other same => Option.some.inj same ▸ lacks
    · rw [found]
      exact .overwrites rfl first

/-! ## The figure -/

/-- `IsFigure options quote attribution caption result`: a quote is made a figure. The figure holds
the quote with what is left of its children and the source that it cites, then its attribution, if
it has one, and then its caption, if it has one. -/
def IsFigure (options : BlockquoteOptions) (quote : Node) (attribution caption : Option Text)
    (result : Node) : Prop :=
  ∃ count ≤ 2, ∃ body cite, Trimmed options count quote.children body ∧
    Cites quote.data.cite attribution cite ∧
    result = Node.container "figure".toList
      (words options.figureClass ++ if caption.isSome then words options.captionFigureClass else [])
      ({ quote with children := body, data := { quote.data with cite } } ::
        (attribution.toList.map fun line =>
          Node.container (if caption.isSome then "div".toList else "figcaption".toList)
            (words options.attributionClass)
            [Node.container "div".toList [] (attributionLines (splitAddress line).1)]) ++
        caption.toList.map fun line =>
          { Node.paragraph [Node.text line] with
            data :=
              { tagName := some "figcaption".toList, classes := words options.captionClass } })

/-- What is made of a quote with a line of metadata is a figure. -/
theorem isFigure_figure {options : BlockquoteOptions} {quote : Node} {body : List Node}
    (left : Body options quote.children body) (attribution caption : Option Text) :
    IsFigure options quote attribution caption
      (figure options { quote with children := body } attribution caption) := by
  obtain ⟨count, bound, trimmed⟩ := exists_trimmed left
  refine ⟨count, Nat.le_trans bound (Metadata.count_le_two _), body, _, trimmed,
    cites_splitAddress quote.data.cite attribution, ?_⟩
  rw [figure]
  cases attribution <;> rfl

/-- What becomes of a quote. If one of its children would be cut inside a character, it cannot be
transformed. Otherwise it stays as it is when its attribution and its caption are empty or missing,
and is made a figure for them when one of them is not. -/
theorem quote_or_figure (options : BlockquoteOptions) (quote : Node) :
    (CutsCharacterIn options quote.children ∧ transform options quote = none) ∨
      (¬ CutsCharacterIn options quote.children ∧ ∃ attribution caption result,
        transform options quote = some result ∧
        (∀ line, attribution = some line ↔ line ≠ [] ∧ IsAttribution options quote.children line) ∧
        (∀ line, caption = some line ↔ line ≠ [] ∧ IsCaption options quote.children line) ∧
        if attribution = none ∧ caption = none then result = quote
        else IsFigure options quote attribution caption result) := by
  rw [← takeMetadata_reverse_eq_none_iff, transform_eq]
  cases taken : takeMetadata options quote.children.reverse {} with
  | none => exact .inl ⟨rfl, rfl⟩
  | some result =>
    obtain ⟨kept, found⟩ := result
    obtain ⟨left, rfl⟩ := body_of_takeMetadata taken
    obtain ⟨attributed, captioned⟩ := foundIn_iff options quote.children
    refine .inr ⟨Option.some_ne_none _, (foundIn options quote.children).attribution.bind nonempty?,
      (foundIn options quote.children).caption.bind nonempty?, _, rfl, fun line => ?_,
      fun line => ?_, ?_⟩
    · rw [bind_nonempty?_eq_some_iff, attributed]
    · rw [bind_nonempty?_eq_some_iff, captioned]
    · dsimp only
      split
      · rfl
      · exact isFigure_figure left _ _

/-- A quote of emphasized code that ends in a blank is not transformed at all. -/
theorem strandedQuote_is_not_transformed :
    ¬ ∀ (options : Options) (quote : Node), options.IsValid → quote.kind = .blockquote →
      ∃ result, transform options.blockquote quote = some result := by
  intro returns
  obtain ⟨result, made⟩ := returns {} Pipeline.attributedQuote rfl rfl
  have cuts : CutsCharacterIn {} Pipeline.attributedQuote.children :=
    ⟨[], Pipeline.attributedParagraph, [], rfl, Pipeline.misplacedCut_attributedParagraph⟩
  rw [transform_eq, takeMetadata_reverse_eq_none_iff.2 cuts] at made
  cases made

end Quotation

end Manuscript
