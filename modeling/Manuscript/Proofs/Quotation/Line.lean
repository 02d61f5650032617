import Manuscript.Options.Validation
import Manuscript.Proofs.Quotation.Content
import Manuscript.Proofs.Text.Ends

/-!
# Which lines of a quote are its metadata

The children of a quote are looked at from the last one on, but a child without metadata does not
end the search: the attribution is the line of the last child that holds one (`IsAttribution`),
wherever that child stands, and so is the caption (`IsCaption`). So a quote stays as it is exactly
when these lines are empty or missing (`transform_eq_self_iff`), and a line in the middle of a quote
makes it a figure even where prose follows (`proseAfterLine_makes_figure`).
-/

namespace Manuscript

namespace Quotation

open Text

/-! ## Lines of a child -/

/-- A line of a text begins with the given start: the text itself, or what follows a line feed. -/
def BeginsLine (start text : Text) : Prop :=
  start <+: text ∨ '\n' :: start <:+: text

/-- A line is found where there is one. -/
theorem isSome_lineStart? {start text : Text} :
    (lineStart? start text).isSome = true ↔ BeginsLine start text := by
  rw [lineStart?, BeginsLine]
  split
  · rename_i begins
    exact iff_of_true rfl (.inl (List.isPrefixOf_iff_prefix.1 begins))
  · rename_i later
    have notFirst : ¬ start <+: text := fun begins => later (List.isPrefixOf_iff_prefix.2 begins)
    rw [Option.isSome_map, or_iff_right notFirst]
    constructor
    · intro found
      obtain ⟨⟨before, after⟩, split⟩ := Option.isSome_iff_exists.1 found
      exact ⟨before, after, (eq_append_of_splitFirst? split).symm⟩
    · exact contains_of_infix

/-- A child of a quote holds a line with the given start: it is a paragraph that is not blank, and
the line is one of its visible text. -/
structure Holds (start : Text) (child : Node) : Prop where
  isParagraph : child.isParagraph = true
  visible : isBlankText (visibleText child) = false
  line : BeginsLine start (visibleText child)

/-- A child holds a line if it is a paragraph with visible text in which one starts. -/
theorem holds_iff {start : Text} {child : Node} : Holds start child ↔
    (child.isParagraph && !isBlankText (visibleText child)) = true ∧
      (lineStart? start (visibleText child)).isSome = true := by
  rw [Bool.and_eq_true, Bool.not_eq_true', isSome_lineStart?]
  exact ⟨fun ⟨isParagraph, visible, line⟩ => ⟨⟨isParagraph, visible⟩, line⟩,
    fun ⟨⟨isParagraph, visible⟩, line⟩ => ⟨isParagraph, visible, line⟩⟩

instance (start : Text) (child : Node) : Decidable (Holds start child) :=
  decidable_of_iff _ holds_iff.symm

/-- Where the other line begins in the text of a child, unless a later child holds one. -/
def otherStart? (other : Text) (later : List Node) (text : Text) : Option Nat :=
  if ∃ child ∈ later, Holds other child then none else lineStart? other text

/-- The line of metadata with the given start that a child holds, up to where the other one
begins. -/
def ownLine? (start : Text) (drop : Bool) (next : Option Nat) (child : Node) : Option Text :=
  if child.isParagraph && !isBlankText (visibleText child) then
    (lineStart? start (visibleText child)).map fun position =>
      metadataLine start drop position next (visibleText child)
  else none

/-- A child has such a line exactly when it holds one. -/
theorem isSome_ownLine? {start : Text} {drop : Bool} {next : Option Nat} {child : Node} :
    (ownLine? start drop next child).isSome = true ↔ Holds start child := by
  rw [ownLine?, holds_iff]
  split
  · rename_i visible
    rw [Option.isSome_map, and_iff_right visible]
  · rename_i other
    exact iff_of_false (by simp) fun holds => other holds.1

/-! ## The line that is taken -/

/-- `IsLine start drop other children line`: of the children of a quote, the last one that holds a
line with the given start holds `line`. It goes on to the end of the child, or to where the other
line begins in it. -/
def IsLine (start : Text) (drop : Bool) (other : Text) (children : List Node) (line : Text) :
    Prop :=
  ∃ front child later, children = front ++ child :: later ∧ (∀ after ∈ later, ¬ Holds start after) ∧
    ownLine? start drop (otherStart? other later (visibleText child)) child = some line

/-- The line that the children of a quote have for an attribution. -/
def IsAttribution (options : BlockquoteOptions) : List Node → Text → Prop :=
  IsLine options.marker options.removeMarker options.captionStart

/-- The line that the children of a quote have for a caption. -/
def IsCaption (options : BlockquoteOptions) : List Node → Text → Prop :=
  IsLine options.captionStart options.removeCaptionStart options.marker

section

variable {start other : Text} {drop : Bool}

/-- Without children there is no line. -/
theorem not_isLine_nil {line : Text} : ¬ IsLine start drop other [] line := by
  rintro ⟨front, child, later, whole, _⟩
  cases front <;> cases whole

/-- The line is that of a later child, or of the first one if no later child holds any. -/
theorem isLine_cons {child : Node} {later : List Node} {line : Text} :
    IsLine start drop other (child :: later) line ↔
      IsLine start drop other later line ∨ (∀ after ∈ later, ¬ Holds start after) ∧
        ownLine? start drop (otherStart? other later (visibleText child)) child = some line := by
  constructor
  · rintro ⟨front, last, rest, whole, none, own⟩
    cases front with
    | nil =>
      cases whole
      exact .inr ⟨none, own⟩
    | cons first front =>
      cases whole
      exact .inl ⟨front, last, rest, rfl, none, own⟩
  · rintro (⟨front, last, rest, rfl, none, own⟩ | ⟨none, own⟩)
    · exact ⟨child :: front, last, rest, rfl, none, own⟩
    · exact ⟨[], child, later, rfl, none, own⟩

/-- There is such a line exactly when a child holds one. -/
theorem exists_isLine {children : List Node} :
    (∃ line, IsLine start drop other children line) ↔ ∃ child ∈ children, Holds start child := by
  induction children with
  | nil => exact iff_of_false (fun ⟨_, line⟩ => not_isLine_nil line) (by simp)
  | cons child later ih =>
    simp only [isLine_cons, exists_or, ih, List.mem_cons, exists_eq_or_imp, exists_and_left,
      ← Option.isSome_iff_exists, isSome_ownLine?]
    constructor
    · rintro (held | ⟨_, holds⟩)
      · exact .inr held
      · exact .inl holds
    · rintro (holds | held)
      · by_cases held : ∃ after ∈ later, Holds start after
        · exact .inl held
        · exact .inr ⟨by simpa using held, holds⟩
      · exact .inl held

/-- What is found of the first child adds to what has been found in the later ones. -/
theorem isLine_or_ownLine? {later : List Node} {found : Option Text}
    (before : ∀ line, found = some line ↔ IsLine start drop other later line) (child : Node)
    (line : Text) :
    found.or (ownLine? start drop (otherStart? other later (visibleText child)) child) =
        some line ↔ IsLine start drop other (child :: later) line := by
  rw [isLine_cons, ← before, Option.or_eq_some_iff]
  refine or_congr_right (and_congr_left fun _ => ?_)
  have held : found = none ↔ ¬ ∃ line, found = some line := by
    rw [← Option.isSome_iff_exists, Option.not_isSome_iff_eq_none]
  simp only [held, before, exists_isLine, not_exists, not_and]

/-- A line is looked for unless one has been found in the later children. -/
theorem search_eq_otherStart? {later : List Node} {found : Option Text}
    (before : ∀ line, found = some line ↔ IsLine start drop other later line) (text : Text) :
    (if found.isSome = true then none else lineStart? start text) =
      otherStart? start later text := by
  have held : found.isSome = true ↔ ∃ child ∈ later, Holds start child := by
    rw [Option.isSome_iff_exists, ← exists_isLine]
    exact exists_congr before
  simp only [otherStart?, held]

end

/-! ## What is found is these lines -/

/-- One of two positions is found if either is. -/
theorem isSome_earlier (first second : Option Nat) :
    (earlier first second).isSome = (first.isSome || second.isSome) := by
  cases first <;> cases second <;> rfl

/-- A line that has been found stays; otherwise the one that begins in a visible child is taken,
wherever the other line begins. -/
theorem taken_eq_or (visible : Bool) (found : Option Text) (here other : Option Nat)
    (read : Nat → Text) :
    (if (visible && ((if found.isSome then none else here).isSome || other.isSome)) = true then
      (match if found.isSome then none else here with
        | some position => some (read position)
        | none => found)
      else found) = found.or (if visible then here.map read else none) := by
  cases visible with
  | false => simp
  | true =>
    cases found with
    | some line => simp
    | none => cases here <;> simp

/-- Metadata starts in a child if it is a paragraph with visible text and a line of a kind not yet
found starts in it. -/
theorem isSome_start? (options : BlockquoteOptions) (child : Node) (found : Metadata) :
    (found.start? options child).isSome =
      ((child.isParagraph && !isBlankText (visibleText child)) &&
        ((found.attributionStart? options (visibleText child)).isSome ||
          (found.captionStart? options (visibleText child)).isSome)) := by
  rw [Metadata.start?]
  split
  · rename_i visible
    rw [isSome_earlier, visible, Bool.true_and]
  · rename_i other
    rw [Bool.eq_false_iff.2 other]
    rfl

/-- A child gives the attribution if none has been found. -/
theorem attribution_after (options : BlockquoteOptions) (child : Node) (found : Metadata) :
    (found.after options child).attribution = found.attribution.or
      (ownLine? options.marker options.removeMarker
        (found.captionStart? options (visibleText child)) child) := by
  rw [Metadata.after, isSome_start?, apply_ite Metadata.attribution]
  exact taken_eq_or _ _ _ _ _

/-- A child gives the caption if none has been found. -/
theorem caption_after (options : BlockquoteOptions) (child : Node) (found : Metadata) :
    (found.after options child).caption = found.caption.or
      (ownLine? options.captionStart options.removeCaptionStart
        (found.attributionStart? options (visibleText child)) child) := by
  rw [Metadata.after, isSome_start?, apply_ite Metadata.caption, Bool.or_comm]
  exact taken_eq_or _ _ _ _ _

/-- What is found in the children of a quote is its attribution and its caption. -/
theorem foundIn_iff (options : BlockquoteOptions) (children : List Node) :
    (∀ line, (foundIn options children).attribution = some line ↔
      IsAttribution options children line) ∧
    ∀ line, (foundIn options children).caption = some line ↔ IsCaption options children line := by
  induction children with
  | nil =>
    exact ⟨fun line => iff_of_false nofun not_isLine_nil,
      fun line => iff_of_false nofun not_isLine_nil⟩
  | cons child later ih =>
    obtain ⟨attributed, captioned⟩ := ih
    rw [foundIn, List.foldr_cons, ← foundIn]
    constructor
    · intro line
      rw [attribution_after, Metadata.captionStart?, search_eq_otherStart? captioned]
      exact isLine_or_ownLine? attributed child line
    · intro line
      rw [caption_after, Metadata.attributionStart?, search_eq_otherStart? attributed]
      exact isLine_or_ownLine? captioned child line

/-! ## Quotes that stay as they are -/

/-- The content of a child, as its metadata leaves it, would be cut inside a character. -/
def CutsCharacterIn (options : BlockquoteOptions) (children : List Node) : Prop :=
  ∃ front child later, children = front ++ child :: later ∧
    MisplacedCut options (foundIn options later) child

/-- The metadata cannot be taken from the children of a quote exactly when one of them would be cut
inside a character. -/
theorem takeMetadata_reverse_eq_none_iff {options : BlockquoteOptions} {children : List Node} :
    takeMetadata options children.reverse {} = none ↔ CutsCharacterIn options children := by
  constructor
  · intro fails
    obtain ⟨later, child, front, kept, found, whole, taken, misplaced⟩ :=
      takeMetadata_eq_none_iff.1 fails
    rw [← List.reverse_reverse later] at taken
    obtain ⟨_, rfl⟩ := body_of_takeMetadata taken
    refine ⟨front.reverse, child, later.reverse, ?_, misplaced⟩
    simpa using congrArg List.reverse whole
  · rintro ⟨front, child, later, rfl, misplaced⟩
    rw [List.reverse_append, List.reverse_cons, List.append_assoc, takeMetadata_append]
    cases taken : takeMetadata options later.reverse {} with
    | none => rfl
    | some result =>
      obtain ⟨kept, found⟩ := result
      obtain ⟨_, rfl⟩ := body_of_takeMetadata taken
      rw [Option.bind_some, List.singleton_append]
      dsimp only
      rw [takeMetadata_cons, takeFrom_eq_none_iff.2 misplaced]
      rfl

/-- A quote stays as it is, or becomes a figure for what is left of its children. -/
theorem transform_eq (options : BlockquoteOptions) (quote : Node) :
    transform options quote =
      (takeMetadata options quote.children.reverse {}).map fun (kept, found) =>
        let attribution := found.attribution.bind nonempty?
        let caption := found.caption.bind nonempty?
        if attribution = none ∧ caption = none then quote
        else figure options { quote with children := kept.reverse } attribution caption := by
  rw [transform]
  cases takeMetadata options quote.children.reverse {} with
  | none => rfl
  | some result =>
    obtain ⟨kept, found⟩ := result
    rw [Option.bind_eq_bind, Option.bind_some, Option.map_some]
    dsimp only
    by_cases nothing : found.attribution.bind nonempty? = none ∧ found.caption.bind nonempty? = none
    · rw [if_pos nothing, if_pos (by rw [nothing.1, nothing.2]; rfl)]
      rfl
    · rw [if_neg nothing, if_neg (by simpa only [Bool.and_eq_true, Option.isNone_iff_eq_none])]
      rfl

/-- What has been found counts only if it is not empty. -/
theorem bind_nonempty?_eq_some_iff {found : Option Text} {line : Text} :
    found.bind nonempty? = some line ↔ line ≠ [] ∧ found = some line := by
  rw [Option.bind_eq_some_iff]
  constructor
  · rintro ⟨other, rfl, same⟩
    rw [nonempty?] at same
    split at same
    · cases same
    · rename_i solid
      cases same
      exact ⟨fun empty => solid (List.isEmpty_iff.2 empty), rfl⟩
  · rintro ⟨solid, rfl⟩
    exact ⟨line, rfl, by rw [nonempty?, if_neg (by rwa [List.isEmpty_iff])]⟩

/-- A line counts for nothing if there is none or it is empty. -/
theorem bind_nonempty?_eq_none_iff {found : Option Text} :
    found.bind nonempty? = none ↔ ∀ line, found = some line → line = [] := by
  rw [Option.eq_none_iff_forall_ne_some]
  refine forall_congr' fun line => ?_
  rw [Ne, bind_nonempty?_eq_some_iff, not_and', Classical.not_not]

/-- A quote stays as it is exactly when its attribution and its caption are empty or missing, and
none of its children would be cut inside a character. -/
theorem transform_eq_self_iff (options : BlockquoteOptions) (children : List Node)
    (data : Annotations) (span : Option Span) :
    transform options ⟨.blockquote, children, data, span⟩ =
        some ⟨.blockquote, children, data, span⟩ ↔
      (∀ line, IsAttribution options children line → line = []) ∧
        (∀ line, IsCaption options children line → line = []) ∧
          ¬ CutsCharacterIn options children := by
  rw [transform_eq, ← takeMetadata_reverse_eq_none_iff, ← and_assoc]
  cases taken : takeMetadata options children.reverse {} with
  | none => simp
  | some result =>
    obtain ⟨kept, found⟩ := result
    obtain ⟨_, rfl⟩ := body_of_takeMetadata taken
    obtain ⟨attributed, captioned⟩ := foundIn_iff options children
    have nothing_iff : ((foundIn options children).attribution.bind nonempty? = none ∧
        (foundIn options children).caption.bind nonempty? = none) ↔
          (∀ line, IsAttribution options children line → line = []) ∧
            ∀ line, IsCaption options children line → line = [] := by
      simp only [bind_nonempty?_eq_none_iff, attributed, captioned]
    rw [Option.map_some, Option.some.injEq, and_iff_left (Option.some_ne_none _), ← nothing_iff]
    dsimp only
    split
    · rename_i nothing
      exact iff_of_true rfl nothing
    · rename_i something
      refine iff_of_false (fun same => ?_) something
      cases congrArg Node.kind same

/-- A paragraph with nothing to be seen. -/
def isBlankParagraph (child : Node) : Bool :=
  child.isParagraph && isBlankText (visibleText child)

/-- Of the children of a quote, the last one but for blank paragraphs holds no line of metadata. -/
def EndsInProse (options : BlockquoteOptions) (children : List Node) : Prop :=
  ∀ last ∈ (children.filter fun child => !isBlankParagraph child).getLast?,
    ¬ Holds options.marker last ∧ ¬ Holds options.captionStart last

/-- A quote of a dialogue line and of prose after it. -/
def quoteOfDialogue : Node :=
  ⟨.blockquote, [Node.paragraph [Node.text "— she said.".toList],
    Node.paragraph [Node.text "And he left.".toList]], {}, none⟩

/-- A quote with prose at its end becomes a figure when a line before that looks like an
attribution. -/
theorem proseAfterLine_makes_figure :
    ¬ ∀ (options : Options) (quote : Node), options.IsValid → quote.kind = .blockquote →
      EndsInProse options.blockquote quote.children →
        transform options.blockquote quote = some quote := by
  intro stays
  have prose : EndsInProse {} quoteOfDialogue.children := by
    intro last isLast
    cases isLast
    decide
  have same := congrArg (Option.map Node.kind) (stays {} quoteOfDialogue rfl rfl prose)
  exact absurd same (by decide)

end Quotation

end Manuscript
