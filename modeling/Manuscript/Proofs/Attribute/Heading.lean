import Manuscript.Proofs.Attribute.Writing
import Manuscript.Proofs.Text.Search
import Manuscript.Prose.AttributeBlock

/-!
# Blocks at the end of headings

The block that ends a heading is looked for from the end of the text, at the last place of an
opening delimiter. A text that is read as one block is therefore taken from the end of a heading
exactly when the delimiter that opens it does not occur in it again, be it in a quoted value or in a
class (`attachList_heading_iff`).
-/

namespace Manuscript.AttributeBlock

/-- What is before the end of a block, the delimiter and what follows make up the text. -/
theorem eq_append_of_splitClose? {close text inner after : Text} {quote : Option Char}
    (found : splitClose? close quote text = some (inner, after)) :
    text = inner ++ (close ++ after) := by
  induction text generalizing quote inner with
  | nil => cases found
  | cons c rest ih =>
    have later : ∀ {quote}, splitClose?.continue' c (splitClose? close quote rest) =
        some (inner, after) → c :: rest = inner ++ (close ++ after) := by
      intro quote found
      obtain ⟨parts, inRest, same⟩ := Option.map_eq_some_iff.1 found
      cases same
      rw [ih inRest, List.cons_append]
    unfold splitClose? at found
    split at found
    · exact later found
    · split at found
      · exact later found
      · split at found
        · rename_i cut
          rw [Option.some.injEq, Prod.mk.injEq] at found
          rw [← found.1, ← found.2, List.nil_append]
          exact Text.dropFront?_eq_some_iff.1 cut
        · exact later found

/-- A pair of delimiters of a block. -/
inductive Delimiters where
  | braces
  | brackets
deriving DecidableEq

namespace Delimiters

/-- What stands at the start of a block. -/
def opening : Delimiters → Text
  | braces => ['\x7b']
  | brackets => ['[', '[']

/-- What stands at the end of a block. -/
def closing : Delimiters → Text
  | braces => ['\x7d']
  | brackets => [']', ']']

/-- An opening delimiter is not empty. -/
theorem opening_ne_nil (delimiters : Delimiters) : delimiters.opening ≠ [] := by
  cases delimiters <;> simp [opening]

/-- An opening delimiter is found behind blanks in one place only. -/
theorem eq_of_blanks_opening (delimiters : Delimiters) {blanks inner back : Text}
    (blank : Text.isBlankText blanks = true)
    (same : blanks ++ (delimiters.opening ++ back) = [' '] ++ (delimiters.opening ++ inner)) :
    blanks = [' '] ∧ back = inner := by
  obtain ⟨c, rest, opening, solid⟩ :
      ∃ c rest, delimiters.opening = c :: rest ∧ Text.isBlank c = false := by
    cases delimiters <;> exact ⟨_, _, rfl, rfl⟩
  have leading : ∀ front : Text, Text.isBlankText front = true → ∀ rest : Text,
      (front ++ (delimiters.opening ++ rest)).takeWhile Text.isBlank = front := by
    intro front blank rest
    refine (Text.span_append (List.all_eq_true.1 blank) ?_).1
    simp [opening, solid]
  have blanks' := congrArg (List.takeWhile Text.isBlank) same
  rw [leading blanks blank, leading [' '] rfl] at blanks'
  subst blanks'
  exact ⟨rfl, List.append_cancel_left (List.append_cancel_left same)⟩

/-- A block between delimiters is read up to the closing one. -/
theorem read?_opening (delimiters : Delimiters) (text : Text) :
    read? (delimiters.opening ++ text) = closedBy? delimiters.closing text := by
  cases delimiters <;> rfl

end Delimiters

/-- A text that is read as one block between delimiters. -/
structure IsWhole (delimiters : Delimiters) (text : Text) (block : AttributeBlock) : Prop where
  /-- The text begins with the opening delimiter. -/
  opens : delimiters.opening <+: text
  /-- The block is read, and nothing is left. -/
  read : read? text = some (block, [])

/-- A text that is one block ends with the closing delimiter. -/
theorem IsWhole.closes {delimiters : Delimiters} {text : Text} {block : AttributeBlock}
    (whole : IsWhole delimiters text block) : delimiters.closing <:+ text := by
  obtain ⟨⟨inner, rfl⟩, read⟩ := whole
  rw [delimiters.read?_opening] at read
  obtain ⟨⟨_, _⟩, cut, read⟩ := Option.bind_eq_some_iff.1 read
  obtain ⟨_, _, same⟩ := Option.bind_eq_some_iff.1 read
  cases same
  rw [eq_append_of_splitClose? cut, List.append_nil]
  exact ((List.suffix_append _ _).trans (List.suffix_append _ _))

/-- Which delimiter is looked for is told by the end of the text. -/
theorem trailing?_eq {delimiters : Delimiters} {value : Text}
    (closes : delimiters.closing <:+ value) :
    trailing? value = (Text.splitLast? delimiters.opening value).bind fun parts =>
      (read? (delimiters.opening ++ parts.2)).bind fun result =>
        (guard (result.2.isEmpty = true) : Option Unit).bind fun _ =>
          some (Text.trimEnd parts.1, result.1) := by
  have ends : ∀ back : Text, Text.endsWith back value = true ↔ back <:+ value := by
    intro back
    rw [Text.endsWith, List.isSuffixOf_iff_suffix]
  unfold trailing?
  cases delimiters with
  | braces =>
    have braces : Text.endsWith ['\x7d'] value = true := (ends _).2 closes
    rw [if_pos braces]
    rfl
  | brackets =>
    have brackets : Text.endsWith [']', ']'] value = true := (ends _).2 closes
    have noBraces : ¬ Text.endsWith ['\x7d'] value = true := by
      intro brace
      have last := List.suffix_of_suffix_length_le ((ends _).1 brace) closes (by decide)
      revert last
      decide
    rw [if_neg noBraces, if_pos brackets]
    rfl

/-- Behind a title, the title is what is left at the end of a text exactly when the delimiter that
opens the block does not occur in it again, and the block is the one found then. -/
theorem trailing?_eq_some_iff {delimiters : Delimiters} {title text : Text}
    {block found : AttributeBlock} (trimmed : Text.trimEnd title = title)
    (whole : IsWhole delimiters text block) :
    trailing? (title ++ ' ' :: text) = some (title, found) ↔
      found = block ∧ ¬ delimiters.opening <:+: text.tail := by
  have closes : delimiters.closing <:+ title ++ ' ' :: text :=
    whole.closes.trans ((List.suffix_cons ' ' text).trans (List.suffix_append title _))
  obtain ⟨⟨inner, rfl⟩, read⟩ := whole
  have tail : (delimiters.opening ++ inner).tail = delimiters.opening.tail ++ inner := by
    cases delimiters <;> rfl
  have value : title ++ ' ' :: (delimiters.opening ++ inner) =
      (title ++ [' ']) ++ (delimiters.opening ++ inner) := by
    simp
  have own : Text.trimEnd (title ++ [' ']) = title := by
    have dropped : Text.trimEnd (title ++ [' ']) = Text.trimEnd title := by
      have blank : Text.isBlank ' ' = true := rfl
      simp [Text.trimEnd, blank]
    rw [dropped, trimmed]
  rw [trailing?_eq closes, tail, value, ← Text.splitLast?_append_iff delimiters.opening_ne_nil]
  constructor
  · intro result
    obtain ⟨⟨front, back⟩, cut, result⟩ := Option.bind_eq_some_iff.1 result
    obtain ⟨⟨other, after⟩, read', result⟩ := Option.bind_eq_some_iff.1 result
    obtain ⟨_, _, same⟩ := Option.bind_eq_some_iff.1 result
    rw [Option.some.injEq, Prod.mk.injEq] at same
    obtain ⟨title', rfl⟩ := same
    dsimp only at title' read' ⊢
    -- Before the place that was found stands the title with blanks behind it, so there is one.
    obtain ⟨blanks, blank, front'⟩ := Text.trimEnd_blanks front
    have parts := Text.eq_append_of_splitLast? cut
    rw [front', title', List.append_assoc, List.append_assoc] at parts
    obtain ⟨rfl, rfl⟩ := delimiters.eq_of_blanks_opening blank (List.append_cancel_left parts).symm
    rw [title'] at front'
    subst front'
    rw [read, Option.some.injEq, Prod.mk.injEq] at read'
    exact ⟨read'.1.symm, cut⟩
  · rintro ⟨rfl, cut⟩
    rw [cut]
    simp [read, own, guard]

/-! ## The heading -/

/-- A heading on one line of the source whose only child is a text: a title, a blank, and a text
that may be a block. -/
structure IsTitled (source : Text) (heading text : Node) (title written : Text) : Prop where
  /-- It is a heading. -/
  isHeading : ∃ level, heading.kind = .heading level
  /-- It is not underlined. -/
  oneLine : isUnderlined source heading = false
  /-- There is one child. -/
  only : heading.children = [text]
  /-- The child reads so. -/
  reads : text.kind = .text (title ++ ' ' :: written)
  /-- The title is not blank. -/
  visible : Text.isBlankText title = false
  /-- The title ends with no blank. -/
  trimmed : Text.trimEnd title = title

/-- A heading with nothing but a title, and with the attributes of a block besides its own. -/
def retitled (allowed : Bool) (heading text : Node) (title : Text) (block : AttributeBlock) :
    Node :=
  { heading with
    children := [text.withText title]
    data := (block.filterHandlers allowed).apply heading.data }

section

variable (allowed : Bool) {source : Text} {heading text : Node} {title written : Text}
  {delimiters : Delimiters} {block : AttributeBlock}

/-- What becomes of a heading with one text. -/
theorem attachHeading_single {value : Text} (oneLine : isUnderlined source heading = false)
    (only : heading.children = [text]) (reads : text.kind = .text value) :
    attachHeading allowed source heading =
      match trailing? value with
      | some (title, block) =>
        if title.isEmpty then heading else retitled allowed heading text title block
      | none => heading := by
  obtain ⟨kind, children, data, span⟩ := text
  cases reads
  rw [attachHeading, oneLine, only]
  simp only [Bool.false_eq_true, if_false, List.getLast?_singleton, List.dropLast_singleton]
  cases trailing? value with
  | none => rfl
  | some found =>
    obtain ⟨title, block⟩ := found
    cases title <;> rfl

/-- A heading is left with its title exactly when that is what stands before the block at its
end. -/
theorem children_attachHeading_iff (titled : IsTitled source heading text title written) :
    (attachHeading allowed source heading).children = [text.withText title] ↔
      ∃ block, trailing? (title ++ ' ' :: written) = some (title, block) := by
  have nonempty : title.isEmpty = false := by
    cases title with
    | nil => cases titled.visible
    | cons => rfl
  have longer : heading.children ≠ [text.withText title] := by
    intro same
    rw [titled.only, List.singleton_inj] at same
    have kinds := congrArg Node.kind same
    rw [titled.reads, Node.withText, Kind.text.injEq] at kinds
    simpa using congrArg List.length kinds
  rw [attachHeading_single allowed titled.oneLine titled.only titled.reads]
  cases found : trailing? (title ++ ' ' :: written) with
  | none => simpa using longer
  | some result =>
    obtain ⟨other, block⟩ := result
    dsimp only
    split
    · rename_i empty
      refine iff_of_false longer ?_
      rintro ⟨_, same⟩
      cases same
      rw [nonempty] at empty
      cases empty
    · simp [retitled, Node.withText]

/-- A heading is left with one text. -/
theorem exists_children_attachHeading (titled : IsTitled source heading text title written) :
    ∃ value, (attachHeading allowed source heading).children = [text.withText value] := by
  have itself : [text] = [text.withText (title ++ ' ' :: written)] := by
    have reads := titled.reads
    obtain ⟨_, children, data, span⟩ := text
    cases reads
    rfl
  rw [attachHeading_single allowed titled.oneLine titled.only titled.reads]
  split
  · split
    · exact ⟨_, titled.only.trans itself⟩
    · exact ⟨_, rfl⟩
  · exact ⟨_, titled.only.trans itself⟩

/-- A heading takes the block that it ends with exactly when the delimiter that opens the block does
not occur in it again. -/
theorem attachHeading_eq_retitled_iff (titled : IsTitled source heading text title written)
    (whole : IsWhole delimiters written block) :
    attachHeading allowed source heading = retitled allowed heading text title block ↔
      ¬ delimiters.opening <:+: written.tail := by
  constructor
  · intro same
    have children : (attachHeading allowed source heading).children = [text.withText title] := by
      rw [same, retitled]
    obtain ⟨_, found⟩ := (children_attachHeading_iff allowed titled).1 children
    exact ((trailing?_eq_some_iff titled.trimmed whole).1 found).2
  · intro once
    have found := (trailing?_eq_some_iff titled.trimmed whole).2 ⟨rfl, once⟩
    rw [attachHeading_single allowed titled.oneLine titled.only titled.reads, found]
    cases title with
    | nil => cases titled.visible
    | cons => rfl

/-! ## The pass -/

/-- An inline node takes the block after it before any heading. -/
theorem attachInline_append (node : Node) (front rest : List Node) {level : Nat}
    (isHeading : heading.kind = .heading level) :
    attachInline allowed node (front ++ heading :: rest) =
      ((attachInline allowed node front).1,
        (attachInline allowed node front).2 ++ heading :: rest) := by
  obtain ⟨_, children, data, span⟩ := heading
  cases isHeading
  cases front with
  | nil => rfl
  | cons next front =>
    obtain ⟨kind, children', data', span'⟩ := next
    cases kind with
    | text value =>
      simp only [List.cons_append, attachInline]
      split
      · split <;> rfl
      · rfl
    | _ => rfl

/-- A heading takes the block in the paragraph after it before any other heading. -/
theorem attachNextLine_append (node : Node) (front rest : List Node) {level : Nat}
    (isHeading : heading.kind = .heading level) :
    attachNextLine allowed node (front ++ heading :: rest) =
      ((attachNextLine allowed node front).1,
        (attachNextLine allowed node front).2 ++ heading :: rest) := by
  obtain ⟨_, children, data, span⟩ := heading
  cases isHeading
  cases front with
  | nil => rfl
  | cons next front =>
    unfold attachNextLine
    simp only [List.cons_append]
    split
    · rename_i shape
      obtain ⟨rfl, rfl⟩ := List.cons.inj shape
      dsimp only
      split
      · split <;> rfl
      · rfl
    · rename_i other
      split
      · rename_i shape
        obtain ⟨rfl, rfl⟩ := List.cons.inj shape
        exact absurd rfl (other _ _ _ _ _ _ _)
      · rfl

/-- A heading is no part of what the nodes before it take. -/
theorem attach_append (first : Node) (front rest : List Node) {level : Nat}
    (isHeading : heading.kind = .heading level) :
    attach allowed source first (front ++ heading :: rest) =
      ((attach allowed source first front).1,
        (attach allowed source first front).2 ++ heading :: rest) := by
  unfold attach
  split
  · exact attachNextLine_append allowed _ front rest isHeading
  · rfl
  · split
    · exact attachInline_append allowed first front rest isHeading
    · rfl

/-- A heading takes its block before the siblings after it are looked at, and before what is below
it. -/
theorem attachList_cons (node : Node) (rest : List Node) :
    attachList allowed source (node :: rest) =
      { (attach allowed source node rest).1 with
        children := attachList allowed source (attach allowed source node rest).1.children } ::
          attachList allowed source (attach allowed source node rest).2 := by
  rw [attachList]

/-- The siblings before a heading become what they become without it. -/
theorem attachList_append (front rest : List Node) {level : Nat}
    (isHeading : heading.kind = .heading level) :
    attachList allowed source (front ++ heading :: rest) =
      attachList allowed source front ++ attachList allowed source (heading :: rest) := by
  induction front using attachList.induct allowed source with
  | case1 =>
    rw [attachList]
    rfl
  | case2 node front attached below later =>
    rw [List.cons_append, attachList_cons allowed node,
      attach_append allowed node front rest isHeading,
      later, attachList_cons allowed node front, List.cons_append]

/-- The text of a heading stays in its place. -/
theorem attachList_text {value : Text} (reads : text.kind = .text value) :
    attachList allowed source [text] =
      [{ text with children := attachList allowed source text.children }] := by
  obtain ⟨_, children, data, span⟩ := text
  cases reads
  have alone : attach allowed source ⟨.text value, children, data, span⟩ [] =
      (⟨.text value, children, data, span⟩, []) := rfl
  rw [attachList_cons, alone, attachList]

/-- What a heading becomes, with what it takes from its own end and from the paragraph after it. -/
theorem attachList_heading {level : Nat} (isHeading : heading.kind = .heading level)
    (rest : List Node) :
    attachList allowed source (heading :: rest) =
      { (attachNextLine allowed (attachHeading allowed source heading) rest).1 with
        children := attachList allowed source (attachHeading allowed source heading).children } ::
          attachList allowed source (attachNextLine allowed heading rest).2 := by
  have next : ∀ node : Node,
      (attachNextLine allowed node rest).2 = (attachNextLine allowed heading rest).2 := by
    intro node
    unfold attachNextLine
    split
    · dsimp only
      split
      · split <;> rfl
      · rfl
    · rfl
  have attached : attach allowed source heading rest =
      attachNextLine allowed (attachHeading allowed source heading) rest := by
    rw [attach, isHeading]
  rw [attachList_cons, attached, (weight_attachNextLine _ _ _).1, next]

/-- Wherever a heading stands that consists of a title and, behind a blank, a text that is read as
one block: the pass leaves it with its title and gives it the attributes of the block exactly when
the delimiter that opens the block does not occur in it again. (A paragraph after the heading may
give it more.) -/
theorem attachList_heading_iff (titled : IsTitled source heading text title written)
    (whole : IsWhole delimiters written block) (front rest : List Node) :
    attachList allowed source (front ++ heading :: rest) =
        attachList allowed source front ++
          { (attachNextLine allowed (retitled allowed heading text title block) rest).1 with
            children :=
              [{ text.withText title with
                 children := attachList allowed source text.children }] } ::
            attachList allowed source (attachNextLine allowed heading rest).2 ↔
      ¬ delimiters.opening <:+: written.tail := by
  obtain ⟨level, isHeading⟩ := titled.isHeading
  have left : attachList allowed source [text.withText title] =
      [{ text.withText title with children := attachList allowed source text.children }] :=
    attachList_text allowed rfl
  rw [attachList_append allowed front rest isHeading, attachList_heading allowed isHeading,
    List.append_cancel_left_eq, List.cons.injEq, and_iff_left rfl, ← left,
    ← attachHeading_eq_retitled_iff allowed titled whole]
  constructor
  · intro same
    obtain ⟨value, children⟩ := exists_children_attachHeading allowed titled
    have texts := congrArg Node.children same
    dsimp only at texts
    rw [children, left, attachList_text allowed rfl, List.singleton_inj] at texts
    have kinds := congrArg Node.kind texts
    cases kinds
    obtain ⟨_, found⟩ := (children_attachHeading_iff allowed titled).1 children
    exact (attachHeading_eq_retitled_iff allowed titled whole).2
      ((trailing?_eq_some_iff titled.trimmed whole).1 found).2
  · intro same
    rw [same]
    rfl

end

/-- A block with one value, for the name `k`. -/
def valued (value : Text) : AttributeBlock :=
  { properties := [("k".toList, value)] }

/-- The block in its written form is read as a whole. -/
theorem isWhole_valued {value : Text} (unquoted : '"' ∉ value) :
    IsWhole .braces (valued value).written (valued value) := by
  have writable : (valued value).IsWritable :=
    { nonempty := List.cons_ne_nil _ _
      classes := by simp [valued]
      id := by simp [valued]
      properties := by
        intro pair member
        rw [valued, List.mem_singleton] at member
        have long : IsLongName "k".toList := by decide
        rw [member]
        exact ⟨long, unquoted⟩ }
  have read := read?_written writable []
  rw [List.append_nil] at read
  exact ⟨List.prefix_append ['\x7b'] _, read⟩

/-- The text of a heading `T` with the block behind it. -/
def valuedText (value : Text) : Node :=
  Node.text ('T' :: ' ' :: (valued value).written)

/-- A heading with this text. -/
def valuedHeading (value : Text) : Node :=
  { kind := .heading 1, children := [valuedText value] }

/-- The heading has a title and, after it, its block as written. -/
theorem isTitled_valuedHeading (value : Text) :
    IsTitled [] (valuedHeading value) (valuedText value) ['T'] (valued value).written where
  isHeading := ⟨1, rfl⟩
  oneLine := rfl
  only := rfl
  reads := rfl
  visible := rfl
  trimmed := rfl

/-- A heading with a closing brace in a value, between two paragraphs. -/
theorem attachList_heading_iff_closingBrace :
    IsTitled [] (valuedHeading ['\x7d']) (valuedText ['\x7d']) ['T'] (valued ['\x7d']).written ∧
      IsWhole .braces (valued ['\x7d']).written (valued ['\x7d']) ∧
        (attachList false []
            ([Node.paragraph []] ++ valuedHeading ['\x7d'] :: [Node.paragraph []]) =
            attachList false [] [Node.paragraph []] ++
              { (attachNextLine false (retitled false (valuedHeading ['\x7d'])
                  (valuedText ['\x7d']) ['T'] (valued ['\x7d'])) [Node.paragraph []]).1 with
                children :=
                  [{ (valuedText ['\x7d']).withText ['T'] with
                     children := attachList false [] (valuedText ['\x7d']).children }] } ::
                attachList false []
                  (attachNextLine false (valuedHeading ['\x7d']) [Node.paragraph []]).2 ↔
          ¬ Delimiters.braces.opening <:+: (valued ['\x7d']).written.tail) :=
  ⟨isTitled_valuedHeading _, isWhole_valued (by decide),
    attachList_heading_iff false (isTitled_valuedHeading _) (isWhole_valued (by decide)) _ _⟩

/-- A heading with an opening brace in a value keeps the block as text. -/
theorem openingBrace_stays_literal :
    IsTitled [] (valuedHeading ['\x7b']) (valuedText ['\x7b']) ['T'] (valued ['\x7b']).written ∧
      IsWhole .braces (valued ['\x7b']).written (valued ['\x7b']) ∧
        attachList false [] [valuedHeading ['\x7b']] = [valuedHeading ['\x7b']] ∧
          attachList false [] [valuedHeading ['\x7b']] ≠
            [retitled false (valuedHeading ['\x7b']) (valuedText ['\x7b']) ['T']
              (valued ['\x7b'])] := by
  have kept : attachHeading false [] (valuedHeading ['\x7b']) = valuedHeading ['\x7b'] := by
    have none : trailing? ('T' :: ' ' :: (valued ['\x7b']).written) = none := by
      decide +kernel
    rw [attachHeading_single false rfl rfl rfl, none]
  have stays : attachList false [] [valuedHeading ['\x7b']] = [valuedHeading ['\x7b']] := by
    have alone : attachNextLine false (valuedHeading ['\x7b']) [] =
        (valuedHeading ['\x7b'], []) := rfl
    rw [attachList_heading false rfl, kept, alone, attachList, valuedHeading,
      attachList_text false rfl, valuedText, Node.text, attachList]
  refine ⟨isTitled_valuedHeading _, isWhole_valued (by decide), stays, fun same => ?_⟩
  rw [stays, List.singleton_inj] at same
  have children := congrArg Node.children same
  cases children

end Manuscript.AttributeBlock
