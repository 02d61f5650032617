import Manuscript.Proofs.Replacement.Run

/-!
# What the multiplication sign leaves behind

The rule for products runs last, and takes both numbers of a product. It cuts a text into stretches
with a sign between each two (`Cuts`). A number that stands between two letters x belongs to two
products, of which only the first is set: the second is left at the start of a stretch. In the same
way a number that was part of a longer word before is set apart from it by the sign.

Nothing else is left behind. Rules change their own result exactly when there is such a place at a
sign that was set (`applyAll_applyAll_eq_iff`).
-/

namespace Manuscript.Replacement

/-- The rule for products. -/
def multiplication : Replacement :=
  ⟨"multiplication".toList, .product, ['×']⟩

/-- The rule for products searches for them. -/
@[simp] theorem search_multiplication : multiplication.search = .product :=
  rfl

/-- The rule for products sets a multiplication sign. -/
@[simp] theorem image_multiplication : multiplication.image = ['×'] :=
  rfl

/-- What is written between the numbers of a product. -/
def sign : Text :=
  [' ', '×', ' ']

/-- The stretches of a text that stands after `before` between the signs that the rule for products
sets in it: the first stretch, and the later ones. -/
inductive Cuts : Option Char → Text → Text → List Text → Prop
  | nil {before : Option Char} : Cuts before [] [] []
  | set {before : Option Char} {first second found rest stretch : Text} {later : List Text}
      (product : IsProduct first second found) (edge : isWordEdge before = true)
      (edge' : isWordEdge rest.head? = true)
      (inner : Cuts (lastOf before found) rest stretch later) :
      Cuts before (found ++ rest) first ((second ++ stretch) :: later)
  | keep {before : Option Char} {c : Char} {rest stretch : Text} {later : List Text}
      (clear : ¬ multiplication.FindsHere before (c :: rest))
      (inner : Cuts (some c) rest stretch later) :
      Cuts before (c :: rest) (c :: stretch) later

/-- What comes before the first piece comes before all of them joined. -/
theorem joinWith_append (separator front piece : Text) (pieces : List Text) :
    Text.joinWith separator ((front ++ piece) :: pieces) =
      front ++ Text.joinWith separator (piece :: pieces) := by
  cases pieces <;> simp [Text.joinWith]

/-- A run of the rule for products sets signs between stretches. -/
theorem exists_cuts {before : Option Char} {text out : Text}
    (sets : Sets multiplication before text out) :
    ∃ stretch later, Cuts before text stretch later ∧
      out = Text.joinWith sign (stretch :: later) := by
  induction sets with
  | nil => exact ⟨[], [], .nil, rfl⟩
  | set finds writes _ ih =>
    obtain ⟨stretch, later, inner, rfl⟩ := ih
    obtain ⟨_, edge, edge'⟩ := finds
    obtain ⟨first, second, product, rfl⟩ := writes
    refine ⟨first, (second ++ stretch) :: later, .set product edge edge' inner, ?_⟩
    simp [Text.joinWith, joinWith_append, sign]
  | @keep _ c _ _ clear _ ih =>
    obtain ⟨stretch, later, inner, rfl⟩ := ih
    exact ⟨c :: stretch, later, .keep clear inner, (joinWith_append sign [c] stretch later).symm⟩

/-! ## Places beside a sign -/

section

variable {rule : Replacement} {before : Option Char} {found after : Text}

/-- What a rule finds has a character that is no digit. -/
theorem FindsAt.exists_not_digit (finds : rule.FindsAt before found after) (known : rule ∈ all) :
    ∃ c ∈ found, Text.isDecimalDigit c = false := by
  have literal : ∀ rule ∈ all, ∀ needle ∈ rule.search.needles,
      needle.any (!Text.isDecimalDigit ·) = true := by
    decide +kernel
  by_cases product : rule.search = .product
  · simp only [FindsAt, product] at finds
    obtain ⟨⟨first, second, _, _, x, front, back, isX, _, _, rfl⟩, _⟩ := finds
    exact ⟨x, by simp, (letter_class isX).1⟩
  · simpa using literal rule known found (finds.mem_needles product)

/-- Whether a rule is for numbers: a fraction or a product. -/
def Search.isNumeric : Search → Bool
  | .wholeWord _ => true
  | .product => true
  | _ => false

/-- What a rule that is not for numbers finds has no digit. -/
theorem FindsAt.not_digit (finds : rule.FindsAt before found after) (known : rule ∈ all)
    (sign : rule.search.isNumeric = false) : ∀ c ∈ found, Text.isDecimalDigit c = false := by
  have literal : ∀ rule ∈ all, rule.search.isNumeric = false → ∀ needle ∈ rule.search.needles,
      needle.all (!Text.isDecimalDigit ·) = true := by
    decide +kernel
  have notProduct : rule.search ≠ .product := by
    intro product
    simp [product, Search.isNumeric] at sign
  simpa using literal rule known sign found (finds.mem_needles notProduct)

/-- A rule for numbers finds something at the edge of a word only. -/
theorem FindsAt.edge (finds : rule.FindsAt before found after)
    (numeric : rule.search.isNumeric = true) : isWordEdge before = true := by
  obtain ⟨name, search, image⟩ := rule
  cases search with
  | literals needles => cases numeric
  | unlessFollowed needle forbidden => cases numeric
  | wholeWord needle => exact finds.2.1
  | product => exact finds.2.1

/-- What a rule finds neither begins nor ends with a blank. -/
theorem FindsAt.not_blank (finds : rule.FindsAt before found after) (known : rule ∈ all) :
    found.head? ≠ some ' ' ∧ found.getLast? ≠ some ' ' := by
  have literal : ∀ rule ∈ all, ∀ needle ∈ rule.search.needles,
      needle.head? ≠ some ' ' ∧ needle.getLast? ≠ some ' ' := by
    decide
  have blank : Text.isDecimalDigit ' ' = false := by
    decide +kernel
  by_cases product : rule.search = .product
  · simp only [FindsAt, product] at finds
    obtain ⟨⟨first, second, product⟩, _⟩ := finds
    obtain ⟨c, isHead, digit⟩ := product.1.exists_head?
    obtain ⟨d, isLast, digit'⟩ := product.2.1.exists_getLast?
    rw [product.ends.1, product.ends.2, isHead, isLast]
    constructor <;> rintro ⟨⟩ <;> simp [blank] at digit digit'
  · exact literal rule known found (finds.mem_needles product)

/-- A sign behind a place counts as much as the end of the text. -/
theorem findsAt_append_sign (known : rule ∈ all) {rest : Text} :
    rule.FindsAt before found (after ++ (sign ++ rest)) ↔ rule.FindsAt before found after := by
  have space : isWordEdge (some ' ') = true := by
    decide +kernel
  have forbidden : ∀ rule ∈ all, rule.search.forbidden? ≠ some ' ' := by
    decide
  cases after with
  | cons c after => exact ⟨fun finds => finds.of_neighbours id id (fun _ _ => id),
      fun finds => finds.of_neighbours id id (fun _ _ => id)⟩
  | nil =>
    constructor
    · intro finds
      exact finds.of_neighbours id (fun _ => rfl) (by simp)
    · intro finds
      refine finds.of_neighbours id (fun _ => space) ?_
      intro c isForbidden isSpace
      simp only [sign, List.nil_append, List.cons_append, List.head?_cons, Option.some.injEq]
        at isSpace
      exact absurd (isSpace ▸ isForbidden) (forbidden rule known)

/-- A sign behind a text leaves the places at its start as they are. -/
theorem findsHere_append_sign (known : rule ∈ all) {piece rest : Text} :
    rule.FindsHere before (piece ++ (sign ++ rest)) ↔ rule.FindsHere before piece := by
  constructor
  · rintro ⟨found, after, whole, finds⟩
    rcases List.append_eq_append_iff.1 whole with ⟨tail, rfl, behind⟩ | ⟨inner, rfl, rfl⟩
    · -- What is found would have to reach into the sign.
      match tail, behind with
      | [], behind =>
        obtain rfl : sign ++ rest = after := behind
        exact ⟨piece, [], by simp, (findsAt_append_sign known).1 (by simpa using finds)⟩
      | [c], behind =>
        obtain rfl : ' ' = c := (List.cons.inj behind).1
        simpa using (finds.not_blank known).2
      | c :: d :: tail, behind =>
        obtain rfl : '×' = d := (List.cons.inj (List.cons.inj behind).2).1
        exact absurd (by decide) (finds.not_mark known '×' (by simp))
    · exact ⟨found, inner, rfl, (findsAt_append_sign known).1 finds⟩
  · rintro ⟨found, after, rfl, finds⟩
    exact ⟨found, after ++ (sign ++ rest), by simp, (findsAt_append_sign known).2 finds⟩

/-- There is no place at a blank or at a mark. -/
theorem not_findsHere_of_sign (known : rule ∈ all) {c : Char} (isSign : c ∈ sign) {rest : Text} :
    ¬ rule.FindsHere before (c :: rest) := by
  rintro ⟨found, after, whole, finds⟩
  cases found with
  | nil => exact finds.nonempty (isRegular_of_mem_all rule known) rfl
  | cons d found =>
    obtain ⟨rfl, _⟩ := List.cons.inj whole
    have notMark := finds.not_mark known c List.mem_cons_self
    have notBlank := (finds.not_blank known).1
    simp only [sign, List.mem_cons, List.not_mem_nil, or_false] at isSign
    rcases isSign with rfl | rfl | rfl
    · exact notBlank rfl
    · exact notMark (by decide)
    · exact notBlank rfl

/-- Behind a blank there are the places that there are at the start of a text. -/
theorem occursAfter_blank {text : Text} : rule.OccursAfter (some ' ') text ↔ rule.Occurs text := by
  have space : isWordEdge (some ' ') = true := by
    decide +kernel
  constructor
  · intro occurs
    exact occurs.of_edge fun _ => rfl
  · intro occurs
    exact occurs.of_edge fun _ => space

/-- There is a place in two texts with a sign between them exactly when there is one in one of
them. -/
theorem occursAfter_append_sign (known : rule ∈ all) {piece rest : Text} :
    rule.OccursAfter before (piece ++ (sign ++ rest)) ↔
      rule.OccursAfter before piece ∨ rule.Occurs rest := by
  induction piece generalizing before with
  | nil =>
    have blank (before : Option Char) (rest : Text) : ¬ rule.FindsHere before (' ' :: rest) :=
      not_findsHere_of_sign known (by decide)
    have mark (before : Option Char) (rest : Text) : ¬ rule.FindsHere before ('×' :: rest) :=
      not_findsHere_of_sign known (by decide)
    have none : ¬ rule.OccursAfter before [] :=
      not_occursAfter_nil (isRegular_of_mem_all rule known)
    simp [sign, occursAfter_cons, blank, mark, occursAfter_blank, none]
  | cons c piece ih =>
    rw [List.cons_append, occursAfter_cons, occursAfter_cons, ← List.cons_append,
      findsHere_append_sign known, ih, or_assoc]

/-- There is a place in a text of stretches exactly when there is one in a stretch. -/
theorem occursAfter_joinWith (known : rule ∈ all) {stretch : Text} {later : List Text} :
    rule.OccursAfter before (Text.joinWith sign (stretch :: later)) ↔
      rule.OccursAfter before stretch ∨ ∃ piece ∈ later, rule.Occurs piece := by
  induction later generalizing before stretch with
  | nil => simp [Text.joinWith]
  | cons next later ih =>
    rw [Text.joinWith, List.append_assoc, occursAfter_append_sign known, Occurs, ih]
    · simp [Occurs]
    · simp

end

/-! ## Shared numbers -/

/-- There is a place at the end of a text that stands after `before`. -/
def EndsAfter (rule : Replacement) (before : Option Char) (text : Text) : Prop :=
  ∃ front found, text = front ++ found ∧ rule.FindsAt (lastOf before front) found []

/-- No place in a stretch touches a sign: none ends where the next stretch follows, and none begins
where another stretch came before. -/
def Apart (rule : Replacement) (before : Option Char) (stretch : Text) : List Text → Prop
  | [] => True
  | next :: later =>
    ¬ rule.EndsAfter before stretch ∧ ¬ rule.FindsHere none next ∧ rule.Apart none next later

section

variable {rule : Replacement} {before : Option Char} {text stretch : Text} {later : List Text}

/-- A place at the end of a part of a stretch is one at the end of the stretch. -/
theorem Apart.of_append (front : Text) (apart : rule.Apart before (front ++ stretch) later) :
    rule.Apart (lastOf before front) stretch later := by
  cases later with
  | nil => trivial
  | cons next later =>
    obtain ⟨ends, others⟩ := apart
    refine ⟨?_, others⟩
    rintro ⟨inner, found, rfl, finds⟩
    exact ends ⟨front ++ inner, found, by simp, by simpa using finds⟩

/-- Where there is no place, none touches a sign. -/
theorem apart_of_not_occursAfter (none : ¬ rule.OccursAfter before stretch)
    (others : ∀ piece ∈ later, ¬ rule.Occurs piece) : rule.Apart before stretch later := by
  induction later generalizing before stretch with
  | nil => trivial
  | cons next later ih =>
    obtain ⟨first, others⟩ := List.forall_mem_cons.1 others
    refine ⟨?_, ?_, ih first others⟩
    · rintro ⟨front, found, rfl, finds⟩
      exact none ⟨front, found, [], by simp, finds⟩
    · rintro ⟨found, after, rfl, finds⟩
      exact first ⟨[], found, after, rfl, finds⟩

/-- The first stretch stands at the start of the text, and is all of it if no sign is set. -/
theorem Cuts.begins (cuts : Cuts before text stretch later) :
    ∃ rest, text = stretch ++ rest ∧ (later = [] → rest = []) := by
  induction cuts with
  | nil => exact ⟨[], rfl, fun _ => rfl⟩
  | set product _ _ _ _ =>
    obtain ⟨_, _, x, front, back, _, _, _, rfl⟩ := product
    exact ⟨_, List.append_assoc _ _ _, by simp⟩
  | keep _ _ ih =>
    obtain ⟨rest, rfl, reached⟩ := ih
    exact ⟨rest, rfl, reached⟩

/-- There is no place in a number. -/
theorem not_occursAfter_number (known : rule ∈ all) {number : Text} (isNumber : IsNumber number) :
    ¬ rule.OccursAfter before number := by
  rintro ⟨front, found, back, rfl, finds⟩
  obtain ⟨c, member, notDigit⟩ := finds.exists_not_digit known
  simp [isNumber.2 c (by simp [member])] at notDigit

/-- A place in a number and what follows it is at the start, or behind the number. -/
theorem occurs_number_append (known : rule ∈ all) {number rest : Text} (isNumber : IsNumber number)
    (occurs : rule.Occurs (number ++ rest)) :
    rule.FindsHere none (number ++ rest) ∨ rule.OccursAfter (lastOf none number) rest := by
  obtain ⟨front, found, back, whole, finds⟩ := occurs
  rcases List.append_eq_append_iff.1 whole with ⟨inner, rfl, rfl⟩ | ⟨tail, rfl, behind⟩
  · exact .inr ⟨inner, found, back, rfl, by simpa using finds⟩
  · cases tail with
    | nil => exact .inr ⟨[], found, back, behind.symm, by simpa using finds⟩
    | cons c tail =>
      cases front with
      | nil => exact .inl ⟨found, back, whole, finds⟩
      | cons d front =>
        -- The place would begin inside the number.
        exfalso
        have digit := isNumber.2 c (by simp)
        cases numeric : rule.search.isNumeric with
        | false =>
          obtain ⟨e, found, rfl⟩ :=
            List.exists_cons_of_ne_nil (finds.nonempty (isRegular_of_mem_all rule known))
          obtain rfl : e = c := (List.cons.inj behind).1
          simp [finds.not_digit known numeric] at digit
        | true =>
          have edge := finds.edge numeric
          have digits : IsNumber (d :: front) :=
            ⟨by simp, fun c member => isNumber.2 c (List.mem_append_left _ member)⟩
          obtain ⟨last, isLast, digit⟩ := digits.exists_getLast?
          rw [lastOf_of_ne_nil digits.1, isLast, not_isWordEdge_of_digit digit] at edge
          cases edge

/-- Where the rule for products has run on a text in which nothing was left for a rule, all that is
left for the rule touches a sign. -/
theorem Cuts.not_occursAfter (cuts : Cuts before text stretch later) (known : rule ∈ all)
    (clear : rule = multiplication ∨ ¬ rule.OccursAfter before text)
    (apart : rule.Apart before stretch later) :
    ¬ rule.OccursAfter before stretch ∧ ∀ piece ∈ later, ¬ rule.Occurs piece := by
  induction cuts with
  | nil => exact ⟨not_occursAfter_nil (isRegular_of_mem_all rule known), by simp⟩
  | @set before first second found rest stretch later product edge edge' inner ih =>
    obtain ⟨_, begins, apart⟩ := apart
    have same : lastOf none second = lastOf before found := (product.lastOf_eq before none).symm
    obtain ⟨none, others⟩ := ih (clear.imp_right fun none occurs => none occurs.append)
      (same ▸ apart.of_append second)
    refine ⟨not_occursAfter_number known product.1, ?_⟩
    simp only [List.forall_mem_cons]
    refine ⟨?_, others⟩
    intro occurs
    exact (occurs_number_append known product.2.1 occurs).elim begins (same ▸ none)
  | @keep before c rest stretch later free inner ih =>
    obtain ⟨none, others⟩ := ih
      (clear.imp_right fun none occurs => none (occursAfter_cons.2 (.inr occurs)))
      (Apart.of_append [c] apart)
    refine ⟨?_, others⟩
    intro occurs
    rcases occursAfter_cons.1 occurs with ⟨found, back, whole, finds⟩ | occurs
    · obtain ⟨tail, rfl, reached⟩ := inner.begins
      by_cases ends : back = [] ∧ later ≠ []
      · obtain ⟨rfl, nonempty⟩ := ends
        obtain ⟨next, later, rfl⟩ := List.exists_cons_of_ne_nil nonempty
        exact apart.1 ⟨[], found, by simpa using whole, finds⟩
      · have here : rule.FindsHere before (c :: (stretch ++ tail)) := by
          refine ⟨found, back ++ tail, ?_, finds.append ?_⟩
          · rw [← List.cons_append, whole, List.append_assoc]
          · intro isEnd
            exact reached (by simpa [isEnd] using ends)
        rcases clear with rfl | clear
        · exact free here
        · exact clear (occursAfter_cons.2 (.inl here))
    · exact none occurs

/-- What is left for a rule touches a sign. -/
theorem Cuts.occurs_iff (cuts : Cuts none text stretch later) (known : rule ∈ all)
    (clear : rule = multiplication ∨ ¬ rule.Occurs text) :
    rule.Occurs (Text.joinWith sign (stretch :: later)) ↔ ¬ rule.Apart none stretch later := by
  rw [Occurs, occursAfter_joinWith known]
  constructor
  · intro occurs apart
    obtain ⟨none, others⟩ := cuts.not_occursAfter known clear apart
    rcases occurs with occurs | ⟨piece, member, occurs⟩
    · exact none occurs
    · exact others piece member occurs
  · intro touches
    by_contra none
    simp only [not_or, not_exists, not_and] at none
    exact touches (apart_of_not_occursAfter none.1 none.2)

/-- A stretch ends with a digit where one that begins with a digit follows it. -/
def Borders (left right : Text) : Prop :=
  (∃ c, left.getLast? = some c ∧ Text.isDecimalDigit c = true) ∧
    ∃ c, right.head? = some c ∧ Text.isDecimalDigit c = true

/-- Stretches still border on each other with more text before the first. -/
theorem isChain_borders_append (front : Text) (chain : (stretch :: later).IsChain Borders) :
    ((front ++ stretch) :: later).IsChain Borders := by
  cases later with
  | nil => simp
  | cons next later =>
    simp only [List.isChain_cons_cons] at chain ⊢
    obtain ⟨⟨⟨c, isLast, digit⟩, begins⟩, others⟩ := chain
    exact ⟨⟨⟨c, by simp [isLast], digit⟩, begins⟩, others⟩

/-- Signs stand between digits. -/
theorem Cuts.isChain_borders (cuts : Cuts before text stretch later) :
    (stretch :: later).IsChain Borders := by
  induction cuts with
  | nil => simp
  | set product _ _ _ ih =>
    obtain ⟨c, isHead, digit⟩ := product.2.1.exists_head?
    refine List.isChain_cons_cons.2 ⟨⟨product.1.exists_getLast?, c, ?_, digit⟩,
      isChain_borders_append _ ih⟩
    simp [isHead]
  | @keep _ c _ _ _ _ _ ih => exact isChain_borders_append [c] ih

/-- A place of a rule that is not for numbers touches no digit. -/
theorem apart_of_not_numeric (known : rule ∈ all) (plain : rule.search.isNumeric = false)
    (chain : (stretch :: later).IsChain Borders) : rule.Apart before stretch later := by
  induction later generalizing before stretch with
  | nil => trivial
  | cons next later ih =>
    obtain ⟨⟨⟨c, isLast, digit⟩, d, isHead, digit'⟩, others⟩ := List.isChain_cons_cons.1 chain
    refine ⟨?_, ?_, ih others⟩
    · rintro ⟨front, found, rfl, finds⟩
      obtain ⟨found, last, rfl⟩ := found.eq_nil_or_concat'.resolve_left
        (finds.nonempty (isRegular_of_mem_all rule known))
      obtain rfl : last = c := by simpa [← List.append_assoc] using isLast
      simp [finds.not_digit known plain last (by simp)] at digit
    · rintro ⟨found, after, rfl, finds⟩
      obtain ⟨e, found, rfl⟩ :=
        List.exists_cons_of_ne_nil (finds.nonempty (isRegular_of_mem_all rule known))
      obtain rfl : e = d := by simpa using isHead
      simp [finds.not_digit known plain e (by simp)] at digit'

end

/-! ## Rules on their own result -/

/-- The rules that are active without the one for products look for literal texts. -/
theorem active_cons_multiplication (disabled : List Text) :
    active (multiplication.name :: disabled) =
      literal.filter fun rule => !disabled.contains rule.name := by
  have named : ∀ rule ∈ all, (rule.name == multiplication.name) = (rule.search == .product) := by
    decide
  rw [active, literal, List.filter_filter]
  apply List.filter_congr
  intro rule member
  rw [List.contains_cons, named rule member, Bool.not_or, Bool.and_comm]
  rfl

/-- The rule for products runs last. -/
theorem active_eq_append {disabled : List Text} (on : multiplication.name ∉ disabled) :
    active disabled = active (multiplication.name :: disabled) ++ [multiplication] := by
  have whole : all = literal ++ [multiplication] := by
    decide
  rw [active_cons_multiplication, active, whole, List.filter_append]
  congr 1
  simpa using on

/-- Disabling the rule for products again changes nothing. -/
theorem active_eq_self {disabled : List Text} (off : multiplication.name ∈ disabled) :
    active (multiplication.name :: disabled) = active disabled := by
  apply List.filter_congr
  intro rule _
  by_cases product : rule.name = multiplication.name
  · simp [product, off]
  · simp [product]

/-- The active rules are some of all the rules. -/
theorem active_subset (disabled : List Text) : active disabled ⊆ all :=
  List.filter_subset_self _

/-- Rules for literal texts leave nothing to be found. -/
theorem not_occurs_applyAll_active (disabled : List Text) (text : Text) :
    ∀ rule ∈ active (multiplication.name :: disabled),
      ¬ rule.Occurs (applyAll (active (multiplication.name :: disabled)) text) := by
  have known := active_subset (multiplication.name :: disabled)
  rw [active_cons_multiplication] at known ⊢
  apply not_occurs_applyAll
  · intro rule member
    exact isRegular_of_mem_all rule (known member)
  · intro rule member
    exact spares_of_mem_literal rule (List.mem_of_mem_filter member)
  · exact pairwise_spares_literal.filter _

/-- When the rules run on their own result, they change it only if the multiplication sign was set
beside a place.

No arrow and no plus-minus sign is left after the first run. Without the rule for products nothing
is left at all. With it, the rules before it leave a text that it cuts into stretches, and nothing
is left exactly when no place of an active rule ends where a sign was set or begins behind one. -/
theorem applyAll_applyAll_eq_iff (disabled : List Text) (text : Text) :
    let rules := active disabled
    let result := applyAll rules text
    (∀ rule ∈ rules, rule.search.isNumeric = false → ¬ rule.Occurs result) ∧
      (applyAll rules result = result ↔ ∀ rule ∈ rules, ¬ rule.Occurs result) ∧
      (multiplication.name ∈ disabled → applyAll rules result = result) ∧
      (multiplication.name ∉ disabled → ∃ stretch later,
        Cuts none (applyAll (active (multiplication.name :: disabled)) text) stretch later ∧
          result = Text.joinWith sign (stretch :: later) ∧
          (applyAll rules result = result ↔ ∀ rule ∈ rules, rule.Apart none stretch later)) := by
  intro rules result
  have known : rules ⊆ all := active_subset disabled
  have changes : applyAll rules result = result ↔ ∀ rule ∈ rules, ¬ rule.Occurs result :=
    applyAll_eq_self_iff known
  have literals := not_occurs_applyAll_active disabled text
  by_cases off : multiplication.name ∈ disabled
  · rw [active_eq_self off] at literals
    exact ⟨fun rule member _ => literals rule member, changes, fun _ => changes.2 literals,
      fun on => absurd off on⟩
  · have parts : rules = active (multiplication.name :: disabled) ++ [multiplication] :=
      active_eq_append off
    have run : result = applyFrom multiplication none 0
        (applyAll (active (multiplication.name :: disabled)) text) := by
      simp [result, parts, applyAll]
    obtain ⟨stretch, later, cuts, joined⟩ := exists_cuts (sets_applyFrom rfl none
      (applyAll (active (multiplication.name :: disabled)) text))
    have left (rule : Replacement) (member : rule ∈ rules) :
        rule.Occurs result ↔ ¬ rule.Apart none stretch later := by
      rw [run, joined]
      apply cuts.occurs_iff (known member)
      rw [parts, List.mem_append, List.mem_singleton] at member
      exact member.symm.imp_right (literals rule)
    refine ⟨?_, changes, fun on => absurd on off, fun _ => ⟨_, _, cuts, run.trans joined, ?_⟩⟩
    · intro rule member plain
      rw [left rule member, not_not]
      exact apart_of_not_numeric (known member) plain cuts.isChain_borders
    · rw [changes]
      exact forall₂_congr fun rule member => by rw [left rule member, not_not]

/-- The middle number of a chain belongs to two products, of which the first run sets one and the
second run the other. -/
theorem chain_changes_twice :
    applyAll (active []) "1 x 2 x 3".toList = "1 × 2 x 3".toList ∧
      applyAll (active []) (applyAll (active []) "1 x 2 x 3".toList) = "1 × 2 × 3".toList ∧
        applyAll (active []) (applyAll (active []) "1 x 2 x 3".toList) ≠
          applyAll (active []) "1 x 2 x 3".toList := by
  decide +kernel

end Manuscript.Replacement
