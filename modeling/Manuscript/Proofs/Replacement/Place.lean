import Manuscript.Proofs.Text.Class
import Manuscript.Proofs.Text.Ends
import Manuscript.Proofs.Text.Search
import Manuscript.Prose.Replacement
import Mathlib.Data.Option.Basic

/-!
# The places of replacement rules

Where a rule finds something to replace is said without the search (`FindsAt`): by what stands there
and by its neighbours. The search at the start of a text finds a place exactly where there is one:
what it writes stands for a place, or for a needle that is kept (`matchAt?_eq_some`), and where it
writes nothing there is no place (`not_findsHere_of_matchAt?`).
-/

namespace Manuscript.Replacement

/-! ## Places -/

/-- The character before what follows a text that stands after `before`. -/
def lastOf (before : Option Char) (front : Text) : Option Char :=
  front.foldl (fun _ c => some c) before

/-- Behind no text stands what stood before it. -/
@[simp] theorem lastOf_nil (before : Option Char) : lastOf before [] = before :=
  rfl

/-- The last character of a text is looked for behind the first. -/
@[simp] theorem lastOf_cons (before : Option Char) (c : Char) (rest : Text) :
    lastOf before (c :: rest) = lastOf (some c) rest :=
  rfl

/-- The last character of two texts is that of the second, read after the first. -/
@[simp] theorem lastOf_append (before : Option Char) (front back : Text) :
    lastOf before (front ++ back) = lastOf (lastOf before front) back :=
  List.foldl_append

/-- The last character of a text comes before what follows it. -/
theorem lastOf_of_ne_nil {front : Text} (nonempty : front ≠ []) (before : Option Char) :
    lastOf before front = front.getLast? := by
  rw [← List.dropLast_append_getLast nonempty]
  simp

/-- A number: one or more decimal digits. -/
def IsNumber (text : Text) : Prop :=
  text ≠ [] ∧ ∀ c ∈ text, Text.isDecimalDigit c = true

/-- A product: two numbers with a letter x between them, which blanks may stand around. -/
def IsProduct (first second found : Text) : Prop :=
  IsNumber first ∧ IsNumber second ∧ ∃ x front back, (x = 'x' ∨ x = 'X') ∧
    Text.isBlankText front = true ∧ Text.isBlankText back = true ∧
      found = first ++ (front ++ x :: (back ++ second))

/-- Where a rule finds something to replace: at `found`, with the character `before` before it and
`after` behind it. -/
def FindsAt (rule : Replacement) (before : Option Char) (found after : Text) : Prop :=
  match rule.search with
  | .literals needles => found ∈ needles
  | .unlessFollowed needle forbidden => found = needle ∧ after.head? ≠ some forbidden
  | .wholeWord needle =>
    found = needle ∧ isWordEdge before = true ∧ isWordEdge after.head? = true
  | .product =>
    (∃ first second, IsProduct first second found) ∧
      isWordEdge before = true ∧ isWordEdge after.head? = true

/-- What a rule writes in place of what it finds. -/
def Writes (rule : Replacement) (found image : Text) : Prop :=
  match rule.search with
  | .product => ∃ first second, IsProduct first second found ∧
      image = first ++ ' ' :: (rule.image ++ ' ' :: second)
  | _ => image = rule.image

/-- There is a place for a rule at the start of a text that stands after `before`. -/
def FindsHere (rule : Replacement) (before : Option Char) (text : Text) : Prop :=
  ∃ found after, text = found ++ after ∧ rule.FindsAt before found after

/-- There is a place for a rule in a text that stands after `before`. -/
def OccursAfter (rule : Replacement) (before : Option Char) (text : Text) : Prop :=
  ∃ front found back, text = front ++ (found ++ back) ∧
    rule.FindsAt (lastOf before front) found back

/-- There is a place for a rule in a text. -/
def Occurs (rule : Replacement) (text : Text) : Prop :=
  rule.OccursAfter none text

/-- The literal texts that a rule looks for. -/
def Search.needles : Search → List Text
  | .literals needles => needles
  | .unlessFollowed needle _ => [needle]
  | .wholeWord needle => [needle]
  | .product => []

/-- The character that must not follow what a rule looks for. -/
def Search.forbidden? : Search → Option Char
  | .unlessFollowed _ forbidden => some forbidden
  | _ => none

/-- Whether no needle is empty, and one that depends on what follows has its first character only
once, so that the search cannot miss a place by looking at another one. -/
def Search.isRegular : Search → Bool
  | .literals needles => needles.all (!·.isEmpty)
  | .unlessFollowed [] _ => false
  | .unlessFollowed (c :: needle) _ => !needle.contains c
  | .wholeWord needle => !needle.isEmpty
  | .product => true

/-- Every rule searches for something regular. -/
theorem isRegular_of_mem_all : ∀ rule ∈ all, rule.search.isRegular = true := by
  decide

section

variable {rule : Replacement} {before : Option Char} {found after text : Text}

/-- Something is found. -/
theorem FindsAt.nonempty (finds : rule.FindsAt before found after)
    (regular : rule.search.isRegular = true) : found ≠ [] := by
  rintro rfl
  obtain ⟨name, search, image⟩ := rule
  cases search with
  | literals needles => simpa using List.all_eq_true.1 regular [] finds
  | unlessFollowed needle forbidden =>
    obtain ⟨rfl, _⟩ := finds
    cases regular
  | wholeWord needle =>
    obtain ⟨rfl, _⟩ := finds
    cases regular
  | product =>
    obtain ⟨⟨first, second, ⟨nonempty, _⟩, _, _, _, _, _, _, _, whole⟩, _⟩ := finds
    exact nonempty (List.append_eq_nil_iff.1 whole.symm).1

/-- A rule for literal texts finds its needles. -/
theorem FindsAt.mem_needles (finds : rule.FindsAt before found after)
    (literal : rule.search ≠ .product) : found ∈ rule.search.needles := by
  obtain ⟨name, search, image⟩ := rule
  cases search with
  | literals needles => exact finds
  | unlessFollowed needle forbidden => exact List.mem_singleton.2 finds.1
  | wholeWord needle => exact List.mem_singleton.2 finds.1
  | product => exact absurd rfl literal

/-- A place is one between other neighbours as well, if they are edges of a word where the first
ones are and the forbidden character does not come in. -/
theorem FindsAt.of_neighbours {before' : Option Char} {after' : Text}
    (finds : rule.FindsAt before found after)
    (edge : isWordEdge before = true → isWordEdge before' = true)
    (edge' : isWordEdge after.head? = true → isWordEdge after'.head? = true)
    (follows : ∀ c, rule.search.forbidden? = some c → after'.head? = some c →
      after.head? = some c) :
    rule.FindsAt before' found after' := by
  obtain ⟨name, search, image⟩ := rule
  cases search with
  | literals needles => exact finds
  | unlessFollowed needle forbidden => exact ⟨finds.1, mt (follows forbidden rfl) finds.2⟩
  | wholeWord needle => exact ⟨finds.1, edge finds.2.1, edge' finds.2.2⟩
  | product => exact ⟨finds.1, edge finds.2.1, edge' finds.2.2⟩

/-- What comes behind the character after a place does not count. -/
theorem FindsAt.append (finds : rule.FindsAt before found after) {rest : Text}
    (reached : after = [] → rest = []) : rule.FindsAt before found (after ++ rest) := by
  have same : (after ++ rest).head? = after.head? := by
    cases after with
    | nil => simp [reached]
    | cons c after => rfl
  exact finds.of_neighbours id (by simp [same]) (by simp [same])

/-- A place in a text that begins with a character is at the start or later. -/
theorem occursAfter_cons {c : Char} {rest : Text} :
    rule.OccursAfter before (c :: rest) ↔
      rule.FindsHere before (c :: rest) ∨ rule.OccursAfter (some c) rest := by
  constructor
  · rintro ⟨front, found, back, whole, finds⟩
    cases front with
    | nil => exact .inl ⟨found, back, whole, finds⟩
    | cons d front =>
      obtain ⟨rfl, later⟩ := List.cons.inj whole
      exact .inr ⟨front, found, back, later, finds⟩
  · rintro (⟨found, back, whole, finds⟩ | ⟨front, found, back, whole, finds⟩)
    · exact ⟨[], found, back, whole, finds⟩
    · exact ⟨c :: front, found, back, congrArg (c :: ·) whole, finds⟩

/-- Only whether the start of a text is the edge of a word counts. -/
theorem OccursAfter.of_edge {before' : Option Char} (occurs : rule.OccursAfter before text)
    (edge : isWordEdge before = true → isWordEdge before' = true) :
    rule.OccursAfter before' text := by
  obtain ⟨front, found, back, rfl, finds⟩ := occurs
  cases front with
  | nil => exact ⟨[], found, back, rfl, finds.of_neighbours edge id fun _ _ => id⟩
  | cons c front => exact ⟨c :: front, found, back, rfl, finds⟩

/-- A regular rule finds nothing in an empty text. -/
theorem not_occursAfter_nil (regular : rule.search.isRegular = true) :
    ¬ rule.OccursAfter before [] := by
  rintro ⟨front, found, back, whole, finds⟩
  obtain ⟨_, whole⟩ := List.append_eq_nil_iff.1 whole.symm
  exact finds.nonempty regular (List.append_eq_nil_iff.1 whole).1

/-- A place in what follows a text is one in the whole. -/
theorem OccursAfter.append {front : Text} (occurs : rule.OccursAfter (lastOf before front) text) :
    rule.OccursAfter before (front ++ text) := by
  obtain ⟨inner, found, back, rfl, finds⟩ := occurs
  exact ⟨front ++ inner, found, back, (List.append_assoc _ _ _).symm, by rwa [lastOf_append]⟩

end

/-! ## Products -/

section

variable {number first second found : Text}

/-- A number begins with a digit. -/
theorem IsNumber.exists_head? (isNumber : IsNumber number) :
    ∃ c, number.head? = some c ∧ Text.isDecimalDigit c = true := by
  obtain ⟨c, rest, rfl⟩ := List.exists_cons_of_ne_nil isNumber.1
  exact ⟨c, rfl, isNumber.2 c List.mem_cons_self⟩

/-- A number ends with a digit. -/
theorem IsNumber.exists_getLast? (isNumber : IsNumber number) :
    ∃ c, number.getLast? = some c ∧ Text.isDecimalDigit c = true := by
  refine ⟨number.getLast isNumber.1, List.getLast?_eq_some_getLast isNumber.1, ?_⟩
  exact isNumber.2 _ (List.getLast_mem isNumber.1)

/-- A product begins and ends as its numbers do. -/
theorem IsProduct.ends (product : IsProduct first second found) :
    found.head? = first.head? ∧ found.getLast? = second.getLast? := by
  obtain ⟨isNumber, isNumber', x, front, back, _, _, _, rfl⟩ := product
  obtain ⟨c, isHead, _⟩ := isNumber.exists_head?
  obtain ⟨d, isLast, _⟩ := isNumber'.exists_getLast?
  constructor
  · simp [List.head?_append, isHead]
  · simp [List.getLast?_append, List.getLast?_cons, isLast]

/-- A product ends as its second factor does, whatever stands before it. -/
theorem IsProduct.lastOf_eq (product : IsProduct first second found)
    (before before' : Option Char) : lastOf before found = lastOf before' second := by
  have nonempty : found ≠ [] := by
    rintro rfl
    obtain ⟨c, isHead, _⟩ := product.1.exists_head?
    simp [← product.ends.1] at isHead
  rw [lastOf_of_ne_nil nonempty, lastOf_of_ne_nil product.2.1.1, product.ends.2]

end

/-- What follows a digit inside a word is no edge of the word. -/
theorem not_isWordEdge_of_digit {c : Char} (digit : Text.isDecimalDigit c = true) :
    isWordEdge (some c) = false := by
  simp [isWordEdge, Text.isWordCharacter_of_isDecimalDigit digit]

/-- The letter of a product is neither a digit nor a blank. -/
theorem letter_class {x : Char} (isLetter : x = 'x' ∨ x = 'X') :
    Text.isDecimalDigit x = false ∧ Text.isBlank x = false := by
  rcases isLetter with rfl | rfl <;> decide +kernel

/-- A nonempty text of which every character is a digit is a number. -/
theorem isNumber_takeWhile {text : Text} (nonempty : text.takeWhile Text.isDecimalDigit ≠ []) :
    IsNumber (text.takeWhile Text.isDecimalDigit) :=
  ⟨nonempty, List.all_eq_true.1 List.all_takeWhile⟩

/-- What is read as two numbers with a letter x between them is a product. -/
theorem isProduct_of_product? {text first second after : Text}
    (read : product? text = some (first, second, after)) :
    ∃ found, text = found ++ after ∧ IsProduct first second found ∧
      isWordEdge after.head? = true := by
  unfold product? at read
  dsimp only at read
  split at read
  · rename_i digit digits x rest isFirst isRest
    obtain ⟨isX, read⟩ := Option.ite_none_right_eq_some.1 read
    obtain ⟨ends, read⟩ := Option.ite_none_right_eq_some.1 read
    cases read
    simp only [Bool.and_eq_true, Bool.not_eq_true', List.isEmpty_eq_false_iff] at ends
    have number : IsNumber (text.takeWhile Text.isDecimalDigit) := by
      apply isNumber_takeWhile
      simp [isFirst]
    refine ⟨_, ?_, ⟨number, isNumber_takeWhile ends.1, x, _, _, by simpa using isX,
      Text.isBlankText_takeWhile (text.dropWhile Text.isDecimalDigit),
      Text.isBlankText_takeWhile rest, rfl⟩, ends.2⟩
    simp only [List.append_assoc, List.cons_append, List.takeWhile_append_dropWhile]
    rw [← isRest, List.takeWhile_append_dropWhile, List.takeWhile_append_dropWhile]
  · cases read

/-- A product that ends at the edge of a word is read. -/
theorem product?_of_isProduct {first second found after : Text}
    (product : IsProduct first second found) (edge : isWordEdge after.head? = true) :
    product? (found ++ after) = some (first, second, after) := by
  obtain ⟨⟨nonempty, digits⟩, ⟨nonempty', digits'⟩, x, front, back, isX, blank, blank', rfl⟩ :=
    product
  obtain ⟨notDigit, notBlank⟩ := letter_class isX
  have afterFirst : ∀ c ∈ (front ++ x :: (back ++ (second ++ after))).head?,
      Text.isDecimalDigit c = false := by
    cases front with
    | nil => simpa using notDigit
    | cons b front =>
      simpa using Text.not_isDecimalDigit_of_isBlank (List.all_eq_true.1 blank b (by simp))
  have beforeSecond : ∀ c ∈ (second ++ after).head?, Text.isBlank c = false := by
    obtain ⟨digit, second, rfl⟩ := List.exists_cons_of_ne_nil nonempty'
    intro c isHead
    cases isHead
    rw [Bool.eq_false_iff]
    intro blank
    simpa [Text.not_isDecimalDigit_of_isBlank blank] using digits' digit (by simp)
  have afterSecond : ∀ c ∈ after.head?, Text.isDecimalDigit c = false := by
    intro c isHead
    rw [Bool.eq_false_iff]
    intro digit
    rw [Option.mem_def.1 isHead, not_isWordEdge_of_digit digit] at edge
    cases edge
  obtain ⟨readFirst, restFirst⟩ := Text.span_append digits afterFirst
  obtain ⟨readSecond, restSecond⟩ := Text.span_append digits' afterSecond
  have beforeLetter : ∀ c ∈ (x :: (back ++ (second ++ after))).head?, Text.isBlank c = false := by
    simpa using notBlank
  have restFront := (Text.span_append (List.all_eq_true.1 blank) beforeLetter).2
  have restBack := (Text.span_append (List.all_eq_true.1 blank') beforeSecond).2
  obtain ⟨digit, first, rfl⟩ := List.exists_cons_of_ne_nil nonempty
  simp only [List.cons_append] at readFirst restFirst
  simp [product?, readFirst, restFirst, restFront, restBack, readSecond, restSecond, nonempty', isX,
    edge]

/-! ## The search -/

section

variable {rule : Replacement} {before : Option Char} {text after image : Text}

/-- What is written in place of something stands for a place of the rule there, or it is a needle
that is kept because of the character that follows it. -/
theorem matchAt?_eq_some (found : rule.matchAt? before text = some (image, after)) :
    (∃ piece, text = piece ++ after ∧ rule.FindsAt before piece after ∧ rule.Writes piece image) ∨
      ∃ forbidden, rule.search = .unlessFollowed image forbidden ∧ text = image ++ after ∧
        after.head? = some forbidden := by
  obtain ⟨name, search, mark⟩ := rule
  cases search with
  | literals needles =>
    obtain ⟨needle, member, found⟩ := List.exists_of_findSome?_eq_some found
    obtain ⟨rest, begins, same⟩ := Option.map_eq_some_iff.1 found
    cases same
    exact .inl ⟨needle, Text.dropFront?_eq_some_iff.1 begins, member, rfl⟩
  | unlessFollowed needle forbidden =>
    obtain ⟨rest, begins, same⟩ := Option.map_eq_some_iff.1 found
    cases same
    have whole := Text.dropFront?_eq_some_iff.1 begins
    by_cases follows : after.head? = some forbidden
    · exact .inr ⟨forbidden, by simp [follows], by simpa [follows] using whole, follows⟩
    · exact .inl ⟨needle, whole, ⟨rfl, follows⟩, by simp [follows, Writes]⟩
  | wholeWord needle =>
    simp only [matchAt?, Option.bind_eq_bind, Option.bind_eq_some_iff] at found
    obtain ⟨rest, begins, _, edges, same⟩ := found
    cases same
    rw [Option.guard_eq_some', Bool.and_eq_true] at edges
    exact .inl ⟨needle, Text.dropFront?_eq_some_iff.1 begins, ⟨rfl, edges⟩, rfl⟩
  | product =>
    simp only [matchAt?, Option.bind_eq_bind, Option.bind_eq_some_iff] at found
    obtain ⟨_, edge, ⟨first, second, rest⟩, read, same⟩ := found
    cases same
    obtain ⟨piece, whole, product, edge'⟩ := isProduct_of_product? read
    exact .inl ⟨piece, whole, ⟨⟨first, second, product⟩, (Option.guard_eq_some' _).1 edge, edge'⟩,
      first, second, product, by simp⟩

/-- Where nothing is written in place of the start of a text, there is no place of the rule. -/
theorem not_findsHere_of_matchAt? (none : rule.matchAt? before text = none) :
    ¬ rule.FindsHere before text := by
  rintro ⟨piece, after, rfl, finds⟩
  obtain ⟨name, search, mark⟩ := rule
  cases search with
  | literals needles =>
    simpa [Text.dropFront?_eq_some_iff.2 rfl] using List.findSome?_eq_none_iff.1 none piece finds
  | unlessFollowed needle forbidden =>
    obtain ⟨rfl, _⟩ := finds
    simp [matchAt?, Text.dropFront?_eq_some_iff.2 rfl] at none
  | wholeWord needle =>
    obtain ⟨rfl, edge, edge'⟩ := finds
    simp [matchAt?, Text.dropFront?_eq_some_iff.2 rfl, edge, edge'] at none
  | product =>
    obtain ⟨⟨first, second, product⟩, edge, edge'⟩ := finds
    simp [matchAt?, product?_of_isProduct product edge', edge] at none

end

end Manuscript.Replacement
