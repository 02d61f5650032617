import Manuscript.Proofs.Text.Ends
import Manuscript.Proofs.Text.Search
import Manuscript.Prose.CodeFence

/-!
# Tokens of a fence line

What a token of a fence line is can be said without reading (`IsToken`), and the first one is found
(`firstToken?_eq_some_iff`). It names a tab if its label is not blank, and what is left of the line
is the text before it and the text after it, trimmed, with one space between them. A first token
with a blank label names no tab and hides all tokens behind it (`IsHidden`): where there is none,
the tab is that of the leftmost token with a label (`extractTab?_iff_leftmost`).
-/

namespace Manuscript.CodeFence

/-! ## Tokens -/

/-- A token stands in a text, between these texts before and after it: in brackets, a group without
brackets, colons and blanks, and after a colon a label without brackets. -/
structure IsToken (text : Text) (token : Token) : Prop where
  whole : text =
    token.before ++ '[' :: (token.group ++ ':' :: (token.label ++ ']' :: token.after))
  groupFilled : token.group ≠ []
  group : ∀ c ∈ token.group, c ∉ ['[', ']', ':'] ∧ Text.isBlank c = false
  labelFilled : token.label ≠ []
  label : ∀ c ∈ token.label, c ∉ ['[', ']']

/-- A group holds no brackets, no colons and no blanks. -/
theorem isGroupChar_iff {c : Char} :
    isGroupChar c = true ↔ c ∉ ['[', ']', ':'] ∧ Text.isBlank c = false := by
  simp [isGroupChar, not_or, and_assoc]

/-- A label holds no brackets. -/
theorem isLabelChar_iff {c : Char} : isLabelChar c = true ↔ c ∉ ['[', ']'] := by
  simp [isLabelChar]

/-- The part of a token after its opening bracket is read just where it is written. -/
theorem tokenTail?_eq_some_iff {text group label after : Text} :
    tokenTail? text = some (group, label, after) ↔
      text = group ++ ':' :: (label ++ ']' :: after) ∧
        (group ≠ [] ∧ ∀ c ∈ group, isGroupChar c = true) ∧
          label ≠ [] ∧ ∀ c ∈ label, isLabelChar c = true := by
  constructor
  · intro read
    unfold tokenTail? at read
    dsimp only at read
    split at read
    · rename_i c group' rest isGroup colon
      split at read
      · rename_i d label' after' isLabel bracket
        obtain ⟨rfl, rfl, rfl⟩ := by simpa using read
        have front := List.takeWhile_append_dropWhile (p := isGroupChar) (l := text)
        have back := List.takeWhile_append_dropWhile (p := isLabelChar) (l := rest)
        rw [colon] at front
        rw [bracket] at back
        refine ⟨?_, ⟨?_, List.all_eq_true.1 List.all_takeWhile⟩, ?_,
          List.all_eq_true.1 List.all_takeWhile⟩
        · rw [back, front]
        · rw [isGroup]
          exact List.cons_ne_nil _ _
        · rw [isLabel]
          exact List.cons_ne_nil _ _
      · cases read
    · cases read
  · rintro ⟨rfl, ⟨groupFilled, isGroup⟩, labelFilled, isLabel⟩
    have colon : ∀ c ∈ (':' :: (label ++ ']' :: after)).head?, isGroupChar c = false := by
      rintro _ ⟨⟩
      decide
    have bracket : ∀ c ∈ (']' :: after).head?, isLabelChar c = false := by
      rintro _ ⟨⟩
      decide
    have group := Text.span_append isGroup colon
    have label := Text.span_append isLabel bracket
    obtain ⟨c, group', rfl⟩ := List.exists_cons_of_ne_nil groupFilled
    obtain ⟨d, label', rfl⟩ := List.exists_cons_of_ne_nil labelFilled
    simp only [tokenTail?, group, label]

/-- A token stands in a text just where it is read. -/
theorem isToken_iff {text : Text} {token : Token} :
    IsToken text token ↔ ∃ rest, text = token.before ++ '[' :: rest ∧
      tokenTail? rest = some (token.group, token.label, token.after) := by
  simp only [tokenTail?_eq_some_iff, isGroupChar_iff, isLabelChar_iff]
  constructor
  · intro token
    exact ⟨_, token.whole, rfl, ⟨token.groupFilled, token.group⟩, token.labelFilled, token.label⟩
  · rintro ⟨_, whole, rfl, ⟨groupFilled, group⟩, labelFilled, label⟩
    exact ⟨whole, groupFilled, group, labelFilled, label⟩

/-- There are not two tokens at one place. -/
theorem IsToken.unique {text : Text} {token other : Token} (first : IsToken text token)
    (second : IsToken text other) (place : token.before.length = other.before.length) :
    token = other := by
  obtain ⟨rest, whole, read⟩ := isToken_iff.1 first
  obtain ⟨rest', whole', read'⟩ := isToken_iff.1 second
  obtain ⟨before, same⟩ := List.append_inj (whole.symm.trans whole') place
  obtain ⟨_, rfl⟩ := List.cons.inj same
  have parts := read.symm.trans read'
  cases token
  cases other
  simp_all

/-! ## The first token -/

/-- A token of a text that no other one begins before. -/
structure IsFirstToken (text : Text) (token : Token) : Prop where
  isToken : IsToken text token
  first : ∀ other, IsToken text other → token.before.length ≤ other.before.length

/-- There are not two first tokens. -/
theorem IsFirstToken.unique {text : Text} {token other : Token} (first : IsFirstToken text token)
    (second : IsFirstToken text other) : token = other :=
  first.isToken.unique second.isToken
    (Nat.le_antisymm (first.first other second.isToken) (second.first token first.isToken))

/-- A token begins a text or stands in the rest of it. -/
theorem isToken_cons_iff {c : Char} {text : Text} {token : Token} :
    IsToken (c :: text) token ↔
      token.before = [] ∧ c = '[' ∧
          tokenTail? text = some (token.group, token.label, token.after) ∨
        ∃ before, token.before = c :: before ∧ IsToken text { token with before } := by
  simp only [isToken_iff]
  constructor
  · rintro ⟨rest, whole, read⟩
    cases place : token.before with
    | nil =>
      rw [place] at whole
      obtain ⟨rfl, rfl⟩ := List.cons.inj whole
      exact .inl ⟨rfl, rfl, read⟩
    | cons d before =>
      rw [place] at whole
      obtain ⟨rfl, behind⟩ := List.cons.inj whole
      exact .inr ⟨before, rfl, rest, behind, read⟩
  · rintro (⟨place, rfl, read⟩ | ⟨before, place, rest, rfl, read⟩)
    · exact ⟨text, by rw [place]; rfl, read⟩
    · exact ⟨rest, by rw [place]; rfl, read⟩

/-- The first token of a text is found, if there is one. -/
theorem firstToken?_spec (text : Text) :
    (∀ token, firstToken? text = some token → IsFirstToken text token) ∧
      (firstToken? text = none → ∀ token, ¬ IsToken text token) := by
  induction text with
  | nil =>
    refine ⟨nofun, fun _ token isToken => ?_⟩
    have whole := isToken.whole
    simp at whole
  | cons c rest ih =>
    obtain ⟨found, absent⟩ := ih
    rw [firstToken?]
    cases read : (if c = '[' then tokenTail? rest else none) with
    | some parts =>
      obtain ⟨group, label, after⟩ := parts
      obtain ⟨rfl, read⟩ := Option.ite_none_right_eq_some.1 read
      refine ⟨?_, nofun⟩
      rintro _ ⟨⟩
      exact ⟨isToken_iff.2 ⟨rest, rfl, read⟩, fun _ _ => Nat.zero_le _⟩
    | none =>
      -- No token begins here, so that all of them stand in the rest.
      have later {token : Token} (isToken : IsToken (c :: rest) token) :
          ∃ before, token.before = c :: before ∧ IsToken rest { token with before } := by
        obtain ⟨_, rfl, begins⟩ | inside := isToken_cons_iff.1 isToken
        · rw [if_pos rfl, begins] at read
          cases read
        · exact inside
      dsimp only
      refine ⟨fun token isFirst => ?_, fun isNone token isToken => ?_⟩
      · obtain ⟨token, inside, rfl⟩ := Option.map_eq_some_iff.1 isFirst
        obtain ⟨isToken, first⟩ := found token inside
        refine ⟨isToken_cons_iff.2 (.inr ⟨token.before, rfl, isToken⟩), fun other isOther => ?_⟩
        obtain ⟨before, place, inside⟩ := later isOther
        rw [place]
        exact Nat.succ_le_succ (first _ inside)
      · obtain ⟨before, _, inside⟩ := later isToken
        exact absent (Option.map_eq_none_iff.1 isNone) _ inside

/-- A token is found exactly if it is the first one. -/
theorem firstToken?_eq_some_iff {text : Text} {token : Token} :
    firstToken? text = some token ↔ IsFirstToken text token := by
  obtain ⟨found, absent⟩ := firstToken?_spec text
  refine ⟨found token, fun isFirst => ?_⟩
  cases read : firstToken? text with
  | none => exact absurd isFirst.isToken (absent read token)
  | some other => rw [(found other read).unique isFirst]

/-! ## Tabs -/

/-- What is left of a fence line without a token: the texts on either side of it, trimmed, and a
space between them if both have something in them. -/
def Token.remainder (token : Token) : Text :=
  Text.joinWith [' '] ([Text.trim token.before, Text.trim token.after].filter (!·.isEmpty))

/-- The tab of a token: its group, and its label trimmed. -/
def Token.tab (token : Token) : CodeTab :=
  { group := token.group, label := Text.trim token.label }

/-- A group has no blanks to trim. -/
theorem trim_group {text : Text} {token : Token} (isToken : IsToken text token) :
    Text.trim token.group = token.group := by
  have solid : ∀ c ∈ token.group, Text.isBlank c = false :=
    fun c member => (isToken.group c member).2
  have tight : Text.IsTight token.group :=
    ⟨fun c first => solid c (List.mem_of_mem_head? first),
      fun c last => solid c (List.mem_of_mem_getLast? last)⟩
  exact tight.trim_eq

/-- The first token of a fence line names a tab unless its label is blank. -/
theorem extractTab?_of_first {fence : Text} {token : Token} (isFirst : IsFirstToken fence token) :
    extractTab? fence =
      if Text.isBlankText token.label then none
      else some (token.tab, Text.nonempty? token.remainder) := by
  have filled : (Text.trim token.group).isEmpty = false := by
    rw [trim_group isFirst.isToken]
    exact List.isEmpty_eq_false_iff.2 isFirst.isToken.groupFilled
  have blank : (Text.trim token.label).isEmpty = Text.isBlankText token.label := by
    rw [Bool.eq_iff_iff, List.isEmpty_iff, Text.trim_eq_nil_iff]
  rw [extractTab?, firstToken?_eq_some_iff.2 isFirst, Option.bind_eq_bind, Option.bind_some]
  dsimp only
  rw [filled, blank, Text.trim_space, trim_group isFirst.isToken]
  cases Text.isBlankText token.label <;> rfl

/-- A fence without a token gives no tab. -/
theorem extractTab?_of_no_token {fence : Text} (absent : ∀ token, ¬ IsToken fence token) :
    extractTab? fence = none := by
  cases found : firstToken? fence with
  | none => rw [extractTab?, found]; rfl
  | some token => exact absurd (firstToken?_eq_some_iff.1 found).isToken (absent token)

/-- There is a token with a label in a fence line. -/
def HasTab (fence : Text) : Prop :=
  ∃ token, IsToken fence token ∧ Text.isBlankText token.label = false

/-- The leftmost of the tokens with a label names this tab and leaves this of the fence line. -/
def IsLeftmostTab (fence : Text) (tab : CodeTab) (rest : Option Text) : Prop :=
  ∃ token, IsToken fence token ∧ Text.isBlankText token.label = false ∧
    (∀ other, IsToken fence other → Text.isBlankText other.label = false →
      token.before.length ≤ other.before.length) ∧
    tab = token.tab ∧ rest = Text.nonempty? token.remainder

/-- The tabs of a fence line are hidden: its first token has a blank label, and another one has
not. -/
def IsHidden (fence : Text) : Prop :=
  (∃ token, IsFirstToken fence token ∧ Text.isBlankText token.label = true) ∧ HasTab fence

/-- A fence line with a token has a first one. -/
theorem IsToken.exists_first {fence : Text} {token : Token} (isToken : IsToken fence token) :
    ∃ first, IsFirstToken fence first := by
  obtain ⟨found, absent⟩ := firstToken?_spec fence
  cases read : firstToken? fence with
  | none => exact absurd isToken (absent read token)
  | some first => exact ⟨first, found first read⟩

section

variable {fence : Text} {first : Token} (isFirst : IsFirstToken fence first)
include isFirst

/-- Behind a first token with a blank label all tabs are hidden. -/
theorem isHidden_iff_of_blank (blank : Text.isBlankText first.label = true) :
    IsHidden fence ↔ HasTab fence :=
  and_iff_right ⟨first, isFirst, blank⟩

/-- A first token with a label hides none. -/
theorem not_isHidden_of_label (label : Text.isBlankText first.label = false) :
    ¬ IsHidden fence := by
  rintro ⟨⟨token, isFirst', blank⟩, _⟩
  rw [isFirst'.unique isFirst, label] at blank
  cases blank

/-- A first token with a label is the leftmost one that has a label. -/
theorem isLeftmostTab_iff_of_label (label : Text.isBlankText first.label = false) {tab : CodeTab}
    {rest : Option Text} :
    IsLeftmostTab fence tab rest ↔ tab = first.tab ∧ rest = Text.nonempty? first.remainder := by
  constructor
  · rintro ⟨token, isToken, _, leftmost, same⟩
    have place :=
      Nat.le_antisymm (leftmost first isFirst.isToken label) (isFirst.first token isToken)
    rwa [← isToken.unique isFirst.isToken place]
  · exact fun same => ⟨first, isFirst.isToken, label, fun other isOther _ =>
      isFirst.first other isOther, same⟩

end

/-- The tab of a fence line is that of its leftmost token with a label, and the line is left without
the token, unless a token with a blank label comes before all others. There is no tab exactly if no
token has a label or the tokens with one are hidden in this way. -/
theorem extractTab?_iff_leftmost (fence : Text) :
    (∀ tab rest, extractTab? fence = some (tab, rest) ↔
      IsLeftmostTab fence tab rest ∧ ¬ IsHidden fence) ∧
    (extractTab? fence = none ↔ ¬ HasTab fence ∨ IsHidden fence) := by
  by_cases someToken : ∃ token, IsToken fence token
  · obtain ⟨token, isToken⟩ := someToken
    obtain ⟨first, isFirst⟩ := isToken.exists_first
    rw [extractTab?_of_first isFirst]
    cases label : Text.isBlankText first.label with
    | true =>
      rw [if_pos rfl, isHidden_iff_of_blank isFirst label]
      refine ⟨fun tab rest => iff_of_false nofun ?_, iff_of_true rfl (Classical.em _).symm⟩
      rintro ⟨⟨token, isToken, filled, _⟩, hidden⟩
      exact hidden ⟨token, isToken, filled⟩
    | false =>
      have open' := not_isHidden_of_label isFirst label
      rw [if_neg Bool.false_ne_true]
      refine ⟨fun tab rest => ?_, iff_of_false nofun ?_⟩
      · rw [and_iff_left open', isLeftmostTab_iff_of_label isFirst label, Option.some_inj,
          Prod.mk.injEq, eq_comm, @eq_comm _ rest]
      · rintro (absent | hidden)
        · exact absent ⟨first, isFirst.isToken, label⟩
        · exact open' hidden
  · have absent : ∀ token, ¬ IsToken fence token := fun token isToken => someToken ⟨token, isToken⟩
    have none : ¬ HasTab fence := fun ⟨token, isToken, _⟩ => absent token isToken
    rw [extractTab?_of_no_token absent]
    refine ⟨fun tab rest => iff_of_false nofun ?_, iff_of_true rfl (.inl none)⟩
    rintro ⟨⟨token, isToken, _⟩, _⟩
    exact absent token isToken

/-- A fence line with a token whose label is blank, and another token behind it. -/
def blankFirst : Text :=
  "[a: ] [b:c]".toList

/-- The fence line names no tab, although the second token has a group and a label. -/
theorem blankFirst_names_no_tab :
    IsLeftmostTab blankFirst { group := ['b'], label := ['c'] } (some "[a: ]".toList) ∧
      extractTab? blankFirst = none := by
  let blank : Token := { before := [], group := ['a'], label := [' '], after := " [b:c]".toList }
  let named : Token := { before := "[a: ] ".toList, group := ['b'], label := ['c'], after := [] }
  have isBlank : IsToken blankFirst blank :=
    ⟨rfl, List.cons_ne_nil _ _, List.forall_mem_singleton.2 (by decide), List.cons_ne_nil _ _,
      List.forall_mem_singleton.2 (by decide)⟩
  have isNamed : IsToken blankFirst named :=
    ⟨rfl, List.cons_ne_nil _ _, List.forall_mem_singleton.2 (by decide), List.cons_ne_nil _ _,
      List.forall_mem_singleton.2 (by decide)⟩
  refine ⟨⟨named, isNamed, rfl, fun other isOther label => ?_, by decide, by decide⟩, by decide⟩
  -- A bracket opens at the two tokens only, and the first one has no label.
  have opens : blankFirst[other.before.length]? = some '[' := by
    rw [isOther.whole]
    simp
  have places : ∀ place < named.before.length, blankFirst[place]? = some '[' → place = 0 := by
    decide
  by_contra before
  have start := places _ (Nat.lt_of_not_le before) opens
  rw [isOther.unique isBlank start] at label
  cases label

end Manuscript.CodeFence
