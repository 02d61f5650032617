import Manuscript.Html.Contents
import Manuscript.Proofs.Html.Named
import Mathlib.Data.List.TakeWhile

/-!
# The list of a table of contents

A nested list is read back in document order (`readNode`): every item has its link and the number of
the item that it is nested under. Read back, the list for entries has one item for every entry, in
order, and each item is nested under the nearest one before it of a smaller level, or under none
when there is no such item (`lists_list`).
-/

namespace Manuscript.Contents

open Html (namedList)

/-! ## Reading a nested list -/

/-- An item of a nested list. -/
structure Item where
  /-- Number of the item that it is nested under; items are counted in document order. -/
  under : Option Nat
  /-- What the item begins with. -/
  link : Option Html

mutual

/-- The items of a node that is nested under an item, where the first of them has a number. -/
def readNode (under : Option Nat) (number : Nat) : Html → List Item
  | .element tag children =>
    if tag.name = "li".toList then
      ⟨under, children.head?⟩ :: readList (some number) (number + 1) children
    else readList under number children
  | _ => []

/-- The items of a list of nodes, in document order. -/
def readList (under : Option Nat) (number : Nat) : List Html → List Item
  | [] => []
  | node :: rest =>
    readNode under number node ++
      readList under (number + (readNode under number node).length) rest

end

/-- The links of a tree, in document order. -/
def links (tree : Html) : List Html :=
  (tree.named ['a']).map fun found => .element found.1 found.2

/-- Which of the entries before it one of a level is nested under: the nearest of a smaller level,
if there is one. -/
inductive IsUnder (level : Nat) : List Entry → Option Nat → Prop
  | top {before : List Entry} (smallest : ∀ entry ∈ before, level ≤ entry.level) :
      IsUnder level before none
  | nested {front back : List Entry} {parent : Entry} (smaller : parent.level < level)
      (nearest : ∀ entry ∈ back, level ≤ entry.level) :
      IsUnder level (front ++ parent :: back) (some front.length)

/-- Items show entries that follow others: every entry has an item with its link, nested as its
level says. -/
inductive Shows : (before entries : List Entry) → List Item → Prop
  | nil {before : List Entry} : Shows before [] []
  | cons {before rest : List Entry} {entry : Entry} {under : Option Nat} {items : List Item}
      (isUnder : IsUnder entry.level before under) (later : Shows (before ++ [entry]) rest items) :
      Shows before (entry :: rest) (⟨under, some (.element
        { name := ['a'], attributes := [("href".toList, '#' :: entry.id)] } [.text entry.text])⟩ ::
          items)

/-- A nested list is one for entries: it has their links and no others, in order, and it is nested
as their levels say. -/
structure Lists (table : Html) (entries : List Entry) : Prop where
  /-- The table is a list. -/
  isList : table.isElement "ul".toList = true
  /-- The links are those of the entries. -/
  links_eq : links table = entries.map fun entry =>
    .element { name := ['a'], attributes := [("href".toList, '#' :: entry.id)] } [.text entry.text]
  /-- The items are nested as the levels of the entries say. -/
  shows_read : Shows [] entries (readNode none 0 table)

/-! ## Reading in parts -/

/-- A newline between items shows no item. -/
theorem readNode_newline (under : Option Nat) (number : Nat) : readNode under number newline = [] :=
  rfl

/-- The link of an item holds no items. -/
theorem readNode_link (under : Option Nat) (number : Nat) (entry : Entry) :
    readNode under number (link entry) = [] :=
  rfl

/-- The items of two lists are numbered on from the first list to the second. -/
theorem readList_append (under : Option Nat) (number : Nat) (front back : List Html) :
    readList under number (front ++ back) = readList under number front ++
      readList under (number + (readList under number front).length) back := by
  induction front generalizing number with
  | nil => rfl
  | cons node rest ih =>
    rw [List.cons_append, readList, ih, readList, List.length_append, List.append_assoc,
      Nat.add_assoc]

/-- A newline at the end shows no item. -/
theorem readList_append_newline (under : Option Nat) (number : Nat) (nodes : List Html) :
    readList under number (nodes ++ [newline]) = readList under number nodes := by
  rw [readList_append, readList, readNode_newline]
  exact List.append_nil _

/-- Entries that are no higher do not come between an entry and the one above it. -/
theorem IsUnder.append {level : Nat} {before more : List Entry} {under : Option Nat}
    (isUnder : IsUnder level before under) (above : ∀ entry ∈ more, level ≤ entry.level) :
    IsUnder level (before ++ more) under := by
  cases isUnder with
  | top smallest => exact .top (List.forall_mem_append.2 ⟨smallest, above⟩)
  | nested smaller nearest =>
    rw [List.append_assoc, List.cons_append]
    exact .nested smaller (List.forall_mem_append.2 ⟨nearest, above⟩)

/-- There is one item for every entry. -/
theorem Shows.length_eq {before entries : List Entry} {items : List Item}
    (shown : Shows before entries items) : items.length = entries.length := by
  induction shown with
  | nil => rfl
  | cons isUnder later ih => rw [List.length_cons, ih, List.length_cons]

/-- Entries shown one after the other are shown together. -/
theorem Shows.append {before front back : List Entry} {items more : List Item}
    (first : Shows before front items) (second : Shows (before ++ front) back more) :
    Shows before (front ++ back) (items ++ more) := by
  induction first with
  | nil => simpa using second
  | cons isUnder later ih => exact .cons isUnder (ih (by simpa using second))

/-! ## The list for entries -/

/-- The list that is inside the item of an entry: that of the entries of a deeper level. -/
def inner (nested : List Entry) : List Html :=
  if nested.isEmpty then []
  else [newline, .element { name := "ul".toList } (items nested ++ [newline]), newline]

/-- Entries split off as the list nests them: behind an entry those of a deeper level, and then
those after them. -/
theorem entries_induction {P : List Entry → Prop} (nil : P [])
    (cons : ∀ entry nested after, (∀ other ∈ nested, entry.level < other.level) →
      (∀ next ∈ after.head?, next.level ≤ entry.level) → P nested → P after →
      P (entry :: (nested ++ after)))
    (entries : List Entry) : P entries := by
  induction entries using items.induct with
  | case1 => exact nil
  | case2 entry rest nested after ofNested ofAfter =>
    have whole : nested ++ after = rest := List.takeWhile_append_dropWhile
    rw [← whole]
    refine cons entry nested after (fun other member => ?_) (fun next isNext => ?_) ofNested ofAfter
    · have isDeeper := List.mem_takeWhile_imp (p := fun e : Entry => entry.level < e.level) member
      exact of_decide_eq_true isDeeper
    · have ends := List.head?_dropWhile_not (fun e : Entry => entry.level < e.level) rest
      rw [Option.mem_def.1 isNext] at ends
      exact Nat.le_of_not_lt (of_decide_eq_false ends)

/-- An entry is an item with a link, in front of a list of the deeper entries right behind it. -/
theorem items_cons {entry : Entry} {nested after : List Entry}
    (deeper : ∀ other ∈ nested, entry.level < other.level)
    (ends : ∀ next ∈ after.head?, next.level ≤ entry.level) :
    items (entry :: (nested ++ after)) =
      newline :: .element { name := "li".toList } (link entry :: inner nested) :: items after := by
  have all : ∀ other ∈ nested, decide (entry.level < other.level) = true := fun other member =>
    decide_eq_true (deeper other member)
  have taken : after.takeWhile (entry.level < ·.level) = [] := by
    cases after with
    | nil => rfl
    | cons next rest => exact List.takeWhile_cons_of_neg (by simpa using ends next rfl)
  have dropped : after.dropWhile (entry.level < ·.level) = after := by
    cases after with
    | nil => rfl
    | cons next rest => exact List.dropWhile_cons_of_neg (by simpa using ends next rfl)
  rw [items]
  rw [List.takeWhile_append_of_pos all, List.dropWhile_append_of_pos all, taken, dropped,
    List.append_nil]
  rfl

/-- A nested list shows the items in it. -/
theorem readList_inner (under : Option Nat) (number : Nat) (nested : List Entry) :
    readList under number (inner nested) = readList under number (items nested) := by
  cases nested with
  | nil => rw [items]; rfl
  | cons entry rest =>
    have below : readNode under number
        (.element { name := "ul".toList } (items (entry :: rest) ++ [newline])) =
        readList under number (items (entry :: rest)) := by
      rw [readNode, if_neg (by decide), readList_append_newline]
    rw [inner, List.isEmpty_cons, if_neg Bool.false_ne_true, readList, readNode_newline, readList,
      List.nil_append, List.length_nil, Nat.add_zero, below, readList, readNode_newline, readList]
    simp

/-- The links of a nested list are those of the items in it. -/
theorem namedList_inner (nested : List Entry) :
    namedList ['a'] (inner nested) = namedList ['a'] (items nested) := by
  cases nested with
  | nil => rw [items]; rfl
  | cons entry rest =>
    rw [inner, List.isEmpty_cons, if_neg Bool.false_ne_true, Html.namedList_cons,
      Html.namedList_cons, Html.named_element_of_ne (by decide), Html.namedList_append]
    simp [newline, Html.named]

/-- The items for entries hold the links of the entries, in order. -/
theorem links_items (entries : List Entry) :
    (namedList ['a'] (items entries)).map (fun found => Html.element found.1 found.2) =
      entries.map link := by
  induction entries using entries_induction with
  | nil =>
    rw [items]
    rfl
  | cons entry nested after deeper ends ofNested ofAfter =>
    have own : (link entry).named ['a'] =
        [({ name := ['a'], attributes := [("href".toList, '#' :: entry.id)] },
          [.text entry.text])] :=
      rfl
    rw [items_cons deeper ends, Html.namedList_cons, Html.namedList_cons,
      Html.named_element_of_ne (by decide), Html.namedList_cons, own, namedList_inner]
    simp only [List.map_append, ofNested, ofAfter, List.map_cons]
    rfl

/-- The items for entries show the entries. They are under what the entries are nested under that
are no deeper than the first one. -/
theorem shows_items {entries before : List Entry} {under : Option Nat}
    (isUnder : ∀ first ∈ entries.head?, ∀ entry ∈ entries, entry.level ≤ first.level →
      IsUnder entry.level before under) :
    Shows before entries (readList under before.length (items entries)) := by
  induction entries using entries_induction generalizing before under with
  | nil =>
    rw [items]
    exact .nil
  | cons entry nested after deeper ends ofNested ofAfter =>
    have own : IsUnder entry.level before under :=
      isUnder entry rfl entry List.mem_cons_self (Nat.le_refl _)
    -- What is nested is deeper than the entry, so it has the entry for the nearest one.
    have inItem : Shows (before ++ [entry]) nested
        (readList (some before.length) (before ++ [entry]).length (items nested)) :=
      ofNested fun _ _ other member _ => .nested (deeper other member) (by simp)
    -- The entry and what is nested in it are no nearest ones for what is no deeper than the entry.
    have behind : Shows (before ++ entry :: nested) after
        (readList under (before ++ entry :: nested).length (items after)) := by
      refine ofAfter fun first isFirst other member small => ?_
      have low : other.level ≤ entry.level := small.trans (ends first isFirst)
      refine (isUnder entry rfl other (by simp [member]) low).append ?_
      exact List.forall_mem_cons.2
        ⟨low, fun inner isInner => low.trans (deeper inner isInner).le⟩
    have item : readNode under before.length
        (.element { name := "li".toList } (link entry :: inner nested)) =
        ⟨under, some (link entry)⟩ ::
          readList (some before.length) (before ++ [entry]).length (items nested) := by
      rw [readNode, if_pos rfl, readList, readNode_link, readList_inner, List.length_append]
      rfl
    have number : before.length + (readNode under before.length
        (.element { name := "li".toList } (link entry :: inner nested))).length =
        (before ++ entry :: nested).length := by
      rw [item, List.length_cons, inItem.length_eq, List.length_append, List.length_cons]
    rw [items_cons deeper ends, readList, readNode_newline, List.nil_append, List.length_nil,
      Nat.add_zero, readList, number, item]
    exact .cons own (inItem.append (by simpa using behind))

/-- The nested list for entries is one for them. -/
theorem lists_list (entries : List Entry) : Lists (list entries) entries where
  isList := rfl
  links_eq := by
    rw [links, list, Html.named_element_of_ne (by decide), Html.namedList_append, List.map_append,
      links_items]
    exact List.append_nil _
  shows_read := by
    rw [list, readNode, if_neg (by decide), readList_append_newline]
    refine shows_items fun _ _ _ _ _ => .top fun _ none => absurd none List.not_mem_nil

/-- Levels that are left out make no items of their own. -/
example :
    (readNode none 0 (list ([2, 4, 3, 2, 1].map fun level => ⟨level, [], []⟩))).map Item.under =
    [none, some 0, some 0, none, none] := by
  cbv

end Manuscript.Contents
