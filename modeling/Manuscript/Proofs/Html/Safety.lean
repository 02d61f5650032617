import Manuscript.Html.Basic
import Manuscript.Proofs.Attribute.Name

/-!
# Safe HTML trees

A tree is safe when it has no raw markup and no comments, its elements are among those that the
lowering and the passes make, and no attribute runs a script. `IsSafe` has no constructor for
anything else. What adds classes to an element or sets an attribute with a safe name keeps a tree
safe.
-/

namespace Manuscript

namespace Tag

/-- The names of the elements that the lowering and the passes make. -/
def elementNames : List Text :=
  ["a", "abbr", "blockquote", "br", "code", "code-tabs", "del", "div", "em", "figcaption", "figure",
    "h1", "h2", "h3", "h4", "h5", "h6", "hr", "img", "input", "li", "mark", "ol", "p", "pre",
    "section", "span", "strong", "sup", "table", "tbody", "td", "th", "thead", "tr", "ul"].map
    String.toList

/-- The names of the attributes with which a tag is written, that of the class list first. -/
def attributeNames (tag : Tag) : List Text :=
  (if tag.classes.isEmpty then [] else ["class".toList]) ++ tag.attributes.map Prod.fst

/-- A tag opens one of the known elements, and its attributes can be written and run no script. -/
structure IsSafe (tag : Tag) : Prop where
  name : tag.name ∈ elementNames
  attributes : ∀ name ∈ tag.attributeNames, IsSafeName name

/-- The class list is a safe attribute, and so it counts as little as having none. -/
theorem isSafe_iff {tag : Tag} :
    tag.IsSafe ↔ tag.name ∈ elementNames ∧ ∀ pair ∈ tag.attributes, IsSafeName pair.1 := by
  have named : (∀ name ∈ tag.attributes.map Prod.fst, IsSafeName name) ↔
      ∀ pair ∈ tag.attributes, IsSafeName pair.1 := List.forall_mem_map
  have ofClasses : ∀ name ∈ (if tag.classes.isEmpty then [] else ["class".toList]),
      IsSafeName name := by
    split
    · exact fun _ none => absurd none List.not_mem_nil
    · exact List.forall_mem_singleton.2 (by decide)
  constructor
  · rintro ⟨name, attributes⟩
    exact ⟨name, named.1 (List.forall_mem_append.1 attributes).2⟩
  · rintro ⟨name, attributes⟩
    exact ⟨name, List.forall_mem_append.2 ⟨ofClasses, named.2 attributes⟩⟩

/-- A tag is safe when its name and its attributes are, whatever its classes. -/
theorem isSafe_mk {name : Text} {attributes : List (Text × Text)} (known : name ∈ elementNames)
    (safeNames : ∀ pair ∈ attributes, IsSafeName pair.1) (classes : List Text) :
    IsSafe { name, classes, attributes } :=
  isSafe_iff.2 ⟨known, safeNames⟩

/-- An element of a known name without attributes is safe, whatever its classes. -/
theorem isSafe_plain {name : Text} (known : name ∈ elementNames) (classes : List Text) :
    IsSafe { name, classes } :=
  isSafe_mk known (fun _ none => absurd none List.not_mem_nil) classes

/-- A tag of the same name with the same attributes is as safe. -/
theorem IsSafe.congr {tag other : Tag} (safe : tag.IsSafe) (name : other.name = tag.name)
    (attributes : other.attributes = tag.attributes) : other.IsSafe := by
  rw [isSafe_iff, name, attributes]
  exact isSafe_iff.1 safe

/-- Adding classes changes neither the name of an element nor its other attributes. -/
theorem addClasses_same (names : List Text) (tag : Tag) :
    (tag.addClasses names).name = tag.name ∧
      (tag.addClasses names).attributes = tag.attributes := by
  induction names generalizing tag with
  | nil => exact ⟨rfl, rfl⟩
  | cons name rest ih =>
    obtain ⟨sameName, sameAttributes⟩ := ih (tag.addClass name)
    have own : (tag.addClass name).name = tag.name ∧
        (tag.addClass name).attributes = tag.attributes := by
      rw [addClass]
      split <;> exact ⟨rfl, rfl⟩
    exact ⟨sameName.trans own.1, sameAttributes.trans own.2⟩

/-- More classes keep a tag safe. -/
theorem IsSafe.addClasses {tag : Tag} (safe : tag.IsSafe) (names : List Text) :
    (tag.addClasses names).IsSafe :=
  safe.congr (addClasses_same names tag).1 (addClasses_same names tag).2

/-- One more class keeps a tag safe. -/
theorem IsSafe.addClass {tag : Tag} (safe : tag.IsSafe) (name : Text) :
    (tag.addClass name).IsSafe :=
  safe.addClasses [name]

/-- Setting several attributes with safe names keeps a tag safe. -/
theorem IsSafe.setAll {tag : Tag} (safe : tag.IsSafe) {values : List (Text × Text)}
    (safeNames : ∀ pair ∈ values, IsSafeName pair.1) :
    { tag with attributes := Pairs.setAll values tag.attributes }.IsSafe := by
  obtain ⟨name, attributes⟩ := isSafe_iff.1 safe
  refine isSafe_iff.2 ⟨name, fun pair member => ?_⟩
  rcases Pairs.mem_setAll member with old | new
  · obtain ⟨other, there, same⟩ := List.mem_map.1 old
    exact same ▸ attributes other there
  · obtain ⟨other, there, same⟩ := List.mem_map.1 new
    exact same ▸ safeNames other there

/-- An attribute with a safe name keeps a tag safe, whatever its value. -/
theorem IsSafe.setAttribute {tag : Tag} (safe : tag.IsSafe) {name : Text}
    (safeName : IsSafeName name) (value : Text) : (tag.setAttribute name value).IsSafe :=
  have safeNames : ∀ pair ∈ [(name, value)], IsSafeName pair.1 :=
    List.forall_mem_singleton.2 safeName
  safe.setAll safeNames

end Tag

namespace Html

/-- A tree has no raw markup and no comments, and all its tags are safe. -/
inductive IsSafe : Html → Prop
  | text (value : Text) : IsSafe (.text value)
  | root {children : List Html} (below : ∀ child ∈ children, IsSafe child) :
      IsSafe (.root children)
  | element {tag : Tag} {children : List Html} (tagSafe : tag.IsSafe)
      (below : ∀ child ∈ children, IsSafe child) : IsSafe (.element tag children)

/-- Siblings that are all safe. -/
def AreSafe (nodes : List Html) : Prop :=
  ∀ node ∈ nodes, node.IsSafe

/-- No nodes are safe. -/
theorem areSafe_nil : AreSafe [] :=
  fun _ none => absurd none List.not_mem_nil

/-- Siblings are safe if the first of them and the others are. -/
theorem areSafe_cons {node : Html} {rest : List Html} :
    AreSafe (node :: rest) ↔ node.IsSafe ∧ AreSafe rest :=
  List.forall_mem_cons

/-- A list of one node is safe if the node is. -/
theorem areSafe_singleton {node : Html} : AreSafe [node] ↔ node.IsSafe :=
  List.forall_mem_singleton

/-- Siblings are safe if both parts of them are. -/
theorem areSafe_append {front back : List Html} :
    AreSafe (front ++ back) ↔ AreSafe front ∧ AreSafe back :=
  List.forall_mem_append

/-- Siblings around a node are safe if it is and those before and after it are. -/
theorem areSafe_around {front back : List Html} {node : Html} :
    AreSafe (front ++ node :: back) ↔ AreSafe front ∧ node.IsSafe ∧ AreSafe back :=
  List.forall_mem_append.trans (and_congr_right' List.forall_mem_cons)

/-- An element is safe when its tag and what is below are. -/
theorem isSafe_element {tag : Tag} {children : List Html} :
    (Html.element tag children).IsSafe ↔ tag.IsSafe ∧ AreSafe children := by
  constructor
  · intro safe
    cases safe with
    | element tagSafe below => exact ⟨tagSafe, below⟩
  · rintro ⟨tagSafe, below⟩
    exact .element tagSafe below

/-- A tree is safe when what is below its top is. -/
theorem isSafe_root {children : List Html} : (Html.root children).IsSafe ↔ AreSafe children := by
  constructor
  · intro safe
    cases safe with
    | root below => exact below
  · exact .root

/-- Two statements about safe trees and about lists of them hold if each follows from the other for
what is below. -/
theorem isSafe_induction {P : Html → Prop} {Q : List Html → Prop} (text : ∀ value, P (.text value))
    (root : ∀ children, AreSafe children → Q children → P (.root children))
    (element : ∀ tag children, tag.IsSafe → AreSafe children → Q children →
      P (.element tag children))
    (nil : Q [])
    (cons : ∀ node rest, node.IsSafe → AreSafe rest → P node → Q rest → Q (node :: rest)) :
    (∀ tree : Html, tree.IsSafe → P tree) ∧ ∀ nodes, AreSafe nodes → Q nodes := by
  let P' := fun tree : Html => tree.IsSafe → P tree
  let Q' := fun nodes => AreSafe nodes → Q nodes
  have ofRoot : ∀ children, Q' children → P' (.root children) := fun children below safe =>
    root children (isSafe_root.1 safe) (below (isSafe_root.1 safe))
  have ofElement : ∀ tag children, Q' children → P' (.element tag children) := by
    intro tag children below safe
    obtain ⟨tagSafe, inside⟩ := isSafe_element.1 safe
    exact element tag children tagSafe inside (below inside)
  have ofCons : ∀ node rest, P' node → Q' rest → Q' (node :: rest) := by
    intro node rest own later safe
    obtain ⟨first, others⟩ := areSafe_cons.1 safe
    exact cons node rest first others (own first) (later others)
  exact ⟨@Html.rec P' Q' ofRoot ofElement (fun value _ => text value) (fun _ safe => nomatch safe)
      (fun _ safe => nomatch safe) (fun _ => nil) ofCons,
    @Html.rec_1 P' Q' ofRoot ofElement (fun value _ => text value) (fun _ safe => nomatch safe)
      (fun _ safe => nomatch safe) (fun _ => nil) ofCons⟩

end Html

end Manuscript
