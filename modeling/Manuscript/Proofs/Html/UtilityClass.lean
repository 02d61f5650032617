import Manuscript.Html.BackReferenceTitle
import Manuscript.Html.HeadingAnchor
import Manuscript.Html.UtilityClass
import Manuscript.Proofs.Html.Tag

/-!
# Utility classes and the classes that passes look for

Some classes tell a pass what an element is. No utility class is one of them (`not_mem_classes`), so
adding utility classes hides nothing from a pass and shows it nothing new, the pass over utility
classes itself included (`classes_addClasses`).
-/

namespace Manuscript.UtilityClass

/-- The classes that a pass looks for. -/
def markNames : List Text :=
  [HeadingAnchor.anchorClass, "btn".toList, CodeTabs.setName, BackReferenceTitle.markName]

/-- Whether the words of a text are other classes than those that a pass looks for. -/
def IsPlain (text : Text) : Prop :=
  ∀ word ∈ Text.words text, word ∉ markNames

instance (text : Text) : Decidable (IsPlain text) :=
  inferInstanceAs (Decidable (∀ word ∈ Text.words text, word ∉ markNames))

/-- A string has the given characters. A long string is not taken apart by evaluation, but it is
written with its characters. -/
def Spells (string : String) (text : Text) : Prop :=
  string.toList = text

/-- A string spells the text that it was made from. -/
theorem spells (text : Text) : Spells (String.ofList text) text :=
  String.toList_ofList

/-- Strings put together spell their texts put together. -/
theorem Spells.append {string more : String} {text rest : Text} (front : Spells string text)
    (back : Spells more rest) : Spells (string ++ more) (text ++ rest) := by
  rw [Spells, String.toList_append, front, back]

/-- A string is plain if the text that it spells is. -/
theorem Spells.isPlain {string : String} {text : Text} (spelled : Spells string text)
    (plain : IsPlain text) : IsPlain string.toList :=
  spelled ▸ plain

/-- The classes for elements by their names are plain. -/
theorem isPlain_byName : ∀ entry ∈ byName, IsPlain entry.2.toList := by
  have single : ∀ {text : Text}, IsPlain text → IsPlain (String.ofList text).toList :=
    fun {text} => (spells text).isPlain
  have double : ∀ {text more : Text}, IsPlain (text ++ more) →
      IsPlain (String.ofList text ++ String.ofList more).toList :=
    fun {text more} => ((spells text).append (spells more)).isPlain
  simp only [byName, List.forall_mem_cons]
  exact ⟨single (by decide +kernel), double (by decide +kernel), single (by decide +kernel),
    single (by decide +kernel), single (by decide +kernel), single (by decide +kernel),
    single (by decide +kernel), single (by decide +kernel), single (by decide +kernel),
    double (by decide +kernel), double (by decide +kernel), single (by decide +kernel),
    single (by decide +kernel), single (by decide +kernel), single (by decide +kernel),
    fun _ none => nomatch none⟩

/-- The classes for headings are plain. -/
theorem isPlain_heading : IsPlain heading.toList :=
  (spells _).isPlain (by decide +kernel)

/-- The classes for links are plain. -/
theorem isPlain_link : IsPlain link.toList :=
  (((((spells _).append (spells _)).append (spells _)).append (spells _)).append
    (spells _)).isPlain (by decide +kernel)

/-- The classes for anchors of headings are plain. -/
theorem isPlain_headingAnchor : IsPlain headingAnchor.toList :=
  ((spells _).append (spells _)).isPlain (by decide +kernel)

/-- The classes for code in running text are plain. -/
theorem isPlain_inlineCode : IsPlain inlineCode.toList :=
  ((spells _).append (spells _)).isPlain (by decide +kernel)

/-- The classes for code blocks are plain. -/
theorem isPlain_codeBlock : IsPlain codeBlock.toList :=
  ((spells _).append (spells _)).isPlain (by decide +kernel)

/-- The classes for sets of tabs are plain. -/
theorem isPlain_codeTabs : IsPlain codeTabs.toList :=
  (spells _).isPlain (by decide +kernel)

/-- A mark that the passes look for is no class of a code block. -/
theorem not_mem_codeBlockClasses {mark : Text} (known : mark ∈ markNames) (inTabs : Bool)
    (panel : Nat) : mark ∉ codeBlockClasses inTabs panel := by
  have shown : ∀ name ∈ ["hidden".toList, "peer-checked:block".toList], name ∉ markNames := by
    decide
  intro member
  rw [codeBlockClasses, List.mem_append] at member
  obtain look | tab := member
  · exact isPlain_codeBlock mark look known
  · refine shown mark ?_ known
    split at tab
    · split at tab
      · exact tab
      · exact List.mem_cons_of_mem _ tab
    · cases tab

/-- No utility class is one that a pass looks for. -/
theorem not_mem_classes {mark : Text} (known : mark ∈ markNames) (parent : Option Text)
    (panel : Nat) (tag : Tag) : mark ∉ classes parent panel tag := by
  intro member
  unfold classes at member
  split at member
  · rename_i name names found
    exact isPlain_byName _ (List.mem_of_find?_eq_some found) mark member known
  · repeat' split at member
    · exact isPlain_heading mark member known
    · exact isPlain_headingAnchor mark member known
    · exact isPlain_link mark member known
    · exact isPlain_inlineCode mark member known
    · exact not_mem_codeBlockClasses known _ panel member
    · exact isPlain_codeTabs mark member known
    · cases member

/-- The classes that a pass looks for are there or away as before. -/
theorem hasClass_addClasses_classes {mark : Text} (known : mark ∈ markNames) (parent : Option Text)
    (panel : Nat) (tag other : Tag) :
    (other.addClasses (classes parent panel tag)).hasClass mark = other.hasClass mark := by
  have nonempty : ∀ mark ∈ markNames, mark ≠ [] := by decide
  exact Tag.hasClass_addClasses_of_not_mem (nonempty mark known)
    (not_mem_classes known parent panel tag)

/-- The utility classes depend on the name and on the classes that a pass looks for. -/
theorem classes_congr {tag other : Tag} (name : tag.name = other.name)
    (marks : ∀ mark ∈ markNames, tag.hasClass mark = other.hasClass mark) (parent : Option Text)
    (panel : Nat) : classes parent panel tag = classes parent panel other := by
  have named : isNamed tag = isNamed other := funext fun text => by rw [isNamed, isNamed, name]
  have anchor := marks "heading-anchor".toList (by decide)
  have button := marks "btn".toList (by decide)
  have set := marks CodeTabs.setName (by decide)
  rw [classes, classes, named, anchor, button, set]

/-- An element with its utility classes is to get the same ones. -/
theorem classes_addClasses (parent : Option Text) (panel : Nat) (tag : Tag) :
    classes parent panel (tag.addClasses (classes parent panel tag)) = classes parent panel tag :=
  classes_congr (Tag.name_addClasses _ tag)
    (fun _ known => hasClass_addClasses_classes known parent panel tag tag) parent panel

end Manuscript.UtilityClass
