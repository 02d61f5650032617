import Manuscript.Html.CodeTabs

/-!
# Utility classes

The classes that give a compiled document its looks. They are added after the classes that an
element has already.
-/

namespace Manuscript.UtilityClass

/-- Classes that depend on the name of an element alone. -/
def byName : List (String × String) :=
  [ ("p",
      "mb-8 text-lg leading-relaxed"),
    ("img",
      "block mx-auto mb-8 max-w-full h-auto rounded-lg shadow-md text-gray-500 italic " ++
      "text-center"),
    ("figure",
      "my-8 mx-auto max-w-none text-center"),
    ("figcaption",
      "text-base italic pt-3"),
    ("hr",
      "bg-gray-300 border-0 border-gray-300 my-16 mx-auto text-center w-96 h-px"),
    ("ul",
      "list-disc list-outside pl-4 mb-8"),
    ("ol",
      "list-decimal list-outside pl-4 mb-8"),
    ("li",
      "mb-1 last:mb-0"),
    ("mark",
      "bg-gray-300 text-gray-900"),
    ("table",
      "w-full border-collapse border border-gray-300 dark:border-gray-600 my-6 " ++
      "rounded-lg overflow-hidden"),
    ("th",
      "bg-gray-100 dark:bg-gray-700 px-4 py-2 text-left font-semibold border-b " ++
      "border-gray-300 dark:border-gray-600"),
    ("td",
      "px-4 py-2 border-b border-gray-200 dark:border-gray-700"),
    ("summary",
      "outline-none select-none cursor-pointer list-none marker:hidden"),
    ("details",
      "mb-8 [&>*:not(summary)]:pl-5"),
    ("blockquote",
      "border-l-4 border-blue-600 my-8 pl-14 -ml-14 font-serif text-2xl italic") ]

/-- Classes of a heading of the second to fourth level. -/
def heading : String :=
  "mb-2 mt-6 relative first:mt-0 group"

/-- Classes of a link. -/
def link : String :=
  "border-b border-current shadow-[inset_0_-2px_0_0_currentColor] " ++
  "hover:border-blue-600 hover:shadow-[inset_0_-2px_0_0_var(--color-link-shadow)] " ++
  "hover:text-gray-900 focus:border-blue-600 " ++
  "focus:shadow-[inset_0_-2px_0_0_var(--color-link-shadow)] focus:text-gray-900 " ++
  "focus:outline-none transition-colors"

/-- Classes of the anchor of a heading. -/
def headingAnchor : String :=
  "hidden md:block absolute -left-4 top-0 w-4 opacity-0 group-hover:opacity-75 " ++
  "hover:!opacity-100 focus:!opacity-100 border-0 shadow-none"

/-- Classes of inline code. -/
def inlineCode : String :=
  "bg-gray-100 rounded border border-gray-300 inline-block font-mono text-xs mx-1 px-2 " ++
  "py-1"

/-- Classes of a code block. -/
def codeBlock : String :=
  "block text-base px-6 py-8 overflow-x-auto bg-gray-900 text-gray-100 rounded-lg my-8 " ++
  "lg:px-12"

/-- Classes of a set of tabs. -/
def codeTabs : String :=
  "border border-gray-200 rounded-md overflow-hidden"

/-- Whether a tag has a name. -/
def isNamed (tag : Tag) (name : String) : Bool :=
  tag.name = name.toList

/-- Classes of a code block. In a set of tabs every block but the first is hidden, and each is shown
when its tab is chosen. -/
def codeBlockClasses (inTabs : Bool) (panel : Nat) : List Text :=
  Text.words codeBlock.toList ++
    if inTabs then
      (if 0 < panel then ["hidden".toList] else []) ++ ["peer-checked:block".toList]
    else []

/-- The classes to add to an element whose parent has the given name and which stands after `panel`
code blocks among its siblings. -/
def classes (parent : Option Text) (panel : Nat) (tag : Tag) : List Text :=
  match byName.find? (fun entry => isNamed tag entry.1) with
  | some (_, names) => Text.words names.toList
  | none =>
    if isNamed tag "h2" || isNamed tag "h3" || isNamed tag "h4" then Text.words heading.toList
    else if isNamed tag "a" && tag.hasClass "heading-anchor".toList then
      Text.words headingAnchor.toList
    else if isNamed tag "a" && !tag.hasClass "btn".toList then Text.words link.toList
    else if isNamed tag "code" && parent != some "pre".toList then Text.words inlineCode.toList
    else if isNamed tag "pre" then codeBlockClasses (parent == some CodeTabs.setName) panel
    else if tag.hasClass CodeTabs.setName then Text.words codeTabs.toList
    else []

mutual

/-- Adds classes to a node and below it. -/
def classNode (parent : Option Text) (panel : Nat) : Html → Html
  | .element tag children =>
    .element (tag.addClasses (classes parent panel tag)) (classList (some tag.name) 0 children)
  | node => node

/-- Adds classes to a list of siblings and below them. -/
def classList (parent : Option Text) (panel : Nat) : List Html → List Html
  | [] => []
  | node :: rest =>
    let next := if node.isElement "pre".toList then panel + 1 else panel
    classNode parent panel node :: classList parent next rest

end

/-- Adds classes to a tree. -/
def classTree : Html → Html
  | .root children => .root (classList none 0 children)
  | node => classNode none 0 node

end Manuscript.UtilityClass
