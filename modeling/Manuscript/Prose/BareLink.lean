import Manuscript.Document.Basic
import Manuscript.Text.WebAddress

/-!
# Bare links

A word of the prose that is an `http` or `https` address becomes a link. Punctuation that ends a
sentence, and a closing parenthesis without an opening one, stay outside. Text inside a link is left
alone.
-/

namespace Manuscript.BareLink

/-- Punctuation that is not part of an address when it stands at its end. -/
def isTrailing (c : Char) : Bool :=
  c == '.' || c == ',' || c == ':' || c == ';' || c == '!' || c == '?' || c == '\'' || c == '"'

/-- Removes trailing punctuation from an address that is given last character first, where `excess`
is the number of closing parentheses less the number of opening ones. -/
def trimReversed (excess : Int) : Text → Text
  | [] => []
  | c :: rest =>
    if isTrailing c then trimReversed excess rest
    else if c = ')' && 0 < excess then trimReversed (excess - 1) rest
    else c :: rest

/-- The longest part of a word that ends neither in trailing punctuation nor in a closing
parenthesis too many. -/
def trimAddress (word : Text) : Text :=
  (trimReversed (word.count ')' - word.count '(') word.reverse).reverse

/-- Whether a word is an address: after the scheme comes a character other than a blank, `$`, `.`,
`?` and `#`, then any further character. -/
def isAddress (word : Text) : Bool :=
  match WebAddress.dropScheme? word with
  | some (first :: second :: rest) =>
    !(Text.isBlank first || first == '$' || first == '.' || first == '?' || first == '#')
      && second != '\n' && rest.all (!Text.isBlank ·)
  | _ => false

/-- The link for an address. -/
def linkNode (url : Text) : Node :=
  { kind := .link url none, children := [Node.text url] }

/-- A text cut into pieces at its addresses: each address with the text before it, then the text
after the last one. -/
structure Pieces where
  /-- Every address with the text before it. -/
  links : List (Text × Text)
  /-- The text after the last address. -/
  tail : Text
deriving Repr

/-- Cuts a text at its addresses. The text `plain` stands before it and has no address. -/
def cutFrom (plain text : Text) : Pieces :=
  match text with
  | [] => { links := [], tail := plain }
  | c :: rest =>
    if Text.isBlank c then cutFrom (plain ++ [c]) rest
    else
      let word := c :: rest.takeWhile (!Text.isBlank ·)
      let after := rest.dropWhile (!Text.isBlank ·)
      let url := trimAddress word
      if isAddress url then
        let pieces := cutFrom (word.drop url.length) after
        { pieces with links := (plain, url) :: pieces.links }
      else cutFrom (plain ++ word) after
termination_by text.length
decreasing_by
  all_goals
    have := (List.dropWhile_sublist (!Text.isBlank ·) (l := rest)).length_le
    simp only [List.length_cons]; omega

/-- The nodes that take the place of a text; nothing when it has no address. -/
def nodes? (text : Text) : Option (List Node) :=
  let pieces := cutFrom [] text
  if pieces.links.isEmpty then none
  else
    some (pieces.links.flatMap (fun (before, url) => Node.ofText before ++ [linkNode url])
      ++ Node.ofText pieces.tail)

mutual

/-- Links the addresses below a node. -/
def linkTexts : Node → Node
  | ⟨kind, children, data, span⟩ => ⟨kind, linkTextList children, data, span⟩

/-- Links the addresses in a list of siblings, outside links. -/
def linkTextList : List Node → List Node
  | [] => []
  | ⟨.text value, children, data, span⟩ :: rest =>
    (nodes? value).getD [⟨.text value, children, data, span⟩] ++ linkTextList rest
  | ⟨.link url title, children, data, span⟩ :: rest =>
    ⟨.link url title, children, data, span⟩ :: linkTextList rest
  | node :: rest => linkTexts node :: linkTextList rest

end

end Manuscript.BareLink
