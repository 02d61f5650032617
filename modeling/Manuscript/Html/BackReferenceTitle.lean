import Manuscript.Html.Basic
import Manuscript.Options.Basic
import Manuscript.Template

/-!
# Titles of back-references

A link that leads from a footnote back to a reference gets a title, made by a template from the
identifier of the footnote. A template that does not use the identifier gives the identifier alone.
-/

namespace Manuscript.BackReferenceTitle

/-- The attribute or class by which a back-reference is known. -/
def markName : Text := "data-footnote-backref".toList

/-- A text without a beginning that it may have. -/
def dropOptional (front text : Text) : Text :=
  (Text.dropFront? front text).getD text

/-- The identifier of a footnote in the address of a back-reference. -/
def identifier? (clobberFront address : Text) : Option Text :=
  Text.nonempty?
    (dropOptional "fnref-".toList (dropOptional clobberFront (dropOptional ['#'] address)))

/-- The title for an identifier. -/
def title (template : Template) (id : Text) : Text :=
  if template.uses "id".toList then template.render [("id".toList, id)] else id

/-- The tag of a back-reference with its title. -/
def withTitle (template : Template) (clobberFront : Text) (tag : Tag) : Tag :=
  if tag.name = ['a'] && (tag.hasAttribute markName || tag.hasClass markName) then
    match (tag.attribute? "href".toList).bind (identifier? clobberFront) with
    | some id => tag.setAttribute "title".toList (title template id)
    | none => tag
  else tag

mutual

/-- Adds titles to a node and below it. -/
def titleNode (template : Template) (clobberFront : Text) : Html → Html
  | .element tag children =>
    .element (withTitle template clobberFront tag) (titleList template clobberFront children)
  | node => node

/-- Adds titles to a list of siblings and below them. -/
def titleList (template : Template) (clobberFront : Text) : List Html → List Html
  | [] => []
  | node :: rest => titleNode template clobberFront node :: titleList template clobberFront rest

end

/-- Adds titles to a tree. -/
def titleTree (options : FootnoteOptions) : Html → Html
  | .root children => .root (titleList ⟨options.titleTemplate⟩ options.clobberFront children)
  | node => titleNode ⟨options.titleTemplate⟩ options.clobberFront node

end Manuscript.BackReferenceTitle
