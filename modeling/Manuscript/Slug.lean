import Manuscript.Text.Alphanumeric
import Manuscript.Text.Blank
import Manuscript.Text.Lowercase

/-!
# Slugs

A slug is the form of a heading's text that can stand in a link: letters and numbers in lower case,
joined by single hyphens. A `Slugger` hands out the slugs of one document and never gives the same
one twice.
-/

namespace Manuscript

namespace Slug

/-- What a character contributes to a slug before runs of hyphens are collapsed. -/
def slugChar (c : Char) : Text :=
  if Text.isAlphanumeric c then Text.lowercaseChar c
  else if Text.isBlank c || c == '-' || c == '_' then ['-']
  else []

/-- The slug of a text. It is empty when the text has no letters and no numbers. -/
def slugify (text : Text) : Text :=
  let pieces := Text.splitOnChar '-' (text.flatMap slugChar)
  Text.joinWith ['-'] (pieces.filter fun piece => !piece.isEmpty)

/-- A slug with a number appended. -/
def numbered (base : Text) (n : Nat) : Text :=
  base ++ '-' :: Text.ofNat n

/-- The first number, from `n` on, whose numbered slug is not taken. A number that is passed over
uses up one of the taken slugs, so the search ends. -/
def firstFree (base : Text) (taken : List Text) (n : Nat) : Nat :=
  if numbered base n ∈ taken then firstFree base (taken.erase (numbered base n)) (n + 1) else n
termination_by taken.length
decreasing_by
  rename_i taken'
  have := List.length_pos_of_mem taken'
  rw [List.length_erase_of_mem taken']
  omega

end Slug

/-- The slugs of a document that are in use, each with the number last appended to it. -/
structure Slugger where
  /-- Slugs in use and the number last appended to each. -/
  seen : List (Text × Nat) := []
deriving Repr

namespace Slugger

/-- The slugs in use. -/
def taken (slugger : Slugger) : List Text :=
  slugger.seen.map Prod.fst

/-- The number last appended to a slug, if the slug is in use. -/
def count? (slugger : Slugger) (slug : Text) : Option Nat :=
  slugger.seen.lookup slug

/-- Marks an identifier that the document already has as used. -/
def reserve (id : Text) (slugger : Slugger) : Slugger :=
  match slugger.count? id with
  | some _ => slugger
  | none => { seen := (id, 0) :: slugger.seen }

/-- The next slug for a text, or nothing if the text has no slug. The first use of a slug is the
slug itself; later uses append the smallest number that makes a slug not yet in use. -/
def next (text : Text) (slugger : Slugger) : Option Text × Slugger :=
  let base := Slug.slugify text
  if base.isEmpty then (none, slugger)
  else
    match slugger.count? base with
    | none => (some base, { seen := (base, 0) :: slugger.seen })
    | some count =>
      let n := Slug.firstFree base slugger.taken (count + 1)
      let slug := Slug.numbered base n
      (some slug, { seen := (slug, 0) :: (base, n) :: slugger.seen })

end Slugger

end Manuscript
