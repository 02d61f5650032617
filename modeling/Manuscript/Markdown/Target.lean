import Manuscript.Markdown.Mark
import Manuscript.Markdown.Entity
import Manuscript.Text.CaseFolding

/-!
# Link targets

A link names its destination and its title behind its text or in a definition elsewhere. Both places
write the two parts in the same way.
-/

namespace Manuscript.Markdown

/-- What follows the line end at the start of a text. -/
def afterLineEnd? : Text → Option Text
  | '\r' :: '\n' :: rest => some rest
  | '\r' :: rest => some rest
  | '\n' :: rest => some rest
  | _ => none

/-- Number of line ends in a text. -/
def countLineEnds : Text → Nat
  | [] => 0
  | '\r' :: '\n' :: rest => countLineEnds rest + 1
  | c :: rest => countLineEnds rest + if c = '\r' ∨ c = '\n' then 1 else 0

/-- Takes white space with at most one line end, and says whether there was one. -/
def skipSeparator (text : Text) : Bool × Text :=
  let text := text.dropWhile isSpace
  match afterLineEnd? text with
  | some rest => (true, rest.dropWhile isSpace)
  | none => (false, text)

/-- Where a link leads. -/
structure Target where
  /-- The destination. -/
  url : Text
  /-- The title; empty if there is none. -/
  title : Text := []
deriving DecidableEq, Repr

namespace Target

/-- Reads a destination in angle brackets, after the first of them. -/
def bracketed? : Text → Option (Text × Text)
  | [] => none
  | '>' :: rest => some ([], rest)
  | '\\' :: c :: rest =>
    if isAsciiPunctuation c then (bracketed? rest).map fun (url, rest) => ('\\' :: c :: url, rest)
    else (bracketed? (c :: rest)).map fun (url, rest) => ('\\' :: url, rest)
  | c :: rest =>
    if c = '\n' ∨ c = '\r' ∨ c = '<' then none
    else (bracketed? rest).map fun (url, rest) => (c :: url, rest)

/-- Reads a destination without brackets. It ends at white space or at a parenthesis that it did not
open itself. One that is open inside more than `limit` others makes it none. -/
def bare? (limit depth : Nat) : Text → Option (Text × Text)
  | [] => if depth = 0 then some ([], []) else none
  | '\\' :: c :: rest =>
    if isAsciiPunctuation c then
      (bare? limit depth rest).map fun (url, rest) => ('\\' :: c :: url, rest)
    else (bare? limit depth (c :: rest)).map fun (url, rest) => ('\\' :: url, rest)
  | c :: rest =>
    if c ≤ ' ' then if depth = 0 then some ([], c :: rest) else none
    else if c = '(' then
      if limit < depth then none
      else (bare? limit (depth + 1) rest).map fun (url, rest) => (c :: url, rest)
    else if c = ')' then
      if depth = 0 then some ([], c :: rest)
      else (bare? limit (depth - 1) rest).map fun (url, rest) => (c :: url, rest)
    else (bare? limit depth rest).map fun (url, rest) => (c :: url, rest)

/-- Reads a destination as it is written. -/
def url? (limit : Nat) : Text → Option (Text × Text)
  | '<' :: rest => bracketed? rest
  | text => bare? limit 0 text

/-- Reads a title up to the sign that closes it. The white space at the start of its lines is not
part of it. -/
def titleFrom? (opening closing : Char) (lineStart : Bool) : Text → Option (Text × Text)
  | [] => none
  | '\\' :: c :: rest =>
    if isAsciiPunctuation c then
      (titleFrom? opening closing false rest).map fun (title, rest) => ('\\' :: c :: title, rest)
    else
      (titleFrom? opening closing false (c :: rest)).map fun (title, rest) => ('\\' :: title, rest)
  | '\r' :: '\n' :: rest =>
    (titleFrom? opening closing true rest).map fun (title, rest) => ('\n' :: title, rest)
  | c :: rest =>
    if c = closing then some ([], rest)
    else if c = opening then none
    else if lineStart ∧ isSpace c then titleFrom? opening closing true rest
    else if c = '\n' ∨ c = '\r' then
      (titleFrom? opening closing true rest).map fun (title, rest) => ('\n' :: title, rest)
    else (titleFrom? opening closing false rest).map fun (title, rest) => (c :: title, rest)

/-- Reads a title as it is written. -/
def title? : Text → Option (Text × Text)
  | '"' :: rest => titleFrom? '"' '"' false rest
  | '\'' :: rest => titleFrom? '\'' '\'' false rest
  | '(' :: rest => titleFrom? '(' ')' false rest
  | _ => none

/-- Reads the target of a link that stands behind its text, in parentheses of which the first has
been taken. -/
def behind? (inTable : Bool) (text : Text) : Option (Target × Text) := do
  let (url, rest) ← url? 32 (skipSeparator text).2
  let rest := (skipSeparator rest).2
  let url := unescape inTable url
  match title? rest with
  | some (title, rest) =>
    let rest ← Text.dropFront? [')'] (skipSeparator rest).2
    return ({ url, title := unescape inTable title }, rest)
  | none =>
    let rest ← Text.dropFront? [')'] rest
    return ({ url }, rest)

end Target

/-- A target with the label by which links refer to it. -/
structure Definition where
  /-- The label. -/
  label : Text
  /-- Where links with the label lead. -/
  target : Target
deriving DecidableEq, Repr

/-- Labels are compared without regard to case. -/
def labelKey (label : Text) : Text :=
  Text.fullFold label

/-- Whether nothing but white space follows on a line. -/
def lineEndsHere (text : Text) : Bool :=
  let text := text.dropWhile isSpace
  text.isEmpty || (afterLineEnd? text).isSome

namespace Definition

/-- Reads a definition at the start of a paragraph. It ends with its line. What looks like a title
belongs to it only if the line ends there too; if it does not, the title is left to the next
paragraph when it stands on a line of its own, and otherwise there is no definition. -/
def read? (text : Text) : Option (Definition × Text) := do
  let text ← Text.dropFront? ['['] text
  let (label, text) ← readLabel? text
  let text ← Text.dropFront? [':'] text
  let start := (skipSeparator text).2
  let (url, afterUrl) ← url? start
  let definition : Definition := { label, target := { url := unescape false url } }
  let (crossed, next) := skipSeparator afterUrl
  match Target.title? next with
  | some (title, afterTitle) =>
    if next.length = afterUrl.length then none
    else if lineEndsHere afterTitle then
      return ({ label, target := { definition.target with title := unescape false title } },
        afterTitle)
    else if crossed then return (definition, afterUrl)
    else none
  | none => if lineEndsHere afterUrl then return (definition, afterUrl) else none
where
  /-- Reads a destination, which may not be empty. -/
  url? (text : Text) : Option (Text × Text) := do
    let (url, rest) ← Target.url? 1 text
    guard (rest.length < text.length)
    return (url, rest)

end Definition

end Manuscript.Markdown
