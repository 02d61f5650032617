import Manuscript.Emoji.Catalogue
import Manuscript.Text.Blank

/-!
# Emoji

An emoji is a sequence of characters with a name; some can also be written as a shortcode between
colons. A sequence may also be written without some of its variation selectors, and each spelling is
an entry of its own.
-/

namespace Manuscript

/-- An emoji in one of its spellings. -/
structure Emoji where
  /-- The characters. -/
  sequence : Text
  /-- The name that is read out. -/
  name : Text
deriving DecidableEq, Repr

namespace Emoji

/-- What the catalogue says of an emoji. -/
structure Entry where
  /-- The characters. -/
  sequence : Text
  /-- The name that is read out. -/
  name : Text
  /-- The shortcodes that stand for it. -/
  shortcodes : List Text
  /-- Whether its first character can take a skin tone. -/
  takesTone : Bool
deriving DecidableEq, Repr

/-- The longest sequence of an emoji. -/
def lengthLimit : Nat := 12

/-- The character that asks for the emoji form of the character before it. -/
def variationSelector : Char := '\ufe0f'

/-- The skin tones and their names. -/
def tones : List (Char × Text) :=
  [('🏻', "light skin tone".toList), ('🏼', "medium-light skin tone".toList),
    ('🏽', "medium skin tone".toList), ('🏾', "medium-dark skin tone".toList),
    ('🏿', "dark skin tone".toList)]

/-- All ways to leave out some of the variation selectors of a sequence, the whole of it first. -/
def spellings : Text → List Text
  | [] => [[]]
  | c :: rest =>
    let others := spellings rest
    others.map (c :: ·) ++ if c = variationSelector then others else []

/-- A name with a skin tone, which comes before other details. -/
def tonedName (name tone : Text) : Text :=
  match Text.splitFirst? ": ".toList name with
  | some (front, detail) => front ++ ": ".toList ++ tone ++ ", ".toList ++ detail
  | none => name ++ ": ".toList ++ tone

namespace Entry

/-- Whether a shortcode consists of the characters that shortcodes have. -/
def isShortcode (text : Text) : Bool :=
  !text.isEmpty && text.all fun c =>
    ('a' ≤ c && c ≤ 'z') || c.isDigit || c == '_' || c == '+' || c == '-'

/-- Whether a character can be part of an emoji: it is on a key cap, or it is a symbol and neither a
letter of a European alphabet nor white space. -/
def isSequenceChar (c : Char) : Bool :=
  (c.isDigit || c == '#' || c == '*' || c == '©' || c == '®' || '\u200d' ≤ c) && !Text.isBlank c

/-- Whether a text can be an emoji: it is short, all its characters can be part of one, and they are
not all of ASCII. -/
def isSequence (text : Text) : Bool :=
  !text.isEmpty && text.length ≤ lengthLimit
    && (text.all isSequenceChar && text.any (128 ≤ ·.toNat))

/-- Reads a line of the catalogue. -/
def read? (line : Text) : Option Entry := do
  let (takesTone, line) := match line with
    | '+' :: rest => (true, rest)
    | line => (false, line)
  let (sequence, name, shortcodes) ← match Text.splitOnChar ';' line with
    | [sequence, name] => some (sequence, name, [])
    | [sequence, name, codes] => some (sequence, name, Text.splitOnChar ',' codes)
    | _ => none
  guard (isSequence sequence ∧ shortcodes.all isShortcode)
  return { sequence, name, shortcodes, takesTone }

/-- An emoji with a skin tone after its first character. -/
def toned (entry : Entry) (tone : Char × Text) : Emoji :=
  let sequence := match entry.sequence with
    | first :: rest =>
      first :: tone.1 :: if rest.head? = some variationSelector then rest.drop 1 else rest
    | [] => []
  { sequence, name := tonedName entry.name tone.2 }

/-- All spellings of an emoji, with and without skin tones. -/
def emoji (entry : Entry) : List Emoji :=
  let plain : Emoji := { sequence := entry.sequence, name := entry.name }
  let all := plain :: if entry.takesTone then tones.map entry.toned else []
  all.flatMap fun emoji =>
    ((spellings emoji.sequence).filter isSequence).map fun sequence => { emoji with sequence }

end Entry

/-- The entries of the catalogue. -/
def catalogue : List Entry :=
  catalogueLines.filterMap fun line => Entry.read? line.toList

/-- All emoji in all their spellings. -/
def table : List Emoji :=
  catalogue.flatMap Entry.emoji

/-- All shortcodes, each with the emoji that it stands for. -/
def shortcodeTable : List (Text × Text) :=
  catalogue.flatMap fun entry => entry.shortcodes.map fun code => (code, entry.sequence)

/-- The emoji that a shortcode stands for. -/
def ofShortcode? (shortcode : Text) : Option Text :=
  shortcodeTable.lookup shortcode

/-- The emoji that a text is. -/
def get? (text : Text) : Option Emoji :=
  table.find? (·.sequence = text)

/-- The longer of two emoji, the first one if they are of one length. -/
def longer (a : Option Emoji) (b : Emoji) : Option Emoji :=
  match a with
  | none => some b
  | some a => if a.sequence.length < b.sequence.length then some b else some a

/-- The longest emoji at the start of a text. -/
def longestAt? (text : Text) : Option Emoji :=
  (table.filter fun emoji => emoji.sequence.isPrefixOf text).foldl longer none

end Emoji

end Manuscript
