import Manuscript.Document.Basic
import Manuscript.Options.Basic
import Manuscript.Text.Blank

/-!
# Smart punctuation

Straight quotes become curly quotes, runs of hyphens become dashes and three dots become an
ellipsis. Whether a quote opens or closes depends on the character before and after it; what stands
before is remembered across inline nodes and forgotten where a paragraph or a heading begins. Code
is never touched, and neither is text between raw tags such as `<pre>` and the tag that closes them.
-/

namespace Manuscript.SmartPunctuation

/-- What a character is for the purposes of a quote next to it. -/
inductive CharClass where
  /-- There is no character. -/
  | edge
  | space
  | word
  | punctuation
deriving DecidableEq, Repr

/-- The class of a character, or of there being none. -/
def classify : Option Char → CharClass
  | none => .edge
  | some c => if Text.isBlank c then .space else if c.isAlphanum then .word else .punctuation

/-- The three dots of an ellipsis, with or without spaces between them. -/
def ellipsis? (options : TypographyOptions) : Text → Option (Char × Text)
  | '.' :: '.' :: '.' :: rest => if options.ellipses then some ('…', rest) else none
  | '.' :: ' ' :: '.' :: ' ' :: '.' :: rest => if options.ellipses then some ('…', rest) else none
  | _ => none

/-- The dash for two hyphens, or for three. -/
def dashFor (mode : DashMode) (triple : Bool) : Char :=
  match mode, triple with
  | .oldschool, false => '–'
  | .inverted, true => '–'
  | _, _ => '—'

/-- Two or three hyphens. -/
def dash? (options : TypographyOptions) : Text → Option (Char × Text)
  | '-' :: '-' :: '-' :: rest =>
    if options.dashes = .off then none else some (dashFor options.dashes true, rest)
  | '-' :: '-' :: rest =>
    if options.dashes = .off then none else some (dashFor options.dashes false, rest)
  | _ => none

/-- A double quote that is written as two backticks or two apostrophes. -/
def doubled? (options : TypographyOptions) : Text → Option (Char × Text)
  | '\x60' :: '\x60' :: rest => if options.backticks then some ('“', rest) else none
  | '\'' :: '\'' :: rest => if options.backticks then some ('”', rest) else none
  | _ => none

/-- Whether a quote opens: it does at the start and after a blank, and otherwise when a word
follows. -/
def opens (before after : CharClass) : Bool :=
  match before with
  | .edge => true
  | .space => true
  | _ => after == .word

/-- The curly form of a straight quote between characters of the given classes. An apostrophe
between two word characters closes. -/
def quote? (options : TypographyOptions) (before after : CharClass) (c : Char) : Option Char :=
  if !options.quotes then none
  else if c = '"' then some (if opens before after then '“' else '”')
  else if c = '\'' then
    some (if !(before == .word && after == .word) && opens before after then '‘' else '’')
  else none

/-- The mark at the start of a text that replaces a sequence of characters, and what follows it. -/
def sequence? (options : TypographyOptions) (text : Text) : Option (Char × Text) :=
  ellipsis? options text <|> dash? options text <|> doubled? options text

/-- What follows an ellipsis is shorter than the text. -/
theorem length_of_ellipsis? {options : TypographyOptions} {text after : Text} {mark : Char}
    (found : ellipsis? options text = some (mark, after)) : after.length < text.length := by
  unfold ellipsis? at found
  grind

/-- What follows a dash is shorter than the text. -/
theorem length_of_dash? {options : TypographyOptions} {text after : Text} {mark : Char}
    (found : dash? options text = some (mark, after)) : after.length < text.length := by
  unfold dash? at found
  grind

/-- What follows a doubled quote is shorter than the text. -/
theorem length_of_doubled? {options : TypographyOptions} {text after : Text} {mark : Char}
    (found : doubled? options text = some (mark, after)) : after.length < text.length := by
  unfold doubled? at found
  grind

/-- What follows a sequence is shorter than the text. -/
theorem length_of_sequence? {options : TypographyOptions} {text after : Text} {mark : Char}
    (found : sequence? options text = some (mark, after)) : after.length < text.length := by
  simp only [sequence?, Option.orElse_eq_orElse, Option.orElse_eq_or, Option.or_eq_some_iff]
    at found
  rcases found with found | ⟨_, found | ⟨_, found⟩⟩
  · exact length_of_ellipsis? found
  · exact length_of_dash? found
  · exact length_of_doubled? found

/-- Sets the punctuation of a text after a character of the class `before`; gives the text and the
class of its last character. -/
def smarten (options : TypographyOptions) (before : CharClass) (text : Text) : Text × CharClass :=
  match text with
  | [] => ([], before)
  | c :: rest =>
    match _found : sequence? options (c :: rest) with
    | some (mark, after) =>
      let (out, last) := smarten options .punctuation after
      (mark :: out, last)
    | none =>
      match quote? options before (classify rest.head?) c with
      | some mark =>
        let (out, last) := smarten options .punctuation rest
        (mark :: out, last)
      | none =>
        let (out, last) := smarten options (classify (some c)) rest
        (c :: out, last)
termination_by text.length
decreasing_by
  · exact length_of_sequence? _found
  · simp
  · simp

/-- Names of the elements whose text is kept as it is. -/
def verbatimNames : List Text :=
  ["pre".toList, "code".toList, "kbd".toList, "math".toList, "script".toList, "style".toList]

/-- A tag in raw markup. -/
structure RawTag where
  /-- Name in lower case. -/
  name : Text
  /-- Whether it closes an element. -/
  closing : Bool
  /-- Whether it opens and closes an element at once. -/
  selfClosing : Bool
deriving DecidableEq, Repr

/-- The end of a tag, after blanks: whether it has a slash, and what follows it. -/
def tagEnd? (text : Text) : Option (Bool × Text) :=
  match text.dropWhile Text.isBlank with
  | '/' :: '>' :: rest => some (true, rest)
  | '>' :: rest => some (false, rest)
  | _ => none

/-- The first end of a tag that is not inside quotes. `quote` is the quote that the text begins in.
-/
def tagEndAfter? (quote : Option Char) : Text → Option (Bool × Text)
  | [] => none
  | c :: rest =>
    match quote with
    | some q => tagEndAfter? (if c = q then none else some q) rest
    | none =>
      match tagEnd? (c :: rest) with
      | some found => some found
      | none => tagEndAfter? (if c = '"' || c = '\'' then some c else none) rest

/-- Reads a tag after its opening angle bracket, and gives what follows it. -/
def rawTag? (text : Text) : Option (RawTag × Text) :=
  let (closing, text) := match text with
    | '/' :: rest => (true, rest)
    | _ => (false, text)
  match text with
  | [] => none
  | c :: _ =>
    if c.isAlpha then
      let name := Text.asciiLowercase (text.takeWhile fun c => c.isAlphanum || c == '-')
      let rest := text.dropWhile fun c => c.isAlphanum || c == '-'
      let found := match rest with
        | blank :: tail => if Text.isBlank blank then tagEndAfter? none tail else tagEnd? rest
        | [] => none
      found.map fun (selfClosing, after) => ({ name, closing, selfClosing }, after)
    else none

/-- The open verbatim elements, innermost first, after a tag. -/
def track (tag : RawTag) (open' : List Text) : List Text :=
  if tag.selfClosing then open'
  else if tag.closing then open'.erase tag.name
  else if verbatimNames.contains tag.name then tag.name :: open'
  else open'

/-- The tags of raw markup, in order. The next `skip` characters belong to a tag that has been read.
-/
def rawTags (skip : Nat) : Text → List RawTag
  | [] => []
  | c :: rest =>
    if 0 < skip then rawTags (skip - 1) rest
    else
      match if c = '<' then rawTag? rest else none with
      | some (tag, after) => tag :: rawTags (rest.length - after.length) rest
      | none => rawTags 0 rest

/-- What is remembered from one node to the next. -/
structure State where
  /-- Class of the character before. -/
  before : CharClass := .edge
  /-- Names of the open verbatim elements, innermost first. -/
  verbatim : List Text := []
deriving DecidableEq, Repr

namespace State

/-- The state after a piece of raw markup. -/
def afterHtml (value : Text) (state : State) : State :=
  { state with
    verbatim := (rawTags 0 value).foldl (fun names tag => track tag names) state.verbatim }

end State

mutual

/-- Sets the punctuation in the texts of a node. -/
def smartenNode (options : TypographyOptions) : Node → State → Node × State
  | ⟨.html value, children, data, span⟩, state =>
    (⟨.html value, children, data, span⟩, state.afterHtml value)
  | ⟨.inlineCode value, children, data, span⟩, state =>
    (⟨.inlineCode value, children, data, span⟩, { state with before := .word })
  | ⟨.code language fence value, children, data, span⟩, state =>
    (⟨.code language fence value, children, data, span⟩, { state with before := .edge })
  | ⟨.lineBreak, children, data, span⟩, state =>
    (⟨.lineBreak, children, data, span⟩, { state with before := .space })
  | ⟨.text value, children, data, span⟩, state =>
    if state.verbatim.isEmpty then
      let (value, before) := smarten options state.before value
      (⟨.text value, children, data, span⟩, { state with before })
    else (⟨.text value, children, data, span⟩, state)
  | ⟨.paragraph, children, data, span⟩, state =>
    let (children, state) := smartenNodeList options children { state with before := .edge }
    (⟨.paragraph, children, data, span⟩, state)
  | ⟨.heading level, children, data, span⟩, state =>
    let (children, state) := smartenNodeList options children { state with before := .edge }
    (⟨.heading level, children, data, span⟩, state)
  | ⟨kind, children, data, span⟩, state =>
    let (children, state) := smartenNodeList options children state
    (⟨kind, children, data, span⟩, state)

/-- Sets the punctuation in the texts of a list of siblings. -/
def smartenNodeList (options : TypographyOptions) : List Node → State → List Node × State
  | [], state => ([], state)
  | node :: rest, state =>
    let (node, state) := smartenNode options node state
    let (rest, state) := smartenNodeList options rest state
    (node :: rest, state)

end

/-- Puts smart punctuation into a document. The root itself is no text. -/
def smartenDocument (options : TypographyOptions) : Node → Node
  | ⟨kind, children, data, span⟩ => ⟨kind, (smartenNodeList options children {}).1, data, span⟩

end Manuscript.SmartPunctuation
