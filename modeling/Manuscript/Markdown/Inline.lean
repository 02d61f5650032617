import Manuscript.Markdown.Emphasis
import Manuscript.Markdown.Target

/-!
# Running text

The characters of a paragraph, a heading or a table cell are read from left to right. Escapes, code,
HTML, character references and line breaks are settled where they stand. A bracket stays open until
its partner shows whether it is a link, an image, a footnote reference or text.
-/

namespace Manuscript.Markdown

/-- What running text can refer to. -/
structure References where
  /-- The source that is read. -/
  source : Text
  /-- Targets by the key of their label. -/
  targets : List (Text × Target)
  /-- Keys of the labels of footnotes that are defined. -/
  footnotes : List Text

namespace References

/-- The target with a label. -/
def target? (references : References) (label : Text) : Option Target :=
  references.targets.lookup (labelKey label)

/-- Whether a footnote with a label is defined. -/
def hasFootnote (references : References) (label : Text) : Bool :=
  references.footnotes.contains (labelKey label)

end References

/-- A bracket that has no partner yet. -/
structure Bracket where
  /-- Whether an exclamation mark stands before it. -/
  isImage : Bool
  /-- Where it begins. -/
  start : Nat
  /-- Whether a link can still begin here: inside a link there is no other. -/
  active : Bool := true
  /-- The text after it. -/
  after : Text
  /-- What was read since, last one first. -/
  tokens : List Token := []

/-- What has been read of running text. -/
structure InlineState where
  /-- Open brackets, innermost first. -/
  brackets : List Bracket := []
  /-- What was read before all open brackets, last one first. -/
  tokens : List Token := []

namespace Bracket

/-- An open bracket as text, with what was read since, last one first. -/
def flatten (bracket : Bracket) : List Token :=
  let sign : Text := if bracket.isImage then ['!', '['] else ['[']
  bracket.tokens ++ [.text sign bracket.start (bracket.start + sign.length)]

/-- An outer bracket once a link stands inside it. Only an image can still begin there. -/
def disableLink (bracket : Bracket) : Bracket :=
  if bracket.isImage then bracket else { bracket with active := false }

end Bracket

namespace InlineState

/-- Adds pieces, last one first. -/
def addAll (tokens : List Token) (state : InlineState) : InlineState :=
  match state.brackets with
  | [] => { state with tokens := tokens ++ state.tokens }
  | top :: below =>
    { state with brackets := { top with tokens := tokens ++ top.tokens } :: below }

/-- Adds one piece. -/
def add (token : Token) (state : InlineState) : InlineState :=
  state.addAll [token]

/-- Adds text. -/
def addText (value : Text) (start stop : Nat) (state : InlineState) : InlineState :=
  state.add (.text value start stop)

/-- Adds one event. -/
def addEvent (event : Event) (start stop : Nat) (state : InlineState) : InlineState :=
  state.add (.events [{ event, span := ⟨start, stop⟩ }])

/-- Turns open brackets, innermost first, into text. -/
def flattenAll (tokens : List Token) : List Bracket → List Token
  | [] => tokens
  | bracket :: below => bracket.flatten ++ flattenAll tokens below

/-- Turns all open brackets into text. -/
def closeAll (state : InlineState) : InlineState :=
  { tokens := flattenAll state.tokens state.brackets }

end InlineState

/-- The characters left and the offset where they were left, after a reader that looks at the text
alone has left `rest`. -/
def resume (characters : List Located) (rest : Text) (otherwise : Nat) : Nat × List Located :=
  let taken := characters.take (characters.length - rest.length)
  ((taken.getLast?.map Located.stop).getD otherwise, characters.drop taken.length)

namespace Inline

/-- Takes the line end at the start of characters. Gives its offset after it too. -/
def lineEnd? : List Located → Option (Nat × List Located)
  | a :: b :: rest =>
    if a.char = '\r' ∧ b.char = '\n' then some (b.stop, rest)
    else if a.char = '\r' ∨ a.char = '\n' then some (a.stop, b :: rest)
    else none
  | [a] => if a.char = '\r' ∨ a.char = '\n' then some (a.stop, []) else none
  | [] => none

/-- Characters without the white space at their start. -/
def skipSpaces (characters : List Located) : List Located :=
  characters.dropWhile fun located => isSpace located.char

/-- Whether a character may be something else than text. -/
def isSpecial (c : Char) : Bool :=
  "\\\x60<&*_~[]! \t\n\r\x0b\x0c".toList.contains c

/-- Takes the characters that are text for certain. -/
def plain (first : Located) (rest : List Located) (state : InlineState) :
    InlineState × List Located :=
  let more := rest.takeWhile fun located => !isSpecial located.char
  let stop := (more.getLast?.getD first).stop
  (state.addText (first.char :: Located.chars more) first.start stop, rest.drop more.length)

/-- Takes white space. Before a line end it is not text, and two characters of it break the line. -/
def spaces (first : Located) (rest : List Located) (state : InlineState) :
    InlineState × List Located :=
  let more := rest.takeWhile fun located => isSpace located.char
  let after := rest.drop more.length
  match lineEnd? after with
  | some (stop, next) =>
    let event := if more.isEmpty then Event.softBreak else Event.hardBreak
    (state.addEvent event first.start stop, skipSpaces next)
  | none =>
    let stop := (more.getLast?.getD first).stop
    (state.addText (first.char :: Located.chars more) first.start stop, after)

/-- Splits characters at the first run of exactly `width` backticks. -/
def splitAtTicks? (width : Nat) : Nat → List Located → Option (List Located × List Located)
  | 0, _ => none
  | fuel + 1, characters =>
    let content := characters.takeWhile (·.char != '\x60')
    let after := characters.drop content.length
    let ticks := after.takeWhile (·.char == '\x60')
    if ticks.isEmpty then none
    else if ticks.length = width then some (content, after)
    else
      (splitAtTicks? width fuel (after.drop ticks.length)).map fun (more, rest) =>
        (content ++ ticks ++ more, rest)

/-- The value of code: line ends are spaces. In a table, escaped pipes are pipes. -/
def codeText (inTable : Bool) : Text → Text
  | [] => []
  | '\r' :: '\n' :: rest => ' ' :: codeText inTable rest
  | '\\' :: '|' :: rest =>
    if inTable then '|' :: codeText inTable rest else '\\' :: '|' :: codeText inTable rest
  | c :: rest => (if c = '\r' ∨ c = '\n' then ' ' else c) :: codeText inTable rest

/-- Code without the one space that may stand at both of its ends. -/
def stripCode (value : Text) : Text :=
  if value.head? = some ' ' ∧ value.getLast? = some ' ' ∧ !value.all (· == ' ') then
    (value.drop 1).dropLast
  else value

/-- Takes a run of backticks, of which the first is given: code, if another run of the same width
follows, and text otherwise. -/
def ticks (inTable : Bool) (first : Located) (rest : List Located) (state : InlineState) :
    InlineState × List Located :=
  let more := rest.takeWhile (·.char == '\x60')
  let width := more.length + 1
  let after := rest.drop more.length
  match splitAtTicks? width (after.length + 1) after with
  | some (content, closing) =>
    let stop := ((closing.take width).getLast?.getD first).stop
    let value := stripCode (codeText inTable (Located.chars content))
    (state.addEvent (.code value) first.start stop, closing.drop width)
  | none => (state.addText (List.replicate width '\x60') first.start (first.start + width), after)

/-- Takes what stands after a backslash. -/
def escape (inTable : Bool) (backslash : Located) (rest : List Located) (state : InlineState) :
    InlineState × List Located :=
  match lineEnd? rest with
  | some (stop, next) => (state.addEvent .hardBreak backslash.start stop, skipSpaces next)
  | none =>
    match rest with
    | escaped :: after =>
      if isAsciiPunctuation escaped.char then
        match inTable && escaped.char == '\\', after with
        | true, pipe :: more =>
          if pipe.char = '|' then (state.addText ['|'] pipe.start pipe.stop, more)
          else (state.addText ['\\'] escaped.start escaped.stop, after)
        | _, _ =>
          let next := state.addText [escaped.char] escaped.start escaped.stop
          match escaped.char == '\x60', after with
          | true, tick :: more =>
            if tick.char = '\x60' then ticks inTable tick more next else (next, after)
          | _, _ => (next, after)
      else (state.addText ['\\'] backslash.start backslash.stop, rest)
    | [] => (state.addText ['\\'] backslash.start backslash.stop, rest)

/-- Takes what an ampersand begins. -/
def entity (ampersand : Located) (rest : List Located) (state : InlineState) :
    InlineState × List Located :=
  match readEntity? (Located.chars rest) with
  | some (value, after) =>
    let (stop, next) := resume rest after ampersand.stop
    (state.addText value ampersand.start stop, next)
  | none => (state.addText ['&'] ampersand.start ampersand.stop, rest)

/-- Takes what an angle bracket begins: an address, HTML or text. -/
def angle (references : References) (opening : Located) (rest : List Located)
    (state : InlineState) :
    InlineState × List Located :=
  let text := Located.chars rest
  match Autolink.read? text with
  | some (url, after) =>
    let (stop, next) := resume rest after opening.stop
    let span : Span := ⟨opening.start, stop⟩
    let link : List LocatedEvent :=
      [{ event := .enter (.link url []), span },
        { event := .text url, span := ⟨opening.stop, stop - 1⟩ },
        { event := .leave, span }]
    (state.add (.events link), next)
  | none =>
    match Tag.read? text with
    | some after =>
      let (stop, next) := resume rest after opening.stop
      let value := '<' :: text.take (text.length - after.length)
      (state.addEvent (.inlineHtml value) opening.start stop, next)
    | none =>
      match Tag.special? text with
      | some after =>
        let (stop, next) := resume rest after opening.stop
        let value := (Text.slice? references.source opening.start stop).getD []
        (state.addEvent (.inlineHtml value) opening.start stop, next)
      | none => (state.addText ['<'] opening.start opening.stop, rest)

/-- Takes a run of signs of emphasis. -/
def run (first : Located) (rest : List Located) (state : InlineState) :
    InlineState × List Located :=
  let more := rest.takeWhile (·.char == first.char)
  let after := rest.drop more.length
  let next := after.head?.map Located.char
  (state.add (Run.token first.char (more.length + 1) first.start first.before next), after)

/-- Reads the label of a footnote reference, after its opening bracket. It stands on one line. -/
def footnoteLabel? : Text → Option (Text × Text)
  | '^' :: c :: rest =>
    if c = ']' then none
    else
      match readLabel? (c :: rest) with
      | some (label, after) =>
        let taken := (c :: rest).take (rest.length + 1 - after.length)
        if countLineEnds taken = 0 then some (label, after) else none
      | none => none
  | _ => none

/-- Ends a link or an image whose bracket is the innermost one. -/
def finishLink (bracket : Bracket) (target : Target) (stop : Nat) (state : InlineState) :
    InlineState :=
  let span : Span := ⟨bracket.start, stop⟩
  let construct :=
    if bracket.isImage then Construct.image target.url target.title
    else Construct.link target.url target.title
  let events : List LocatedEvent :=
    { event := .enter construct, span } ::
      (pairRuns bracket.tokens.reverse ++ [{ event := .leave, span }])
  let around :=
    if bracket.isImage then state
    else { state with brackets := state.brackets.map Bracket.disableLink }
  around.add (.events events)

/-- Ends a footnote reference. All brackets around it become text. -/
def finishFootnote (bracket : Bracket) (label : Text) (stop : Nat) (state : InlineState) :
    InlineState :=
  let around := state.closeAll
  if bracket.isImage then
    (around.addText ['!'] bracket.start (bracket.start + 1)).addEvent
      (.footnoteReference label) (bracket.start + 1) stop
  else around.addEvent (.footnoteReference label) bracket.start stop

/-- What a bracket pair refers to by what follows it: a label in brackets of its own, or empty
brackets or nothing, so that its own text is the label. -/
inductive Reference where
  | label (label after : Text)
  | own (after : Text)

/-- Reads what follows a bracket pair. -/
def reference (text : Text) : Reference :=
  match text with
  | '[' :: ']' :: after => .own after
  | '[' :: inner =>
    if (footnoteLabel? inner).isSome then .own text
    else
      match readLabel? inner with
      | some (label, after) => .label label after
      | none => .own text
  | _ => .own text

/-- Takes a closing bracket whose partner is given and has been taken off the open brackets. -/
def closePair (references : References) (inTable : Bool) (bracket : Bracket) (closing : Located)
    (rest : List Located) (state : InlineState) : InlineState × List Located :=
  let text := Located.chars rest
  let plainly := ((state.addAll bracket.flatten).addText [']'] closing.start closing.stop, rest)
  let behind := match text with
    | '(' :: inner => Target.behind? inTable inner
    | _ => none
  match behind with
  | some (target, after) =>
    let (stop, next) := resume rest after closing.stop
    (finishLink bracket target stop state, next)
  | none =>
    match reference text with
    | .label label after =>
      match references.target? label with
      | some target =>
        let (stop, next) := resume rest after closing.stop
        (finishLink bracket target stop state, next)
      | none => plainly
    | .own after =>
      match footnoteLabel? bracket.after with
      | some (label, tail) =>
        if tail.length = text.length && references.hasFootnote label then
          (finishFootnote bracket label closing.stop state, rest)
        else plainly
      | none =>
        match readLabel? bracket.after with
        | some (label, tail) =>
          match if tail.length = text.length then references.target? label else none with
          | some target =>
            (finishLink bracket target closing.stop state, (resume rest after closing.stop).2)
          | none => plainly
        | none => plainly

/-- Takes a closing bracket. -/
def close (references : References) (inTable : Bool) (closing : Located) (rest : List Located)
    (state : InlineState) : InlineState × List Located :=
  match state.brackets with
  | [] => (state.addText [']'] closing.start closing.stop, rest)
  | bracket :: below =>
    let around := { state with brackets := below }
    if bracket.active then closePair references inTable bracket closing rest around
    else ((around.addAll bracket.flatten).addText [']'] closing.start closing.stop, rest)

/-- Opens a bracket. -/
def openBracket (isImage : Bool) (start : Nat) (rest : List Located) (state : InlineState) :
    InlineState :=
  { state with brackets := { isImage, start, after := Located.chars rest } :: state.brackets }

/-- Takes the first character, and with it all that belongs to it. -/
def step (references : References) (inTable : Bool) (first : Located) (rest : List Located)
    (state : InlineState) : InlineState × List Located :=
  match first.char with
  | '\\' => escape inTable first rest state
  | '\x60' => ticks inTable first rest state
  | '<' => angle references first rest state
  | '&' => entity first rest state
  | '*' => run first rest state
  | '_' => run first rest state
  | '~' => run first rest state
  | '[' => (openBracket false first.start rest state, rest)
  | ']' => close references inTable first rest state
  | '!' =>
    match rest with
    | next :: after =>
      if next.char = '[' then (openBracket true first.start after state, after)
      else (state.addText ['!'] first.start first.stop, rest)
    | [] => (state.addText ['!'] first.start first.stop, rest)
  | c =>
    if isSpace c then spaces first rest state
    else
      match lineEnd? (first :: rest) with
      | some (stop, next) => (state.addEvent .softBreak first.start stop, skipSpaces next)
      | none => plain first rest state

/-- Reads characters, in at most `fuel` steps. -/
def readFrom (references : References) (inTable : Bool) :
    Nat → List Located → InlineState → InlineState
  | 0, _, state => state
  | _ + 1, [], state => state
  | fuel + 1, first :: rest, state =>
    let (next, left) := step references inTable first rest state
    readFrom references inTable fuel left next

/-- The pieces of running text. Texts beside each other are one piece. -/
def tokens (references : References) (inTable : Bool) (content : List Located) : List Token :=
  (readFrom references inTable content.length content {}).closeAll.tokens.foldl Token.consMerged []

end Inline

end Manuscript.Markdown
