import Manuscript.Options.Value

/-!
# YAML

Reads a YAML text with one document. The structure of blocks follows from the indentation of lines,
so blocks are read from lines, each with its indentation; what may run over several lines, such as
quotes and brackets, is read from the lines joined again. Anchors, tags and keys of several lines
are not supported. A scalar without quotes keeps its type open.
-/

namespace Manuscript.Yaml

/-- A line without its indentation. -/
structure Line where
  /-- Number of spaces before the content. -/
  indent : Nat
  /-- The content. -/
  content : Text
deriving DecidableEq, Repr

namespace Line

/-- Takes the indentation off a line. -/
def ofText (text : Text) : Line :=
  { indent := (text.takeWhile (· == ' ')).length, content := text.dropWhile (· == ' ') }

/-- A line as it was written. -/
def toText (line : Line) : Text :=
  List.replicate line.indent ' ' ++ line.content

end Line

/-- Whether a character is white space inside a line. -/
def isSpace (c : Char) : Bool :=
  c == ' ' || c == '\t'

/-- The lines of a text. -/
def lines (text : Text) : List Line :=
  (Text.splitOnChar '\n' text).map fun line => Line.ofText ((Text.dropBack? ['\r'] line).getD line)

/-- Whether nothing or only a comment stands in the rest of a line. -/
def isEmpty (content : Text) : Bool :=
  match content.dropWhile isSpace with
  | [] => true
  | c :: _ => c == '#'

/-- Whether a line between two blocks holds nothing or only a comment. A tab is no indentation, so
a line that begins with one does not count. -/
def Line.isBetween (line : Line) : Bool :=
  line.content.head?.all (· == '#')

/-- Drops the lines before the next block. -/
def skipEmpty (lines : List Line) : List Line :=
  lines.dropWhile Line.isBetween

/-- Lines as one text. -/
def join (lines : List Line) : Text :=
  Text.joinWith ['\n'] (lines.map Line.toText)

/-- The lines after the point where reading has stopped; the rest of that line has to be empty, and
a comment in it needs white space before it. -/
def afterValue? (rest : Text) : Option (List Line) :=
  let (line, after) := rest.span (· != '\n')
  if line.head? != some '#' && isEmpty line then
    match after with
    | _ :: after => some (lines after)
    | [] => some []
  else none

/-- Drops a list mark from the start of a line, and gives how many characters go with it. -/
def dropDash? : Text → Option (Nat × Text)
  | ['-'] => some (1, [])
  | '-' :: c :: rest =>
    if isSpace c then
      let content := (c :: rest).dropWhile (· == ' ')
      some (1 + ((c :: rest).length - content.length), content)
    else none
  | _ => none

/-- Whether a character begins something other than a scalar without quotes. -/
def isIndicator (c : Char) : Bool :=
  [',', '[', ']', '\x7b', '\x7d', '#', '&', '*', '!', '|', '>', '\'', '"', '%', '@',
    '\x60'].contains c

/-- Whether a scalar without quotes can begin with a text. -/
def startsPlain (inFlow : Bool) : Text → Bool
  | [] => false
  | [c] => !(isIndicator c || isSpace c || c == '-' || c == '?' || c == ':')
  | c :: d :: _ =>
    if c == '-' || c == '?' || c == ':' then
      !isSpace d && d != '\n' && !(inFlow && (d == ',' || d == ']' || d == '\x7d'))
    else !(isIndicator c || isSpace c)

/-- Reads the part of a scalar without quotes that is on one line. It ends before a colon with white
space after it, before a comment and, inside brackets, before a bracket or a comma. -/
def readPlain (inFlow : Bool) : Option Char → Text → Text × Text
  | _, [] => ([], [])
  | before, c :: rest =>
    let isEnd := c == '\n'
      || (c == ':' && (rest.head?.all fun d =>
        isSpace d || d == '\n' || (inFlow && [',', '[', ']', '\x7b', '\x7d'].contains d)))
      || (c == '#' && before.any isSpace)
      || (inFlow && [',', '[', ']', '\x7b', '\x7d'].contains c)
    if isEnd then ([], c :: rest)
    else
      let (value, rest) := readPlain inFlow (some c) rest
      (c :: value, rest)

/-- A text without the white space at its end. -/
def trimEnd (text : Text) : Text :=
  (text.reverse.dropWhile isSpace).reverse

/-- Reads the digits of an escape. -/
def readCodePoint? (count : Nat) (text : Text) : Option (Char × Text) := do
  guard ((text.take count).length = count)
  let code ← Value.natOfDigits? 16 (text.take count)
  if Nat.isValidChar code then some (Char.ofNat code, text.drop count) else none

/-- The characters that an escape of one character stands for. -/
def escapes : List (Char × Char) :=
  [('0', '\x00'), ('a', '\x07'), ('b', '\x08'), ('t', '\t'), ('\t', '\t'), ('n', '\n'),
    ('v', '\x0b'), ('f', '\x0c'), ('r', '\r'), ('e', '\x1b'), (' ', ' '), ('"', '"'), ('/', '/'),
    ('\\', '\\'),
    ('N', '\x85'), ('_', '\u00a0'), ('L', '\u2028'), ('P', '\u2029')]

/-- Reads an escape after its backslash. -/
def readEscape? : Text → Option (Char × Text)
  | [] => none
  | 'x' :: rest => readCodePoint? 2 rest
  | 'u' :: rest => readCodePoint? 4 rest
  | 'U' :: rest => readCodePoint? 8 rest
  | c :: rest =>
    (escapes.lookup c).map fun image => (image, rest)

/-- Folds line ends inside quotes: one is a space, each further one stays. Gives what is written and
what follows. -/
def foldLines (text : Text) : Text × Text :=
  let (blank, rest) := text.span fun c => isSpace c || c == '\n' || c == '\r'
  let breaks := blank.count '\n'
  (if breaks = 1 then [' '] else List.replicate (breaks - 1) '\n', rest)

/-- Reads the rest of a string after its opening quote. Every step takes a character, so `fuel` is
the length of the text. -/
def readQuoted? (quote : Char) : Nat → Text → Option (Text × Text)
  | 0, _ => none
  | _ + 1, [] => none
  | fuel + 1, c :: rest =>
    if c = quote then
      match quote, rest with
      | '\'', '\'' :: rest =>
        (readQuoted? quote fuel rest).map fun (value, rest) => ('\'' :: value, rest)
      | _, _ => some ([], rest)
    else if c = '\\' && quote = '"' then
      match rest with
      | '\n' :: rest => readQuoted? quote fuel (rest.dropWhile isSpace)
      | rest => do
        let (c, rest) ← readEscape? rest
        let (value, rest) ← readQuoted? quote fuel rest
        return (c :: value, rest)
    else if isSpace c || c = '\n' then
      let (blank, after) := (c :: rest).span isSpace
      match after with
      | '\n' :: _ => do
        let (folded, rest) := foldLines after
        let (value, rest) ← readQuoted? quote fuel rest
        return (folded ++ value, rest)
      | after => (readQuoted? quote fuel after).map fun (value, rest) => (blank ++ value, rest)
    else (readQuoted? quote fuel rest).map fun (value, rest) => (c :: value, rest)

/-- Drops white space, line ends and comments inside brackets. -/
def skipSpace : Nat → Text → Text
  | 0, text => text
  | fuel + 1, text =>
    match text.dropWhile fun c => isSpace c || c == '\n' || c == '\r' with
    | '#' :: rest => skipSpace fuel (rest.dropWhile (· != '\n'))
    | rest => rest

mutual

/-- Reads a value inside brackets. Every step takes a character, so `fuel` is the length of the
text. -/
def readFlow? : Nat → Text → Option (Value × Text)
  | 0, _ => none
  | fuel + 1, text =>
    match text with
    | '[' :: rest => (readItems? fuel rest).map fun (items, rest) => (.list items, rest)
    | '\x7b' :: rest => (readEntries? fuel rest).map fun (entries, rest) => (.record entries, rest)
    | '"' :: rest =>
      (readQuoted? '"' (rest.length + 1) rest).map fun (value, rest) => (.string value, rest)
    | '\'' :: rest =>
      (readQuoted? '\'' (rest.length + 1) rest).map fun (value, rest) => (.string value, rest)
    | text =>
      if startsPlain true text then
        let (value, rest) := readPlain true none text
        some (.plain (trimEnd value), rest)
      else none

/-- Reads the rest of a list in brackets. -/
def readItems? : Nat → Text → Option (List Value × Text)
  | 0, _ => none
  | fuel + 1, text =>
    match skipSpace (text.length + 1) text with
    | ']' :: rest => some ([], rest)
    | text => do
      let (item, rest) ← readFlow? fuel text
      let (item, rest) ← match skipSpace (rest.length + 1) rest with
        | ':' :: rest => do
          let (value, rest) ← readAfterColon? fuel (skipSpace (rest.length + 1) rest)
          some (Value.record [(item.text?.getD [], value)], rest)
        | rest => some (item, rest)
      match skipSpace (rest.length + 1) rest with
      | ']' :: rest => some ([item], rest)
      | ',' :: rest =>
        let (items, rest) ← readItems? fuel rest
        return (item :: items, rest)
      | _ => none

/-- Reads what follows the colon of a key in brackets. -/
def readAfterColon? : Nat → Text → Option (Value × Text)
  | 0, _ => none
  | fuel + 1, text =>
    match text with
    | ',' :: _ => some (.plain [], text)
    | ']' :: _ => some (.plain [], text)
    | '\x7d' :: _ => some (.plain [], text)
    | text => readFlow? fuel text

/-- Reads the rest of a record in braces. -/
def readEntries? : Nat → Text → Option (List (Text × Value) × Text)
  | 0, _ => none
  | fuel + 1, text =>
    match skipSpace (text.length + 1) text with
    | '\x7d' :: rest => some ([], rest)
    | text => do
      let (key, rest) ← readFlow? fuel text
      let name ← key.text?
      let (value, rest) ← match skipSpace (rest.length + 1) rest with
        | ':' :: rest => readAfterColon? fuel (skipSpace (rest.length + 1) rest)
        | rest => some (.plain [], rest)
      match skipSpace (rest.length + 1) rest with
      | '\x7d' :: rest => some ([(name, value)], rest)
      | ',' :: rest =>
        let (entries, rest) ← readEntries? fuel rest
        return ((name, value) :: entries, rest)
      | _ => none

end

/-- Takes the key off the start of a line. Gives the key, the number of characters up to the value,
and the value as far as it is on the line. -/
def splitKey? (content : Text) : Option (Text × Nat × Text) := do
  let (name, rest) ← match content with
    | '"' :: rest => readQuoted? '"' (rest.length + 1) rest
    | '\'' :: rest => readQuoted? '\'' (rest.length + 1) rest
    | content =>
      if startsPlain false content then
        let (name, rest) := readPlain false none content
        some (trimEnd name, rest)
      else none
  match rest.dropWhile isSpace with
  | ':' :: rest =>
    if rest.head?.all isSpace then
      let value := rest.dropWhile isSpace
      some (name, content.length - value.length, value)
    else none
  | _ => none

/-- The lines of a block scalar: those that are deeper than the block around it, or blank. -/
def blockLines (indent : Nat) (lines : List Line) : List Line × List Line :=
  lines.span fun line => line.content.isEmpty || indent ≤ line.indent

/-- Joins the lines of a folded block: between two lines of text a line end is a space. -/
def foldBlock : List Text → Text
  | [] => []
  | [line] => line
  | line :: next :: rest =>
    let isText (line : Text) : Bool := line.head?.any fun c => !isSpace c
    let tail := foldBlock (next :: rest)
    if isText line && isText next then line ++ ' ' :: tail
    else if isText line && next.isEmpty then line ++ tail
    else line ++ '\n' :: tail

/-- Reads a block scalar from its header and the lines after it. -/
def readBlockScalar? (parent : Nat) (style : Char) (header : Text) (lines : List Line) :
    Option (Value × List Line) := do
  let (marks, rest) := header.span fun c => !isSpace c
  guard (isEmpty rest)
  let chomp := marks.find? fun c => c == '-' || c == '+'
  let explicit := (marks.find? Char.isDigit).map fun c => c.toNat - '0'.toNat
  guard (marks.all fun c => c == '-' || c == '+' || c.isDigit)
  let first := (lines.find? fun line => !line.content.isEmpty).map Line.indent
  let indent := match explicit with
    | some depth => parent + depth
    | none => max (first.getD parent) parent
  let (body, after) := blockLines (max indent 1) lines
  let texts := body.map fun line => line.toText.drop indent
  let content := (texts.reverse.dropWhile List.isEmpty).reverse
  let tail := texts.length - content.length
  let value := if style == '>' then foldBlock content else Text.joinWith ['\n'] content
  let ending := match chomp with
    | some '-' => []
    | some _ => List.replicate (if content.isEmpty then tail else tail + 1) '\n'
    | none => if content.isEmpty then [] else ['\n']
  return (.string (value ++ ending), after)

/-- Reads the lines that go on with a scalar without quotes. A blank line is a line end, other line
ends are spaces. -/
def continuePlain (parent : Nat) (breaks : Nat) : List Line → Text × List Line
  | [] => ([], [])
  | line :: rest =>
    if line.content.isEmpty then
      let (value, after) := continuePlain parent (breaks + 1) rest
      if value.isEmpty then ([], line :: rest) else (value, after)
    else if parent ≤ line.indent && !isEmpty line.content then
      let (part, left) := readPlain false none (line.content.dropWhile isSpace)
      if left.isEmpty then
        let (value, after) := continuePlain parent 0 rest
        ((if breaks = 0 then [' '] else List.replicate breaks '\n') ++ trimEnd part ++ value, after)
      else if left.head? = some '#' then
        ((if breaks = 0 then [' '] else List.replicate breaks '\n') ++ trimEnd part, rest)
      else ([], line :: rest)
    else ([], line :: rest)

/-- Reads a value that begins inside a line and is not a block of its own. `parent` is the least
indentation of the lines that it may go on in. -/
def readInline? (parent : Nat) (content : Text) (lines : List Line) : Option (Value × List Line) :=
  match content with
  | '|' :: header => readBlockScalar? parent '|' header lines
  | '>' :: header => readBlockScalar? parent '>' header lines
  | content =>
    if content.head?.any fun c => c == '"' || c == '\'' || c == '[' || c == '\x7b' then do
      let text := content ++ (if lines.isEmpty then [] else '\n' :: join lines)
      let (value, rest) ← readFlow? (text.length + 1) text
      return (value, ← afterValue? rest)
    else if startsPlain false content then
      let (value, left) := readPlain false none content
      match left with
      | [] =>
        let (more, after) := continuePlain parent 0 lines
        some (.plain (trimEnd value ++ more), after)
      | '#' :: _ => some (.plain (trimEnd value), lines)
      | _ => none
    else none

mutual

/-- Reads a block that is indented at least as far as `least`. Every step takes a list mark, a key
or a line, so `fuel` is the length of the text. -/
def readBlock? : Nat → Nat → List Line → Option (Value × List Line)
  | 0, _, _ => none
  | fuel + 1, least, lines =>
    match skipEmpty lines with
    | [] => some (.plain [], [])
    | line :: rest =>
      if line.indent < least then some (.plain [], line :: rest)
      else if (dropDash? line.content).isSome then
        (readBlockItems? fuel line.indent (line :: rest)).map fun (items, rest) =>
          (.list items, rest)
      else if (splitKey? line.content).isSome then
        (readBlockEntries? fuel line.indent (line :: rest)).map fun (entries, rest) =>
          (.record entries, rest)
      else readInline? least line.content rest

/-- Reads the items of a list whose marks have the given indentation. -/
def readBlockItems? : Nat → Nat → List Line → Option (List Value × List Line)
  | 0, _, _ => none
  | fuel + 1, indent, lines =>
    match skipEmpty lines with
    | [] => some ([], [])
    | line :: rest =>
      match if line.indent = indent then dropDash? line.content else none with
      | none => if indent < line.indent then none else some ([], line :: rest)
      | some (width, content) => do
        let inner : Line := { indent := indent + width, content }
        let (item, rest) ← readBlock? fuel (indent + 1) (inner :: rest)
        let (items, rest) ← readBlockItems? fuel indent rest
        return (item :: items, rest)

/-- Reads the entries of a record whose keys have the given indentation. -/
def readBlockEntries? : Nat → Nat → List Line → Option (List (Text × Value) × List Line)
  | 0, _, _ => none
  | fuel + 1, indent, lines =>
    match skipEmpty lines with
    | [] => some ([], [])
    | line :: rest =>
      match if line.indent = indent then splitKey? line.content else none with
      | none =>
        if indent < line.indent || line.indent = indent then none else some ([], line :: rest)
      | some (name, _, content) => do
        let (value, rest) ←
          if isEmpty content then
            match skipEmpty rest with
            | next :: after =>
              if next.indent = indent && (dropDash? next.content).isSome then
                (readBlockItems? fuel indent (next :: after)).map fun (items, rest) =>
                  (Value.list items, rest)
              else readBlock? fuel (indent + 1) (next :: after)
            | [] => some (Value.plain [], [])
          else readInline? (indent + 1) content rest
        let (entries, rest) ← readBlockEntries? fuel indent rest
        return ((name, value) :: entries, rest)

end

/-- Drops the mark at the start of a document. -/
def dropStart (lines : List Line) : List Line :=
  match skipEmpty lines with
  | ⟨0, '-' :: '-' :: '-' :: rest⟩ :: after =>
    if isEmpty rest then after
    else if rest.head?.any isSpace then
      ⟨3 + (rest.takeWhile isSpace).length, rest.dropWhile isSpace⟩ :: after
    else lines
  | _ => lines

/-- Whether a line is the mark at the start or at the end of a document. -/
def Line.isMark (line : Line) : Bool :=
  line.indent = 0 &&
    (line.content.take 3 = ['-', '-', '-'] || line.content.take 3 = ['.', '.', '.']) &&
    (line.content.drop 3).head?.all isSpace

/-- Whether lines hold nothing more than the mark at the end of a document. -/
def isAtEnd (lines : List Line) : Bool :=
  match skipEmpty lines with
  | [] => true
  | ⟨0, '.' :: '.' :: '.' :: rest⟩ :: after => isEmpty rest && (skipEmpty after).isEmpty
  | _ => false

/-- Reads a text with one document. -/
def read? (text : Text) : Option Value := do
  let text := match text with
    | '\ufeff' :: rest => rest
    | _ => text
  let (body, after) := (dropStart (lines text)).span fun line => !line.isMark
  let (value, rest) ← readBlock? (text.length + 1) 0 body
  if (skipEmpty rest).isEmpty && isAtEnd after then some value else none

end Manuscript.Yaml
