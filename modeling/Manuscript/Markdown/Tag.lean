import Manuscript.Markdown.Line

/-!
# Tags and autolinks

HTML stands in Markdown as it is. This module recognises tags, comments and the other forms of HTML
at the start of a text, and the addresses that are written between angle brackets. Each reader is
given the text after an opening angle bracket and gives the text that follows.
-/

namespace Manuscript.Markdown

namespace Tag

/-- Whether a character can go on with a tag name. -/
def isNameChar (c : Char) : Bool :=
  c.isAlphanum || c == '-'

/-- Whether a character can start the name of an attribute. -/
def isAttributeStart (c : Char) : Bool :=
  c.isAlpha || c == '_' || c == ':'

/-- Whether a character can go on with the name of an attribute. -/
def isAttributeChar (c : Char) : Bool :=
  c.isAlphanum || c == '_' || c == '.' || c == ':' || c == '-'

/-- Whether a character can be part of a value without quotes. -/
def isBareValueChar (c : Char) : Bool :=
  !("'\" =><\x60\n\r".toList.contains c)

/-- A text without the white space at its start. -/
def skipBlank (text : Text) : Text :=
  text.dropWhile isSpaceOrNewline

/-- Reads a value up to the quote that closes it. -/
def quotedValue? (quote : Char) : Text → Option Text
  | [] => none
  | c :: rest => if c = quote then some rest else quotedValue? quote rest

/-- Reads the value of an attribute. -/
def value? : Text → Option Text
  | [] => none
  | c :: rest =>
    if c = '"' ∨ c = '\'' then quotedValue? c rest
    else if isBareValueChar c then some (rest.dropWhile isBareValueChar)
    else none

/-- Reads an attribute. White space after its name belongs to it only when a value follows. -/
def attribute? : Text → Option Text
  | [] => none
  | c :: rest =>
    if isAttributeStart c then
      let after := rest.dropWhile isAttributeChar
      match skipBlank after with
      | '=' :: value => value? (skipBlank value)
      | _ => some after
    else none

/-- Reads attributes, of which there are at most `fuel`, and the end of an opening tag. Each
attribute needs white space before it. -/
def attributes? : Nat → Text → Option Text
  | 0, _ => none
  | fuel + 1, text =>
    match skipBlank text with
    | '>' :: rest => some rest
    | '/' :: '>' :: rest => some rest
    | '/' :: _ => none
    | next =>
      if next.length = text.length then none
      else (attribute? next).bind (attributes? fuel)

/-- Reads an opening or a closing tag. -/
def read? : Text → Option Text
  | '/' :: c :: rest =>
    if c.isAlpha then
      match (rest.dropWhile isNameChar).dropWhile isSpace with
      | '>' :: after => some after
      | _ => none
    else none
  | c :: rest =>
    if c.isAlpha then attributes? (rest.length + 1) (rest.dropWhile isNameChar) else none
  | [] => none

/-- Whether a text is a tag and nothing else but white space. -/
def isWhole (text : Text) : Bool :=
  (read? text).any isBlankRest

/-- Elements that begin a block of HTML wherever their tags stand first on a line. -/
def blockNames : List Text :=
  ["address", "article", "aside", "base", "basefont", "blockquote", "body", "caption", "center",
    "col", "colgroup", "dd", "details", "dialog", "dir", "div", "dl", "dt", "fieldset",
    "figcaption", "figure", "footer", "form", "frame", "frameset", "h1", "h2", "h3", "h4", "h5",
    "h6", "head", "header", "hr", "html", "iframe", "legend", "li", "link", "main", "menu",
    "menuitem", "nav", "noframes", "ol", "optgroup", "option", "p", "param", "search", "section",
    "summary", "table", "tbody", "td", "tfoot", "th", "thead", "title", "tr", "track", "ul"].map
    String.toList

/-- Elements whose content is literal up to their closing tag. -/
def literalNames : List Text :=
  ["pre", "style", "script", "textarea"].map String.toList

/-- Whether a tag that begins with a name may end or go on here. -/
def endsName : Text → Bool
  | [] => true
  | c :: _ => isSpace c || c == '>'

/-- The text that ends a block of HTML which may hold blank lines, if such a block begins here. -/
def blockEnd? (text : Text) : Option Text :=
  let literal := literalNames.find? fun name =>
    Text.asciiLowercase (text.take name.length) = name && endsName (text.drop name.length)
  match literal with
  | some name => some ("</".toList ++ name ++ ['>'])
  | none =>
    match text with
    | '!' :: '-' :: '-' :: _ => some "-->".toList
    | '?' :: _ => some "?>".toList
    | '!' :: c :: rest =>
      if (c :: rest).take 7 = "[CDATA[".toList then some "]]>".toList
      else if c.isAlpha then some ['>']
      else none
    | _ => none

/-- Whether a tag begins here that starts a block of HTML and can end a paragraph. -/
def startsBlock (text : Text) : Bool :=
  let name := (if text.head? = some '/' then text.drop 1 else text)
  let letters := name.takeWhile Char.isAlphanum
  let rest := name.drop letters.length
  blockNames.contains (Text.asciiLowercase letters)
    && (endsName rest || rest.take 2 == "/>".toList)

/-- Reads a comment, a declaration, an instruction or a section of character data. -/
def special? : Text → Option Text
  | '!' :: '-' :: '-' :: rest =>
    (Text.splitFirst? "-->".toList ('-' :: '-' :: rest)).map Prod.snd
  | '!' :: '[' :: rest =>
    match Text.dropFront? "CDATA[".toList rest with
    | none => none
    | some rest =>
      match rest.dropWhile (· != ']') with
      | ']' :: rest =>
        match rest.dropWhile (· == ']') with
        | '>' :: after => some after
        | _ => none
      | _ => none
  | '!' :: c :: rest =>
    if c.isAlpha then
      match rest.dropWhile Char.isAlpha with
      | d :: rest =>
        if isSpaceOrNewline d then (Text.splitFirst? ['>'] rest).map Prod.snd else none
      | [] => none
    else none
  | '?' :: rest => (Text.splitFirst? "?>".toList rest).map Prod.snd
  | _ => none

end Tag

namespace Autolink

/-- Whether a character can go on with a scheme. -/
def isSchemeChar (c : Char) : Bool :=
  c.isAlphanum || c == '.' || c == '-' || c == '+'

/-- Whether a character can be part of an address after its scheme. -/
def isAddressChar (c : Char) : Bool :=
  ' ' < c && c != '<' && c != '>'

/-- Reads an address with a scheme. -/
def address? (text : Text) : Option (Text × Text) :=
  let scheme := text.takeWhile isSchemeChar
  let tail := text.drop scheme.length
  let body := (tail.drop 1).takeWhile isAddressChar
  if (text.head?.any Char.isAlpha) && 2 ≤ scheme.length && scheme.length ≤ 32
      && tail.head? == some ':' then
    match tail.drop (1 + body.length) with
    | '>' :: rest => some (scheme ++ ':' :: body, rest)
    | _ => none
  else none

/-- Whether a character can be part of the name before the sign of an email address. -/
def isMailboxChar (c : Char) : Bool :=
  c.isAlphanum || ".!#$%&'*+/=?^_\x60\x7b|\x7d~-".toList.contains c

/-- Whether a text is one part of the name of a host. -/
def isHostLabel (label : Text) : Bool :=
  !label.isEmpty && label.length ≤ 63 && label.all Tag.isNameChar
    && label.head? != some '-' && label.getLast? != some '-'

/-- Reads an email address. -/
def email? (text : Text) : Option (Text × Text) :=
  let mailbox := text.takeWhile isMailboxChar
  match text.drop mailbox.length with
  | '@' :: tail =>
    let host := tail.takeWhile fun c => Tag.isNameChar c || c == '.'
    match tail.drop host.length with
    | '>' :: rest =>
      if !mailbox.isEmpty && (Text.splitOnChar '.' host).all isHostLabel then
        some (mailbox ++ '@' :: host, rest)
      else none
    | _ => none
  | _ => none

/-- Reads an address of either form. -/
def read? (text : Text) : Option (Text × Text) :=
  (address? text).or (email? text)

end Autolink

end Manuscript.Markdown
