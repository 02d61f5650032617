import Manuscript.Markdown.Event
import Manuscript.Markdown.Line
import Manuscript.Text.Punctuation

/-!
# Emphasis

Runs of asterisks, underscores and tildes open and close emphasis. Whether a run can do either
depends on the characters beside it. Runs are paired from left to right: a closing run takes the
nearest opening run of the same sign, and what was open between the two is text.
-/

namespace Manuscript.Markdown

/-- A run of signs that can open or close emphasis. -/
structure Run where
  /-- The sign. -/
  sign : Char
  /-- How many signs the run had. -/
  width : Nat
  /-- How many of them are left. -/
  count : Nat
  /-- Offset of the first sign that is left. -/
  start : Nat
  /-- Whether it can open emphasis. -/
  canOpen : Bool
  /-- Whether it can close emphasis. -/
  canClose : Bool
deriving DecidableEq, Repr

/-- A piece of running text: what is already known, or a run. -/
inductive Token where
  | events (events : List LocatedEvent)
  | run (run : Run)
deriving DecidableEq, Repr

namespace Token

/-- A piece of text. -/
def text (value : Text) (start stop : Nat) : Token :=
  .events [{ event := .text value, span := ⟨start, stop⟩ }]

/-- Puts a piece before others. A text joins a text after it. -/
def consMerged (tokens : List Token) (token : Token) : List Token :=
  match token, tokens with
  | .events [{ event := .text front, span := a }],
      .events [{ event := .text back, span := b }] :: rest =>
    .text (front ++ back) a.start b.stop :: rest
  | _, _ => token :: tokens

end Token

namespace Run

/-- Whether a character is white space or missing. -/
def isOutside (c : Option Char) : Bool :=
  c.all Text.isBlank

/-- Whether a character is there and is punctuation. -/
def isMark (c : Option Char) : Bool :=
  c.any Text.isPunctuation

/-- Whether a run of a given width between two characters can open emphasis. Asterisks and double
tildes can do so inside a word. -/
def opens (sign : Char) (width : Nat) (before after : Option Char) : Bool :=
  !isOutside after
    && (sign == '*' && !isMark after || sign == '~' && 1 < width
      || sign == '~' && before == some '~' && !isMark after
      || isOutside before || isMark before)

/-- Whether a run of a given width between two characters can close emphasis. -/
def closes (sign : Char) (width : Nat) (before after : Option Char) : Bool :=
  !isOutside before
    && ((sign == '*' || sign == '~' && 1 < width) && !isMark before
      || sign == '~' && before == some '~'
      || isOutside after || isMark after)

/-- The run of signs at a place, or the text that it is if it can neither open nor close. -/
def token (sign : Char) (width start : Nat) (before after : Option Char) : Token :=
  let canOpen := opens sign width before after
  let canClose := closes sign width before after
  if (canOpen || canClose) && (sign != '~' || width ≤ 2) then
    .run { sign, width, count := width, start, canOpen, canClose }
  else .text (List.replicate width sign) start (start + width)

/-- The text that is left of a run. -/
def leftText (run : Run) : LocatedEvent :=
  { event := .text (List.replicate run.count run.sign), span := ⟨run.start, run.start + run.count⟩ }

/-- Whether a closing run can be paired with an opening one. A run that can do both has to differ in
width from its partner as the rule of three demands. -/
def pairs (closing opening : Run) : Bool :=
  closing.sign == opening.sign
    && (closing.sign != '~' || closing.width == opening.width)
    && (!(closing.canOpen && closing.canClose) && !(opening.canOpen && opening.canClose)
      || (closing.width + opening.width) % 3 != 0 || closing.width % 3 == 0)

end Run

/-- An opening run with the events after it, last one first. -/
structure Opener where
  /-- The run. -/
  run : Run
  /-- The events after it. -/
  inner : List LocatedEvent := []

/-- What has been paired so far. -/
structure Pairing where
  /-- Opening runs, innermost first. -/
  openers : List Opener := []
  /-- Events before all opening runs, last one first. -/
  front : List LocatedEvent := []
  /-- Number of outermost openers that tildes are not paired with any more. -/
  tildeFloor : Nat := 0

namespace Pairing

/-- Adds events, last one first. -/
def add (events : List LocatedEvent) (pairing : Pairing) : Pairing :=
  match pairing.openers with
  | [] => { pairing with front := events ++ pairing.front }
  | top :: below =>
    { pairing with openers := { top with inner := events ++ top.inner } :: below }

/-- Wraps events, last one first, in the emphasis of `count` signs on either side, the innermost of
which end at `start` and begin at `stop`. Pairs of signs are strong and stand inside; tildes strike
through. -/
def wrap (sign : Char) : Nat → Nat → Nat → List LocatedEvent → List LocatedEvent
  | 0, _, _, events => events
  | 1, start, stop, events =>
    surround (if sign = '~' then .strikethrough else .emphasis) ⟨start - 1, stop + 1⟩ events
  | count + 2, start, stop, events =>
    wrap sign count (start - 2) (stop + 2)
      (surround (if sign = '~' then .strikethrough else .strong) ⟨start - 2, stop + 2⟩ events)
where
  /-- Events inside a construct, last one first. -/
  surround (construct : Construct) (span : Span) (events : List LocatedEvent) :
      List LocatedEvent :=
    { event := .leave, span } :: (events ++ [{ event := .enter construct, span }])

/-- Openers as text, last event first. -/
def flatten : List Opener → List LocatedEvent
  | [] => []
  | opener :: below => opener.inner ++ opener.run.leftText :: flatten below

/-- The innermost of some openers that a run can be paired with, with those inside and around it. -/
def findOpener? (run : Run) : List Opener → Option (List Opener × Opener × List Opener)
  | [] => none
  | opener :: below =>
    if run.pairs opener.run then some ([], opener, below)
    else (findOpener? run below).map fun (above, rest) => (opener :: above, rest)

/-- The opener that a run is paired with. -/
def match? (run : Run) (pairing : Pairing) : Option (List Opener × Opener × List Opener) :=
  if run.sign = '~' then
    let reach := pairing.openers.length - pairing.tildeFloor
    (findOpener? run (pairing.openers.take reach)).map fun (above, opener, below) =>
      (above, opener, below ++ pairing.openers.drop reach)
  else findOpener? run pairing.openers

/-- Takes a run that closes nothing any more: it opens, or is text. -/
def settle (run : Run) (pairing : Pairing) : Pairing :=
  if run.count = 0 then pairing
  else if run.canOpen then { pairing with openers := { run } :: pairing.openers }
  else pairing.add [run.leftText]

/-- Takes a run: it closes as many openers as it can. -/
def close (pairing : Pairing) (run : Run) : Pairing :=
  if run.count = 0 ∨ !run.canClose then pairing.settle run
  else
    match pairing.match? run with
    | none =>
      let floor := if run.sign = '~' then pairing.openers.length else pairing.tildeFloor
      { pairing with tildeFloor := floor }.settle run
    | some (above, opener, below) =>
      let count := min run.count opener.run.count
      let inner := flatten above ++ opener.inner
      let events :=
        wrap run.sign count (opener.run.start + opener.run.count) run.start inner
      let around : Pairing :=
        { pairing with openers := below, tildeFloor := min pairing.tildeFloor below.length }
      let rest : Run := { opener.run with count := opener.run.count - count }
      let next : Pairing :=
        if rest.count = 0 then around.add events
        else { around with openers := { run := rest, inner := events } :: below }
      if 0 < count then
        close next { run with count := run.count - count, start := run.start + count }
      else next
termination_by run.count

/-- Takes a piece of running text. -/
def step (pairing : Pairing) : Token → Pairing
  | .events events => pairing.add events.reverse
  | .run run => pairing.close run

/-- The events of all that was taken, in order. -/
def events (pairing : Pairing) : List LocatedEvent :=
  (flatten pairing.openers ++ pairing.front).reverse

end Pairing

/-- The events of running text. -/
def pairRuns (tokens : List Token) : List LocatedEvent :=
  (tokens.foldl Pairing.step {}).events

end Manuscript.Markdown
