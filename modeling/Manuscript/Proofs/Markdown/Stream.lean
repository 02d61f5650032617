import Manuscript.Markdown.Event

/-!
# Balanced streams

A stream of events is balanced when every construct that is entered is left, and nothing else is.
That is a count of the constructs that are open (`IsBalanced`). A balanced stream has the structure
of a forest: it is a sequence of pieces, each of which is a single event or a construct with the
pieces inside it (`isBalanced_iff`).
-/

namespace Manuscript.Markdown

/-- Whether an event stands for content, and neither enters nor leaves a construct. -/
def Event.isContent : Event → Bool
  | enter _ => false
  | leave => false
  | _ => true

/-- Whether the events that follow when so many constructs are open leave all of them and every
construct that they enter, and no other. -/
def closes : Nat → List LocatedEvent → Bool
  | depth, [] => depth == 0
  | depth, located :: rest =>
    match located.event with
    | .enter _ => closes (depth + 1) rest
    | .leave => depth != 0 && closes (depth - 1) rest
    | _ => closes depth rest

/-- Every construct that is entered is left, and no other. -/
def IsBalanced (events : List LocatedEvent) : Prop :=
  closes 0 events = true

instance (events : List LocatedEvent) : Decidable (IsBalanced events) :=
  inferInstanceAs (Decidable (_ = true))

/-- A part of a balanced stream that cannot be divided. -/
inductive Piece where
  /-- An event that stands for content. -/
  | content (located : LocatedEvent) (isContent : located.event.isContent = true)
  /-- A construct, with the places where it is entered and left and with what is inside it. -/
  | construct (construct : Construct) (opened closed : Span) (inner : List Piece)

/-- Two statements about pieces and about lists of pieces hold if each follows from the other for
what is inside. -/
theorem Piece.induction {P : Piece → Prop} {Q : List Piece → Prop}
    (content : ∀ located isContent, P (.content located isContent))
    (construct : ∀ construct opened closed inner, Q inner →
      P (.construct construct opened closed inner))
    (nil : Q []) (cons : ∀ first rest, P first → Q rest → Q (first :: rest)) :
    (∀ piece, P piece) ∧ ∀ pieces, Q pieces :=
  ⟨@Piece.rec P Q content construct nil cons, @Piece.rec_1 P Q content construct nil cons⟩

mutual

/-- The events of a piece. -/
def Piece.events : Piece → List LocatedEvent
  | .content located _ => [located]
  | .construct construct opened closed inner =>
    ⟨.enter construct, opened⟩ :: (eventsOf inner ++ [⟨.leave, closed⟩])

/-- The events of a list of pieces. -/
def eventsOf : List Piece → List LocatedEvent
  | [] => []
  | piece :: rest => piece.events ++ eventsOf rest

end

/-- The events of pieces leave what they enter. -/
theorem closes_events : (∀ piece depth rest,
      closes depth (Piece.events piece ++ rest) = closes depth rest) ∧
    ∀ pieces depth rest, closes depth (eventsOf pieces ++ rest) = closes depth rest := by
  refine Piece.induction ?_ ?_ ?_ ?_
  · rintro ⟨event, span⟩ isContent depth rest
    cases event <;> first | rfl | cases isContent
  · intro construct opened closed inner below depth rest
    rw [Piece.events, List.cons_append, closes, List.append_assoc, below]
    simp [closes]
  · intro depth rest
    rfl
  · intro piece pieces first others depth rest
    rw [eventsOf, List.append_assoc, first, others]

/-- What follows when constructs are open is one list of pieces for each of them, up to the place
where it is left, and one more. -/
theorem exists_layers {depth : Nat} {events : List LocatedEvent}
    (balanced : closes depth events = true) :
    ∃ first, ∃ layers : List (Span × List Piece), layers.length = depth ∧
      events = eventsOf first ++
        layers.flatMap fun (closed, pieces) => ⟨.leave, closed⟩ :: eventsOf pieces := by
  induction events generalizing depth with
  | nil => exact ⟨[], [], (beq_iff_eq.1 balanced).symm, rfl⟩
  | cons located rest ih =>
    obtain ⟨event, span⟩ := located
    by_cases isContent : event.isContent = true
    · have later : closes depth rest = true := by
        cases event <;> first | exact balanced | cases isContent
      obtain ⟨first, layers, count, rfl⟩ := ih later
      exact ⟨.content ⟨event, span⟩ isContent :: first, layers, count, rfl⟩
    · cases event with
      | enter construct =>
        have later : closes (depth + 1) rest = true := balanced
        obtain ⟨inner, layers, count, rfl⟩ := ih later
        obtain ⟨⟨closed, first⟩, layers, rfl⟩ := List.exists_cons_of_length_eq_add_one count
        refine ⟨.construct construct span closed inner :: first, layers, by simpa using count, ?_⟩
        simp [eventsOf, Piece.events]
      | leave =>
        simp only [closes, Bool.and_eq_true, bne_iff_ne] at balanced
        obtain ⟨first, layers, count, rfl⟩ := ih balanced.2
        refine ⟨[], (span, first) :: layers, ?_, by simp [eventsOf]⟩
        rw [List.length_cons, count]
        omega
      | _ => exact absurd rfl isContent

/-- The balanced streams are the events of lists of pieces. -/
theorem isBalanced_iff {events : List LocatedEvent} :
    IsBalanced events ↔ ∃ pieces, eventsOf pieces = events := by
  constructor
  · intro balanced
    obtain ⟨pieces, layers, count, rfl⟩ := exists_layers balanced
    rw [List.length_eq_zero_iff] at count
    exact ⟨pieces, by rw [count, List.flatMap_nil, List.append_nil]⟩
  · rintro ⟨pieces, rfl⟩
    have closed := closes_events.2 pieces 0 []
    rwa [List.append_nil] at closed

/-- What comes after the pieces of a construct: nothing, or the end of the construct. -/
def IsEnd (events : List LocatedEvent) : Prop :=
  ∀ first ∈ events.head?, first.event = .leave

/-- A piece does not begin with the end of a construct. -/
theorem not_isEnd_events (piece : Piece) (rest : List LocatedEvent) :
    ¬ IsEnd (piece.events ++ rest) := by
  intro isEnd
  cases piece with
  | content located isContent =>
    have leaves : located.event = .leave := isEnd located rfl
    rw [leaves] at isContent
    cases isContent
  | construct construct opened closed inner => cases isEnd _ rfl

/-- The pieces at the start of a stream are determined by its events. -/
theorem eventsOf_append_inj : (∀ piece other first second,
      Piece.events piece ++ first = Piece.events other ++ second → piece = other ∧ first = second) ∧
    ∀ pieces others first second, IsEnd first → IsEnd second →
      eventsOf pieces ++ first = eventsOf others ++ second → pieces = others ∧ first = second := by
  refine Piece.induction ?_ ?_ ?_ ?_
  · intro located isContent other first second same
    cases other with
    | content =>
      injection same with own rest
      subst own
      exact ⟨rfl, rest⟩
    | construct =>
      injection same with own
      rw [own] at isContent
      cases isContent
  · intro construct opened closed inner below other first second same
    cases other with
    | content _ isContent =>
      injection same with own
      rw [← own] at isContent
      cases isContent
    | construct construct' opened' closed' inner' =>
      injection same with enter rest
      injection enter with event span
      injection event with kind
      simp only [List.append_eq, List.append_assoc, List.singleton_append] at rest
      obtain ⟨rfl, tails⟩ := below inner' _ _ (by rintro _ ⟨⟩; rfl) (by rintro _ ⟨⟩; rfl) rest
      injection tails with leave ends
      injection leave with _ place
      subst kind span place
      exact ⟨rfl, ends⟩
  · intro others first second isEnd _ same
    cases others with
    | nil => exact ⟨rfl, same⟩
    | cons other rest =>
      rw [eventsOf, List.nil_append] at same
      rw [same, eventsOf, List.append_assoc] at isEnd
      exact absurd isEnd (not_isEnd_events other _)
  · intro piece rest own later others first second isEnd isEnd' same
    cases others with
    | nil =>
      rw [eventsOf, eventsOf, List.nil_append, List.append_assoc] at same
      rw [← same] at isEnd'
      exact absurd isEnd' (not_isEnd_events piece _)
    | cons other others =>
      rw [eventsOf, eventsOf, List.append_assoc, List.append_assoc] at same
      obtain ⟨rfl, tails⟩ := own other _ _ same
      obtain ⟨rfl, ends⟩ := later others first second isEnd isEnd' tails
      exact ⟨rfl, ends⟩

/-- There is only one way to divide a stream into pieces. -/
theorem eventsOf_injective {pieces others : List Piece} (same : eventsOf pieces = eventsOf others) :
    pieces = others :=
  (eventsOf_append_inj.2 pieces others [] [] nofun nofun (by rw [same])).1

end Manuscript.Markdown
