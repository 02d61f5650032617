import Manuscript.Proofs.Html.Induction
import Manuscript.Proofs.Html.Reader

/-!
# What is written can be read back

The written form of a tree without raw markup and comments determines the tree up to its canonical
form: roots stand for their children, neighbouring texts are one, empty texts are none, and the
class list is one text (`read?_render`). So texts and values of attributes have no influence on the
elements.
-/

namespace Manuscript

namespace Tag

/-- A tag with its class list as one text. -/
def withClassText (tag : Tag) : Tag :=
  { tag with
    classes := if tag.classes.isEmpty then [] else [Text.joinWith [' '] tag.classes] }

/-- A name that can be read back: ASCII letters, digits, `-`, `_`, `:` and `.`, at least one. -/
def IsName (name : Text) : Prop :=
  name ≠ [] ∧ ∀ c ∈ name, Html.isNameChar c = true

/-- Names are recognized by their characters. -/
theorem isName_iff {name : Text} :
    (name.isEmpty = false ∧ name.all Html.isNameChar = true) ↔ IsName name := by
  rw [List.isEmpty_eq_false_iff, List.all_eq_true]
  rfl

instance (name : Text) : Decidable (IsName name) :=
  decidable_of_decidable_of_iff isName_iff

/-- A tag that can be read back: it has a name, and so has each attribute, which is not that of the
class list. -/
structure IsWritable (tag : Tag) : Prop where
  name : IsName tag.name
  attributes : ∀ pair ∈ tag.attributes, IsName pair.1 ∧ pair.1 ≠ "class".toList

end Tag

namespace Html

mutual

/-- A tree has no raw markup and no comments, its tags can be read back, and elements without a
closing tag have no children. -/
def IsWritable : Html → Prop
  | .root children => AreWritable children
  | .element tag children =>
    tag.IsWritable ∧ (tag.name ∈ voidNames → children = []) ∧ AreWritable children
  | .text _ => True
  | .comment _ => False
  | .raw _ => False

/-- Siblings that can all be read back. -/
def AreWritable : List Html → Prop
  | [] => True
  | node :: rest => IsWritable node ∧ AreWritable rest

end

/-- Puts a text in front of siblings: an empty one disappears, and one in front of another text
becomes one with it. -/
def prependText (value : Text) (siblings : List Html) : List Html :=
  if value.isEmpty then siblings
  else
    match siblings with
    | .text next :: rest => .text (value ++ next) :: rest
    | _ => .text value :: siblings

mutual

/-- The canonical form of a tree in front of siblings. -/
def canonicalBefore (siblings : List Html) : Html → List Html
  | .root children => canonicalListBefore siblings children
  | .element tag children =>
    .element tag.withClassText (canonicalListBefore [] children) :: siblings
  | .text value => prependText value siblings
  | .comment value => .comment value :: siblings
  | .raw value => .raw value :: siblings

/-- The canonical form of trees in front of siblings. -/
def canonicalListBefore (siblings : List Html) : List Html → List Html
  | [] => siblings
  | node :: rest => canonicalBefore (canonicalListBefore siblings rest) node

end

/-- The canonical form of a tree. -/
def canonical (tree : Html) : List Html :=
  canonicalBefore [] tree

/-- A tag without the text of its class list and without the values of its attributes. -/
def markupTag (tag : Tag) : Tag :=
  { name := tag.name
    classes := if tag.classes.isEmpty then [] else [[]]
    attributes := tag.attributes.map fun pair => (pair.1, []) }

mutual

/-- The elements of a tree, with nothing of its texts and of the values of its attributes. -/
def markup : Html → List Html
  | .root children => markupList children
  | .element tag children => [.element (markupTag tag) (markupList children)]
  | .text _ => []
  | .comment _ => []
  | .raw _ => []

/-- The elements of a list of trees. -/
def markupList : List Html → List Html
  | [] => []
  | node :: rest => markup node ++ markupList rest

end

/-! ## Characters -/

/-- Any character but the ampersand stands for itself. -/
theorem decode_cons {c : Char} (plain : c ≠ '&') (rest : Text) :
    decode (c :: rest) = c :: decode rest := by
  rw [decode] <;> simp_all

/-- A text in which every character is written so that it is read back alone is read back. -/
theorem decode_flatMap {write : Char → Text}
    (char : ∀ c rest, decode (write c ++ rest) = c :: decode rest) (value rest : Text) :
    decode (value.flatMap write ++ rest) = value ++ decode rest := by
  induction value with
  | nil => rfl
  | cons c value ih => rw [List.flatMap_cons, List.append_assoc, char, ih, List.cons_append]

/-- A character that is escaped in text is read back. -/
theorem decode_escapeTextChar (c : Char) (rest : Text) :
    decode (escapeTextChar c ++ rest) = c :: decode rest := by
  unfold escapeTextChar
  split
  · rfl
  · rfl
  · rfl
  · exact decode_cons (by assumption) rest

/-- A character that is escaped in the value of an attribute is read back. -/
theorem decode_escapeValueChar (c : Char) (rest : Text) :
    decode (escapeValueChar c ++ rest) = c :: decode rest := by
  unfold escapeValueChar
  split
  · rfl
  · rfl
  · exact decode_cons (by assumption) rest

/-- The written form of a value has no quote in it. -/
theorem quote_not_mem_escapeValue (value : Text) : '"' ∉ escapeValue value := by
  intro member
  obtain ⟨c, _, written⟩ := List.mem_flatMap.1 member
  unfold escapeValueChar at written
  split at written
  · exact absurd written (by decide)
  · exact absurd written (by decide)
  · exact absurd (List.mem_singleton.1 written).symm (by assumption)

/-- The written form of a text has no `<` in it. -/
theorem bracket_not_mem_escapeText (value : Text) : '<' ∉ escapeText value := by
  intro member
  obtain ⟨c, _, written⟩ := List.mem_flatMap.1 member
  unfold escapeTextChar at written
  split at written
  · exact absurd written (by decide)
  · exact absurd written (by decide)
  · exact absurd written (by decide)
  · exact absurd (List.mem_singleton.1 written).symm (by assumption)

/-- The value of an attribute is read back. -/
theorem decode_escapeValue (value : Text) : decode (escapeValue value) = value := by
  have whole := decode_flatMap decode_escapeValueChar value []
  rwa [List.append_nil, decode, List.append_nil] at whole

/-- What is in front of the first character that is not wanted. -/
theorem takeWhile_before {wanted : Char → Bool} {front : Text} {stop : Char}
    (inside : ∀ c ∈ front, wanted c = true) (unwanted : wanted stop = false) (back : Text) :
    (front ++ stop :: back).takeWhile wanted = front := by
  rw [List.takeWhile_append_of_pos inside, List.takeWhile_cons_of_neg (by simp [unwanted]),
    List.append_nil]

/-- What begins with the first character that is not wanted. -/
theorem dropWhile_before {wanted : Char → Bool} {front : Text} {stop : Char}
    (inside : ∀ c ∈ front, wanted c = true) (unwanted : wanted stop = false) (back : Text) :
    (front ++ stop :: back).dropWhile wanted = stop :: back := by
  rw [List.dropWhile_append_of_pos inside, List.dropWhile_cons_of_neg (by simp [unwanted])]

/-! ## Tags -/

/-- The attributes of a tag are those that begin it and then the others. -/
theorem readAttributes?_of_attribute {text after : Text} {pair : Text × Text}
    (found : readAttribute? text = some (pair, after)) :
    readAttributes? text =
      (readAttributes? after).map fun others => (pair :: others.1, others.2) := by
  rw [readAttributes?]
  · split
    · rename_i other back same
      cases found.symm.trans same
      rfl
    · rename_i none
      cases found.symm.trans none
  · rintro rest rfl
    cases found

/-- An attribute is read back, whatever its value. -/
theorem readAttribute?_renderAttribute {name : Text} (isName : Tag.IsName name) (value : Text)
    (rest : Text) :
    readAttribute? (renderAttribute name value ++ rest) = some ((name, value), rest) := by
  have quoted : ∀ c ∈ escapeValue value, (c != '"') = true := fun c member =>
    bne_iff_ne.2 (ne_of_mem_of_not_mem member (quote_not_mem_escapeValue value))
  have shape : renderAttribute name value ++ rest =
      ' ' :: (name ++ '=' :: '"' :: (escapeValue value ++ '"' :: rest)) := by
    simp [renderAttribute]
  have afterName := dropWhile_before isName.2 (show isNameChar '=' = false by decide)
    ('"' :: (escapeValue value ++ '"' :: rest))
  have afterValue := dropWhile_before quoted (show ('"' != '"') = false by decide) rest
  rw [shape]
  simp only [readAttribute?, afterName, afterValue]
  rw [takeWhile_before isName.2 (by decide), takeWhile_before quoted (by decide),
    decode_escapeValue]

/-- All attributes are read back, in order. -/
theorem readAttributes?_flatMap {attributes : List (Text × Text)}
    (isName : ∀ pair ∈ attributes, Tag.IsName pair.1) (rest : Text) :
    readAttributes?
        (attributes.flatMap (fun pair => renderAttribute pair.1 pair.2) ++ '>' :: rest) =
      some (attributes, rest) := by
  induction attributes with
  | nil =>
    rw [List.flatMap_nil, List.nil_append, readAttributes?]
  | cons pair others ih =>
    obtain ⟨first, later⟩ := List.forall_mem_cons.1 isName
    rw [List.flatMap_cons, List.append_assoc,
      readAttributes?_of_attribute (readAttribute?_renderAttribute first pair.2 _), ih later]
    rfl

/-- The attributes of a tag as they are written, the class list among them. -/
def writtenAttributes (tag : Tag) : List (Text × Text) :=
  (if tag.classes.isEmpty then [] else [("class".toList, Text.joinWith [' '] tag.classes)])
    ++ tag.attributes

/-- A tag is rendered as its name and the attributes written in it, classes included. -/
theorem renderTag_eq (tag : Tag) : renderTag tag =
    '<' :: (tag.name ++
      ((writtenAttributes tag).flatMap (fun pair => renderAttribute pair.1 pair.2) ++ ['>'])) := by
  unfold renderTag writtenAttributes
  split <;> simp

/-- What is written after the name of a tag is no part of the name. -/
theorem exists_after_name (attributes : List (Text × Text)) (rest : Text) :
    ∃ stop back, isNameChar stop = false ∧
      attributes.flatMap (fun pair => renderAttribute pair.1 pair.2) ++ '>' :: rest =
        stop :: back := by
  cases attributes with
  | nil => exact ⟨'>', rest, by decide, rfl⟩
  | cons pair others => exact ⟨' ', _, by decide, rfl⟩

/-- A tag is read back from its attributes, with its classes as one text. -/
theorem tagOf_writtenAttributes {tag : Tag} (writable : tag.IsWritable) :
    tagOf tag.name (writtenAttributes tag) = tag.withClassText := by
  obtain ⟨name, classes, attributes⟩ := tag
  unfold writtenAttributes Tag.withClassText
  dsimp only
  by_cases none : classes.isEmpty = true
  · rw [if_pos none, if_pos none, List.nil_append]
    cases attributes with
    | nil => rfl
    | cons pair others =>
      obtain ⟨_, notClass⟩ := writable.attributes pair List.mem_cons_self
      exact if_neg notClass
  · rw [if_neg none, if_neg none, List.singleton_append, tagOf, if_pos rfl]

/-! ## Pieces -/

/-- The pieces of a text are the one that begins it and then the others. -/
theorem pieces?_of_piece {text after : Text} {piece : Piece}
    (found : readPiece? text = some (piece, after)) :
    pieces? text = (pieces? after).map (piece :: ·) := by
  cases text with
  | nil => cases found
  | cons c rest =>
    rw [pieces?]
    split
    · rename_i other back same
      cases found.symm.trans same
      rfl
    · rename_i none
      cases found.symm.trans none

/-- An opening tag is read back, whatever its classes and the values of its attributes. -/
theorem pieces?_renderTag {tag : Tag} (writable : tag.IsWritable) (rest : Text) :
    pieces? (renderTag tag ++ rest) =
      (pieces? rest).map (.opening tag.withClassText :: ·) := by
  obtain ⟨nonempty, nameChars⟩ := writable.name
  have isName : ∀ pair ∈ writtenAttributes tag, Tag.IsName pair.1 := by
    refine List.forall_mem_append.2 ⟨?_, fun pair member => (writable.attributes pair member).1⟩
    split
    · exact fun _ none => absurd none List.not_mem_nil
    · exact List.forall_mem_singleton.2 (show Tag.IsName "class".toList by decide)
  obtain ⟨stop, back, unwanted, after⟩ := exists_after_name (writtenAttributes tag) rest
  have read := readAttributes?_flatMap isName rest
  rw [after] at read
  have shape : renderTag tag ++ rest = '<' :: (tag.name ++ stop :: back) := by
    rw [renderTag_eq, ← after]
    simp
  refine pieces?_of_piece ?_
  rw [shape, readPiece?]
  · rw [dropWhile_before nameChars unwanted, takeWhile_before nameChars unwanted, read,
      ← tagOf_writtenAttributes writable]
    rfl
  · -- A name does not begin with a slash, so the tag is no closing one.
    intro other begins
    obtain ⟨first, later, named⟩ := List.exists_cons_of_ne_nil nonempty
    rw [named] at begins
    cases begins
    exact absurd (nameChars '/' (named ▸ List.mem_cons_self)) (by decide)

/-- A closing tag is read back. -/
theorem pieces?_closing {name : Text} (isName : Tag.IsName name) (rest : Text) :
    pieces? ("</".toList ++ name ++ ['>'] ++ rest) = (pieces? rest).map (.closing name :: ·) := by
  have shape : "</".toList ++ name ++ ['>'] ++ rest = '<' :: '/' :: (name ++ '>' :: rest) := by
    simp
  refine pieces?_of_piece ?_
  have afterName := dropWhile_before isName.2 (show isNameChar '>' = false by decide) rest
  rw [shape]
  simp only [readPiece?, afterName]
  rw [takeWhile_before isName.2 (by decide)]

/-- A text runs to the next `<`. -/
theorem readPiece?_text {c : Char} (plain : c ≠ '<') (rest : Text) :
    readPiece? (c :: rest) = some (.text (decode ((c :: rest).takeWhile (· != '<'))),
      (c :: rest).dropWhile (· != '<')) := by
  have skipped : (c :: rest).dropWhile (· != '<') = rest.dropWhile (· != '<') :=
    List.dropWhile_cons_of_pos (bne_iff_ne.2 plain)
  rw [skipped, readPiece?]
  · rintro _ rfl
    exact absurd rfl plain
  · rintro rfl
    exact absurd rfl plain

/-- Puts a text in front of pieces: an empty one disappears, and one in front of another text
becomes one with it. -/
def joinText (value : Text) (pieces : List Piece) : List Piece :=
  if value.isEmpty then pieces
  else
    match pieces with
    | .text next :: rest => .text (value ++ next) :: rest
    | _ => .text value :: pieces

/-- Joining no text changes nothing. -/
theorem joinText_nil (pieces : List Piece) : joinText [] pieces = pieces :=
  if_pos rfl

/-- Texts that meet are joined. -/
theorem joinText_text {value : Text} (nonempty : value ≠ []) (next : Text) (pieces : List Piece) :
    joinText value (.text next :: pieces) = .text (value ++ next) :: pieces :=
  if_neg (by simpa using nonempty)

/-- A text in front of a piece that is none, or of nothing, stays apart. -/
theorem joinText_apart {value : Text} (nonempty : value ≠ []) {pieces : List Piece}
    (apart : ∀ next, pieces.head? ≠ some (.text next)) :
    joinText value pieces = .text value :: pieces := by
  have filled : ¬value.isEmpty = true := by simpa using nonempty
  cases pieces with
  | nil => exact if_neg filled
  | cons piece rest =>
    cases piece with
    | text next => exact absurd rfl (apart next)
    | opening tag => exact if_neg filled
    | closing name => exact if_neg filled

/-- What begins with `<` does not begin with a text. -/
theorem head?_pieces? {rest : Text} {pieces : List Piece}
    (found : pieces? ('<' :: rest) = some pieces) (value : Text) :
    pieces.head? ≠ some (.text value) := by
  rw [pieces?] at found
  split at found
  · rename_i piece after begins
    obtain ⟨others, _, rfl⟩ := Option.map_eq_some_iff.1 found
    rintro same
    cases same
    unfold readPiece? at begins
    split at begins
    · cases begins
    · split at begins <;> cases begins
    · obtain ⟨_, _, same⟩ := Option.map_eq_some_iff.1 begins
      cases same
    · rename_i c tail _ plain whole
      cases whole
      exact plain rfl
  · cases found

/-- A text is read back in front of what follows. -/
theorem pieces?_escapeText (value rest : Text) :
    pieces? (escapeText value ++ rest) = (pieces? rest).map (joinText value) := by
  by_cases nonempty : value = []
  · subst nonempty
    rw [escapeText, List.flatMap_nil, List.nil_append, funext joinText_nil]
    exact Option.map_id'.symm
  have plain : ∀ c ∈ escapeText value, (c != '<') = true := fun c member =>
    bne_iff_ne.2 (ne_of_mem_of_not_mem member (bracket_not_mem_escapeText value))
  have decoded : ∀ back : Text, decode (escapeText value ++ back) = value ++ decode back :=
    decode_flatMap decode_escapeTextChar value
  obtain ⟨c, later, written⟩ : ∃ c later, escapeText value = c :: later := by
    refine List.exists_cons_of_ne_nil fun none => nonempty ?_
    have whole := decoded []
    rw [none] at whole
    exact (List.append_eq_nil_iff.1 whole.symm).1
  have begins : readPiece? (escapeText value ++ rest) =
      some (.text (value ++ decode (rest.takeWhile (· != '<'))), rest.dropWhile (· != '<')) := by
    have first := readPiece?_text (bne_iff_ne.1 (plain c (written ▸ List.mem_cons_self)))
      (later ++ rest)
    rwa [← List.cons_append, ← written, List.takeWhile_append_of_pos plain,
      List.dropWhile_append_of_pos plain, decoded] at first
  rw [pieces?_of_piece begins]
  cases rest with
  | nil =>
    rw [List.dropWhile_nil, pieces?, List.takeWhile_nil, decode, List.append_nil, Option.map_some,
      Option.map_some, joinText_apart nonempty (fun _ same => by cases same)]
  | cons d back =>
    by_cases opens : d = '<'
    · subst opens
      rw [List.dropWhile_cons_of_neg (by decide), List.takeWhile_cons_of_neg (by decide), decode,
        List.append_nil]
      refine Option.map_congr fun pieces found => ?_
      exact (joinText_apart nonempty (head?_pieces? found)).symm
    · rw [pieces?_of_piece (readPiece?_text opens back), Option.map_map]
      refine Option.map_congr fun pieces _ => ?_
      exact (joinText_text nonempty _ _).symm

mutual

/-- The pieces of a tree in front of others. -/
def piecesBefore (pieces : List Piece) : Html → List Piece
  | .root children => piecesListBefore pieces children
  | .element tag children =>
    .opening tag.withClassText ::
      if voidNames.contains tag.name then pieces
      else piecesListBefore (.closing tag.name :: pieces) children
  | .text value => joinText value pieces
  | .comment _ => pieces
  | .raw _ => pieces

/-- The pieces of trees in front of others. -/
def piecesListBefore (pieces : List Piece) : List Html → List Piece
  | [] => pieces
  | node :: rest => piecesBefore (piecesListBefore pieces rest) node

end

/-- The pieces of a written tree are those of the tree. -/
theorem pieces?_render :
    (∀ tree : Html, tree.IsWritable → ∀ rest,
      pieces? (tree.render ++ rest) = (pieces? rest).map (piecesBefore · tree)) ∧
    ∀ nodes, AreWritable nodes → ∀ rest,
      pieces? (renderList nodes ++ rest) = (pieces? rest).map (piecesListBefore · nodes) := by
  refine Html.induction ?_ ?_ ?_ ?_ ?_ ?_ ?_
  · intro children below writable rest
    exact below writable rest
  · rintro tag children below ⟨tagWritable, void, inside⟩ rest
    rw [render]
    by_cases isVoid : tag.name ∈ voidNames
    · rw [if_pos (List.contains_iff_mem.2 isVoid), pieces?_renderTag tagWritable]
      simp only [piecesBefore, if_pos (List.contains_iff_mem.2 isVoid)]
    · have closed := pieces?_closing tagWritable.name rest
      rw [if_neg (fun found => isVoid (List.contains_iff_mem.1 found))]
      simp only [List.append_assoc] at closed ⊢
      rw [pieces?_renderTag tagWritable, below inside, closed, Option.map_map, Option.map_map]
      simp only [piecesBefore, if_neg (fun found => isVoid (List.contains_iff_mem.1 found))]
      rfl
  · intro value _ rest
    exact pieces?_escapeText value rest
  · intro value writable
    cases writable
  · intro value writable
    cases writable
  · intro _ rest
    exact Option.map_id'.symm
  · rintro node others own later ⟨first, following⟩ rest
    rw [renderList, List.append_assoc, own first, later following, Option.map_map]
    rfl

/-! ## Elements in one another -/

/-- The siblings that pieces make, with a change made to them. -/
def Nesting.mapSiblings (change : List Html → List Html) (nesting : Nesting) : Nesting :=
  { nesting with siblings := change nesting.siblings }

/-- A text is put in front of the one that it meets. -/
theorem prependText_text {value : Text} (nonempty : value ≠ []) (next : Text)
    (siblings : List Html) :
    prependText value (.text next :: siblings) = .text (value ++ next) :: siblings :=
  if_neg (by simpa using nonempty)

/-- A text in front of a node that is none, or of nothing, stays apart. -/
theorem prependText_apart {value : Text} (nonempty : value ≠ []) {siblings : List Html}
    (apart : ∀ next, siblings.head? ≠ some (.text next)) :
    prependText value siblings = .text value :: siblings := by
  have filled : ¬value.isEmpty = true := by simpa using nonempty
  cases siblings with
  | nil => exact if_neg filled
  | cons node rest =>
    cases node with
    | text next => exact absurd rfl (apart next)
    | root children => exact if_neg filled
    | element tag children => exact if_neg filled
    | comment next => exact if_neg filled
    | raw next => exact if_neg filled

/-- Siblings begin with a text only if their pieces do. -/
theorem head?_siblings {pieces : List Piece} (apart : ∀ next, pieces.head? ≠ some (.text next))
    {nesting : Nesting} (found : nest? pieces = some nesting) (next : Text) :
    nesting.siblings.head? ≠ some (.text next) := by
  cases pieces with
  | nil =>
    cases found
    exact fun same => by cases same
  | cons piece rest =>
    obtain ⟨inner, _, nested⟩ := Option.bind_eq_some_iff.1 found
    cases piece with
    | text value => exact absurd rfl (apart value)
    | closing name =>
      cases nested
      exact fun same => by cases same
    | opening tag =>
      rw [Piece.nest?] at nested
      split at nested
      · cases nested
        exact fun same => by cases same
      · split at nested
        · cases nested
        · split at nested
          · cases nested
            exact fun same => by cases same
          · cases nested

/-- A text begins the siblings that its pieces make, as one with a text that began them before. -/
theorem nest?_joinText (value : Text) (pieces : List Piece) :
    nest? (joinText value pieces) =
      (nest? pieces).map (Nesting.mapSiblings (prependText value)) := by
  by_cases nonempty : value = []
  · subst nonempty
    rw [joinText_nil]
    exact Option.map_id'.symm
  by_cases joined : ∃ next rest, pieces = .text next :: rest
  · obtain ⟨next, rest, rfl⟩ := joined
    rw [joinText_text nonempty, nest?, nest?, Option.map_bind]
    refine Option.bind_congr fun nesting _ => ?_
    simp [Piece.nest?, Nesting.mapSiblings, prependText_text nonempty]
  · have apart : ∀ next, pieces.head? ≠ some (.text next) := by
      intro next begins
      obtain ⟨rest, shape⟩ := List.head?_eq_some_iff.1 begins
      exact joined ⟨next, rest, shape⟩
    rw [joinText_apart nonempty apart, nest?, Option.map_eq_bind]
    refine Option.bind_congr fun nesting found => ?_
    simp [Piece.nest?, Nesting.mapSiblings,
      prependText_apart nonempty (head?_siblings apart found)]

/-- The pieces of a tree make its canonical form, in front of the siblings that follow. -/
theorem nest?_piecesBefore :
    (∀ tree : Html, tree.IsWritable → ∀ pieces, nest? (piecesBefore pieces tree) =
      (nest? pieces).map (Nesting.mapSiblings (canonicalBefore · tree))) ∧
    ∀ nodes, AreWritable nodes → ∀ pieces, nest? (piecesListBefore pieces nodes) =
      (nest? pieces).map (Nesting.mapSiblings (canonicalListBefore · nodes)) := by
  refine Html.induction ?_ ?_ ?_ ?_ ?_ ?_ ?_
  · intro children below writable pieces
    exact below writable pieces
  · rintro tag children below ⟨_, void, inside⟩ pieces
    have named : tag.withClassText.name = tag.name := rfl
    by_cases isVoid : tag.name ∈ voidNames
    · rw [piecesBefore, if_pos (List.contains_iff_mem.2 isVoid), nest?, Option.map_eq_bind,
        void isVoid]
      refine Option.bind_congr fun nesting _ => ?_
      rw [Piece.nest?, named, if_pos (List.contains_iff_mem.2 isVoid)]
      rfl
    · rw [piecesBefore, if_neg (fun found => isVoid (List.contains_iff_mem.1 found)), nest?,
        below inside, nest?, Option.bind_map, Option.bind_assoc, Option.map_eq_bind]
      refine Option.bind_congr fun nesting _ => ?_
      rw [Piece.nest?, Option.bind_some, Function.comp_apply, Piece.nest?, named,
        if_neg (fun found => isVoid (List.contains_iff_mem.1 found))]
      exact if_pos rfl
  · intro value _ pieces
    exact nest?_joinText value pieces
  · intro value writable
    cases writable
  · intro value writable
    cases writable
  · intro _ pieces
    exact Option.map_id'.symm
  · rintro node others own later ⟨first, following⟩ pieces
    rw [piecesListBefore, own first, later following, Option.map_map]
    rfl

/-! ## The whole -/

/-- Text in front of siblings keeps their markup. -/
theorem markupList_prependText (value : Text) (siblings : List Html) :
    markupList (prependText value siblings) = markupList siblings := by
  unfold prependText
  split
  · rfl
  · split <;> rfl

/-- The canonical form has the elements of the tree. -/
theorem markupList_canonicalBefore :
    (∀ tree siblings, markupList (canonicalBefore siblings tree) =
      markup tree ++ markupList siblings) ∧
    ∀ nodes siblings, markupList (canonicalListBefore siblings nodes) =
      markupList nodes ++ markupList siblings := by
  refine Html.induction ?_ ?_ ?_ ?_ ?_ ?_ ?_
  · intro children below siblings
    exact below siblings
  · intro tag children below siblings
    have own : markupTag tag.withClassText = markupTag tag := by
      unfold markupTag Tag.withClassText
      by_cases none : tag.classes.isEmpty = true <;> simp [none]
    rw [canonicalBefore, markupList, markup, markup, below, own, markupList, List.append_nil]
  · intro value siblings
    exact markupList_prependText value siblings
  · intro value siblings
    rfl
  · intro value siblings
    rfl
  · intro siblings
    rfl
  · intro node rest own later siblings
    rw [canonicalListBefore, own, later, markupList, List.append_assoc]

/-- Text in front of siblings comes before their text. -/
theorem textContentList_prependText (value : Text) (siblings : List Html) :
    textContentList (prependText value siblings) = value ++ textContentList siblings := by
  by_cases nonempty : value = []
  · subst nonempty
    rfl
  by_cases joined : ∃ next rest, siblings = .text next :: rest
  · obtain ⟨next, rest, rfl⟩ := joined
    rw [prependText_text nonempty]
    simp [textContentList, textContent]
  · rw [prependText_apart nonempty, textContentList, textContent]
    intro next begins
    obtain ⟨rest, shape⟩ := List.head?_eq_some_iff.1 begins
    exact joined ⟨next, rest, shape⟩

/-- The canonical form has the text of the tree. -/
theorem textContentList_canonicalBefore :
    (∀ tree siblings, textContentList (canonicalBefore siblings tree) =
      textContent tree ++ textContentList siblings) ∧
    ∀ nodes siblings, textContentList (canonicalListBefore siblings nodes) =
      textContentList nodes ++ textContentList siblings := by
  refine Html.induction ?_ ?_ ?_ ?_ ?_ ?_ ?_
  · intro children below siblings
    exact below siblings
  · intro tag children below siblings
    rw [canonicalBefore, textContentList, textContent, textContent, below, textContentList,
      List.append_nil]
  · intro value siblings
    exact textContentList_prependText value siblings
  · intro value siblings
    rfl
  · intro value siblings
    rfl
  · intro siblings
    rfl
  · intro node rest own later siblings
    rw [canonicalListBefore, own, later, textContentList, List.append_assoc]

/-- A tree without raw markup and comments is read back in its canonical form. The elements that are
read are those of the tree, whatever its texts and the values of its attributes. -/
theorem read?_render (tree : Html) (writable : tree.IsWritable) :
    read? tree.render = some tree.canonical ∧ markupList tree.canonical = tree.markup ∧
      textContentList tree.canonical = tree.textContent := by
  refine ⟨?_, ?_, ?_⟩
  · have found := pieces?_render.1 tree writable []
    rw [List.append_nil, pieces?, Option.map_some] at found
    rw [read?, found, Option.bind_some, nest?_piecesBefore.1 tree writable]
    rfl
  · rw [canonical, markupList_canonicalBefore.1, markupList, List.append_nil]
  · rw [canonical, textContentList_canonicalBefore.1, textContentList, List.append_nil]

/-- A paragraph whose texts and values hold everything that markup is made of. -/
def paragraphOfMarkup : Html :=
  .root
    [ .element
        { name := ['p'], classes := [['a'], ['b']]
          attributes := [("title".toList, "\"></p>&quot;".toList)] }
        [ .text "</p> &".toList, .text [], .text "amp;".toList, .element { name := "br".toList } [],
          .root [.text "<b>".toList] ] ]

/-- It is read back with its texts joined, and no tag begins or ends where it does not. -/
theorem read?_paragraphOfMarkup :
    paragraphOfMarkup.IsWritable ∧ read? paragraphOfMarkup.render = some
      [ .element
          { name := ['p'], classes := [['a', ' ', 'b']]
            attributes := [("title".toList, "\"></p>&quot;".toList)] }
          [ .text "</p> &amp;".toList, .element { name := "br".toList } [],
            .text "<b>".toList ] ] := by
  have writable : paragraphOfMarkup.IsWritable := by
    refine
      ⟨⟨⟨by decide, by decide⟩, by decide, trivial, trivial, trivial, ?_, ?_, trivial⟩, trivial⟩
    · exact ⟨⟨by decide, by decide⟩, fun _ => rfl, trivial⟩
    · exact ⟨trivial, trivial⟩
  exact ⟨writable, (read?_render paragraphOfMarkup writable).1⟩

end Html

end Manuscript
