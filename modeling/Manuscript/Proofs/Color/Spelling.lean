import Manuscript.Html.ColorSwatch
import Manuscript.Proofs.Text.Class
import Manuscript.Proofs.Text.Ends

/-!
# The spelling of colors

Everything that is read of a color is written with letters, digits, blanks and a few signs: each
reader takes characters of that kind from the front of the text (`Reads`), and a color is read to
its end. So a color holds no character of another kind (`isSpellingChar_of_isColor`).
-/

namespace Manuscript.ColorSwatch

/-- Whether a character can stand in a color or beside it. The long s counts as an s. -/
def isSpellingChar (c : Char) : Bool :=
  c.isAlphanum || "#%(),./+-".toList.contains c || Text.isBlank c || c == 'ſ'

/-- Blanks are allowed in a color. -/
theorem isSpellingChar_of_isBlank {c : Char} (blank : Text.isBlank c = true) :
    isSpellingChar c = true := by
  simp [isSpellingChar, blank]

/-- Digits are allowed in a color. -/
theorem isSpellingChar_of_isDigit {c : Char} (digit : c.isDigit = true) :
    isSpellingChar c = true := by
  simp [isSpellingChar, Char.isAlphanum, digit]

/-- Hexadecimal digits are allowed in a color. -/
theorem isSpellingChar_of_isHexDigit {c : Char} (digit : isHexDigit c = true) :
    isSpellingChar c = true := by
  suffices alphanumeric : c.isAlphanum = true by simp [isSpellingChar, alphanumeric]
  simp only [isHexDigit, Bool.or_eq_true, Bool.and_eq_true, decide_eq_true_eq, Char.le_def,
    UInt32.le_iff_toNat_le] at digit
  have bounds : 'a'.val.toNat = 97 ∧ 'f'.val.toNat = 102 ∧ 'A'.val.toNat = 65 ∧
      'F'.val.toNat = 70 := by decide
  have value : c.toNat = c.val.toNat := rfl
  obtain (isDigit | lower) | upper := digit
  · simp [Char.isAlphanum, isDigit]
  · exact Text.isAlphanum_iff.2 (.inr (.inl (by omega)))
  · exact Text.isAlphanum_iff.2 (.inl (by omega))

/-- What is read of a text, up to the rest, is written with the characters of colors. -/
def Reads (text rest : Text) : Prop :=
  ∃ front, text = front ++ rest ∧ ∀ c ∈ front, isSpellingChar c = true

namespace Reads

/-- Reading nothing is reading part of a color. -/
theorem refl (text : Text) : Reads text text :=
  ⟨[], rfl, fun _ none => nomatch none⟩

/-- Two parts of a color that follow each other are one part. -/
theorem trans {text rest last : Text} (first : Reads text rest) (second : Reads rest last) :
    Reads text last := by
  obtain ⟨front, rfl, plain⟩ := first
  obtain ⟨more, rfl, plainMore⟩ := second
  exact ⟨front ++ more, (List.append_assoc _ _ _).symm, List.forall_mem_append.2 ⟨plain, plainMore⟩⟩

/-- A character that is allowed in a color can be read. -/
theorem char {c : Char} (spelled : isSpellingChar c = true) (rest : Text) :
    Reads (c :: rest) rest :=
  ⟨[c], rfl, List.forall_mem_singleton.2 spelled⟩

/-- A run of characters that are allowed in a color can be read. -/
theorem dropWhile {p : Char → Bool} (spelled : ∀ c, p c = true → isSpellingChar c = true)
    (text : Text) : Reads text (text.dropWhile p) :=
  ⟨text.takeWhile p, List.takeWhile_append_dropWhile.symm,
    fun c member => spelled c (List.all_eq_true.1 List.all_takeWhile c member)⟩

/-- Blanks can be read. -/
theorem blanks (text : Text) : Reads text (text.dropWhile Text.isBlank) :=
  dropWhile (fun _ => isSpellingChar_of_isBlank) text

/-- Digits can be read. -/
theorem digits (text : Text) : Reads text (text.dropWhile Char.isDigit) :=
  dropWhile (fun _ => isSpellingChar_of_isDigit) text

/-- A text that is read to its end has no other characters. -/
theorem all {text : Text} (read : Reads text []) : ∀ c ∈ text, isSpellingChar c = true := by
  obtain ⟨front, rfl, plain⟩ := read
  rwa [List.append_nil]

end Reads

/-! ## Letters -/

/-- A letter in either case is allowed in a color, unless it may be a Kelvin sign. -/
theorem isSpellingChar_of_isLetter? {letter c : Char} (plain : letter.isAlphanum = true)
    (notK : letter ≠ 'k') (same : Text.isLetter? letter c = true) : isSpellingChar c = true := by
  simp only [Text.isLetter?, Bool.or_eq_true, Bool.and_eq_true, beq_iff_eq] at same
  obtain (lower | ⟨_, rfl⟩) | ⟨isK, _⟩ := same
  · suffices alphanumeric : c.isAlphanum = true by simp [isSpellingChar, alphanumeric]
    by_cases upper : 'A'.val ≤ c.val ∧ c.val ≤ 'Z'.val
    · obtain ⟨atLeast, atMost⟩ := upper
      exact Text.isAlphanum_iff.2
        (.inl ⟨UInt32.le_iff_toNat_le.1 atLeast, UInt32.le_iff_toNat_le.1 atMost⟩)
    · have stays : c.toLower = c := dif_neg upper
      rwa [← stays, lower]
  · decide
  · exact absurd isK notK

/-- The letters of the words of colors. -/
def IsKeyword (letters : Text) : Prop :=
  ∀ letter ∈ letters, letter.isAlphanum = true ∧ letter ≠ 'k'

instance (letters : Text) : Decidable (IsKeyword letters) :=
  decidable_of_iff (letters.all fun letter => letter.isAlphanum && letter != 'k')
    (by simp [IsKeyword])

/-- A keyword is read as part of a color. -/
theorem reads_dropLetters? {letters text rest : Text} (keyword : IsKeyword letters)
    (read : Text.dropLetters? letters text = some rest) : Reads text rest := by
  induction letters generalizing text with
  | nil =>
    cases read
    exact .refl _
  | cons letter letters ih =>
    obtain ⟨⟨plain, notK⟩, others⟩ := List.forall_mem_cons.1 keyword
    cases text with
    | nil => cases read
    | cons c tail =>
      rw [Text.dropLetters?] at read
      split at read
      · rename_i same
        exact (Reads.char (isSpellingChar_of_isLetter? plain notK same) tail).trans (ih others read)
      · cases read

/-- A single letter that may be missing is read as part of a color. -/
theorem reads_skipLetter {letter : Char} (plain : letter.isAlphanum = true) (notK : letter ≠ 'k')
    (text : Text) : Reads text (Text.skipLetter letter text) := by
  unfold Text.skipLetter
  split
  · split
    · rename_i same
      exact .char (isSpellingChar_of_isLetter? plain notK same) _
    · exact .refl _
  · exact .refl _

/-! ## Numbers -/

/-- A percent sign that may be missing is read as part of a color. -/
theorem reads_percent (text : Text) : Reads text (percent text).2 := by
  unfold percent
  split
  · exact .char (by decide) _
  · exact .refl _

/-- A channel is read as part of a color. -/
theorem reads_channel? {text rest : Text} {component : Component}
    (read : channel? text = some (component, rest)) : Reads text rest := by
  unfold channel? at read
  dsimp only at read
  split at read
  · cases read
  · cases read
    exact (Reads.digits text).trans (reads_percent _)

/-- A decimal number is read as part of a color. -/
theorem reads_decimal? {text rest : Text} {number : Decimal}
    (read : decimal? text = some (number, rest)) : Reads text rest := by
  unfold decimal? at read
  dsimp only at read
  split at read
  · rename_i tail point
    split at read
    · cases read
    · cases read
      have whole : Reads text ('.' :: tail) := point ▸ Reads.digits text
      exact (whole.trans (.char (by decide) tail)).trans (.digits tail)
  · split at read
    · cases read
    · cases read
      exact .digits text

/-- A separator is read as part of a color. -/
theorem reads_separator? {text rest : Text} (read : separator? text = some rest) :
    Reads text rest := by
  unfold separator? at read
  split at read
  · rename_i tail comma
    cases read
    have front : Reads text (',' :: tail) := comma ▸ Reads.blanks text
    exact (front.trans (.char (by decide) tail)).trans (.blanks tail)
  · split at read
    · cases read
      exact .blanks text
    · cases read

/-- The opacity is read as part of a color. -/
theorem reads_opacity (text : Text) : Reads text (opacity text).2 := by
  unfold opacity
  split
  · exact .refl text
  · rename_i c rest shown
    split
    · rename_i mark
      have front : Reads text rest := by
        have spelled : isSpellingChar c = true := by
          obtain rfl | rfl : c = ',' ∨ c = '/' := by simpa using mark
          · decide
          · decide
        have before : Reads text (c :: rest) := shown ▸ Reads.blanks text
        exact before.trans (.char spelled rest)
      split
      · rename_i number after read
        exact ((front.trans (.blanks rest)).trans (reads_decimal? read)).trans (reads_percent after)
      · exact .refl text
    · exact .refl text

/-- The closing parenthesis is the last part of a color. -/
theorem reads_of_isClosed {text : Text} (closed : isClosed text = true) : Reads text [] := by
  have last : text.dropWhile Text.isBlank = [')'] := of_decide_eq_true closed
  have before : Reads text [')'] := last ▸ Reads.blanks text
  exact before.trans (.char (by decide) [])

/-! ## Colors -/

/-- The second and third channel are read up to the end of a color. -/
theorem reads_tail? {text : Text} {parts : Component × Component × Option Component}
    (read : tail? text = some parts) : Reads text [] := by
  unfold tail? at read
  obtain ⟨beforeSecond, first, read⟩ := Option.bind_eq_some_iff.1 read
  obtain ⟨⟨second, afterSecond⟩, isSecond, read⟩ := Option.bind_eq_some_iff.1 read
  obtain ⟨beforeThird, next, read⟩ := Option.bind_eq_some_iff.1 read
  obtain ⟨⟨third, afterThird⟩, isThird, read⟩ := Option.bind_eq_some_iff.1 read
  obtain ⟨done, closed, _⟩ := Option.bind_eq_some_iff.1 read
  change guard (isClosed (opacity afterThird).2 = true) = some done at closed
  have isEnd : isClosed (opacity afterThird).2 = true := by
    cases isEnd : isClosed (opacity afterThird).2 with
    | true => rfl
    | false =>
      rw [isEnd] at closed
      cases closed
  exact (reads_separator? first).trans <| (reads_channel? isSecond).trans <|
    (reads_separator? next).trans <| (reads_channel? isThird).trans <|
    (reads_opacity afterThird).trans (reads_of_isClosed isEnd)

/-- The name of a function is read as part of a color. -/
theorem reads_function? {name text rest : Text} (keyword : IsKeyword name)
    (read : function? name text = some rest) : Reads text rest := by
  unfold function? at read
  simp only [Option.bind_eq_bind, Option.bind_eq_some_iff] at read
  obtain ⟨afterName, isName, afterOpening, opening, same⟩ := read
  cases same
  have paren : Reads (Text.skipLetter 'a' afterName) afterOpening := by
    rw [Text.dropFront?_eq_some_iff.1 opening]
    exact .char (by decide) afterOpening
  exact (((reads_dropLetters? keyword isName).trans
    (reads_skipLetter (by decide) (by decide) afterName)).trans paren).trans (.blanks afterOpening)

/-- A color of red, green and blue is read to its end. -/
theorem reads_of_isRgbColor {text : Text} (color : isRgbColor text = true) : Reads text [] := by
  unfold isRgbColor at color
  dsimp only at color
  obtain read | ⟨_, none⟩ := Option.getD_eq_iff.1 color
  · simp only [Option.bind_eq_bind, Option.bind_eq_some_iff] at read
    obtain ⟨arguments, opened, ⟨first, rest⟩, isFirst, parts, isTail, _⟩ := read
    have keyword : IsKeyword "rgb".toList := by decide
    exact (reads_function? keyword opened).trans <| (reads_channel? isFirst).trans <|
      reads_tail? isTail
  · cases none

/-- A sign is read as part of a color. -/
theorem reads_dropSign (text : Text) : Reads text (dropSign text) := by
  unfold dropSign
  split
  · exact .char (by decide) _
  · exact .char (by decide) _
  · exact .refl _

/-- The unit of an angle is read as part of a color. -/
theorem reads_dropUnit (text : Text) : Reads text (dropUnit text) := by
  have keywords : ∀ unit ∈ ["deg", "rad", "turn", "grad"], IsKeyword unit.toList := by decide
  rw [dropUnit]
  cases found : ["deg", "rad", "turn", "grad"].findSome? fun unit =>
      Text.dropLetters? unit.toList text with
  | none => exact .refl text
  | some rest =>
    obtain ⟨unit, member, read⟩ := List.exists_of_findSome?_eq_some found
    exact reads_dropLetters? (keywords unit member) read

/-- A color of hue, saturation and lightness is read to its end. -/
theorem reads_of_isHslColor {text : Text} (color : isHslColor text = true) : Reads text [] := by
  unfold isHslColor at color
  dsimp only at color
  obtain read | ⟨_, none⟩ := Option.getD_eq_iff.1 color
  · simp only [Option.bind_eq_bind, Option.bind_eq_some_iff] at read
    obtain ⟨arguments, opened, ⟨hue, rest⟩, isHue, parts, isTail, _⟩ := read
    have keyword : IsKeyword "hsl".toList := by decide
    exact (reads_function? keyword opened).trans <| (reads_dropSign arguments).trans <|
      (reads_decimal? isHue).trans <| (reads_dropUnit rest).trans <| reads_tail? isTail
  · cases none

/-- A hexadecimal color is read to its end. -/
theorem reads_of_isHexColor {text : Text} (color : isHexColor text = true) : Reads text [] := by
  unfold isHexColor at color
  split at color
  · rename_i digits
    refine ⟨'#' :: digits, (List.append_nil _).symm, List.forall_mem_cons.2 ⟨by decide, ?_⟩⟩
    exact fun c member => isSpellingChar_of_isHexDigit
      (List.all_eq_true.1 (Bool.and_eq_true_iff.1 color).2 c member)
  · cases color

/-- A color is written with letters, digits, blanks and a few signs. -/
theorem isSpellingChar_of_isColor {text : Text} (color : isColor text = true) :
    ∀ c ∈ text, isSpellingChar c = true := by
  have inside : ∀ c ∈ Text.trim text, isSpellingChar c = true := by
    rw [isColor, Bool.or_eq_true, Bool.or_eq_true] at color
    obtain (hex | rgb) | hsl := color
    · exact (reads_of_isHexColor hex).all
    · exact (reads_of_isRgbColor rgb).all
    · exact (reads_of_isHslColor hsl).all
  obtain ⟨blanks, blank, whole⟩ := Text.blanks_trim_blanks text
  have outside : ∀ {blanks : Text}, Text.isBlankText blanks = true →
      ∀ c ∈ blanks, isSpellingChar c = true := fun blank c member =>
    isSpellingChar_of_isBlank (List.all_eq_true.1 blank c member)
  rw [whole]
  exact List.forall_mem_append.2 ⟨outside (Text.isBlankText_takeWhile text),
    List.forall_mem_append.2 ⟨inside, outside blank⟩⟩

end Manuscript.ColorSwatch
