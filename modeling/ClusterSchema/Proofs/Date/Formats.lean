import ClusterSchema.Date.Format
import ClusterSchema.Proofs.Date.Patterns

/-!
# What a format says

A format is turned into a pattern, and the pattern is taken apart again to give the text of a time.
Here the same text is read off the format itself, letter by letter, with no pattern in between; the
two agree, so that no piece of a pattern merges with its neighbour and no pattern is without a text.

* `interpreted`         the text of a format, from the text of each of its letters
* `means_letter`        the pattern of one letter has the text that the letter says
* `texts?_pieces`       so has the pattern of a whole format
* `format_interpreted`  and so has the format, with and without a zone
-/

namespace ClusterSchema.Date

open Text

/-- The letters that stand for a part of the date or of the time of day. -/
def civilLetters : List Char :=
  ['d', 'j', 'D', 'l', 'N', 'w', 'W', 'm', 'n', 'M', 'F', 'o', 'Y', 'y', 'H', 'G', 'h', 'g', 'i',
    's', 'A', 'a', 'u', 'v']

/-- The letters that stand for something about the zone. -/
def zoneLetters : List Char := ['e', 'T', 'O', 'P', 'c', 'r', 'U']

/-- The letters of a format that no backslash makes literal, in order. -/
def letters : List Char → List Char
  | [] => []
  | ['\\'] => []
  | '\\' :: _ :: rest => letters rest
  | c :: rest => if c.isAlpha then c :: letters rest else letters rest

/-- The text of a format, given that of each letter. -/
def interpreted (letterText : Char → List Char) : List Char → List Char
  | [] => []
  | ['\\'] => []
  | '\\' :: c :: rest => c :: interpreted letterText rest
  | c :: rest => (if c.isAlpha then letterText c else [c]) ++ interpreted letterText rest

/-- What a letter says about the date or the time of day. -/
def civilLetterText (t : DateTime) : Char → List Char
  | 'd' => Numeral.padded 2 t.day
  | 'j' => Numeral.write t.day
  | 'D' => (nameAt weekdayNames t.weekday).take 3
  | 'l' => nameAt weekdayNames t.weekday
  | 'N' => Numeral.write (t.weekday + 1)
  | 'w' => Numeral.write ((t.weekday + 1) % 7)
  | 'W' => Numeral.padded 2 t.isoWeek
  | 'm' => Numeral.padded 2 t.month
  | 'n' => Numeral.write t.month
  | 'M' => (nameAt monthNames (t.month - 1)).take 3
  | 'F' => nameAt monthNames (t.month - 1)
  | 'o' => yearText t.isoYear
  | 'Y' => yearText t.year
  | 'y' => Numeral.padded 2 (t.year % 100).toNat
  | 'H' => Numeral.padded 2 t.hour
  | 'G' => Numeral.write t.hour
  | 'h' => Numeral.padded 2 t.clockHour
  | 'g' => Numeral.write t.clockHour
  | 'i' => Numeral.padded 2 t.minute
  | 's' => Numeral.padded 2 t.shownSecond
  | 'A' => if t.hour < 12 then "AM".toList else "PM".toList
  | 'a' => if t.hour < 12 then "am".toList else "pm".toList
  | 'u' => Numeral.padded 6 (t.fraction / 1000)
  | 'v' => Numeral.padded 3 (t.fraction / 1000000)
  | _ => []

/-- What a letter says about a time in a zone. -/
def letterText (t : DateTime) (zone : Zone) : Char → List Char
  | 'e' | 'T' => zoneText zone
  | 'O' => offsetText [] zone.seconds
  | 'P' => offsetText [':'] zone.seconds
  | 'c' =>
    yearText t.year ++ '-' :: Numeral.padded 2 t.month ++ '-' :: Numeral.padded 2 t.day
      ++ 'T' :: Numeral.padded 2 t.hour ++ ':' :: Numeral.padded 2 t.minute
      ++ ':' :: Numeral.padded 2 t.shownSecond ++ offsetText [':'] zone.seconds
  | 'r' =>
    (nameAt weekdayNames t.weekday).take 3 ++ ", ".toList ++ Numeral.padded 2 t.day
      ++ ' ' :: (nameAt monthNames (t.month - 1)).take 3 ++ ' ' :: yearText t.year
      ++ ' ' :: Numeral.padded 2 t.hour ++ ':' :: Numeral.padded 2 t.minute
      ++ ':' :: Numeral.padded 2 t.shownSecond ++ ' ' :: offsetText [] zone.seconds
  | 'U' => Numeral.writeInt (t.wallSeconds - zone.seconds)
  | c => civilLetterText t c

/-! ## Single letters -/

/-- The pattern of a letter has the text that the letter says. -/
def Means (t : DateTime) (zone : Option Zone) (letterText : Char → List Char) (c : Char) : Prop :=
  ∃ pieces, pieces? c = some pieces ∧ Piece.texts? t zone pieces = some (letterText c)

variable {t : DateTime} {zone : Option Zone} {c : Char}

/-- The letters about the zone are those that only a time in a zone has pieces for. -/
theorem mem_zoneLetters_iff : c ∈ zoneLetters ↔ (zonedPieces? c).isSome := by
  unfold zonedPieces?
  split <;> simp_all [zoneLetters]

/-- The letters about the date and the time of day are those that every time has pieces for. -/
theorem mem_civilLetters_iff : c ∈ civilLetters ↔ (civilPieces? c).isSome := by
  unfold civilPieces?
  split <;> simp_all [civilLetters]

/-- A letter has a meaning if it is one of these or one of those. -/
theorem isSome_pieces?_iff : (pieces? c).isSome ↔ c ∈ civilLetters ∨ c ∈ zoneLetters := by
  rw [mem_civilLetters_iff, mem_zoneLetters_iff]
  unfold pieces?
  cases civilPieces? c <;> simp

/-- A letter about the date or the time of day means the same with and without a zone. -/
theorem means_civil (member : c ∈ civilLetters) : Means t zone (civilLetterText t) c := by
  have all : ∀ c ∈ civilLetters, Means t zone (civilLetterText t) c := by
    simp only [civilLetters, List.forall_mem_cons]
    and_intros
    -- each of them stands for one directive
    all_goals first | exact ⟨_, rfl, Piece.texts?_singleton _⟩ | simp
  exact all c member

/-- A zone does not change what such a letter says. -/
theorem letterText_of_civil {zone : Zone} (member : c ∈ civilLetters) :
    letterText t zone c = civilLetterText t c := by
  have all : ∀ c ∈ civilLetters, letterText t zone c = civilLetterText t c := by
    simp only [civilLetters, List.forall_mem_cons]
    and_intros
    all_goals first | rfl | simp
  exact all c member

/-- In a zone every letter with a meaning has its text. -/
theorem means_letter {zone : Zone} (member : c ∈ civilLetters ∨ c ∈ zoneLetters) :
    Means t (some zone) (letterText t zone) c := by
  rcases member with civil | zoned
  -- a letter that is not about the zone
  · have means : Means t (some zone) (civilLetterText t) c := means_civil civil
    obtain ⟨pieces, stands, texts⟩ := means
    exact ⟨pieces, stands, by rw [texts, letterText_of_civil civil]⟩
  · have all : ∀ c ∈ zoneLetters, Means t (some zone) (letterText t zone) c := by
      simp only [zoneLetters, List.forall_mem_cons]
      refine ⟨?e, ?T, ?O, ?P, ?c, ?r, ?U, by simp⟩
      case c | r =>
        -- a date and time written out, with literal characters in between
        refine ⟨_, rfl, ?_⟩
        simp [Piece.texts?, Piece.text?, Directive.text?, Directive.needsZone, Directive.civilText,
          Directive.zonedText, letterText]
      all_goals exact ⟨_, rfl, Piece.texts?_singleton _⟩
    exact all c zoned

/-! ## Formats and their units -/

namespace FormatUnit

/-- The letter of a unit that stands for something. -/
def letter? : FormatUnit → Option Char
  | literal _ => none
  | letter c => some c

/-- The pieces of a pattern that a unit stands for. -/
def pieces : FormatUnit → List Piece
  | literal c => [.literal c]
  | letter c => (pieces? c).getD []

/-- The text of a unit, given that of each letter. -/
def text (letterText : Char → List Char) : FormatUnit → List Char
  | literal c => [c]
  | letter c => letterText c

end FormatUnit

/-- The letters of a format are those among its units. -/
theorem letters_eq_filterMap (text : List Char) :
    letters text = (units text).filterMap FormatUnit.letter? := by
  -- the last case is a character that no backslash stands before
  fun_induction units text with
  | case1 => rfl
  | case2 => rfl
  -- an escaped character is no letter, whichever it is
  | case3 c rest ih => simp [letters, List.filterMap_cons, FormatUnit.letter?, ih]
  | case4 c rest notEnd notEscape ih =>
    rw [letters.eq_4 c rest notEnd notEscape]
    split <;> simp [List.filterMap_cons, FormatUnit.letter?, ih]

/-- The text read off a format is that of its units, one after the other. -/
theorem interpreted_eq_flatMap (letterText : Char → List Char) (text : List Char) :
    interpreted letterText text = (units text).flatMap (FormatUnit.text letterText) := by
  fun_induction units text with
  | case1 => rfl
  | case2 => rfl
  | case3 c rest ih => simp [interpreted, FormatUnit.text, ih]
  | case4 c rest notEnd notEscape ih =>
    rw [interpreted.eq_4 letterText c rest notEnd notEscape]
    split <;> simp [FormatUnit.text, ih]

/-- A letter stands in a format if it is one of its units. -/
theorem mem_letters_iff {text : List Char} : c ∈ letters text ↔ .letter c ∈ units text := by
  rw [letters_eq_filterMap, List.mem_filterMap]
  constructor
  · rintro ⟨unit, member, isLetter⟩
    cases unit with
    | literal d => cases isLetter
    | letter d =>
      obtain rfl : d = c := by simpa [FormatUnit.letter?] using isLetter
      exact member
  · intro member
    exact ⟨.letter c, member, rfl⟩

namespace DateFormat

variable {format : DateFormat} {parts : List FormatUnit} {textOf : Char → List Char}

/-- A pattern is put together if every letter has a meaning. -/
theorem spelled_eq_ok (known : ∀ c, .letter c ∈ parts → (pieces? c).isSome) :
    format.spelled parts = .ok ((parts.flatMap FormatUnit.pieces).flatMap Piece.spelling) := by
  induction parts with
  | nil => rfl
  | cons unit rest ih =>
    -- the rest of the pattern is put together first, and the unit goes in front of it
    have later := ih fun c member => known c (List.mem_cons_of_mem unit member)
    cases unit with
    | literal c => simp [spelled, later, FormatUnit.pieces, Except.map]
    | letter c =>
      obtain ⟨first, stands⟩ := Option.isSome_iff_exists.mp (known c (by simp))
      simp [spelled, later, stands, FormatUnit.pieces, Except.map]

/-- The letters of a format decide on the text of its pattern. -/
theorem texts?_pieces (means : ∀ c, .letter c ∈ parts → Means t zone textOf c) :
    Piece.texts? t zone (parts.flatMap FormatUnit.pieces) =
      some (parts.flatMap (FormatUnit.text textOf)) := by
  induction parts with
  | nil => rfl
  | cons unit rest ih =>
    have later := ih fun c member => means c (List.mem_cons_of_mem unit member)
    simp only [List.flatMap_cons, Piece.texts?_append, later]
    cases unit with
    | literal c => simp [FormatUnit.pieces, FormatUnit.text, Piece.texts?, Piece.text?]
    | letter c =>
      obtain ⟨first, stands, firstText⟩ := means c (by simp)
      simp [FormatUnit.pieces, FormatUnit.text, stands, firstText]

/-- The first letter without a meaning is what is wrong with a format. -/
theorem spelled_eq_error
    (first : (parts.filterMap FormatUnit.letter?).find? (fun c => (pieces? c).isNone) = some c) :
    format.spelled parts = .error (.unknownLetter format.text c) := by
  induction parts with
  | nil => cases first
  | cons unit rest ih =>
    cases unit with
    | literal d =>
      have later := ih (by simpa [FormatUnit.letter?] using first)
      simp [spelled, later, Except.map]
    | letter d =>
      cases stands : pieces? d with
      | none =>
        obtain rfl : d = c := by simpa [FormatUnit.letter?, stands] using first
        simp [spelled, stands]
      -- this letter has a meaning, so the one that is reported stands behind it
      | some pieces =>
        have later := ih (by simpa [FormatUnit.letter?, stands] using first)
        simp [spelled, stands, later, Except.map]

/-- The letter about the zone that is reported is the first one. -/
theorem zoneLetter?_eq_find? :
    zoneLetter? parts =
      (parts.filterMap FormatUnit.letter?).find? (fun c => (zonedPieces? c).isSome) := by
  induction parts with
  | nil => rfl
  | cons unit rest ih =>
    cases unit with
    | literal d => simpa [zoneLetter?, FormatUnit.letter?] using ih
    | letter d =>
      cases stands : zonedPieces? d with
      | none => simpa [zoneLetter?, FormatUnit.letter?, stands] using ih
      | some pieces => simp [zoneLetter?, FormatUnit.letter?, stands]

/-- None is reported if and only if there is none. -/
theorem zoneLetter?_eq_none_iff :
    zoneLetter? format.units = none ↔ ∀ c ∈ letters format.text.toList, c ∉ zoneLetters := by
  unfold DateFormat.units
  rw [zoneLetter?_eq_find?, ← letters_eq_filterMap, List.find?_eq_none]
  simp only [mem_zoneLetters_iff]

section Supported

variable (t : DateTime)
  (supported : ∀ c ∈ letters format.text.toList, c ∈ civilLetters ∨ c ∈ zoneLetters)
include supported

/-- Where every letter has a meaning there is a pattern. -/
theorem spelled_of_supported :
    format.spelled format.units =
      .ok ((format.units.flatMap FormatUnit.pieces).flatMap Piece.spelling) :=
  spelled_eq_ok fun c member => isSome_pieces?_iff.mpr (supported c (mem_letters_iff.mpr member))

/-- Without letters about the zone, the text of a time is the one read off the format. -/
theorem format_eq_interpreted (zoneless : ∀ c ∈ letters format.text.toList, c ∉ zoneLetters) :
    format.format t =
      .ok (String.ofList (interpreted (civilLetterText t) format.text.toList)) := by
  have means (c) (member : .letter c ∈ format.units) : Means t none (civilLetterText t) c := by
    have written := mem_letters_iff.mpr member
    exact means_civil ((supported c written).resolve_right (zoneless c written))
  simp only [DateFormat.format, spelled_of_supported supported,
    zoneLetter?_eq_none_iff.mpr zoneless, bind, Except.bind, patternText,
    Pattern.text?_spellings, texts?_pieces means, Option.map_some]
  rw [interpreted_eq_flatMap, DateFormat.units]

/-- In a zone it always is. -/
theorem formatZoned_eq_interpreted (zone : Zone) :
    format.formatZoned t zone =
      .ok (String.ofList (interpreted (letterText t zone) format.text.toList)) := by
  have means (c) (member : .letter c ∈ format.units) : Means t (some zone) (letterText t zone) c :=
    means_letter (supported c (mem_letters_iff.mpr member))
  simp only [formatZoned, spelled_of_supported supported, bind, Except.bind, patternText,
    Pattern.text?_spellings, texts?_pieces means, Option.map_some]
  rw [interpreted_eq_flatMap, DateFormat.units]

end Supported

/-- A format has a letter without a meaning, and then no pattern, or all its letters have one. -/
theorem exists_unknownLetter_or_supported (format : DateFormat) :
    (∃ c, format.spelled format.units = .error (.unknownLetter format.text c)) ∨
      ∀ c ∈ letters format.text.toList, c ∈ civilLetters ∨ c ∈ zoneLetters := by
  -- the first letter without a meaning, if there is one, is what is wrong
  cases wrong : (letters format.text.toList).find? (fun c => (pieces? c).isNone) with
  | some c =>
    rw [letters_eq_filterMap] at wrong
    exact .inl ⟨c, spelled_eq_error wrong⟩
  | none =>
    right
    intro c member
    have known := List.find?_eq_none.mp wrong c member
    exact isSome_pieces?_iff.mp (by simpa [Option.isSome_iff_ne_none] using known)

/-- No pattern that a format makes is without a text. -/
theorem format_ne_noText (format : DateFormat) (t : DateTime) (text : String) :
    format.format t ≠ .error (.noText text) := by
  obtain ⟨c, spelled⟩ | supported := format.exists_unknownLetter_or_supported
  · simp [DateFormat.format, spelled, bind, Except.bind]
  · have spelled := spelled_of_supported supported
    by_cases zoneless : ∀ c ∈ letters format.text.toList, c ∉ zoneLetters
    · simp [format_eq_interpreted t supported zoneless]
    -- a letter about the zone is refused before the pattern is read
    · obtain ⟨c, isZone⟩ := Option.ne_none_iff_exists'.mp (mt zoneLetter?_eq_none_iff.mp zoneless)
      simp [DateFormat.format, spelled, isZone, bind, Except.bind]

/-- Nor is it in a zone. -/
theorem formatZoned_ne_noText (format : DateFormat) (t : DateTime) (zone : Zone) (text : String) :
    format.formatZoned t zone ≠ .error (.noText text) := by
  obtain ⟨c, spelled⟩ | supported := format.exists_unknownLetter_or_supported
  · simp [formatZoned, spelled, bind, Except.bind]
  · simp [formatZoned_eq_interpreted t supported zone]

/-- A format gives the text that its letters say, and nothing goes wrong in between: if every letter
has a meaning, the format gives the text read off it letter by letter, without a zone as long as no
letter is about one, and no format at all has a pattern without a text. -/
theorem format_interpreted (format : DateFormat) (t : DateTime) :
    ((∀ c ∈ letters format.text.toList, c ∈ civilLetters ∨ c ∈ zoneLetters) →
      ((∀ c ∈ letters format.text.toList, c ∉ zoneLetters) →
        format.format t =
          .ok (String.ofList (interpreted (civilLetterText t) format.text.toList))) ∧
      ∀ zone, format.formatZoned t zone =
        .ok (String.ofList (interpreted (letterText t zone) format.text.toList))) ∧
    (∀ text, format.format t ≠ .error (.noText text)) ∧
    ∀ zone text, format.formatZoned t zone ≠ .error (.noText text) := by
  refine ⟨?_, format.format_ne_noText t, format.formatZoned_ne_noText t⟩
  intro supported
  exact ⟨format_eq_interpreted t supported, formatZoned_eq_interpreted t supported⟩

/-- Escapes and percent signs next to letters, at the end of a format and in front of a zone. -/
theorem format_interpreted_escapes :
    DateFormat.format ⟨"Y\\m% j/n%\\"⟩ ⟨2024, 1, 2, 3, 4, 5, 0, by decide⟩ = .ok "2024m% 2/1%" ∧
      formatZoned ⟨"\\c%-d%c"⟩ ⟨2024, 1, 2, 3, 4, 5, 0, by decide⟩ (.east 19800) =
        .ok "c%-02%2024-01-02T03:04:05+05:30" := by
  -- each format is read letter by letter, escapes included
  constructor
  · have said := ((format_interpreted ⟨"Y\\m% j/n%\\"⟩ ⟨2024, 1, 2, 3, 4, 5, 0, by decide⟩).1
      (by simp [letters, civilLetters])).1 (by simp [letters, zoneLetters])
    rw [said]
    rfl
  · have said := ((format_interpreted ⟨"\\c%-d%c"⟩ ⟨2024, 1, 2, 3, 4, 5, 0, by decide⟩).1
      (by simp [letters, civilLetters, zoneLetters])).2 (.east 19800)
    rw [said]
    rfl

end DateFormat

end ClusterSchema.Date
