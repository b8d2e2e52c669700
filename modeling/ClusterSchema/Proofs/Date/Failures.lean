import ClusterSchema.Proofs.Date.Formats
import Mathlib.Algebra.Group.Nat.Even
import Mathlib.Data.List.DropRight
import Mathlib.Data.List.Flatten

/-!
# Which formats fail

The letters of a format decide whether it gives a text, and the time has no part in it.  A letter
without a meaning is looked for first, over the whole format, and only then one that is about the
zone.  A letter behind an odd number of backslashes is none.

* `letters_append_letter`  which letters count
* `spelled_of_unknown`     the first letter without a meaning is what is reported
* `fails_by_letters`       which formats fail, and how
-/

namespace ClusterSchema.Date

variable {before after text : List Char} {c : Char}

/-! ## Backslashes -/

/-- How many backslashes a text ends with. -/
def endingBackslashes (text : List Char) : Nat := (text.rtakeWhile (· = '\\')).length

/-- One more backslash adds to those at the end, and any other character ends the row. -/
theorem endingBackslashes_concat :
    endingBackslashes (text ++ [c]) = if c = '\\' then endingBackslashes text + 1 else 0 := by
  by_cases same : c = '\\' <;> simp [endingBackslashes, same]

/-- A character that is no backslash is read for itself. -/
theorem letters_cons_of_ne (different : c ≠ '\\') :
    letters (c :: after) = (if c.isAlpha then [c] else []) ++ letters after := by
  rw [letters.eq_4 c after (fun escape _ => different escape) fun _ _ escape _ => different escape]
  split <;> rfl

/-- Where a text ends decides how its last characters are read: behind an even number of backslashes
what follows is read for itself, and behind an odd number its first character is literal. -/
theorem letters_append_of_parity (before : List Char) :
    (Even (endingBackslashes before) → ∀ after, letters (before ++ after) =
      letters before ++ letters after) ∧
    (¬ Even (endingBackslashes before) → ∀ c after, letters (before ++ c :: after) =
      letters before ++ letters after) := by
  -- from the end of the text, where its last character says how the next one is read
  induction before using List.reverseRecOn with
  | nil => simp [letters, endingBackslashes]
  | append_singleton text d ih =>
    obtain ⟨outside, inside⟩ := ih
    simp only [List.append_assoc, List.singleton_append, endingBackslashes_concat]
    by_cases parity : Even (endingBackslashes text)
    · by_cases escape : d = '\\'
      · -- the last backslash opens an escape, and the next character is its second half
        rw [if_pos escape, Nat.even_add_one, not_not, outside parity, escape]
        refine ⟨fun odd => absurd parity odd, fun _ c after => ?_⟩
        rw [outside parity, letters, letters, List.append_nil]
      -- any other character closes the row, and what follows is read for itself
      · rw [if_neg escape]
        refine ⟨fun _ after => ?_, fun odd => absurd Even.zero odd⟩
        rw [outside parity, outside parity, letters_cons_of_ne escape, letters_cons_of_ne escape,
          letters, List.append_nil, List.append_assoc]
    · -- the last character is the second half of an escape, whichever it is
      have closed : Even (if d = '\\' then endingBackslashes text + 1 else 0) := by
        split
        · exact Nat.even_add_one.mpr parity
        · exact Even.zero
      refine ⟨fun _ after => ?_, fun odd => absurd closed odd⟩
      rw [inside parity, inside parity, letters, List.append_nil]

/-- A letter counts exactly if the number of backslashes right before it is even. -/
theorem letters_append_letter (before : List Char) (isLetter : c.isAlpha = true)
    (after : List Char) :
    letters (before ++ c :: after) =
      letters before ++ (if Even (endingBackslashes before) then [c] else []) ++ letters after := by
  obtain ⟨outside, inside⟩ := letters_append_of_parity before
  split
  · rename_i even
    have different : c ≠ '\\' := by
      rintro rfl
      cases isLetter
    rw [outside even, letters_cons_of_ne different, if_pos isLetter, List.append_assoc]
  · rename_i odd
    rw [inside odd, List.append_nil]

/-! ## Letters that a format cannot do with -/

/-- The first letter of a text that has no meaning. -/
def firstUnknown? (text : List Char) : Option Char :=
  (letters text).find? fun c => c ∉ civilLetters ∧ c ∉ zoneLetters

/-- The first letter of a text that is about the zone. -/
def firstOfZone? (text : List Char) : Option Char :=
  (letters text).find? fun c => c ∈ zoneLetters

/-- There is no letter without a meaning if and only if each has one. -/
theorem firstUnknown?_eq_none_iff :
    firstUnknown? text = none ↔ ∀ c ∈ letters text, c ∈ civilLetters ∨ c ∈ zoneLetters := by
  rw [firstUnknown?, List.find?_eq_none]
  refine forall₂_congr fun c _ => ?_
  rw [decide_eq_true_eq, not_and_or, not_not, not_not]

/-- There is no first letter about the zone if and only if there is none at all. -/
theorem firstOfZone?_eq_none_iff :
    firstOfZone? text = none ↔ ∀ c ∈ letters text, c ∉ zoneLetters := by
  simp [firstOfZone?]

/-- Letters that say the same make the same text. -/
theorem interpreted_congr {said other : Char → List Char}
    (same : ∀ c ∈ letters text, said c = other c) :
    interpreted said text = interpreted other text := by
  rw [interpreted_eq_flatMap, interpreted_eq_flatMap]
  apply List.flatMap_congr
  intro unit member
  cases unit with
  | literal c => rfl
  | letter c => exact same c (mem_letters_iff.mpr member)

namespace DateFormat

variable {format : DateFormat}

/-- The first letter without a meaning is what is reported. -/
theorem spelled_of_unknown (unknown : firstUnknown? format.text.toList = some c) :
    format.spelled format.units = .error (.unknownLetter format.text c) := by
  have same (letter : Char) : decide (letter ∉ civilLetters ∧ letter ∉ zoneLetters) =
      (pieces? letter).isNone := by
    rw [Bool.eq_iff_iff, decide_eq_true_eq, ← not_or, ← isSome_pieces?_iff]
    simp
  apply spelled_eq_error
  rw [DateFormat.units, ← letters_eq_filterMap, ← unknown, firstUnknown?]
  simp only [same]

/-- The letter about the zone that a format reports is the first of its text. -/
theorem zoneLetter?_units : zoneLetter? format.units = firstOfZone? format.text.toList := by
  rw [zoneLetter?_eq_find?, DateFormat.units, ← letters_eq_filterMap, firstOfZone?]
  simp only [mem_zoneLetters_iff, Bool.decide_eq_true]

section

variable {t : DateTime}

/-- A letter without a meaning fails a time without a zone. -/
theorem format_of_unknown (unknown : firstUnknown? format.text.toList = some c) :
    format.format t = .error (.unknownLetter format.text c) := by
  rw [DateFormat.format, spelled_of_unknown unknown]
  rfl

/-- Where all letters have a meaning, one about the zone fails a time without one. -/
theorem format_of_zone (known : firstUnknown? format.text.toList = none)
    (aboutZone : firstOfZone? format.text.toList = some c) :
    format.format t = .error (.needsZone format.text c) := by
  have spelled := spelled_of_supported (firstUnknown?_eq_none_iff.mp known)
  rw [← zoneLetter?_units] at aboutZone
  simp only [DateFormat.format, spelled, aboutZone, bind, Except.bind]

/-- A time that has a text without a zone has the same text in every zone. -/
theorem formatZoned_of_format {said : String} (formats : format.format t = .ok said) (zone : Zone) :
    format.formatZoned t zone = .ok said := by
  -- a time that has a text needs neither kind of letter
  cases known : firstUnknown? format.text.toList with
  | some c =>
    rw [format_of_unknown known] at formats
    cases formats
  | none =>
    cases aboutZone : firstOfZone? format.text.toList with
    | some c =>
      rw [format_of_zone known aboutZone] at formats
      cases formats
    | none =>
      have supported := firstUnknown?_eq_none_iff.mp known
      have zoneless := firstOfZone?_eq_none_iff.mp aboutZone
      -- so each letter says the same with a zone as without
      have civil (c) (member : c ∈ letters format.text.toList) :
          letterText t zone c = civilLetterText t c :=
        letterText_of_civil ((supported c member).resolve_right (zoneless c member))
      rw [format_eq_interpreted t supported zoneless] at formats
      rw [formatZoned_eq_interpreted t supported zone, interpreted_congr civil]
      exact formats

end

/-- The letters of a format decide which of its uses fail, and how.  The first letter without a
meaning is reported by all of them, wherever the letters about the zone are.  Without such a letter
there is a pattern, and every time in a zone has a text; a time without a zone has one unless a
letter is about the zone, and then the first of these is reported.  The text of a time without a
zone is its text in every zone, and a letter behind an odd number of backslashes does not count. -/
theorem fails_by_letters (format : DateFormat) :
    let text := format.text.toList
    (∀ c, firstUnknown? text = some c →
      format.pattern = .error (.unknownLetter format.text c) ∧
      (∀ t, format.format t = .error (.unknownLetter format.text c)) ∧
      ∀ t zone, format.formatZoned t zone = .error (.unknownLetter format.text c)) ∧
    (firstUnknown? text = none →
      (∃ pattern, format.pattern = .ok pattern) ∧
      (∀ t zone, ∃ said, format.formatZoned t zone = .ok said) ∧
      (∀ c, firstOfZone? text = some c →
        ∀ t, format.format t = .error (.needsZone format.text c)) ∧
      (firstOfZone? text = none → ∀ t, ∃ said, format.format t = .ok said)) ∧
    (∀ t said, format.format t = .ok said → ∀ zone, format.formatZoned t zone = .ok said) ∧
    ∀ before c after, text = before ++ c :: after → c.isAlpha = true →
      letters text =
        letters before ++ (if Even (endingBackslashes before) then [c] else []) ++
          letters after := by
  intro text
  refine ⟨?_, ?_, fun t said formats => formatZoned_of_format formats, ?_⟩
  · intro c unknown
    -- the pattern comes first in every use, and it fails
    have spelled := spelled_of_unknown unknown
    refine ⟨?_, fun t => format_of_unknown unknown, fun t zone => ?_⟩
    · rw [pattern, spelled]
      rfl
    · rw [formatZoned, spelled]
      rfl
  · intro known
    have supported := firstUnknown?_eq_none_iff.mp known
    refine ⟨?_, ?_, fun c aboutZone t => format_of_zone known aboutZone, ?_⟩
    · rw [pattern, spelled_of_supported supported]
      exact ⟨_, rfl⟩
    · intro t zone
      exact ⟨_, formatZoned_eq_interpreted t supported zone⟩
    · intro zoneless t
      exact ⟨_, format_eq_interpreted t supported (firstOfZone?_eq_none_iff.mp zoneless)⟩
  · intro before c after shape isLetter
    rw [shape]
    exact letters_append_letter before isLetter after

/-- A letter without a meaning behind one about the zone, the same letter escaped, and a format that
needs no zone. -/
theorem fails_by_letters_escaped :
    (firstUnknown? "e\\QS".toList = some 'S' ∧
      DateFormat.pattern ⟨"e\\QS"⟩ = .error (.unknownLetter "e\\QS" 'S')) ∧
    (firstUnknown? "Y\\S c".toList = none ∧ firstOfZone? "Y\\S c".toList = some 'c' ∧
      DateFormat.format ⟨"Y\\S c"⟩ ⟨2024, 1, 2, 3, 4, 5, 0, by decide⟩ =
        .error (.needsZone "Y\\S c" 'c')) ∧
    DateFormat.format ⟨"\\eY"⟩ ⟨2024, 1, 2, 3, 4, 5, 0, by decide⟩ = .ok "e2024" ∧
      formatZoned ⟨"\\eY"⟩ ⟨2024, 1, 2, 3, 4, 5, 0, by decide⟩ (.east 3600) = .ok "e2024" := by
  -- `Q` is escaped, so `S` is the first without a meaning
  have unknown : firstUnknown? "e\\QS".toList = some 'S' := by decide
  have known : firstUnknown? "Y\\S c".toList = none := by decide
  have aboutZone : firstOfZone? "Y\\S c".toList = some 'c' := by decide
  have formats : DateFormat.format ⟨"\\eY"⟩ ⟨2024, 1, 2, 3, 4, 5, 0, by decide⟩ =
      .ok "e2024" := by
    rw [format_eq_interpreted _ (firstUnknown?_eq_none_iff.mp (by decide))
      (firstOfZone?_eq_none_iff.mp (by decide))]
    rfl
  refine ⟨⟨unknown, ?_⟩, ⟨known, aboutZone, ?_⟩, formats, ?_⟩
  · exact ((fails_by_letters ⟨"e\\QS"⟩).1 'S' unknown).1
  · exact ((fails_by_letters ⟨"Y\\S c"⟩).2.1 known).2.2.1 'c' aboutZone _
  · exact (fails_by_letters ⟨"\\eY"⟩).2.2.1 _ "e2024" formats (.east 3600)

end DateFormat

end ClusterSchema.Date
