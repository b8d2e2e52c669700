import ClusterSchema.Proofs.Date.Chronology
import ClusterSchema.Proofs.Date.Formats
import ClusterSchema.Proofs.Text.Numerals

/-!
# Sorting times by their texts

The texts of the standard format stand for times: two times with the same text are the same down to
the second, and as long as years have four digits, sorting the texts by their bytes sorts the times.

* `yearText_inj`                a year is known from its text
* `standardText_inj`            so is a time, down to the second
* `standardText_lt_iff`         the texts are in the order of the parts
* `standard_format_sortable`    equal texts and sorted texts are equal times and sorted times
* `leapSecond_within_minute_unseen`  but not for leap seconds in the middle of a minute
-/

namespace ClusterSchema.Date

open Text

variable {t u : DateTime}

/-! ## Years -/

section

variable {year other : Int}

/-- A year from 0 to 9999 is written with four digits. -/
theorem yearText_of_fourDigits (fourDigits : 0 ≤ year ∧ year ≤ 9999) :
    yearText year = Numeral.padded 4 year.natAbs :=
  if_pos fourDigits

/-- Any other year has a sign in front. -/
theorem yearText_of_signed (signed : ¬ (0 ≤ year ∧ year ≤ 9999)) :
    yearText year = (if year < 0 then '-' else '+') :: Numeral.padded 4 year.natAbs :=
  if_neg signed

/-- A sign is no digit. -/
theorem padded_ne_signed {width n : Nat} {rest : List Char} :
    Numeral.padded width n ≠ (if year < 0 then '-' else '+') :: rest := by
  intro same
  have member : (if year < 0 then '-' else '+') ∈ Numeral.padded width n := by
    rw [same]
    exact List.mem_cons_self
  have digit := Numeral.isDigit_of_mem_padded member
  split at digit <;> cases digit

/-- A year is known from its text.  The sign tells a year with more than four digits from one with
zeros in front, and a year before the year 0 from one after it. -/
theorem yearText_inj : yearText year = yearText other ↔ year = other := by
  refine ⟨fun same => ?_, congrArg yearText⟩
  -- with a sign or without one, on either side
  by_cases plain : 0 ≤ year ∧ year ≤ 9999 <;> by_cases plain' : 0 ≤ other ∧ other ≤ 9999
  · rw [yearText_of_fourDigits plain, yearText_of_fourDigits plain'] at same
    have value := Numeral.padded_inj.mp same
    omega
  · rw [yearText_of_fourDigits plain, yearText_of_signed plain'] at same
    exact absurd same padded_ne_signed
  · rw [yearText_of_signed plain, yearText_of_fourDigits plain'] at same
    exact absurd same.symm padded_ne_signed
  · rw [yearText_of_signed plain, yearText_of_signed plain', List.cons.injEq] at same
    obtain ⟨sign, digits⟩ := same
    have value := Numeral.padded_inj.mp digits
    -- of two different years with the same digits one is negative, and so the signs differ
    by_cases negative : year < 0 <;> by_cases negative' : other < 0
    · omega
    · simp [negative, negative'] at sign
    · simp [negative, negative'] at sign
    · omega

end

/-! ## The standard text -/

/-- What the standard text has behind the year. -/
def standardRest (t : DateTime) : List Char :=
  '-' :: (Numeral.padded 2 t.month ++ '-' :: (Numeral.padded 2 t.day ++
    ' ' :: (Numeral.padded 2 t.hour ++ ':' :: (Numeral.padded 2 t.minute ++
      ':' :: Numeral.padded 2 t.shownSecond))))

/-- The text of a time in the standard format. -/
def standardText (t : DateTime) : List Char := yearText t.year ++ standardRest t

/-- The standard format always gives a text, and it is this one. -/
theorem format_standard (t : DateTime) :
    DateFormat.standard.format t = .ok (String.ofList (standardText t)) := by
  -- all letters of the standard format have a meaning, and none is about the zone
  have supported : ∀ c ∈ letters DateFormat.standard.text.toList,
      c ∈ civilLetters ∨ c ∈ zoneLetters := by
    simp [DateFormat.standard, defaultFormatText, letters, civilLetters]
  have zoneless : ∀ c ∈ letters DateFormat.standard.text.toList, c ∉ zoneLetters := by
    simp [DateFormat.standard, defaultFormatText, letters, zoneLetters]
  rw [DateFormat.format_eq_interpreted t supported zoneless]
  simp [DateFormat.standard, defaultFormatText, interpreted, civilLetterText, standardText,
    standardRest]

/-- Everything behind the year has two digits. -/
theorem fits_two_digits (t : DateTime) :
    t.month < 10 ^ 2 ∧ t.day < 10 ^ 2 ∧ t.hour < 10 ^ 2 ∧ t.minute < 10 ^ 2 ∧
      t.shownSecond < 10 ^ 2 := by
  obtain ⟨-, ⟨-, december⟩, ⟨-, last⟩, hour, minute, second, nanosecond⟩ := t.valid
  have longest := daysInMonth_le t.year t.month
  unfold DateTime.shownSecond
  omega

/-- So what stands behind the year is always of one length. -/
theorem length_standardRest (t : DateTime) : (standardRest t).length = 15 := by
  obtain ⟨month, day, hour, minute, second⟩ := fits_two_digits t
  simp only [standardRest, List.length_cons, List.length_append, Nat.zero_lt_two,
    Numeral.length_padded, month, day, hour, minute, second]

/-- What stands behind the year tells the other parts. -/
theorem standardRest_inj :
    standardRest t = standardRest u ↔
      t.month = u.month ∧ t.day = u.day ∧ t.hour = u.hour ∧ t.minute = u.minute ∧
        t.shownSecond = u.shownSecond := by
  obtain ⟨month, day, hour, minute, second⟩ := fits_two_digits t
  obtain ⟨month', day', hour', minute', second'⟩ := fits_two_digits u
  simp only [standardRest, List.cons.injEq, true_and, Nat.zero_lt_two, Numeral.padded_append_inj,
    Numeral.padded_inj, month, day, hour, minute, month', day', hour', minute']

/-- A time is known from its standard text, down to the second.  Behind the year there is always as
much text, so that the year takes whatever stands in front of that. -/
theorem standardText_inj : standardText t = standardText u ↔ t.parts = u.parts := by
  have size : (standardRest t).length = (standardRest u).length := by
    rw [length_standardRest, length_standardRest]
  have inTwo : standardText t = standardText u ↔
      t.year = u.year ∧ standardRest t = standardRest u := by
    rw [← yearText_inj]
    constructor
    · exact fun same => List.append_inj' same size
    · rintro ⟨sameYear, sameRest⟩
      rw [standardText, standardText, sameYear, sameRest]
  rw [inTwo, standardRest_inj]
  simp [DateTime.parts]

/-- What stands behind the year is in the order of the other parts. -/
theorem standardRest_lt_iff :
    standardRest t < standardRest u ↔ t.parts.tail < u.parts.tail := by
  obtain ⟨month, day, hour, minute, second⟩ := fits_two_digits t
  obtain ⟨month', day', hour', minute', second'⟩ := fits_two_digits u
  simp only [standardRest, DateTime.parts, List.tail_cons, List.cons_lt_cons_iff, Char.lt_irrefl,
    false_or, true_and, Nat.zero_lt_two, Numeral.padded_append_lt_iff, Numeral.padded_lt_iff, month,
    day, hour, minute, second, month', day', hour', minute', second', Nat.cast_lt, Nat.cast_inj,
    List.not_lt_nil, and_false, or_false]

/-- As long as years have four digits, the texts are in the order of the parts. -/
theorem standardText_lt_iff (fourDigits : 0 ≤ t.year ∧ t.year ≤ 9999)
    (fourDigits' : 0 ≤ u.year ∧ u.year ≤ 9999) :
    standardText t < standardText u ↔ t.parts < u.parts := by
  -- from the year 0 on, years are in the order of their digits
  have years : t.year.natAbs < u.year.natAbs ↔ t.year < u.year := by omega
  have sameYear : t.year.natAbs = u.year.natAbs ↔ t.year = u.year := by omega
  rw [standardText, standardText, yearText_of_fourDigits fourDigits,
    yearText_of_fourDigits fourDigits',
    Numeral.padded_append_lt_iff (by decide) (by omega) (by omega), years, sameYear,
    standardRest_lt_iff, ← List.cons_lt_cons_iff]
  rfl

namespace DateFormat

/-- Two times have the same text in the standard format if and only if they agree down to the second
that clocks show.  As long as years have four digits, the bytes of the texts are in the order of
what clocks show, and never in the opposite order of the times.  Where leap seconds are the last of
their minutes, each of them is a second of its own, and the bytes are in the order of the times. -/
theorem standard_format_sortable (t u : DateTime) :
    ∃ first second, standard.format t = .ok first ∧ standard.format u = .ok second ∧
      (first = second ↔
        t.year = u.year ∧ t.month = u.month ∧ t.day = u.day ∧ t.hour = u.hour ∧
          t.minute = u.minute ∧ t.shownSecond = u.shownSecond) ∧
      (0 ≤ t.year ∧ t.year ≤ 9999 → 0 ≤ u.year ∧ u.year ≤ 9999 →
        (bytes first < bytes second ↔ t.parts < u.parts) ∧
        (t.Before u → ¬ bytes second < bytes first)) ∧
      (t.LeapEndsMinute → u.LeapEndsMinute →
        (first = second ↔
          t.year = u.year ∧ t.month = u.month ∧ t.day = u.day ∧ t.hour = u.hour ∧
            t.minute = u.minute ∧ t.countedSecond = u.countedSecond) ∧
        (0 ≤ t.year ∧ t.year ≤ 9999 → 0 ≤ u.year ∧ u.year ≤ 9999 →
          (bytes first < bytes second ↔ t.Before u))) := by
  have same : String.ofList (standardText t) = String.ofList (standardText u) ↔
      t.year = u.year ∧ t.month = u.month ∧ t.day = u.day ∧ t.hour = u.hour ∧
        t.minute = u.minute ∧ t.shownSecond = u.shownSecond := by
    rw [String.ofList_inj, standardText_inj]
    simp [DateTime.parts]
  refine ⟨_, _, format_standard t, format_standard u, same, ?_, fun leap leap' => ⟨?_, ?_⟩⟩
  · intro fourDigits fourDigits'
    -- the bytes are in the order of the characters, and these in the order of the parts
    rw [bytes_ofList_lt_iff, bytes_ofList_lt_iff, standardText_lt_iff fourDigits fourDigits',
      standardText_lt_iff fourDigits' fourDigits]
    exact ⟨Iff.rfl, DateTime.not_parts_lt_of_before⟩
  · rw [same, DateTime.shownSecond_eq_countedSecond leap,
      DateTime.shownSecond_eq_countedSecond leap']
  · intro fourDigits fourDigits'
    rw [bytes_ofList_lt_iff, standardText_lt_iff fourDigits fourDigits',
      DateTime.before_iff_parts_lt leap leap']

/-- The second before the turn of the year 2017, and the leap second behind it. -/
def lastSecond (nanosecond : Nat) (fits : nanosecond < 2000000000) : DateTime where
  year := 2016
  month := 12
  day := 31
  hour := 23
  minute := 59
  second := 59
  nanosecond
  valid := by simpa [IsDateTime, daysInMonth] using fits

/-- A leap second has a text of its own, behind that of the second before it. -/
theorem standard_format_sortable_leapSecond :
    (lastSecond 999999999 (by decide)).Before (lastSecond 1000000000 (by decide)) ∧
      "2016-12-31 23:59:59" ≠ "2016-12-31 23:59:60" ∧
      bytes "2016-12-31 23:59:59" < bytes "2016-12-31 23:59:60" := by
  have text : standard.format (lastSecond 999999999 (by decide)) =
      .ok "2016-12-31 23:59:59" := by rw [format_standard]; rfl
  have leapText : standard.format (lastSecond 1000000000 (by decide)) =
      .ok "2016-12-31 23:59:60" := by rw [format_standard]; rfl
  obtain ⟨first, second, isFirst, isSecond, -, -, whole⟩ := standard_format_sortable
    (lastSecond 999999999 (by decide)) (lastSecond 1000000000 (by decide))
  obtain ⟨same, order⟩ := whole (by decide) (by decide)
  obtain rfl : "2016-12-31 23:59:59" = first := Except.ok.inj (text.symm.trans isFirst)
  obtain rfl : "2016-12-31 23:59:60" = second := Except.ok.inj (leapText.symm.trans isSecond)
  have before : (lastSecond 999999999 (by decide)).Before (lastSecond 1000000000 (by decide)) := by
    decide
  refine ⟨before, fun equal => ?_, (order (by decide) (by decide)).mpr before⟩
  have seconds := (same.mp equal).2.2.2.2.2
  revert seconds
  decide

/-- A leap second in the evening of the last of June 2015, within a minute. -/
def leapWithinMinute : DateTime := ⟨2015, 6, 30, 20, 19, 23, 1000000000, by decide⟩

/-- The second that follows it. -/
def nextWithinMinute : DateTime := ⟨2015, 6, 30, 20, 19, 24, 0, by decide⟩

/-- A leap second within a minute has the text of the second that follows it, although it counts as
another one and comes before it. -/
theorem leapSecond_within_minute_unseen :
    standard.format leapWithinMinute = .ok "2015-06-30 20:19:24" ∧
      standard.format nextWithinMinute = .ok "2015-06-30 20:19:24" ∧
      leapWithinMinute.second ≠ nextWithinMinute.second ∧
      leapWithinMinute.countedSecond ≠ nextWithinMinute.countedSecond ∧
      leapWithinMinute.Before nextWithinMinute ∧
      ¬ bytes "2015-06-30 20:19:24" < bytes "2015-06-30 20:19:24" := by
  refine ⟨?_, ?_, by decide, by decide, by decide, List.lt_irrefl _⟩
  · rw [format_standard]
    rfl
  · rw [format_standard]
    rfl

end DateFormat

end ClusterSchema.Date
