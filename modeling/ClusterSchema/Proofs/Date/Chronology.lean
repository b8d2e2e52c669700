import ClusterSchema.Date.Calendar
import Mathlib.Data.Int.SuccPred

/-!
# The order of times

Which of two times comes first is a matter of the seconds that have gone by, and these are counted
over months and years of different lengths.  It comes to the same to compare the parts of the times,
from the year down to the second, because each part of a date takes its time within the greater one.

* `daysBeforeYear_succ`, `daysBeforeMonth_succ`  years and months follow each other without gaps
* `dayNumber_lt_iff`     days are counted in the order of year, month and day
* `before_iff_parts_lt`  times are in the order of their parts, where leap seconds end minutes
-/

namespace ClusterSchema.Date

variable {year later : Int} {month after : Nat}

/-! ## Years -/

/-- Each year starts where the one before it ends. -/
theorem daysBeforeYear_succ (year : Int) :
    daysBeforeYear (year + 1) = daysBeforeYear year + daysInYear year := by
  unfold daysBeforeYear daysInYear isLeapYear
  simp only [Bool.and_eq_true, Bool.or_eq_true, beq_iff_eq, bne_iff_ne]
  -- each quotient grows when its divisor divides the year, and together they count the leap years
  split <;> omega

/-- A year is over when a later one starts. -/
theorem daysBeforeYear_add_le (earlier : year < later) :
    daysBeforeYear year + daysInYear year ≤ daysBeforeYear later := by
  have next : year + 1 ≤ later := earlier
  induction later, next using Int.leInduction with
  | base => rw [daysBeforeYear_succ]
  -- a further year in between only adds to the days
  | succ later following ih =>
    have step := daysBeforeYear_succ later
    have before := ih (by omega)
    omega

/-! ## Months -/

/-- No month has more than thirty-one days. -/
theorem daysInMonth_le (year : Int) (month : Nat) : daysInMonth year month ≤ 31 := by
  unfold daysInMonth
  repeat' split
  all_goals decide

/-- Each month starts where the one before it ends. -/
theorem daysBeforeMonth_succ (year : Int) (some : 1 ≤ month) :
    daysBeforeMonth year (month + 1) = daysBeforeMonth year month + daysInMonth year month := by
  obtain ⟨earlier, rfl⟩ := Nat.exists_eq_add_of_le' some
  simp [daysBeforeMonth, List.range_succ]

/-- A month is over when a later one of the year starts. -/
theorem daysBeforeMonth_add_le (year : Int) (some : 1 ≤ month) (earlier : month < after) :
    daysBeforeMonth year month + daysInMonth year month ≤ daysBeforeMonth year after := by
  induction after, earlier using Nat.le_induction with
  | base => rw [daysBeforeMonth_succ year some]
  | succ after following ih =>
    have step := daysBeforeMonth_succ year (Nat.le_trans some (Nat.le_of_succ_le following))
    omega

/-- The year ends with its twelfth month. -/
theorem daysBeforeMonth_december (year : Int) :
    daysBeforeMonth year 12 + daysInMonth year 12 = daysInYear year := by
  unfold daysBeforeMonth daysInMonth daysInYear
  cases isLeapYear year <;> rfl

namespace DateTime

variable {t u : DateTime}

/-! ## Days -/

/-- The days of a year are counted from one. -/
theorem ordinal_pos (t : DateTime) : 1 ≤ t.ordinal := by
  obtain ⟨-, -, ⟨first, -⟩, -⟩ := t.valid
  unfold ordinal
  omega

/-- No day comes after the last of its year. -/
theorem ordinal_le (t : DateTime) : t.ordinal ≤ daysInYear t.year := by
  obtain ⟨-, ⟨january, december⟩, ⟨-, last⟩, -⟩ := t.valid
  have whole := daysBeforeMonth_december t.year
  unfold ordinal
  -- a month before the last is over when that one starts
  rcases Nat.lt_or_eq_of_le december with earlier | same
  · have ended := daysBeforeMonth_add_le t.year january earlier
    omega
  · rw [same] at last ⊢
    omega

/-- A day of an earlier year comes first. -/
theorem dayNumber_lt_of_year_lt (earlier : t.year < u.year) : t.dayNumber < u.dayNumber := by
  have ended := daysBeforeYear_add_le earlier
  have last := t.ordinal_le
  have first := u.ordinal_pos
  unfold dayNumber
  omega

/-- In one year, a day of an earlier month comes first. -/
theorem dayNumber_lt_of_month_lt (same : t.year = u.year) (earlier : t.month < u.month) :
    t.dayNumber < u.dayNumber := by
  obtain ⟨-, ⟨january, -⟩, ⟨-, last⟩, -⟩ := t.valid
  obtain ⟨-, -, ⟨first, -⟩, -⟩ := u.valid
  have ended := daysBeforeMonth_add_le t.year january earlier
  unfold dayNumber ordinal
  rw [same] at *
  omega

/-- In one month, days are as far apart as their numbers. -/
theorem dayNumber_sub_of_month_eq (sameYear : t.year = u.year) (sameMonth : t.month = u.month) :
    u.dayNumber - t.dayNumber = (u.day : Int) - t.day := by
  unfold dayNumber ordinal
  rw [sameYear, sameMonth]
  omega

/-- Days are counted in the order of year, month and day. -/
theorem dayNumber_lt_iff (t u : DateTime) :
    t.dayNumber < u.dayNumber ↔
      t.year < u.year ∨ t.year = u.year ∧
        (t.month < u.month ∨ t.month = u.month ∧ t.day < u.day) := by
  -- the year decides, in one year the month, and in one month the day
  rcases lt_trichotomy t.year u.year with earlier | sameYear | later
  · have days := dayNumber_lt_of_year_lt earlier
    omega
  · rcases lt_trichotomy t.month u.month with earlier | sameMonth | later
    · have days := dayNumber_lt_of_month_lt sameYear earlier
      omega
    · have days := dayNumber_sub_of_month_eq sameYear sameMonth
      omega
    · have days := dayNumber_lt_of_month_lt sameYear.symm later
      omega
  · have days := dayNumber_lt_of_year_lt later
    omega

/-- Days with the same number are the same day. -/
theorem dayNumber_eq_iff (t u : DateTime) :
    t.dayNumber = u.dayNumber ↔ t.year = u.year ∧ t.month = u.month ∧ t.day = u.day := by
  have before := dayNumber_lt_iff t u
  have after := dayNumber_lt_iff u t
  omega

/-! ## Seconds -/

/-- One time comes before another, counted in whole seconds.  A leap second comes after the second
that it follows. -/
def Before (t u : DateTime) : Prop :=
  t.wallSeconds < u.wallSeconds ∨
    t.wallSeconds = u.wallSeconds ∧ t.nanosecond / 1000000000 < u.nanosecond / 1000000000

instance (t u : DateTime) : Decidable (t.Before u) := by
  unfold Before; infer_instance

/-- The second, of which a leap second is the one numbered 60. -/
def countedSecond (t : DateTime) : Nat := if 1000000000 ≤ t.nanosecond then 60 else t.second

/-- At the end of a minute a leap second is shown as what it counts as. -/
theorem shownSecond_eq_countedSecond (leap : t.LeapEndsMinute) :
    t.shownSecond = t.countedSecond := by
  obtain ⟨-, -, -, -, -, -, bound⟩ := t.valid
  unfold LeapEndsMinute at leap
  unfold shownSecond countedSecond
  split <;> omega

/-- The parts of a time as clocks show them, from the greatest to the smallest. -/
def parts (t : DateTime) : List Int :=
  [t.year, t.month, t.day, t.hour, t.minute, t.shownSecond]

/-- Among the parts the day decides first, and on one day the clock. -/
theorem parts_lt_iff (t u : DateTime) :
    t.parts < u.parts ↔
      t.dayNumber < u.dayNumber ∨ t.dayNumber = u.dayNumber ∧
        (t.hour < u.hour ∨ t.hour = u.hour ∧
          (t.minute < u.minute ∨ t.minute = u.minute ∧ t.shownSecond < u.shownSecond)) := by
  rw [dayNumber_lt_iff, dayNumber_eq_iff]
  simp only [parts, List.cons_lt_cons_iff, List.not_lt_nil, and_false, or_false,
    Nat.cast_lt, Nat.cast_inj]
  omega

/-- Parts never come in the opposite order.  A leap second is shown as the second that follows it,
and no later. -/
theorem not_parts_lt_of_before (before : t.Before u) : ¬ u.parts < t.parts := by
  obtain ⟨-, -, -, hour, minute, second, bound⟩ := t.valid
  obtain ⟨-, -, -, hour', minute', second', bound'⟩ := u.valid
  rw [parts_lt_iff]
  unfold Before wallSeconds at before
  unfold shownSecond
  omega

/-- Times are in the order of their parts, as long as leap seconds are the last of their minutes and
so are not shown like another second. -/
theorem before_iff_parts_lt (leap : t.LeapEndsMinute) (leap' : u.LeapEndsMinute) :
    t.Before u ↔ t.parts < u.parts := by
  obtain ⟨-, -, -, hour, minute, second, bound⟩ := t.valid
  obtain ⟨-, -, -, hour', minute', second', bound'⟩ := u.valid
  rw [parts_lt_iff]
  -- a leap second is then shown as sixty, which no other second is
  unfold LeapEndsMinute at leap leap'
  unfold Before wallSeconds shownSecond
  omega

end DateTime

end ClusterSchema.Date
