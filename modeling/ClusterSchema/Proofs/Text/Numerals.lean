import ClusterSchema.Proofs.Text.Order
import ClusterSchema.Text.Numeral
import Mathlib.Algebra.Group.Nat.Defs

/-!
# What a numeral writes

`Writes` says what a decimal numeral is and which number it writes, apart from any way to read it:
one or more ASCII digits, of which the last counts least, behind at most one plus sign.

* `continued?_eq_some_iff`  digits are read to the number that they write
* `read?_eq_some_iff`       reading takes exactly the numerals of numbers below the limit
* `writes_write`            writing a number gives a numeral of it
* `digits_lt_digits_iff`    digits of one length are in the order of their numbers
* `padded_append_lt_iff`    numbers of one width come before what follows them
-/

namespace ClusterSchema.Text.Numeral

/-- A text is a numeral, with or without a plus sign, and this is its number. -/
def Writes (text : List Char) (number : Nat) : Prop :=
  ∃ digits, (text = digits ∨ text = '+' :: digits) ∧ digits ≠ [] ∧
    (∀ c ∈ digits, c.isDigit = true) ∧ Nat.ofDigitChars 10 digits 0 = number

/-- A digit counts as many as it stands behind zero. -/
theorem digitValue?_of_isDigit {c : Char} (digit : c.isDigit = true) :
    digitValue? c = some (c.toNat - '0'.toNat) := by
  have range := Char.isDigit_iff_toNat.mp digit
  exact if_pos range

/-- No other character has a value. -/
theorem digitValue?_eq_none {c : Char} (other : c.isDigit = false) : digitValue? c = none := by
  refine if_neg fun range => ?_
  have digit : c.isDigit = true := Char.isDigit_iff_toNat.mpr range
  rw [other] at digit
  cases digit

/-- Digits are read to the number that they write behind what has been read, and nothing else is
read. -/
theorem continued?_eq_some_iff {soFar number : Nat} {text : List Char} :
    continued? soFar text = some number ↔
      (∀ c ∈ text, c.isDigit = true) ∧ Nat.ofDigitChars 10 text soFar = number := by
  -- the number read so far is an argument of the recursion and varies with it
  induction text generalizing soFar with
  | nil => simp [continued?, Nat.ofDigitChars]
  | cons c rest ih =>
    rw [continued?, List.forall_mem_cons, Nat.ofDigitChars, List.foldl_cons]
    cases digit : c.isDigit with
    | true =>
      rw [digitValue?_of_isDigit digit, Option.bind_some, ih]
      simp [Nat.ofDigitChars]
    | false =>
      rw [digitValue?_eq_none digit, Option.bind_none]
      simp

/-- One or more digits are read to the number that they write. -/
theorem digits?_eq_some_iff {digits : List Char} {number : Nat} :
    digits? digits = some number ↔
      digits ≠ [] ∧ (∀ c ∈ digits, c.isDigit = true) ∧ Nat.ofDigitChars 10 digits 0 = number := by
  cases digits with
  | nil => simp [digits?]
  | cons c rest => simp [digits?, continued?_eq_some_iff]

/-- Reading takes exactly the numerals of numbers below the limit. -/
theorem read?_eq_some_iff {limit number : Nat} {text : List Char} :
    read? limit text = some number ↔ Writes text number ∧ number < limit := by
  -- a plus sign is no digit, so there is one way at most to see digits in a text
  unfold read? Writes
  rw [Option.filter_eq_some_iff, decide_eq_true_eq]
  refine and_congr_left fun _ => ?_
  split
  · rename_i rest
    rw [digits?_eq_some_iff]
    constructor
    · rintro ⟨some, all, value⟩
      exact ⟨rest, .inr rfl, some, all, value⟩
    · rintro ⟨digits, rfl | same, some, all, value⟩
      · -- the digits cannot start with the sign that was taken off
        have sign := all '+' (List.mem_cons_self ..)
        cases sign
      · cases same
        exact ⟨some, all, value⟩
  · rename_i noPlus
    rw [digits?_eq_some_iff]
    constructor
    · rintro ⟨some, all, value⟩
      exact ⟨text, .inl rfl, some, all, value⟩
    · rintro ⟨digits, rfl | same, some, all, value⟩
      · exact ⟨some, all, value⟩
      · exact absurd same (noPlus digits)

/-- Writing a number gives a numeral of it. -/
theorem writes_write (n : Nat) : Writes (write n) n := by
  have digits (c) (member : c ∈ write n) : c.isDigit = true :=
    Nat.isDigit_of_mem_toDigits (by decide) (by decide) member
  have value : Nat.ofDigitChars 10 (write n) 0 = n := Nat.ofDigitChars_ten_toDigits
  exact ⟨write n, .inl rfl, Nat.toDigits_ne_nil, digits, value⟩

/-! ## Numerals of one length -/

section

variable {text other : List Char}

/-- The first digit counts for a power of ten with as many zeros as there are digits behind it. -/
theorem ofDigitChars_cons_zero (c : Char) (rest : List Char) :
    Nat.ofDigitChars 10 (c :: rest) 0 =
      10 ^ rest.length * (c.toNat - '0'.toNat) + Nat.ofDigitChars 10 rest 0 := by
  rw [Nat.ofDigitChars_cons, Nat.ofDigitChars_eq_ofDigitChars_zero, Nat.mul_zero, Nat.zero_add]

/-- A greater digit counts for more than all digits behind it. -/
theorem block_lt_block {size m n low low' : Nat} (before : m < n) (bound : low < size) :
    size * m + low < size * n + low' :=
  calc size * m + low
      < size * m + size := Nat.add_lt_add_left bound _
    _ = size * (m + 1) := (Nat.mul_succ _ _).symm
    _ ≤ size * n := Nat.mul_le_mul_left _ before
    _ ≤ size * n + low' := Nat.le_add_right _ _

/-- Digits write a number below the power of ten with as many zeros. -/
theorem ofDigitChars_lt (digits : ∀ c ∈ text, c.isDigit = true) :
    Nat.ofDigitChars 10 text 0 < 10 ^ text.length := by
  induction text with
  | nil => exact Nat.one_pos
  | cons c rest ih =>
    obtain ⟨digit, later⟩ := List.forall_mem_cons.mp digits
    have range := Char.isDigit_iff_toNat.mp digit
    have small : c.toNat - '0'.toNat < 10 := by
      have zero : '0'.toNat = 48 := rfl
      have nine : '9'.toNat = 57 := rfl
      omega
    rw [ofDigitChars_cons_zero, List.length_cons]
    -- the digits behind the first count for less than one of it, and it is nine at most
    calc 10 ^ rest.length * (c.toNat - '0'.toNat) + Nat.ofDigitChars 10 rest 0
        < 10 ^ rest.length * 10 + 0 := block_lt_block small (ih later)
      _ = 10 ^ (rest.length + 1) := (Nat.pow_succ ..).symm

/-- Of digits of one length the smaller text writes the smaller number. -/
theorem digits_lt_digits (digits : ∀ c ∈ text, c.isDigit = true)
    (size : text.length = other.length) (digits' : ∀ c ∈ other, c.isDigit = true)
    (before : text < other) :
    Nat.ofDigitChars 10 text 0 < Nat.ofDigitChars 10 other 0 := by
  induction text generalizing other with
  | nil =>
    have empty : other = [] := List.eq_nil_of_length_eq_zero size.symm
    rw [empty] at before
    cases before
  | cons c rest ih =>
    cases other with
    | nil => cases size
    | cons d others =>
      have length : rest.length = others.length := Nat.succ.inj size
      obtain ⟨digit, later⟩ := List.forall_mem_cons.mp digits
      obtain ⟨-, later'⟩ := List.forall_mem_cons.mp digits'
      rw [ofDigitChars_cons_zero, ofDigitChars_cons_zero, ← length]
      -- the first difference decides, both in the texts and in the numbers
      rcases List.cons_lt_cons_iff.mp before with smaller | ⟨rfl, behind⟩
      · have range := Char.isDigit_iff_toNat.mp digit
        have smaller : c.toNat < d.toNat := smaller
        exact block_lt_block (by omega) (ofDigitChars_lt later)
      · exact Nat.add_lt_add_left (ih later length later' behind) _

/-- Digits of one length are in the order of their numbers. -/
theorem digits_lt_digits_iff (digits : ∀ c ∈ text, c.isDigit = true)
    (digits' : ∀ c ∈ other, c.isDigit = true) (size : text.length = other.length) :
    text < other ↔ Nat.ofDigitChars 10 text 0 < Nat.ofDigitChars 10 other 0 := by
  refine ⟨digits_lt_digits digits size digits', fun before => ?_⟩
  -- the order of texts is total, so the other two cases are refuted by the first direction
  rcases lt_or_eq_or_gt text other with smaller | rfl | greater
  · exact smaller
  · exact absurd before (Nat.lt_irrefl _)
  · have after := digits_lt_digits digits' size.symm digits greater
    exact absurd before (Nat.lt_asymm after)

end

/-! ## Numerals of a width -/

section

variable {width m n : Nat} {rest others : List Char}

/-- A number filled up with zeros consists of digits. -/
theorem isDigit_of_mem_padded {c : Char} (member : c ∈ padded width n) : c.isDigit = true := by
  rcases List.mem_append.mp member with zero | digit
  · rw [List.eq_of_mem_replicate zero]
    rfl
  · exact Nat.isDigit_of_mem_toDigits (by decide) (by decide) digit

/-- Zeros in front do not change the number. -/
theorem ofDigitChars_padded (width n : Nat) : Nat.ofDigitChars 10 (padded width n) 0 = n := by
  rw [padded, Nat.ofDigitChars_append, Nat.ofDigitChars_replicate_zero, Nat.mul_zero]
  exact Nat.ofDigitChars_ten_toDigits

/-- Different numbers are written differently. -/
theorem padded_inj : padded width m = padded width n ↔ m = n := by
  refine ⟨fun same => ?_, fun same => by rw [same]⟩
  rw [← ofDigitChars_padded width m, same, ofDigitChars_padded]

/-- A number that fits into the width is written in just this width. -/
theorem length_padded (some : 0 < width) (fits : n < 10 ^ width) :
    (padded width n).length = width := by
  have short : (write n).length ≤ width :=
    (Nat.length_toDigits_le_iff (by decide) some).mpr fits
  rw [padded, List.length_append, List.length_replicate]
  -- the zeros fill what the number leaves of the width
  omega

/-- What follows a number of one width can be told from the number. -/
theorem padded_append_inj (some : 0 < width) (fits : m < 10 ^ width) (fits' : n < 10 ^ width) :
    padded width m ++ rest = padded width n ++ others ↔ m = n ∧ rest = others := by
  have size : (padded width m).length = (padded width n).length := by
    rw [length_padded some fits, length_padded some fits']
  rw [List.append_eq_append_iff_of_size_eq_left size, padded_inj]

/-- Numbers of one width come before what follows them. -/
theorem padded_append_lt_iff (some : 0 < width) (fits : m < 10 ^ width) (fits' : n < 10 ^ width) :
    padded width m ++ rest < padded width n ++ others ↔ m < n ∨ m = n ∧ rest < others := by
  have size : (padded width m).length = (padded width n).length := by
    rw [length_padded some fits, length_padded some fits']
  rw [append_lt_append_iff size, padded_inj,
    digits_lt_digits_iff (fun _ => isDigit_of_mem_padded) (fun _ => isDigit_of_mem_padded) size,
    ofDigitChars_padded, ofDigitChars_padded]

/-- Numbers of one width are written in their own order. -/
theorem padded_lt_iff (some : 0 < width) (fits : m < 10 ^ width) (fits' : n < 10 ^ width) :
    padded width m < padded width n ↔ m < n := by
  have alone : padded width m ++ [] < padded width n ++ [] ↔ m < n ∨ m = n ∧ [] < [] :=
    padded_append_lt_iff some fits fits'
  simpa using alone

end

end ClusterSchema.Text.Numeral
