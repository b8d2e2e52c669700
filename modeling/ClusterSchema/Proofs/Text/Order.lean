import Mathlib.Data.List.Basic
import Mathlib.Tactic.SplitIfs

/-!
# The order of texts

Texts are compared by the code points of their characters, from the first on.  Written as UTF-8,
they are in the same order by their bytes.

* `append_lt_append_iff`  heads of one length are compared before what follows them
* `bytes_lt_iff`          texts are in the order of their bytes
-/

namespace ClusterSchema.Text

/-- The first difference decides, and in heads of one length it comes before what follows them. -/
theorem append_lt_append_iff {α : Type} [LT α] [Std.Irrefl (fun a b : α => a < b)]
    {head other rest others : List α} (size : head.length = other.length) :
    head ++ rest < other ++ others ↔ head < other ∨ head = other ∧ rest < others := by
  induction head generalizing other with
  | nil =>
    have empty : other = [] := List.eq_nil_of_length_eq_zero size.symm
    simp [empty]
  | cons a tail ih =>
    cases other with
    | nil => cases size
    | cons b tail' =>
      have step := ih (Nat.succ.inj size)
      simp only [List.cons_append, List.cons_lt_cons_iff, List.cons.injEq, step]
      grind

/-- Of two different texts one comes first. -/
theorem lt_or_eq_or_gt (text other : List Char) : text < other ∨ text = other ∨ other < text := by
  by_cases before : text < other
  · exact .inl before
  · right
    rcases List.le_iff_lt_or_eq.mp (List.not_lt.mp before) with after | same
    · exact .inr after
    · exact .inl same.symm

/-! ## Bytes -/

/-- The bytes of a text. -/
def bytes (text : String) : List UInt8 := text.toByteArray.data.toList

/-- The bytes of a text are those of its characters, one after the other. -/
theorem bytes_eq_flatMap (text : String) :
    bytes text = text.toList.flatMap String.utf8EncodeChar := by
  rw [bytes, ← String.utf8Encode_toList, List.utf8Encode, List.toList_data_toByteArray]

/-- Every character has a byte at least. -/
theorem utf8EncodeChar_ne_nil (c : Char) : String.utf8EncodeChar c ≠ [] := by
  unfold String.utf8EncodeChar
  dsimp only
  -- one to four bytes, by the size of the code point
  split
  · exact List.cons_ne_nil _ _
  · split
    · exact List.cons_ne_nil _ _
    · split <;> exact List.cons_ne_nil _ _

/-- Numbers that fit into a byte are in the same order as bytes. -/
theorem ofNat_lt_ofNat_iff {m n : Nat} (fits : m < 256) (fits' : n < 256) :
    UInt8.ofNat m < UInt8.ofNat n ↔ m < n := by
  rw [UInt8.lt_iff_toNat_lt, UInt8.toNat_ofNat_of_lt' fits, UInt8.toNat_ofNat_of_lt' fits']

/-- Numbers that fit into a byte differ as bytes if they differ. -/
theorem ofNat_eq_ofNat_iff {m n : Nat} (fits : m < 256) (fits' : n < 256) :
    UInt8.ofNat m = UInt8.ofNat n ↔ m = n := by
  rw [← UInt8.toNat_inj, UInt8.toNat_ofNat_of_lt' fits, UInt8.toNat_ofNat_of_lt' fits']

/-- The last of the digits in base 64 counts least. -/
theorem lt_iff_of_digits {m n : Nat} :
    m < n ↔ m / 64 < n / 64 ∨ m / 64 = n / 64 ∧ m % 64 < n % 64 := by
  omega

/-- The bytes of a smaller character are smaller, whatever follows.  A character with fewer bytes
has a smaller first byte, and among characters with the same number of bytes each byte counts more
than all behind it. -/
theorem utf8EncodeChar_append_lt {c d : Char} (before : c < d) (rest others : List UInt8) :
    String.utf8EncodeChar c ++ rest < String.utf8EncodeChar d ++ others := by
  have smaller : c.val.toNat < d.val.toNat := UInt32.lt_iff_toNat_lt.mp (Char.lt_def.mp before)
  have bound : d.val.toNat < 0x110000 := by
    have valid : d.val.toNat.isValidChar := d.valid
    unfold Nat.isValidChar at valid
    omega
  -- the bytes are digits in base 64, which `Nat.div_div_eq_div_mul` takes off one by one
  have digit₂ (x : Nat) : x / 4096 = x / 64 / 64 := (Nat.div_div_eq_div_mul x 64 64).symm
  have digit₃ (x : Nat) : x / 262144 = x / 64 / 64 / 64 := by
    rw [Nat.div_div_eq_div_mul, Nat.div_div_eq_div_mul]
  unfold String.utf8EncodeChar
  dsimp only
  generalize c.val.toNat = m at smaller
  generalize d.val.toNat = n at smaller bound
  have order₁ := lt_iff_of_digits (m := m) (n := n)
  have order₂ := lt_iff_of_digits (m := m / 64) (n := n / 64)
  have order₃ := lt_iff_of_digits (m := m / 64 / 64) (n := n / 64 / 64)
  -- one case for each pair of lengths; in the impossible ones the smaller number is the longer one
  split_ifs <;>
    simp (disch := omega) only [List.cons_append, List.nil_append, List.cons_lt_cons_iff,
      ofNat_lt_ofNat_iff, ofNat_eq_ofNat_iff, digit₂, digit₃] <;>
    omega

/-- The characters of a smaller text have the smaller bytes. -/
theorem flatMap_utf8EncodeChar_lt {text other : List Char} (before : text < other) :
    text.flatMap String.utf8EncodeChar < other.flatMap String.utf8EncodeChar := by
  induction text generalizing other with
  | nil =>
    cases other with
    | nil => cases before
    | cons d others =>
      -- the shorter text ends where the other one still has a byte
      obtain ⟨first, tail, shape⟩ := List.exists_cons_of_ne_nil (utf8EncodeChar_ne_nil d)
      rw [List.flatMap_nil, List.flatMap_cons, shape]
      exact List.nil_lt_cons _ _
  | cons c rest ih =>
    cases other with
    | nil => cases before
    | cons d others =>
      rw [List.flatMap_cons, List.flatMap_cons]
      rcases List.cons_lt_cons_iff.mp before with smaller | ⟨rfl, later⟩
      · exact utf8EncodeChar_append_lt smaller _ _
      · exact List.append_left_lt (ih later)

/-- A smaller text has the smaller bytes. -/
theorem bytes_lt_bytes {text other : String} (before : text < other) :
    bytes text < bytes other := by
  rw [bytes_eq_flatMap, bytes_eq_flatMap]
  exact flatMap_utf8EncodeChar_lt (String.lt_iff.mp before)

/-- Texts are in the order of their bytes. -/
theorem bytes_lt_iff {text other : String} : bytes text < bytes other ↔ text < other := by
  refine ⟨fun before => ?_, bytes_lt_bytes⟩
  -- were the texts in another order, their bytes would be too
  rcases lt_or_eq_or_gt text.toList other.toList with smaller | same | greater
  · exact String.lt_iff.mpr smaller
  · rw [String.toList_inj.mp same] at before
    exact absurd before (List.lt_irrefl _)
  · have after := bytes_lt_bytes (String.lt_iff.mpr greater)
    exact absurd before (List.lt_asymm after)

/-- The same for texts that are given by their characters. -/
theorem bytes_ofList_lt_iff {text other : List Char} :
    bytes (String.ofList text) < bytes (String.ofList other) ↔ text < other := by
  rw [bytes_lt_iff, String.lt_iff, String.toList_ofList, String.toList_ofList]

end ClusterSchema.Text
