import ClusterSchema.Text.Blank
import Mathlib.Data.List.DropRight

/-!
# What trimming leaves

`Trimmed` says what is left of a text without the blanks around it, apart from any way to find it:
nothing but blanks has gone, and neither end is a blank.  There is one such rest, and `trimChars`
finds it.

* `trimEndChars_eq_rdropWhile`  blanks are removed from the end as from the start
* `trimChars_eq_iff`            trimming leaves the one rest without a blank at either end
* `trim_eq_empty_iff`           nothing is left of blanks alone
* `trimChars_eq_self_iff`       trimming keeps a text as it is if neither end is a blank
* `tight_map_toLower_iff`       small letters make no difference to that
-/

namespace ClusterSchema.Text

/-- The rest of a text without the blanks at its start and at its end. -/
def Trimmed (text core : List Char) : Prop :=
  ∃ before after, text = before ++ core ++ after ∧
    (∀ c ∈ before, isBlank c = true) ∧ (∀ c ∈ after, isBlank c = true) ∧
    (∀ c ∈ core.head?, isBlank c = false) ∧ ∀ c ∈ core.getLast?, isBlank c = false

/-- Blanks are removed from the end as `List.rdropWhile` removes a class of items. -/
theorem trimEndChars_eq_rdropWhile (text : List Char) :
    trimEndChars text = text.rdropWhile isBlank := by
  induction text with
  | nil => rfl
  | cons c rest ih =>
    -- the first character can go only when everything behind it has gone
    rw [trimEndChars, ih, List.rdropWhile, List.rdropWhile, List.reverse_cons,
      List.dropWhile_append]
    cases kept : rest.reverse.dropWhile isBlank with
    | nil =>
      cases blank : isBlank c <;> simp [blank]
    | cons d others =>
      change _ = (d :: others ++ [c]).reverse
      rw [List.reverse_append]
      cases back : (d :: others).reverse with
      | nil => simp at back
      | cons e later => rfl

/-- What dropping a class of items from the start leaves. -/
private theorem dropWhile_eq_iff {α : Type} {gone : α → Bool} {items rest : List α} :
    items.dropWhile gone = rest ↔
      ∃ front, items = front ++ rest ∧ (∀ x ∈ front, gone x = true) ∧
        ∀ x ∈ rest.head?, gone x = false := by
  constructor
  · rintro rfl
    -- what is dropped is the longest front of the class
    refine ⟨items.takeWhile gone, List.takeWhile_append_dropWhile.symm,
      fun x member => List.mem_takeWhile_imp member, fun x first => ?_⟩
    have kept := List.head?_dropWhile_not gone items
    rw [Option.mem_def.mp first] at kept
    exact kept
  · rintro ⟨front, rfl, all, first⟩
    rw [List.dropWhile_append_of_pos all]
    cases rest with
    | nil => rfl
    | cons x others => exact List.dropWhile_cons_of_neg (by simp [first x rfl])

/-- What trimming the end leaves. -/
private theorem trimEndChars_eq_iff {text core : List Char} :
    trimEndChars text = core ↔
      ∃ after, text = core ++ after ∧ (∀ c ∈ after, isBlank c = true) ∧
        ∀ c ∈ core.getLast?, isBlank c = false := by
  rw [trimEndChars_eq_rdropWhile, List.rdropWhile, List.reverse_eq_iff, dropWhile_eq_iff,
    List.head?_reverse]
  -- the blanks at the end are those at the start of the text read backwards
  constructor
  · rintro ⟨front, whole, blank, last⟩
    refine ⟨front.reverse, ?_, by simpa using blank, last⟩
    rw [← List.reverse_inj, whole, List.reverse_append, List.reverse_reverse]
  · rintro ⟨after, rfl, blank, last⟩
    exact ⟨after.reverse, List.reverse_append, by simpa using blank, last⟩

/-- Trimming leaves the one rest that has no blank at either end. -/
theorem trimChars_eq_iff {text core : List Char} : trimChars text = core ↔ Trimmed text core := by
  rw [trimChars, trimEndChars_eq_iff]
  constructor
  · rintro ⟨after, kept, blankAfter, last⟩
    obtain ⟨before, whole, blankBefore, first⟩ := dropWhile_eq_iff.mp kept
    rw [← List.append_assoc] at whole
    refine ⟨before, after, whole, blankBefore, blankAfter, fun c isFirst => first c ?_, last⟩
    rw [List.head?_append, Option.mem_def.mp isFirst]
    rfl
  · rintro ⟨before, after, whole, blankBefore, blankAfter, first, last⟩
    rw [List.append_assoc] at whole
    -- the front is dropped first, and it ends at the first character of the rest
    cases core with
    | nil =>
      -- nothing but blanks, and all of them go at the start
      refine ⟨[], dropWhile_eq_iff.mpr ⟨before ++ after, by simpa using whole, ?_, by simp⟩,
        by simp, last⟩
      exact List.forall_mem_append.mpr ⟨blankBefore, blankAfter⟩
    | cons c others => exact ⟨after, dropWhile_eq_iff.mpr ⟨before, whole, blankBefore, first⟩,
        blankAfter, last⟩

/-- The same for texts as they stand. -/
theorem trim_eq_iff {text core : String} : trim text = core ↔ Trimmed text.toList core.toList := by
  rw [← trimChars_eq_iff, trim, ← String.toList_inj, String.toList_ofList]

/-- Nothing is left of a text if and only if it is blank. -/
theorem trim_eq_empty_iff {text : String} :
    trim text = "" ↔ ∀ c ∈ text.toList, isBlank c = true := by
  rw [trim, ← String.ofList_nil, String.ofList_inj, trimChars_eq_iff]
  constructor
  · rintro ⟨before, after, whole, blankBefore, blankAfter, -⟩
    rw [whole, List.append_nil]
    exact List.forall_mem_append.mpr ⟨blankBefore, blankAfter⟩
  · intro blank
    exact ⟨text.toList, [], by simp, blank, by simp, by simp, by simp⟩

/-! ## Texts without blanks around them -/

/-- A text has no blank at either end. -/
def Tight (text : List Char) : Prop :=
  (∀ c ∈ text.head?, isBlank c = false) ∧ ∀ c ∈ text.getLast?, isBlank c = false

instance (text : List Char) : Decidable (Tight text) :=
  decidable_of_iff
    ((text.head?.all (!isBlank ·)) = true ∧ (text.getLast?.all (!isBlank ·)) = true) <| by
      simp only [Option.all_eq_true, Bool.not_eq_true', Tight, Option.mem_def]

/-- What trimming leaves has no blank at either end. -/
theorem Trimmed.tight {text core : List Char} (trimmed : Trimmed text core) : Tight core := by
  obtain ⟨before, after, -, -, -, first, last⟩ := trimmed
  exact ⟨first, last⟩

/-- Trimming keeps exactly the texts without a blank at either end. -/
theorem trimChars_eq_self_iff {text : List Char} : trimChars text = text ↔ Tight text := by
  rw [trimChars_eq_iff]
  constructor
  · exact Trimmed.tight
  · rintro ⟨first, last⟩
    exact ⟨[], [], by simp, by simp, by simp, first, last⟩

/-- Trimming the end does not touch a first character that is no blank. -/
theorem trimEndChars_cons_of_not_blank {c : Char} (kept : isBlank c = false) (rest : List Char) :
    trimEndChars (c :: rest) = c :: trimEndChars rest := by
  rw [trimEndChars]
  -- the character stays even if everything behind it goes
  cases later : trimEndChars rest with
  | nil => simp [kept]
  | cons d others => rfl

/-- A text that does not start with a blank is trimmed by trimming its end. -/
theorem trimEndChars_of_head? {text : List Char} (first : ∀ c ∈ text.head?, isBlank c = false) :
    trimEndChars text = trimChars text := by
  rw [trimChars]
  cases text with
  | nil => rfl
  | cons c rest => rw [List.dropWhile_cons_of_neg (by simp [first c rfl])]

/-- Trimming the end of a text that is not blank leaves what stands in front. -/
theorem head?_trimEndChars {text : List Char} (something : trimChars text ≠ []) :
    (trimEndChars text).head? = text.head? := by
  cases text with
  | nil => rfl
  | cons c rest =>
    by_cases blank : isBlank c = true
    · -- behind a blank there is something else, which the blank is kept for
      rw [trimChars, List.dropWhile_cons_of_pos blank] at something
      have later : trimEndChars rest ≠ [] := by
        intro nothing
        obtain ⟨after, whole, all, -⟩ := trimEndChars_eq_iff.mp nothing
        rw [List.nil_append] at whole
        rw [List.dropWhile_eq_nil_iff.mpr (whole ▸ all)] at something
        exact something rfl
      rw [trimEndChars]
      split
      · rename_i nothing
        exact absurd nothing later
      · rfl
    · rw [trimEndChars_cons_of_not_blank (by simpa using blank)]
      rfl

/-! ## Small letters -/

/-- No letter is a blank, and nothing else between the letters is one. -/
theorem isBlank_eq_false_of_letter {c : Char} (least : 65 ≤ c.toNat) (most : c.toNat ≤ 122) :
    isBlank c = false := by
  grind [isBlank]

/-- A letter and its small letter are both no blanks, and nothing else has a small letter. -/
theorem isBlank_toLower (c : Char) : isBlank c.toLower = isBlank c := by
  by_cases capital : c.val ≥ 'A'.val ∧ c.val ≤ 'Z'.val
  · have range : 65 ≤ c.toNat ∧ c.toNat ≤ 90 := capital
    -- a small letter stands 32 places behind its capital
    have small : c.toLower.toNat = c.toNat + 32 := by
      have lower : c.toLower = ⟨c.val + 32, _⟩ := dif_pos capital
      rw [lower]
      show (c.val + 32).toNat = c.val.toNat + 32
      have fits : c.val.toNat + 32 < 2 ^ 32 := by
        show c.toNat + 32 < 2 ^ 32
        omega
      rw [UInt32.toNat_add]
      exact Nat.mod_eq_of_lt fits
    rw [isBlank_eq_false_of_letter (c := c) (by omega) (by omega),
      isBlank_eq_false_of_letter (c := c.toLower) (by omega) (by omega)]
  · have lower : c.toLower = c := dif_neg capital
    rw [lower]

/-- A text has blanks around it in small letters if and only if it has them as it stands. -/
theorem tight_map_toLower_iff {text : List Char} : Tight (text.map Char.toLower) ↔ Tight text := by
  simp [Tight, List.head?_map, List.getLast?_map, isBlank_toLower]

end ClusterSchema.Text
