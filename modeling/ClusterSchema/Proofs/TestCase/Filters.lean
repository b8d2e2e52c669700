import ClusterSchema.Proofs.Text.Trimming
import ClusterSchema.TestCase

/-!
# Dialect filters

A filter names the dialect in which a case counts, or with a mark in front the one in which it does
not.  Blanks around the name do not count, except between the mark and the name: there they belong
to the name, so that no dialect is excluded.

* `matchesDialect_of_names`   what a filter without a mark asks for
* `matchesDialect_marked`     what a filter with a mark excludes
* `marked_filter_negates_iff` when the mark negates a filter
-/

namespace ClusterSchema

open Text

variable {filter current : String}

/-- A filter without a mark asks for the dialect whose name is left between its blanks. -/
theorem matchesDialect_of_names (something : trim filter ≠ "")
    (unmarked : (trim filter).toList.head? ≠ some '!') :
    matchesDialect (some filter) current = decide (trim filter = current) := by
  have chars : (trim filter).toList = trimChars filter.toList := String.toList_ofList
  rw [chars] at unmarked
  unfold matchesDialect
  dsimp only
  -- neither of the first two branches can be taken: the filter is not blank and has no mark
  split
  · rename_i nothing
    refine absurd ?_ something
    rw [trim, nothing, String.ofList_nil]
  · rename_i excluded marked
    rw [marked] at unmarked
    exact absurd rfl unmarked
  · rfl

/-- A filter with a mark excludes the dialect named by everything between the mark and the blanks at
the end. -/
theorem matchesDialect_marked (filter current : String) :
    matchesDialect (some ("!" ++ filter)) current =
      decide (String.ofList (trimEndChars filter.toList) ≠ current) := by
  have mark : isBlank '!' = false := rfl
  have shape : ("!" ++ filter).toList = '!' :: filter.toList := by simp
  -- the mark is no blank, so nothing is removed behind it
  have trimmed : trimChars ("!" ++ filter).toList = '!' :: trimEndChars filter.toList := by
    rw [shape, ← trimEndChars_of_head? (by simp [mark]), trimEndChars_cons_of_not_blank mark]
  rw [matchesDialect]
  simp only [trimmed]

/-- A text starts with a blank. -/
def StartsBlank (text : String) : Prop := ∃ c ∈ text.toList.head?, isBlank c = true

/-- Without a blank behind the mark, the name that is excluded is the one that the filter asks for
without the mark. -/
theorem matchesDialect_marked_of_clean (clean : ¬ StartsBlank filter) :
    matchesDialect (some ("!" ++ filter)) current = decide (trim filter ≠ current) := by
  have first : ∀ c ∈ filter.toList.head?, isBlank c = false := by
    intro c isFirst
    by_cases blank : isBlank c = true
    · exact absurd ⟨c, isFirst, blank⟩ clean
    · simpa using blank
  rw [matchesDialect_marked, trimEndChars_of_head? first, trim]

/-- A blank behind the mark makes the filter exclude nothing that is a name of a dialect. -/
theorem matchesDialect_marked_of_startsBlank (something : trim filter ≠ "")
    (blank : StartsBlank filter) (tight : Tight current.toList) :
    matchesDialect (some ("!" ++ filter)) current = true := by
  obtain ⟨c, isFirst, isBlank⟩ := blank
  have rest : trimChars filter.toList ≠ [] := by
    intro nothing
    refine something ?_
    rw [trim, nothing, String.ofList_nil]
  rw [matchesDialect_marked, decide_eq_true_eq]
  -- the excluded name would have to start with a blank
  rintro rfl
  rw [String.toList_ofList] at tight
  have visible := tight.1 c (by rw [head?_trimEndChars rest]; exact isFirst)
  rw [isBlank] at visible
  cases visible

/-! ## Cases that are skipped -/

namespace TestCase

/-- A case does not count in a grammar. -/
def Skips (test : TestCase) (grammar : Grammar) : Prop :=
  ∃ reason, test.run grammar = .skipped reason

/-- Comparing an outcome with what is expected never skips the case. -/
theorem compare_ne_skipped (test : TestCase) (outcome : Except CompileError String)
    (reason : String) : test.compare outcome ≠ .skipped reason := by
  unfold compare
  -- one branch for each way in which SQL and error can be expected
  split
  · exact nofun
  · exact nofun
  · split
    · split <;> exact nofun
    · exact nofun
  · split
    · exact nofun
    · split <;> exact nofun

/-- A case is skipped if and only if its filter does not match the dialect. -/
theorem skips_iff {test : TestCase} {grammar : Grammar} :
    test.Skips grammar ↔ matchesDialect test.dialect grammar.name = false := by
  unfold Skips run
  cases counts : matchesDialect test.dialect grammar.name with
  | false => simp
  | true => simp [compare_ne_skipped]

end TestCase

/-! ## Marks -/

/-- A mark negates a filter, unless there is a blank between it and the very name of the dialect.
Then the case counts with the mark as well as without it.  So of the two filters exactly one skips a
case, with the same exception. -/
theorem marked_filter_negates_iff (something : trim filter ≠ "")
    (unmarked : (trim filter).toList.head? ≠ some '!') (named : current ≠ "")
    (tight : Tight current.toList) :
    (matchesDialect (some ("!" ++ filter)) current = !matchesDialect (some filter) current ↔
      ¬ (StartsBlank filter ∧ trim filter = current)) ∧
    (StartsBlank filter ∧ trim filter = current →
      matchesDialect (some ("!" ++ filter)) current = true ∧
        matchesDialect (some filter) current = true) ∧
    ∀ (test : TestCase) (grammar : Grammar), grammar.name = current →
      (({ test with dialect := some ("!" ++ filter) }.Skips grammar ↔
          ¬ { test with dialect := some filter }.Skips grammar) ↔
        ¬ (StartsBlank filter ∧ trim filter = current)) := by
  have plain : matchesDialect (some filter) current = decide (trim filter = current) :=
    matchesDialect_of_names something unmarked
  have negates : matchesDialect (some ("!" ++ filter)) current =
      !matchesDialect (some filter) current ↔ ¬ (StartsBlank filter ∧ trim filter = current) := by
    rw [plain]
    -- with a blank behind the mark the marked filter matches always, the plain one only its name
    by_cases blank : StartsBlank filter
    · rw [matchesDialect_marked_of_startsBlank something blank tight]
      simp [blank]
    · rw [matchesDialect_marked_of_clean blank]
      simp [blank]
  refine ⟨negates, ?_, ?_⟩
  · rintro ⟨blank, same⟩
    exact ⟨matchesDialect_marked_of_startsBlank something blank tight, by rw [plain]; simp [same]⟩
  · rintro test grammar rfl
    rw [← negates, TestCase.skips_iff, TestCase.skips_iff]
    -- what remains is about two truth values
    cases matchesDialect (some ("!" ++ filter)) grammar.name <;>
      cases matchesDialect (some filter) grammar.name <;> simp

/-- A filter that ends with a blank is negated by the mark, and one that starts with a blank is
not. -/
theorem marked_filter_negates_blanks :
    (trim "postgres " ≠ "" ∧ (trim "postgres ").toList.head? ≠ some '!' ∧
      Tight "postgres".toList ∧
      matchesDialect (some ("!" ++ "postgres ")) "postgres" =
        !matchesDialect (some "postgres ") "postgres") ∧
    StartsBlank " postgres" ∧ matchesDialect (some ("!" ++ " postgres")) "postgres" = true := by
  have something : trim "postgres " ≠ "" := by decide
  have unmarked : (trim "postgres ").toList.head? ≠ some '!' := by decide
  have tight : Tight "postgres".toList := by decide
  have clean : ¬ StartsBlank "postgres " := by
    rintro ⟨c, first, blank⟩
    obtain rfl : 'p' = c := by simpa using first
    cases blank
  have blank : StartsBlank " postgres" := ⟨' ', rfl, rfl⟩
  refine ⟨⟨something, unmarked, tight, ?_⟩, blank, ?_⟩
  · exact (marked_filter_negates_iff something unmarked (by decide) tight).1.mpr fun h => clean h.1
  · have both : StartsBlank " postgres" ∧ trim " postgres" = "postgres" →
        matchesDialect (some ("!" ++ " postgres")) "postgres" = true ∧
          matchesDialect (some " postgres") "postgres" = true :=
      (marked_filter_negates_iff (by decide) (by decide) (by decide) tight).2.1
    exact (both ⟨blank, by decide⟩).1

/-- Not every filter is negated by a mark: with a blank behind the mark, the dialect that is to be
excluded matches all the same. -/
theorem marked_blank_not_negated :
    ¬ ∀ filter current : String, trim filter ≠ "" → (trim filter).toList.head? ≠ some '!' →
      current ≠ "" → Tight current.toList →
      (matchesDialect (some ("!" ++ filter)) current = true ↔
        matchesDialect (some filter) current = false) := by
  intro negated
  have asked : matchesDialect (some " postgres") "postgres" = true := by decide
  have excluded : matchesDialect (some ("!" ++ " postgres")) "postgres" = true := by decide
  have refused := (negated " postgres" "postgres" (by decide) (by decide) (by decide)
    (by decide)).mp excluded
  rw [asked] at refused
  cases refused

end ClusterSchema
