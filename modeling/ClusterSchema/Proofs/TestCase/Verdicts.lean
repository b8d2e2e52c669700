import ClusterSchema.Proofs.Document.Records
import ClusterSchema.Proofs.TestCase.Filters
import ClusterSchema.Proofs.Text.Order

/-!
# What test cases say about a grammar

A case that counts passes if and only if its command compiles to the SQL that it expects, or does
not compile for the reason that it expects.  Every other case that counts fails, one that expects
both or neither included, and a suite lists the cases that fail.

* `compare_eq_passed_iff_sql`, `compare_eq_passed_iff_error`  which cases pass
* `exists_failed`             a case that counts passes or fails
* `suiteFailures_eq_map`      the failures of a suite, with names and reasons apart
* `mem_failedCases_iff`, `pairwise_failedCases`  which cases are listed, and in which order
* `verdicts_match_compiler`   cases and suites judge a grammar by what it compiles
-/

namespace ClusterSchema

open Text

variable {test : TestCase} {grammar : Grammar}

/-- A text, without the blanks around it, is the word for the feature that is missing or the whole
error in words. -/
def CompileError.NamedBy (error : CompileError) (expected : String) : Prop :=
  Trimmed expected.toList error.feature.id.toList ∨ Trimmed expected.toList error.message.toList

namespace TestCase

/-- An expected error is matched by its word or by its message, with any blanks around it. -/
theorem errorMatches_iff {error : CompileError} {expected : String} :
    errorMatches error expected = true ↔ error.NamedBy expected := by
  rw [CompileError.NamedBy, ← trim_eq_iff, ← trim_eq_iff, errorMatches, Bool.or_eq_true,
    beq_iff_eq, beq_iff_eq, eq_comm, @eq_comm _ error.message]

/-! ## Single cases -/

section

variable {outcome : Except CompileError String}

/-- A case that expects SQL passes if and only if it is the SQL that comes out. -/
theorem compare_eq_passed_iff_sql {sql : String} (wanted : test.sql = some sql)
    (alone : test.error = none) : test.compare outcome = .passed ↔ outcome = .ok sql := by
  simp only [compare, wanted, alone]
  cases outcome with
  | error error => simp
  | ok actual => by_cases same : actual = sql <;> simp [same]

/-- A case that expects an error passes if and only if an error comes out that it names. -/
theorem compare_eq_passed_iff_error {expected : String} (alone : test.sql = none)
    (wanted : test.error = some expected) :
    test.compare outcome = .passed ↔
      ∃ error, outcome = .error error ∧ error.NamedBy expected := by
  simp only [compare, wanted, alone]
  cases outcome with
  | ok actual => simp
  | error error =>
    simp only [Except.error.injEq, exists_eq_left', ← errorMatches_iff]
    by_cases named : errorMatches error expected = true <;> simp [named]

/-- A case that expects both or neither fails whatever comes out. -/
theorem compare_of_both_or_neither (unclear : test.sql.isSome = test.error.isSome)
    (outcome : Except CompileError String) : ∃ reason, test.compare outcome = .failed reason := by
  unfold compare
  -- the branches in which only one of the two is expected are against the hypothesis
  split
  · exact ⟨_, rfl⟩
  · exact ⟨_, rfl⟩
  · simp_all
  · simp_all

end

/-- A case that counts is judged by what its command compiles to. -/
theorem run_of_matches (counts : matchesDialect test.dialect grammar.name = true) :
    test.run grammar = test.compare (grammar.compile test.command test.table) := by
  rw [run, if_pos counts]

/-- A case that counts and does not pass fails. -/
theorem exists_failed (counts : matchesDialect test.dialect grammar.name = true)
    (missed : test.run grammar ≠ .passed) : ∃ reason, test.run grammar = .failed reason := by
  cases result : test.run grammar with
  | passed => exact absurd result missed
  | failed reason => exact ⟨reason, rfl⟩
  | skipped reason =>
    rw [run_of_matches counts] at result
    exact absurd result (compare_ne_skipped test _ reason)

end TestCase

/-! ## Suites -/

/-- Why a case failed, if it failed. -/
def TestResult.reason? : TestResult → Option String
  | failed reason => some reason
  | passed | skipped _ => none

/-- Only a failure has a reason. -/
theorem TestResult.reason?_eq_some_iff {result : TestResult} {reason : String} :
    result.reason? = some reason ↔ result = .failed reason := by
  cases result <;> simp [reason?]

/-- The line of a failure is the name of the case, a colon and the reason. -/
theorem TestResult.failureLine?_eq_map (name : String) (result : TestResult) :
    result.failureLine? name = result.reason?.map (name ++ ": " ++ ·) := by
  cases result <;> rfl

/-- The names of the cases that fail, with the reasons. -/
def failedCases (grammar : Grammar) (cases : NameMap TestCase) : List (String × String) :=
  cases.entries.filterMap fun entry => (entry.2.run grammar).reason?.map (entry.1, ·)

section

variable {cases : NameMap TestCase} {name reason : String}

/-- The lines of a suite are those of the cases that fail. -/
theorem suiteFailures_eq_map (grammar : Grammar) (cases : NameMap TestCase) :
    suiteFailures grammar cases =
      (failedCases grammar cases).map fun failed => failed.1 ++ ": " ++ failed.2 := by
  rw [failedCases, List.map_filterMap, suiteFailures]
  congr 1
  funext entry
  rw [TestResult.failureLine?_eq_map, Option.map_map]
  rfl

/-- The cases that fail are those of the map that fail, with their own reasons. -/
theorem mem_failedCases_iff :
    (name, reason) ∈ failedCases grammar cases ↔
      ∃ test, cases.get? name = some test ∧ test.run grammar = .failed reason := by
  simp only [failedCases, List.mem_filterMap, Option.map_eq_some_iff, Prod.mk.injEq,
    TestResult.reason?_eq_some_iff, NameMap.get?_eq_some_iff, Prod.exists]
  constructor
  · rintro ⟨_, test, member, _, failed, rfl, rfl⟩
    exact ⟨test, member, failed⟩
  · rintro ⟨test, member, failed⟩
    exact ⟨name, test, member, reason, failed, rfl, rfl⟩

/-- The cases that fail are listed as the map lists them, in byte order of the names. -/
theorem pairwise_failedCases (grammar : Grammar) (cases : NameMap TestCase) :
    (failedCases grammar cases).Pairwise fun a b => bytes a.1 < bytes b.1 := by
  have sorted : cases.entries.Pairwise fun a b => a.1 < b.1 := List.pairwise_map.mp cases.sorted
  -- leaving cases out and adding reasons does not touch the names or their order
  rw [failedCases, List.pairwise_filterMap]
  refine sorted.imp fun {a b} before first isFirst later isLater => ?_
  obtain ⟨_, -, rfl⟩ := Option.map_eq_some_iff.mp isFirst
  obtain ⟨_, -, rfl⟩ := Option.map_eq_some_iff.mp isLater
  exact bytes_lt_bytes before

/-- A suite has no failure if and only if every case passes or does not count. -/
theorem suiteFailures_eq_nil_iff :
    suiteFailures grammar cases = [] ↔
      ∀ name test, cases.get? name = some test →
        test.run grammar = .passed ∨ test.Skips grammar := by
  rw [suiteFailures_eq_map, List.map_eq_nil_iff, List.eq_nil_iff_forall_not_mem]
  constructor
  · intro none name test found
    -- a case that neither passes nor is skipped would be listed
    cases result : test.run grammar with
    | passed => exact .inl rfl
    | skipped reason => exact .inr ⟨reason, result⟩
    | failed reason => exact absurd (mem_failedCases_iff.mpr ⟨test, found, result⟩) (none _)
  · rintro fine ⟨name, reason⟩ member
    obtain ⟨test, found, failed⟩ := mem_failedCases_iff.mp member
    rcases fine name test found with passed | ⟨_, skipped⟩
    · simp [passed] at failed
    · simp [skipped] at failed

end

/-- A case that counts passes exactly when the compiler does what the case expects, and fails
otherwise.  A suite gives one line for each case that fails, in byte order of the names, and no line
if and only if each case passes or does not count. -/
theorem verdicts_match_compiler (grammar : Grammar) :
    (∀ test : TestCase, matchesDialect test.dialect grammar.name = true →
      (∀ sql, test.sql = some sql → test.error = none →
        (test.run grammar = .passed ↔ grammar.compile test.command test.table = .ok sql)) ∧
      (∀ expected, test.sql = none → test.error = some expected →
        (test.run grammar = .passed ↔
          ∃ error, grammar.compile test.command test.table = .error error ∧
            error.NamedBy expected)) ∧
      (test.sql.isSome = test.error.isSome → ∃ reason, test.run grammar = .failed reason) ∧
      (test.run grammar ≠ .passed → ∃ reason, test.run grammar = .failed reason)) ∧
    ∀ cases : NameMap TestCase,
      (∃ failed : List (String × String),
        suiteFailures grammar cases = failed.map (fun entry => entry.1 ++ ": " ++ entry.2) ∧
        failed.Pairwise (fun a b => bytes a.1 < bytes b.1) ∧
        ∀ name reason, (name, reason) ∈ failed ↔
          ∃ test, cases.get? name = some test ∧ test.run grammar = .failed reason) ∧
      (suiteFailures grammar cases = [] ↔
        ∀ name test, cases.get? name = some test →
          test.run grammar = .passed ∨ test.Skips grammar) := by
  constructor
  · intro test counts
    -- the case counts, so the verdict is the comparison alone
    have compared := TestCase.run_of_matches counts
    refine ⟨?_, ?_, fun unclear => ?_, TestCase.exists_failed counts⟩
    · intro sql wanted alone
      rw [compared]
      exact TestCase.compare_eq_passed_iff_sql wanted alone
    · intro expected alone wanted
      rw [compared]
      exact TestCase.compare_eq_passed_iff_error alone wanted
    · rw [compared]
      exact TestCase.compare_of_both_or_neither unclear _
  · intro cases
    have listed := suiteFailures_eq_map grammar cases
    have ordered := pairwise_failedCases grammar cases
    exact ⟨⟨_, listed, ordered, fun name reason => mem_failedCases_iff⟩, suiteFailures_eq_nil_iff⟩

/-- A case that expects the missing feature by its word, wherever the dialect is not PostgreSQL. -/
def fulltextCase : TestCase where
  table := TableReference.named "pages"
  command := .createFulltext { name := "pages_body", columns := ["body"] }
  error := some " fulltext "
  dialect := some "!postgres"

/-- In CockroachDB the case passes, and fails as soon as it expects SQL as well; in PostgreSQL it
does not count. -/
theorem fulltextCase_verdicts :
    (matchesDialect fulltextCase.dialect "cockroachdb" = true ∧
      fulltextCase.run { dialect := .cockroach } = .passed ∧
      ∃ reason, { fulltextCase with sql := some "" }.run { dialect := .cockroach } =
        .failed reason) ∧
    suiteFailures { dialect := .postgres } (NameMap.empty.insert "pages" fulltextCase) = [] := by
  have counts : matchesDialect fulltextCase.dialect "cockroachdb" = true := by decide
  have alone := (verdicts_match_compiler { dialect := .cockroach }).1 fulltextCase counts
  have word : Trimmed " fulltext ".toList Feature.fulltext.id.toList := trim_eq_iff.mp (by decide)
  have both := (verdicts_match_compiler { dialect := .cockroach }).1
    { fulltextCase with sql := some "" } counts
  refine ⟨⟨counts, (alone.2.1 _ rfl rfl).mpr ⟨_, rfl, .inl word⟩, both.2.2.1 rfl⟩, ?_⟩
  -- in PostgreSQL the only case of the suite does not count
  refine ((verdicts_match_compiler { dialect := .postgres }).2 _).2.mpr fun name test found => ?_
  right
  rw [TestCase.skips_iff]
  by_cases same : name = "pages"
  · rw [same, NameMap.get?_insert_self] at found
    cases found
    decide
  · rw [NameMap.get?_insert_of_ne _ same] at found
    cases found

end ClusterSchema
