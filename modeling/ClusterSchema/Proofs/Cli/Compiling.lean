import ClusterSchema.Command.Yaml
import ClusterSchema.Proofs.Cli.Endings
import ClusterSchema.Proofs.Traversal

/-!
# What compiling prints

Compiling prints nothing before the whole input is known to be a list of entries, and then one
statement for each entry, in order, up to the first entry without SQL.

* `exists_compiled`        the entries that are printed, and the one at which printing stops
* `compileEntries_append`  what they print, whatever comes behind them
* `compile_prints`         the whole command, for every driver name, prefix and input
-/

namespace ClusterSchema.Cli

variable {grammar : Grammar} {entry : CommandEntry} {entries compiled : List CommandEntry}
  {sqls : List String} {error : CompileError}

/-- An entry's command, about the entry's own table, has this SQL. -/
def HasSql (grammar : Grammar) (entry : CommandEntry) (sql : String) : Prop :=
  grammar.compile entry.command entry.table = .ok sql

/-! ## One entry -/

/-- An entry with SQL prints its line, and those behind it print theirs. -/
theorem compileEntries_of_sql {sql : String} (isSql : HasSql grammar entry sql) :
    compileEntries grammar (entry :: entries) =
      (compileEntries grammar entries).after (statementLine sql) := by
  rw [compileEntries, isSql]

/-- An entry without SQL is the last that is looked at. -/
theorem compileEntries_of_error
    (failed : grammar.compile entry.command entry.table = .error error) :
    compileEntries grammar (entry :: entries) = .failure (.failed (.compile error)) := by
  rw [compileEntries, failed]

/-- An entry that fails has no SQL. -/
theorem not_hasSql_of_error
    (failed : grammar.compile entry.command entry.table = .error error) :
    ¬ ∃ sql, HasSql grammar entry sql := by
  rintro ⟨sql, isSql⟩
  rw [HasSql, failed] at isSql
  cases isSql

/-! ## All entries -/

/-- The first entries of a list are those that have SQL, and the one behind them has none. -/
theorem exists_compiled (grammar : Grammar) (entries : List CommandEntry) :
    ∃ compiled rest sqls, entries = compiled ++ rest ∧
      List.Forall₂ (HasSql grammar) compiled sqls ∧
      ∀ entry ∈ rest.head?, ∃ error, grammar.compile entry.command entry.table = .error error := by
  -- compiling them all either gives all the SQL or stops at the first without
  cases outcome : entries.mapM fun entry => grammar.compile entry.command entry.table with
  | ok sqls =>
    exact ⟨entries, [], sqls, (List.append_nil _).symm, mapM_eq_ok_iff_forall₂.mp outcome, by simp⟩
  | error error =>
    obtain ⟨compiled, entry, later, sqls, whole, each, failed⟩ := mapM_eq_error_iff.mp outcome
    exact ⟨compiled, entry :: later, sqls, whole, each, by simp [failed]⟩

/-- Entries with SQL print a line each before those behind them are looked at. -/
theorem compileEntries_append (each : List.Forall₂ (HasSql grammar) compiled sqls)
    (rest : List CommandEntry) :
    compileEntries grammar (compiled ++ rest) =
      (compileEntries grammar rest).after (String.join (sqls.map statementLine)) := by
  induction each with
  | nil => simp [Printed.after]
  | cons first _ ih =>
    rw [List.cons_append, compileEntries_of_sql first, ih]
    simp [Printed.after, String.append_assoc]

/-- Where every entry has SQL, a line is printed for each and nothing fails. -/
theorem compileEntries_of_all (each : List.Forall₂ (HasSql grammar) compiled sqls) :
    compileEntries grammar compiled = ⟨String.join (sqls.map statementLine), none⟩ := by
  have whole := compileEntries_append each []
  rw [List.append_nil] at whole
  simpa [compileEntries, Printed.success, Printed.after] using whole

/-- Entries behind one without SQL are not looked at, and the failure is that entry's. -/
theorem compileEntries_of_stop (each : List.Forall₂ (HasSql grammar) compiled sqls)
    (failed : grammar.compile entry.command entry.table = .error error) :
    compileEntries grammar (compiled ++ entry :: entries) =
      ⟨String.join (sqls.map statementLine), some (.failed (.compile error))⟩ := by
  have whole := compileEntries_append each (entry :: entries)
  rw [compileEntries_of_error failed] at whole
  simpa [Printed.failure, Printed.after] using whole

/-- Whether all entries have SQL depends on those behind the ones that have. -/
theorem forall_mem_append_iff (each : List.Forall₂ (HasSql grammar) compiled sqls)
    (rest : List CommandEntry) :
    (∀ entry ∈ compiled ++ rest, ∃ sql, HasSql grammar entry sql) ↔
      ∀ entry ∈ rest, ∃ sql, HasSql grammar entry sql := by
  induction each with
  | nil => rfl
  | @cons entry sql _ _ first _ ih =>
    rw [List.cons_append, List.forall_mem_cons, ih]
    exact and_iff_right ⟨sql, first⟩

/-- Compiling succeeds if and only if every entry has SQL. -/
theorem error_compileEntries_eq_none_iff :
    (compileEntries grammar entries).error = none ↔
      ∀ entry ∈ entries, ∃ sql, HasSql grammar entry sql := by
  obtain ⟨compiled, rest, sqls, rfl, each, stop⟩ := exists_compiled grammar entries
  rw [forall_mem_append_iff each]
  cases rest with
  | nil =>
    rw [List.append_nil, compileEntries_of_all each]
    simp
  -- the first of the rest has no SQL, so neither side can hold
  | cons entry later =>
    obtain ⟨error, failed⟩ := stop entry rfl
    rw [compileEntries_of_stop each failed]
    refine iff_of_false (by simp) fun all => ?_
    exact not_hasSql_of_error failed (all entry List.mem_cons_self)

/-! ## The result -/

/-- What `compile` prints, given what the text of an input lists.  An unknown driver is reported
before the input is read.  With a driver the input is read once; an input that cannot be read, or is
no list of entries, prints nothing.  Otherwise the entries in front of the first without SQL are
printed, each with the SQL that the driver's grammar with the prefix gives it, and the exit code
tells whether these are all. -/
theorem compile_prints {m : Type → Type} [Monad m] [LawfulMonad m]
    (parse : String → Except Cause (List CommandEntry))
    (read : Source → m (Except InputError String))
    (list : Driver → ConnectionConfig → ResolvePolicy → m Printed)
    (options : OptionValues) (input : String) :
    let name := options.driver.getD defaultDriver
    let source := Source.ofArgument input
    let run := Invocation.ending ⟨options, .compile input⟩ parse read list
    (DriverRegistry.standard.driver? name = none →
      ∃ ending, run = pure ending ∧ ending.Fails "" "config" (.unknownDriver name)) ∧
    ∀ driver, DriverRegistry.standard.driver? name = some driver →
      let grammar : Grammar :=
        { dialect := driver.dialect, tablePrefix := options.tablePrefix.getD "" }
      ∃ endingOf : Except InputError String → Ending,
        run = endingOf <$> read source ∧
        (∀ error, (endingOf (.error error)).Fails "" "io" (source.unreadable error)) ∧
        (∀ text error, parse text = .error error →
          (endingOf (.ok text)).Fails "" "input" (.notCommands error)) ∧
        ∀ text entries, parse text = .ok entries →
          ((endingOf (.ok text)).code = 0 ↔
            ∀ entry ∈ entries, ∃ sql, HasSql grammar entry sql) ∧
          ∃ compiled rest sqls, entries = compiled ++ rest ∧
            List.Forall₂ (HasSql grammar) compiled sqls ∧
            match rest with
            | [] => (endingOf (.ok text)).Succeeds (String.join (sqls.map (· ++ ";\n")))
            | entry :: _ => ∃ error,
                grammar.compile entry.command entry.table = .error error ∧
                (endingOf (.ok text)).Fails (String.join (sqls.map (· ++ ";\n"))) "compile"
                  (.failed (.compile error)) := by
  intro name source run
  constructor
  · intro unknown
    exact ⟨_, Invocation.ending_of_unknown unknown _, Ending.ofPrinted_failure "" _⟩
  -- how the run ends is a matter of what was read: nothing, no list, or a list of entries
  intro driver known grammar
  refine ⟨_, Invocation.ending_compile known input, fun error => ?_, fun text error noList => ?_,
    fun text entries isList => ⟨?_, ?_⟩⟩
  · show (Ending.ofPrinted (.failure (source.unreadable error))).Fails _ _ _
    cases source <;> exact Ending.ofPrinted_failure "" _
  · simp only [compileSource, compileText, noList]
    exact Ending.ofPrinted_failure "" _
  · simp only [compileSource, compileText, isList]
    rw [Ending.code_ofPrinted_eq_zero_iff]
    exact error_compileEntries_eq_none_iff
  · simp only [compileSource, compileText, isList]
    obtain ⟨compiled, rest, sqls, rfl, each, stop⟩ := exists_compiled grammar entries
    -- the entries that are printed are those in front of the first without SQL
    refine ⟨compiled, rest, sqls, rfl, each, ?_⟩
    cases rest with
    | nil =>
      show (Ending.ofPrinted (compileEntries grammar (compiled ++ []))).Succeeds _
      rw [List.append_nil, compileEntries_of_all each]
      exact Ending.ofPrinted_success _
    | cons entry later =>
      obtain ⟨error, failed⟩ := stop entry rfl
      refine ⟨error, failed, ?_⟩
      show (Ending.ofPrinted (compileEntries grammar (compiled ++ entry :: later))).Fails _ _ _
      rw [compileEntries_of_stop each failed]
      exact Ending.ofPrinted_failure _ _

/-- Two entries, of which CockroachDB has no SQL for the second. -/
def dropAndSearch : List CommandEntry :=
  [⟨⟨none, "a"⟩, .dropIndex ⟨"i"⟩⟩, ⟨⟨none, "b"⟩, .createFulltext ⟨"j", ["x"], none⟩⟩]

/-- The two entries as a text. -/
def dropAndSearchText : String :=
  "- table: a\n  command: [drop_index, i]\n" ++
    "- table: b\n  command: [create_fulltext_index, j, [x]]\n"

/-- Reads the text from every source, and remembers the sources. -/
def readNoting (source : Source) : StateM (List Source) (Except InputError String) := do
  modify (· ++ [source])
  return .ok dropAndSearchText

/-- An unknown driver is reported with nothing read, and a known one prints the first entry and
fails at the second. -/
theorem compile_prints_dropAndSearch :
    let list := fun _ _ _ => (pure (.success "") : StateM (List Source) Printed)
    let run := fun driver : String => Invocation.ending ⟨{ driver := some driver }, .compile "-"⟩
      CommandEntry.listOfYaml readNoting list []
    (∃ ending, run "mysql" = (ending, []) ∧ ending.Fails "" "config" (.unknownDriver "mysql")) ∧
      ∃ ending error, run "crdb" = (ending, [.stdin]) ∧ error.feature = .fulltext ∧
        ending.Fails "drop index \"a\"@\"i\" cascade;\n" "compile" (.failed (.compile error)) := by
  intro list run
  obtain ⟨unknown, -⟩ :=
    compile_prints CommandEntry.listOfYaml readNoting list { driver := some "mysql" } "-"
  obtain ⟨-, known⟩ :=
    compile_prints CommandEntry.listOfYaml readNoting list { driver := some "crdb" } "-"
  obtain ⟨ending, refused, reported⟩ := unknown (by decide +kernel)
  obtain ⟨endingOf, runs, -, -, onEntries⟩ := known .cockroach (by decide +kernel)
  have isList : CommandEntry.listOfYaml dropAndSearchText = .ok dropAndSearch := by
    have read : (CommandEntry.listOfYaml dropAndSearchText).toOption = some dropAndSearch := by
      decide +kernel
    revert read
    cases CommandEntry.listOfYaml dropAndSearchText <;> simp [Except.toOption]
  obtain ⟨-, compiled, rest, sqls, whole, each, ends⟩ := onEntries _ _ isList
  refine ⟨⟨ending, congrFun refused [], reported⟩, endingOf (.ok dropAndSearchText), ?_⟩
  -- one entry is in front of the first without SQL: the first has SQL, and the second has none
  rcases compiled with _ | ⟨first, _ | ⟨second, others⟩⟩
  · obtain rfl : dropAndSearch = rest := whole
    obtain ⟨error, failed, -⟩ := ends
    cases failed
  · obtain ⟨rfl, rfl⟩ := List.cons.inj whole
    obtain ⟨error, failed, fails⟩ := ends
    obtain ⟨sql, _, isSql, none, rfl⟩ := List.forall₂_cons_left_iff.mp each
    cases none
    cases isSql
    cases failed
    exact ⟨_, congrFun runs [], rfl, fails⟩
  · obtain ⟨rfl, later⟩ := List.cons.inj whole
    obtain ⟨rfl, -⟩ := List.cons.inj later
    obtain ⟨_, _, _, second, -⟩ := List.forall₂_cons_left_iff.mp each
    obtain ⟨_, _, isSql, -⟩ := List.forall₂_cons_left_iff.mp second
    cases isSql

end ClusterSchema.Cli
