import ClusterSchema.Proofs.Dialect.Features
import ClusterSchema.Proofs.Dialect.Statements

/-!
# The prefix of table names

Where a statement names its table it does so once, and the prefix has a part in that name alone.  So
what a command compiles to is a text with at most one gap, and in the gap stands the quoted name of
the table under the prefix; the text around it knows neither of the two.  A prefix can be moved into
the table's own name, in whole or in part, and nothing but the full name and the schema shows.

* `Framed`                     a statement with a gap for its table
* `framed_statement`           the statements of commands are of this form
* `compile_eq_compile_iff`     when two prefixes and tables have the same result
* `Grammar.prefix_joins_name`  a prefix is a part of the table's own name
-/

namespace ClusterSchema

/-- The same table with `front` in front of its own name. -/
def TableReference.behind (table : TableReference) (front : String) : TableReference :=
  { table with name := front ++ table.name }

namespace Dialect

/-! ## Statements with a gap -/

/-- A statement is the same for all prefixes and tables up to one gap for the table's name, which
stays empty unless the statement `names` its table. -/
def Framed (names : Bool) (statement : String → TableReference → String) : Prop :=
  ∃ before after, ∀ tablePrefix table, statement tablePrefix table =
    before ++ (if names then tableName tablePrefix table else "") ++ after

namespace Framed

variable {names : Bool} {statement : String → TableReference → String}

/-- A text that knows of no table has no gap. -/
theorem of_const (text : String) : Framed false fun _ _ => text :=
  ⟨text, "", by simp⟩

/-- A table's name alone is all gap. -/
theorem tableName : Framed true tableName :=
  ⟨"", "", by simp⟩

/-- Words in front of a statement leave its gap as it is. -/
theorem behind (framed : Framed names statement) (word : String) :
    Framed names fun tablePrefix table => word ++ statement tablePrefix table := by
  obtain ⟨before, after, shape⟩ := framed
  exact ⟨word ++ before, after, by simp only [shape, String.append_assoc, implies_true]⟩

/-- So do words behind it. -/
theorem append (framed : Framed names statement) (word : String) :
    Framed names fun tablePrefix table => statement tablePrefix table ++ word := by
  obtain ⟨before, after, shape⟩ := framed
  exact ⟨before, after ++ word, by simp only [shape, String.append_assoc, implies_true]⟩

/-- What stands in the gap is all that two statements can differ in. -/
theorem eq_iff (framed : Framed names statement) {tablePrefix₁ tablePrefix₂ : String}
    {table₁ table₂ : TableReference} :
    statement tablePrefix₁ table₁ = statement tablePrefix₂ table₂ ↔ names = false ∨
      (table₁.schema = table₂.schema ∧
        tablePrefix₁ ++ table₁.name = tablePrefix₂ ++ table₂.name) := by
  obtain ⟨before, after, shape⟩ := framed
  rw [shape, shape, ← tableName_eq_iff]
  cases names with
  | false => simp
  | true => simp [← String.toList_inj]

end Framed

/-- The statement of an index names its table once. -/
theorem Cockroach.framed_createIndex (index : IndexCommand) :
    Framed true fun tablePrefix table => createIndex tablePrefix table index := by
  unfold createIndex
  -- five parts stand behind the table's name, and what is in front of it is one text
  iterate 5 apply Framed.append
  exact Framed.tableName.behind _

/-- So does that of a uniqueness constraint. -/
theorem Cockroach.framed_createUnique (unique : UniqueCommand) :
    Framed true fun tablePrefix table => createUnique tablePrefix table unique := by
  unfold createUnique
  iterate 7 apply Framed.append
  exact Framed.tableName.behind _

/-- So does a drop in CockroachDB. -/
theorem Cockroach.framed_dropIndex (drop : DropCommand) :
    Framed true fun tablePrefix table => dropIndex tablePrefix table drop := by
  unfold dropIndex
  iterate 3 apply Framed.append
  exact Framed.tableName.behind _

/-- So does a dropped constraint in PostgreSQL. -/
theorem Postgres.framed_dropUnique (drop : DropCommand) :
    Framed true fun tablePrefix table => dropUnique tablePrefix table drop := by
  unfold dropUnique
  iterate 2 apply Framed.append
  exact Framed.tableName.behind _

/-- So does the statement of a full-text index. -/
theorem Postgres.framed_createFulltext (fulltext : FulltextCommand) :
    Framed true fun tablePrefix table => createFulltext tablePrefix table fulltext := by
  unfold createFulltext
  iterate 3 apply Framed.append
  exact Framed.tableName.behind _

/-- The statements of a dialect have a gap for the table exactly where they name it. -/
theorem framed_statement (dialect : Dialect) (command : SchemaCommand) :
    Framed (dialect.namesTable command) (dialect.statement command) := by
  cases dialect with
  | postgres =>
    cases command with
    | createIndex index => exact Cockroach.framed_createIndex index
    | createUnique unique => exact Cockroach.framed_createUnique unique
    | createFulltext fulltext => exact Postgres.framed_createFulltext fulltext
    | dropUnique drop => exact Postgres.framed_dropUnique drop
    | dropIndex drop | dropFulltext drop => exact .of_const (Postgres.dropIndex drop)
    | listTables => exact .of_const Postgres.tablesQuery
  | cockroach =>
    cases command with
    | createIndex index => exact Cockroach.framed_createIndex index
    | createUnique unique => exact Cockroach.framed_createUnique unique
    | createFulltext fulltext => exact Postgres.framed_createFulltext fulltext
    | dropUnique drop | dropIndex drop | dropFulltext drop => exact Cockroach.framed_dropIndex drop
    | listTables => exact .of_const Cockroach.tablesQuery

/-! ## What commands compile to -/

/-- Two prefixes and tables have the same result if and only if they make up the same full name in
the same schema, or the command is refused or does not name its table. -/
theorem compile_eq_compile_iff (dialect : Dialect) (command : SchemaCommand)
    (tablePrefix₁ tablePrefix₂ : String) (table₁ table₂ : TableReference) :
    dialect.compile tablePrefix₁ command table₁ = dialect.compile tablePrefix₂ command table₂ ↔
      (∃ error, dialect.capabilities.check command.feature? = .error error) ∨
        dialect.namesTable command = false ∨ (table₁.schema = table₂.schema ∧
          tablePrefix₁ ++ table₁.name = tablePrefix₂ ++ table₂.name) := by
  rw [compile_eq_map, compile_eq_map, ← (dialect.framed_statement command).eq_iff]
  cases dialect.capabilities.check command.feature? with
  | ok => simp [Except.map]
  | error error => simp [Except.map]

end Dialect

/-- A prefix is a part of the table's own name: it can be moved there in part or in whole without a
change to the result.  It stands in the one place where a statement names its table, and the text
around that place is the same for all prefixes and tables. -/
theorem Grammar.prefix_joins_name (grammar : Grammar) (command : SchemaCommand) :
    let compileUnder := fun tablePrefix =>
      compile { grammar with tablePrefix := tablePrefix } command
    (∀ first second table,
      compileUnder (first ++ second) table = compileUnder first (table.behind second)) ∧
    (∀ tablePrefix table,
      compileUnder tablePrefix table = compileUnder "" (table.behind tablePrefix)) ∧
    (∃ before after, ∀ tablePrefix table, compileUnder tablePrefix table =
      (grammar.dialect.capabilities.check command.feature?).map fun _ =>
        before ++ (if grammar.dialect.namesTable command then
          Dialect.tableName tablePrefix table else "") ++ after) ∧
    ∀ tablePrefix₁ tablePrefix₂ table₁ table₂,
      compileUnder tablePrefix₁ table₁ = compileUnder tablePrefix₂ table₂ ↔
        (∃ error, grammar.compile command table₁ = .error error) ∨
          grammar.dialect.namesTable command = false ∨ (table₁.schema = table₂.schema ∧
            tablePrefix₁ ++ table₁.name = tablePrefix₂ ++ table₂.name) := by
  intro compileUnder
  -- the first two parts are cases of when two prefixes have the same result
  have same_iff := grammar.dialect.compile_eq_compile_iff command
  refine ⟨?_, ?_, ?_, ?_⟩
  · intro first second table
    exact (same_iff ..).mpr (.inr (.inr ⟨rfl, String.append_assoc ..⟩))
  · intro tablePrefix table
    exact (same_iff ..).mpr (.inr (.inr ⟨rfl, String.empty_append.symm⟩))
  · obtain ⟨before, after, shape⟩ := grammar.dialect.framed_statement command
    refine ⟨before, after, fun tablePrefix table => ?_⟩
    rw [← shape]
    exact Dialect.compile_eq_map tablePrefix command table grammar.dialect
  · intro tablePrefix₁ tablePrefix₂ table₁ table₂
    simp only [compile, Dialect.compile_eq_error_iff_check]
    exact same_iff ..

/-- A star is a name of its own behind a prefix, and quotes in a prefix are a part of the name. -/
example :
    Grammar.compile { dialect := .cockroach, tablePrefix := "a\"" } (.dropIndex ⟨"key"⟩)
      (.named "*") = .ok "drop index \"a\"\"*\"@\"key\" cascade" := by
  rfl

end ClusterSchema
