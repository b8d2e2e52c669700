import ClusterSchema.Grammar
import ClusterSchema.Proofs.Dialect.Clauses
import ClusterSchema.Proofs.Dialect.Departures
import ClusterSchema.Proofs.Sql.Outside

/-!
# What names cannot do to a statement

The shape of a migration is all of it that a statement shows outside of quotes: the kind of command,
its flags and its index method, how many names and columns there are, how many pieces each has, and
which pieces are bare.  Two migrations of one shape compile to statements that a database takes
apart alike, whatever text their names and their language hold; no name gets out of its quotes.

* `createIndex_alike`, `createUnique_alike`, `createFulltext_alike`
                         statements of one kind and shape are alike
* `sameOutside_compile`  in each dialect, migrations of one shape compile alike
* `compile_sameOutside`  both compile or neither does, and the statements show the same
-/

namespace ClusterSchema

/-- All of a migration that its statement shows outside of quotes. -/
structure MigrationShape where
  kind : CommandKind
  /-- The schema, if it is named, and the table's own name with its prefix. -/
  table : List Bool
  name : List Bool := []
  columns : List (List Bool) := []
  storing : List (List Bool) := []
  algorithm : Option String := none
  deferrable : Option Bool := none
  initiallyImmediate : Option Bool := none
deriving DecidableEq, Repr

namespace MigrationShape

open Sql (nameShape)

/-- The shape of a table's name. -/
def ofTable (tablePrefix : String) (table : TableReference) : List Bool :=
  (Dialect.tablePieces tablePrefix table).map (· == ['*'])

/-- The shape of a command on a table. -/
def of (tablePrefix : String) (table : TableReference) : SchemaCommand → MigrationShape
  | .createIndex index =>
    { kind := .createIndex, table := ofTable tablePrefix table, name := nameShape index.name,
      columns := index.columns.map nameShape, storing := index.storing.map nameShape,
      algorithm := index.algorithm }
  | .createUnique unique =>
    { kind := .createUnique, table := ofTable tablePrefix table, name := nameShape unique.name,
      columns := unique.columns.map nameShape, storing := unique.storing.map nameShape,
      deferrable := unique.deferrable, initiallyImmediate := unique.initiallyImmediate }
  | .createFulltext fulltext =>
    { kind := .createFulltext, table := ofTable tablePrefix table, name := nameShape fulltext.name,
      columns := fulltext.columns.map nameShape }
  | .dropIndex drop =>
    { kind := .dropIndex, table := ofTable tablePrefix table, name := nameShape drop.name }
  | .dropUnique drop =>
    { kind := .dropUnique, table := ofTable tablePrefix table, name := nameShape drop.name }
  | .dropFulltext drop =>
    { kind := .dropFulltext, table := ofTable tablePrefix table, name := nameShape drop.name }
  | .listTables => { kind := .listTables, table := ofTable tablePrefix table }

end MigrationShape

namespace Dialect

open Sql

variable {prefix₁ prefix₂ : String} {table₁ table₂ : TableReference}

/-! ## Clauses -/

/-- Tables of one shape are alike, whatever prefix and names they have. -/
theorem tableName_alike
    (shape : MigrationShape.ofTable prefix₁ table₁ = MigrationShape.ofTable prefix₂ table₂) :
    Alike (tableName prefix₁ table₁).toList (tableName prefix₂ table₂).toList := by
  rw [toList_tableName, toList_tableName]
  exact .dotted shape

/-- A method without quotes leaves the clause without any. -/
theorem plain_usingClause {algorithm : Option String}
    (plain : ∀ text ∈ algorithm, Plain text.toList) : Plain (usingClause algorithm).toList := by
  unfold usingClause
  split
  · rename_i method
    split
    · exact by decide
    · rw [String.toList_append]
      exact (by decide : Plain " using ".toList).append (plain method rfl)
  · exact by decide

/-- What is said about timing holds no quotes. -/
theorem plain_timingClause (deferrable immediate : Option Bool) :
    Plain (timingClause deferrable immediate).toList := by
  fun_cases timingClause deferrable immediate <;> decide

/-- Stored columns of one shape are alike. -/
theorem storingClause_alike {storing₁ storing₂ : List String}
    (shapes : storing₁.map nameShape = storing₂.map nameShape) :
    Alike (Cockroach.storingClause storing₁).toList (Cockroach.storingClause storing₂).toList := by
  cases storing₁ with
  | nil =>
    obtain rfl : storing₂ = [] := by simpa using shapes
    exact .of_plain (by decide)
  | cons first₁ rest₁ =>
    -- lists of one shape are both empty or both have columns
    cases storing₂ with
    | nil => simp at shapes
    | cons first₂ rest₂ =>
      simp only [Cockroach.storingClause, List.isEmpty_cons, Bool.false_eq_true, if_false,
        String.toList_append, List.append_assoc]
      exact .behind (by decide) ((Alike.nameList shapes).append (.of_plain (by decide))
        (Plain.fresh (by decide)) (Plain.fresh (by decide)))

/-- Search vectors are alike for columns of one shape, whatever the language. -/
theorem searchVector_alike {column₁ column₂ : String} (language₁ language₂ : String)
    (shape : nameShape column₁ = nameShape column₂) :
    Alike (Postgres.searchVector language₁ column₁).toList
      (Postgres.searchVector language₂ column₂).toList := by
  simp only [Postgres.searchVector, String.toList_append, List.append_assoc]
  refine .behind (by decide) ((Alike.literal language₁ language₂).part (by decide) (by decide) ?_)
  exact (Alike.name shape).append (.of_plain (by decide)) (Plain.fresh (by decide))
    (Plain.fresh (by decide))

/-! ## Statements -/

/-- Indexes of one shape have alike statements. -/
theorem createIndex_alike {index₁ index₂ : IndexCommand}
    (table : MigrationShape.ofTable prefix₁ table₁ = MigrationShape.ofTable prefix₂ table₂)
    (name : nameShape index₁.name = nameShape index₂.name)
    (columns : index₁.columns.map nameShape = index₂.columns.map nameShape)
    (storing : index₁.storing.map nameShape = index₂.storing.map nameShape)
    (algorithm : index₁.algorithm = index₂.algorithm)
    (plain : ∀ text ∈ index₁.algorithm, Plain text.toList) :
    Alike (Cockroach.createIndex prefix₁ table₁ index₁).toList
      (Cockroach.createIndex prefix₂ table₂ index₂).toList := by
  unfold Cockroach.createIndex
  simp only [String.toList_append, List.append_assoc, ← algorithm]
  refine .behind (by decide) ((Alike.name name).part (by decide) (by decide) ?_)
  -- the index method belongs to the words between the table and the columns
  have words : Plain ((usingClause index₁.algorithm).toList ++ " (".toList) :=
    (plain_usingClause plain).append (by decide)
  have some : (usingClause index₁.algorithm).toList ++ " (".toList ≠ [] := by simp
  have rest := (Alike.nameList columns).part (by decide : Plain ")".toList) (by decide)
    (storingClause_alike storing)
  have whole := (tableName_alike table).part words some rest
  simpa only [List.append_assoc] using whole

/-- So have uniqueness constraints of one shape. -/
theorem createUnique_alike {unique₁ unique₂ : UniqueCommand}
    (table : MigrationShape.ofTable prefix₁ table₁ = MigrationShape.ofTable prefix₂ table₂)
    (name : nameShape unique₁.name = nameShape unique₂.name)
    (columns : unique₁.columns.map nameShape = unique₂.columns.map nameShape)
    (storing : unique₁.storing.map nameShape = unique₂.storing.map nameShape)
    (deferrable : unique₁.deferrable = unique₂.deferrable)
    (immediate : unique₁.initiallyImmediate = unique₂.initiallyImmediate) :
    Alike (Cockroach.createUnique prefix₁ table₁ unique₁).toList
      (Cockroach.createUnique prefix₂ table₂ unique₂).toList := by
  unfold Cockroach.createUnique
  simp only [String.toList_append, List.append_assoc, ← deferrable, ← immediate]
  have timing := plain_timingClause unique₁.deferrable unique₁.initiallyImmediate
  -- the words between the table, the name, the columns and the clauses are the same
  refine .behind (by decide) ((tableName_alike table).part (by decide) (by decide) ?_)
  refine (Alike.name name).part (by decide) (by decide) ?_
  refine (Alike.nameList columns).part (by decide) (by decide) ?_
  exact (storingClause_alike storing).append (.of_plain timing) timing.fresh timing.fresh

/-- So have full-text indexes of one shape. -/
theorem createFulltext_alike {fulltext₁ fulltext₂ : FulltextCommand}
    (table : MigrationShape.ofTable prefix₁ table₁ = MigrationShape.ofTable prefix₂ table₂)
    (name : nameShape fulltext₁.name = nameShape fulltext₂.name)
    (columns : fulltext₁.columns.map nameShape = fulltext₂.columns.map nameShape) :
    Alike (Postgres.createFulltext prefix₁ table₁ fulltext₁).toList
      (Postgres.createFulltext prefix₂ table₂ fulltext₂).toList := by
  unfold Postgres.createFulltext
  simp only [String.toList_append, List.append_assoc]
  refine .behind (by decide) ((Alike.name name).part (by decide) (by decide) ?_)
  refine (tableName_alike table).part (by decide) (by decide) ?_
  refine Alike.append ?_ (.of_plain (by decide)) (Plain.fresh (by decide)) (Plain.fresh (by decide))
  exact .joined_map (by decide) (by decide) (fun _ _ shape => searchVector_alike _ _ shape) columns

/-- So have dropped constraints in PostgreSQL. -/
theorem Postgres.dropUnique_alike {drop₁ drop₂ : DropCommand}
    (table : MigrationShape.ofTable prefix₁ table₁ = MigrationShape.ofTable prefix₂ table₂)
    (name : nameShape drop₁.name = nameShape drop₂.name) :
    Alike (dropUnique prefix₁ table₁ drop₁).toList (dropUnique prefix₂ table₂ drop₂).toList := by
  unfold dropUnique
  simp only [String.toList_append, List.append_assoc]
  exact .behind (by decide) ((tableName_alike table).part (by decide) (by decide) (.name name))

/-- So have dropped indexes in PostgreSQL, which do not name the table. -/
theorem Postgres.dropIndex_alike {drop₁ drop₂ : DropCommand}
    (name : nameShape drop₁.name = nameShape drop₂.name) :
    Alike (dropIndex drop₁).toList (dropIndex drop₂).toList := by
  unfold dropIndex
  simp only [String.toList_append]
  exact .behind (by decide) (.name name)

/-- So has whatever is dropped in CockroachDB. -/
theorem Cockroach.dropIndex_alike {drop₁ drop₂ : DropCommand}
    (table : MigrationShape.ofTable prefix₁ table₁ = MigrationShape.ofTable prefix₂ table₂)
    (name : nameShape drop₁.name = nameShape drop₂.name) :
    Alike (dropIndex prefix₁ table₁ drop₁).toList (dropIndex prefix₂ table₂ drop₂).toList := by
  unfold dropIndex
  simp only [String.toList_append, List.append_assoc]
  refine .behind (by decide) ((tableName_alike table).part (by decide) (by decide) ?_)
  exact (Alike.name name).append (.of_plain (by decide)) (Plain.fresh (by decide))
    (Plain.fresh (by decide))

/-! ## Results -/

/-- Two results are refusals for one reason, or statements that hold the same outside of quotes and
leave no quote open. -/
def SameOutside : Except CompileError String → Except CompileError String → Prop
  | .ok sql₁, .ok sql₂ =>
    ∃ plain, outside? sql₁.toList = some plain ∧ outside? sql₂.toList = some plain
  | .error error₁, .error error₂ => error₁ = error₂
  | _, _ => False

/-- Alike statements hold the same outside of quotes. -/
theorem SameOutside.of_alike {sql₁ sql₂ : String} (alike : Alike sql₁.toList sql₂.toList) :
    SameOutside (.ok sql₁) (.ok sql₂) :=
  alike

/-- A check in front of both statements lets both through or neither. -/
theorem SameOutside.of_check {sql₁ sql₂ : String} (check : Except CompileError Unit)
    (alike : Alike sql₁.toList sql₂.toList) :
    SameOutside (check.map fun _ => sql₁) (check.map fun _ => sql₂) := by
  cases check with
  | ok => exact of_alike alike
  | error error => exact rfl

/-- Whether columns are stored is a matter of the shape. -/
theorem Postgres.checkStoring_eq {storing₁ storing₂ : List String}
    (shapes : storing₁.map nameShape = storing₂.map nameShape) :
    checkStoring storing₁ = checkStoring storing₂ := by
  cases storing₁ <;> cases storing₂ <;> first | rfl | simp at shapes

/-- There is no full-text index on CockroachDB, whatever it is to be over. -/
theorem Cockroach.exists_refusal : ∃ error, ∀ tablePrefix table fulltext,
    compile tablePrefix (.createFulltext fulltext) table = .error error :=
  ⟨_, fun _ _ _ => rfl⟩

/-- The query of PostgreSQL leaves no quote open. -/
theorem Postgres.tablesQuery_alike : Alike tablesQuery.toList tablesQuery.toList := by
  -- no line of the query leaves a region open or starts with a quote
  unfold tablesQuery
  refine .refl_append (.refl_append (.refl_append ?_ ?_ ?_) ?_ ?_) ?_ ?_
  all_goals rw [String.toList_ofList]
  all_goals first | exact .refl_of_isSome (by decide) | decide

/-- Nor does that of CockroachDB. -/
theorem Cockroach.tablesQuery_alike : Alike tablesQuery.toList tablesQuery.toList := by
  -- the size is written out so that the query is text only
  have size : sizeExpression = "-1" := rfl
  unfold tablesQuery
  rw [size]
  refine .refl_append (.refl_append (.refl_append (.refl_append ?_ ?_ ?_) ?_ ?_) ?_ ?_) ?_ ?_
  all_goals rw [String.toList_ofList]
  all_goals first | exact .refl_of_isSome (by decide) | decide

/-! ## Migrations -/

section Migrations

variable {command₁ command₂ : SchemaCommand}
  (shape : MigrationShape.of prefix₁ table₁ command₁ = MigrationShape.of prefix₂ table₂ command₂)
  (plain : ∀ algorithm ∈ (MigrationShape.of prefix₁ table₁ command₁).algorithm,
    Plain algorithm.toList)
include shape plain

/-- In PostgreSQL, migrations of one shape compile to statements that show the same, or to the same
refusal. -/
theorem Postgres.sameOutside_compile :
    SameOutside (compile prefix₁ command₁ table₁) (compile prefix₂ command₂ table₂) := by
  -- only commands of one kind have one shape
  cases command₁ <;> cases command₂ <;> try (simp [MigrationShape.of] at shape; done)
  all_goals
    simp only [MigrationShape.of, MigrationShape.mk.injEq, true_and, and_true] at shape plain
  case createIndex.createIndex =>
    obtain ⟨table, name, columns, storing, algorithm⟩ := shape
    -- stored columns are refused in both or in neither
    simp only [compile, createIndex_eq_map, checkStoring_eq storing]
    exact .of_check _ (createIndex_alike table name columns storing algorithm plain)
  case createUnique.createUnique =>
    obtain ⟨table, name, columns, storing, deferrable, immediate⟩ := shape
    simp only [compile, createUnique_eq_map, checkStoring_eq storing]
    exact .of_check _ (createUnique_alike table name columns storing deferrable immediate)
  case createFulltext.createFulltext =>
    exact .of_alike (createFulltext_alike shape.1 shape.2.1 shape.2.2)
  case dropUnique.dropUnique => exact .of_alike (dropUnique_alike shape.1 shape.2)
  case dropIndex.dropIndex | dropFulltext.dropFulltext => exact .of_alike (dropIndex_alike shape.2)
  case listTables.listTables => exact .of_alike tablesQuery_alike

/-- So they do in CockroachDB. -/
theorem Cockroach.sameOutside_compile :
    SameOutside (compile prefix₁ command₁ table₁) (compile prefix₂ command₂ table₂) := by
  cases command₁ <;> cases command₂ <;> try (simp [MigrationShape.of] at shape; done)
  -- of the pairs of commands those of one kind are left, as for the other dialect
  all_goals
    simp only [MigrationShape.of, MigrationShape.mk.injEq, true_and, and_true] at shape plain
  case createIndex.createIndex =>
    obtain ⟨table, name, columns, storing, algorithm⟩ := shape
    exact .of_alike (createIndex_alike table name columns storing algorithm plain)
  case createUnique.createUnique =>
    obtain ⟨table, name, columns, storing, deferrable, immediate⟩ := shape
    exact .of_alike (createUnique_alike table name columns storing deferrable immediate)
  case createFulltext.createFulltext =>
    obtain ⟨error, refused⟩ := exists_refusal
    simp only [refused, SameOutside]
  -- every drop goes through the index
  case dropUnique.dropUnique | dropIndex.dropIndex | dropFulltext.dropFulltext =>
    exact .of_alike (dropIndex_alike shape.1 shape.2)
  case listTables.listTables => exact .of_alike tablesQuery_alike

end Migrations

end Dialect

open Dialect in
/-- No name gets out of its quotes: migrations of one shape, in one dialect and with an index method
that holds no quotes, both compile or are both refused, and what a database finds outside of quotes
is the same in both statements. -/
theorem Grammar.compile_sameOutside {grammar₁ grammar₂ : Grammar}
    (dialect : grammar₁.dialect = grammar₂.dialect) {command₁ command₂ : SchemaCommand}
    {table₁ table₂ : TableReference}
    (shape : MigrationShape.of grammar₁.tablePrefix table₁ command₁ =
      MigrationShape.of grammar₂.tablePrefix table₂ command₂)
    (plain : ∀ algorithm ∈ (MigrationShape.of grammar₁.tablePrefix table₁ command₁).algorithm,
      Sql.Plain algorithm.toList) :
    SameOutside (grammar₁.compile command₁ table₁) (grammar₂.compile command₂ table₂) := by
  unfold Grammar.compile
  rw [← dialect]
  cases grammar₁.dialect with
  | postgres => exact Postgres.sameOutside_compile shape plain
  | cockroach => exact Cockroach.sameOutside_compile shape plain

open Dialect in
/-- Names that try to close their quotes show as much as harmless ones. -/
theorem Grammar.compile_sameOutside_storing :
    SameOutside
      (compile { dialect := .cockroach, tablePrefix := "app_" }
        (.createIndex { name := "day", columns := ["at", "seen.*"], algorithm := some "hash",
                        storing := ["note"] })
        { schema := some "log", name := "visit" })
      (compile { dialect := .cockroach, tablePrefix := "\"" }
        (.createIndex { name := "x\" on \"y\" (\"z\"); --", columns := ["", "'.*"],
                        algorithm := some "hash", storing := ["a\", \"b"] })
        { schema := some "''", name := "*" }) := by
  apply compile_sameOutside
  · rfl
  · decide
  · decide

end ClusterSchema
