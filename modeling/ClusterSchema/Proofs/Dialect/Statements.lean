import ClusterSchema.Grammar
import ClusterSchema.Proofs.Dialect.Clauses
import ClusterSchema.Proofs.Dialect.Departures

/-!
# What a statement shows

A statement shows its command and its table up to what the dialect cannot say: a deferrable
constraint's start if the constraint is not deferrable, the language of no columns, which kind of
index is dropped, and the table where none is named.  `Dialect.canonical` leaves exactly that out,
and two migrations compile to the same text only if they have the same canonical form.

* `Statement.of_compile`  what compiles is the statement of its canonical form
* `Statement.inj`         a statement has one canonical form
* `compile_eq_iff`        the same text if and only if the same canonical form
-/

namespace ClusterSchema

/-! ## Canonical forms -/

/-- An empty index method is none. -/
def IndexCommand.canonical (index : IndexCommand) : IndexCommand :=
  { index with algorithm := index.algorithm.filter (· ≠ "") }

/-- Only a deferrable constraint has a start. -/
def UniqueCommand.canonical (unique : UniqueCommand) : UniqueCommand :=
  { unique with
    initiallyImmediate :=
      if unique.deferrable = some true then unique.initiallyImmediate else none }

/-- The language is that of the columns, and no columns have none. -/
def FulltextCommand.canonical (fulltext : FulltextCommand) : FulltextCommand :=
  { fulltext with
    language :=
      if fulltext.columns = [] then none
      else some (fulltext.language.getD Dialect.Postgres.defaultLanguage) }

namespace Dialect

/-- The part of a command that its statement shows.  A dropped index may be of any kind, and in
CockroachDB a dropped constraint is a dropped index as well. -/
def canonicalCommand : Dialect → SchemaCommand → SchemaCommand
  | _, .createIndex index => .createIndex index.canonical
  | _, .createUnique unique => .createUnique unique.canonical
  | _, .createFulltext fulltext => .createFulltext fulltext.canonical
  | _, .dropIndex drop | _, .dropFulltext drop | cockroach, .dropUnique drop => .dropIndex drop
  | postgres, .dropUnique drop => .dropUnique drop
  | _, .listTables => .listTables

/-- Whether a command's statement names the table. -/
def namesTable : Dialect → SchemaCommand → Bool
  | _, .listTables | postgres, .dropIndex _ | postgres, .dropFulltext _ => false
  | _, _ => true

/-- What a statement shows of the command and the table that it was compiled from. -/
def canonical (dialect : Dialect) (command : SchemaCommand) (table : TableReference) :
    SchemaCommand × Option TableReference :=
  (dialect.canonicalCommand command, if dialect.namesTable command then some table else none)

end Dialect

/-- An index method that does not reach into the list of columns. -/
def IndexCommand.PlainAlgorithm (index : IndexCommand) : Prop :=
  ∀ algorithm ∈ index.algorithm, '(' ∉ algorithm.toList

/-- A command whose index method, if it has one, is plain. -/
def SchemaCommand.PlainAlgorithm : SchemaCommand → Prop
  | .createIndex index => index.PlainAlgorithm
  | _ => True

instance (index : IndexCommand) : Decidable index.PlainAlgorithm :=
  inferInstanceAs (Decidable (∀ algorithm ∈ index.algorithm, '(' ∉ algorithm.toList))

instance : DecidablePred SchemaCommand.PlainAlgorithm
  | .createIndex index => inferInstanceAs (Decidable index.PlainAlgorithm)
  | .createUnique _ | .createFulltext _ | .dropIndex _ | .dropUnique _ | .dropFulltext _
  | .listTables => isTrue trivial

namespace Dialect

/-! ## Statements of one kind -/

variable {tablePrefix : String} {table₁ table₂ : TableReference}

/-- Whether there is a method or not, the table's name in front of it ends. -/
theorem ends_usingClause (algorithm : Option String) (after : List Char) :
    Sql.Ends ((usingClause algorithm).toList ++ ' ' :: after) := by
  unfold usingClause
  split
  · split <;> simp [Sql.Ends, Sql.nameQuote]
  · exact Sql.ends_space after

/-- The statement of an index shows its table and all that is canonical about it. -/
theorem Cockroach.createIndex_inj {index₁ index₂ : IndexCommand} (plain₁ : index₁.PlainAlgorithm)
    (plain₂ : index₂.PlainAlgorithm)
    (same : createIndex tablePrefix table₁ index₁ = createIndex tablePrefix table₂ index₂) :
    table₁ = table₂ ∧ index₁.canonical = index₂.canonical := by
  have same := congrArg String.toList same
  unfold createIndex at same
  simp only [String.toList_append, String.reduceToList, List.append_assoc, List.cons_append,
    List.nil_append, List.cons.injEq, true_and] at same
  -- from left to right: each part that reads back is cut off both texts
  obtain ⟨name, same⟩ := Sql.name_append_inj (Sql.ends_space _) (Sql.ends_space _) same
  simp only [List.cons.injEq, true_and] at same
  obtain ⟨table, same⟩ := tableName_append_inj (ends_usingClause _ _) (ends_usingClause _ _) same
  obtain ⟨algorithm, same⟩ := usingClause_append_inj plain₁ plain₂ same
  obtain ⟨columns, same⟩ := Sql.nameList_append_inj same
  obtain ⟨storing, -⟩ := storingClause_append_inj (by simp) (by simp) (congrArg (· ++ []) same)
  exact ⟨table, by simp only [IndexCommand.canonical, name, algorithm, columns, storing]⟩

/-- So does that of a uniqueness constraint. -/
theorem Cockroach.createUnique_inj {unique₁ unique₂ : UniqueCommand}
    (same : createUnique tablePrefix table₁ unique₁ = createUnique tablePrefix table₂ unique₂) :
    table₁ = table₂ ∧ unique₁.canonical = unique₂.canonical := by
  have same := congrArg String.toList same
  unfold createUnique at same
  simp only [String.toList_append, String.reduceToList, List.append_assoc, List.cons_append,
    List.nil_append, List.cons.injEq, true_and] at same
  obtain ⟨table, same⟩ := tableName_append_inj (Sql.ends_space _) (Sql.ends_space _) same
  simp only [List.cons.injEq, true_and] at same
  obtain ⟨name, same⟩ := Sql.name_append_inj (Sql.ends_space _) (Sql.ends_space _) same
  simp only [List.cons.injEq, true_and] at same
  obtain ⟨columns, same⟩ := Sql.nameList_append_inj same
  obtain ⟨storing, same⟩ :=
    storingClause_append_inj (take_timingClause _ _) (take_timingClause _ _) same
  obtain ⟨deferrable, immediate⟩ := timingClause_inj (String.toList_injective same)
  refine ⟨table, ?_⟩
  simp only [UniqueCommand.canonical, name, columns, storing, deferrable] at immediate ⊢
  split
  · -- only a deferrable constraint shows its start
    rename_i yes
    rw [immediate yes]
  · rfl

/-- In CockroachDB a dropped index shows its table and its name. -/
theorem Cockroach.dropIndex_inj {drop₁ drop₂ : DropCommand}
    (same : dropIndex tablePrefix table₁ drop₁ = dropIndex tablePrefix table₂ drop₂) :
    table₁ = table₂ ∧ drop₁ = drop₂ := by
  have same := congrArg String.toList same
  unfold dropIndex at same
  simp only [String.toList_append, String.reduceToList, List.append_assoc, List.cons_append,
    List.nil_append, List.cons.injEq, true_and] at same
  have at_ends := fun after => @Sql.ends_cons '@' after (by decide) (by decide)
  obtain ⟨table, same⟩ := tableName_append_inj (at_ends _) (at_ends _) same
  simp only [List.cons.injEq, true_and] at same
  obtain ⟨name, -⟩ := Sql.name_append_inj (Sql.ends_space _) (Sql.ends_space _) same
  exact ⟨table, congrArg DropCommand.mk name⟩

/-- The statement of a full-text index shows its table and all that is canonical about it. -/
theorem Postgres.createFulltext_inj {fulltext₁ fulltext₂ : FulltextCommand}
    (same : createFulltext tablePrefix table₁ fulltext₁ =
      createFulltext tablePrefix table₂ fulltext₂) :
    table₁ = table₂ ∧ fulltext₁.canonical = fulltext₂.canonical := by
  have same := congrArg String.toList same
  unfold createFulltext at same
  simp only [String.toList_append, String.reduceToList, List.append_assoc, List.cons_append,
    List.nil_append, List.cons.injEq, true_and] at same
  obtain ⟨name, same⟩ := Sql.name_append_inj (Sql.ends_space _) (Sql.ends_space _) same
  simp only [List.cons.injEq, true_and] at same
  obtain ⟨table, same⟩ := tableName_append_inj (Sql.ends_space _) (Sql.ends_space _) same
  simp only [List.cons.injEq, true_and] at same
  obtain ⟨columns, language⟩ := searchVectors_inj same
  refine ⟨table, ?_⟩
  simp only [FulltextCommand.canonical, name, columns] at language ⊢
  split
  · rfl
  · rename_i some
    rw [language some]

/-- In PostgreSQL a dropped constraint shows its table and its name. -/
theorem Postgres.dropUnique_inj {drop₁ drop₂ : DropCommand}
    (same : dropUnique tablePrefix table₁ drop₁ = dropUnique tablePrefix table₂ drop₂) :
    table₁ = table₂ ∧ drop₁ = drop₂ := by
  have same := congrArg String.toList same
  unfold dropUnique at same
  simp only [String.toList_append, String.reduceToList, List.append_assoc, List.cons_append,
    List.nil_append, List.cons.injEq, true_and] at same
  obtain ⟨table, same⟩ := tableName_append_inj (Sql.ends_space _) (Sql.ends_space _) same
  simp only [List.cons.injEq, true_and] at same
  exact ⟨table, congrArg DropCommand.mk (Sql.name_injective (String.toList_injective same))⟩

/-- In PostgreSQL a dropped index shows its name. -/
theorem Postgres.dropIndex_inj {drop₁ drop₂ : DropCommand}
    (same : dropIndex drop₁ = dropIndex drop₂) : drop₁ = drop₂ := by
  have same := congrArg String.toList same
  unfold dropIndex at same
  simp only [String.toList_append] at same
  have name := String.toList_injective (List.append_cancel_left same)
  exact congrArg DropCommand.mk (Sql.name_injective name)

/-! ## Statements of different kinds -/

/-- No index is written like a full-text index, not even one with the method of these. -/
theorem createIndex_ne_createFulltext {index : IndexCommand} {fulltext : FulltextCommand}
    (plain : index.PlainAlgorithm) :
    Cockroach.createIndex tablePrefix table₁ index ≠
      Postgres.createFulltext tablePrefix table₂ fulltext := by
  intro same
  have same := congrArg String.toList same
  unfold Cockroach.createIndex Postgres.createFulltext at same
  simp only [String.toList_append, String.reduceToList, List.append_assoc, List.cons_append,
    List.nil_append, List.cons.injEq, true_and] at same
  obtain ⟨-, same⟩ := Sql.name_append_inj (Sql.ends_space _) (Sql.ends_space _) same
  simp only [List.cons.injEq, true_and] at same
  obtain ⟨-, same⟩ := tableName_append_inj (ends_usingClause _ _) (Sql.ends_space _) same
  -- after the first parenthesis there is a name or the other one, but not a second parenthesis
  have gin : ∀ after, (usingClause (some "gin")).toList ++ ' ' :: '(' :: after =
      " using gin (".toList ++ after := by
    simp [usingClause]
  simp only [String.reduceToList, List.cons_append, List.nil_append] at gin
  rw [← gin] at same
  obtain ⟨-, same⟩ := usingClause_append_inj plain (by simp) same
  -- the other statement goes on with a second parenthesis, and a list of columns does not
  cases columns : index.columns with
  | nil => simp [columns, Sql.nameList, Text.joined] at same
  | cons first rest =>
    have start := Sql.head?_nameList_cons first rest
      (')' :: (Cockroach.storingClause index.storing).toList)
    rw [← columns, same] at start
    simp [Sql.nameQuote] at start

/-- Adding a constraint is not written like dropping one. -/
theorem createUnique_ne_dropUnique {unique : UniqueCommand} {drop : DropCommand} :
    Cockroach.createUnique tablePrefix table₁ unique ≠
      Postgres.dropUnique tablePrefix table₂ drop := by
  intro same
  have same := congrArg String.toList same
  unfold Cockroach.createUnique Postgres.dropUnique at same
  simp only [String.toList_append, String.reduceToList, List.append_assoc, List.cons_append,
    List.nil_append, List.cons.injEq, true_and] at same
  obtain ⟨-, same⟩ := tableName_append_inj (Sql.ends_space _) (Sql.ends_space _) same
  -- behind the table one of them adds and the other drops
  simp at same

/-! ## All statements -/

/-- The statements of a dialect, each with what it shows. -/
inductive Statement (tablePrefix : String) :
    Dialect → SchemaCommand × Option TableReference → String → Prop
  | createIndex {dialect : Dialect} {index : IndexCommand} (table : TableReference)
      (plain : index.PlainAlgorithm) :
      Statement tablePrefix dialect (.createIndex index.canonical, some table)
        (Cockroach.createIndex tablePrefix table index)
  | createUnique {dialect : Dialect} (unique : UniqueCommand) (table : TableReference) :
      Statement tablePrefix dialect (.createUnique unique.canonical, some table)
        (Cockroach.createUnique tablePrefix table unique)
  | createFulltext (fulltext : FulltextCommand) (table : TableReference) :
      Statement tablePrefix postgres (.createFulltext fulltext.canonical, some table)
        (Postgres.createFulltext tablePrefix table fulltext)
  | dropUnique (drop : DropCommand) (table : TableReference) :
      Statement tablePrefix postgres (.dropUnique drop, some table)
        (Postgres.dropUnique tablePrefix table drop)
  | dropIndex (drop : DropCommand) :
      Statement tablePrefix postgres (.dropIndex drop, none) (Postgres.dropIndex drop)
  | dropIndexOf (drop : DropCommand) (table : TableReference) :
      Statement tablePrefix cockroach (.dropIndex drop, some table)
        (Cockroach.dropIndex tablePrefix table drop)
  | listTables {dialect : Dialect} :
      Statement tablePrefix dialect (.listTables, none) dialect.tablesQuery

variable {dialect : Dialect} {command command₁ command₂ : SchemaCommand}
  {table : TableReference} {shown shown₁ shown₂ : SchemaCommand × Option TableReference}
  {sql sql₁ sql₂ : String}

/-- The letter a command's statement starts with. -/
def initial : SchemaCommand → Char
  | .createIndex _ | .createFulltext _ => 'c'
  | .createUnique _ | .dropUnique _ => 'a'
  | .dropIndex _ | .dropFulltext _ => 'd'
  | .listTables => 's'

/-- A text starts as its first part does. -/
theorem head?_append {first rest : String} {c : Char} (start : first.toList.head? = some c) :
    (first ++ rest).toList.head? = some c := by
  rw [String.toList_append, List.head?_append, start]
  rfl

/-- Both queries start with the letter of a selection. -/
theorem head?_tablesQuery (dialect : Dialect) :
    dialect.tablesQuery.toList.head? = some 's' := by
  cases dialect with
  | postgres =>
    show Postgres.tablesQuery.toList.head? = some 's'
    unfold Postgres.tablesQuery
    iterate 3 apply head?_append
    simp
  | cockroach =>
    show Cockroach.tablesQuery.toList.head? = some 's'
    unfold Cockroach.tablesQuery
    iterate 4 apply head?_append
    simp

/-- The first letter of a statement tells some kinds apart. -/
theorem Statement.head? (statement : Statement tablePrefix dialect shown sql) :
    sql.toList.head? = some (initial shown.1) := by
  cases statement with
  | createIndex => unfold Cockroach.createIndex; simp [initial]
  | createUnique => unfold Cockroach.createUnique; simp [initial]
  | createFulltext => unfold Postgres.createFulltext; simp [initial]
  | dropUnique => unfold Postgres.dropUnique; simp [initial]
  | dropIndex => unfold Postgres.dropIndex; simp [initial]
  | dropIndexOf => unfold Cockroach.dropIndex; simp [initial]
  | listTables => exact head?_tablesQuery dialect

/-- A statement behind a check is the one that comes out. -/
theorem eq_of_map_eq_ok {check : Except CompileError Unit} {text : String}
    (ok : (check.map fun _ => text) = .ok sql) : text = sql := by
  cases check with
  | ok => exact Except.ok.inj ok
  | error error => cases ok

/-- PostgreSQL's statement is CockroachDB's, for the indexes that PostgreSQL has. -/
theorem Postgres.createIndex_eq_ok {index : IndexCommand}
    (ok : createIndex tablePrefix table index = .ok sql) :
    Cockroach.createIndex tablePrefix table index = sql :=
  eq_of_map_eq_ok ((createIndex_eq_map tablePrefix table index).symm.trans ok)

/-- PostgreSQL's statement is CockroachDB's, for the constraints that PostgreSQL has. -/
theorem Postgres.createUnique_eq_ok {unique : UniqueCommand}
    (ok : createUnique tablePrefix table unique = .ok sql) :
    Cockroach.createUnique tablePrefix table unique = sql :=
  eq_of_map_eq_ok ((createUnique_eq_map tablePrefix table unique).symm.trans ok)

/-- What compiles is the statement of its canonical form. -/
theorem Statement.of_compile (plain : command.PlainAlgorithm)
    (ok : dialect.compile tablePrefix command table = .ok sql) :
    Statement tablePrefix dialect (dialect.canonical command table) sql := by
  -- PostgreSQL's statement for an index or a constraint is the one that both dialects share
  cases dialect with
  | postgres =>
    cases command with
    | createIndex index => rw [← Postgres.createIndex_eq_ok ok]; exact .createIndex table plain
    | createUnique unique => rw [← Postgres.createUnique_eq_ok ok]; exact .createUnique unique table
    | createFulltext fulltext => cases ok; exact .createFulltext fulltext table
    | dropUnique drop => cases ok; exact .dropUnique drop table
    | dropIndex drop | dropFulltext drop => cases ok; exact .dropIndex drop
    | listTables => cases ok; exact .listTables
  | cockroach =>
    cases command with
    | createIndex index => cases ok; exact .createIndex table plain
    | createUnique unique => cases ok; exact .createUnique unique table
    | createFulltext fulltext => cases ok
    | dropUnique drop | dropIndex drop | dropFulltext drop =>
      cases ok
      exact .dropIndexOf drop table
    | listTables => cases ok; exact .listTables

/-- A statement shows one canonical form. -/
theorem Statement.inj (statement₁ : Statement tablePrefix dialect shown₁ sql₁)
    (statement₂ : Statement tablePrefix dialect shown₂ sql₂) (same : sql₁ = sql₂) :
    shown₁ = shown₂ := by
  have initials : initial shown₁.1 = initial shown₂.1 :=
    Option.some.inj (by rw [← statement₁.head?, ← statement₂.head?, same])
  -- only statements that start alike are left to compare
  cases statement₁ <;> cases statement₂ <;> try (simp [initial] at initials; done)
  case createIndex.createIndex plain₁ _ _ plain₂ =>
    obtain ⟨rfl, shown⟩ := Cockroach.createIndex_inj plain₁ plain₂ same
    rw [shown]
  case createIndex.createFulltext plain _ _ =>
    exact absurd same (createIndex_ne_createFulltext plain)
  case createUnique.createUnique =>
    obtain ⟨rfl, shown⟩ := Cockroach.createUnique_inj same
    rw [shown]
  case createUnique.dropUnique => exact absurd same createUnique_ne_dropUnique
  case createFulltext.createIndex plain =>
    exact absurd same.symm (createIndex_ne_createFulltext plain)
  case createFulltext.createFulltext =>
    obtain ⟨rfl, shown⟩ := Postgres.createFulltext_inj same
    rw [shown]
  case dropUnique.createUnique => exact absurd same.symm createUnique_ne_dropUnique
  case dropUnique.dropUnique =>
    obtain ⟨rfl, rfl⟩ := Postgres.dropUnique_inj same
    rfl
  case dropIndex.dropIndex =>
    obtain rfl := Postgres.dropIndex_inj same
    rfl
  case dropIndexOf.dropIndexOf =>
    obtain ⟨rfl, rfl⟩ := Cockroach.dropIndex_inj same
    rfl
  case listTables.listTables => rfl

/-- An empty method leaves no trace in the statement of an index. -/
theorem Cockroach.createIndex_canonical (index : IndexCommand) :
    createIndex tablePrefix table index.canonical = createIndex tablePrefix table index := by
  unfold createIndex
  rw [IndexCommand.canonical, usingClause_filter]

/-- The start of a constraint that is not deferrable leaves no trace in its statement. -/
theorem Cockroach.createUnique_canonical (unique : UniqueCommand) :
    createUnique tablePrefix table unique.canonical = createUnique tablePrefix table unique := by
  -- the start is written only behind `deferrable`
  have timing : timingClause unique.canonical.deferrable unique.canonical.initiallyImmediate =
      timingClause unique.deferrable unique.initiallyImmediate := by
    simp only [UniqueCommand.canonical]
    split
    · rfl
    · unfold timingClause
      split <;> simp_all
  unfold createUnique
  rw [timing]
  rfl

/-- The language of no columns leaves no trace in the statement of a full-text index. -/
theorem Postgres.createFulltext_canonical (fulltext : FulltextCommand) :
    createFulltext tablePrefix table fulltext.canonical =
      createFulltext tablePrefix table fulltext := by
  unfold createFulltext
  by_cases none : fulltext.columns = [] <;> simp [FulltextCommand.canonical, none]

/-- A canonical form has one statement. -/
theorem Statement.unique (statement₁ : Statement tablePrefix dialect shown₁ sql₁)
    (statement₂ : Statement tablePrefix dialect shown₂ sql₂) (same : shown₁ = shown₂) :
    sql₁ = sql₂ := by
  cases statement₁ <;> cases statement₂ <;> simp at same
  case createIndex.createIndex =>
    obtain ⟨shown, rfl⟩ := same
    rw [← Cockroach.createIndex_canonical, shown, Cockroach.createIndex_canonical]
  case createUnique.createUnique =>
    obtain ⟨shown, rfl⟩ := same
    rw [← Cockroach.createUnique_canonical, shown, Cockroach.createUnique_canonical]
  case createFulltext.createFulltext =>
    obtain ⟨shown, rfl⟩ := same
    rw [← Postgres.createFulltext_canonical, shown, Postgres.createFulltext_canonical]
  case dropUnique.dropUnique => rw [same.1, same.2]
  case dropIndex.dropIndex => rw [same]
  case dropIndexOf.dropIndexOf => rw [same.1, same.2]
  case listTables.listTables => rfl

end Dialect

/-- For commands with plain index methods that both compile, the texts are equal exactly when the
dialect cannot tell the migrations apart. -/
theorem Grammar.compile_eq_iff (grammar : Grammar) {command₁ command₂ : SchemaCommand}
    {table₁ table₂ : TableReference} {sql₁ sql₂ : String} (plain₁ : command₁.PlainAlgorithm)
    (plain₂ : command₂.PlainAlgorithm) (ok₁ : grammar.compile command₁ table₁ = .ok sql₁)
    (ok₂ : grammar.compile command₂ table₂ = .ok sql₂) :
    sql₁ = sql₂ ↔
      grammar.dialect.canonical command₁ table₁ = grammar.dialect.canonical command₂ table₂ := by
  have statement₁ := Dialect.Statement.of_compile plain₁ ok₁
  have statement₂ := Dialect.Statement.of_compile plain₂ ok₂
  exact ⟨statement₁.inj statement₂, statement₁.unique statement₂⟩

/-- An index over the column `day`. -/
def dayIndex (name : String) : SchemaCommand :=
  .createIndex { name, columns := ["day"], algorithm := some "btree" }

/-- Quotes inside names do not move the words between them: the same characters, divided otherwise
between the index and its table, are another statement. -/
theorem Grammar.compile_dayIndex_ne :
    ∃ sql₁ sql₂,
      Grammar.compile { dialect := .postgres } (dayIndex "a\" on \"b") (.named "c") = .ok sql₁ ∧
      Grammar.compile { dialect := .postgres } (dayIndex "a") (.named "b\" on \"c") = .ok sql₂ ∧
      sql₁ ≠ sql₂ := by
  obtain ⟨sql₁, ok₁⟩ : ∃ sql,
      Grammar.compile { dialect := .postgres } (dayIndex "a\" on \"b") (.named "c") = .ok sql :=
    ⟨_, rfl⟩
  obtain ⟨sql₂, ok₂⟩ : ∃ sql,
      Grammar.compile { dialect := .postgres } (dayIndex "a") (.named "b\" on \"c") = .ok sql :=
    ⟨_, rfl⟩
  refine ⟨sql₁, sql₂, ok₁, ok₂, ?_⟩
  rw [ne_eq, Grammar.compile_eq_iff _ (by decide) (by decide) ok₁ ok₂]
  decide

end ClusterSchema
