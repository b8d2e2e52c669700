import ClusterSchema.Dialect.Cockroach

/-!
# Where CockroachDB departs from PostgreSQL

The two dialects write their statements each for itself and have to agree.  Without stored columns
an index or a uniqueness constraint has one statement in both.  Stored columns add a clause, behind
an index and, in a constraint, in front of what says when it is checked.  A drop of any kind goes
through the index and names its table.

* `Postgres.createIndex_eq_map`, `Postgres.createUnique_eq_map`
                          PostgreSQL has CockroachDB's statement where there is nothing to store
* `Cockroach.createIndex_eq_append`, `Cockroach.createUnique_eq_append`
                          where the stored columns stand in a statement
* `Cockroach.compile_eq_inserted`
                          CockroachDB's statement is PostgreSQL's with the clause put in
-/

namespace ClusterSchema.Dialect

variable (tablePrefix : String) (table : TableReference)

/-! ## PostgreSQL's statements -/

/-- PostgreSQL has CockroachDB's statement for an index, once it has seen that no columns are
stored. -/
theorem Postgres.createIndex_eq_map (index : IndexCommand) :
    createIndex tablePrefix table index =
      (checkStoring index.storing).map fun _ => Cockroach.createIndex tablePrefix table index := by
  unfold createIndex Cockroach.createIndex
  -- without stored columns the clause is empty, and with some there is no statement
  cases index.storing with
  | nil =>
    simp [checkStoring, Cockroach.storingClause, bind, Except.bind, Except.map, pure, Except.pure]
  | cons first rest => rfl

/-- So it has for a uniqueness constraint. -/
theorem Postgres.createUnique_eq_map (unique : UniqueCommand) :
    createUnique tablePrefix table unique =
      (checkStoring unique.storing).map fun _ =>
        Cockroach.createUnique tablePrefix table unique := by
  unfold createUnique Cockroach.createUnique
  cases unique.storing with
  | nil =>
    simp [checkStoring, Cockroach.storingClause, bind, Except.bind, Except.map, pure, Except.pure]
  | cons first rest => rfl

/-! ## The place of the stored columns -/

/-- Without stored columns there is no clause. -/
theorem Cockroach.storingClause_eq (storing : List String) :
    storingClause storing =
      if storing = [] then "" else " storing (" ++ Sql.nameList storing ++ ")" := by
  unfold storingClause
  cases storing <;> rfl

/-- The stored columns of an index stand at its end. -/
theorem Cockroach.createIndex_eq_append (index : IndexCommand) :
    createIndex tablePrefix table index =
      createIndex tablePrefix table (index.withStoring []) ++ storingClause index.storing := by
  have none_stored : storingClause (index.withStoring []).storing = "" := rfl
  unfold createIndex
  rw [none_stored, String.append_empty]
  rfl

/-- A uniqueness constraint up to the columns it is over. -/
def Cockroach.constraint (unique : UniqueCommand) : String :=
  "alter table " ++ tableName tablePrefix table ++ " add constraint " ++ Sql.name unique.name
    ++ " unique (" ++ Sql.nameList unique.columns ++ ")"

/-- The stored columns of a constraint stand in front of its timing. -/
theorem Cockroach.createUnique_eq_append (unique : UniqueCommand) :
    createUnique tablePrefix table unique =
      constraint tablePrefix table unique ++ storingClause unique.storing
        ++ timingClause unique.deferrable unique.initiallyImmediate := by
  unfold createUnique constraint
  rfl

/-! ## Both dialects -/

/-- CockroachDB's statement for an index or a constraint is PostgreSQL's for the same without stored
columns, and where there are some it has their clause in addition: at the end of an index, and right
in front of the timing of a constraint.  The three drops of a name are one statement. -/
theorem Cockroach.compile_eq_inserted :
    (∀ index : IndexCommand, ∃ sql,
      Postgres.compile tablePrefix (.createIndex (index.withStoring [])) table = .ok sql ∧
      compile tablePrefix (.createIndex index) table =
        .ok (if index.storing = [] then sql
          else sql ++ " storing (" ++ Sql.nameList index.storing ++ ")")) ∧
    (∀ unique : UniqueCommand, ∃ constraint,
      let timing := timingClause unique.deferrable unique.initiallyImmediate
      Postgres.compile tablePrefix (.createUnique (unique.withStoring [])) table =
        .ok (constraint ++ timing) ∧
      compile tablePrefix (.createUnique unique) table =
        .ok (if unique.storing = [] then constraint ++ timing
          else constraint ++ " storing (" ++ Sql.nameList unique.storing ++ ")" ++ timing)) ∧
    ∀ name : String,
      let sql := "drop index " ++ tableName tablePrefix table ++ "@" ++ Sql.name name ++ " cascade"
      compile tablePrefix (.dropIndex ⟨name⟩) table = .ok sql ∧
        compile tablePrefix (.dropFulltext ⟨name⟩) table = .ok sql ∧
        compile tablePrefix (.dropUnique ⟨name⟩) table = .ok sql := by
  refine ⟨fun index => ?_, fun unique => ?_, fun name => ⟨rfl, rfl, rfl⟩⟩
  · refine ⟨createIndex tablePrefix table (index.withStoring []), ?_, ?_⟩
    · rw [Postgres.compile, Postgres.createIndex_eq_map]
      rfl
    -- the clause is the end of the statement, or nothing
    · rw [compile, createIndex_eq_append, storingClause_eq]
      split
      · rw [String.append_empty]
      · simp only [String.append_assoc]
  · -- the constraint itself does not know of the stored columns
    refine ⟨constraint tablePrefix table unique, ?_, ?_⟩
    · have bare : createUnique tablePrefix table (unique.withStoring []) =
          constraint tablePrefix table unique
            ++ timingClause unique.deferrable unique.initiallyImmediate := by
        have none_stored : (unique.withStoring []).storing = [] := rfl
        rw [createUnique_eq_append, storingClause_eq, if_pos none_stored, String.append_empty]
        rfl
      rw [Postgres.compile, Postgres.createUnique_eq_map, bare]
      rfl
    · rw [compile, createUnique_eq_append, storingClause_eq]
      split
      · rw [String.append_empty]
      · simp only [String.append_assoc]

/-- A deferrable constraint with a stored column. -/
example :
    Cockroach.compile "app_" (.createUnique
      { name := "key", columns := ["day"], storing := ["note"], deferrable := some true })
      { name := "visit" } =
      .ok ("alter table \"app_visit\" add constraint \"key\" unique (\"day\") storing (\"note\")" ++
        " deferrable") := by
  rfl

end ClusterSchema.Dialect
