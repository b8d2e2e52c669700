import ClusterSchema.Grammar
import ClusterSchema.Proofs.Dialect.Departures

/-!
# The features that commands use

What a command asks for beyond the common ground is one feature at most, and it can be read off the
command without its names: its kind and whether it stores columns are enough.  A dialect compiles a
command if and only if its capability table lets that feature through, and otherwise it gives the
table's own error.

* `CapabilityTable.check`           what a table says about what a command uses
* `Dialect.compile_eq_map`          a command compiles to its statement if the check lets it through
* `Grammar.compile_eq_error_iff`    when a command is refused and with which error
-/

namespace ClusterSchema

namespace SchemaCommand

/-- The columns that a command wants to be stored. -/
def storing : SchemaCommand → List String
  | createIndex index => index.storing
  | createUnique unique => unique.storing
  | dropIndex _ | dropUnique _ | createFulltext _ | dropFulltext _ | listTables => []

/-- The feature that a command uses, if it leaves the common ground. -/
def feature? (command : SchemaCommand) : Option Feature :=
  match command with
  | createFulltext _ => some .fulltext
  | dropUnique _ => some .alterTableDropUnique
  | listTables => some .totalRelationSize
  | createIndex _ | createUnique _ | dropIndex _ | dropFulltext _ =>
    if command.storing = [] then none else some .indexStoring

/-- No name matters for what a command uses. -/
theorem feature?_eq {command₁ command₂ : SchemaCommand} (kind : command₁.kind = command₂.kind)
    (stored : command₁.storing = [] ↔ command₂.storing = []) :
    command₁.feature? = command₂.feature? := by
  -- commands of one kind are left, and of them only the two that may store columns
  cases command₁ <;> cases command₂ <;> cases kind <;> try rfl
  all_goals simp only [feature?, stored]

end SchemaCommand

namespace CapabilityTable

variable {table : CapabilityTable} {feature : Feature} {used : Option Feature}
  {error : CompileError}

/-- Lets a command through or says why not, given the feature that the command uses. -/
def check (table : CapabilityTable) : Option Feature → Except CompileError Unit
  | none => .ok ()
  | some feature => table.require feature

/-- A check fails with what the table says about the feature that is used. -/
theorem check_eq_error_iff :
    table.check used = .error error ↔
      ∃ feature, used = some feature ∧ table.require feature = .error error := by
  cases used with
  | none => simp [check]
  | some feature => simp [check]

/-- A table denies a feature if and only if it does not support it. -/
theorem exists_require_eq_error_iff :
    (∃ error, table.require feature = .error error) ↔ table.supports feature = false := by
  unfold require supports
  split <;> simp

end CapabilityTable

namespace Dialect

variable (tablePrefix : String) (command : SchemaCommand) (table : TableReference)

/-- PostgreSQL's own check for stored columns is that of its table. -/
theorem Postgres.checkStoring_eq_check (storing : List String) :
    checkStoring storing =
      capabilities.check (if storing = [] then none else some .indexStoring) := by
  cases storing <;> rfl

/-- CockroachDB lets stored columns through, and commands without them too. -/
theorem Cockroach.check_storing (storing : List String) :
    capabilities.check (if storing = [] then none else some .indexStoring) = .ok () := by
  split <;> rfl

/-- The statement that a dialect has for a command, whether it lets the command through or not. -/
def statement (dialect : Dialect) (command : SchemaCommand) (tablePrefix : String)
    (table : TableReference) : String :=
  match dialect, command with
  | _, .createIndex index => Cockroach.createIndex tablePrefix table index
  | _, .createUnique unique => Cockroach.createUnique tablePrefix table unique
  | _, .createFulltext fulltext => Postgres.createFulltext tablePrefix table fulltext
  | postgres, .dropUnique drop => Postgres.dropUnique tablePrefix table drop
  | postgres, .dropIndex drop | postgres, .dropFulltext drop => Postgres.dropIndex drop
  | cockroach, .dropUnique drop | cockroach, .dropIndex drop | cockroach, .dropFulltext drop =>
    Cockroach.dropIndex tablePrefix table drop
  | _, .listTables => dialect.tablesQuery

/-- A command compiles to its statement if the check lets it through. -/
theorem compile_eq_map (dialect : Dialect) :
    dialect.compile tablePrefix command table =
      (dialect.capabilities.check command.feature?).map fun _ =>
        dialect.statement command tablePrefix table := by
  cases dialect with
  | postgres =>
    show Postgres.compile tablePrefix command table = _
    cases command with
    | createIndex index =>
      rw [Postgres.compile, Postgres.createIndex_eq_map, Postgres.checkStoring_eq_check]
      rfl
    | createUnique unique =>
      rw [Postgres.compile, Postgres.createUnique_eq_map, Postgres.checkStoring_eq_check]
      rfl
    -- the features of the others are not listed, and so they are native
    | dropIndex | dropUnique | createFulltext | dropFulltext | listTables => rfl
  | cockroach =>
    show Cockroach.compile tablePrefix command table =
      (Cockroach.capabilities.check command.feature?).map _
    cases command with
    | createIndex index | createUnique index =>
      rw [SchemaCommand.feature?, Cockroach.check_storing]
      rfl
    | dropIndex | dropUnique | createFulltext | dropFulltext | listTables => rfl

/-- A command is refused with what the capability table says about it. -/
theorem compile_eq_error_iff_check (dialect : Dialect) (error : CompileError) :
    dialect.compile tablePrefix command table = .error error ↔
      dialect.capabilities.check command.feature? = .error error := by
  rw [compile_eq_map]
  cases dialect.capabilities.check command.feature? with
  | ok => simp [Except.map]
  | error refusal => simp [Except.map]

end Dialect

/-- A command is refused if and only if it uses a feature that the dialect's table denies, and then
with the error that the table gives for it.  The prefix, the table and the names in the command have
no part in it. -/
theorem Grammar.compile_eq_error_iff (grammar : Grammar) (command : SchemaCommand)
    (table : TableReference) :
    ((∃ error, grammar.compile command table = .error error) ↔
      ∃ feature, command.feature? = some feature ∧
        grammar.dialect.capabilities.supports feature = false) ∧
    (∀ error, grammar.compile command table = .error error ↔
      ∃ feature, command.feature? = some feature ∧
        grammar.dialect.capabilities.require feature = .error error) ∧
    ∀ (other : Grammar) (renamed : SchemaCommand) (elsewhere : TableReference),
      other.dialect = grammar.dialect → renamed.kind = command.kind →
      (renamed.storing = [] ↔ command.storing = []) →
      ∀ error, other.compile renamed elsewhere = .error error ↔
        grammar.compile command table = .error error := by
  -- all three parts say when and how a command is refused
  have refused : ∀ error, grammar.compile command table = .error error ↔
      ∃ feature, command.feature? = some feature ∧
        grammar.dialect.capabilities.require feature = .error error := by
    intro error
    unfold compile
    rw [Dialect.compile_eq_error_iff_check, CapabilityTable.check_eq_error_iff]
  refine ⟨?_, refused, ?_⟩
  · simp only [refused, ← CapabilityTable.exists_require_eq_error_iff]
    constructor
    · rintro ⟨error, feature, used, denied⟩
      exact ⟨feature, used, error, denied⟩
    · rintro ⟨feature, used, error, denied⟩
      exact ⟨error, feature, used, denied⟩
  -- a command of the same kind uses the same feature, and nothing else is looked at
  · intro other renamed elsewhere dialect kind stored error
    unfold compile
    rw [Dialect.compile_eq_error_iff_check, Dialect.compile_eq_error_iff_check, dialect,
      SchemaCommand.feature?_eq kind stored]

/-- An index that stores the column `note`. -/
def storingIndex : SchemaCommand :=
  .createIndex { name := "key", columns := ["day"], storing := ["note"] }

/-- PostgreSQL refuses stored columns, and it does so for any names in the same way. -/
theorem Grammar.compile_eq_error_storingIndex :
    ∃ error,
      compile { dialect := .postgres } storingIndex (.named "visit") = .error error ∧
      compile { dialect := .postgres, tablePrefix := "app_" }
        (.createIndex
          { name := "", columns := [], algorithm := some "hash", storing := ["*", "."] })
        { schema := some "log", name := "*" } = .error error := by
  have spec := compile_eq_error_iff { dialect := .postgres } storingIndex (.named "visit")
  obtain ⟨error, refused⟩ := spec.1.mpr ⟨.indexStoring, by decide, by decide⟩
  refine ⟨error, refused, (spec.2.2 _ _ _ ?_ ?_ ?_ error).mpr refused⟩
  · rfl
  · rfl
  · decide

end ClusterSchema
