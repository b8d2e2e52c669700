import ClusterSchema.Table

/-!
# Schema commands

One migration step on one table, independent of the dialect that will run it.  The three drop
commands carry the same data and differ in what they drop.
-/

namespace ClusterSchema

/-- An index to create. -/
structure IndexCommand where
  name : String
  columns : List String
  /-- The index method, such as `hash`; none leaves the choice to the database. -/
  algorithm : Option String := none
  /-- Columns stored in the index without being part of its key. -/
  storing : List String := []
deriving DecidableEq, Repr

/-- A uniqueness constraint to create. -/
structure UniqueCommand where
  name : String
  columns : List String
  /-- Columns stored in the backing index without being part of its key. -/
  storing : List String := []
  /-- Whether checking may be put off; none says nothing about it. -/
  deferrable : Option Bool := none
  /-- Whether a deferrable constraint starts immediate; it has no effect on the others. -/
  initiallyImmediate : Option Bool := none
deriving DecidableEq, Repr

/-- A full-text index to create. -/
structure FulltextCommand where
  name : String
  columns : List String
  /-- The text-search configuration. -/
  language : Option String := none
deriving DecidableEq, Repr

/-- The name of an index or constraint to drop. -/
structure DropCommand where
  name : String
deriving DecidableEq, Repr

/-- One step of a migration. -/
inductive SchemaCommand where
  | createIndex (index : IndexCommand)
  | dropIndex (drop : DropCommand)
  | createUnique (unique : UniqueCommand)
  | dropUnique (drop : DropCommand)
  | createFulltext (fulltext : FulltextCommand)
  | dropFulltext (drop : DropCommand)
  | listTables
deriving DecidableEq, Repr

/-- The seven kinds of schema command. -/
inductive CommandKind where
  | createIndex
  | dropIndex
  | createUnique
  | dropUnique
  | createFulltext
  | dropFulltext
  | listTables
deriving DecidableEq, Repr

namespace CommandKind

/-- The word by which a kind is known. -/
def tag : CommandKind → String
  | createIndex => "create_index"
  | dropIndex => "drop_index"
  | createUnique => "create_unique_constraint"
  | dropUnique => "drop_unique_constraint"
  | createFulltext => "create_fulltext_index"
  | dropFulltext => "drop_fulltext_index"
  | listTables => "list_tables"

/-- Every kind, in the order in which messages list them. -/
def all : List CommandKind :=
  [createIndex, dropIndex, createUnique, dropUnique, createFulltext, dropFulltext, listTables]

end CommandKind

namespace SchemaCommand

/-- The kind of a command. -/
def kind : SchemaCommand → CommandKind
  | createIndex _ => .createIndex
  | dropIndex _ => .dropIndex
  | createUnique _ => .createUnique
  | dropUnique _ => .dropUnique
  | createFulltext _ => .createFulltext
  | dropFulltext _ => .dropFulltext
  | listTables => .listTables

/-- The word for a command's kind. -/
def tag (command : SchemaCommand) : String := command.kind.tag

end SchemaCommand

namespace IndexCommand

/-- An index over `columns` with nothing else asked for. -/
def ofColumns (name : String) (columns : List String) : IndexCommand := { name, columns }

/-- The same index with an index method. -/
def withAlgorithm (index : IndexCommand) (algorithm : String) : IndexCommand :=
  { index with algorithm := some algorithm }

/-- The same index with `columns` as its stored columns. -/
def withStoring (index : IndexCommand) (columns : List String) : IndexCommand :=
  { index with storing := columns }

end IndexCommand

namespace UniqueCommand

/-- A constraint over `columns` with nothing else asked for. -/
def ofColumns (name : String) (columns : List String) : UniqueCommand := { name, columns }

/-- The same constraint with `columns` as its stored columns. -/
def withStoring (unique : UniqueCommand) (columns : List String) : UniqueCommand :=
  { unique with storing := columns }

/-- The same constraint, said to be deferrable or not. -/
def withDeferrable (unique : UniqueCommand) (deferrable : Bool) : UniqueCommand :=
  { unique with deferrable := some deferrable }

/-- The same constraint, said to start immediate or deferred. -/
def withInitiallyImmediate (unique : UniqueCommand) (immediate : Bool) : UniqueCommand :=
  { unique with initiallyImmediate := some immediate }

end UniqueCommand

/-- A command with the table it is about, as an entry of a command file. -/
structure CommandEntry where
  table : TableReference
  command : SchemaCommand
deriving DecidableEq, Repr

end ClusterSchema
