import ClusterSchema.Date.Format
import ClusterSchema.Dialect.Cockroach

/-!
# Grammars

A grammar is a dialect with the table prefix and the date format of a deployment.  It compiles
schema commands to SQL, gives the query that lists tables, and knows what its dialect can do.
-/

namespace ClusterSchema

/-- The dialects that commands compile to. -/
inductive Dialect where
  | postgres
  | cockroach
deriving DecidableEq, Repr

namespace Dialect

/-- A dialect's name. -/
def name : Dialect → String
  | postgres => Postgres.dialectName
  | cockroach => Cockroach.dialectName

/-- Every dialect. -/
def all : List Dialect := [postgres, cockroach]

/-- The dialect of a name. -/
def ofName? (word : String) : Option Dialect := all.find? (·.name == word)

/-- What a dialect can do. -/
def capabilities : Dialect → CapabilityTable
  | postgres => Postgres.capabilities
  | cockroach => Cockroach.capabilities

/-- The SQL of a schema command in a dialect. -/
def compile (dialect : Dialect) (tablePrefix : String) (command : SchemaCommand)
    (table : TableReference) : Except CompileError String :=
  match dialect with
  | postgres => Postgres.compile tablePrefix command table
  | cockroach => Cockroach.compile tablePrefix command table

/-- The query that lists the tables of a database. -/
def tablesQuery : Dialect → String
  | postgres => Postgres.tablesQuery
  | cockroach => Cockroach.tablesQuery

end Dialect

/-- A dialect in the form that a deployment uses. -/
structure Grammar where
  dialect : Dialect
  /-- The prefix of every table name. -/
  tablePrefix : String := ""
  dateFormat : Date.DateFormat := Date.DateFormat.standard
deriving DecidableEq, Repr

namespace Grammar

/-- The dialect's name. -/
def name (grammar : Grammar) : String := grammar.dialect.name

/-- The SQL of a schema command. -/
def compile (grammar : Grammar) (command : SchemaCommand) (table : TableReference) :
    Except CompileError String :=
  grammar.dialect.compile grammar.tablePrefix command table

/-- The query that lists the tables of a database. -/
def tablesQuery (grammar : Grammar) : String := grammar.dialect.tablesQuery

end Grammar

end ClusterSchema
