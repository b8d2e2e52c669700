import ClusterSchema.Event
import ClusterSchema.Grammar
import ClusterSchema.Session

/-!
# Working on a cluster

A resolved connection together with the grammar for its tables.  Commands are compiled before the
session hears of them, so a command without SQL leaves no trace in the database.
-/

namespace ClusterSchema

/-- A connection with the grammar for its tables. -/
structure ClusterConnection (η : Type) where
  connection : Connection η
  grammar : Grammar

/-- Work on a connection that is done. -/
structure Work (η α : Type) where
  result : Except Failure α
  /-- The connection afterwards. -/
  connection : ClusterConnection η
  /-- What was reported, in order. -/
  log : List Event

namespace ClusterConnection

variable {η : Type}

/-- A connection with the grammar for the table prefix of its config. -/
def ofConnection (connection : Connection η) : ClusterConnection η where
  connection
  grammar := { dialect := .cockroach, tablePrefix := connection.config.tablePrefix }

/-- The same connection with another grammar. -/
def withGrammar (cluster : ClusterConnection η) (grammar : Grammar) : ClusterConnection η :=
  { cluster with grammar }

/-- The host of a connection. -/
def host (cluster : ClusterConnection η) : String := cluster.connection.host

/-- The database of a connection. -/
def database (cluster : ClusterConnection η) : String := cluster.connection.database

/-- The prefix of every table name. -/
def tablePrefix (cluster : ClusterConnection η) : String := cluster.connection.tablePrefix

/-- Executes a statement. -/
def execute (cluster : ClusterConnection η) (session : Session η) (sql : String) : Work η Unit :=
  let (result, connection) := session.executeOn sql cluster.connection
  { result, connection := { cluster with connection }, log := [.executing cluster.host sql] }

/-- Executes the SQL of a command and yields it. -/
def run (cluster : ClusterConnection η) (session : Session η) (command : SchemaCommand)
    (table : TableReference) : Work η String :=
  match cluster.grammar.compile command table with
  | .error error => { result := .error (.compile error), connection := cluster, log := [] }
  | .ok sql =>
    let work := cluster.execute session sql
    { work with result := work.result.map fun _ => sql }

/-- Lists the tables of the database. -/
def tables (cluster : ClusterConnection η) (session : Session η) : Work η (List TableInfo) :=
  let (result, connection) := session.queryTablesOn cluster.grammar.tablesQuery cluster.connection
  { result, connection := { cluster with connection }, log := [.listing cluster.host] }

end ClusterConnection

end ClusterSchema
