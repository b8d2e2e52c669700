import ClusterSchema.Session.Cluster

/-!
# Tasks

Work on a cluster as a list of tasks that are done one after the other on one connection.  A task
that fails yields its failure and keeps nobody from the next one.
-/

namespace ClusterSchema

/-- One piece of work on a cluster. -/
inductive Task where
  | run (command : SchemaCommand) (table : TableReference)
  | execute (sql : String)
  | tables
deriving DecidableEq, Repr

/-- What a task yields if it succeeds. -/
inductive Yield where
  /-- A command was run, and this is its statement. -/
  | ran (sql : String)
  | executed
  | listed (tables : List TableInfo)
deriving DecidableEq, Repr

/-- The same work with its result in another form. -/
def Work.map {η α β : Type} (work : Work η α) (change : α → β) : Work η β :=
  { work with result := work.result.map change }

namespace ClusterConnection

variable {η : Type}

/-- Does one task. -/
def perform (cluster : ClusterConnection η) (session : Session η) : Task → Work η Yield
  | .run command table => (cluster.run session command table).map .ran
  | .execute sql => (cluster.execute session sql).map fun _ => .executed
  | .tables => (cluster.tables session).map .listed

/-- Does tasks in order, each on the connection that the one before it leaves.  Yields the results
and the connection afterwards. -/
def performAll (cluster : ClusterConnection η) (session : Session η) :
    List Task → List (Except Failure Yield) × ClusterConnection η
  | [] => ([], cluster)
  | task :: rest =>
    let work := cluster.perform session task
    let (results, final) := performAll work.connection session rest
    (work.result :: results, final)

end ClusterConnection

end ClusterSchema
