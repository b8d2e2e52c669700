import ClusterSchema.Catalog
import ClusterSchema.Connection
import ClusterSchema.Failure

/-!
# Sessions

What work on a database needs from a connection's handle: to execute a statement, and to ask for
tables.  Every answer may depend on all earlier calls, because a handle changes with each of them.
-/

namespace ClusterSchema

/-- What can be done with handles of a type; each call leaves the handle in a new state. -/
structure Session (η : Type) where
  execute : String → η → Except Cause Unit × η
  queryTables : String → η → Except Cause (List TableInfo) × η

/-- A call that a session has seen. -/
inductive SessionCall where
  | execute (sql : String)
  | queryTables (sql : String)
deriving DecidableEq, Repr

namespace Session

variable {η : Type}

/-- The same session, whose handles also remember the calls, in order. -/
def recorded (session : Session η) : Session (η × List SessionCall) where
  execute sql handle :=
    let (answer, next) := session.execute sql handle.1
    (answer, next, handle.2 ++ [.execute sql])
  queryTables sql handle :=
    let (answer, next) := session.queryTables sql handle.1
    (answer, next, handle.2 ++ [.queryTables sql])

/-- The answer to a statement, with a refusal put into the words of a failure. -/
def answerTo {α : Type} (connection : Connection η) (sql : String) (answer : Except Cause α) :
    Except Failure α :=
  answer.mapError fun source => .execute ⟨connection.host, sql, source⟩

/-- Executes a statement on a connection. -/
def executeOn (session : Session η) (sql : String) (connection : Connection η) :
    Except Failure Unit × Connection η :=
  let (answer, handle) := session.execute sql connection.handle
  (answerTo connection sql answer, { connection with handle })

/-- Asks a connection for tables. -/
def queryTablesOn (session : Session η) (sql : String) (connection : Connection η) :
    Except Failure (List TableInfo) × Connection η :=
  let (answer, handle) := session.queryTables sql connection.handle
  (answerTo connection sql answer, { connection with handle })

end Session

end ClusterSchema
