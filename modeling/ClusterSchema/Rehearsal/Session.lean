import ClusterSchema.Session

/-!
# A session without a database

A session that answers from a list: some statements fail with a given text, all others succeed, and
every query for tables yields the same tables.
-/

namespace ClusterSchema.Rehearsal

/-- The handle of a session without a database. -/
structure Rehearsed where
  /-- The statements that fail, each with its text. -/
  failures : List (String × String)
  tables : List TableInfo
  /-- The statements that succeeded, in order. -/
  executed : List String := []
deriving Repr

namespace Rehearsed

/-- Answers a statement with a value, unless it is one that fails.  Failures leave no trace. -/
def answer {α : Type} (value : α) (sql : String) (handle : Rehearsed) :
    Except Cause α × Rehearsed :=
  match handle.failures.find? (·.1 == sql) with
  | some failure => (.error (.root failure.2), handle)
  | none => (.ok value, { handle with executed := handle.executed ++ [sql] })

end Rehearsed

/-- The session without a database. -/
def session : Session Rehearsed where
  execute := Rehearsed.answer ()
  queryTables sql handle := Rehearsed.answer handle.tables sql handle

end ClusterSchema.Rehearsal
