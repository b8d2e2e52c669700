import ClusterSchema.Catalog
import ClusterSchema.Session

/-!
# What a client does with its connections

A client sends statements and queries on a handle.  Its session reads tables from the rows that a
query yields, so a query fails when it is refused and when one of its rows describes no table.
-/

namespace ClusterSchema.Client

/-- What can be sent on handles of a type; each call leaves the handle in a new state. -/
structure Wire (η : Type) where
  execute : String → η → Except Cause Unit × η
  query : String → η → Except Cause (List Catalog.Row) × η

/-- The tables that the answer to a query describes. -/
def tablesOf (answer : Except Cause (List Catalog.Row)) : Except Cause (List TableInfo) := do
  let rows ← answer
  Catalog.tables rows

/-- The session of a client. -/
def Wire.session {η : Type} (wire : Wire η) : Session η where
  execute := wire.execute
  queryTables sql handle :=
    let (answer, next) := wire.query sql handle
    (tablesOf answer, next)

end ClusterSchema.Client
