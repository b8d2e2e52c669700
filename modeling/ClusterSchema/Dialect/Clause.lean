import ClusterSchema.Sql.Quoting
import ClusterSchema.Table

/-!
# Clauses the dialects share

Parts of a statement that both dialects write alike.  An optional clause starts with its own space,
so that leaving it out leaves no trace.
-/

namespace ClusterSchema.Dialect

/-- The index method, when one is named. -/
def usingClause : Option String → String
  | some algorithm => if algorithm = "" then "" else " using " ++ algorithm
  | none => ""

/-- When a constraint is checked.  Where it starts matters only if it is deferrable. -/
def timingClause : Option Bool → Option Bool → String
  | none, _ => ""
  | some false, _ => " not deferrable"
  | some true, none => " deferrable"
  | some true, some true => " deferrable initially immediate"
  | some true, some false => " deferrable initially deferred"

/-- A table's quoted name; the prefix belongs to the table's own name, never to the schema. -/
def tableName (tablePrefix : String) (table : TableReference) : String :=
  let own := Sql.singleName (tablePrefix ++ table.name)
  match table.schema with
  | some schema => Sql.singleName schema ++ "." ++ own
  | none => own

end ClusterSchema.Dialect
