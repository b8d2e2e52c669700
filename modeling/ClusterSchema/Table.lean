/-!
# Tables

A table as a migration names it: by a name and possibly a schema.  The prefix that a deployment
puts before its table names is not part of the reference; it is added when the name is quoted.
-/

namespace ClusterSchema

/-- The table a schema command is about. -/
structure TableReference where
  /-- The schema that holds the table, if it is named. -/
  schema : Option String := none
  /-- The table's name without any prefix. -/
  name : String
deriving DecidableEq, Repr, Inhabited

namespace TableReference

/-- A table named without a schema. -/
def named (name : String) : TableReference := { name }

/-- How a table is shown to people: the plain names, joined by a dot. -/
def display (table : TableReference) : String :=
  match table.schema with
  | some schema => schema ++ "." ++ table.name
  | none => table.name

end TableReference

end ClusterSchema
