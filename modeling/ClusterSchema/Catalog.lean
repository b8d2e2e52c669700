import ClusterSchema.Cause

/-!
# The catalog

What the list of tables says about one table, and how it is read from a row.  A client looks columns
up by name and converts what stands there.  They are read in a fixed order, so the first of them
that cannot be read decides.
-/

namespace ClusterSchema

/-- A table in the catalog. -/
structure TableInfo where
  name : String
  schema : String
  /-- The size in bytes, and `-1` where the dialect does not tell. -/
  size : Int
  comment : Option String
deriving DecidableEq, Repr

namespace Catalog

/-- A row of a result, as a client gives access to it: what the column of a name holds, or why that
cannot be read as a value of the type. -/
structure Row where
  text : String → Except Cause String
  size : String → Except Cause Int
  /-- A text that may be null. -/
  optionalText : String → Except Cause (Option String)

/-- The table that a row describes. -/
def Row.tableInfo (row : Row) : Except Cause TableInfo := do
  let name ← row.text "name"
  let schema ← row.text "schema"
  let size ← row.size "size"
  let comment ← row.optionalText "comment"
  return { name, schema, size, comment }

/-- The tables that rows describe, or why the first row that describes none does not. -/
def tables (rows : List Row) : Except Cause (List TableInfo) := rows.mapM Row.tableInfo

end Catalog

end ClusterSchema
