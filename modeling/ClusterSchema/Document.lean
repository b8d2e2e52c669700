import ClusterSchema.Decimal.Binary64

/-!
# Documents

A document is the plain data that commands, configs and test cases are read from.  JSON and YAML
texts both become documents; an object keeps its entries in the order in which they are visited.
-/

namespace ClusterSchema

/-- Plain data: scalars, lists and objects. -/
inductive Document where
  | null
  | bool (value : Bool)
  | int (value : Int)
  | float (value : Decimal.Double)
  | text (value : String)
  | list (items : List Document)
  | object (entries : List (String × Document))
deriving Repr, Inhabited

namespace Document

/-- The value of an object's first entry for a key; other documents have no entries. -/
def get? (document : Document) (key : String) : Option Document :=
  match document with
  | object entries => (entries.find? (·.1 == key)).map (·.2)
  | _ => none

end Document

end ClusterSchema
