import ClusterSchema.Catalog
import ClusterSchema.Text.Numeral

/-!
# Results of scripted queries

A result as a scripted node sends it: columns with a name and one of a few types, and rows of
values.  A client finds a column by its exact name and checks its type before it looks at the value.
-/

namespace ClusterSchema.Rehearsal

/-- The types that a column may have. -/
inductive ColumnType where
  | text
  | name
  | int8
  | int4
deriving DecidableEq, Repr

namespace ColumnType

/-- The word for a type. -/
def word : ColumnType → String
  | text => "text"
  | name => "name"
  | int8 => "int8"
  | int4 => "int4"

/-- Every type. -/
def all : List ColumnType := [text, name, int8, int4]

/-- The type of a word. -/
def ofWord? (word : String) : Option ColumnType := all.find? (·.word == word)

/-- Whether values of a type are texts. -/
def isTextual : ColumnType → Bool
  | text | name => true
  | int8 | int4 => false

end ColumnType

/-- A column of a result. -/
structure Column where
  name : String
  type : ColumnType
deriving DecidableEq, Repr

/-- A value of a result. -/
inductive Cell where
  | null
  | text (value : String)
  | number (value : Int)
deriving DecidableEq, Repr

namespace Cell

/-- A value as a text, if it is not null; numbers are written in decimal. -/
def asText? : Cell → Option String
  | null => none
  | text value => some value
  | number value => some (String.ofList (Text.Numeral.writeInt value))

/-- A value as a number, if it is one. -/
def asNumber? : Cell → Option Int
  | number value => some value
  | null | text _ => none

end Cell

/-- A row of a result with the columns of the result. -/
structure ResultRow where
  columns : List Column
  cells : List Cell
deriving DecidableEq, Repr

/-- What a value is wanted for. -/
inductive Wanted where
  | text
  | optionalText
  | size
deriving DecidableEq, Repr

namespace Wanted

/-- The name under which messages know what is wanted. -/
def typeName : Wanted → String
  | text => "alloc::string::String"
  | optionalText => "core::option::Option<alloc::string::String>"
  | size => "i64"

/-- Whether values of a column can be what is wanted. -/
def accepts (wanted : Wanted) (type : ColumnType) : Bool :=
  match wanted with
  | text | optionalText => type.isTextual
  | size => type == .int8

end Wanted

/-- Why a value cannot be read. -/
inductive CellError where
  | noColumn (name : String)
  | wrongType (position : Nat) (wanted : Wanted) (found : ColumnType)
  | unexpectedNull (position : Nat)
deriving DecidableEq, Repr

namespace CellError

/-- The failure to read the value at a position, because of something. -/
def unreadable (position : Nat) (reason : String) : Cause :=
  .dueTo ("error deserializing column " ++ String.ofList (Text.Numeral.write position))
    (.root reason)

/-- The error with what led to it. -/
def toCause : CellError → Cause
  | noColumn name => .root ("invalid column `" ++ name ++ "`")
  | wrongType position wanted found =>
    unreadable position ("cannot convert between the Rust type `" ++ wanted.typeName
      ++ "` and the Postgres type `" ++ found.word ++ "`")
  | unexpectedNull position => unreadable position "a Postgres value was `NULL`"

end CellError

namespace ResultRow

/-- The value in the column of a name, with its position, if the column has the right type. -/
def cell (row : ResultRow) (name : String) (wanted : Wanted) : Except CellError (Nat × Cell) :=
  match row.columns.findIdx? (·.name == name) with
  | none => .error (.noColumn name)
  | some position =>
    match row.columns[position]? with
    | none => .error (.noColumn name)
    | some column =>
      if wanted.accepts column.type then .ok (position, row.cells.getD position .null)
      else .error (.wrongType position wanted column.type)

/-- The text in the column of a name. -/
def text (row : ResultRow) (name : String) : Except CellError String := do
  let (position, cell) ← row.cell name .text
  match cell.asText? with
  | some value => return value
  | none => throw (.unexpectedNull position)

/-- The text in the column of a name, which may be null. -/
def optionalText (row : ResultRow) (name : String) : Except CellError (Option String) := do
  let (_, cell) ← row.cell name .optionalText
  return cell.asText?

/-- The number in the column of a name. -/
def size (row : ResultRow) (name : String) : Except CellError Int := do
  let (position, cell) ← row.cell name .size
  match cell.asNumber? with
  | some value => return value
  | none => throw (.unexpectedNull position)

/-- What a client reads from a row. -/
def toRow (row : ResultRow) : Catalog.Row where
  text name := (row.text name).mapError CellError.toCause
  size name := (row.size name).mapError CellError.toCause
  optionalText name := (row.optionalText name).mapError CellError.toCause

end ResultRow

end ClusterSchema.Rehearsal
