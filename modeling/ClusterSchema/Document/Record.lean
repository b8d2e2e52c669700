import ClusterSchema.Document
import ClusterSchema.Text.Quoted
import ClusterSchema.Text.Numeral

/-!
# Reading records from documents

Why a document is not the record that is wanted (`DecodeError`), readers for single fields, and the
two shapes a record can have.  An object is visited in the order of its entries, the first entry
that fails decides, and missing fields are noticed at the end, in the order in which the record
declares them.  A list gives the fields in that same order.  The shapes are stated for any type of
values, because a document and a YAML node share them.
-/

namespace ClusterSchema

/-- Why a document cannot be read as the record that is wanted. -/
inductive DecodeError where
  | missingField (name : String)
  | duplicateField (name : String)
  | unknownField (name : String) (expected : List String)
  | unknownVariant (name : String) (expected : List String)
  | wrongType (got wanted : String)
  | wrongValue (got wanted : String)
  | wrongLength (length : Nat) (wanted : String)
  /-- A host is neither a text nor a list of texts. -/
  | noHostShape
  /-- A host list is empty. -/
  | emptyHostList
deriving DecidableEq, Repr

/-- The message for a host list without hosts. -/
def emptyHostListMessage : String := "host list must contain at least one host"

namespace DecodeError

/-- Names that were expected, each between backquotes. -/
def alternatives : List String → String
  | [] => "there are no fields"
  | [name] => "expected `" ++ name ++ "`"
  | [first, second] => "expected `" ++ first ++ "` or `" ++ second ++ "`"
  | names => "expected one of " ++ Text.joined ", " (names.map fun name => "`" ++ name ++ "`")

/-- The error in words. -/
def message : DecodeError → String
  | missingField name => "missing field `" ++ name ++ "`"
  | duplicateField name => "duplicate field `" ++ name ++ "`"
  | unknownField name expected => "unknown field `" ++ name ++ "`, " ++ alternatives expected
  | unknownVariant name expected => "unknown variant `" ++ name ++ "`, " ++ alternatives expected
  | wrongType got wanted => "invalid type: " ++ got ++ ", expected " ++ wanted
  | wrongValue got wanted => "invalid value: " ++ got ++ ", expected " ++ wanted
  | wrongLength length wanted =>
    "invalid length " ++ String.ofList (Text.Numeral.write length) ++ ", expected " ++ wanted
  | noHostShape => "data did not match any variant of untagged enum HostSpec"
  | emptyHostList => emptyHostListMessage

/-- A number of elements in words. -/
def elements : Nat → String
  | 1 => "1 element"
  | n => String.ofList (Text.Numeral.write n) ++ " elements"

end DecodeError

/-- The outcome of reading a document. -/
abbrev Decoded (α : Type) := Except DecodeError α

namespace Document

/-- How a message names a document: a scalar with its value, anything else by its kind. -/
def described : Document → String
  | null => "null"
  | bool true => "boolean `true`"
  | bool false => "boolean `false`"
  | int n => "integer `" ++ String.ofList (Text.Numeral.writeInt n) ++ "`"
  | float x => "floating point `" ++ x.text ++ "`"
  | text s => "string " ++ Text.quoted s
  | list _ => "sequence"
  | object _ => "map"

/-- The error for a document of the wrong kind. -/
def unlike (document : Document) (wanted : String) : DecodeError :=
  .wrongType document.described wanted

/-- The text of a text document. -/
def asText : Document → Decoded String
  | text s => .ok s
  | other => .error (other.unlike "a string")

/-- The value of a boolean document. -/
def asFlag : Document → Decoded Bool
  | bool b => .ok b
  | other => .error (other.unlike "a boolean")

/-- The texts of a list of text documents. -/
def asTexts : Document → Decoded (List String)
  | list items => items.mapM asText
  | other => .error (other.unlike "a sequence")

/-- The number of a document that holds one of at most 16 bits. -/
def asPort : Document → Decoded UInt16
  | int n =>
    if 0 ≤ n ∧ n < Text.Numeral.limit16 then .ok (UInt16.ofNat n.toNat)
    else .error (.wrongValue (described (int n)) "u16")
  | other => .error (other.unlike "u16")

/-- A reader that takes null for an absent value. -/
def optional {α : Type} (read : Document → Decoded α) : Document → Decoded (Option α)
  | null => .ok none
  | other => (read other).map some

end Document

namespace Record

variable {β : Type}

/-- A field that a record may have: its name, and whether a value can be read as the field. -/
structure FieldCheck (β : Type) where
  name : String
  check : β → Decoded Unit

/-- The field of a name, read by `read`. -/
def field {α : Type} (name : String) (read : β → Decoded α) : FieldCheck β :=
  ⟨name, fun value => (read value).map fun _ => ()⟩

/-- Visits entries in order.  Every name has to be a field's and new, and its value readable. -/
def visit (fields : List (FieldCheck β)) (seen : List String) : List (String × β) → Decoded Unit
  | [] => .ok ()
  | (name, value) :: rest =>
    match fields.find? (·.name == name) with
    | none => .error (.unknownField name (fields.map (·.name)))
    | some field =>
      if seen.contains name then .error (.duplicateField name)
      else do
        field.check value
        visit fields (name :: seen) rest

/-- The value of the first entry with a name. -/
def entry? (entries : List (String × β)) (name : String) : Option β :=
  (entries.find? (·.1 == name)).map (·.2)

/-- The field of a name, which has to be there. -/
def required {α : Type} (entries : List (String × β)) (name : String) (read : β → Decoded α) :
    Decoded α :=
  match entry? entries name with
  | some value => read value
  | none => .error (.missingField name)

/-- The field of a name, or `default` where it is left out. -/
def defaulted {α : Type} (entries : List (String × β)) (name : String) (read : β → Decoded α)
    (default : α) : Decoded α :=
  match entry? entries name with
  | some value => read value
  | none => .ok default

/-- What messages call a record whose elements come as a list. -/
structure Shape where
  /-- The record's name. -/
  name : String
  /-- How many fields it has. -/
  size : Nat

/-- The element at a position of a list, which has to be there. -/
def requiredAt {α : Type} (shape : Shape) (items : List β) (position : Nat)
    (read : β → Decoded α) : Decoded α :=
  match items[position]? with
  | some value => read value
  | none =>
    .error (.wrongLength position
      ("struct " ++ shape.name ++ " with " ++ DecodeError.elements shape.size))

/-- The element at a position of a list, or `default` where the list ends before it. -/
def defaultedAt {α : Type} (items : List β) (position : Nat) (read : β → Decoded α)
    (default : α) : Decoded α :=
  match items[position]? with
  | some value => read value
  | none => .ok default

/-- Refuses a list with more elements than the record has fields. -/
def checkSurplus (size : Nat) (items : List β) (wanted : String) : Decoded Unit :=
  if items.length ≤ size then .ok () else .error (.wrongLength items.length wanted)

end Record

end ClusterSchema
