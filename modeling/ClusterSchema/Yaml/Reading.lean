import ClusterSchema.Document.Record
import ClusterSchema.Yaml.Node
import ClusterSchema.Yaml.Scalar

/-!
# Reading records from YAML nodes

Where a text is wanted, every scalar gives its text, whatever type it could have.  Where a value is
taken as a document first, a plain scalar has its type.  A key may be any node there, but every
scalar in it has to have a value too.  A record is written as a map here, never as a list.
-/

namespace ClusterSchema.Yaml

/-- Why a YAML text gives no value of the type that is wanted. -/
inductive ReadError where
  | notYaml (error : SyntaxError)
  | notOfType (error : DecodeError)
deriving DecidableEq, Repr

/-- The outcome of reading a YAML text. -/
abbrev Result (α : Type) := Except ReadError α

namespace ReadError

/-- The error in words. -/
def message : ReadError → String
  | notYaml error =>
    error.problem ++ " at line " ++ String.ofList (Text.Numeral.write (error.line + 1))
      ++ " column " ++ String.ofList (Text.Numeral.write (error.column + 1))
  | notOfType error => error.message

end ReadError

namespace Node

/-- How a message names a node. -/
def described : Node → String
  | plain text => ((document? text).getD (.text text)).described
  | quoted text => (Document.text text).described
  | list _ => "sequence"
  | map _ => "map"

/-- The error for a node of the wrong kind. -/
def unlike (node : Node) (wanted : String) : DecodeError := .wrongType node.described wanted

/-- The text of a scalar. -/
def asText : Node → Decoded String
  | plain text | quoted text => .ok text
  | other => .error (other.unlike "a string")

/-- Whether a node is a plain null. -/
def isPlainNull : Node → Bool
  | plain text => isNull text
  | _ => false

/-- A reader that takes a plain null for an absent value. -/
def optional {α : Type} (read : Node → Decoded α) (node : Node) : Decoded (Option α) :=
  if node.isPlainNull then .ok none else (read node).map some

/-- The number of at most 16 bits that a plain scalar writes without a minus sign. -/
def asPort : Node → Decoded UInt16
  | plain text =>
    match int? text.toList with
    | some n =>
      if text.startsWith "-" then .error ((plain text).unlike "u16")
      else (Document.int n).asPort
    | none => .error ((plain text).unlike "u16")
  | other => .error (other.unlike "u16")

/-- The text that a scalar is by its type. -/
def text? : Node → Option String
  | plain text =>
    match document? text with
    | some (.text text) => some text
    | _ => none
  | quoted text => some text
  | _ => none

/-- The number that a plain scalar writes without a minus sign. -/
def natural? : Node → Option Nat
  | plain text => if text.startsWith "-" then none else (int? text.toList).map Int.toNat
  | _ => none

mutual

/-- The document that a node is when its scalars have their types.  A document has its entries under
texts, so it leaves out the entries whose keys are none. -/
def toDocument : Node → Decoded Document
  | plain text =>
    match document? text with
    | some document => .ok document
    | none => .error (.wrongType ("integer `" ++ text ++ "`") "a value of at most 64 bits")
  | quoted text => .ok (.text text)
  | list items => do
    let items ← itemDocuments items
    return .list items
  | map entries => do
    let entries ← entryDocuments entries
    return .object (entries.filterMap fun (key, value) => key.text?.map fun name => (name, value))

/-- The documents of list items. -/
def itemDocuments : List Node → Decoded (List Document)
  | [] => .ok []
  | item :: rest => do
    let item ← toDocument item
    let rest ← itemDocuments rest
    return item :: rest

/-- The documents of map entries with their keys, which have to be documents as well. -/
def entryDocuments : List (Node × Node) → Decoded (List (Node × Document))
  | [] => .ok []
  | (key, value) :: rest => do
    let _ ← toDocument key
    let value ← toDocument value
    let rest ← entryDocuments rest
    return (key, value) :: rest

end

/-- A reader that takes a node as a document first. -/
def viaDocument {α : Type} (read : Document → Decoded α) (node : Node) : Decoded α := do
  let document ← toDocument node
  read document

/-- Entries under the texts of their keys. -/
def named : List (Node × Node) → Decoded (List (String × Node))
  | [] => .ok []
  | (key, value) :: rest => do
    let name ← asText key
    let rest ← named rest
    return (name, value) :: rest

/-- The named entries of a map, for a record of the given name. -/
def entriesFor (record : String) : Node → Decoded (List (String × Node))
  | map entries => named entries
  | other => .error (other.unlike record)

end Node

/-- Whether a document is missing or nothing but a scalar that is left out. -/
def isEmptyRoot : Option Node → Bool
  | none => true
  | some node =>
    match node with
    | .plain text => text == ""
    | _ => false

/-- The value that a YAML text gives to a reader of its root. -/
def readRoot {α : Type} (read : Option Node → Decoded α) (text : String) : Result α :=
  match Node.read text with
  | .error error => .error (.notYaml error)
  | .ok root => (read root).mapError .notOfType

/-- A reader of a root that has to be there. -/
def present {α : Type} (read : Node → Decoded α) : Option Node → Decoded α
  | some node => read node
  | none => .error (.wrongType "end of text" "a value")

/-- A reader of a root that is a list, or of an empty text as the empty list. -/
def listOf {α : Type} (read : Node → Decoded α) (root : Option Node) : Decoded (List α) :=
  if isEmptyRoot root then .ok []
  else
    match root with
    | some (.list items) => items.mapM read
    | some other => .error (other.unlike "a sequence")
    | none => .ok []

/-- A reader of a root that is a map from names, or of an empty text as the empty map. -/
def entriesOf {α : Type} (read : Node → Decoded α) (root : Option Node) :
    Decoded (List (String × α)) :=
  if isEmptyRoot root then .ok []
  else
    match root with
    | some (.map entries) => do
      let entries ← Node.named entries
      entries.mapM fun (name, node) => do
        let value ← read node
        return (name, value)
    | some other => .error (other.unlike "a map")
    | none => .ok []

end ClusterSchema.Yaml
