import ClusterSchema.Cause
import ClusterSchema.Command.Decoding
import ClusterSchema.Yaml.Reading

/-!
# Schema commands in YAML

A command in YAML is taken as a document first, so that its scalars have their types and its lists
may stand for records.  Its keys name fields by text or by number.  A table reference takes any
scalar as a name.
-/

namespace ClusterSchema

open Yaml Record

namespace CommandKind

/-- The field that a key stands for: a text is its name, and a number its place among the fields of
the kind, counted from zero. -/
def fieldOfKey (kind : CommandKind) (key : Node) : Decoded String :=
  match key.text?, key.natural? with
  | some name, _ => .ok name
  | none, some place =>
    match kind.fieldNames[place]? with
    | some name => .ok name
    | none => .error (key.unlike "a field number")
  | none, none => .error (key.unlike "a field identifier")

end CommandKind

namespace SchemaCommand

/-- The command of a kind that the other entries of a map describe. -/
def ofKeyed (kind : CommandKind) (entries : List (Node × Document)) : Decoded SchemaCommand :=
  match kind with
  | .listTables => .ok listTables
  | _ => do
    let named ← entries.mapM fun (key, value) => do
      let name ← kind.fieldOfKey key
      return (name, value)
    ofEntries kind named

/-- The command that a YAML node describes. -/
def ofNode : Node → Decoded SchemaCommand
  | .map entries => do
    let entries ← Node.entryDocuments entries
    let (kind, others) ← CommandKind.split Node.text? none entries
    ofKeyed kind others
  | other => other.viaDocument ofDocument

/-- The command that a YAML text describes. -/
def ofYaml (text : String) : Yaml.Result SchemaCommand := readRoot (present ofNode) text

/-- The commands that a YAML text lists. -/
def listOfYaml (text : String) : Yaml.Result (List SchemaCommand) := readRoot (listOf ofNode) text

end SchemaCommand

namespace TableReference

/-- The table that a YAML node describes. -/
def ofNode (node : Node) : Decoded TableReference := do
  let entries ← node.entriesFor "struct TableReference"
  visit [field "schema" (Node.optional Node.asText), field "name" Node.asText] [] entries
  let schema ← defaulted entries "schema" (Node.optional Node.asText) none
  let name ← required entries "name" Node.asText
  return { schema, name }

/-- The table that a YAML text describes. -/
def ofYaml (text : String) : Yaml.Result TableReference := readRoot (present ofNode) text

end TableReference

namespace CommandEntry

/-- The entry that a YAML node describes. -/
def ofNode (node : Node) : Decoded CommandEntry := do
  let entries ← node.entriesFor "struct CommandEntry"
  visit [field "schema" (Node.optional Node.asText), field "table" Node.asText,
    field "command" SchemaCommand.ofNode] [] entries
  let schema ← defaulted entries "schema" (Node.optional Node.asText) none
  let name ← required entries "table" Node.asText
  let command ← required entries "command" SchemaCommand.ofNode
  return { table := { schema, name }, command }

/-- The entries that a command file lists. -/
def listOfYaml (text : String) : Except Cause (List CommandEntry) :=
  (readRoot (listOf ofNode) text).mapError fun error => .root error.message

end CommandEntry

end ClusterSchema
