import ClusterSchema.Command.Yaml
import ClusterSchema.Files
import ClusterSchema.TestCase

/-!
# Loading test cases

Reading a test case from a document or a YAML node, and a suite from a YAML text or a file.  The
table may be left out, and cases of one name replace one another.
-/

namespace ClusterSchema

open Record Yaml

/-- Why a suite cannot be loaded. -/
inductive LoadError where
  /-- The file at a path cannot be read. -/
  | unreadable (path : String) (error : InputError)
  /-- The text, known by a label, is no suite. -/
  | notSuite (label : String) (error : Yaml.ReadError)
deriving DecidableEq, Repr

namespace LoadError

/-- The error in words. -/
def message : LoadError → String
  | unreadable path error => "failed to read " ++ path ++ ": " ++ error.message
  | notSuite label error => "failed to parse " ++ label ++ ": " ++ error.message

end LoadError

namespace TestCase

/-- How the values of a test case's entries are read. -/
structure Readers (β : Type) where
  text : β → Decoded String
  optionalText : β → Decoded (Option String)
  command : β → Decoded SchemaCommand

variable {β : Type}

/-- The fields of a test case. -/
def fields (readers : Readers β) : List (FieldCheck β) :=
  [field "schema" readers.optionalText, field "table" readers.text,
   field "command" readers.command, field "sql" readers.optionalText,
   field "error" readers.optionalText, field "dialect" readers.optionalText]

/-- The test case that entries describe. -/
def ofEntries (readers : Readers β) (entries : List (String × β)) : Decoded TestCase := do
  visit (fields readers) [] entries
  let schema ← defaulted entries "schema" readers.optionalText none
  let name ← defaulted entries "table" readers.text ""
  let command ← required entries "command" readers.command
  let sql ← defaulted entries "sql" readers.optionalText none
  let error ← defaulted entries "error" readers.optionalText none
  let dialect ← defaulted entries "dialect" readers.optionalText none
  return { table := { schema, name }, command, sql, error, dialect }

/-- The readers for values that are documents. -/
def documentReaders : Readers Document where
  text := Document.asText
  optionalText := Document.optional Document.asText
  command := SchemaCommand.ofDocument

/-- The readers for values that are YAML nodes. -/
def nodeReaders : Readers Node where
  text := Node.asText
  optionalText := Node.optional Node.asText
  command := SchemaCommand.ofNode

/-- The test case that a list of fields describes. -/
def ofItems (items : List Document) : Decoded TestCase := do
  let optionalText := Document.optional Document.asText
  let schema ← defaultedAt items 0 optionalText none
  let name ← defaultedAt items 1 Document.asText ""
  let command ← requiredAt ⟨"TestCase", 6⟩ items 2 SchemaCommand.ofDocument
  let sql ← defaultedAt items 3 optionalText none
  let error ← defaultedAt items 4 optionalText none
  let dialect ← defaultedAt items 5 optionalText none
  checkSurplus 6 items "fewer elements in array"
  return { table := { schema, name }, command, sql, error, dialect }

/-- The test case that a document describes. -/
def ofDocument : Document → Decoded TestCase
  | .object entries => ofEntries documentReaders entries
  | .list items => ofItems items
  | other => .error (other.unlike "struct TestCase")

/-- The test case that a YAML node describes. -/
def ofNode (node : Node) : Decoded TestCase := do
  let entries ← node.entriesFor "struct TestCase"
  ofEntries nodeReaders entries

/-- The test case that a YAML text describes. -/
def ofYaml (text : String) : Yaml.Result TestCase := readRoot (present ofNode) text

end TestCase

namespace Suite

/-- The label of a suite that comes as a text. -/
def textLabel : String := "yaml testcase"

/-- The suite that a YAML text describes, known by a label. -/
def ofLabelled (label yaml : String) : Except LoadError (NameMap TestCase) :=
  match readRoot (entriesOf TestCase.ofNode) yaml with
  | .ok entries => .ok (NameMap.ofList entries)
  | .error error => .error (.notSuite label error)

/-- The suite that a YAML text describes. -/
def ofText (yaml : String) : Except LoadError (NameMap TestCase) := ofLabelled textLabel yaml

/-- The suite in the file at a path. -/
def ofFile (directory : Directory) (path : String) : Except LoadError (NameMap TestCase) :=
  match directory.read path with
  | .ok yaml => ofLabelled path yaml
  | .error error => .error (.unreadable path error)

end Suite

end ClusterSchema
