import ClusterSchema.Command
import ClusterSchema.Document.Record

/-!
# Schema commands from documents

A command document names its kind under `kind` and holds the fields of that kind beside it, or is a
list that starts with the kind and goes on with the fields in their order.  Unknown fields are
refused; only `list_tables`, which has no fields, takes an object with any others.
-/

namespace ClusterSchema

open Document Record

namespace IndexCommand

/-- The fields of an index. -/
def fields : List (FieldCheck Document) :=
  [field "name" asText, field "columns" asTexts, field "algorithm" (optional asText),
   field "storing" asTexts]

/-- The index that an object's entries describe. -/
def ofEntries (entries : List (String × Document)) : Decoded IndexCommand := do
  visit fields [] entries
  let name ← required entries "name" asText
  let columns ← required entries "columns" asTexts
  let algorithm ← defaulted entries "algorithm" (optional asText) none
  let storing ← defaulted entries "storing" asTexts []
  return { name, columns, algorithm, storing }

/-- The index that a list of fields describes. -/
def ofItems (items : List Document) : Decoded IndexCommand := do
  let shape : Shape := ⟨"IndexCommand", 4⟩
  let name ← requiredAt shape items 0 asText
  let columns ← requiredAt shape items 1 asTexts
  let algorithm ← defaultedAt items 2 (optional asText) none
  let storing ← defaultedAt items 3 asTexts []
  checkSurplus 4 items "4 elements in sequence"
  return { name, columns, algorithm, storing }

end IndexCommand

namespace UniqueCommand

/-- The fields of a uniqueness constraint. -/
def fields : List (FieldCheck Document) :=
  [field "name" asText, field "columns" asTexts, field "storing" asTexts,
   field "deferrable" (optional asFlag), field "initially_immediate" (optional asFlag)]

/-- The constraint that an object's entries describe. -/
def ofEntries (entries : List (String × Document)) : Decoded UniqueCommand := do
  visit fields [] entries
  let name ← required entries "name" asText
  let columns ← required entries "columns" asTexts
  let storing ← defaulted entries "storing" asTexts []
  let deferrable ← defaulted entries "deferrable" (optional asFlag) none
  let initiallyImmediate ← defaulted entries "initially_immediate" (optional asFlag) none
  return { name, columns, storing, deferrable, initiallyImmediate }

/-- The constraint that a list of fields describes. -/
def ofItems (items : List Document) : Decoded UniqueCommand := do
  let shape : Shape := ⟨"UniqueCommand", 5⟩
  let name ← requiredAt shape items 0 asText
  let columns ← requiredAt shape items 1 asTexts
  let storing ← defaultedAt items 2 asTexts []
  let deferrable ← defaultedAt items 3 (optional asFlag) none
  let initiallyImmediate ← defaultedAt items 4 (optional asFlag) none
  checkSurplus 5 items "5 elements in sequence"
  return { name, columns, storing, deferrable, initiallyImmediate }

end UniqueCommand

namespace FulltextCommand

/-- The fields of a full-text index. -/
def fields : List (FieldCheck Document) :=
  [field "name" asText, field "columns" asTexts, field "language" (optional asText)]

/-- The full-text index that an object's entries describe. -/
def ofEntries (entries : List (String × Document)) : Decoded FulltextCommand := do
  visit fields [] entries
  let name ← required entries "name" asText
  let columns ← required entries "columns" asTexts
  let language ← defaulted entries "language" (optional asText) none
  return { name, columns, language }

/-- The full-text index that a list of fields describes. -/
def ofItems (items : List Document) : Decoded FulltextCommand := do
  let shape : Shape := ⟨"FulltextCommand", 3⟩
  let name ← requiredAt shape items 0 asText
  let columns ← requiredAt shape items 1 asTexts
  let language ← defaultedAt items 2 (optional asText) none
  checkSurplus 3 items "3 elements in sequence"
  return { name, columns, language }

end FulltextCommand

namespace DropCommand

/-- The one field of a drop. -/
def fields : List (FieldCheck Document) := [field "name" asText]

/-- The drop that an object's entries describe. -/
def ofEntries (entries : List (String × Document)) : Decoded DropCommand := do
  visit fields [] entries
  let name ← required entries "name" asText
  return { name }

/-- The drop that a list of fields describes. -/
def ofItems (items : List Document) : Decoded DropCommand := do
  let name ← requiredAt ⟨"DropIndexCommand", 1⟩ items 0 asText
  checkSurplus 1 items "1 element in sequence"
  return { name }

end DropCommand

namespace CommandKind

/-- The title of a kind, in capitalised words. -/
def title : CommandKind → String
  | createIndex => "CreateIndex"
  | dropIndex => "DropIndex"
  | createUnique => "CreateUniqueConstraint"
  | dropUnique => "DropUniqueConstraint"
  | createFulltext => "CreateFulltextIndex"
  | dropFulltext => "DropFulltextIndex"
  | listTables => "ListTables"

/-- Capitalised words, written small and with underscores between them. -/
def underscored : List Char → List Char
  | [] => []
  | first :: rest =>
    first.toLower :: rest.flatMap fun c => if c.isUpper then ['_', c.toLower] else [c]

/-- The word that documents use for a kind: its title, written small. -/
def word (kind : CommandKind) : String := String.ofList (underscored kind.title.toList)

/-- The kind that a word names. -/
def ofWord? (word : String) : Option CommandKind := all.find? (·.word == word)

/-- The kind that a document names. -/
def ofDocument : Document → Decoded CommandKind
  | .text word =>
    match ofWord? word with
    | some kind => .ok kind
    | none => .error (.unknownVariant word (all.map CommandKind.word))
  | other => .error (other.unlike "variant identifier")

/-- The name of the entry that holds the kind. -/
def entryName : String := "kind"

/-- The kind that entries name, and the other entries in their order; `name?` is the text that a key
is, if it is one. -/
def split {κ : Type} (name? : κ → Option String) (found : Option CommandKind) :
    List (κ × Document) → Decoded (CommandKind × List (κ × Document))
  | [] =>
    match found with
    | some kind => .ok (kind, [])
    | none => .error (.missingField entryName)
  | (key, value) :: rest =>
    if name? key = some entryName then
      match found with
      | some _ => .error (.duplicateField entryName)
      | none => do
        let kind ← ofDocument value
        split name? (some kind) rest
    else do
      let (kind, others) ← split name? found rest
      return (kind, (key, value) :: others)

/-- The names of the fields that a command of a kind has, in their order. -/
def fieldNames : CommandKind → List String
  | createIndex => IndexCommand.fields.map (·.name)
  | createUnique => UniqueCommand.fields.map (·.name)
  | createFulltext => FulltextCommand.fields.map (·.name)
  | dropIndex | dropUnique | dropFulltext => DropCommand.fields.map (·.name)
  | listTables => []

end CommandKind

namespace SchemaCommand

/-- The command of a kind that an object's other entries describe. -/
def ofEntries (kind : CommandKind) (entries : List (String × Document)) : Decoded SchemaCommand :=
  match kind with
  | .createIndex => createIndex <$> IndexCommand.ofEntries entries
  | .dropIndex => dropIndex <$> DropCommand.ofEntries entries
  | .createUnique => createUnique <$> UniqueCommand.ofEntries entries
  | .dropUnique => dropUnique <$> DropCommand.ofEntries entries
  | .createFulltext => createFulltext <$> FulltextCommand.ofEntries entries
  | .dropFulltext => dropFulltext <$> DropCommand.ofEntries entries
  | .listTables => .ok listTables

/-- The command of a kind that a list of fields describes. -/
def ofItems (kind : CommandKind) (items : List Document) : Decoded SchemaCommand :=
  match kind with
  | .createIndex => createIndex <$> IndexCommand.ofItems items
  | .dropIndex => dropIndex <$> DropCommand.ofItems items
  | .createUnique => createUnique <$> UniqueCommand.ofItems items
  | .dropUnique => dropUnique <$> DropCommand.ofItems items
  | .createFulltext => createFulltext <$> FulltextCommand.ofItems items
  | .dropFulltext => dropFulltext <$> DropCommand.ofItems items
  | .listTables => do
    checkSurplus 0 items "0 elements in sequence"
    return listTables

/-- The command that a document describes. -/
def ofDocument : Document → Decoded SchemaCommand
  | .object entries => do
    let (kind, others) ← CommandKind.split some none entries
    ofEntries kind others
  | .list [] => .error (.missingField CommandKind.entryName)
  | .list (first :: items) => do
    let kind ← CommandKind.ofDocument first
    ofItems kind items
  | other => .error (other.unlike "internally tagged enum SchemaCommand")

/-- The commands that a list document describes. -/
def listOfDocument : Document → Decoded (List SchemaCommand)
  | .list items => items.mapM ofDocument
  | other => .error (other.unlike "a sequence")

end SchemaCommand

namespace TableReference

/-- The table that a document describes. -/
def ofDocument : Document → Decoded TableReference
  | .object entries => do
    visit [field "schema" (optional asText), field "name" asText] [] entries
    let schema ← defaulted entries "schema" (optional asText) none
    let name ← required entries "name" asText
    return { schema, name }
  | .list items => do
    let schema ← defaultedAt items 0 (optional asText) none
    let name ← requiredAt ⟨"TableReference", 2⟩ items 1 asText
    checkSurplus 2 items "fewer elements in array"
    return { schema, name }
  | other => .error (other.unlike "struct TableReference")

end TableReference

end ClusterSchema
