import ClusterSchema.Config
import ClusterSchema.Document.Record

/-!
# Connection configs from documents

A config is an object with six fields of its own; every other entry is an option and has to be a
text.  Own fields are read as they are met, then missing ones are noticed, and the options are read
last.  A host is a text or a list of texts.
-/

namespace ClusterSchema

open Document Record

namespace HostList

/-- The hosts that a document names: a text, or texts in a list. -/
def ofDocument : Document → Decoded HostList
  | .text host => .ok (single host)
  | .list items =>
    match items.mapM asText with
    | .ok hosts =>
      match ofList? hosts with
      | some found => .ok found
      | none => .error .emptyHostList
    | .error _ => .error .noHostShape
  | _ => .error .noHostShape

end HostList

namespace ConnectionConfig

/-- The names of a config's own fields. -/
def fieldNames : List String := ["host", "port", "database", "username", "password", "prefix"]

/-- How the values of a config's entries are read. -/
structure Readers (β : Type) where
  host : β → Decoded HostList
  port : β → Decoded (Option UInt16)
  database : β → Decoded String
  optionalText : β → Decoded (Option String)
  tablePrefix : β → Decoded String
  /-- A value of an option. -/
  option : β → Decoded String

variable {β : Type}

/-- A config's own fields. -/
def fields (readers : Readers β) : List (FieldCheck β) :=
  [field "host" readers.host, field "port" readers.port, field "database" readers.database,
   field "username" readers.optionalText, field "password" readers.optionalText,
   field "prefix" readers.tablePrefix]

/-- The options among entries, a later one of a name in place of an earlier one. -/
def options (readers : Readers β) : List (String × β) → NameMap String → Decoded (NameMap String)
  | [], found => .ok found
  | (name, value) :: rest, found => do
    let value ← readers.option value
    options readers rest (found.insert name value)

/-- The config that entries describe. -/
def ofEntries (readers : Readers β) (entries : List (String × β)) : Decoded ConnectionConfig := do
  let own := entries.filter fun entry => fieldNames.contains entry.1
  let others := entries.filter fun entry => !fieldNames.contains entry.1
  visit (fields readers) [] own
  let host ← required own "host" readers.host
  let port ← defaulted own "port" readers.port none
  let database ← required own "database" readers.database
  let username ← defaulted own "username" readers.optionalText none
  let password ← defaulted own "password" readers.optionalText none
  let tablePrefix ← defaulted own "prefix" readers.tablePrefix ""
  let extra ← options readers others NameMap.empty
  return { host, port, database, username, password, tablePrefix, extra }

/-- The readers for entries that are documents. -/
def documentReaders : Readers Document where
  host := HostList.ofDocument
  port := optional asPort
  database := asText
  optionalText := optional asText
  tablePrefix := asText
  option := asText

/-- The config that a document describes. -/
def ofDocument : Document → Decoded ConnectionConfig
  | .object entries => ofEntries documentReaders entries
  | other => .error (other.unlike "struct ConnectionConfig")

end ConnectionConfig

end ClusterSchema
