import ClusterSchema.Config.Decoding
import ClusterSchema.Document.Fields

/-!
# Connection configs as documents

The fields of a config with their values, its options as entries of their own beside them, and the
objects that stand for the config.
-/

namespace ClusterSchema

open Document Record

/-- The documents that stand for a host list: the list of its hosts, and an only host by itself. -/
inductive HostList.Encoded : HostList → Document → Prop where
  | list (hosts : HostList) : Encoded hosts (ofTexts hosts.hosts)
  | single (host : String) : Encoded (.single host) (.text host)

/-- A port as a document. -/
def Document.ofPort (port : UInt16) : Document := .int port.toNat

namespace ConnectionConfig

/-- A config's own fields with their values, given a document for its hosts. -/
def fieldValues (config : ConnectionConfig) (hosts : Document) : List (String × Document) :=
  [("host", hosts), ("port", ofOptional ofPort config.port), ("database", .text config.database),
   ("username", ofOptional .text config.username), ("password", ofOptional .text config.password),
   ("prefix", .text config.tablePrefix)]

/-- The options of a config as entries. -/
def optionValues (config : ConnectionConfig) : List (String × Document) :=
  config.extra.entries.map fun option => (option.1, .text option.2)

/-- The own fields that may be left out, with the values that they have then. -/
def fieldDefaults : List (String × Document) :=
  [("port", .null), ("username", .null), ("password", .null), ("prefix", .text "")]

/-- The entries of the objects that stand for a config: those for its own fields and, under names
that are no fields, those for its options. -/
structure Encoded (config : ConnectionConfig) (entries : List (String × Document)) : Prop where
  apart : ∀ option ∈ config.extra.entries, option.1 ∉ fieldNames
  written : ∃ hosts, config.host.Encoded hosts ∧
    Written fieldDefaults (config.fieldValues hosts ++ config.optionValues) entries

end ConnectionConfig

end ClusterSchema
