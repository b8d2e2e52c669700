import ClusterSchema.Config.Decoding
import ClusterSchema.Yaml.Reading

/-!
# Connection configs in YAML

The database, the credentials and the prefix take any scalar as its text.  A host and the options
are documents first, so that a scalar that could be a number is refused there.
-/

namespace ClusterSchema.ConnectionConfig

open Yaml

/-- The readers for entries that are YAML nodes. -/
def nodeReaders : Readers Node where
  host := Node.viaDocument HostList.ofDocument
  port := Node.optional Node.asPort
  database := Node.asText
  optionalText := Node.optional Node.asText
  tablePrefix := Node.asText
  option := Node.viaDocument Document.asText

/-- The config that a YAML node describes. -/
def ofNode (node : Node) : Decoded ConnectionConfig := do
  let entries ← node.entriesFor "struct ConnectionConfig"
  ofEntries nodeReaders entries

/-- The config that a YAML text describes. -/
def ofYaml (text : String) : Yaml.Result ConnectionConfig := readRoot (present ofNode) text

end ClusterSchema.ConnectionConfig
