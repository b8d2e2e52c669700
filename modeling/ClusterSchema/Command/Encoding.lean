import ClusterSchema.Command.Decoding
import ClusterSchema.Document.Fields

/-!
# Schema commands as documents

The fields of a command with their values, and the documents that stand for it: objects, and lists
that start with the kind.
-/

namespace ClusterSchema

open Document Record

/-- The fields of an index with their values, in their order. -/
def IndexCommand.fieldValues (index : IndexCommand) : List (String × Document) :=
  [("name", .text index.name), ("columns", ofTexts index.columns),
   ("algorithm", ofOptional .text index.algorithm), ("storing", ofTexts index.storing)]

/-- The fields of a uniqueness constraint with their values, in their order. -/
def UniqueCommand.fieldValues (unique : UniqueCommand) : List (String × Document) :=
  [("name", .text unique.name), ("columns", ofTexts unique.columns),
   ("storing", ofTexts unique.storing), ("deferrable", ofOptional .bool unique.deferrable),
   ("initially_immediate", ofOptional .bool unique.initiallyImmediate)]

/-- The fields of a full-text index with their values, in their order. -/
def FulltextCommand.fieldValues (fulltext : FulltextCommand) : List (String × Document) :=
  [("name", .text fulltext.name), ("columns", ofTexts fulltext.columns),
   ("language", ofOptional .text fulltext.language)]

/-- The one field of a drop with its value. -/
def DropCommand.fieldValues (drop : DropCommand) : List (String × Document) :=
  [("name", .text drop.name)]

namespace SchemaCommand

/-- The fields of a command with their values, in their order. -/
def fieldValues : SchemaCommand → List (String × Document)
  | createIndex index => index.fieldValues
  | createUnique unique => unique.fieldValues
  | createFulltext fulltext => fulltext.fieldValues
  | dropIndex drop | dropUnique drop | dropFulltext drop => drop.fieldValues
  | listTables => []

/-- The fields of commands that may be left out, with the values that they have then. -/
def fieldDefaults : List (String × Document) :=
  [("algorithm", .null), ("storing", ofTexts []), ("deferrable", .null),
   ("initially_immediate", .null), ("language", .null)]

/-- The entry for a command's kind. -/
def kindEntry (command : SchemaCommand) : String × Document :=
  (CommandKind.entryName, .text command.tag)

/-- The documents that stand for a command. -/
inductive Encoded : SchemaCommand → Document → Prop where
  /-- An object with the kind and the fields. -/
  | object {command : SchemaCommand} {entries : List (String × Document)} :
      Written fieldDefaults (command.kindEntry :: command.fieldValues) entries →
        Encoded command (.object entries)
  /-- A list of the kind and the fields. -/
  | list {command : SchemaCommand} {items : List Document} :
      Listed fieldDefaults (command.kindEntry :: command.fieldValues) items →
        Encoded command (.list items)
  /-- To list tables, an object with the kind and any further entries. -/
  | listTables {entries : List (String × Document)} :
      entries.filter (·.1 == CommandKind.entryName) = [kindEntry listTables] →
        Encoded listTables (.object entries)

end SchemaCommand

end ClusterSchema
