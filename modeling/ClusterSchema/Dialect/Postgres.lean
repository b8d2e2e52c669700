import ClusterSchema.Capability
import ClusterSchema.Command
import ClusterSchema.Dialect.Clause

/-!
# The PostgreSQL dialect

The statements PostgreSQL takes for each schema command.  Indexes have no stored columns here, so a
command that asks for some is refused by way of the capability table.
-/

namespace ClusterSchema.Dialect.Postgres

/-- The dialect's name. -/
def dialectName : String := "postgres"

/-- The text-search configuration of a full-text index that names none. -/
def defaultLanguage : String := "english"

/-- What PostgreSQL lacks. -/
def capabilities : CapabilityTable where
  dialect := dialectName
  entries :=
    [(.indexStoring, .unsupported "postgres has no `storing` clause for indexes")]

/-- The query that lists the tables of a database with size and comment. -/
def tablesQuery : String :=
  "select c.relname as name, n.nspname as schema, pg_total_relation_size(c.oid) as size, " ++
  "obj_description(c.oid, 'pg_class') as comment from pg_class c, pg_namespace n " ++
  "where c.relkind in ('r', 'p') and n.oid = c.relnamespace " ++
  "and n.nspname not in ('pg_catalog', 'information_schema') order by c.relname"

/-- Refuses stored columns. -/
def checkStoring (storing : List String) : Except CompileError Unit :=
  if storing.isEmpty then .ok () else capabilities.require .indexStoring

/-- The statement that creates an index. -/
def createIndex (tablePrefix : String) (table : TableReference) (index : IndexCommand) :
    Except CompileError String := do
  checkStoring index.storing
  return "create index " ++ Sql.name index.name ++ " on " ++ tableName tablePrefix table
    ++ usingClause index.algorithm ++ " (" ++ Sql.nameList index.columns ++ ")"

/-- The statement that creates a uniqueness constraint. -/
def createUnique (tablePrefix : String) (table : TableReference) (unique : UniqueCommand) :
    Except CompileError String := do
  checkStoring unique.storing
  return "alter table " ++ tableName tablePrefix table ++ " add constraint "
    ++ Sql.name unique.name ++ " unique (" ++ Sql.nameList unique.columns ++ ")"
    ++ timingClause unique.deferrable unique.initiallyImmediate

/-- The statement that drops a uniqueness constraint. -/
def dropUnique (tablePrefix : String) (table : TableReference) (drop : DropCommand) : String :=
  "alter table " ++ tableName tablePrefix table ++ " drop constraint " ++ Sql.name drop.name

/-- The statement that drops an index of any kind. -/
def dropIndex (drop : DropCommand) : String :=
  "drop index " ++ Sql.name drop.name

/-- One column's contribution to a full-text index. -/
def searchVector (language column : String) : String :=
  "to_tsvector(" ++ Sql.literal language ++ ", " ++ Sql.name column ++ ")"

/-- The statement that creates a full-text index over the columns' search vectors. -/
def createFulltext (tablePrefix : String) (table : TableReference) (fulltext : FulltextCommand) :
    String :=
  let language := fulltext.language.getD defaultLanguage
  "create index " ++ Sql.name fulltext.name ++ " on " ++ tableName tablePrefix table
    ++ " using gin ((" ++ Text.joined " || " (fulltext.columns.map (searchVector language)) ++ "))"

/-- The SQL for a schema command. -/
def compile (tablePrefix : String) (command : SchemaCommand) (table : TableReference) :
    Except CompileError String :=
  match command with
  | .createIndex index => createIndex tablePrefix table index
  | .createUnique unique => createUnique tablePrefix table unique
  | .dropUnique drop => .ok (dropUnique tablePrefix table drop)
  | .dropIndex drop | .dropFulltext drop => .ok (dropIndex drop)
  | .createFulltext fulltext => .ok (createFulltext tablePrefix table fulltext)
  | .listTables => .ok tablesQuery

end ClusterSchema.Dialect.Postgres
