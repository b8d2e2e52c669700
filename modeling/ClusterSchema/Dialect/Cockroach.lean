import ClusterSchema.Dialect.Postgres

/-!
# The CockroachDB dialect

CockroachDB speaks PostgreSQL's language with departures of its own: indexes may store columns,
every drop goes through the index and names its table, there is no full-text index, and the size
of a table is not known.  What departs is listed in the capability table; the names are quoted and
prefixed as in PostgreSQL.
-/

namespace ClusterSchema.Dialect.Cockroach

/-- The dialect's name. -/
def dialectName : String := "cockroachdb"

/-- Where CockroachDB departs from PostgreSQL. -/
def capabilities : CapabilityTable where
  dialect := dialectName
  entries :=
    [(.fulltext,
        .unsupported "Fulltext indexes are not supported by CockroachDB as of version 2.5"),
     (.alterTableDropUnique, .replaced "drop index <table>@<index> cascade"),
     (.totalRelationSize, .replaced "-1"),
     (.indexStoring, .native)]

/-- The stored columns of an index, when there are any. -/
def storingClause (storing : List String) : String :=
  if storing.isEmpty then "" else " storing (" ++ Sql.nameList storing ++ ")"

/-- The statement that creates an index. -/
def createIndex (tablePrefix : String) (table : TableReference) (index : IndexCommand) : String :=
  "create index " ++ Sql.name index.name ++ " on " ++ tableName tablePrefix table
    ++ usingClause index.algorithm ++ " (" ++ Sql.nameList index.columns ++ ")"
    ++ storingClause index.storing

/-- The statement that creates a uniqueness constraint. -/
def createUnique (tablePrefix : String) (table : TableReference) (unique : UniqueCommand) :
    String :=
  "alter table " ++ tableName tablePrefix table ++ " add constraint " ++ Sql.name unique.name
    ++ " unique (" ++ Sql.nameList unique.columns ++ ")" ++ storingClause unique.storing
    ++ timingClause unique.deferrable unique.initiallyImmediate

/-- The statement that drops an index, found through its table. -/
def dropIndex (tablePrefix : String) (table : TableReference) (drop : DropCommand) : String :=
  "drop index " ++ tableName tablePrefix table ++ "@" ++ Sql.name drop.name ++ " cascade"

/-- The expression for a table's size. -/
def sizeExpression : String :=
  match capabilities.support .totalRelationSize with
  | .replaced form => form
  | .native | .unsupported _ => "pg_total_relation_size(c.oid)"

/-- The query that lists the tables of a database with size and comment. -/
def tablesQuery : String :=
  "select c.relname as name, n.nspname as schema, " ++ sizeExpression ++ " as size, " ++
  "obj_description(c.oid, 'pg_class') as comment from pg_class c, pg_namespace n " ++
  "where c.relkind = 'r' and n.oid = c.relnamespace order by c.relname"

/-- The SQL for a schema command.  A feature without a form of its own is required first and then
left to PostgreSQL's statement. -/
def compile (tablePrefix : String) (command : SchemaCommand) (table : TableReference) :
    Except CompileError String :=
  match command with
  | .createIndex index => .ok (createIndex tablePrefix table index)
  | .createUnique unique => .ok (createUnique tablePrefix table unique)
  | .dropUnique drop =>
    match capabilities.support .alterTableDropUnique with
    | .replaced _ => .ok (dropIndex tablePrefix table drop)
    | .native | .unsupported _ => do
      capabilities.require .alterTableDropUnique
      Postgres.compile tablePrefix command table
  | .dropIndex drop | .dropFulltext drop => .ok (dropIndex tablePrefix table drop)
  | .createFulltext _ => do
    capabilities.require .fulltext
    Postgres.compile tablePrefix command table
  | .listTables => .ok tablesQuery

end ClusterSchema.Dialect.Cockroach
