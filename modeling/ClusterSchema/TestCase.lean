import ClusterSchema.Grammar
import ClusterSchema.NameMap
import ClusterSchema.Text.Blank

/-!
# Compile test cases

A test case is a command with what it must compile to, either the exact SQL or an error, and
possibly a filter that says in which dialects it counts.  A suite is a map of cases, and running it
lists the failed ones in byte order of their names.
-/

namespace ClusterSchema

/-- A command with what it must compile to. -/
structure TestCase where
  table : TableReference
  command : SchemaCommand
  /-- The exact SQL that must come out. -/
  sql : Option String := none
  /-- The feature that must be missing, by its word or by the whole message. -/
  error : Option String := none
  /-- The dialect in which the case counts, or with `!` before it the one in which it does not. -/
  dialect : Option String := none
deriving DecidableEq, Repr

/-- The outcome of a test case. -/
inductive TestResult where
  | passed
  | skipped (reason : String)
  | failed (reason : String)
deriving DecidableEq, Repr

/-- Whether a case with a dialect filter counts in a dialect.  A blank filter is none; blanks around
the filter do not count, but blanks after the `!` do. -/
def matchesDialect (requirement : Option String) (current : String) : Bool :=
  match requirement with
  | none => true
  | some text =>
    match Text.trimChars text.toList with
    | [] => true
    | '!' :: excluded => decide (String.ofList excluded ≠ current)
    | wanted => decide (String.ofList wanted = current)

namespace TestCase

/-- A case for a table without a schema that must compile to `sql`. -/
def ofSql (table : String) (command : SchemaCommand) (sql : String) : TestCase :=
  { table := TableReference.named table, command, sql := some sql }

/-- Whether a compile error is the one that a case expects. -/
def errorMatches (error : CompileError) (expected : String) : Bool :=
  let expected := Text.trim expected
  error.feature.id == expected || error.message == expected

/-- How what a command compiles to compares with what the case expects. -/
def compare (test : TestCase) (outcome : Except CompileError String) : TestResult :=
  match test.sql, test.error with
  | some _, some _ | none, none => .failed "exactly one of `sql` and `error` must be set"
  | some expected, none =>
    match outcome with
    | .ok actual =>
      if actual = expected then .passed
      else .failed ("SQL mismatch\nexpected: " ++ expected ++ "\n  actual: " ++ actual)
    | .error error => .failed ("unexpected error: " ++ error.message)
  | none, some expected =>
    match outcome with
    | .ok actual =>
      .failed ("expected error: " ++ expected ++ ", but compiled to: " ++ actual)
    | .error error =>
      if errorMatches error expected then .passed
      else .failed ("expected error: " ++ expected ++ ", but got: " ++ error.message)

/-- The outcome of a case in a grammar. -/
def run (test : TestCase) (grammar : Grammar) : TestResult :=
  if matchesDialect test.dialect grammar.name then
    test.compare (grammar.compile test.command test.table)
  else
    .skipped ("testcase requires dialect '" ++ test.dialect.getD "" ++ "', running on '"
      ++ grammar.name ++ "'")

end TestCase

/-- The line for a case in the list of failures, if it failed. -/
def TestResult.failureLine? (name : String) : TestResult → Option String
  | failed reason => some (name ++ ": " ++ reason)
  | passed | skipped _ => none

/-- The failures of a suite in a grammar, in byte order of the names. -/
def suiteFailures (grammar : Grammar) (cases : NameMap TestCase) : List String :=
  cases.entries.filterMap fun entry => (entry.2.run grammar).failureLine? entry.1

end ClusterSchema
