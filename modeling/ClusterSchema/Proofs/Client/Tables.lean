import ClusterSchema.Client.Connector
import ClusterSchema.Client.Wire
import ClusterSchema.Proofs.Resolve.Ends
import ClusterSchema.Proofs.Traversal

/-!
# Asking a client for tables

The tables that a query yields are those that its rows describe, row by row; the query fails as a
whole when it is refused, and with its first row that describes no table.  A handle that has just
been opened has seen no call.

* `Row.Describes`, `Row.Unreadable`              what a row says, column by column
* `tablesOf_eq_ok_iff`, `tablesOf_eq_error_iff`  the answer to a query
* `calls_eq_nil_of_mem_accepted`                 the handles that hosts give out
-/

namespace ClusterSchema

variable {σ η : Type}

namespace Catalog

/-- The row of a result describes the table: each of its fields is in the column of that name. -/
structure Row.Describes (row : Row) (table : TableInfo) : Prop where
  name : row.text "name" = .ok table.name
  schema : row.text "schema" = .ok table.schema
  size : row.size "size" = .ok table.size
  comment : row.optionalText "comment" = .ok table.comment

/-- The row of a result describes no table: one of the columns name, schema, size and comment cannot
be read, and those before it can. -/
inductive Row.Unreadable (row : Row) (cause : Cause) : Prop where
  | name (failed : row.text "name" = .error cause)
  | schema {name : String} (isName : row.text "name" = .ok name)
      (failed : row.text "schema" = .error cause)
  | size {name schema : String} (isName : row.text "name" = .ok name)
      (isSchema : row.text "schema" = .ok schema) (failed : row.size "size" = .error cause)
  | comment {name schema : String} {size : Int} (isName : row.text "name" = .ok name)
      (isSchema : row.text "schema" = .ok schema) (isSize : row.size "size" = .ok size)
      (failed : row.optionalText "comment" = .error cause)

variable {row : Row} {table : TableInfo} {rows : List Row} {found : List TableInfo} {cause : Cause}

/-- A row is read as a table if and only if every column that is asked for can be read. -/
theorem Row.tableInfo_eq_ok_iff : row.tableInfo = .ok table ↔ row.Describes table := by
  simp only [tableInfo, bind_eq_ok_iff]
  constructor
  · rintro ⟨name, isName, schema, isSchema, size, isSize, comment, isComment, same⟩
    cases same
    exact ⟨isName, isSchema, isSize, isComment⟩
  · rintro ⟨isName, isSchema, isSize, isComment⟩
    exact ⟨_, isName, _, isSchema, _, isSize, _, isComment, rfl⟩

/-- Otherwise the reading fails with the first column that cannot be read. -/
theorem Row.tableInfo_eq_error_iff : row.tableInfo = .error cause ↔ row.Unreadable cause := by
  simp only [tableInfo, bind_eq_error_iff]
  -- the columns are read one after the other, so whichever fails, those before it were read
  constructor
  · rintro (failed | ⟨name, isName, failed | ⟨schema, isSchema, failed | ⟨size, isSize, failed |
      ⟨comment, -, impossible⟩⟩⟩⟩)
    · exact .name failed
    · exact .schema isName failed
    · exact .size isName isSchema failed
    · exact .comment isName isSchema isSize failed
    · cases impossible
  · rintro (failed | ⟨isName, failed⟩ | ⟨isName, isSchema, failed⟩ |
      ⟨isName, isSchema, isSize, failed⟩)
    · exact .inl failed
    · exact .inr ⟨_, isName, .inl failed⟩
    · exact .inr ⟨_, isName, .inr ⟨_, isSchema, .inl failed⟩⟩
    · exact .inr ⟨_, isName, .inr ⟨_, isSchema, .inr ⟨_, isSize, .inl failed⟩⟩⟩

/-- Rows yield the tables that they describe, in their order. -/
theorem tables_eq_ok_iff :
    tables rows = .ok found ↔ List.Forall₂ Row.Describes rows found := by
  simp only [tables, mapM_eq_ok_iff_forall₂, Row.tableInfo_eq_ok_iff]

/-- The first row that describes no table decides. -/
theorem tables_eq_error_iff :
    tables rows = .error cause ↔ ∃ before row after found, rows = before ++ row :: after ∧
      List.Forall₂ Row.Describes before found ∧ row.Unreadable cause := by
  simp only [tables, mapM_eq_error_iff, Row.tableInfo_eq_ok_iff, Row.tableInfo_eq_error_iff]

end Catalog

namespace Client

open Catalog

variable {answer : Except Cause (List Row)} {found : List TableInfo} {cause : Cause}

/-- Why the answer to a query yields no tables: the query was refused, or a row describes no table
where all before it do. -/
inductive Unlisted : Except Cause (List Row) → Cause → Prop where
  | refused (cause : Cause) : Unlisted (.error cause) cause
  | row {before after : List Row} {row : Row} {found : List TableInfo} {cause : Cause}
      (described : List.Forall₂ Row.Describes before found) (unreadable : row.Unreadable cause) :
      Unlisted (.ok (before ++ row :: after)) cause

/-- With rows for an answer, the tables are those of the rows. -/
theorem tablesOf_ok (rows : List Row) : tablesOf (.ok rows) = tables rows := rfl

/-- A query lists the tables that its rows describe. -/
theorem tablesOf_eq_ok_iff :
    tablesOf answer = .ok found ↔
      ∃ rows, answer = .ok rows ∧ List.Forall₂ Row.Describes rows found := by
  cases answer with
  | error cause => simp [tablesOf, bind, Except.bind]
  | ok rows => simp only [tablesOf_ok, Except.ok.injEq, exists_eq_left', tables_eq_ok_iff]

/-- A query that lists no tables says why. -/
theorem tablesOf_eq_error_iff : tablesOf answer = .error cause ↔ Unlisted answer cause := by
  constructor
  · intro failed
    cases answer with
    | error reason =>
      cases failed
      exact .refused cause
    | ok rows =>
      rw [tablesOf_ok] at failed
      obtain ⟨before, row, after, found, rfl, each, unreadable⟩ := tables_eq_error_iff.mp failed
      exact .row each unreadable
  · intro unlisted
    cases unlisted with
    | refused => rfl
    | row each unreadable =>
      rw [tablesOf_ok]
      exact tables_eq_error_iff.mpr ⟨_, _, _, _, rfl, each, unreadable⟩

/-- The same dialer, whose handles also remember the calls that they have seen, so far none. -/
def Dialer.fresh (dial : Dialer σ η) : Dialer σ (η × List SessionCall) := fun settings state =>
  let (dialed, next) := dial settings state
  (dialed.map (·, []), next)

/-- A handle that a host gives out has seen no call. -/
theorem calls_eq_nil_of_mem_accepted {defaultPort : UInt16} {dial : Dialer σ η}
    {config : ConnectionConfig} {memory : σ} {asked : List String} {host : String}
    {handle : η × List SessionCall}
    (member : (host, handle) ∈
      (connector defaultPort dial.fresh).accepted config memory asked) : handle.2 = [] := by
  obtain ⟨-, earlier, said⟩ := Connector.exists_accept member
  rw [connector] at said
  -- the host was dialed, and its handle starts with no calls on record
  cases derived : Settings.ofConfig defaultPort (config.withHost host) with
  | error error => simp [derived] at said
  | ok settings =>
    cases dialed : (dial settings earlier).1 with
    | error cause => simp [derived, Dialer.fresh, dialed, answer, Except.map] at said
    | ok opened =>
      simp only [derived, Dialer.fresh, dialed, answer, Except.map, Answer.accept.injEq] at said
      rw [← said]

/-- A client never breaks down. -/
theorem connector_neverCrashes (defaultPort : UInt16) (dial : Dialer σ η) :
    (connector defaultPort dial).NeverCrashes := by
  intro config memory message
  simp only [connector]
  -- without settings it refuses, and a dialing is taken or refused
  split
  · rename_i settings _
    cases dialed : (dial settings memory).1 with
    | error cause => simp only [answer, ne_eq, reduceCtorEq, not_false_eq_true]
    | ok handle => simp only [answer, ne_eq, reduceCtorEq, not_false_eq_true]
  · exact nofun

end Client

end ClusterSchema
