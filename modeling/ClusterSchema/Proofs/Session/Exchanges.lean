import ClusterSchema.Rehearsal.Session
import ClusterSchema.Session.Task
import Mathlib.Data.List.Basic

/-!
# What a session hears

A task makes one call to its session or none, and its result says what the session has answered.
`Served` lists every way in which a task can go, with the exchange it takes and what comes of it;
`Answers` says of a list of exchanges that the session gives these answers when it is called so, one
call after the other.  Whatever the session answers, work on a connection goes as these two say, and
nothing about the connection changes but its handle.

* `call_of_served`       which call a task makes can be told before the session has said anything
* `exists_served`        one task makes one exchange or none
* `exists_done`          so the exchanges of all tasks are those that the session has seen
* `performAll_served`    the calls, the results and the connection after any list of tasks
-/

namespace ClusterSchema

variable {η : Type}

/-! ## Exchanges -/

/-- A call to a session with its answer. -/
inductive Exchange where
  | execute (sql : String) (answer : Except Cause Unit)
  | queryTables (sql : String) (answer : Except Cause (List TableInfo))

/-- The call of an exchange. -/
def Exchange.call : Exchange → SessionCall
  | execute sql _ => .execute sql
  | queryTables sql _ => .queryTables sql

/-- Called in this way from a first handle on, the session gives these answers and leaves the last
handle. -/
inductive Session.Answers (session : Session η) : η → List Exchange → η → Prop where
  | nil (handle : η) : Answers session handle [] handle
  | execute {handle next final : η} {sql : String} {answer : Except Cause Unit}
      {rest : List Exchange} (answered : session.execute sql handle = (answer, next))
      (later : Answers session next rest final) :
      Answers session handle (.execute sql answer :: rest) final
  | queryTables {handle next final : η} {sql : String} {answer : Except Cause (List TableInfo)}
      {rest : List Exchange} (answered : session.queryTables sql handle = (answer, next))
      (later : Answers session next rest final) :
      Answers session handle (.queryTables sql answer :: rest) final

/-- Exchanges that follow on each other are exchanges in a row. -/
theorem Session.Answers.append {session : Session η} {handle middle final : η}
    {earlier later : List Exchange} (first : session.Answers handle earlier middle)
    (second : session.Answers middle later final) :
    session.Answers handle (earlier ++ later) final := by
  induction first with
  | nil => exact second
  | execute answered _ ih => exact .execute answered (ih second)
  | queryTables answered _ ih => exact .queryTables answered (ih second)

/-! ## Tasks -/

/-- The call that a task makes.  A command without a statement makes none. -/
def Task.call? (grammar : Grammar) : Task → Option SessionCall
  | run command table => (grammar.compile command table).toOption.map .execute
  | execute sql => some (.execute sql)
  | tables => some (.queryTables grammar.tablesQuery)

/-- How a task goes: the exchange that it takes, if there is one, and its result.  Failures name the
host and the text that was sent. -/
inductive Served (grammar : Grammar) (host : String) :
    Task → Option Exchange → Except Failure Yield → Prop where
  | refused {command : SchemaCommand} {table : TableReference} {error : CompileError}
      (uncompiled : grammar.compile command table = .error error) :
      Served grammar host (.run command table) none (.error (.compile error))
  | ran {command : SchemaCommand} {table : TableReference} {sql : String}
      (compiled : grammar.compile command table = .ok sql) :
      Served grammar host (.run command table) (some (.execute sql (.ok ()))) (.ok (.ran sql))
  | runFailed {command : SchemaCommand} {table : TableReference} {sql : String} {cause : Cause}
      (compiled : grammar.compile command table = .ok sql) :
      Served grammar host (.run command table) (some (.execute sql (.error cause)))
        (.error (.execute ⟨host, sql, cause⟩))
  | executed {sql : String} :
      Served grammar host (.execute sql) (some (.execute sql (.ok ()))) (.ok .executed)
  | executeFailed {sql : String} {cause : Cause} :
      Served grammar host (.execute sql) (some (.execute sql (.error cause)))
        (.error (.execute ⟨host, sql, cause⟩))
  | listed {tables : List TableInfo} :
      Served grammar host .tables (some (.queryTables grammar.tablesQuery (.ok tables)))
        (.ok (.listed tables))
  | listFailed {cause : Cause} :
      Served grammar host .tables (some (.queryTables grammar.tablesQuery (.error cause)))
        (.error (.execute ⟨host, grammar.tablesQuery, cause⟩))

section Served

variable {grammar : Grammar} {host : String} {task : Task} {exchange : Option Exchange}
  {result : Except Failure Yield}

/-- The session has no part in which call a task makes. -/
theorem call_of_served (served : Served grammar host task exchange result) :
    exchange.map Exchange.call = task.call? grammar := by
  -- a command is the only task whose call hangs on something, namely on whether it compiles
  cases served with
  | refused uncompiled => simp [Task.call?, uncompiled, Except.toOption]
  | ran compiled => simp [Task.call?, compiled, Except.toOption, Exchange.call]
  | runFailed compiled => simp [Task.call?, compiled, Except.toOption, Exchange.call]
  | _ => rfl

end Served

namespace ClusterConnection

/-! ## One task -/

/-- The same connection after some calls: the handle is another one, and the calls are noted. -/
def afterCalls (cluster : ClusterConnection (η × List SessionCall)) (next : η)
    (calls : List SessionCall) : ClusterConnection (η × List SessionCall) :=
  { cluster with
    connection :=
      { cluster.connection with handle := (next, cluster.connection.handle.2 ++ calls) } }

variable (session : Session η) (cluster : ClusterConnection (η × List SessionCall))

/-- Without a call the connection is as it was. -/
theorem afterCalls_nil : cluster.afterCalls cluster.connection.handle.1 [] = cluster := by
  simp [afterCalls]

/-- Calls after calls are noted behind them, and the last handle counts. -/
theorem afterCalls_append (middle next : η) (earlier later : List SessionCall) :
    (cluster.afterCalls middle earlier).afterCalls next later =
      cluster.afterCalls next (earlier ++ later) := by
  simp [afterCalls]

/-- The session answers a statement, and that is all that happens to the connection. -/
theorem execute_recorded {sql : String} {answer : Except Cause Unit} {next : η}
    (answered : session.execute sql cluster.connection.handle.1 = (answer, next)) :
    (cluster.execute session.recorded sql).result =
        answer.mapError (fun cause => .execute ⟨cluster.host, sql, cause⟩) ∧
      (cluster.execute session.recorded sql).connection =
        cluster.afterCalls next [.execute sql] := by
  simp only [execute, Session.executeOn, Session.recorded, answered]
  exact ⟨rfl, rfl⟩

/-- The session answers the query for the tables, and that is all that happens to the connection. -/
theorem tables_recorded {answer : Except Cause (List TableInfo)} {next : η}
    (answered : session.queryTables cluster.grammar.tablesQuery cluster.connection.handle.1 =
      (answer, next)) :
    (cluster.tables session.recorded).result =
        answer.mapError
          (fun cause => .execute ⟨cluster.host, cluster.grammar.tablesQuery, cause⟩) ∧
      (cluster.tables session.recorded).connection =
        cluster.afterCalls next [.queryTables cluster.grammar.tablesQuery] := by
  simp only [tables, Session.queryTablesOn, Session.recorded, answered]
  exact ⟨rfl, rfl⟩

/-- A task makes one exchange or none, and leaves the connection as the exchange does. -/
theorem exists_served (task : Task) :
    ∃ exchange next,
      Served cluster.grammar cluster.host task exchange
        (cluster.perform session.recorded task).result ∧
      session.Answers cluster.connection.handle.1 exchange.toList next ∧
      (cluster.perform session.recorded task).connection =
        cluster.afterCalls next (exchange.toList.map Exchange.call) := by
  cases task with
  | run command table =>
    cases compiled : cluster.grammar.compile command table with
    | error error =>
      -- the session does not hear of the command
      refine ⟨none, _, ?_, .nil _, ?_⟩
      · simp only [perform, run, compiled, Work.map]
        exact .refused compiled
      · simp only [perform, run, compiled, Work.map]
        exact cluster.afterCalls_nil.symm
    | ok sql =>
      -- what the session answers is left open; only the shape of the result is looked at
      rcases answered : session.execute sql cluster.connection.handle.1 with ⟨answer, next⟩
      obtain ⟨result, connection⟩ := execute_recorded session cluster answered
      refine ⟨some (.execute sql answer), next, ?_, .execute answered (.nil _), ?_⟩
      · simp only [perform, run, compiled, Work.map, result]
        cases answer with
        | ok => exact .ran compiled
        | error cause => exact .runFailed compiled
      · simp only [perform, run, compiled, Work.map]
        exact connection
  | execute sql =>
    rcases answered : session.execute sql cluster.connection.handle.1 with ⟨answer, next⟩
    obtain ⟨result, connection⟩ := execute_recorded session cluster answered
    refine ⟨some (.execute sql answer), next, ?_, .execute answered (.nil _), connection⟩
    simp only [perform, Work.map, result]
    cases answer with
    | ok => exact .executed
    | error cause => exact .executeFailed
  | tables =>
    rcases answered :
      session.queryTables cluster.grammar.tablesQuery cluster.connection.handle.1
      with ⟨answer, next⟩
    obtain ⟨result, connection⟩ := tables_recorded session cluster answered
    refine ⟨some (.queryTables _ answer), next, ?_, .queryTables answered (.nil _), connection⟩
    simp only [perform, Work.map, result]
    cases answer with
    | ok tables => exact .listed
    | error cause => exact .listFailed

end ClusterConnection

/-! ## All tasks -/

/-- A task that has been done: the exchange that it took, if there was one, and its result. -/
structure DoneTask where
  task : Task
  exchange : Option Exchange
  result : Except Failure Yield

/-- The exchanges of some tasks, in order. -/
def exchanges (done : List DoneTask) : List Exchange := done.filterMap (·.exchange)

/-- The calls that the session has seen are those that the tasks make. -/
theorem map_call_exchanges {grammar : Grammar} {host : String} {done : List DoneTask}
    (served : ∀ each ∈ done, Served grammar host each.task each.exchange each.result) :
    (exchanges done).map Exchange.call = (done.map (·.task)).filterMap (Task.call? grammar) := by
  unfold exchanges
  rw [List.map_filterMap, List.filterMap_map]
  exact List.filterMap_congr fun each member => call_of_served (served each member)

namespace ClusterConnection

/-- Tasks in a row make their exchanges in a row, and leave the connection as these do. -/
theorem exists_done (session : Session η) (cluster : ClusterConnection (η × List SessionCall))
    (tasks : List Task) :
    ∃ done next,
      done.map (·.task) = tasks ∧
      done.map (·.result) = (cluster.performAll session.recorded tasks).1 ∧
      (∀ each ∈ done,
        Served cluster.grammar cluster.host each.task each.exchange each.result) ∧
      session.Answers cluster.connection.handle.1 (exchanges done) next ∧
      (cluster.performAll session.recorded tasks).2 =
        cluster.afterCalls next ((exchanges done).map Exchange.call) := by
  -- the connection changes from task to task, so the claim is about every connection
  induction tasks generalizing cluster with
  | nil => exact ⟨[], _, rfl, rfl, by simp, .nil _, cluster.afterCalls_nil.symm⟩
  | cons task rest ih =>
    obtain ⟨exchange, middle, served, answers, connection⟩ := exists_served session cluster task
    -- the rest of the tasks find the same host and the same grammar
    obtain ⟨done, next, tasks, results, all, later, final⟩ :=
      ih (cluster.afterCalls middle (exchange.toList.map Exchange.call))
    have grown :
        exchanges (⟨task, exchange, (cluster.perform session.recorded task).result⟩ :: done) =
          exchange.toList ++ exchanges done := by
      cases exchange <;> rfl
    refine ⟨⟨task, exchange, (cluster.perform session.recorded task).result⟩ :: done, next,
      ?_, ?_, ?_, ?_, ?_⟩
    · rw [List.map_cons, tasks]
    · rw [List.map_cons, results, performAll, connection]
    · exact List.forall_mem_cons.mpr ⟨served, all⟩
    · rw [grown]
      exact answers.append later
    · rw [grown, performAll, connection, final, afterCalls_append, List.map_append]

/-- Whatever tasks are done on a fresh connection and whatever its session answers: the session sees
the calls of the tasks in order, each once and nothing else; every result is what the answer to the
task's own call makes of it; and host, database, prefix, config and grammar are as before. -/
theorem performAll_served (session : Session η) (connection : Connection η) (tasks : List Task) :
    let fresh := ofConnection (connection.mapHandle fun handle => (handle, []))
    let grammar : Grammar :=
      { dialect := .cockroach, tablePrefix := connection.config.tablePrefix }
    let results := (fresh.performAll session.recorded tasks).1
    let final := (fresh.performAll session.recorded tasks).2
    final.connection.handle.2 = tasks.filterMap (Task.call? grammar) ∧
    (∃ done : List DoneTask,
      done.map (·.task) = tasks ∧ done.map (·.result) = results ∧
      (∀ each ∈ done, Served grammar connection.host each.task each.exchange each.result) ∧
      session.Answers connection.handle (exchanges done) final.connection.handle.1 ∧
      (exchanges done).map Exchange.call = final.connection.handle.2) ∧
    final.host = connection.host ∧ final.database = connection.database ∧
    final.tablePrefix = connection.tablePrefix ∧ final.connection.config = connection.config ∧
    final.grammar = grammar := by
  intro fresh grammar results final
  obtain ⟨done, next, isDone, hasResults, served, answers, after⟩ :=
    exists_done session fresh tasks
  -- a fresh connection has no calls on record, so all that are noted come from the tasks
  have calls : final.connection.handle.2 = (exchanges done).map Exchange.call := by
    rw [show final = _ from after]
    exact List.nil_append _
  refine ⟨?_, ⟨done, isDone, hasResults, served, ?_, calls.symm⟩, ?_⟩
  · rw [calls, map_call_exchanges served, isDone]
    rfl
  · rw [show final = _ from after]
    exact answers
  · rw [show final = _ from after]
    exact ⟨rfl, rfl, rfl, rfl, rfl⟩

/-- A connection on which one statement fails. -/
def brokenDrop : Connection Rehearsal.Rehearsed where
  handle := { failures := [("drop index \"app_visit\"@\"day\" cascade", "gone")], tables := [] }
  config := { host := .single "node2", database := "log", tablePrefix := "app_" }

/-- A command without a statement, one whose statement fails, and two tasks that succeed. -/
def fourTasks : List Task :=
  [.run (.createFulltext { name := "words", columns := ["note"] }) (.named "visit"),
    .run (.dropIndex ⟨"day"⟩) (.named "visit"), .execute "select 1", .tables]

/-- The failing tasks do not stop the others: three calls are made and the connection stays as it
was. -/
theorem performAll_served_fourTasks :
    let fresh := ofConnection (brokenDrop.mapHandle fun handle => (handle, []))
    let final := (fresh.performAll Rehearsal.session.recorded fourTasks).2
    final.connection.handle.2 =
      [.execute "drop index \"app_visit\"@\"day\" cascade", .execute "select 1",
        .queryTables Dialect.Cockroach.tablesQuery] ∧
    final.host = "node2" ∧ final.tablePrefix = "app_" := by
  obtain ⟨calls, -, host, -, tablePrefix, -⟩ :=
    performAll_served Rehearsal.session brokenDrop fourTasks
  refine ⟨calls.trans ?_, host, tablePrefix⟩
  rfl

end ClusterConnection

end ClusterSchema
