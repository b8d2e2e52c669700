import ClusterSchema.Cli.Arguments
import ClusterSchema.Cli.Report
import ClusterSchema.Client.Settings
import ClusterSchema.Driver
import ClusterSchema.Grammar
import ClusterSchema.Resolve

/-!
# Plans

What an invocation comes down to once its driver is known: commands to compile, or hosts to connect
to.  The driver is looked up first, so an unknown one is reported before anything is read or dialed.
-/

namespace ClusterSchema

/-- The dialect that a driver speaks. -/
def Driver.dialect : Driver → Dialect
  | .cockroach => .cockroach
  | .postgres => .postgres

/-- The port on which a driver's database listens. -/
def Driver.defaultPort : Driver → UInt16
  | .cockroach => Client.cockroachPort
  | .postgres => Client.postgresPort

namespace Cli

/-- The driver where none is given. -/
def defaultDriver : String := "cockroachdb"

/-- The hosts where none are given. -/
def defaultHosts : List String := ["127.0.0.1"]

/-- Where commands come from. -/
inductive Source where
  | stdin
  | file (path : String)
deriving DecidableEq, Repr

/-- The source that an argument names. -/
def Source.ofArgument (argument : String) : Source :=
  if argument = "-" then stdin else file argument

/-- What is to be done. -/
inductive Plan where
  | compile (grammar : Grammar) (source : Source)
  | tables (driver : Driver) (config : ConnectionConfig) (policy : ResolvePolicy)

namespace OptionValues

/-- The hosts that options name, without the blank ones and the blanks around the others. -/
def hostList? (options : OptionValues) : Option HostList :=
  HostList.ofList? (((options.hosts.getD defaultHosts).map Text.trim).filter (· ≠ ""))

/-- The grammar for a driver's database. -/
def grammar (options : OptionValues) (driver : Driver) : Grammar where
  dialect := driver.dialect
  tablePrefix := options.tablePrefix.getD ""

/-- The config of a connection to one of `host`. -/
def config (options : OptionValues) (host : HostList) (database : String) : ConnectionConfig where
  host
  port := options.port
  database
  username := options.user
  password := options.password
  tablePrefix := options.tablePrefix.getD ""
  extra :=
    match options.sslMode with
    | some mode => NameMap.empty.insert Client.sslModeOption mode
    | none => NameMap.empty

/-- How hosts are tried. -/
def policy (options : OptionValues) : ResolvePolicy :=
  match options.race with
  | some (limit + 1) => .race (limit + 1) (Nat.succ_pos limit)
  | some 0 | none => .sequential

end OptionValues

/-- What an invocation comes down to. -/
def Plan.ofInvocation (invocation : Invocation) : Except RunError Plan :=
  let options := invocation.options
  let name := options.driver.getD defaultDriver
  match DriverRegistry.standard.driver? name with
  | none => .error (.unknownDriver name)
  | some driver =>
    match invocation.task with
    | .compile input => .ok (.compile (options.grammar driver) (.ofArgument input))
    | .tables database =>
      match options.hostList? with
      | some host => .ok (.tables driver (options.config host database) options.policy)
      | none => .error .noHosts

end Cli

end ClusterSchema
