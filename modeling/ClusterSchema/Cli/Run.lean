import ClusterSchema.Cli.Plan
import ClusterSchema.Client.Connector
import ClusterSchema.Session.Cluster

/-!
# Runs

What a plan prints.  Compiling prints the SQL of each command up to the first that has none; listing
tables prints a line for each, and nothing before all of them are known.  How inputs are read and
hosts are reached is left to the monad in which the program runs, and how the text of an input
becomes a list of entries to a parser.
-/

namespace ClusterSchema.Cli

/-- What a run prints, and why it fails if it does. -/
structure Printed where
  stdout : String
  error : Option RunError
deriving DecidableEq, Repr

namespace Printed

/-- A run that prints nothing and fails. -/
def failure (error : RunError) : Printed := ⟨"", some error⟩

/-- A run that prints `stdout` and succeeds. -/
def success (stdout : String) : Printed := ⟨stdout, none⟩

/-- The same run after something else was printed. -/
def after (before : String) (printed : Printed) : Printed :=
  { printed with stdout := before ++ printed.stdout }

end Printed

/-- The line for a statement. -/
def statementLine (sql : String) : String := sql ++ ";\n"

/-- Compiles commands in order, up to the first that has no SQL. -/
def compileEntries (grammar : Grammar) : List CommandEntry → Printed
  | [] => .success ""
  | entry :: rest =>
    match grammar.compile entry.command entry.table with
    | .ok sql => (compileEntries grammar rest).after (statementLine sql)
    | .error error => .failure (.failed (.compile error))

/-- Compiles the commands of a text, given what the text lists. -/
def compileText (parse : String → Except Cause (List CommandEntry)) (grammar : Grammar)
    (text : String) : Printed :=
  match parse text with
  | .ok entries => compileEntries grammar entries
  | .error error => .failure (.notCommands error)

/-- The failure to read a source. -/
def Source.unreadable (source : Source) (error : InputError) : RunError :=
  match source with
  | stdin => .unreadableStdin error
  | file path => .unreadableFile path error

/-- Compiles the commands of a source, given what came of reading it. -/
def compileSource (parse : String → Except Cause (List CommandEntry)) (grammar : Grammar)
    (source : Source) : Except InputError String → Printed
  | .ok text => compileText parse grammar text
  | .error error => .failure (source.unreadable error)

/-- The line for a table. -/
def tableLine (table : TableInfo) : String :=
  table.schema ++ "." ++ table.name ++ "\t" ++ String.ofList (Text.Numeral.writeInt table.size)
    ++ "\t" ++ table.comment.getD "" ++ "\n"

/-- The lines for tables. -/
def tableLines (tables : List TableInfo) : String := String.join (tables.map tableLine)

/-- What a listing needs besides its plan: the network, what can be done on a connection, and the
order in which hosts are tried and answer. -/
structure Surroundings (σ τ η : Type) where
  dial : Client.Dialer σ η
  session : Session η
  shuffle : HostShuffle τ
  /-- In a race, the hosts in the order in which they answer. -/
  completions : List String := []

/-- A listing that is done. -/
structure Listing (σ τ η : Type) where
  printed : Printed
  resolution : Resolution σ τ η
  /-- The connection that was asked for tables, afterwards. -/
  connection : Option (Connection η)

/-- Asks a connection for tables in the way of a driver: CockroachDB makes a cluster connection of
it, and PostgreSQL asks it as it is. -/
def askForTables {η : Type} (session : Session η) (driver : Driver) (connection : Connection η) :
    Except Failure (List TableInfo) × Connection η :=
  match driver with
  | .cockroach =>
    let work := (ClusterConnection.ofConnection connection).tables session
    (work.result, work.connection.connection)
  | .postgres =>
    let grammar : Grammar := { dialect := .postgres, tablePrefix := connection.tablePrefix }
    session.queryTablesOn grammar.tablesQuery connection

/-- What a listing prints after a resolution, and the connection that was asked, afterwards. -/
def listOn {η : Type} (session : Session η) (driver : Driver) :
    Outcome η → Printed × Option (Connection η)
  | .exhausted failure => (.failure (.failed (.connect failure)), none)
  | .crashed message => (.failure (.crashed message), none)
  | .connected connection =>
    match askForTables session driver connection with
    | (.ok tables, connection) => (.success (tableLines tables), some connection)
    | (.error failure, connection) => (.failure (.failed failure), some connection)

/-- The resolver for the hosts of a driver's database. -/
def Surroundings.resolver {σ τ η : Type} (around : Surroundings σ τ η) (driver : Driver)
    (policy : ResolvePolicy) : Resolver σ τ η where
  connector := Client.connector driver.defaultPort around.dial
  shuffle := around.shuffle
  policy

/-- Lists the tables of a database, in the words of the driver's dialect. -/
def listTables {σ τ η : Type} (around : Surroundings σ τ η) (driver : Driver)
    (config : ConnectionConfig) (policy : ResolvePolicy) (network : σ) (shuffle : τ) :
    Listing σ τ η :=
  let resolution :=
    (around.resolver driver policy).resolve config around.completions network shuffle
  let (printed, connection) := listOn around.session driver resolution.outcome
  { printed, resolution, connection }

/-- What an invocation prints, given how to parse a command file, how to read a source and how to
list tables. -/
def Invocation.printed {m : Type → Type} [Monad m] (invocation : Invocation)
    (parse : String → Except Cause (List CommandEntry))
    (read : Source → m (Except InputError String))
    (list : Driver → ConnectionConfig → ResolvePolicy → m Printed) : m Printed :=
  match Plan.ofInvocation invocation with
  | .error error => return .failure error
  | .ok (.compile grammar source) => return compileSource parse grammar source (← read source)
  | .ok (.tables driver config policy) => list driver config policy

/-- How the program ends. -/
structure Ending where
  code : UInt8
  stdout : String
  /-- What the program says on stderr about its end.  Its log goes there as well, unless it is
  turned off, and is no part of this. -/
  report : String
deriving DecidableEq, Repr

namespace Ending

/-- The program's name and version. -/
def versionText : String := "roachql 0.1.0\n"

/-- How the program is used, in one line. -/
def usageLine : String := "Usage: roachql [OPTIONS] <COMMAND>\n"

/-- The line of the help for an option. -/
def optionLine (option : OptionName) : String :=
  let letter :=
    match option.letter? with
    | some letter => String.ofList ['-', letter] ++ ", "
    | none => ""
  "  " ++ letter ++ "--" ++ option.long ++ " <" ++ option.valueName ++ ">  " ++ option.purpose ++
    "\n"

/-- How the program is used. -/
def helpText : String :=
  "Compile schema commands for CockroachDB and list cluster tables\n\n" ++ usageLine
    ++ "\nCommands:\n"
    ++ "  compile <FILE>  Compile a YAML list of schema commands to SQL\n"
    ++ "  tables <DATABASE>  Resolve a connection and list the database's tables\n"
    ++ "  help  Print this message or the help of the given subcommand(s)\n"
    ++ "\nOptions:\n" ++ String.join (OptionName.all.map optionLine)
    ++ "  -h, --help  Print help\n"
    ++ "  -V, --version  Print version\n"

/-- The end after reading of the arguments was stopped. -/
def ofHalt : Halt → Ending
  | .usage error => ⟨2, "", "error: " ++ error.message ++ "\n\n" ++ usageLine⟩
  | .help => ⟨0, helpText, ""⟩
  | .version => ⟨0, versionText, ""⟩

/-- The end of a run. -/
def ofPrinted (printed : Printed) : Ending :=
  match printed.error with
  | none => ⟨0, printed.stdout, ""⟩
  | some error => ⟨1, printed.stdout, error.report ++ "\n"⟩

end Ending

/-- The end of an invocation, given how to parse a command file, how to read a source and how to
list tables. -/
def Invocation.ending {m : Type → Type} [Monad m] (invocation : Invocation)
    (parse : String → Except Cause (List CommandEntry))
    (read : Source → m (Except InputError String))
    (list : Driver → ConnectionConfig → ResolvePolicy → m Printed) : m Ending :=
  Ending.ofPrinted <$> invocation.printed parse read list

end ClusterSchema.Cli
