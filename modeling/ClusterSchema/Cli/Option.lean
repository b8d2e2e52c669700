import ClusterSchema.Text.Numeral
import ClusterSchema.Text.Pieces

/-!
# Command line options

The options of the command line with what each may hold.  An option may be given before the name of
a command and behind it; behind it counts more.  At either place it may be given once, except that
the hosts of several `--host` options add up.
-/

namespace ClusterSchema.Cli

/-- The options that hold a value. -/
inductive OptionName where
  | driver
  | host
  | port
  | user
  | password
  | tablePrefix
  | sslMode
  | race
deriving DecidableEq, Repr

namespace OptionName

/-- The name of an option behind two dashes. -/
def long : OptionName → String
  | driver => "driver"
  | host => "host"
  | port => "port"
  | user => "user"
  | password => "password"
  | tablePrefix => "prefix"
  | sslMode => "sslmode"
  | race => "race"

/-- The letter of an option behind one dash, if it has one. -/
def letter? : OptionName → Option Char
  | host => some 'H'
  | user => some 'u'
  | _ => none

/-- What an option's value is called in the help. -/
def valueName : OptionName → String
  | driver => "DRIVER"
  | host => "HOSTS"
  | port => "PORT"
  | user => "USER"
  | password => "PASSWORD"
  | tablePrefix => "PREFIX"
  | sslMode => "SSLMODE"
  | race => "N"

/-- What the help says about an option. -/
def purpose : OptionName → String
  | driver => "Driver name or alias (cockroachdb, crdb, postgres, postgresql, pgsql)"
  | host => "Candidate host; repeat the flag or separate hosts with commas"
  | tablePrefix => "Prefix applied to every table name"
  | race => "Dial up to N hosts at once instead of one at a time"
  | port | user | password | sslMode => ""

/-- Every option. -/
def all : List OptionName := [driver, host, port, user, password, tablePrefix, sslMode, race]

/-- The option of a long name. -/
def ofLong? (name : String) : Option OptionName := all.find? (·.long == name)

/-- The option of a letter. -/
def ofLetter? (letter : Char) : Option OptionName := all.find? (·.letter? == some letter)

end OptionName

/-- Why a command line makes no sense. -/
inductive UsageError where
  | unknownOption (text : String)
  | missingValue (option : OptionName)
  | surplusValue (text : String)
  | repeated (option : OptionName)
  | badValue (option : OptionName) (value : String)
  | missingCommand
  | unknownCommand (name : String)
  | missingArgument (name : String)
  | surplusArgument (text : String)
deriving DecidableEq, Repr

namespace UsageError

/-- The error in words. -/
def message : UsageError → String
  | unknownOption text => "unexpected argument '" ++ text ++ "' found"
  | missingValue option => "a value is required for '--" ++ option.long ++ "' but none was supplied"
  | surplusValue text => "unexpected value in '" ++ text ++ "' found"
  | repeated option => "the argument '--" ++ option.long ++ "' cannot be used multiple times"
  | badValue option value => "invalid value '" ++ value ++ "' for '--" ++ option.long ++ "'"
  | missingCommand => "a command is required but none was supplied"
  | unknownCommand name => "unrecognized command '" ++ name ++ "'"
  | missingArgument name => "the required argument <" ++ name ++ "> was not provided"
  | surplusArgument text => "unexpected argument '" ++ text ++ "' found"

end UsageError

/-- The values of options that were given at one place; an option that was not given has none. -/
structure OptionValues where
  driver : Option String := none
  hosts : Option (List String) := none
  port : Option UInt16 := none
  user : Option String := none
  password : Option String := none
  tablePrefix : Option String := none
  sslMode : Option String := none
  /-- How many hosts may be dialed at once. -/
  race : Option Nat := none
deriving DecidableEq, Repr

namespace OptionValues

/-- A port: an integer with an optional sign that fits. -/
def readPort? (text : String) : Option UInt16 :=
  match text.toList with
  | '-' :: digits => (Text.Numeral.digits? digits).bind fun n => if n = 0 then some 0 else none
  | chars => (Text.Numeral.read? Text.Numeral.limit16 chars).map UInt16.ofNat

/-- A number of hosts: positive and at most 64 bits wide. -/
def readCount? (text : String) : Option Nat :=
  (Text.Numeral.read? Text.Numeral.limit64 text.toList).filter (0 < ·)

/-- A value for an option that may be given once. -/
def once {α : Type} (option : OptionName) (value : String) (read? : String → Option α) :
    Option α → Except UsageError (Option α)
  | some _ => .error (.repeated option)
  | none =>
    match read? value with
    | some value => .ok (some value)
    | none => .error (.badValue option value)

/-- The values with one more option. -/
def put (values : OptionValues) (option : OptionName) (value : String) :
    Except UsageError OptionValues :=
  match option with
  | .driver => do return { values with driver := ← once option value some values.driver }
  | .host =>
    let hosts := (Text.pieces ',' value.toList).map String.ofList
    .ok { values with hosts := some (values.hosts.getD [] ++ hosts) }
  | .port => do return { values with port := ← once option value readPort? values.port }
  | .user => do return { values with user := ← once option value some values.user }
  | .password => do return { values with password := ← once option value some values.password }
  | .tablePrefix => do
    return { values with tablePrefix := ← once option value some values.tablePrefix }
  | .sslMode => do return { values with sslMode := ← once option value some values.sslMode }
  | .race => do return { values with race := ← once option value readCount? values.race }

/-- The values of two places, of which the first counts more. -/
def overriding (inner outer : OptionValues) : OptionValues where
  driver := inner.driver.or outer.driver
  hosts := inner.hosts.or outer.hosts
  port := inner.port.or outer.port
  user := inner.user.or outer.user
  password := inner.password.or outer.password
  tablePrefix := inner.tablePrefix.or outer.tablePrefix
  sslMode := inner.sslMode.or outer.sslMode
  race := inner.race.or outer.race

end OptionValues

end ClusterSchema.Cli
