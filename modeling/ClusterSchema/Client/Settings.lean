import ClusterSchema.Client.HostEntry
import ClusterSchema.Config
import ClusterSchema.Text.Blank

/-!
# Client settings

What a database client needs to open one connection, derived from a config.  Only the first host,
the credentials, the database and three of the options count.  Connections are plain text, so a
mode that insists on encryption is refused instead of being passed over.
-/

namespace ClusterSchema.Client

/-- Whether encryption is tried; none of the modes insists on it. -/
inductive SslMode where
  | disable
  | prefer
deriving DecidableEq, Repr

/-- Where a client dials. -/
inductive Endpoint where
  /-- A host name or address. -/
  | tcp (host : String)
  /-- The directory of a socket. -/
  | socket (path : String)
deriving DecidableEq, Repr

/-- Why an option keeps a connection from being tried. -/
inductive OptionError where
  /-- The mode insists on encryption. -/
  | needsEncryption (mode : String)
  /-- The mode does not exist. -/
  | unknownMode (mode : String)
  /-- The time limit is no number of seconds. -/
  | badTimeout (text : String)
deriving DecidableEq, Repr

namespace OptionError

/-- The error in words. -/
def message : OptionError → String
  | needsEncryption mode =>
    "sslmode `" ++ mode ++ "` needs TLS, which this connector does not provide"
  | unknownMode mode => "unsupported sslmode `" ++ mode ++ "`"
  | badTimeout text => "connect_timeout must be whole seconds, got `" ++ text ++ "`"

end OptionError

/-- What a client needs to open a connection.  It could be told several hosts to dial in turn, each
with a port of its own. -/
structure Settings where
  hosts : List Endpoint
  ports : List UInt16
  user : Option String
  password : Option String
  database : String
  sslMode : SslMode
  applicationName : Option String
  /-- The time limit for dialing, in seconds. -/
  connectTimeout : Option Nat
deriving DecidableEq, Repr

/-- The name of the option for encryption. -/
def sslModeOption : String := "sslmode"

/-- The name of the option for the application's name. -/
def applicationNameOption : String := "application_name"

/-- The name of the option for the time limit. -/
def connectTimeoutOption : String := "connect_timeout"

/-- The port on which PostgreSQL listens. -/
def postgresPort : UInt16 := 5432

/-- The port on which CockroachDB listens. -/
def cockroachPort : UInt16 := 26257

namespace SslMode

/-- The mode that an option names, whatever its case and the blanks around it. -/
def ofOption (text : String) : Except OptionError SslMode :=
  let mode := Text.asciiLower (Text.trim text)
  if mode = "disable" then .ok disable
  else if mode = "prefer" ∨ mode = "allow" then .ok prefer
  else if mode = "require" ∨ mode = "verify-ca" ∨ mode = "verify-full" then
    .error (.needsEncryption mode)
  else .error (.unknownMode mode)

end SslMode

namespace Endpoint

/-- Where a host is dialed: a text that starts with a slash is a path. -/
def ofHost (host : String) : Endpoint :=
  match host.toList with
  | '/' :: _ => socket host
  | _ => tcp host

end Endpoint

namespace Settings

/-- The time limit that an option names, in seconds. -/
def timeoutOfOption (text : String) : Except OptionError Nat :=
  match Text.Numeral.read? Text.Numeral.limit64 (Text.trimChars text.toList) with
  | some seconds => .ok seconds
  | none => .error (.badTimeout text)

/-- An option that may be left out. -/
def readOption {α : Type} (config : ConnectionConfig) (name : String)
    (read : String → Except OptionError α) : Except OptionError (Option α) :=
  match config.extra.get? name with
  | some text => (read text).map some
  | none => .ok none

/-- The settings for the first host of a config, which is the only one that they name.  The port is
the entry's own, else the config's, else the default. -/
def ofConfig (defaultPort : UInt16) (config : ConnectionConfig) : Except OptionError Settings := do
  let entry := HostEntry.ofText config.host.first
  let sslMode ← readOption config sslModeOption SslMode.ofOption
  let connectTimeout ← readOption config connectTimeoutOption timeoutOfOption
  return {
    hosts := [Endpoint.ofHost entry.host]
    ports := [(entry.port.orElse fun _ => config.port).getD defaultPort]
    user := config.username
    password := config.password
    database := config.database
    sslMode := sslMode.getD .prefer
    applicationName := config.extra.get? applicationNameOption
    connectTimeout }

end Settings

end ClusterSchema.Client
