import ClusterSchema.Client.Connector
import ClusterSchema.Client.Wire
import ClusterSchema.Rehearsal.Result

/-!
# A database node without a database

A node on this machine that follows a script: it turns some connections away, may ask for a
password, and gives the same answer to every query.  It remembers what clients sent.  Clients that
dial anything else find nobody.
-/

namespace ClusterSchema.Rehearsal

/-- What a node does. -/
structure NodeScript where
  /-- How many connections are turned away before the node accepts any. -/
  refusals : Nat := 0
  asksPassword : Bool := false
  columns : List Column := []
  rows : List (List Cell) := []
  /-- The text with which every statement fails, if they do. -/
  queryError : Option String := none
deriving Repr

/-- What a node has seen of its clients. -/
inductive Sighting where
  /-- A client has introduced itself. -/
  | connection (user database : String) (applicationName password : Option String)
  /-- A statement was executed. -/
  | statement (sql : String)
deriving DecidableEq, Repr

/-- A node. -/
structure Node where
  script : NodeScript
  port : UInt16
  /-- The user whom clients take themselves to be where no name is given. -/
  localUser : String := "root"
  /-- How many connections are still to be turned away. -/
  refusalsLeft : Nat := script.refusals
  seen : List Sighting := []
deriving Repr

/-- A connection to a node. -/
structure NodeHandle where
  script : NodeScript
  /-- What the node has seen of this connection since it was accepted. -/
  seen : List Sighting := []
deriving Repr

namespace Node

/-- A failure of the network. -/
def unreachable (reason : String) : Cause := .dueTo "error connecting to server" (.root reason)

/-- A failure that the node reports. -/
def reported (severity text : String) : Cause :=
  .dueTo "db error" (.root (severity ++ ": " ++ text))

/-- The failure to send a text with a NUL in it, which would end the text early. -/
def unsendable : Cause :=
  .dueTo "error encoding message to server" (.root "string contains embedded null")

/-- Whether a text cannot be sent. -/
def hasNul (text : String) : Bool := text.toList.contains '\x00'

/-- The failure to log in without a password. -/
def passwordMissing : Cause := .dueTo "invalid configuration" (.root "password missing")

/-- The names under which the node's machine is known. -/
def isLocal (host : String) : Bool := host == "127.0.0.1" || host.toLower == "localhost"

/-- Whether a host is written as a number, so that no name has to be looked up. -/
def isNumeric (host : String) : Bool :=
  host.toList.contains ':' || host.toList.all fun c => c.isDigit || c == '.'

/-- The failure to look up a name: the machine knows no names but its own. -/
def nameUnknown : Cause :=
  unreachable "failed to lookup address information: Temporary failure in name resolution"

/-- The path of a node's socket in a directory. -/
def socketPath (directory : String) (port : UInt16) : String :=
  let name := ".s.PGSQL." ++ String.ofList (Text.Numeral.write port.toNat)
  if directory.endsWith "/" then directory ++ name else directory ++ "/" ++ name

/-- How many bytes are too many for the path of a socket. -/
def socketPathLimit : Nat := 108

/-- Why a socket cannot be dialed on a machine that has none. -/
def noSocket (path : String) : Cause :=
  if hasNul path then unreachable "paths must not contain interior null bytes"
  else if socketPathLimit ≤ path.utf8ByteSize then unreachable "path must be shorter than SUN_LEN"
  else unreachable "No such file or directory (os error 2)"

/-- Whether the network leads to the node, and what is in the way otherwise.  Only the first host is
tried. -/
def reach (node : Node) (settings : Client.Settings) : Except Cause Unit :=
  match settings.hosts, settings.ports with
  | .socket directory :: _, port :: _ => .error (noSocket (socketPath directory port))
  | .tcp host :: _, port :: _ =>
    if settings.connectTimeout = some 0 then .error (unreachable "connection timed out")
    else if isLocal host && port == node.port then .ok ()
    else if isLocal host || isNumeric host then
      .error (unreachable "Connection refused (os error 111)")
    else .error nameUnknown
  | _, _ => .error (.dueTo "invalid configuration" (.root "host missing"))

/-- A client that has come to the node introduces itself and logs in. -/
def greet (node : Node) (settings : Client.Settings) : Except Cause NodeHandle × Node :=
  let user := settings.user.getD node.localUser
  if [user, settings.database, settings.applicationName.getD ""].any hasNul then
    (.error unsendable, node)
  else
    let met (password : Option String) : Node :=
      { node with
        seen := node.seen
          ++ [.connection user settings.database settings.applicationName password] }
    match node.refusalsLeft, node.script.asksPassword, settings.password with
    | left + 1, _, _ =>
      (.error (reported "FATAL" "the node is draining"),
        { met none with refusalsLeft := left })
    | 0, false, _ => (.ok { script := node.script }, met none)
    | 0, true, none => (.error passwordMissing, met none)
    | 0, true, some password =>
      if hasNul password then (.error unsendable, met none)
      else (.ok { script := node.script }, met (some password))

/-- Dials the node. -/
def dial : Client.Dialer Node NodeHandle := fun settings node =>
  match node.reach settings with
  | .error cause => (.error cause, node)
  | .ok () => node.greet settings

end Node

namespace NodeHandle

/-- Sends a statement; where it succeeds it yields `value` and is seen as `sighting`. -/
def submit {α : Type} (value : α) (sightings : List Sighting) (sql : String)
    (handle : NodeHandle) : Except Cause α × NodeHandle :=
  if Node.hasNul sql then (.error Node.unsendable, handle)
  else
    match handle.script.queryError with
    | some text => (.error (Node.reported "ERROR" text), handle)
    | none => (.ok value, { handle with seen := handle.seen ++ sightings })

/-- The rows that every query yields. -/
def rows (handle : NodeHandle) : List Catalog.Row :=
  handle.script.rows.map fun cells => ResultRow.toRow ⟨handle.script.columns, cells⟩

/-- What can be sent on a connection to a node. -/
def wire : Client.Wire NodeHandle where
  execute sql handle := submit () [.statement sql] sql handle
  query sql handle := submit handle.rows [] sql handle

/-- What can be done on a connection to a node. -/
def session : Session NodeHandle := wire.session

end NodeHandle

end ClusterSchema.Rehearsal
