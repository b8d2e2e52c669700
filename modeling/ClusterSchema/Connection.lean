import ClusterSchema.Cause
import ClusterSchema.Config

/-!
# Connections

A connector opens one connection to the single host of a config.  Its answer may depend on
everything that it was asked before, so it carries a state of its own.  A connection is what came
out of it together with the config that worked.
-/

namespace ClusterSchema

/-- What a connector makes of one config. -/
inductive Answer (η : Type) where
  /-- The host takes the connection. -/
  | accept (handle : η)
  /-- The host or the config is no good, and why. -/
  | refuse (cause : Cause)
  /-- The connector itself broke down. -/
  | crash (message : String)
deriving DecidableEq, Repr

/-- Opens one connection to the one host of a config; `σ` is what it remembers between calls. -/
structure Connector (σ η : Type) where
  connect : ConnectionConfig → σ → Answer η × σ

namespace Connector

variable {σ η : Type}

/-- The same connector, which also remembers the configs that it was asked for, in order. -/
def recorded (connector : Connector σ η) : Connector (σ × List ConnectionConfig) η where
  connect config state :=
    let (answer, next) := connector.connect config state.1
    (answer, next, state.2 ++ [config])

/-- Whatever a connector has been asked before, it does not break down. -/
def NeverCrashes (connector : Connector σ η) : Prop :=
  ∀ config state message, (connector.connect config state).1 ≠ .crash message

theorem recorded_neverCrashes {connector : Connector σ η} (calm : connector.NeverCrashes) :
    connector.recorded.NeverCrashes :=
  fun config state => calm config state.1

end Connector

/-- A handle with the config that led to it; the config's one host is the host of the handle. -/
structure Connection (η : Type) where
  handle : η
  config : ConnectionConfig
deriving DecidableEq

namespace Connection

variable {η : Type}

/-- The database of a connection. -/
def database (connection : Connection η) : String := connection.config.database

/-- The prefix of every table name. -/
def tablePrefix (connection : Connection η) : String := connection.config.tablePrefix

/-- The host of a connection. -/
def host (connection : Connection η) : String := connection.config.host.first

/-- The same connection with its handle changed. -/
def mapHandle {θ : Type} (connection : Connection η) (change : η → θ) : Connection θ :=
  ⟨change connection.handle, connection.config⟩

end Connection

end ClusterSchema
