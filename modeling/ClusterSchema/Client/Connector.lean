import ClusterSchema.Client.Settings
import ClusterSchema.Connection

/-!
# The client as a connector

A connector that derives client settings from a config and hands them to a dialer.  A config whose
options are no good is refused before anything is dialed, whichever host it names.
-/

namespace ClusterSchema.Client

variable {σ η : Type}

/-- Opens a connection with settings that are complete, or says why not; `σ` is what the network
remembers. -/
abbrev Dialer (σ η : Type) := Settings → σ → Except Cause η × σ

/-- The same dialer, which also remembers the settings that it was given, in order. -/
def Dialer.recorded (dial : Dialer σ η) : Dialer (σ × List Settings) η := fun settings state =>
  let (dialed, next) := dial settings state.1
  (dialed, next, state.2 ++ [settings])

/-- The answer of a connector whose dialing came to something. -/
def answer : Except Cause η → Answer η
  | .ok handle => .accept handle
  | .error cause => .refuse cause

/-- Connects to the host of a config, on `defaultPort` where neither the host nor the config names
a port. -/
def connector (defaultPort : UInt16) (dial : Dialer σ η) : Connector σ η where
  connect config state :=
    match Settings.ofConfig defaultPort config with
    | .ok settings =>
      let (dialed, next) := dial settings state
      (answer dialed, next)
    | .error error => (.refuse (.root error.message), state)

end ClusterSchema.Client
