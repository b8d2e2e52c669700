import ClusterSchema.Connection
import ClusterSchema.Event
import ClusterSchema.Failure

/-!
# Outcomes of a resolution

A resolution ends with a connection, with the failures of all hosts, or with the breakdown of the
connector itself.
-/

namespace ClusterSchema

/-- How a resolution ends. -/
inductive Outcome (η : Type) where
  | connected (connection : Connection η)
  | exhausted (failure : Exhausted)
  /-- The connector broke down, and the resolution with it. -/
  | crashed (message : String)
deriving DecidableEq

namespace Outcome

variable {η : Type}

/-- The event that reports an outcome; after a breakdown there is nobody to report it. -/
def events : Outcome η → List Event
  | connected connection => [.connected connection.host]
  | exhausted failure => [.exhausted failure.message]
  | crashed _ => []

end Outcome

end ClusterSchema
