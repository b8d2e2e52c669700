import ClusterSchema.Resolve.Race.Conduct
import ClusterSchema.Resolve.Sequential
import ClusterSchema.Resolve.Shuffle

/-!
# Resolving a connection

A resolver turns a config with several hosts into one connection.  It puts the hosts into the order
of its shuffle and then tries them one at a time or races them.  Either way every connector call
gets the config narrowed to one host, and the connection keeps the config that worked.
-/

namespace ClusterSchema

/-- How hosts are tried. -/
inductive ResolvePolicy where
  /-- One host at a time. -/
  | sequential
  /-- At most `limit` hosts at once. -/
  | race (limit : Nat) (positive : 0 < limit)
deriving DecidableEq, Repr

/-- Turns configs into connections. -/
structure Resolver (σ τ η : Type) where
  connector : Connector σ η
  shuffle : HostShuffle τ
  policy : ResolvePolicy := .sequential

/-- A resolution that has ended and whose attempts have all ended. -/
structure Resolution (σ τ η : Type) where
  outcome : Outcome η
  /-- What was reported, in order. -/
  log : List Event
  /-- The handles that were opened and closed again. -/
  dropped : List η
  /-- What the connector remembers. -/
  connector : σ
  /-- What the shuffle remembers. -/
  shuffle : τ

namespace Resolver

variable {σ τ η : Type}

/-- The race of a connector for the hosts of an order. -/
def raceSetup (connector : Connector σ η) (config : ConnectionConfig) (order : List String)
    (limit : Nat) : Race.Setup σ η where
  order
  limit
  dial index state := connector.connect (config.withHost (order.getD index "")) state

/-- Resolves a config.  In a race `completions` says in which order hosts answer. -/
def resolve (resolver : Resolver σ τ η) (config : ConnectionConfig) (completions : List String)
    (connector : σ) (shuffle : τ) : Resolution σ τ η :=
  let (order, shuffle) := resolver.shuffle.shuffle config.host.hosts shuffle
  let opening := [.resolving config.database config.host.size, .permutation order]
  match resolver.policy with
  | .sequential =>
    let search := Search.tryEach resolver.connector config order [] connector
    { outcome := search.outcome
      log := opening ++ search.log ++ search.outcome.events
      dropped := []
      connector := search.connector
      shuffle }
  | .race limit _ =>
    let setup := raceSetup resolver.connector config order limit
    let final := Race.play setup completions connector
    let outcome := Race.outcome setup config final
    { outcome
      log := opening ++ final.log ++ outcome.events
      dropped := final.dropped
      connector := final.connector
      shuffle }

end Resolver

end ClusterSchema
