import ClusterSchema.Resolve.Outcome

/-!
# One host at a time

The plain way to resolve a connection: hosts are tried in order, the first that takes the connection
ends the search, and the failures of the others are kept in case none does.
-/

namespace ClusterSchema

/-- A search that has ended: how, what it reported, and what its connector remembers. -/
structure Search (σ η : Type) where
  outcome : Outcome η
  log : List Event
  connector : σ

namespace Search

variable {σ η : Type}

/-- Tries the hosts of a list in order, each with a config narrowed to it; `failed` are the attempts
before them. -/
def tryEach (connector : Connector σ η) (config : ConnectionConfig) :
    List String → List HostAttempt → σ → Search σ η
  | [], failed, state => ⟨.exhausted ⟨failed⟩, [], state⟩
  | host :: rest, failed, state =>
    let candidate := config.withHost host
    match connector.connect candidate state with
    | (.accept handle, next) => ⟨.connected ⟨handle, candidate⟩, [.attempting host], next⟩
    | (.crash message, next) => ⟨.crashed message, [.attempting host], next⟩
    | (.refuse cause, next) =>
      let later := tryEach connector config rest (failed ++ [⟨host, cause⟩]) next
      { later with log := .attempting host :: .attemptFailed host cause.message :: later.log }

end Search

end ClusterSchema
