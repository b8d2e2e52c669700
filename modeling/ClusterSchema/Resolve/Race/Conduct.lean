import ClusterSchema.Resolve.Race

/-!
# A race played through

One run of a race, for where the answers come at known times: every attempt can be started, the
connector is called as soon as it starts, and a list of hosts says who answers first.  `next?`
chooses a move that the state allows, so what comes out is the end of a run like any other.
-/

namespace ClusterSchema.Race

variable {σ η : Type}

/-- The attempt that answers next: the first of those with an answer whose host is the next one
listed, and hosts that have no answer are passed over.  After the end of the list attempts answer in
the order of their calls.  Yields the attempt's position and the rest of the list. -/
def nextSender? (setup : Setup σ η) (answered : List (Message η)) :
    List String → Option (Nat × List String)
  | [] => answered.head?.map fun message => (message.1, [])
  | host :: later =>
    match answered.find? fun message => setup.host message.1 == host with
    | some message => some (message.1, later)
    | none => nextSender? setup answered later

/-- The next move of a race that is played through, and the hosts that have yet to answer. -/
def next? (setup : Setup σ η) (completions : List String) (state : State σ η) :
    Option (Move × List String) :=
  match state.dialing with
  | index :: _ => some (.dial index, completions)
  | [] =>
    match state.phase, state.channel with
    | .draining _ _, message :: _ => some (.drain message.1, completions)
    | .draining _ _, [] => some (.stopDraining, completions)
    | .leaving _ _, _ => some (.leave, completions)
    | .collecting, channel =>
      if hasRoom setup state then some (.start state.reached, completions)
      else
        match channel, nextSender? setup state.answered completions with
        | message :: _, _ => some (.receive message.1, completions)
        | [], some (index, later) => some (.send index, later)
        | [], none => some (.giveUp, completions)
    | .won _ _, _ | .exhausted, _ =>
      (nextSender? setup state.answered completions).map fun (index, later) => (.send index, later)

/-- Plays at most `moves` moves. -/
def conduct (setup : Setup σ η) : Nat → List String → State σ η → State σ η
  | 0, _, state => state
  | moves + 1, completions, state =>
    match next? setup completions state with
    | none => state
    | some (move, later) =>
      match step? setup state move with
      | none => state
      | some next => conduct setup moves later next

/-- Plays a race to its end.  Each attempt is started, answered, sent and received at most once, and
the coordinator needs at most two moves to return. -/
def play (setup : Setup σ η) (completions : List String) (connector : σ) : State σ η :=
  conduct setup (4 * setup.order.length + 2) completions (initial setup connector)

end ClusterSchema.Race
