import ClusterSchema.Resolve.Outcome

/-!
# Racing hosts

Several hosts are tried at once and the first that takes the connection wins.  A coordinator starts
attempts in order, never more than a limit at a time.  Each attempt calls the connector once, in its
own time, and sends the answer through a channel.  The coordinator receives answers one by one: a
failure makes room for the next attempt, a success ends the race.  On a success the coordinator
closes the handles that are already in the channel and leaves, and with the channel goes whatever
came in meanwhile; an attempt that answers later finds no channel and closes its handle itself.

The system may have no room for another attempt.  Then its host has failed without having been
asked, and the coordinator goes on to the next one.

`step?` says which moves a state allows and where they lead.  A run of a race is any sequence of
allowed moves, so the order in which attempts and coordinator act is left open, and so is which of
the attempts the system lets start.  No move names a thread, a lock or a clock.
-/

namespace ClusterSchema.Race

variable {σ η : Type}

/-- What is fixed in a race. -/
structure Setup (σ η : Type) where
  /-- The hosts in the order in which attempts start. -/
  order : List String
  /-- How many attempts may be under way at once. -/
  limit : Nat
  /-- The connector's answer to the attempt at a position of the order. -/
  dial : Nat → σ → Answer η × σ

/-- The host at a position of the order. -/
def Setup.host (setup : Setup σ η) (index : Nat) : String := setup.order.getD index ""

/-- What an attempt sends: its position and how it went. -/
abbrev Message (η : Type) := Nat × Except Cause η

/-- What an attempt says whose connector broke down. -/
def crashMessage : String := "connection attempt panicked"

/-- What the attempt at a position sends after the connector's answer.  A breakdown of the connector
stays inside the attempt and counts as a failure. -/
def message (index : Nat) : Answer η → Message η
  | .accept handle => (index, .ok handle)
  | .refuse cause => (index, .error cause)
  | .crash _ => (index, .error (.root crashMessage))

/-- The handles in some messages. -/
def handles (messages : List (Message η)) : List η :=
  messages.filterMap fun message => message.2.toOption

/-- How far the coordinator is. -/
inductive Phase (η : Type) where
  /-- It starts attempts and waits for answers. -/
  | collecting
  /-- It has a winner and closes the handles in the channel. -/
  | draining (index : Nat) (handle : η)
  /-- It has a winner and has seen the channel empty. -/
  | leaving (index : Nat) (handle : η)
  /-- It has returned the winner; the channel is gone. -/
  | won (index : Nat) (handle : η)
  /-- It has returned without a winner; the channel is gone. -/
  | exhausted
deriving DecidableEq, Repr

namespace Phase

/-- Whether the coordinator has returned. -/
def isOver : Phase η → Bool
  | won _ _ | exhausted => true
  | collecting | draining _ _ | leaving _ _ => false

/-- The winner, if there is one. -/
def winner? : Phase η → Option (Nat × η)
  | draining index handle | leaving index handle | won index handle => some (index, handle)
  | collecting | exhausted => none

end Phase

/-- A moment of a race. -/
structure State (σ η : Type) where
  /-- What the connector remembers. -/
  connector : σ
  /-- How many hosts the coordinator has come to: those at the first positions. -/
  reached : Nat
  /-- How many attempts the coordinator counts as under way. -/
  inFlight : Nat
  /-- The started attempts whose call has not been answered. -/
  dialing : List Nat
  /-- The answers that are not sent yet. -/
  answered : List (Message η)
  /-- The messages that are not received yet, the oldest first. -/
  channel : List (Message η)
  /-- The failures known so far, each at its position of the order. -/
  failures : List (Option HostAttempt)
  phase : Phase η
  /-- The handles closed so far. -/
  dropped : List η
  /-- What the coordinator has reported so far. -/
  log : List Event

/-- The start of a race. -/
def initial (setup : Setup σ η) (connector : σ) : State σ η where
  connector
  reached := 0
  inFlight := 0
  dialing := []
  answered := []
  channel := []
  failures := setup.order.map fun _ => none
  phase := .collecting
  dropped := []
  log := []

/-- What can happen next in a race; positions say which attempt it happens to. -/
inductive Move where
  /-- The coordinator starts an attempt. -/
  | start (index : Nat)
  /-- The coordinator cannot start an attempt, and passes its host over. -/
  | skip (index : Nat) (cause : Cause)
  /-- The connector answers an attempt. -/
  | dial (index : Nat)
  /-- An attempt sends its answer and ends. -/
  | send (index : Nat)
  /-- The coordinator receives the answer of an attempt. -/
  | receive (index : Nat)
  /-- The coordinator returns because no attempt is left. -/
  | giveUp
  /-- The coordinator takes a message out of the channel after the winner's. -/
  | drain (index : Nat)
  /-- The coordinator finds the channel empty. -/
  | stopDraining
  /-- The coordinator returns with the winner. -/
  | leave
deriving DecidableEq, Repr

/-- Whether there is room for another attempt and a host to try. -/
def hasRoom (setup : Setup σ η) (state : State σ η) : Bool :=
  state.inFlight < setup.limit && state.reached < setup.order.length

/-- The coordinator has received the failure of the attempt at `index`. -/
def afterFailure (setup : Setup σ η) (state : State σ η) (index : Nat) (cause : Cause)
    (channel : List (Message η)) : State σ η :=
  let host := setup.host index
  { state with
    channel
    inFlight := state.inFlight - 1
    failures := state.failures.set index (some ⟨host, cause⟩)
    log := state.log ++ [.attemptFailed host cause.message] }

/-- The coordinator has received the success of the attempt at `index`. -/
def afterSuccess (state : State σ η) (index : Nat) (handle : η) (channel : List (Message η)) :
    State σ η :=
  { state with channel, inFlight := state.inFlight - 1, phase := .draining index handle }

/-- The coordinator starts the attempt at `index`, which has to be the next one. -/
def start? (setup : Setup σ η) (state : State σ η) (index : Nat) : Option (State σ η) :=
  match state.phase with
  | .collecting =>
    if hasRoom setup state ∧ index = state.reached then
      some { state with
        reached := index + 1
        inFlight := state.inFlight + 1
        dialing := state.dialing ++ [index]
        log := state.log ++ [.attempting (setup.host index)] }
    else none
  | _ => none

/-- The coordinator cannot start the attempt at `index`, which has to be the next one.  The host has
failed, and no slot is taken. -/
def skip? (setup : Setup σ η) (state : State σ η) (index : Nat) (cause : Cause) :
    Option (State σ η) :=
  match state.phase with
  | .collecting =>
    if hasRoom setup state ∧ index = state.reached then
      let host := setup.host index
      some { state with
        reached := index + 1
        failures := state.failures.set index (some ⟨host, cause⟩)
        log := state.log ++ [.attempting host, .startFailed host cause.message] }
    else none
  | _ => none

/-- The connector answers the attempt at `index`. -/
def dial? (setup : Setup σ η) (state : State σ η) (index : Nat) : Option (State σ η) :=
  if index ∈ state.dialing then
    let (answer, connector) := setup.dial index state.connector
    some { state with
      connector
      dialing := state.dialing.erase index
      answered := state.answered ++ [message index answer] }
  else none

/-- The attempt at `index` sends its answer.  Without a channel it closes its handle. -/
def send? (state : State σ η) (index : Nat) : Option (State σ η) :=
  match state.answered.find? (·.1 == index) with
  | some message =>
    let answered := state.answered.eraseP (·.1 == index)
    if state.phase.isOver then
      some { state with answered, dropped := state.dropped ++ handles [message] }
    else some { state with answered, channel := state.channel ++ [message] }
  | none => none

/-- The coordinator receives the oldest message, once there is no attempt to start. -/
def receive? (setup : Setup σ η) (state : State σ η) (index : Nat) : Option (State σ η) :=
  match state.phase, state.channel with
  | .collecting, (sender, outcome) :: rest =>
    if ¬ hasRoom setup state ∧ index = sender then
      match outcome with
      | .ok handle => some (afterSuccess state index handle rest)
      | .error cause => some (afterFailure setup state index cause rest)
    else none
  | _, _ => none

/-- The coordinator returns without a winner, once nobody is left to start or to wait for. -/
def giveUp? (setup : Setup σ η) (state : State σ η) : Option (State σ η) :=
  match state.phase with
  | .collecting =>
    if ¬ hasRoom setup state ∧ state.inFlight = 0 then some { state with phase := .exhausted }
    else none
  | _ => none

/-- The coordinator takes the oldest message out of the channel and closes the handle in it. -/
def drain? (state : State σ η) (index : Nat) : Option (State σ η) :=
  match state.phase, state.channel with
  | .draining _ _, message :: rest =>
    if index = message.1 then
      some { state with channel := rest, dropped := state.dropped ++ handles [message] }
    else none
  | _, _ => none

/-- The coordinator finds the channel empty. -/
def stopDraining? (state : State σ η) : Option (State σ η) :=
  match state.phase, state.channel with
  | .draining index handle, [] => some { state with phase := .leaving index handle }
  | _, _ => none

/-- The coordinator returns with the winner, and the channel goes with everything in it. -/
def leave? (state : State σ η) : Option (State σ η) :=
  match state.phase with
  | .leaving index handle =>
    some { state with
      channel := []
      phase := .won index handle
      dropped := state.dropped ++ handles state.channel }
  | _ => none

/-- Where a move leads, if the state allows it. -/
def step? (setup : Setup σ η) (state : State σ η) : Move → Option (State σ η)
  | .start index => start? setup state index
  | .skip index cause => skip? setup state index cause
  | .dial index => dial? setup state index
  | .send index => send? state index
  | .receive index => receive? setup state index
  | .giveUp => giveUp? setup state
  | .drain index => drain? state index
  | .stopDraining => stopDraining? state
  | .leave => leave? state

/-- Where a sequence of moves leads, if each is allowed when its turn comes. -/
def run? (setup : Setup σ η) (state : State σ η) : List Move → Option (State σ η)
  | [] => some state
  | move :: rest => (step? setup state move).bind fun next => run? setup next rest

/-- The outcome of a race as far as it is known: the winner, or else the failures, in the order of
the hosts. -/
def outcome (setup : Setup σ η) (config : ConnectionConfig) (state : State σ η) : Outcome η :=
  match state.phase.winner? with
  | some (index, handle) => .connected ⟨handle, config.withHost (setup.host index)⟩
  | none => .exhausted ⟨state.failures.filterMap id⟩

end ClusterSchema.Race
