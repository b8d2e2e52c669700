import ClusterSchema.Resolve.Race
import Mathlib.Data.List.Induction

/-!
# Runs of a race

`Step` says once what every move of a race requires and where it leads; proofs about races split on
it and never open the moves themselves.  `run_induction` carries a property from the start of a race
to the end of any run, one step at a time.  What a run shows besides the state it ends in is read
off its moves, or off the moves together with the states they start from.

* `step?_eq_some_iff`  a move is allowed and leads to a state exactly when `Step` says so
* `run?_concat`        a run that is one move longer
* `trace_concat`       what the last move of a run adds to what the run shows
-/

namespace ClusterSchema.Race

variable {σ η : Type}

attribute [simp] afterSuccess afterFailure

/-- The coordinator has started the next attempt. -/
@[simp] def afterStart (setup : Setup σ η) (state : State σ η) : State σ η :=
  { state with
    reached := state.reached + 1
    inFlight := state.inFlight + 1
    dialing := state.dialing ++ [state.reached]
    log := state.log ++ [.attempting (setup.host state.reached)] }

/-- The coordinator could not start the next attempt. -/
@[simp] def afterSkip (setup : Setup σ η) (state : State σ η) (cause : Cause) : State σ η :=
  { state with
    reached := state.reached + 1
    failures := state.failures.set state.reached (some ⟨setup.host state.reached, cause⟩)
    log := state.log ++ [.attempting (setup.host state.reached),
      .startFailed (setup.host state.reached) cause.message] }

/-- The connector has answered the attempt at `index`. -/
@[simp] def afterDial (setup : Setup σ η) (state : State σ η) (index : Nat) : State σ η :=
  { state with
    connector := (setup.dial index state.connector).2
    dialing := state.dialing.erase index
    answered := state.answered ++ [message index (setup.dial index state.connector).1] }

/-- What a move requires and where it leads, case by case. -/
inductive Step (setup : Setup σ η) : State σ η → Move → State σ η → Prop where
  | start {state : State σ η} (collecting : state.phase = .collecting)
      (room : hasRoom setup state = true) :
      Step setup state (.start state.reached) (afterStart setup state)
  | skip {state : State σ η} {cause : Cause} (collecting : state.phase = .collecting)
      (room : hasRoom setup state = true) :
      Step setup state (.skip state.reached cause) (afterSkip setup state cause)
  | dial {state : State σ η} {index : Nat} (running : index ∈ state.dialing) :
      Step setup state (.dial index) (afterDial setup state index)
  | send {state : State σ η} {before after : List (Message η)} {sent : Message η}
      (held : state.answered = before ++ sent :: after)
      (first : ∀ other ∈ before, other.1 ≠ sent.1) (present : state.phase.isOver = false) :
      Step setup state (.send sent.1)
        { state with answered := before ++ after, channel := state.channel ++ [sent] }
  | sendLate {state : State σ η} {before after : List (Message η)} {sent : Message η}
      (held : state.answered = before ++ sent :: after)
      (first : ∀ other ∈ before, other.1 ≠ sent.1) (gone : state.phase.isOver = true) :
      Step setup state (.send sent.1)
        { state with answered := before ++ after, dropped := state.dropped ++ handles [sent] }
  | receiveSuccess {state : State σ η} {index : Nat} {handle : η} {rest : List (Message η)}
      (collecting : state.phase = .collecting) (full : hasRoom setup state = false)
      (queue : state.channel = (index, .ok handle) :: rest) :
      Step setup state (.receive index) (afterSuccess state index handle rest)
  | receiveFailure {state : State σ η} {index : Nat} {cause : Cause} {rest : List (Message η)}
      (collecting : state.phase = .collecting) (full : hasRoom setup state = false)
      (queue : state.channel = (index, .error cause) :: rest) :
      Step setup state (.receive index) (afterFailure setup state index cause rest)
  | giveUp {state : State σ η} (collecting : state.phase = .collecting)
      (full : hasRoom setup state = false) (idle : state.inFlight = 0) :
      Step setup state .giveUp { state with phase := .exhausted }
  | drain {state : State σ η} {index : Nat} {handle : η} {surplus : Message η}
      {rest : List (Message η)} (draining : state.phase = .draining index handle)
      (queue : state.channel = surplus :: rest) :
      Step setup state (.drain surplus.1)
        { state with channel := rest, dropped := state.dropped ++ handles [surplus] }
  | stopDraining {state : State σ η} {index : Nat} {handle : η}
      (draining : state.phase = .draining index handle) (empty : state.channel = []) :
      Step setup state .stopDraining { state with phase := .leaving index handle }
  | leave {state : State σ η} {index : Nat} {handle : η}
      (leaving : state.phase = .leaving index handle) :
      Step setup state .leave
        { state with
          channel := []
          phase := .won index handle
          dropped := state.dropped ++ handles state.channel }

/-- A message carries the position of the attempt that sends it, whatever the answer is. -/
@[simp] theorem message_position (index : Nat) (answer : Answer η) :
    (message index answer).1 = index := by
  cases answer <;> rfl

/-! ## Moves and steps -/

/-- A send picks the first message at a position and leaves the others as they are. -/
private theorem find?_eraseP_answered {before : List (Message η)} {sent : Message η}
    (after : List (Message η)) (first : ∀ other ∈ before, other.1 ≠ sent.1) :
    (before ++ sent :: after).find? (·.1 == sent.1) = some sent ∧
      (before ++ sent :: after).eraseP (·.1 == sent.1) = before ++ after := by
  have others : ∀ other ∈ before, ¬ (other.1 == sent.1) = true := by simpa using first
  constructor
  · exact List.find?_eq_some_iff_append.mpr ⟨by simp, before, after, rfl, by simpa using others⟩
  -- nothing before the message has its position, so nothing before it goes
  · rw [List.eraseP_append_right _ others]
    simp

/-- The message that a look-up by position finds is the first one at that position. -/
private theorem exists_of_find?_answered {answered : List (Message η)} {index : Nat}
    {sent : Message η} (found : answered.find? (·.1 == index) = some sent) :
    sent.1 = index ∧ ∃ before after, answered = before ++ sent :: after ∧
      ∀ other ∈ before, other.1 ≠ sent.1 := by
  obtain ⟨isIts, before, after, rfl, others⟩ := List.find?_eq_some_iff_append.mp found
  have same : sent.1 = index := by simpa using isIts
  exact ⟨same, before, after, rfl, by simpa [same] using others⟩

section Moves

variable {setup : Setup σ η} {state next : State σ η} {index : Nat} {cause : Cause}

/-! One lemma for each move: the tests that it passes are what its step requires, and where one
fails there is no next state. -/

/-- An attempt is started while answers are collected and there is room for it. -/
private theorem step_of_start? (allowed : start? setup state index = some next) :
    Step setup state (.start index) next := by
  simp only [start?] at allowed
  split at allowed
  · split at allowed
    · rename_i collecting isNext
      obtain ⟨room, rfl⟩ := isNext
      cases allowed
      exact .start collecting room
    · cases allowed
  · cases allowed

/-- An attempt that cannot be started is passed over under the same conditions. -/
private theorem step_of_skip? (allowed : skip? setup state index cause = some next) :
    Step setup state (.skip index cause) next := by
  simp only [skip?] at allowed
  split at allowed
  · split at allowed
    · rename_i collecting isNext
      obtain ⟨room, rfl⟩ := isNext
      cases allowed
      exact .skip collecting room
    · cases allowed
  · cases allowed

/-- The connector answers an attempt that runs. -/
private theorem step_of_dial? (allowed : dial? setup state index = some next) :
    Step setup state (.dial index) next := by
  simp only [dial?] at allowed
  split at allowed
  · rename_i running
    cases allowed
    exact .dial running
  · cases allowed

/-- An answer goes into the channel, and nowhere once the coordinator has returned. -/
private theorem step_of_send? (allowed : send? state index = some next) :
    Step setup state (.send index) next := by
  simp only [send?] at allowed
  split at allowed
  · rename_i sent found
    obtain ⟨rfl, before, after, held, first⟩ := exists_of_find?_answered found
    -- where the answer goes depends on whether the coordinator is still there
    rw [held, (find?_eraseP_answered after first).2] at allowed
    split at allowed
    · rename_i gone
      cases allowed
      exact .sendLate held first gone
    · rename_i present
      cases allowed
      exact .send held first (by simpa using present)
  · cases allowed

/-- The oldest message is received as soon as there is no room for another attempt. -/
private theorem step_of_receive? (allowed : receive? setup state index = some next) :
    Step setup state (.receive index) next := by
  simp only [receive?] at allowed
  split at allowed
  · rename_i sender outcome rest collecting queue
    split at allowed
    · rename_i isNext
      obtain ⟨full, rfl⟩ := isNext
      -- the oldest message says which of the two receipts it is
      cases outcome with
      | ok handle =>
        cases allowed
        exact .receiveSuccess collecting (by simpa using full) queue
      | error cause =>
        cases allowed
        exact .receiveFailure collecting (by simpa using full) queue
    · cases allowed
  · cases allowed

/-- The coordinator gives up when nobody is left to start or to wait for. -/
private theorem step_of_giveUp? (allowed : giveUp? setup state = some next) :
    Step setup state .giveUp next := by
  simp only [giveUp?] at allowed
  split at allowed
  · rename_i collecting
    split at allowed
    · rename_i done
      cases allowed
      exact .giveUp collecting (by simpa using done.1) done.2
    · cases allowed
  · cases allowed

/-- With a winner the coordinator takes the oldest message out of the channel. -/
private theorem step_of_drain? (allowed : drain? state index = some next) :
    Step setup state (.drain index) next := by
  simp only [drain?] at allowed
  split at allowed
  · rename_i draining queue
    split at allowed
    · rename_i isNext
      subst isNext
      cases allowed
      exact .drain draining queue
    · cases allowed
  · cases allowed

/-- It stops at an empty channel. -/
private theorem step_of_stopDraining? (allowed : stopDraining? state = some next) :
    Step setup state .stopDraining next := by
  simp only [stopDraining?] at allowed
  split at allowed
  · rename_i draining empty
    cases allowed
    exact .stopDraining draining empty
  · cases allowed

/-- Then it leaves with the winner. -/
private theorem step_of_leave? (allowed : leave? state = some next) :
    Step setup state .leave next := by
  simp only [leave?] at allowed
  split at allowed
  · rename_i leaving
    cases allowed
    exact .leave leaving
  · cases allowed

/-- A move that is allowed leads where its step says. -/
private theorem step_of_step? {move : Move} (allowed : step? setup state move = some next) :
    Step setup state move next := by
  cases move with
  | start index => exact step_of_start? allowed
  | skip index cause => exact step_of_skip? allowed
  | dial index => exact step_of_dial? allowed
  | send index => exact step_of_send? allowed
  | receive index => exact step_of_receive? allowed
  | giveUp => exact step_of_giveUp? allowed
  | drain index => exact step_of_drain? allowed
  | stopDraining => exact step_of_stopDraining? allowed
  | leave => exact step_of_leave? allowed

end Moves

/-- What a step says is allowed, and leads to that state and no other. -/
private theorem step?_of_step {setup : Setup σ η} {state next : State σ η} {move : Move}
    (step : Step setup state move next) : step? setup state move = some next := by
  cases step with
  | start collecting room => simp [step?, start?, collecting, room, afterStart]
  | skip collecting room => simp [step?, skip?, collecting, room, afterSkip]
  | dial running => simp [step?, dial?, running, afterDial]
  -- the first message at the position is the one that `step` names
  | @send before after sent held first present =>
    obtain ⟨found, erased⟩ := find?_eraseP_answered after first
    rw [← held] at found erased
    simp [step?, send?, found, erased, present]
  | @sendLate before after sent held first gone =>
    obtain ⟨found, erased⟩ := find?_eraseP_answered after first
    rw [← held] at found erased
    simp [step?, send?, found, erased, gone]
  | receiveSuccess collecting full queue => simp [step?, receive?, collecting, full, queue]
  | receiveFailure collecting full queue => simp [step?, receive?, collecting, full, queue]
  | giveUp collecting full idle => simp [step?, giveUp?, collecting, full, idle]
  | drain draining queue => simp [step?, drain?, draining, queue]
  | stopDraining draining empty => simp [step?, stopDraining?, draining, empty]
  | leave leaving => simp [step?, leave?, leaving]

/-- The one lemma that opens the moves: proofs about races split on the step that it gives. -/
theorem step?_eq_some_iff {setup : Setup σ η} {state next : State σ η} {move : Move} :
    step? setup state move = some next ↔ Step setup state move next :=
  ⟨step_of_step?, step?_of_step⟩

/-! ## Runs -/

/-- A run goes on from where its first moves have led. -/
theorem run?_append (setup : Setup σ η) (state : State σ η) (moves later : List Move) :
    run? setup state (moves ++ later) =
      (run? setup state moves).bind fun next => run? setup next later := by
  induction moves generalizing state with
  | nil => rfl
  -- the first move leads to a state from which the hypothesis takes over
  | cons move rest ih =>
    simp only [List.cons_append, run?, Option.bind_assoc]
    congr 1
    funext next
    exact ih next

/-- The same for a run whose first part is known. -/
theorem run?_append_of_run? {setup : Setup σ η} {state middle : State σ η} {moves : List Move}
    (run : run? setup state moves = some middle) (later : List Move) :
    run? setup state (moves ++ later) = run? setup middle later := by
  rw [run?_append, run, Option.bind_some]

/-- A run that is one move longer makes its last step from the state before it. -/
theorem run?_concat {setup : Setup σ η} {state final : State σ η} {moves : List Move}
    {move : Move} :
    run? setup state (moves ++ [move]) = some final ↔
      ∃ middle, run? setup state moves = some middle ∧ Step setup middle move final := by
  simp [run?_append, run?, Option.bind_eq_some_iff, step?_eq_some_iff]

/-- A run may be followed by any step from the state that it leads to. -/
theorem run?_concat_of_step {setup : Setup σ η} {state middle final : State σ η}
    {moves : List Move} {move : Move} (run : run? setup state moves = some middle)
    (step : Step setup middle move final) :
    run? setup state (moves ++ [move]) = some final :=
  run?_concat.mpr ⟨middle, run, step⟩

/-- What holds at the start of a run and is kept by every step of it holds at its end. -/
theorem run_induction {setup : Setup σ η} {first : State σ η}
    {motive : List Move → State σ η → Prop} (start : motive [] first)
    (step : ∀ moves state move next, run? setup first moves = some state →
      Step setup state move next → motive moves state → motive (moves ++ [move]) next)
    {moves : List Move} {final : State σ η} (run : run? setup first moves = some final) :
    motive moves final := by
  -- a run grows at its end, so the induction takes the last move off
  induction moves using List.reverseRecOn generalizing final with
  | nil => cases run; exact start
  | append_singleton moves move ih =>
    obtain ⟨middle, before, last⟩ := run?_concat.mp run
    exact step moves middle move final before last (ih before)

/-! ## What a run shows -/

/-- The position of the order that a move comes to, whether or not its attempt can be started. -/
@[simp] def Move.visited : Move → List Nat
  | start index | skip index _ => [index]
  | _ => []

/-- The attempt that a move starts. -/
@[simp] def Move.started : Move → List Nat
  | start index => [index]
  | _ => []

/-- The attempt that could not be started in a move, and why. -/
@[simp] def Move.skipped : Move → List (Nat × Cause)
  | skip index cause => [(index, cause)]
  | _ => []

/-- The attempt that a move ends. -/
@[simp] def Move.sent : Move → List Nat
  | send index => [index]
  | _ => []

/-- The attempt whose answer a move takes out of the channel after the winner's. -/
@[simp] def Move.drained : Move → List Nat
  | drain index => [index]
  | _ => []

/-- The message that the coordinator receives in a move. -/
@[simp] def taken (state : State σ η) : Move → List (Message η)
  | .receive _ => state.channel.take 1
  | _ => []

/-- The handle that the connector gives out in a move. -/
@[simp] def opened (setup : Setup σ η) (state : State σ η) : Move → List η
  | .dial index => handles [message index (setup.dial index state.connector).1]
  | _ => []

/-- The positions that some moves come to, in order. -/
def visits (moves : List Move) : List Nat := moves.flatMap Move.visited

/-- The attempts started in some moves, in order. -/
def starts (moves : List Move) : List Nat := moves.flatMap Move.started

/-- The attempts that could not be started in some moves, in order.  Where there are none, the
system had room for every attempt. -/
def skips (moves : List Move) : List (Nat × Cause) := moves.flatMap Move.skipped

/-- The attempts that have sent their answer in some moves, in order. -/
def sends (moves : List Move) : List Nat := moves.flatMap Move.sent

/-- The attempts whose answers were drained in some moves, in order. -/
def drains (moves : List Move) : List Nat := moves.flatMap Move.drained

/-- What `note` says about each move of a run and the state it is made in, in order. -/
def trace {α : Type} (setup : Setup σ η) (note : State σ η → Move → List α) :
    State σ η → List Move → List α
  | _, [] => []
  | state, move :: rest =>
    note state move ++ match step? setup state move with
      | some next => trace setup note next rest
      | none => []

/-- The messages that the coordinator has received, up to the winner's. -/
def received (setup : Setup σ η) (first : State σ η) (moves : List Move) : List (Message η) :=
  trace setup taken first moves

/-- The handles that the connector has given out. -/
def produced (setup : Setup σ η) (first : State σ η) (moves : List Move) : List η :=
  trace setup (opened setup) first moves

/-- What is read off the moves of a run is read off its two parts, one after the other. -/
@[simp] theorem visits_append (moves later : List Move) :
    visits (moves ++ later) = visits moves ++ visits later := List.flatMap_append

@[simp] theorem starts_append (moves later : List Move) :
    starts (moves ++ later) = starts moves ++ starts later := List.flatMap_append

@[simp] theorem skips_append (moves later : List Move) :
    skips (moves ++ later) = skips moves ++ skips later := List.flatMap_append

@[simp] theorem sends_append (moves later : List Move) :
    sends (moves ++ later) = sends moves ++ sends later := List.flatMap_append

@[simp] theorem drains_append (moves later : List Move) :
    drains (moves ++ later) = drains moves ++ drains later := List.flatMap_append

@[simp] theorem visits_singleton (move : Move) : visits [move] = move.visited :=
  List.flatMap_singleton ..

@[simp] theorem starts_singleton (move : Move) : starts [move] = move.started :=
  List.flatMap_singleton ..

@[simp] theorem skips_singleton (move : Move) : skips [move] = move.skipped :=
  List.flatMap_singleton ..

@[simp] theorem sends_singleton (move : Move) : sends [move] = move.sent :=
  List.flatMap_singleton ..

@[simp] theorem drains_singleton (move : Move) : drains [move] = move.drained :=
  List.flatMap_singleton ..

/-- The last move of a run adds what it shows in the state before it. -/
theorem trace_concat {α : Type} {setup : Setup σ η} {note : State σ η → Move → List α}
    {first state : State σ η} {moves : List Move} {move : Move}
    (run : run? setup first moves = some state) :
    trace setup note first (moves ++ [move]) = trace setup note first moves ++ note state move := by
  induction moves generalizing first with
  | nil =>
    cases run
    simp only [List.nil_append, trace]
    split <;> simp
  | cons earlier rest ih =>
    -- the first step leads on, and the last move is made in the same state as before
    simp only [run?, Option.bind_eq_some_iff] at run
    obtain ⟨next, allowed, run⟩ := run
    simp only [List.cons_append, trace, allowed, ih run, List.append_assoc]

/-- A run that is one move longer has received what its last move takes out of the channel. -/
theorem received_concat {setup : Setup σ η} {first state : State σ η} {moves : List Move}
    (run : run? setup first moves = some state) (move : Move) :
    received setup first (moves ++ [move]) = received setup first moves ++ taken state move :=
  trace_concat run

/-- A run that is one move longer has given out what its last move opens. -/
theorem produced_concat {setup : Setup σ η} {first state : State σ η} {moves : List Move}
    (run : run? setup first moves = some state) (move : Move) :
    produced setup first (moves ++ [move]) =
      produced setup first moves ++ opened setup state move :=
  trace_concat run

end ClusterSchema.Race
