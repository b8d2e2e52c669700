import ClusterSchema.Proofs.Race.Ledger

/-!
# Races come to an end

Every move uses up something that a race has only so much of, and as long as the coordinator has not
returned somebody can move.  So a race that is carried on returns, whoever is slow or fast.

* `length_add_remaining_le`  how long a run may be
* `over_of_stuck`            a race in which nobody can move has returned and all have finished
* `exists_full`              the coordinator can start attempts until there is no room for another
-/

namespace ClusterSchema.Race

variable {σ η : Type} {setup : Setup σ η} {connector : σ} {moves : List Move} {state : State σ η}

/-- How many moves the coordinator has left besides starting and receiving. -/
def Phase.remaining : Phase η → Nat
  | collecting | draining _ _ => 2
  | leaving _ _ => 1
  | won _ _ | exhausted => 0

/-- A bound on the moves that are left: an attempt is started, answered, sent and taken out of the
channel, each at most once, or it cannot be started. -/
def remaining (setup : Setup σ η) (state : State σ η) : Nat :=
  4 * (setup.order.length - state.reached) + 3 * state.dialing.length + 2 * state.answered.length
    + state.channel.length + state.phase.remaining

/-- Every move takes something from what is left to a race. -/
theorem remaining_lt {next : State σ η} {move : Move} (step : Step setup state move next) :
    remaining setup next < remaining setup state := by
  -- an attempt loses a unit of its weight in each move, and the coordinator when it changes phase
  cases step with
  | start _ room =>
    simp only [hasRoom, Bool.and_eq_true, decide_eq_true_eq] at room
    simp [remaining]
    omega
  | skip _ room =>
    simp only [hasRoom, Bool.and_eq_true, decide_eq_true_eq] at room
    simp [remaining]
    omega
  -- the attempt goes from those that weigh three to those that weigh two
  | @dial index isDialing =>
    have length := List.length_erase_of_mem isDialing
    have some := List.length_pos_of_mem isDialing
    simp [remaining, length]
    omega
  | send held => simp [remaining, held]; omega
  | sendLate held => simp [remaining, held]
  | receiveSuccess collecting _ queue =>
    simp [remaining, collecting, queue, Phase.remaining]
  | receiveFailure _ _ queue => simp [remaining, queue]
  | giveUp collecting => simp [remaining, collecting, Phase.remaining]
  | drain _ queue => simp [remaining, queue]
  | stopDraining draining => simp [remaining, draining, Phase.remaining]
  | leave leaving =>
    simp only [remaining, leaving, Phase.remaining, List.length_nil]
    omega

/-- A run has no more moves than were left before it. -/
theorem length_add_remaining_le_of_run {more : List Move} {final : State σ η}
    (later : run? setup state more = some final) :
    more.length + remaining setup final ≤ remaining setup state := by
  refine run_induction
    (motive := fun more final => more.length + remaining setup final ≤ remaining setup state)
    (by simp) ?_ later
  intro earlier middle move next _ step ih
  have := remaining_lt step
  simp only [List.length_append, List.length_singleton]
  omega

/-- No run has more than four moves for each host and two of the coordinator's own. -/
theorem length_add_remaining_le
    (run : run? setup (initial setup connector) moves = some state) :
    moves.length + remaining setup state ≤ 4 * setup.order.length + 2 := by
  have bounded := length_add_remaining_le_of_run run
  simpa [remaining, initial, Phase.remaining] using bounded

/-- A race in which nobody can move has returned, and everybody has finished.  It makes no
difference whether attempts may fail to start: where one may, it may start as well. -/
theorem over_of_stuck (run : run? setup (initial setup connector) moves = some state)
    (stuck : ∀ move, move.skipped = [] → step? setup state move = none) :
    state.phase.isOver = true ∧ running state = [] := by
  have noStep : ∀ move next, move.skipped = [] → ¬ Step setup state move next := by
    intro move next startable step
    have allowed := step?_eq_some_iff.mpr step
    rw [stuck move startable] at allowed
    cases allowed
  -- an attempt that dials can be answered, and one with an answer can send it
  have nobodyDials : state.dialing = [] := by
    apply List.eq_nil_iff_forall_not_mem.mpr
    intro index isDialing
    exact noStep _ _ rfl (.dial isDialing)
  have nobodySends : state.answered = [] := by
    cases held : state.answered with
    | nil => rfl
    | cons sent later =>
      have atHead : state.answered = [] ++ sent :: later := held
      cases present : state.phase.isOver with
      | false => exact absurd (.send atHead (by simp) present) (noStep _ _ rfl)
      | true => exact absurd (.sendLate atHead (by simp) present) (noStep _ _ rfl)
  have nobody : running state = [] := by simp [running, nobodyDials, nobodySends]
  refine ⟨?_, nobody⟩
  -- with nobody running the coordinator has something to take, or it can go on without
  cases phase : state.phase with
  | collecting =>
    cases room : hasRoom setup state with
    | true => exact absurd (.start phase room) (noStep _ _ rfl)
    | false =>
      -- what is in the channel can be received, and with an empty one the counter is at zero
      cases queue : state.channel with
      | nil =>
        have idle := inFlight_eq_of_collecting run phase
        rw [nobody, queue] at idle
        exact absurd (.giveUp phase room idle) (noStep _ _ rfl)
      | cons received rest =>
        obtain ⟨index, answer⟩ := received
        cases answer with
        | ok handle => exact absurd (.receiveSuccess phase room queue) (noStep _ _ rfl)
        | error cause => exact absurd (.receiveFailure phase room queue) (noStep _ _ rfl)
  | draining index handle =>
    cases queue : state.channel with
    | nil => exact absurd (.stopDraining phase queue) (noStep _ _ rfl)
    | cons surplus rest => exact absurd (.drain phase queue) (noStep _ _ rfl)
  | leaving index handle => exact absurd (.leave phase) (noStep _ _ rfl)
  | won => rfl
  | exhausted => rfl

/-- The coordinator can start attempts until there is no room for another. -/
theorem exists_full (setup : Setup σ η) (collecting : state.phase = .collecting) :
    ∃ count full, run? setup state ((List.range' state.reached count).map .start) = some full ∧
      hasRoom setup full = false ∧ full.phase = .collecting ∧ full.reached = state.reached + count ∧
      full.dialing = state.dialing ++ List.range' state.reached count ∧
      full.answered = state.answered ∧ full.channel = state.channel := by
  -- the induction is on the places that the coordinator has not come to
  induction left : setup.order.length - state.reached generalizing state with
  | zero =>
    have noRoom : hasRoom setup state = false := by simp [hasRoom]; omega
    exact ⟨0, state, rfl, noRoom, collecting, rfl, by simp, rfl, rfl⟩
  | succ left ih =>
    cases room : hasRoom setup state with
    -- without room the state is full as it stands
    | false => exact ⟨0, state, rfl, room, collecting, rfl, by simp, rfl, rfl⟩
    | true =>
      obtain ⟨count, full, run, noRoom, phase, reached, dialing, answered, channel⟩ :=
        @ih (afterStart setup state) collecting (by simp; omega)
      -- one more attempt in front of those that the rest of the places allow
      refine ⟨count + 1, full, ?_, noRoom, phase, ?_, ?_, answered, channel⟩
      · have first := step?_eq_some_iff.mpr (Step.start collecting room)
        simp only [List.range'_succ, List.map_cons, run?, first, Option.bind_some]
        exact run
      · simp only [reached, afterStart]
        omega
      · simp [dialing, List.range'_succ]

end ClusterSchema.Race
