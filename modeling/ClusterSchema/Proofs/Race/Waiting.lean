import ClusterSchema.Proofs.Race.Winners

/-!
# Nobody waits for a hung host

A race is decided as soon as a success is in the channel.  From then on the coordinator needs no
attempt that is still running: failures that came in earlier make it start others, but it never has
to wait for them, and what arrives later stands behind in the channel.

* `earliest?_of_run`         no move of anybody changes which success is the first to have arrived
* `exists_own_step`          once there is one, the coordinator can go on by itself
* `queued_success_returned`  and by its own moves it returns with this success
-/

namespace ClusterSchema.Race

variable {σ η : Type} {setup : Setup σ η} {connector : σ} {moves more : List Move}
  {state next final : State σ η} {move : Move} {winner : Nat × η}

/-- Whether the coordinator makes a move by itself; the others are those of attempts. -/
def Move.isOwn : Move → Bool
  | dial _ | send _ => false
  | start _ | skip _ _ | receive _ | giveUp | drain _ | stopDraining | leave => true

/-- The first success to have arrived: the one that the coordinator has taken out of the channel, or
else the oldest in the channel. -/
def earliest? (state : State σ η) : Option (Nat × η) :=
  (state.phase.winner?.toList ++ successes state.channel).head?

/-- A success that has been received came before all in the channel. -/
theorem earliest?_of_winner? (decided : state.phase.winner? = some winner) :
    earliest? state = some winner := by
  simp [earliest?, decided]

/-- Without a winner the first success is the oldest in the channel. -/
theorem earliest?_of_undecided (undecided : state.phase.winner? = none) :
    earliest? state = (successes state.channel).head? := by
  simp [earliest?, undecided]

/-- With a success in the channel there is a first one. -/
theorem exists_earliest? (queued : successes state.channel ≠ []) :
    ∃ winner, earliest? state = some winner := by
  apply Option.isSome_iff_exists.mp
  simp [earliest?, queued]

/-! ## The first to have arrived stays the first -/

/-- Whoever moves, the first success to have arrived stays the first. -/
theorem earliest?_of_step (run : run? setup (initial setup connector) moves = some state)
    (step : Step setup state move next) (arrived : earliest? state = some winner) :
    earliest? next = some winner := by
  cases decided : state.phase.winner? with
  | some taken =>
    -- a winner stays the winner
    have single : run? setup state [move] = some next := by
      simp [run?, step?_eq_some_iff.mpr step]
    rw [earliest?_of_winner? decided] at arrived
    exact (earliest?_of_winner? (winner_kept single decided).1).trans arrived
  | none =>
    rw [earliest?_of_undecided decided] at arrived
    cases step with
    | send =>
      -- what is sent goes to the end of the channel
      rw [earliest?_of_undecided (by exact decided), successes_append, List.head?_append, arrived,
        Option.some_or]
    -- the oldest in the channel becomes the winner
    | receiveSuccess _ _ queue =>
      rw [queue] at arrived
      exact arrived
    -- a failure in front of it counts for nothing
    | receiveFailure _ _ queue =>
      rw [queue] at arrived
      rw [earliest?_of_undecided (by exact decided)]
      exact arrived
    -- a coordinator that gives up has an empty channel
    | giveUp collecting _ idle =>
      have counted := inFlight_eq_of_collecting run collecting
      have empty : state.channel = [] := List.length_eq_zero_iff.mp (by omega)
      rw [empty] at arrived
      cases arrived
    | drain draining => simp [draining, Phase.winner?] at decided
    | stopDraining draining => simp [draining, Phase.winner?] at decided
    | leave leaving => simp [leaving, Phase.winner?] at decided
    | _ =>
      rw [earliest?_of_undecided (by exact decided)]
      exact arrived

/-- So it does through any further moves. -/
theorem earliest?_of_run (run : run? setup (initial setup connector) moves = some state)
    (later : run? setup state more = some final) (arrived : earliest? state = some winner) :
    earliest? final = some winner := by
  refine run_induction (motive := fun _ final => earliest? final = some winner) arrived ?_ later
  intro earlier middle move next before step ih
  have whole := (run?_append_of_run? run earlier).trans before
  exact earliest?_of_step whole step ih

/-- A coordinator that has returned has done so with the first success. -/
theorem phase_eq_won (run : run? setup (initial setup connector) moves = some state)
    (ended : state.phase.isOver = true) (arrived : earliest? state = some winner) :
    state.phase = .won winner.1 winner.2 := by
  -- the channel is empty, so the first success can only be the winner
  rw [earliest?, channel_eq_nil run ended] at arrived
  cases phase : state.phase with
  | won index handle =>
    rw [phase] at arrived
    cases arrived
    rfl
  | exhausted => rw [phase] at arrived; cases arrived
  | _ => simp [phase, Phase.isOver] at ended

/-- A winner has a place in the order. -/
theorem lt_length_of_winner? (run : run? setup (initial setup connector) moves = some state)
    (decided : state.phase.winner? = some winner) : winner.1 < setup.order.length := by
  have taken : winner ∈ successes (received setup (initial setup connector) moves) := by
    rw [successes_received run, decided]
    exact List.mem_singleton_self winner
  have started := mem_starts_of_mem_received run (mem_successes.mp taken)
  exact Nat.lt_of_lt_of_le (lt_reached_of_mem_starts run started) (reached_le run)

/-! ## The coordinator goes on by itself -/

/-- With a success that has arrived, the coordinator has a move until it returns. -/
theorem exists_own_step (setup : Setup σ η) (present : state.phase.isOver = false)
    (arrived : earliest? state = some winner) :
    ∃ move next, move.isOwn = true ∧ Step setup state move next := by
  cases phase : state.phase with
  | collecting =>
    cases room : hasRoom setup state with
    | true => exact ⟨_, _, rfl, .start phase room⟩
    | false =>
      -- the success is in the channel, so there is something to receive, be it a failure before it
      rw [earliest?_of_undecided (by rw [phase, Phase.winner?])] at arrived
      cases queue : state.channel with
      | nil => rw [queue] at arrived; cases arrived
      | cons received rest =>
        obtain ⟨index, answer⟩ := received
        cases answer with
        | ok handle => exact ⟨_, _, rfl, .receiveSuccess phase room queue⟩
        | error cause => exact ⟨_, _, rfl, .receiveFailure phase room queue⟩
  | draining index handle =>
    cases queue : state.channel with
    | nil => exact ⟨_, _, rfl, .stopDraining phase queue⟩
    | cons surplus rest => exact ⟨_, _, rfl, .drain phase queue⟩
  | leaving index handle => exact ⟨_, _, rfl, .leave phase⟩
  | won => simp [phase, Phase.isOver] at present
  | exhausted => simp [phase, Phase.isOver] at present

/-- By its own moves the coordinator comes to return. -/
theorem exists_own_run (run : run? setup (initial setup connector) moves = some state)
    (arrived : earliest? state = some winner) :
    ∃ own final, (∀ move ∈ own, move.isOwn = true) ∧ run? setup state own = some final ∧
      final.phase.isOver = true := by
  -- each move uses up something, so the induction is on what is left
  induction left : remaining setup state using Nat.strongRecOn generalizing moves state with
  | ind left ih =>
    cases present : state.phase.isOver with
    | true => exact ⟨[], state, by simp, rfl, present⟩
    | false =>
      -- one move of the coordinator, and the first success is still the same
      obtain ⟨move, next, isOwn, step⟩ := exists_own_step setup present arrived
      obtain ⟨own, final, allOwn, later, ended⟩ :=
        ih (remaining setup next) (left ▸ remaining_lt step) (run?_concat_of_step run step)
          (earliest?_of_step run step arrived) rfl
      refine ⟨move :: own, final, List.forall_mem_cons.mpr ⟨isOwn, allOwn⟩, ?_, ended⟩
      simp only [run?, step?_eq_some_iff.mpr step, Option.bind_some, later]

/-- A success in the channel is not kept waiting by attempts that never finish.  As long as the
coordinator has received none, it is the oldest success in the channel that it returns; once it has
taken a success out, that one arrived before all that are left.  It returns by its own moves alone,
and whatever attempts do in between, it can go on by itself and returns the same after boundedly
many moves. -/
theorem queued_success_returned (config : ConnectionConfig)
    (run : run? setup (initial setup connector) moves = some state)
    (queued : successes state.channel ≠ []) :
    ∃ index handle, ∃ inside : index < setup.order.length,
      earliest? state = some (index, handle) ∧
      (state.phase.winner? = none → (successes state.channel).head? = some (index, handle)) ∧
      (∀ taken, state.phase.winner? = some taken → taken = (index, handle)) ∧
      (∃ own final, (∀ move ∈ own, move.isOwn = true) ∧ run? setup state own = some final ∧
        final.phase = .won index handle ∧
        outcome setup config final = .connected ⟨handle, config.withHost setup.order[index]⟩) ∧
      ∀ more final, run? setup state more = some final →
        more.length ≤ remaining setup state ∧
        (final.phase.isOver = false → ∃ move next, move.isOwn = true ∧
          step? setup final move = some next) ∧
        (final.phase.isOver = true → final.phase = .won index handle ∧
          outcome setup config final =
            .connected ⟨handle, config.withHost setup.order[index]⟩) := by
  obtain ⟨⟨index, handle⟩, arrived⟩ := exists_earliest? queued
  -- whoever has moved, a return is one with this success
  have returns : ∀ more final, run? setup state more = some final → final.phase.isOver = true →
      ∃ inside : index < setup.order.length, final.phase = .won index handle ∧
        outcome setup config final = .connected ⟨handle, config.withHost setup.order[index]⟩ := by
    intro more final later ended
    have whole := (run?_append_of_run? run more).trans later
    have won := phase_eq_won whole ended (earliest?_of_run run later arrived)
    have inside : index < setup.order.length :=
      lt_length_of_winner? whole (by rw [won, Phase.winner?])
    refine ⟨inside, won, ?_⟩
    simp only [outcome, won, Phase.winner?, host_eq_getElem inside]
  obtain ⟨own, ending, allOwn, later, ended⟩ := exists_own_run run arrived
  obtain ⟨inside, won, result⟩ := returns own ending later ended
  refine ⟨index, handle, inside, arrived, ?_, ?_, ⟨own, ending, allOwn, later, won, result⟩, ?_⟩
  · intro undecided
    rw [← earliest?_of_undecided undecided, arrived]
  · intro taken decided
    rw [earliest?_of_winner? decided] at arrived
    exact Option.some.inj arrived
  · intro more final later
    have bounded := length_add_remaining_le_of_run later
    refine ⟨by omega, fun present => ?_, fun ended => (returns more final later ended).2⟩
    obtain ⟨move, next, isOwn, step⟩ :=
      exists_own_step setup present (earliest?_of_run run later arrived)
    exact ⟨move, next, isOwn, step?_eq_some_iff.mpr step⟩

/-- The first host hangs, the second refuses, and the other two take the connection. -/
def hungHost : Setup Unit String where
  order := ["slow", "bad", "good", "late"]
  limit := 3
  dial index _ := match index with
    | 1 => (.refuse (.root "busy"), ())
    | 2 => (.accept "good", ())
    | _ => (.accept "late", ())

/-- A refusal and a success are in the channel, the first host is still dialing, and the last one
has not started. -/
def twoAnswers : List Move := [.start 0, .start 1, .start 2, .dial 1, .dial 2, .send 1, .send 2]

/-- The success is returned while the first host still dials, and no attempt has moved. -/
theorem queued_success_returned_hungHost :
    ∃ state, run? hungHost (initial hungHost ()) twoAnswers = some state ∧
      state.dialing = [0] ∧ state.phase = .collecting ∧
      ∃ own final, (∀ move ∈ own, move.isOwn = true) ∧ run? hungHost state own = some final ∧
        outcome hungHost default final =
          .connected ⟨"good", (default : ConnectionConfig).withHost "good"⟩ := by
  obtain ⟨state, run, dialing, collecting, queued⟩ :
      ∃ state, run? hungHost (initial hungHost ()) twoAnswers = some state ∧
        state.dialing = [0] ∧ state.phase = .collecting ∧
        successes state.channel = [(2, "good")] := ⟨_, rfl, rfl, rfl, rfl⟩
  obtain ⟨index, handle, inside, -, first, -, ⟨own, final, allOwn, later, -, result⟩, -⟩ :=
    queued_success_returned default run (by simp [queued])
  have same := first (by rw [collecting, Phase.winner?])
  rw [queued] at same
  cases same
  exact ⟨state, run, dialing, collecting, own, final, allOwn, later, result⟩

/-- Two hosts that take the connection. -/
def twoTakers : Setup Unit String where
  order := ["a", "b"]
  limit := 2
  dial index _ := if index = 0 then (.accept "a", ()) else (.accept "b", ())

/-- The first host's success has been received when the second host's arrives. -/
def surplusSuccess : List Move :=
  [.start 0, .start 1, .dial 0, .dial 1, .send 0, .receive 0, .send 1]

/-- A success that arrives while the coordinator closes what is in the channel is the only one
there, and yet it is never returned: the winner was taken out before it. -/
theorem surplus_success_dropped :
    ∃ state, run? twoTakers (initial twoTakers ()) surplusSuccess = some state ∧
      state.phase.isOver = false ∧ successes state.channel = [(1, "b")] ∧
      (∃ own final, (∀ move ∈ own, move.isOwn = true) ∧ run? twoTakers state own = some final ∧
        final.phase.isOver = true) ∧
      ∀ more final, run? twoTakers state more = some final → final.phase.isOver = true →
        outcome twoTakers default final =
            .connected ⟨"a", (default : ConnectionConfig).withHost "a"⟩ ∧
          outcome twoTakers default final ≠
            .connected ⟨"b", (default : ConnectionConfig).withHost "b"⟩ := by
  obtain ⟨state, run, draining, queued, own⟩ :
      ∃ state, run? twoTakers (initial twoTakers ()) surplusSuccess = some state ∧
        state.phase = .draining 0 "a" ∧ successes state.channel = [(1, "b")] ∧
        ∃ final, run? twoTakers state [.drain 1, .stopDraining, .leave] = some final ∧
          final.phase.isOver = true := ⟨_, rfl, rfl, rfl, _, rfl, rfl⟩
  -- the winner came first, and whoever moves, it is the one that is returned
  have arrived : earliest? state = some (0, "a") :=
    earliest?_of_winner? (by rw [draining, Phase.winner?])
  refine ⟨state, run, by rw [draining, Phase.isOver], queued,
    ⟨_, own.choose, ?_, own.choose_spec⟩, ?_⟩
  · decide
  · intro more final later ended
    have whole := (run?_append_of_run? run more).trans later
    have won := phase_eq_won whole ended (earliest?_of_run run later arrived)
    have result : outcome twoTakers default final =
        .connected ⟨"a", (default : ConnectionConfig).withHost "a"⟩ := by
      simp only [outcome, won, Phase.winner?]
      rfl
    rw [result]
    exact ⟨rfl, by simp⟩

end ClusterSchema.Race
