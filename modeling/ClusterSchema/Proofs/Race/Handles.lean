import ClusterSchema.Proofs.Race.Ledger

/-!
# The handles of a race

Where every handle is that the connector has given out: with an attempt that has yet to send it, in
the channel, with the coordinator as the winner's, or closed.  No move loses a handle and none
closes one twice, whether an answer comes before the drain, between the drain and the end of the
channel, or after it.

* `produced_perm`       at any moment, the handles given out are those in these four places
* `dropped_eq_nil`      nothing is closed without a winner
-/

namespace ClusterSchema.Race

open scoped List

variable {σ η : Type} {setup : Setup σ η} {connector : σ} {moves : List Move} {state : State σ η}

@[simp] theorem handles_nil : handles ([] : List (Message η)) = [] := rfl

@[simp] theorem handles_append (messages later : List (Message η)) :
    handles (messages ++ later) = handles messages ++ handles later :=
  List.filterMap_append ..

/-- The handle of the first message, if it has one, stands in front of the others. -/
theorem handles_cons (message : Message η) (later : List (Message η)) :
    handles (message :: later) = handles [message] ++ handles later :=
  handles_append [message] later

/-- A success brings its handle. -/
theorem handles_ok (index : Nat) (handle : η) : handles [(index, .ok handle)] = [handle] := rfl

/-- A failure brings none. -/
theorem handles_error (index : Nat) (cause : Cause) :
    handles ([(index, .error cause)] : List (Message η)) = [] := rfl

/-- The handles that are open: those on their way to the coordinator, and the winner's. -/
def openHandles (state : State σ η) : List η :=
  handles state.answered ++ handles state.channel ++ (state.phase.winner?.map (·.2)).toList

/-- A handle that has been given out is open or closed, and never both. -/
theorem produced_perm (run : run? setup (initial setup connector) moves = some state) :
    produced setup (initial setup connector) moves ~ openHandles state ++ state.dropped := by
  refine run_induction (motive := fun moves state =>
      produced setup (initial setup connector) moves ~ openHandles state ++ state.dropped)
    (List.Perm.refl _) ?_ run
  intro moves state move next before step ih
  rw [produced_concat before]
  -- each move takes handles from one place to another, so it is enough to count them
  classical
  rw [List.perm_iff_count] at ih ⊢
  intro handle
  have counted := ih handle
  simp only [openHandles, List.count_append] at counted ⊢
  cases step with
  -- an attempt that starts has no handle, and one that the connector answers may get one
  | start => simpa using counted
  | skip => simpa using counted
  | dial => simp; omega
  -- the handle goes from its attempt to the channel, or is closed for want of one
  | @send earlier later sent held =>
    rw [held, handles_append, handles_cons sent later] at counted
    simp only [List.count_append] at counted
    simp
    omega
  | @sendLate earlier later sent held =>
    rw [held, handles_append, handles_cons sent later] at counted
    simp only [List.count_append] at counted
    simp
    omega
  -- the handle that leaves the channel is the winner's
  | @receiveSuccess _ winner rest collecting _ queue =>
    rw [queue, handles_cons _ rest, handles_ok, collecting] at counted
    simp only [List.count_append, Phase.winner?, Option.map_none, Option.toList_none,
      List.count_nil] at counted
    simp [Phase.winner?]
    omega
  | @receiveFailure _ _ rest _ _ queue =>
    rw [queue, handles_cons _ rest, handles_error] at counted
    simpa using counted
  | giveUp collecting => simpa [collecting, Phase.winner?] using counted
  | @drain _ _ surplus rest _ queue =>
    rw [queue, handles_cons surplus rest] at counted
    simp only [List.count_append] at counted
    simp
    omega
  | stopDraining draining => simpa [draining, Phase.winner?] using counted
  -- what is left in the channel is closed with it
  | leave leaving =>
    rw [leaving] at counted
    simp [Phase.winner?] at counted ⊢
    omega

/-- Without a winner the coordinator closes nothing, and nobody finds the channel gone. -/
theorem dropped_eq_nil (run : run? setup (initial setup connector) moves = some state)
    (undecided : state.phase.winner? = none) : state.dropped = [] := by
  revert undecided
  refine run_induction (motive := fun _ state => state.phase.winner? = none → state.dropped = [])
    (fun _ => rfl) ?_ run
  intro moves state move next before step ih undecided
  cases step with
  | sendLate held _ gone =>
    -- a coordinator that has returned without a winner has waited for everybody
    have exhausted : state.phase = .exhausted := by
      cases phase : state.phase <;> simp_all [Phase.isOver, Phase.winner?]
    have nobody := (of_exhausted before exhausted).1
    simp [running, held] at nobody
  | receiveSuccess => simp [Phase.winner?] at undecided
  | giveUp collecting => exact ih (by rw [collecting, Phase.winner?])
  | drain draining => simp [draining, Phase.winner?] at undecided
  | stopDraining => simp [Phase.winner?] at undecided
  | leave => simp [Phase.winner?] at undecided
  | _ => exact ih undecided

/-- Once the coordinator has returned and everybody has finished, each handle has one fate: the
winner's is returned, and every other was closed once.  Without a winner there was no handle. -/
theorem handles_settled (config : ConnectionConfig)
    (run : run? setup (initial setup connector) moves = some state)
    (ended : state.phase.isOver = true) :
    state.channel = [] ∧
      match outcome setup config state with
      | .connected connection => running state = [] →
          produced setup (initial setup connector) moves ~ connection.handle :: state.dropped
      | .exhausted _ =>
          produced setup (initial setup connector) moves = [] ∧ state.dropped = []
      | .crashed _ => False := by
  have given := produced_perm run
  have empty := channel_eq_nil run ended
  refine ⟨empty, ?_⟩
  cases phase : state.phase with
  -- the winner is the one handle that is still open, once nobody holds an answer
  | won index handle =>
    simp only [outcome, phase, Phase.winner?]
    intro finished
    simp only [running, List.append_eq_nil_iff, List.map_eq_nil_iff] at finished
    simpa [openHandles, finished.2, empty, phase, Phase.winner?] using given
  -- everybody has finished, so that nothing can be open, and nothing was closed
  | exhausted =>
    simp only [outcome, phase, Phase.winner?]
    have unclosed := dropped_eq_nil run (by rw [phase, Phase.winner?])
    have nobody := (of_exhausted run phase).1
    simp only [running, List.append_eq_nil_iff, List.map_eq_nil_iff] at nobody
    have none : produced setup (initial setup connector) moves ~ [] := by
      simpa [openHandles, nobody.2, empty, phase, Phase.winner?, unclosed] using given
    exact ⟨none.eq_nil, unclosed⟩
  -- the other phases are those of a coordinator that has not returned
  | collecting => simp [phase, Phase.isOver] at ended
  | draining => simp [phase, Phase.isOver] at ended
  | leaving => simp [phase, Phase.isOver] at ended

/-- Four places whose hosts all take the connection, each with a handle of its own. -/
def fourTakers : Setup Unit Nat where
  order := ["a", "b", "c", "d"]
  limit := 4
  dial index _ := (.accept index, ())

/-- The first of four wins; the others answer before the drain, after it, and too late. -/
def fourAnswers : List Move :=
  [.start 0, .start 1, .start 2, .start 3, .dial 3, .dial 0, .dial 1, .send 0, .send 1, .receive 0,
    .drain 1, .stopDraining, .dial 2, .send 2, .leave, .send 3]

/-- All four handles are accounted for: one returned, and one closed in each of the three ways. -/
theorem handles_settled_fourAnswers :
    ∃ state, run? fourTakers (initial fourTakers ()) fourAnswers = some state ∧
      state.phase = .won 0 0 ∧ running state = [] ∧ state.channel = [] ∧
      produced fourTakers (initial fourTakers ()) fourAnswers ~ 0 :: state.dropped := by
  obtain ⟨state, run, phase, finished⟩ :
      ∃ state, run? fourTakers (initial fourTakers ()) fourAnswers = some state ∧
        state.phase = .won 0 0 ∧ running state = [] := ⟨_, rfl, rfl, rfl⟩
  obtain ⟨empty, settled⟩ := handles_settled default run (by rw [phase, Phase.isOver])
  simp only [outcome, phase, Phase.winner?] at settled
  exact ⟨state, run, phase, finished, empty, settled finished⟩

end ClusterSchema.Race
