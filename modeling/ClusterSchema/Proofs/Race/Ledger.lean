import ClusterSchema.Proofs.Race.Run

/-!
# The books of a race

What the coordinator keeps count of, compared with what has happened in the run so far.  The
coordinator comes to the hosts in order, and to each once: its attempt starts, or it cannot be
started and the host has failed.  A started attempt is running, or it has sent its answer once; the
answers that were sent are those received, those drained after the winner's, and those still in the
channel; and the counter is what has started without being received.  As long as there is no winner
a slot is therefore free exactly when an answer has come in.

* `starts_append_skips_perm`   every place come to is started or passed over
* `running_append_sends_perm`  every started attempt is running or has sent, and no other has
* `sends_eq`                   where the answers that were sent have gone
* `inFlight_add_received`      the counter is the starts less the receipts
* `successes_received`         the one success received is the winner's
* `failures_eq_some_iff`       the table of failures holds those received and those of no start
* `balanced_of_run`            the books of any run, in one structure
-/

namespace ClusterSchema.Race

open scoped List

variable {σ η : Type} {setup : Setup σ η} {connector : σ} {moves : List Move} {state : State σ η}

/-- The attempts under way: those whose call is not answered, and those yet to send the answer. -/
def running (state : State σ η) : List Nat := state.dialing ++ state.answered.map (·.1)

/-- The successes in some messages, each with its position. -/
def successes (messages : List (Message η)) : List (Nat × η) :=
  messages.filterMap fun message => message.2.toOption.map (message.1, ·)

/-- The successes of some messages come before those of later ones. -/
@[simp] theorem successes_append (messages later : List (Message η)) :
    successes (messages ++ later) = successes messages ++ successes later :=
  List.filterMap_append ..

/-- A success is a message that holds a handle. -/
theorem mem_successes {messages : List (Message η)} {index : Nat} {handle : η} :
    (index, handle) ∈ successes messages ↔ (index, .ok handle) ∈ messages := by
  simp only [successes, List.mem_filterMap, Option.map_eq_some_iff, Prod.mk.injEq]
  constructor
  · rintro ⟨⟨position, outcome⟩, member, given, isGiven, rfl, rfl⟩
    cases outcome with
    | ok _ => cases isGiven; exact member
    -- a failure has no handle, so it is no success of any position
    | error _ => cases isGiven
  · intro member
    exact ⟨_, member, handle, rfl, rfl, rfl⟩

/-! ## The places come to -/

/-- The coordinator comes to the places in their order, and to each once. -/
theorem visits_eq_range (run : run? setup (initial setup connector) moves = some state) :
    visits moves = List.range state.reached := by
  refine run_induction (motive := fun moves state => visits moves = List.range state.reached)
    rfl ?_ run
  intro moves state move next _ step ih
  cases step with
  | start => simp [List.range_succ, ih]
  | skip => simp [List.range_succ, ih]
  | _ => simpa using ih

/-- Attempts start in the order of their places. -/
theorem starts_sublist_visits (moves : List Move) : starts moves <+ visits moves := by
  induction moves with
  | nil => exact List.Sublist.refl _
  | cons move rest ih =>
    refine List.Sublist.append ?_ ih
    -- a move starts the place it comes to, or nothing
    cases move <;> simp

/-- Every place come to is started or passed over. -/
theorem starts_append_skips_perm (moves : List Move) :
    starts moves ++ (skips moves).map (·.1) ~ visits moves := by
  induction moves with
  | nil => exact List.Perm.refl _
  | cons move rest ih =>
    -- a move adds its place to one of the two lists at most, and to the visits as well
    rw [List.perm_iff_count] at ih ⊢
    intro index
    have counted := ih index
    cases move <;>
      simp [starts, skips, visits, List.count_append, List.count_cons] at counted ⊢ <;> omega

/-- Where the system had room for every attempt, each place come to is started. -/
theorem starts_eq_visits_of_skips (unskipped : skips moves = []) : starts moves = visits moves := by
  refine (starts_sublist_visits moves).eq_of_length ?_
  have all := (starts_append_skips_perm moves).length_eq
  simpa [unskipped] using all

/-- No attempt is started twice. -/
theorem starts_nodup (run : run? setup (initial setup connector) moves = some state) :
    (starts moves).Nodup := by
  refine (starts_sublist_visits moves).nodup ?_
  rw [visits_eq_range run]
  exact List.nodup_range

/-- No more attempts are started than there are places come to. -/
theorem starts_length_le (run : run? setup (initial setup connector) moves = some state) :
    (starts moves).length ≤ state.reached := by
  have shorter := (starts_sublist_visits moves).length_le
  rwa [visits_eq_range run, List.length_range] at shorter

/-- Only places that the coordinator has come to are started. -/
theorem lt_reached_of_mem_starts (run : run? setup (initial setup connector) moves = some state)
    {index : Nat} (started : index ∈ starts moves) : index < state.reached := by
  have visited := (starts_sublist_visits moves).subset started
  rw [visits_eq_range run] at visited
  exact List.mem_range.mp visited

/-- An attempt that could not be started is none of those that were, and its place was come to. -/
theorem skip_apart (run : run? setup (initial setup connector) moves = some state) {index : Nat}
    {cause : Cause} (skipped : (index, cause) ∈ skips moves) :
    index ∉ starts moves ∧ index < state.reached := by
  have place : index ∈ (skips moves).map (·.1) := List.mem_map_of_mem skipped
  have all := starts_append_skips_perm moves
  rw [visits_eq_range run] at all
  -- each place is come to once, so it cannot be on both lists
  have once := List.nodup_append.mp (all.nodup_iff.mpr List.nodup_range)
  constructor
  · exact fun started => once.2.2 index started index place rfl
  · exact List.mem_range.mp (all.mem_iff.mp (List.mem_append_right _ place))

/-- The coordinator comes to no place behind the last. -/
theorem reached_le (run : run? setup (initial setup connector) moves = some state) :
    state.reached ≤ setup.order.length := by
  refine run_induction (motive := fun _ state => state.reached ≤ setup.order.length)
    (Nat.zero_le _) ?_ run
  intro moves state move next _ step ih
  -- the coordinator goes on to another place only where there is one
  have room : hasRoom setup state = true → state.reached < setup.order.length := by
    simp [hasRoom]
  cases step with
  | start _ isRoom => exact room isRoom
  | skip _ isRoom => exact room isRoom
  | _ => exact ih

/-! ## The slots -/

/-- No more attempts are counted as under way than there are slots. -/
theorem inFlight_le_limit (run : run? setup (initial setup connector) moves = some state) :
    state.inFlight ≤ setup.limit := by
  refine run_induction (motive := fun _ state => state.inFlight ≤ setup.limit)
    (Nat.zero_le _) ?_ run
  intro moves state move next _ step ih
  cases step with
  -- there was a free slot before, and a receipt frees another
  | start _ room =>
    simp only [hasRoom, Bool.and_eq_true, decide_eq_true_eq] at room
    exact room.1
  | receiveSuccess => exact Nat.le_trans (Nat.sub_le _ _) ih
  | receiveFailure => exact Nat.le_trans (Nat.sub_le _ _) ih
  | _ => exact ih

/-- A message that moves from the answers to the sends is counted as before. -/
private theorem sent_perm (dialing sends : List Nat) (before after : List (Message η))
    (sent : Message η) :
    dialing ++ (before ++ after).map (·.1) ++ (sends ++ [sent.1]) ~
      dialing ++ (before ++ sent :: after).map (·.1) ++ sends := by
  rw [List.perm_iff_count]
  intro index
  simp only [List.count_append, List.map_append, List.map_cons, List.count_cons, List.count_nil]
  omega

/-- Every started attempt is running or has sent its answer, once, and no other attempt has. -/
theorem running_append_sends_perm
    (run : run? setup (initial setup connector) moves = some state) :
    running state ++ sends moves ~ starts moves := by
  refine run_induction
    (motive := fun moves state => running state ++ sends moves ~ starts moves)
    (List.Perm.refl _) ?_ run
  intro moves state move next _ step ih
  cases step with
  | start =>
    -- the new attempt is the last of those started
    have grown : running (afterStart setup state) ++ sends (moves ++ [.start state.reached]) ~
        state.reached :: (running state ++ sends moves) := by
      simp [running]
    refine grown.trans ((ih.cons _).trans ?_)
    rw [starts_append]
    exact (List.perm_append_singleton ..).symm
  | @dial index isDialing =>
    -- it goes from those that dial to those with an answer, and keeps running
    have kept : running (afterDial setup state index) ~ running state := by
      refine List.Perm.trans ?_ ((List.perm_cons_erase isDialing).symm.append_right _)
      simp only [running, afterDial, List.map_append, List.map_cons, List.map_nil,
        message_position, ← List.append_assoc]
      exact List.perm_append_singleton ..
    simpa using (kept.append_right (sends moves)).trans ih
  | @send before after sent held _ _ =>
    refine List.Perm.trans ?_ (ih.trans (List.Perm.of_eq (by simp)))
    simpa [running, held] using sent_perm state.dialing (sends moves) before after sent
  -- it makes no difference to this count where the answer goes
  | @sendLate before after sent held _ _ =>
    refine List.Perm.trans ?_ (ih.trans (List.Perm.of_eq (by simp)))
    simpa [running, held] using sent_perm state.dialing (sends moves) before after sent
  | _ => simpa [running] using ih

/-- No attempt sends twice, and none runs on after it has sent. -/
theorem running_append_sends_nodup
    (run : run? setup (initial setup connector) moves = some state) :
    (running state ++ sends moves).Nodup :=
  (running_append_sends_perm run).nodup_iff.mpr (starts_nodup run)

/-- Nothing is drained before there is a winner. -/
theorem drains_eq_nil (run : run? setup (initial setup connector) moves = some state)
    (undecided : state.phase.winner? = none) : drains moves = [] := by
  revert undecided
  refine run_induction
    (motive := fun moves state => state.phase.winner? = none → drains moves = []) (fun _ => rfl)
    ?_ run
  intro moves state move next _ step ih undecided
  cases step with
  -- these moves need a winner, or make one
  | drain draining => simp [draining, Phase.winner?] at undecided
  | receiveSuccess => simp [Phase.winner?] at undecided
  | stopDraining => simp [Phase.winner?] at undecided
  | leave => simp [Phase.winner?] at undecided
  | giveUp collecting => simpa using ih (by rw [collecting, Phase.winner?])
  | _ => simpa using ih undecided

/-- The only success that the coordinator receives is the winner's. -/
theorem successes_received (run : run? setup (initial setup connector) moves = some state) :
    successes (received setup (initial setup connector) moves) = state.phase.winner?.toList := by
  refine run_induction (motive := fun moves state =>
      successes (received setup (initial setup connector) moves) = state.phase.winner?.toList)
    rfl ?_ run
  intro moves state move next before step ih
  rw [received_concat before, successes_append, ih]
  cases step with
  -- no success was received before, and this one makes the winner
  | receiveSuccess collecting _ queue =>
    simp [collecting, queue, successes, Phase.winner?, Except.toOption]
  | receiveFailure collecting _ queue =>
    simp [collecting, queue, successes, Phase.winner?, Except.toOption]
  | giveUp collecting => simp [collecting, successes, Phase.winner?]
  | stopDraining draining => simp [draining, successes, Phase.winner?]
  | leave leaving => simp [leaving, successes, Phase.winner?]
  | _ => simp [successes]

/-- Until the coordinator returns, an answer that was sent has been received, was drained, or is
still in the channel, in this order. -/
theorem sends_eq (run : run? setup (initial setup connector) moves = some state)
    (present : state.phase.isOver = false) :
    sends moves = (received setup (initial setup connector) moves).map (·.1) ++ drains moves
      ++ state.channel.map (·.1) := by
  revert present
  refine run_induction (motive := fun moves state => state.phase.isOver = false →
      sends moves = (received setup (initial setup connector) moves).map (·.1) ++ drains moves
        ++ state.channel.map (·.1)) (fun _ => rfl) ?_ run
  intro moves state move next before step ih present
  rw [received_concat before]
  cases step with
  | send _ _ present => simp [ih present]
  | sendLate _ _ gone => simp [gone] at present
  | receiveSuccess collecting _ queue =>
    -- the oldest message goes to the end of those received, with nothing drained in between
    have undrained : drains moves = [] := drains_eq_nil before (by rw [collecting, Phase.winner?])
    simpa [undrained, queue] using ih (by rw [collecting, Phase.isOver])
  | receiveFailure collecting _ queue =>
    have undrained : drains moves = [] := drains_eq_nil before (by rw [collecting, Phase.winner?])
    simpa [undrained, queue] using ih (by rw [collecting, Phase.isOver])
  -- the oldest in the channel goes to the end of those drained
  | drain draining queue => simpa [queue] using ih (by rw [draining, Phase.isOver])
  | stopDraining draining empty => simpa using ih (by rw [draining, Phase.isOver])
  | giveUp => simp [Phase.isOver] at present
  | leave => simp [Phase.isOver] at present
  | _ => simpa using ih present

/-- The counter is what has started and has not been received. -/
theorem inFlight_add_received (run : run? setup (initial setup connector) moves = some state) :
    state.inFlight + (received setup (initial setup connector) moves).length =
      (starts moves).length := by
  refine run_induction (motive := fun moves state =>
      state.inFlight + (received setup (initial setup connector) moves).length =
        (starts moves).length)
    rfl ?_ run
  intro moves state move next before step ih
  rw [received_concat before]
  -- what is in the channel has been started and not received, so it has a place in the counter
  have room : state.phase = .collecting → state.channel.length ≤ state.inFlight := by
    intro collecting
    have started := (running_append_sends_perm before).length_eq
    rw [sends_eq before (by rw [collecting, Phase.isOver])] at started
    simp only [List.length_append, List.length_map] at started
    omega
  cases step with
  | start => simp; omega
  | receiveSuccess collecting _ queue =>
    have := room collecting
    simp [queue] at this ⊢
    omega
  | receiveFailure collecting _ queue =>
    have := room collecting
    simp [queue] at this ⊢
    omega
  | _ => simpa using ih

/-- Until the coordinator returns, the counter covers what is running, what is in the channel, and
what was drained; the drain frees no slots because nobody is waiting for one. -/
theorem inFlight_eq (run : run? setup (initial setup connector) moves = some state)
    (present : state.phase.isOver = false) :
    state.inFlight =
      (running state).length + state.channel.length + (drains moves).length := by
  have started := (running_append_sends_perm run).length_eq
  have counted := inFlight_add_received run
  rw [sends_eq run present] at started
  simp only [List.length_append, List.length_map] at started
  omega

/-- While the coordinator collects answers, the counter is what is running or in the channel. -/
theorem inFlight_eq_of_collecting
    (run : run? setup (initial setup connector) moves = some state)
    (collecting : state.phase = .collecting) :
    state.inFlight = (running state).length + state.channel.length := by
  have counted := inFlight_eq run (by rw [collecting, Phase.isOver])
  rw [drains_eq_nil run (by rw [collecting, Phase.winner?])] at counted
  simpa using counted

/-- When the coordinator gives up, nobody is left and no slot can be used. -/
theorem of_exhausted (run : run? setup (initial setup connector) moves = some state)
    (exhausted : state.phase = .exhausted) :
    running state = [] ∧ state.inFlight = 0 ∧ hasRoom setup state = false := by
  revert exhausted
  refine run_induction (motive := fun _ state => state.phase = .exhausted →
      running state = [] ∧ state.inFlight = 0 ∧ hasRoom setup state = false)
    (fun exhausted => by cases exhausted) ?_ run
  intro moves state move next before step ih exhausted
  cases step with
  | giveUp collecting full idle =>
    have counted := inFlight_eq_of_collecting before collecting
    have nobody : (running state).length = 0 := by omega
    -- this is the only way in, and the moves of attempts need one that is running
    exact ⟨List.length_eq_zero_iff.mp nobody, idle, full⟩
  -- nothing else leads to a coordinator that has given up, and it makes no further moves
  | start collecting => simp [collecting] at exhausted
  | skip collecting => simp [collecting] at exhausted
  | dial isDialing =>
    have nobody := (ih exhausted).1
    simp only [running, List.append_eq_nil_iff] at nobody
    simp [nobody.1] at isDialing
  | send held =>
    have nobody := (ih exhausted).1
    simp [running, held] at nobody
  | sendLate held =>
    have nobody := (ih exhausted).1
    simp [running, held] at nobody
  | receiveSuccess => cases exhausted
  | receiveFailure collecting => simp [collecting] at exhausted
  | drain draining => simp [draining] at exhausted
  | stopDraining => cases exhausted
  | leave => cases exhausted

/-- When the coordinator gives up, it has come to every host. -/
theorem reached_eq_of_exhausted (positive : 0 < setup.limit)
    (run : run? setup (initial setup connector) moves = some state)
    (exhausted : state.phase = .exhausted) : state.reached = setup.order.length := by
  obtain ⟨_, idle, full⟩ := of_exhausted run exhausted
  have bounded := reached_le run
  simp only [hasRoom, idle, Bool.and_eq_false_iff, decide_eq_false_iff_not] at full
  omega

/-- Nothing is left in the channel when the coordinator returns, and nothing comes in later. -/
theorem channel_eq_nil (run : run? setup (initial setup connector) moves = some state)
    (ended : state.phase.isOver = true) : state.channel = [] := by
  revert ended
  refine run_induction (motive := fun _ state => state.phase.isOver = true → state.channel = [])
    (fun _ => rfl) ?_ run
  intro moves state move next before step ih ended
  cases step with
  | giveUp collecting _ idle =>
    have counted := inFlight_eq_of_collecting before collecting
    have nobody : state.channel.length = 0 := by omega
    exact List.length_eq_zero_iff.mp nobody
  | leave => rfl
  -- nobody sends into the channel of a coordinator that has returned
  | send _ _ present => simp [present] at ended
  | receiveSuccess => simp [Phase.isOver] at ended
  | receiveFailure collecting => simp [collecting, Phase.isOver] at ended
  | drain draining => simp [draining, Phase.isOver] at ended
  | stopDraining => simp [Phase.isOver] at ended
  | _ => exact ih ended

/-- As long as there is no winner, the counter is what is running or in the channel. -/
theorem inFlight_eq_of_undecided
    (run : run? setup (initial setup connector) moves = some state)
    (undecided : state.phase.winner? = none) :
    state.inFlight = (running state).length + state.channel.length := by
  cases phase : state.phase with
  | collecting => exact inFlight_eq_of_collecting run phase
  | exhausted =>
    -- everything is over, and both sides are zero
    obtain ⟨nobody, idle, -⟩ := of_exhausted run phase
    rw [nobody, idle, channel_eq_nil run (by rw [phase, Phase.isOver])]
    rfl
  | _ => simp [phase, Phase.winner?] at undecided

/-! ## The messages received -/

/-- Answers are received, and the surplus drained, in the order in which they were sent. -/
theorem received_drains_prefix_sends
    (run : run? setup (initial setup connector) moves = some state) :
    (received setup (initial setup connector) moves).map (·.1) ++ drains moves <+: sends moves := by
  refine run_induction (motive := fun moves _ =>
      (received setup (initial setup connector) moves).map (·.1) ++ drains moves <+: sends moves)
    (List.prefix_refl _) ?_ run
  intro moves state move next before step ih
  -- a receipt leaves the coordinator in place, so the channel's law says where the sends are
  have atReceipt : next.phase.isOver = false →
      (received setup (initial setup connector) (moves ++ [move])).map (·.1) ++
        drains (moves ++ [move]) <+: sends (moves ++ [move]) := by
    intro present
    rw [sends_eq (run?_concat_of_step before step) present]
    exact List.prefix_append ..
  cases step with
  | receiveSuccess => exact atReceipt rfl
  | receiveFailure collecting => exact atReceipt (by simp [collecting, Phase.isOver])
  | drain draining => exact atReceipt (by simp [draining, Phase.isOver])
  -- no other move takes anything out, and a send goes to the end
  | _ =>
    rw [received_concat before, sends_append, drains_append]
    simp only [taken, drains_singleton, Move.drained, List.append_nil]
    exact ih.trans (List.prefix_append ..)

/-- What was received are the first of those that were sent. -/
theorem received_prefix_sends (run : run? setup (initial setup connector) moves = some state) :
    (received setup (initial setup connector) moves).map (·.1) <+: sends moves :=
  (List.prefix_append ..).trans (received_drains_prefix_sends run)

/-- No attempt is received twice. -/
theorem received_nodup (run : run? setup (initial setup connector) moves = some state) :
    ((received setup (initial setup connector) moves).map (·.1)).Nodup :=
  (received_prefix_sends run).sublist.nodup
    (List.nodup_append.mp (running_append_sends_nodup run)).2.1

/-- Only attempts that were started send. -/
theorem mem_starts_of_mem_sends (run : run? setup (initial setup connector) moves = some state)
    {index : Nat} (sent : index ∈ sends moves) : index ∈ starts moves :=
  (running_append_sends_perm run).mem_iff.mp (List.mem_append_right _ sent)

/-- Only attempts that were started are received. -/
theorem mem_starts_of_mem_received
    (run : run? setup (initial setup connector) moves = some state) {message : Message η}
    (member : message ∈ received setup (initial setup connector) moves) :
    message.1 ∈ starts moves :=
  mem_starts_of_mem_sends run
    ((received_prefix_sends run).subset (List.mem_map_of_mem member))

/-- At exhaustion every attempt that was started has been received. -/
theorem received_perm_of_exhausted
    (run : run? setup (initial setup connector) moves = some state)
    (exhausted : state.phase = .exhausted) :
    (received setup (initial setup connector) moves).map (·.1) ~ starts moves := by
  obtain ⟨nobody, idle, _⟩ := of_exhausted run exhausted
  -- all have sent, and the counter at zero says that as many were received
  have all := running_append_sends_perm run
  rw [nobody, List.nil_append] at all
  have counted := inFlight_add_received run
  have whole : (received setup (initial setup connector) moves).map (·.1) = sends moves := by
    apply (received_prefix_sends run).eq_of_length
    rw [all.length_eq, List.length_map]
    omega
  rw [whole]
  exact all

/-! ## The table of failures -/

/-- The host at a position has failed: the failure of its attempt has been received, or its attempt
could not be started. -/
def Failed (setup : Setup σ η) (connector : σ) (moves : List Move) (index : Nat) (cause : Cause) :
    Prop :=
  (index, .error cause) ∈ received setup (initial setup connector) moves ∨
    (index, cause) ∈ skips moves

/-- The table has a place for every host. -/
theorem failures_length (run : run? setup (initial setup connector) moves = some state) :
    state.failures.length = setup.order.length := by
  refine run_induction (motive := fun _ state => state.failures.length = setup.order.length)
    (by simp [initial]) ?_ run
  intro moves state move next _ step ih
  cases step with
  | receiveFailure => simpa using ih
  | skip => simpa using ih
  | _ => exact ih

/-- A place that is filled for the first time is the only change to a table. -/
private theorem table_set_iff {table : List (Option HostAttempt)} {host : Nat → String}
    {known grown : Nat → Cause → Prop} {place : Nat} {reason : Cause}
    (inside : place < table.length) (fresh : ∀ cause, ¬ known place cause)
    (grows : ∀ index cause, grown index cause ↔ known index cause ∨ index = place ∧ cause = reason)
    (holds : ∀ index attempt, table[index]? = some (some attempt) ↔
      ∃ cause, known index cause ∧ attempt = ⟨host index, cause⟩)
    (index : Nat) (attempt : HostAttempt) :
    (table.set place (some ⟨host place, reason⟩))[index]? = some (some attempt) ↔
      ∃ cause, grown index cause ∧ attempt = ⟨host index, cause⟩ := by
  by_cases same : index = place
  · subst same
    simp [inside, grows, fresh, eq_comm]
  · rw [List.getElem?_set_ne (Ne.symm same), holds]
    simp [grows, same]

/-- The table holds the failures of all hosts that have failed, each at its position. -/
theorem failures_eq_some_iff (run : run? setup (initial setup connector) moves = some state) :
    ∀ index attempt, state.failures[index]? = some (some attempt) ↔
      ∃ cause, Failed setup connector moves index cause ∧ attempt = ⟨setup.host index, cause⟩ := by
  refine run_induction (motive := fun moves state => ∀ index attempt,
    state.failures[index]? = some (some attempt) ↔
      ∃ cause, Failed setup connector moves index cause ∧ attempt = ⟨setup.host index, cause⟩)
    ?_ ?_ run
  · intro index attempt
    have empty : (initial setup connector).failures[index]? ≠ some (some attempt) := by
      simp only [initial, List.getElem?_map]
      cases setup.order[index]? <;> simp
    simp [empty, Failed, received, trace, skips]
  intro moves state move next before step ih
  have longer := run?_concat_of_step before step
  have more := received_concat before move
  -- what has failed was come to, so a place behind those is still empty
  have beyond : ∀ cause, ¬ Failed setup connector moves state.reached cause := by
    rintro cause (gotten | skipped)
    · have started := mem_starts_of_mem_received before gotten
      exact Nat.lt_irrefl _ (lt_reached_of_mem_starts before started)
    · exact Nat.lt_irrefl _ (skip_apart before skipped).2
  cases step with
  | @skip reason collecting room =>
    -- the place come to is a new one
    refine table_set_iff ?_ beyond ?_ ih
    · rw [failures_length before]
      simp only [hasRoom, Bool.and_eq_true, decide_eq_true_eq] at room
      exact room.2
    · intro index cause
      simp [Failed, more, or_assoc]
  | @receiveFailure position reason _ collecting full queue =>
    simp only [taken, queue, List.take_succ_cons, List.take_zero] at more
    have isNew : (position, .error reason) ∈
        received setup (initial setup connector) (moves ++ [.receive position]) := by
      simp [more]
    have started : position ∈ starts moves := by
      simpa using mem_starts_of_mem_received longer isNew
    -- the place of an attempt that answers is filled for the first time
    refine table_set_iff ?_ ?_ ?_ ih
    · rw [failures_length before]
      exact Nat.lt_of_lt_of_le (lt_reached_of_mem_starts before started) (reached_le before)
    · -- each answer is received once, and no attempt that has answered was passed over
      rintro cause (gotten | skipped)
      · have once := received_nodup longer
        rw [more, List.map_append, List.nodup_append] at once
        exact once.2.2 position (List.mem_map_of_mem gotten) position (by simp) rfl
      · exact (skip_apart before skipped).1 started
    · intro index cause
      simp [Failed, more, or_assoc, or_comm]
  | receiveSuccess _ _ queue => simpa [Failed, more, queue] using ih
  | _ => simpa [Failed, more] using ih

/-! ## The balance -/

/-- A winner stays, and the coordinator comes to nobody after it. -/
theorem winner_kept {moves : List Move} {first state : State σ η} {winner : Nat × η}
    (run : run? setup first moves = some state) (decided : first.phase.winner? = some winner) :
    state.phase.winner? = some winner ∧ visits moves = [] := by
  refine run_induction
    (motive := fun moves state => state.phase.winner? = some winner ∧ visits moves = [])
    ⟨decided, rfl⟩ ?_ run
  rintro moves state move next _ step ⟨kept, nobody⟩
  cases step with
  -- a coordinator with a winner does not collect
  | start collecting => simp [collecting, Phase.winner?] at kept
  | skip collecting => simp [collecting, Phase.winner?] at kept
  | receiveSuccess collecting => simp [collecting, Phase.winner?] at kept
  | giveUp collecting => simp [collecting, Phase.winner?] at kept
  | stopDraining draining => simpa [nobody, draining, Phase.winner?] using kept
  | leave leaving => simpa [nobody, leaving, Phase.winner?] using kept
  | _ => simpa [nobody] using kept

/-- What the coordinator counts and notes down agrees with what has happened. -/
structure Balanced (setup : Setup σ η) (connector : σ) (moves : List Move) (state : State σ η) :
    Prop where
  /-- The counter is what is running or sent, less what has been received. -/
  counter : state.inFlight + (received setup (initial setup connector) moves).length =
    (running state).length + (sends moves).length
  /-- As long as no success has been received, what is sent and not received is in the channel. -/
  counterQueue : state.phase.winner? = none →
    state.inFlight = (running state).length + state.channel.length
  /-- After a success nobody reads the counter, and a drained answer leaves it as it is. -/
  counterLeft : state.phase.isOver = false →
    state.inFlight = (running state).length + state.channel.length + (drains moves).length
  limited : state.inFlight ≤ setup.limit
  /-- The coordinator comes to the hosts in their order, and to each once. -/
  inOrder : visits moves = List.range state.reached ∧ state.reached ≤ setup.order.length
  /-- Each of these attempts is started, once and in this order, or it could not be started. -/
  startedOnce : starts moves ++ (skips moves).map (·.1) ~ List.range state.reached ∧
    starts moves <+ List.range state.reached
  /-- Where the system had room for every attempt, those that have started are the first ones. -/
  startedFirst : skips moves = [] → starts moves = List.range state.reached
  /-- Every started attempt either runs or has sent one answer. -/
  sentOnce : running state ++ sends moves ~ starts moves
  /-- A place in the table is filled exactly when the failure of its attempt has been received, or
  its attempt could not be started. -/
  table : state.failures.length = setup.order.length ∧
    ∀ index attempt, state.failures[index]? = some (some attempt) ↔
      ∃ cause, Failed setup connector moves index cause ∧ attempt = ⟨setup.host index, cause⟩
  /-- Whenever the coordinator waits, there is somebody to wait for. -/
  awaited : state.phase = .collecting → hasRoom setup state = false → state.inFlight ≠ 0 →
    running state ≠ [] ∨ state.channel ≠ []
  /-- No more answers are received than there are hosts, those drained after the winner's with
  them. -/
  receipts : (received setup (initial setup connector) moves).length + (drains moves).length ≤
    setup.order.length
  /-- Nobody starts once a success has been received. -/
  closed : ∀ earlier later index handle, moves = earlier ++ later →
    (index, .ok handle) ∈ received setup (initial setup connector) earlier → starts later = []

/-- A success that has been received closes the race for those who have not started. -/
private theorem starts_eq_nil_of_received {earlier later : List Move} {index : Nat} {handle : η}
    (run : run? setup (initial setup connector) (earlier ++ later) = some state)
    (member : (index, .ok handle) ∈ received setup (initial setup connector) earlier) :
    starts later = [] := by
  rw [run?_append, Option.bind_eq_some_iff] at run
  obtain ⟨middle, before, after⟩ := run
  have success : (index, handle) ∈ middle.phase.winner?.toList := by
    rw [← successes_received before]
    exact mem_successes.mpr member
  -- the coordinator comes to nobody after a winner, let alone starts somebody
  have nobody := (winner_kept after (Option.mem_toList.mp success)).2
  exact List.sublist_nil.mp (nobody ▸ starts_sublist_visits later)

/-- Every run of a race keeps the books: no slot is lost and none is used twice. -/
theorem balanced_of_run (run : run? setup (initial setup connector) moves = some state) :
    Balanced setup connector moves state where
  counter := by
    have counted := inFlight_add_received run
    have started := (running_append_sends_perm run).length_eq
    rw [List.length_append] at started
    omega
  counterQueue := inFlight_eq_of_undecided run
  counterLeft := inFlight_eq run
  limited := inFlight_le_limit run
  inOrder := ⟨visits_eq_range run, reached_le run⟩
  startedOnce := by
    rw [← visits_eq_range run]
    exact ⟨starts_append_skips_perm moves, starts_sublist_visits moves⟩
  startedFirst := by
    intro unskipped
    rw [starts_eq_visits_of_skips unskipped, visits_eq_range run]
  sentOnce := running_append_sends_perm run
  table := ⟨failures_length run, failures_eq_some_iff run⟩
  awaited := by
    intro collecting _ busy
    -- with nobody running and nothing in the channel the counter would be at zero
    have counted := inFlight_eq_of_collecting run collecting
    by_contra nobody
    simp only [ne_eq, not_or, Decidable.not_not] at nobody
    rw [nobody.1, nobody.2] at counted
    exact busy counted
  receipts := by
    -- what is received or drained was sent, and only what was started can be sent
    have taken := (received_drains_prefix_sends run).length_le
    have started := (running_append_sends_perm run).length_eq
    have fewer := starts_length_le run
    have bounded := reached_le run
    simp only [List.length_append, List.length_map] at taken started
    omega
  closed := by
    rintro earlier later index handle rfl member
    exact starts_eq_nil_of_received run member

/-- Three places on two hosts: the first refuses, the second takes the connection, and at the third
the connector breaks down. -/
def threePlaces (limit : Nat) : Setup Unit String where
  order := ["a", "b", "a"]
  limit
  dial index _ := match index with
    | 0 => (.refuse (.root "busy"), ())
    | 1 => (.accept "b", ())
    | _ => (.crash "no memory", ())

/-- A failure, a success and a breakdown, stopped when the breakdown has been drained. -/
def threeAnswers : List Move :=
  [.start 0, .start 1, .dial 0, .send 0, .receive 0, .start 2, .dial 1, .send 1, .dial 2,
    .receive 1, .send 2, .drain 2]

/-- The books agree while the coordinator drains what came in behind the winner. -/
theorem balanced_threePlaces :
    ∃ state, run? (threePlaces 2) (initial (threePlaces 2) ()) threeAnswers = some state ∧
      Balanced (threePlaces 2) () threeAnswers state :=
  ⟨_, rfl, balanced_of_run rfl⟩

/-- The first of two hosts takes the connection, and the second refuses. -/
def oneTaker : Setup Unit String where
  order := ["a", "b"]
  limit := 2
  dial index _ := if index = 0 then (.accept "a", ()) else (.refuse (.root "busy"), ())

/-- The refusal comes in behind the success, and is drained. -/
def lateRefusal : List Move :=
  [.start 0, .start 1, .dial 0, .send 0, .receive 0, .dial 1, .send 1, .drain 1]

/-- After a success the counter may be more than what is running or in the channel: the drain has
taken the refusal, and the counter still has it.  And a place in the table is filled with nothing
received where its attempt could not be started. -/
theorem drained_answer_counted :
    (∃ state, run? oneTaker (initial oneTaker ()) lateRefusal = some state ∧
      state.phase.isOver = false ∧ state.inFlight = 1 ∧ running state = [] ∧ state.channel = [] ∧
      ¬ state.inFlight = (running state).length + state.channel.length) ∧
    ∃ state, run? oneTaker (initial oneTaker ()) [.skip 0 (.root "no room")] = some state ∧
      state.failures[0]? = some (some ⟨"a", .root "no room"⟩) ∧
      received oneTaker (initial oneTaker ()) [.skip 0 (.root "no room")] = [] := by
  refine ⟨⟨_, rfl, rfl, rfl, rfl, rfl, ?_⟩, _, rfl, rfl, rfl⟩
  decide

end ClusterSchema.Race
