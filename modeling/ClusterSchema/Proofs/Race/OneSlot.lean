import ClusterSchema.Proofs.Race.Winners
import ClusterSchema.Resolve

/-!
# A race with one slot

With one slot nobody can overtake: an attempt starts when the one before it has been received, and
none starts after a success.  Such a race is a search.  At every moment there is a search that does
what is still to be done (`Ahead`), and each move of the race takes from it the events that the move
reports.

* `tryEach_drop`    a search calls the connector for the next host and goes by its answer
* `Ahead.of_step`   a move reports what the search ahead reports first
* `Ahead.of_run`    and so for all moves together
* `race_eq_tryEach` a race with one slot ends as a search
-/

namespace ClusterSchema

variable {σ η : Type}

namespace Search

/-- The same search, with some events reported before its own. -/
def behind (search : Search σ η) (log : List Event) : Search σ η :=
  { search with log := log ++ search.log }

/-- With nothing reported before it a search is itself. -/
@[simp] theorem behind_nil (search : Search σ η) : search.behind [] = search := rfl

/-- What is reported before two times over is reported in one go, the outer part first. -/
@[simp] theorem behind_behind (search : Search σ η) (log earlier : List Event) :
    (search.behind log).behind earlier = search.behind (earlier ++ log) := by
  simp [behind]

end Search

namespace Race

/-! ## The table of failures -/

section Table

variable {setup : Setup σ η} {first : σ} {moves : List Move} {state : State σ η}

/-- The failures so far, in the order of the hosts. -/
def State.failed (state : State σ η) : List HostAttempt := state.failures.filterMap id

/-- An entry behind all others is read off last. -/
private theorem filterMap_id_set {α : Type} {table : List (Option α)} {place : Nat} (entry : α)
    (inside : place < table.length)
    (empty : ∀ later ≥ place, ∀ other, table[later]? ≠ some (some other)) :
    (table.set place (some entry)).filterMap id = table.filterMap id ++ [entry] := by
  induction table generalizing place with
  | nil => simp at inside
  | cons head rest ih =>
    cases place with
    | zero =>
      -- nothing is filled from here on
      have none_left : (head :: rest).filterMap id = [] := by
        rw [List.filterMap_eq_nil_iff]
        intro other member
        obtain ⟨later, found⟩ := List.mem_iff_getElem?.mp member
        cases other with
        | none => rfl
        | some other => exact absurd found (empty later (Nat.zero_le _) other)
      rw [none_left]
      cases head with
      | none => simpa using none_left
      | some other => exact absurd rfl (empty 0 (Nat.le_refl _) other)
    -- the first entry stays where it is, and the place is one nearer in the rest
    | succ place =>
      have shorter := @ih place (by simpa using inside) fun later beyond other => by
        simpa using empty (later + 1) (by omega) other
      cases head with
      | none => simpa using shorter
      | some other => simpa using shorter

/-- The failure of the attempt that was started last goes to the end. -/
theorem failed_afterFailure (run : run? setup (initial setup first) moves = some state)
    {index : Nat} {cause : Cause} {rest : List (Message η)} (collecting : state.phase = .collecting)
    (queue : state.channel = (index, .error cause) :: rest) (isLast : state.reached = index + 1) :
    (afterFailure setup state index cause rest).failed =
      state.failed ++ [⟨setup.host index, cause⟩] := by
  have isSent : sends moves =
      (received setup (initial setup first) moves).map (·.1) ++ index :: rest.map (·.1) := by
    have undecided : state.phase.winner? = none := by rw [collecting, Phase.winner?]
    rw [sends_eq run (by rw [collecting, Phase.isOver]), queue, drains_eq_nil run undecided]
    simp
  -- the place is within the table, and nothing behind it is filled
  apply filterMap_id_set
  · have bounded := reached_le run
    have long := failures_length run
    omega
  · intro later beyond other filled
    obtain ⟨reason, failed, -⟩ := (failures_eq_some_iff run later other).mp filled
    -- what has failed was received, and so is no longer in the channel, or it was passed over, and
    -- so has not started
    rcases failed with taken | skipped
    · have started := lt_reached_of_mem_starts run (mem_starts_of_mem_received run taken)
      obtain rfl : later = index := by omega
      have once := (List.nodup_append.mp (running_append_sends_nodup run)).2.1
      rw [isSent] at once
      have received := List.mem_map_of_mem (f := (·.1)) taken
      exact (List.nodup_append.mp once).2.2 later received later (by simp) rfl
    · obtain ⟨notStarted, before⟩ := skip_apart run skipped
      obtain rfl : later = index := by omega
      exact notStarted (mem_starts_of_mem_sends run (by simp [isSent]))

end Table

/-! ## The search ahead -/

variable {connector : Connector σ η} {config : ConnectionConfig} {order : List String} {first : σ}
  {moves : List Move} {state next final : State σ η} {move : Move} {search : Search σ η}

/-- The race of a connector with one slot. -/
abbrev oneSlot (connector : Connector σ η) (config : ConnectionConfig) (order : List String) :
    Setup σ η :=
  Resolver.raceSetup connector config order 1

/-- What a search still does once an attempt has been answered; `failed` are those before. -/
def hear (connector : Connector σ η) (config : ConnectionConfig) (order : List String)
    (failed : List HostAttempt) (memory : σ) : Message η → Search σ η
  | (index, .ok handle) =>
    ⟨.connected ⟨handle, config.withHost (order.getD index "")⟩, [], memory⟩
  | (index, .error cause) =>
    let host := order.getD index ""
    (Search.tryEach connector config (order.drop (index + 1)) (failed ++ [⟨host, cause⟩])
      memory).behind [.attemptFailed host cause.message]

/-- What a search still does while the connector is asked for the host at a position. -/
def ask (connector : Connector σ η) (config : ConnectionConfig) (order : List String)
    (failed : List HostAttempt) (memory : σ) (index : Nat) : Search σ η :=
  let (answer, later) := connector.connect (config.withHost (order.getD index "")) memory
  hear connector config order failed later (message index answer)

/-- A search that has come to a place calls the connector for the host there and goes by its answer.
-/
theorem tryEach_drop (calm : connector.NeverCrashes) {index : Nat} (inside : index < order.length)
    (failed : List HostAttempt) (memory : σ) :
    Search.tryEach connector config (order.drop index) failed memory =
      (ask connector config order failed memory index).behind
        [.attempting (order.getD index "")] := by
  have host : order.getD index "" = order[index] := by simp [inside]
  rw [List.drop_eq_getElem_cons inside, Search.tryEach, ask, host]
  have answers := calm (config.withHost order[index]) memory
  cases said : connector.connect (config.withHost order[index]) memory with
  | mk answer later =>
    rw [said] at answers
    -- the search goes on at the next place where the connector refuses, and only there
    cases answer with
    | accept handle => simp only [message, hear, host, Search.behind, List.append_nil]
    | refuse cause =>
      simp only [message, hear, host, Search.behind_behind]
      rfl
    | crash text => exact absurd rfl (answers text)

/-- Nobody is under way. -/
def State.Quiet (state : State σ η) : Prop :=
  state.dialing = [] ∧ state.answered = [] ∧ state.channel = []

/-- What is still to be done in a race with one slot, as a search.  The slot is free, or it is held
by the attempt that was started last: its call is not answered, or its answer is on the way. -/
inductive Ahead (connector : Connector σ η) (config : ConnectionConfig) (order : List String) :
    State σ η → Search σ η → Prop where
  | free {state : State σ η} (collecting : state.phase = .collecting) (quiet : state.Quiet) :
      Ahead connector config order state
        (Search.tryEach connector config (order.drop state.reached) state.failed state.connector)
  | dialing {state : State σ η} (index : Nat) (collecting : state.phase = .collecting)
      (isLast : state.reached = index + 1)
      (alone : state.dialing = [index] ∧ state.answered = [] ∧ state.channel = []) :
      Ahead connector config order state
        (ask connector config order state.failed state.connector index)
  | answered {state : State σ η} (sent : Message η) (collecting : state.phase = .collecting)
      (isLast : state.reached = sent.1 + 1)
      (alone : state.dialing = [] ∧ state.answered ++ state.channel = [sent]) :
      Ahead connector config order state
        (hear connector config order state.failed state.connector sent)
  | settled {state : State σ η} (past : state.phase ≠ .collecting) (quiet : state.Quiet) :
      Ahead connector config order state
        ⟨outcome (oneSlot connector config order) config state, [], state.connector⟩

namespace Ahead

/-- Before the first move the whole search is ahead. -/
theorem start (connector : Connector σ η) (config : ConnectionConfig) (order : List String)
    (first : σ) :
    Ahead connector config order (initial (oneSlot connector config order) first)
      (Search.tryEach connector config order [] first) := by
  have none_failed : (initial (oneSlot connector config order) first).failed = [] := by
    simp [initial, State.failed]
  have quiet : (initial (oneSlot connector config order) first).Quiet := ⟨rfl, rfl, rfl⟩
  have whole := @free σ η connector config order _ rfl quiet
  rw [none_failed] at whole
  exact whole

/-! What a state shows tells which of the four it is. -/

/-- Once the coordinator has stopped collecting nothing is left to do, and nobody is under way. -/
theorem of_settled (ahead : Ahead connector config order state search)
    (past : state.phase ≠ .collecting) :
    state.Quiet ∧
      search = ⟨outcome (oneSlot connector config order) config state, [], state.connector⟩ := by
  cases ahead with
  | settled _ quiet => exact ⟨quiet, rfl⟩
  | free collecting => exact absurd collecting past
  | dialing _ collecting => exact absurd collecting past
  | answered _ collecting => exact absurd collecting past

/-- An attempt that dials is the only one, and the last that was started. -/
theorem of_dialing (ahead : Ahead connector config order state search) {index : Nat}
    (isDialing : index ∈ state.dialing) :
    state.phase = .collecting ∧ state.reached = index + 1 ∧
      (state.dialing = [index] ∧ state.answered = [] ∧ state.channel = []) ∧
      search = ask connector config order state.failed state.connector index := by
  cases ahead with
  | dialing last collecting isLast alone =>
    rw [alone.1, List.mem_singleton] at isDialing
    subst isDialing
    exact ⟨collecting, isLast, alone, rfl⟩
  | free _ quiet => simp [quiet.1] at isDialing
  | answered _ _ _ alone => simp [alone] at isDialing
  | settled _ quiet => simp [quiet.1] at isDialing

/-- So is one whose answer is on the way. -/
theorem of_answered (ahead : Ahead connector config order state search) (sent : Message η)
    (onTheWay : sent ∈ state.answered ++ state.channel) :
    state.phase = .collecting ∧ state.reached = sent.1 + 1 ∧
      (state.dialing = [] ∧ state.answered ++ state.channel = [sent]) ∧
      search = hear connector config order state.failed state.connector sent := by
  cases ahead with
  | answered last collecting isLast alone =>
    rw [alone.2, List.mem_singleton] at onTheWay
    subst onTheWay
    exact ⟨collecting, isLast, alone, rfl⟩
  | free _ quiet => simp [quiet.2] at onTheWay
  | dialing _ _ _ alone => simp [alone] at onTheWay
  | settled _ quiet => simp [quiet.2] at onTheWay

/-- With the slot free, the search from the next place is ahead. -/
theorem of_idle (ahead : Ahead connector config order state search)
    (run : run? (oneSlot connector config order) (initial (oneSlot connector config order) first)
      moves = some state) (collecting : state.phase = .collecting) (idle : state.inFlight = 0) :
    state.Quiet ∧ search = Search.tryEach connector config (order.drop state.reached) state.failed
      state.connector := by
  -- the counter is what is running or in the channel
  have counted := inFlight_eq_of_collecting run collecting
  simp only [idle, running, List.length_append, List.length_map] at counted
  cases ahead with
  | free _ quiet => exact ⟨quiet, rfl⟩
  | dialing _ _ _ alone => simp [alone] at counted
  | answered _ _ _ alone =>
    have one := congrArg List.length alone.2
    simp only [List.length_append, List.length_singleton] at one
    omega
  | settled past => exact absurd collecting past

/-- A move reports what the search ahead reports first, and the rest of that search stays ahead.
What the move asks of the state tells which of the four ways of being ahead it is. -/
theorem of_step (calm : connector.NeverCrashes)
    (run : run? (oneSlot connector config order) (initial (oneSlot connector config order) first)
      moves = some state) (ahead : Ahead connector config order state search)
    (step : Step (oneSlot connector config order) state move next) (started : move.skipped = []) :
    ∃ events later, next.log = state.log ++ events ∧ Ahead connector config order next later ∧
      search = later.behind events := by
  cases step with
  | start collecting room =>
    simp only [hasRoom, Bool.and_eq_true, decide_eq_true_eq] at room
    -- there is room in one slot only when nothing is in flight
    obtain ⟨quiet, rfl⟩ := ahead.of_idle run collecting (Nat.lt_one_iff.mp room.1)
    refine ⟨_, _, rfl, dialing state.reached collecting rfl ?_, tryEach_drop calm room.2 _ _⟩
    simp [quiet.1, quiet.2]
  | skip => simp [Move.skipped] at started
  -- the connector is asked here, and the search asks it in the same state
  | @dial index isDialing =>
    obtain ⟨collecting, isLast, ⟨onlyIt, silent, empty⟩, rfl⟩ := ahead.of_dialing isDialing
    refine ⟨[], _, (List.append_nil _).symm,
      answered (message index _) collecting ?_ ⟨?_, ?_⟩, rfl⟩
    · rw [message_position]
      exact isLast
    · simp [onlyIt]
    · simp only [afterDial, silent, empty, List.nil_append, List.append_nil]
      rfl
  | @send before after sent held =>
    obtain ⟨collecting, isLast, ⟨nobody, single⟩, rfl⟩ :=
      ahead.of_answered sent (by simp [held])
    refine ⟨[], _, (List.append_nil _).symm, answered sent collecting isLast ⟨nobody, ?_⟩, rfl⟩
    -- it is the one answer there is, and it goes from one list to the other
    rw [held] at single
    cases before <;> simp_all
  | @sendLate _ _ sent held _ gone =>
    have collecting := (ahead.of_answered sent (by simp [held])).1
    simp [collecting, Phase.isOver] at gone
  -- the search has its connection
  | @receiveSuccess index handle rest collecting _ queue =>
    obtain ⟨-, -, ⟨nobody, single⟩, rfl⟩ :=
      ahead.of_answered (index, .ok handle) (by simp [queue])
    refine ⟨[], _, (List.append_nil _).symm, settled (by simp) ⟨nobody, ?_⟩, rfl⟩
    rw [queue] at single
    cases answered : state.answered <;> simp_all
  | @receiveFailure index cause rest _ _ queue =>
    obtain ⟨collecting, isLast, ⟨nobody, single⟩, rfl⟩ :=
      ahead.of_answered (index, .error cause) (by simp [queue])
    refine ⟨_, _, rfl, free collecting ⟨nobody, ?_⟩, ?_⟩
    · rw [queue] at single
      cases answered : state.answered <;> simp_all
    · -- the failure is noted last, as the search notes it, and the next place is free
      rw [failed_afterFailure run collecting queue isLast]
      simp only [hear, afterFailure, isLast]
      rfl
  | giveUp collecting full idle =>
    obtain ⟨quiet, rfl⟩ := ahead.of_idle run collecting idle
    -- the coordinator gives up when no host is left, and the search ends there too
    have whole : order.drop state.reached = [] := by
      simp only [hasRoom, idle, Resolver.raceSetup, Nat.lt_one_iff, decide_true, Bool.true_and,
        decide_eq_false_iff_not, Nat.not_lt] at full
      exact List.drop_eq_nil_iff.mpr full
    refine ⟨[], _, (List.append_nil _).symm, settled (by simp) quiet, ?_⟩
    rw [whole]
    rfl
  -- with one slot nothing is left in the channel behind the winner
  | @drain _ _ surplus _ draining queue =>
    have collecting := (ahead.of_answered surplus (by simp [queue])).1
    simp [collecting] at draining
  | stopDraining draining =>
    obtain ⟨quiet, rfl⟩ := ahead.of_settled (by simp [draining])
    refine ⟨[], _, (List.append_nil _).symm, settled (by simp) quiet, ?_⟩
    simp [outcome, draining, Phase.winner?]
  | leave leaving =>
    obtain ⟨quiet, rfl⟩ := ahead.of_settled (by simp [leaving])
    refine ⟨[], _, (List.append_nil _).symm, settled (by simp) ⟨quiet.1, quiet.2.1, rfl⟩, ?_⟩
    simp [outcome, leaving, Phase.winner?]

/-- All that a race has reported stands before what the search ahead still reports, and both
together are the whole search. -/
theorem of_run (calm : connector.NeverCrashes)
    (run : run? (oneSlot connector config order) (initial (oneSlot connector config order) first)
      moves = some state) (unskipped : skips moves = []) :
    ∃ later, Ahead connector config order state later ∧
      Search.tryEach connector config order [] first = later.behind state.log := by
  revert unskipped
  refine run_induction (motive := fun moves state => skips moves = [] →
      ∃ later, Ahead connector config order state later ∧
        Search.tryEach connector config order [] first = later.behind state.log)
    (fun _ => ⟨_, start connector config order first, rfl⟩) ?_ run
  intro moves state move next before step ih unskipped
  rw [skips_append, skips_singleton, List.append_eq_nil_iff] at unskipped
  obtain ⟨search, ahead, same⟩ := ih unskipped.1
  obtain ⟨events, later, log, aheadNext, rest⟩ := ahead.of_step calm before step unskipped.2
  exact ⟨later, aheadNext, by rw [same, rest, log, Search.behind_behind]⟩

end Ahead

/-! ## The result -/

/-- A race with one slot in which the system has room for every attempt is a search: in whatever
order its moves come, it returns after boundedly many of them, and then with the outcome of the
search, with the same log, and with the same calls to the connector, whose answers may depend on all
the calls before. -/
theorem race_eq_tryEach (calm : connector.NeverCrashes) (config : ConnectionConfig)
    (order : List String) (first : σ) :
    let setup := Resolver.raceSetup connector.recorded config order 1
    let search := Search.tryEach connector.recorded config order [] (first, [])
    (∀ moves final, Returns setup (first, []) moves final → skips moves = [] →
      outcome setup config final = search.outcome ∧ final.connector = search.connector ∧
        final.log = search.log) ∧
    ∀ moves state, run? setup (initial setup (first, [])) moves = some state →
      moves.length ≤ 4 * order.length + 2 ∧
        ((∀ move, move.skipped = [] → step? setup state move = none) →
          state.phase.isOver = true) := by
  intro setup search
  refine ⟨?_, ?_⟩
  · rintro moves final ⟨run, ended⟩ unskipped
    -- what the search reports is what the race has reported and what is still ahead
    obtain ⟨later, ahead, whole⟩ :=
      Ahead.of_run (Connector.recorded_neverCrashes calm) run unskipped
    have past : final.phase ≠ .collecting := by
      intro collecting
      simp [collecting, Phase.isOver] at ended
    rw [(ahead.of_settled past).2] at whole
    -- nothing is ahead any more, so the log is all that the search reports
    rw [show search = _ from whole]
    exact ⟨rfl, rfl, (List.append_nil _).symm⟩
  · intro moves state run
    have bounded := length_add_remaining_le run
    exact ⟨Nat.le_of_add_right_le bounded, fun stuck => (over_of_stuck run stuck).1⟩

/-- Refuses the first two calls, whoever they are for, and then takes every connection. -/
def reluctant : Connector Nat Nat where
  connect _ calls := (if calls < 2 then .refuse (.root "busy") else .accept calls, calls + 1)

/-- It answers every call, one way or the other. -/
theorem reluctant_neverCrashes : reluctant.NeverCrashes := by
  intro config calls message
  simp only [reluctant]
  split <;> simp

/-- Three hosts in turn, the last of them in a race that has returned. -/
def threeInTurn : List Move :=
  [.start 0, .dial 0, .send 0, .receive 0, .start 1, .dial 1, .send 1, .receive 1,
    .start 2, .dial 2, .send 2, .receive 2, .stopDraining, .leave]

/-- The two first hosts, which are the same one, are refused and the third is taken, in the race as
in the search. -/
theorem race_eq_tryEach_reluctant :
    reluctant.NeverCrashes ∧ ∃ final,
      Returns (Resolver.raceSetup reluctant.recorded default ["a", "a", "b", "c"] 1) (0, [])
        threeInTurn final ∧
      (Search.tryEach reluctant.recorded default ["a", "a", "b", "c"] [] (0, [])).outcome =
        .connected ⟨2, (default : ConnectionConfig).withHost "b"⟩ ∧
      (Search.tryEach reluctant.recorded default ["a", "a", "b", "c"] [] (0, [])).connector.2 =
        final.connector.2 := by
  obtain ⟨final, returned⟩ : ∃ final,
      Returns (Resolver.raceSetup reluctant.recorded default ["a", "a", "b", "c"] 1) (0, [])
        threeInTurn final := ⟨_, rfl, rfl⟩
  have same := (race_eq_tryEach reluctant_neverCrashes default ["a", "a", "b", "c"] 0).1
    threeInTurn final returned rfl
  exact ⟨reluctant_neverCrashes, final, returned, rfl, (congrArg Prod.snd same.2.1).symm⟩

end Race

end ClusterSchema
