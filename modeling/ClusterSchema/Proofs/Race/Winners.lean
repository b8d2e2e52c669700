import ClusterSchema.Proofs.Race.Progress
import Mathlib.Data.List.Perm.Subperm

/-!
# Who can win a race

Where the connector's answer to an attempt is a matter of the attempt alone, the order in which
answers come in decides between finitely many winners, and these are known beforehand.  An attempt
starts as soon as the failures before it have freed a slot, so the attempts that hold their slots
while it starts are those that will take the connection; fewer of them than there are slots may
stand before a winner.

* `mem_running_or_channel`  an attempt that takes the connection holds its slot while others start
* `crowd_lt_limit`          a winner has fewer takers before it than there are slots
* `exists_won`              and every such taker wins in some run
* `failures_of_exhausted`   without a taker, the failures are those of all attempts, in order
-/

namespace ClusterSchema

variable {η : Type}

namespace Answer

/-- Whether the host takes the connection. -/
def accepts : Answer η → Bool
  | accept _ => true
  | refuse _ | crash _ => false

/-- What an attempt fails with, if it fails. -/
def cause? : Answer η → Option Cause
  | accept _ => none
  | refuse cause => some cause
  | crash _ => some (.root Race.crashMessage)

/-- A host that takes the connection gives a handle. -/
theorem accepts_eq_true_iff {answer : Answer η} :
    answer.accepts = true ↔ ∃ handle, answer = .accept handle := by
  cases answer <;> simp [accepts]

end Answer

namespace Race

open scoped List

variable {σ : Type} {setup : Setup σ η} {connector : σ} {moves : List Move} {state : State σ η}

/-- The connector's answer to an attempt depends on its position alone. -/
def Setup.Answers (setup : Setup σ η) (answer : Nat → Answer η) : Prop :=
  ∀ index < setup.order.length, ∀ state, (setup.dial index state).1 = answer index

/-- How many of the attempts before a position take the connection. -/
def crowd (answer : Nat → Answer η) (index : Nat) : Nat :=
  (List.range index).countP fun earlier => (answer earlier).accepts

/-- Only an attempt that takes the connection sends a success, and it sends its own handle. -/
theorem message_eq_ok {index position : Nat} {handle : η} {answer : Answer η}
    (same : message position answer = (index, .ok handle)) :
    position = index ∧ answer = .accept handle := by
  cases answer <;> simp_all [message]

/-- What an attempt sends as a failure is what it fails with, a breakdown included. -/
theorem message_eq_error {index position : Nat} {cause : Cause} {answer : Answer η}
    (same : message position answer = (index, .error cause)) :
    position = index ∧ answer.cause? = some cause := by
  cases answer <;> simp_all [message, Answer.cause?]

/-- Whoever dials has a place in the order. -/
theorem lt_length_of_mem_dialing
    (run : run? setup (initial setup connector) moves = some state) {index : Nat}
    (isDialing : index ∈ state.dialing) : index < setup.order.length := by
  have started : index ∈ starts moves := by
    apply (running_append_sends_perm run).mem_iff.mp
    simp [running, isDialing]
  exact Nat.lt_of_lt_of_le (lt_reached_of_mem_starts run started) (reached_le run)

/-- Nobody dials twice at once. -/
theorem dialing_nodup (run : run? setup (initial setup connector) moves = some state) :
    state.dialing.Nodup := by
  have all := running_append_sends_nodup run
  rw [running, List.append_assoc] at all
  exact (List.nodup_append.mp all).1

/-! ## What the messages say -/

variable {answer : Nat → Answer η}

/-- The messages of a race that are not drained: not sent, not received, or received. -/
def messages (setup : Setup σ η) (connector : σ) (moves : List Move) (state : State σ η) :
    List (Message η) :=
  state.answered ++ state.channel ++ received setup (initial setup connector) moves

/-- Messages come from the connector's answers and from nowhere else. -/
theorem mem_messages_of_step {next : State σ η} {move : Move}
    (run : run? setup (initial setup connector) moves = some state)
    (step : Step setup state move next) {sent : Message η}
    (member : sent ∈ messages setup connector (moves ++ [move]) next) :
    sent ∈ messages setup connector moves state ∨
      ∃ index ∈ state.dialing, move = .dial index ∧
        sent = message index (setup.dial index state.connector).1 := by
  rw [messages, received_concat run] at member
  cases step with
  -- only here is there a message that was nowhere before
  | @dial index isDialing =>
    simp only [afterDial, taken, List.append_nil, List.mem_append, List.mem_singleton] at member
    rcases member with ((old | new) | old) | old
    · exact .inl (by simp [messages, old])
    · exact .inr ⟨index, isDialing, rfl, new⟩
    · exact .inl (by simp [messages, old])
    · exact .inl (by simp [messages, old])
  -- the other moves take messages from one of the three places to another, or out of them
  | send held => exact .inl (by simp [messages, held] at member ⊢; tauto)
  | sendLate held => exact .inl (by simp [messages, held] at member ⊢; tauto)
  | receiveSuccess _ _ queue => exact .inl (by simp [messages, queue] at member ⊢; tauto)
  | receiveFailure _ _ queue => exact .inl (by simp [messages, queue] at member ⊢; tauto)
  | drain _ queue => exact .inl (by simp [messages, queue] at member ⊢; tauto)
  | leave => exact .inl (by simp [messages] at member ⊢; tauto)
  | _ => exact .inl (by simpa [messages] using member)

/-- A message says what the connector has answered. -/
theorem eq_message_of_mem (fixed : setup.Answers answer)
    (run : run? setup (initial setup connector) moves = some state) :
    ∀ sent ∈ messages setup connector moves state, sent = message sent.1 (answer sent.1) := by
  refine run_induction (motive := fun moves state =>
      ∀ sent ∈ messages setup connector moves state, sent = message sent.1 (answer sent.1))
    (by simp [messages, initial, received, trace]) ?_ run
  intro moves state move next before step ih sent member
  rcases mem_messages_of_step before step member with old | ⟨index, isDialing, -, rfl⟩
  · exact ih sent old
  · have answers := fixed index (lt_length_of_mem_dialing before isDialing) state.connector
    rw [message_position, answers]

/-- A message that was received says what the connector has answered. -/
theorem eq_message_of_mem_received (fixed : setup.Answers answer)
    (run : run? setup (initial setup connector) moves = some state) {index : Nat}
    {outcome : Except Cause η}
    (member : (index, outcome) ∈ received setup (initial setup connector) moves) :
    message index (answer index) = (index, outcome) :=
  (eq_message_of_mem fixed run _ (List.mem_append_right _ member)).symm

/-- Before there is a winner, every message received is a failure. -/
theorem exists_cause_of_mem_received (fixed : setup.Answers answer)
    (run : run? setup (initial setup connector) moves = some state)
    (undecided : state.phase.winner? = none) {index : Nat}
    (member : index ∈ (received setup (initial setup connector) moves).map (·.1)) :
    ∃ cause, (answer index).cause? = some cause ∧
      (index, .error cause) ∈ received setup (initial setup connector) moves := by
  obtain ⟨⟨position, outcome⟩, gotten, rfl⟩ := List.mem_map.mp member
  cases outcome with
  | ok handle =>
    -- a success that was received is the winner's, and there is none
    have success := mem_successes.mpr gotten
    rw [successes_received run, undecided] at success
    cases success
  | error cause =>
    exact ⟨cause, (message_eq_error (eq_message_of_mem_received fixed run gotten)).2, gotten⟩

/-! ## Only these can win -/

/-- While others are tried, an attempt that takes the connection holds its slot. -/
theorem mem_running_or_channel (fixed : setup.Answers answer)
    (run : run? setup (initial setup connector) moves = some state)
    (collecting : state.phase = .collecting) {index : Nat} (started : index ∈ starts moves)
    (accepts : (answer index).accepts = true) :
    index ∈ running state ++ state.channel.map (·.1) := by
  have undecided : state.phase.winner? = none := by rw [collecting, Phase.winner?]
  have known : index ∈ running state ++ sends moves :=
    (running_append_sends_perm run).mem_iff.mpr started
  rw [sends_eq run (by rw [collecting, Phase.isOver]), drains_eq_nil run undecided] at known
  simp only [List.mem_append, List.not_mem_nil, or_false] at known ⊢
  -- it has started, so it runs or has sent; what was received before a winner has failed
  rcases known with isRunning | isReceived | isQueued
  · exact Or.inl isRunning
  · obtain ⟨cause, failed, _⟩ := exists_cause_of_mem_received fixed run undecided isReceived
    obtain ⟨handle, taken⟩ := Answer.accepts_eq_true_iff.mp accepts
    simp [taken, Answer.cause?] at failed
  · exact Or.inr isQueued

/-- Where the system had room for every attempt, those who would take the connection up to a started
one have a slot each. -/
theorem crowd_lt_limit (fixed : setup.Answers answer)
    (run : run? setup (initial setup connector) moves = some state) (unskipped : skips moves = [])
    (collecting : state.phase = .collecting) {index : Nat} (started : index ∈ starts moves)
    (accepts : (answer index).accepts = true) : crowd answer index < setup.limit := by
  have first : starts moves = List.range state.reached := by
    rw [starts_eq_visits_of_skips unskipped, visits_eq_range run]
  have reached := lt_reached_of_mem_starts run started
  -- the takers up to this place are different attempts, and each of them fills a slot
  let takers := (List.range (index + 1)).filter fun position => (answer position).accepts
  have takers_length : takers.length = crowd answer index + 1 := by
    simp [takers, crowd, List.range_succ, List.filter_append, accepts, List.countP_eq_length_filter]
  -- each of them started before the one at `index`, and has not let go of its slot since
  have inSlots : takers ⊆ running state ++ state.channel.map (·.1) := by
    intro position member
    simp only [takers, List.mem_filter, List.mem_range] at member
    have before : position ∈ starts moves := by
      rw [first, List.mem_range]
      omega
    exact mem_running_or_channel fixed run collecting before member.2
  have nodup : takers.Nodup := List.nodup_range.filter _
  have fits := (List.subperm_of_subset nodup inSlots).length_le
  have counted := inFlight_eq_of_collecting run collecting
  have limited := inFlight_le_limit run
  simp only [List.length_append, List.length_map] at fits
  omega

/-- A winner takes the connection, and where the system had room for every attempt it has fewer
takers before it than there are slots. -/
theorem winner_spec (fixed : setup.Answers answer)
    (run : run? setup (initial setup connector) moves = some state) {index : Nat} {handle : η}
    (decided : state.phase.winner? = some (index, handle)) :
    index < setup.order.length ∧ answer index = .accept handle ∧
      (skips moves = [] → crowd answer index < setup.limit) := by
  revert decided
  refine run_induction (motive := fun moves state => state.phase.winner? = some (index, handle) →
      index < setup.order.length ∧ answer index = .accept handle ∧
        (skips moves = [] → crowd answer index < setup.limit))
    (fun decided => by cases decided) ?_ run
  intro moves state move next before step ih decided
  cases step with
  -- the one move that makes a winner
  | @receiveSuccess position gained rest collecting _ queue =>
    simp only [afterSuccess, Phase.winner?, Option.some.injEq, Prod.mk.injEq] at decided
    obtain ⟨rfl, rfl⟩ := decided
    have said := eq_message_of_mem fixed before (position, .ok gained) (by simp [messages, queue])
    have accepted := (message_eq_ok said.symm).2
    have sent : position ∈ sends moves := by
      rw [sends_eq before (by rw [collecting, Phase.isOver]), queue]
      simp
    have started := mem_starts_of_mem_sends before sent
    refine ⟨Nat.lt_of_lt_of_le (lt_reached_of_mem_starts before started) (reached_le before),
      accepted, fun unskipped => ?_⟩
    -- it was started while the coordinator still collected, so it held a slot beside the others
    exact crowd_lt_limit fixed before (by simpa using unskipped) collecting started
      (by rw [accepted, Answer.accepts])
  -- the winner of the other moves is the one from before
  | giveUp => cases decided
  | stopDraining draining => simpa using ih (by rw [draining]; exact decided)
  | leave leaving => simpa using ih (by rw [leaving]; exact decided)
  | skip collecting => simp [collecting, Phase.winner?] at decided
  | _ => simpa using ih decided

/-! ## Without a winner -/

/-- At a place of the order the host is the one that stands there. -/
theorem host_eq_getElem {index : Nat} (inside : index < setup.order.length) :
    setup.host index = setup.order[index] := by
  simp [Setup.host, inside]

/-- Why the host at a position has no connection, if it has none: because its attempt could not be
started, or else because of its answer. -/
def causeAt (answer : Nat → Answer η) (skipped : List (Nat × Cause)) (index : Nat) : Option Cause :=
  (skipped.lookup index).or (answer index).cause?

/-- Where nobody was passed over, hosts fail by their answers alone. -/
@[simp] theorem causeAt_nil (answer : Nat → Answer η) (index : Nat) :
    causeAt answer [] index = (answer index).cause? := rfl

/-- At exhaustion every host has failed, each in its own way. -/
theorem failures_of_exhausted (fixed : setup.Answers answer) (positive : 0 < setup.limit)
    (run : run? setup (initial setup connector) moves = some state)
    (exhausted : state.phase = .exhausted) {index : Nat} (inside : index < setup.order.length) :
    ∃ cause, causeAt answer (skips moves) index = some cause ∧
      state.failures[index]? = some (some ⟨setup.order[index], cause⟩) := by
  -- the coordinator has come to every host, and so each was started or passed over
  have visited : index ∈ starts moves ++ (skips moves).map (·.1) := by
    rw [(starts_append_skips_perm moves).mem_iff, visits_eq_range run,
      reached_eq_of_exhausted positive run exhausted]
    exact List.mem_range.mpr inside
  -- the table says why the host failed, whichever of the two it was
  have filled : ∀ cause, Failed setup connector moves index cause →
      state.failures[index]? = some (some ⟨setup.order[index], cause⟩) := by
    intro cause failed
    exact (failures_eq_some_iff run index _).mpr ⟨cause, failed, by rw [host_eq_getElem inside]⟩
  cases passed : (skips moves).lookup index with
  | some cause =>
    obtain ⟨before, after, whole, -⟩ := List.lookup_eq_some_iff.mp passed
    refine ⟨cause, by rw [causeAt, passed, Option.some_or], filled cause (.inr ?_)⟩
    simp [whole]
  | none =>
    -- it was not passed over, so it has started, and then its failure has been received
    have unskipped : index ∉ (skips moves).map (·.1) := by
      rintro member
      obtain ⟨⟨_, cause⟩, skipped, rfl⟩ := List.mem_map.mp member
      simpa using List.lookup_eq_none_iff.mp passed _ skipped
    have started := (List.mem_append.mp visited).resolve_right unskipped
    have isReceived := (received_perm_of_exhausted run exhausted).mem_iff.mpr started
    obtain ⟨cause, failed, gotten⟩ :=
      exists_cause_of_mem_received fixed run (by rw [exhausted, Phase.winner?]) isReceived
    exact ⟨cause, by rw [causeAt, passed, Option.none_or, failed], filled cause (.inl gotten)⟩

/-- A table without empty places loses nothing when it is read off. -/
private theorem filterMap_id_of_all_some {α : Type} {table : List (Option α)}
    (filled : none ∉ table) : (table.filterMap id).map some = table := by
  induction table with
  | nil => rfl
  | cons entry rest ih => cases entry <;> simp_all

/-- The attempts of an exhausted race are the failures of all hosts, in order. -/
theorem attempts_of_exhausted (fixed : setup.Answers answer) (positive : 0 < setup.limit)
    (run : run? setup (initial setup connector) moves = some state)
    (exhausted : state.phase = .exhausted) :
    (state.failures.filterMap id).map some =
      setup.order.mapIdx fun index host =>
        (causeAt answer (skips moves) index).map (⟨host, ·⟩) := by
  -- no place is empty, so reading the table off keeps the positions
  have filled : none ∉ state.failures := by
    intro member
    obtain ⟨index, inside, isNone⟩ := List.mem_iff_getElem.mp member
    have bounded := failures_length run ▸ inside
    obtain ⟨cause, _, entry⟩ := failures_of_exhausted fixed positive run exhausted bounded
    simp [List.getElem?_eq_getElem inside, isNone] at entry
  rw [filterMap_id_of_all_some filled]
  apply List.ext_getElem?
  intro index
  by_cases inside : index < setup.order.length
  · obtain ⟨cause, failed, entry⟩ := failures_of_exhausted fixed positive run exhausted inside
    simp [entry, failed, inside]
  · have outside := failures_length run ▸ inside
    simp at inside outside
    simp [inside, outside]

/-! ## Each of them can win -/

/-- The failures before `index` have been received, and nobody else has answered. -/
structure Upto (answer : Nat → Answer η) (index : Nat) (state : State σ η) : Prop where
  collecting : state.phase = .collecting
  silent : state.answered = [] ∧ state.channel = []
  covered : index ≤ state.reached
  dialing : ∀ position, position ∈ state.dialing ↔
    position < state.reached ∧ (position < index → (answer position).accepts = true)

/-- At the start there is nobody before the first attempt. -/
theorem upto_zero (setup : Setup σ η) (connector : σ) (answer : Nat → Answer η) :
    Upto answer 0 (initial setup connector) where
  collecting := rfl
  silent := ⟨rfl, rfl⟩
  covered := Nat.le_refl _
  dialing := by simp [initial]

/-- With fewer takers before it than slots, an attempt is started while those before it are left
hanging. -/
theorem exists_started (run : run? setup (initial setup connector) moves = some state)
    {index : Nat} (upto : Upto answer index state) (inside : index < setup.order.length)
    (fits : crowd answer index < setup.limit) :
    ∃ more full, run? setup (initial setup connector) (moves ++ more) = some full ∧
      skips more = [] ∧ Upto answer index full ∧ hasRoom setup full = false ∧
      index < full.reached := by
  obtain ⟨count, full, starting, noRoom, collecting, reached, dialing, answered, channel⟩ :=
    exists_full setup upto.collecting
  have longer : run? setup (initial setup connector)
      (moves ++ (List.range' state.reached count).map .start) = some full := by
    rw [run?_append_of_run? run, starting]
  -- whoever was started on the way hangs, whether it stands before `index` or behind
  have uptoFull : Upto answer index full := by
    refine ⟨collecting, by rw [answered, channel]; exact upto.silent, ?_, ?_⟩
    · have := upto.covered
      omega
    · intro position
      have covered := upto.covered
      rw [dialing, List.mem_append, upto.dialing, List.mem_range'_1, reached]
      constructor
      · rintro (⟨early, takes⟩ | late)
        · exact ⟨by omega, takes⟩
        · exact ⟨by omega, by omega⟩
      · rintro ⟨below, takes⟩
        by_cases early : position < state.reached
        · exact Or.inl ⟨early, takes⟩
        · exact Or.inr (by omega)
  have unskipped : skips ((List.range' state.reached count).map .start) = [] := by
    simp [skips, List.flatMap_map, Move.skipped]
  refine ⟨_, full, longer, unskipped, uptoFull, noRoom, ?_⟩
  -- otherwise everybody who hangs is one of those before, and they do not fill the slots
  by_contra stopped
  have onlyTakers : full.dialing ⊆
      (List.range index).filter fun position => (answer position).accepts := by
    intro position isDialing
    obtain ⟨below, takes⟩ := (uptoFull.dialing position).mp isDialing
    have early : position < index := by omega
    simp [early, takes early]
  have few := (List.subperm_of_subset (dialing_nodup longer) onlyTakers).length_le
  rw [← List.countP_eq_length_filter, ← crowd] at few
  have counted := inFlight_eq_of_collecting longer collecting
  simp only [running, uptoFull.silent.1, uptoFull.silent.2, List.map_nil, List.append_nil,
    List.length_nil, Nat.add_zero] at counted
  simp only [hasRoom, Bool.and_eq_false_iff, decide_eq_false_iff_not] at noRoom
  omega

/-- When nobody else has answered, the answer to an attempt goes straight to the channel. -/
theorem run?_dial_send (setup : Setup σ η) {index : Nat} (upto : Upto answer index state)
    (isDialing : index ∈ state.dialing) :
    run? setup state [.dial index, .send index] =
      some { afterDial setup state index with
        answered := []
        channel := [message index (setup.dial index state.connector).1] } := by
  simp [run?, step?, dial?, send?, isDialing, upto.silent.1, upto.silent.2, upto.collecting,
    Phase.isOver]

/-- An attempt that has started, and before which all failures were received, still dials. -/
theorem Upto.mem_dialing {index : Nat} (upto : Upto answer index state)
    (reached : index < state.reached) : index ∈ state.dialing :=
  (upto.dialing index).mpr ⟨reached, by omega⟩

/-- The next attempt is left hanging if it takes the connection, and is received otherwise. -/
theorem exists_upto_succ (fixed : setup.Answers answer)
    (run : run? setup (initial setup connector) moves = some state)
    {index : Nat} (upto : Upto answer index state) (inside : index < setup.order.length)
    (fits : crowd answer index < setup.limit) :
    ∃ more next, run? setup (initial setup connector) (moves ++ more) = some next ∧
      skips more = [] ∧ Upto answer (index + 1) next := by
  obtain ⟨starting, full, longer, unskipped, uptoFull, noRoom, started⟩ :=
    exists_started run upto inside fits
  -- a taker is left without an answer, and the failure of anybody else is received at once
  by_cases accepts : (answer index).accepts = true
  -- a taker is left hanging, and everything is as before but for its place
  · refine ⟨starting, full, longer, unskipped, uptoFull.collecting, uptoFull.silent, started, ?_⟩
    intro position
    rw [uptoFull.dialing]
    constructor
    · rintro ⟨below, takes⟩
      refine ⟨below, fun early => ?_⟩
      rcases Nat.lt_succ_iff_lt_or_eq.mp early with earlier | rfl
      · exact takes earlier
      · exact accepts
    · rintro ⟨below, takes⟩
      exact ⟨below, fun early => takes (by omega)⟩
  · have isDialing := uptoFull.mem_dialing started
    have answering := run?_dial_send setup uptoFull isDialing
    -- whoever does not take the connection sends a failure, and a breakdown is one
    obtain ⟨cause, failed⟩ : ∃ cause, message index (setup.dial index full.connector).1 =
        (index, .error cause) := by
      rw [fixed index inside]
      cases said : answer index with
      | accept handle => simp [said, Answer.accepts] at accepts
      | refuse cause => exact ⟨cause, rfl⟩
      | crash text => exact ⟨.root crashMessage, rfl⟩
    rw [failed] at answering
    have asked := (run?_append_of_run? longer [.dial index, .send index]).trans answering
    have received := run?_concat_of_step asked (.receiveFailure uptoFull.collecting noRoom rfl)
    have nodup := dialing_nodup longer
    rw [List.append_assoc, List.append_assoc] at received
    have noneMore : skips (starting ++ ([.dial index, .send index] ++ [.receive index])) = [] := by
      rw [skips_append, unskipped]
      rfl
    refine ⟨_, _, received, noneMore, uptoFull.collecting, ⟨rfl, rfl⟩, started, ?_⟩
    intro position
    -- those who dial are those from before without this one
    simp only [afterFailure, afterDial, nodup.mem_erase_iff, uptoFull.dialing]
    constructor
    · rintro ⟨other, below, takes⟩
      exact ⟨below, fun early => takes (by omega)⟩
    · rintro ⟨below, takes⟩
      refine ⟨?_, below, fun early => takes (by omega)⟩
      rintro rfl
      exact accepts (takes (by omega))

/-- A taker with fewer takers before it than slots is come to, and all failures before it are
received. -/
theorem exists_upto (fixed : setup.Answers answer) (connector : σ) {index : Nat}
    (inside : index < setup.order.length) (fits : crowd answer index < setup.limit) :
    ∃ moves state, run? setup (initial setup connector) moves = some state ∧
      skips moves = [] ∧ Upto answer index state := by
  -- the crowd before an earlier attempt is no larger, so every attempt up to this one fits
  suffices step : ∀ reached ≤ index, ∃ moves state,
      run? setup (initial setup connector) moves = some state ∧ skips moves = [] ∧
        Upto answer reached state from
    step index (Nat.le_refl _)
  intro reached
  induction reached with
  | zero => exact fun _ => ⟨[], _, rfl, rfl, upto_zero setup connector answer⟩
  | succ reached ih =>
    intro below
    obtain ⟨moves, state, run, unskipped, upto⟩ := ih (by omega)
    have fewer : crowd answer reached ≤ crowd answer index :=
      List.Sublist.countP_le (List.range_sublist.mpr (by omega))
    obtain ⟨more, next, longer, noneMore, uptoNext⟩ :=
      exists_upto_succ fixed run upto (by omega) (by omega)
    exact ⟨moves ++ more, next, longer, by rw [skips_append, unskipped, noneMore]; rfl, uptoNext⟩

/-- Every taker with fewer takers before it than slots wins in some run, one in which the system had
room for every attempt. -/
theorem exists_won (fixed : setup.Answers answer) (connector : σ) {index : Nat} {handle : η}
    (inside : index < setup.order.length) (accepted : answer index = .accept handle)
    (fits : crowd answer index < setup.limit) :
    ∃ moves state, run? setup (initial setup connector) moves = some state ∧
      skips moves = [] ∧ state.phase = .won index handle := by
  obtain ⟨moves, state, run, unskipped, upto⟩ := exists_upto fixed connector inside fits
  obtain ⟨more, full, longer, noneMore, uptoFull, noRoom, started⟩ :=
    exists_started run upto inside fits
  have answering := run?_dial_send setup uptoFull (uptoFull.mem_dialing started)
  rw [fixed index inside, accepted, message] at answering
  -- its answer is the only one in the channel, so the coordinator leaves with it
  have asked := (run?_append_of_run? longer [.dial index, .send index]).trans answering
  have received := run?_concat_of_step asked (.receiveSuccess uptoFull.collecting noRoom rfl)
  have drained := run?_concat_of_step received (.stopDraining rfl rfl)
  have left := run?_concat_of_step drained (.leave rfl)
  refine ⟨_, _, left, ?_, rfl⟩
  simp only [skips_append, unskipped, noneMore]
  rfl

/-! ## The result -/

/-- A run at whose end the coordinator has returned. -/
def Returns (setup : Setup σ η) (connector : σ) (moves : List Move) (final : State σ η) : Prop :=
  run? setup (initial setup connector) moves = some final ∧ final.phase.isOver = true

/-- A coordinator that has returned has a winner, who is one of the possible ones, or has given up.
-/
theorem Returns.won_or_exhausted (fixed : setup.Answers answer) (config : ConnectionConfig)
    (returned : Returns setup connector moves state) :
    (∃ index handle, ∃ inside : index < setup.order.length,
      state.phase = .won index handle ∧ answer index = .accept handle ∧
        (skips moves = [] → crowd answer index < setup.limit) ∧
        outcome setup config state = .connected ⟨handle, config.withHost setup.order[index]⟩) ∨
    (state.phase = .exhausted ∧
      outcome setup config state = .exhausted ⟨state.failures.filterMap id⟩) := by
  obtain ⟨run, ended⟩ := returned
  cases phase : state.phase with
  | won index handle =>
    have decided : state.phase.winner? = some (index, handle) := by rw [phase, Phase.winner?]
    obtain ⟨inside, accepted, fits⟩ := winner_spec fixed run decided
    refine Or.inl ⟨index, handle, inside, rfl, accepted, fits, ?_⟩
    simp only [outcome, decided, host_eq_getElem inside]
  | exhausted => exact Or.inr ⟨rfl, by simp only [outcome, phase, Phase.winner?]⟩
  | _ => simp [phase, Phase.isOver] at ended

/-- A host that fails does not take the connection. -/
theorem accepts_eq_false_of_cause? {answer : Answer η} {cause : Cause}
    (failed : answer.cause? = some cause) : answer.accepts = false := by
  cases answer <;> simp_all [Answer.cause?, Answer.accepts]

/-- What a race may return, whatever the order in which its moves come: the connection of a host
that takes it and, where the system had room for every attempt, has fewer takers before it than
slots.  Each of these can win.  With room for every attempt it is exhausted exactly if there is no
taker, and then with the failures of all hosts in order.  It returns after boundedly many moves. -/
theorem race_result (config : ConnectionConfig) (connector : σ) (fixed : setup.Answers answer)
    (positive : 0 < setup.limit) :
    (∀ moves final connection, Returns setup connector moves final →
      outcome setup config final = .connected connection →
      ∃ index handle, ∃ inside : index < setup.order.length,
        final.phase = .won index handle ∧ answer index = .accept handle ∧
          (skips moves = [] → crowd answer index < setup.limit) ∧
          connection = ⟨handle, config.withHost setup.order[index]⟩ ∧
          connection.host = setup.order[index]) ∧
    (∀ index handle, (inside : index < setup.order.length) → answer index = .accept handle →
      crowd answer index < setup.limit →
      ∃ moves final, Returns setup connector moves final ∧ skips moves = [] ∧
        final.phase = .won index handle ∧
        outcome setup config final = .connected ⟨handle, config.withHost setup.order[index]⟩) ∧
    (∀ moves final, Returns setup connector moves final → skips moves = [] →
      ((∃ failure, outcome setup config final = .exhausted failure) ↔
        ∀ index < setup.order.length, (answer index).accepts = false)) ∧
    (∀ moves final failure, Returns setup connector moves final → skips moves = [] →
      outcome setup config final = .exhausted failure →
      failure.attempts.map some =
        setup.order.mapIdx fun index host => (answer index).cause?.map (⟨host, ·⟩)) ∧
    (∀ moves final, run? setup (initial setup connector) moves = some final →
      moves.length ≤ 4 * setup.order.length + 2 ∧
        ((∀ move, move.skipped = [] → step? setup final move = none) →
          final.phase.isOver = true)) := by
  refine ⟨?_, ?_, ?_, ?_, ?_⟩
  · intro moves final connection returned connected
    rcases returned.won_or_exhausted fixed config with
      ⟨index, handle, inside, won, accepted, fits, result⟩ | ⟨_, result⟩
    · rw [result, Outcome.connected.injEq] at connected
      subst connected
      exact ⟨index, handle, inside, won, accepted, fits, rfl, rfl⟩
    · rw [result] at connected
      cases connected
  · intro index handle inside accepted fits
    obtain ⟨moves, final, run, unskipped, won⟩ := exists_won fixed connector inside accepted fits
    refine ⟨moves, final, ⟨run, by rw [won, Phase.isOver]⟩, unskipped, won, ?_⟩
    simp only [outcome, won, Phase.winner?, host_eq_getElem inside]
  · intro moves final returned unskipped
    rcases returned.won_or_exhausted fixed config with
      ⟨index, handle, inside, _, accepted, _, result⟩ | ⟨exhausted, result⟩
    · rw [result]
      constructor
      · rintro ⟨_, impossible⟩
        cases impossible
      · intro nobody
        -- the winner takes the connection, and nobody was to
        have refused := nobody index inside
        simp [accepted, Answer.accepts] at refused
    · rw [result]
      refine ⟨fun _ index inside => ?_, fun _ => ⟨_, rfl⟩⟩
      -- every host has a cause, and only those have one who do not take the connection
      obtain ⟨cause, failed, _⟩ := failures_of_exhausted fixed positive returned.1 exhausted inside
      rw [unskipped, causeAt_nil] at failed
      exact accepts_eq_false_of_cause? failed
  · intro moves final failure returned unskipped isFailure
    rcases returned.won_or_exhausted fixed config with
      ⟨_, _, _, _, _, _, result⟩ | ⟨exhausted, result⟩
    · rw [result] at isFailure
      cases isFailure
    · rw [result, Outcome.exhausted.injEq] at isFailure
      subst isFailure
      simpa only [unskipped, causeAt_nil] using
        attempts_of_exhausted fixed positive returned.1 exhausted
  · intro moves final run
    have bounded := length_add_remaining_le run
    exact ⟨by omega, fun stuck => (over_of_stuck run stuck).1⟩

/-- With one slot, the second place wins although the third would break down. -/
theorem race_result_threePlaces :
    ∃ moves final, Returns (threePlaces 1) () moves final ∧ skips moves = [] ∧
      final.phase = .won 1 "b" ∧
      outcome (threePlaces 1) default final =
        .connected ⟨"b", (default : ConnectionConfig).withHost "b"⟩ := by
  have fixed : (threePlaces 1).Answers fun index => ((threePlaces 1).dial index ()).1 :=
    fun _ _ _ => rfl
  exact (race_result default () fixed (by decide)).2.1 1 "b" (by decide) rfl (by decide)

end Race

end ClusterSchema
