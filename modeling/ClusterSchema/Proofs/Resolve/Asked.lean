import ClusterSchema.Proofs.Race.Played
import ClusterSchema.Resolve

/-!
# What a resolution asks its connector

A connector answers by what it was asked before, so all that a resolution does to it is a list of
hosts, asked one after the other (`Connector.after`).  One host at a time, these are the hosts
attempted; in a race the hosts attempted are asked in any order, each once, and at every moment
those are missing whose attempts are under way.

* `dials_append_dialing_perm`, `connector_eq_after`  the calls in any run of a race
* `exists_asked`                                     the calls in a resolution
* `outcome_of_refuses`, `resolve_of_refuses`         a connector that refuses every host
-/

namespace ClusterSchema

open scoped List

variable {σ τ η : Type}

/-- The hosts whose attempts are reported, in order. -/
def attempted (log : List Event) : List String :=
  log.filterMap fun
    | .attempting host => some host
    | _ => none

/-- What is attempted in a longer log comes behind what was attempted before. -/
theorem attempted_append (log later : List Event) :
    attempted (log ++ later) = attempted log ++ attempted later := List.filterMap_append

/-- The report of how a resolution ended names no further attempt. -/
theorem attempted_events (outcome : Outcome η) : attempted outcome.events = [] := by
  cases outcome <;> rfl

namespace Connector

variable {connector : Connector σ η} {config : ConnectionConfig} {cause : Cause} {memory : σ}

/-- What a connector remembers that was asked for some hosts of a config, one after the other. -/
def after (connector : Connector σ η) (config : ConnectionConfig) (memory : σ)
    (hosts : List String) : σ :=
  hosts.foldl (fun memory host => (connector.connect (config.withHost host) memory).2) memory

/-- The last host asked for is asked when the connector has heard of all before it. -/
theorem after_concat (hosts : List String) (host : String) :
    connector.after config memory (hosts ++ [host]) =
      (connector.connect (config.withHost host) (connector.after config memory hosts)).2 :=
  List.foldl_concat ..

/-- Whatever host of a config it is asked for, a connector refuses and remembers nothing of it. -/
def Refuses (connector : Connector σ η) (config : ConnectionConfig) (cause : Cause) : Prop :=
  ∀ host memory, connector.connect (config.withHost host) memory = (.refuse cause, memory)

/-- A connector that refuses without remembering it is as it was before it was asked. -/
theorem after_of_refuses (refuses : connector.Refuses config cause) (hosts : List String) :
    connector.after config memory hosts = memory := by
  induction hosts with
  | nil => rfl
  | cons host rest ih =>
    rw [after, List.foldl_cons, refuses]
    exact ih

end Connector

/-- The failure of all hosts of an order for one cause. -/
def Exhausted.ofCause (order : List String) (cause : Cause) : Exhausted :=
  ⟨order.map fun host => ⟨host, cause⟩⟩

/-- The failure of all hosts of an order for one cause, except at the positions that have a cause of
their own. -/
def Exhausted.ofCauses (order : List String) (own : List (Nat × Cause)) (cause : Cause) :
    Exhausted :=
  ⟨order.mapIdx fun index host => ⟨host, (own.lookup index).getD cause⟩⟩

/-- Where no position has a cause of its own, all hosts have failed for the one cause. -/
theorem Exhausted.ofCauses_nil (order : List String) (cause : Cause) :
    Exhausted.ofCauses order [] cause = .ofCause order cause := by
  rw [ofCauses, ofCause, Exhausted.mk.injEq]
  apply List.ext_getElem?
  intro index
  simp

/-! ## One host at a time -/

namespace Search

variable {connector : Connector σ η} {config : ConnectionConfig} {cause : Cause}

/-- A search asks for the hosts it attempts. -/
theorem connector_tryEach (connector : Connector σ η) (config : ConnectionConfig)
    (hosts : List String) (failed : List HostAttempt) (memory : σ) :
    (tryEach connector config hosts failed memory).connector =
      connector.after config memory
        (attempted (tryEach connector config hosts failed memory).log) := by
  induction hosts generalizing failed memory with
  | nil => rfl
  | cons host rest ih =>
    rw [tryEach]
    cases said : connector.connect (config.withHost host) memory with
    | mk answer next =>
      have asked : connector.after config memory [host] = next := congrArg Prod.snd said
      -- the search stops at whoever does not refuse, and has asked for nobody else
      cases answer with
      | accept handle => exact asked.symm
      | crash message => exact asked.symm
      -- the hosts behind are asked by a connector that remembers this call
      | refuse cause =>
        refine (ih (failed ++ [⟨host, cause⟩]) next).trans ?_
        rw [← asked]
        rfl

/-- A search in which everybody refuses ends with the one cause for each host. -/
theorem outcome_tryEach_of_refuses (refuses : connector.Refuses config cause)
    (order : List String) (failed : List HostAttempt) (memory : σ) :
    (tryEach connector config order failed memory).outcome =
      .exhausted ⟨failed ++ (Exhausted.ofCause order cause).attempts⟩ := by
  induction order generalizing failed with
  | nil =>
    rw [tryEach, Exhausted.ofCause, List.map_nil, List.append_nil]
  | cons host rest ih =>
    simp only [tryEach, refuses host memory]
    rw [ih, List.append_assoc]
    rfl

end Search

/-! ## In a race -/

namespace Race

section Calls

variable {setup : Setup σ η} {memory : σ} {moves : List Move} {state : State σ η}

/-- The attempt whose call a move is. -/
@[simp] def Move.dialed : Move → List Nat
  | dial index => [index]
  | _ => []

/-- The attempts whose calls were answered in some moves, in order. -/
def dials (moves : List Move) : List Nat := moves.flatMap Move.dialed

/-- The calls answered in longer sequences of moves come behind those before. -/
@[simp] theorem dials_append (moves later : List Move) :
    dials (moves ++ later) = dials moves ++ dials later := List.flatMap_append

@[simp] theorem dials_singleton (move : Move) : dials [move] = move.dialed :=
  List.flatMap_singleton ..

/-- Every started attempt has been answered, once, or its call is open. -/
theorem dials_append_dialing_perm (run : run? setup (initial setup memory) moves = some state) :
    dials moves ++ state.dialing ~ starts moves := by
  refine run_induction (motive := fun moves state => dials moves ++ state.dialing ~ starts moves)
    (List.Perm.refl _) ?_ run
  intro moves state move next _ step ih
  cases step with
  | start =>
    -- the new attempt is the last one started, and its call is open
    simp only [dials_append, dials_singleton, Move.dialed, List.append_nil, afterStart,
      starts_append, starts_singleton, Move.started, ← List.append_assoc]
    exact ih.append_right _
  | @dial index isDialing =>
    -- its call leaves those that are open and joins the answered ones
    have same := ((List.perm_cons_erase isDialing).symm.append_left _).trans ih
    simpa [List.append_assoc] using same
  | _ => simpa using ih

/-- What is reported as attempted are the hosts that the coordinator has come to. -/
theorem attempted_log (run : run? setup (initial setup memory) moves = some state) :
    attempted state.log = (visits moves).map setup.host := by
  refine run_induction
    (motive := fun moves state => attempted state.log = (visits moves).map setup.host) rfl ?_ run
  intro moves state move next _ step ih
  rw [visits_append, List.map_append, ← ih, visits_singleton]
  cases step with
  | start => exact attempted_append ..
  | skip => exact attempted_append ..
  | receiveFailure => exact attempted_append ..
  | _ => exact (List.append_nil _).symm

end Calls

variable {connector : Connector σ η} {config : ConnectionConfig} {order : List String}
  {limit : Nat} {memory : σ} {moves : List Move} {state : State σ η} {cause : Cause}

/-- The connector of a race has been asked for the hosts of the answered attempts, in the order of
the answers. -/
theorem connector_eq_after
    (run : run? (Resolver.raceSetup connector config order limit)
      (initial (Resolver.raceSetup connector config order limit) memory) moves = some state) :
    state.connector = connector.after config memory
      ((dials moves).map (Resolver.raceSetup connector config order limit).host) := by
  refine run_induction (motive := fun moves state => state.connector = connector.after config memory
    ((dials moves).map (Resolver.raceSetup connector config order limit).host)) rfl ?_ run
  intro moves state move next _ step ih
  cases step with
  -- the one move that calls the connector
  | @dial index =>
    rw [dials_append, List.map_append, dials_singleton, Move.dialed, List.map_singleton,
      Connector.after_concat, ← ih]
    rfl
  | _ => simpa using ih

/-- The outcome of a race in which everybody is refused who is asked. -/
theorem outcome_of_refuses (refuses : connector.Refuses config cause) (positive : 0 < limit)
    (returned : Returns (Resolver.raceSetup connector config order limit) memory moves state) :
    outcome (Resolver.raceSetup connector config order limit) config state =
      .exhausted (.ofCauses order (skips moves) cause) := by
  have fixed : (Resolver.raceSetup connector config order limit).Answers fun _ => .refuse cause :=
    fun _ _ _ => congrArg Prod.fst (refuses ..)
  rcases returned.won_or_exhausted fixed config with
    ⟨_, _, _, _, accepted, _⟩ | ⟨exhausted, result⟩
  -- nobody takes the connection, so nobody wins
  · cases accepted
  · -- every place of the table holds the one cause, but for those that were passed over
    have table := attempts_of_exhausted fixed positive returned.1 exhausted
    have places : (order.mapIdx fun index host =>
          (causeAt (fun _ => Answer.refuse (η := η) cause) (skips moves) index).map
            (HostAttempt.mk host)) =
        (Exhausted.ofCauses order (skips moves) cause).attempts.map some := by
      apply List.ext_getElem?
      intro index
      simp only [Exhausted.ofCauses, List.getElem?_map, List.getElem?_mapIdx, Option.map_map,
        causeAt]
      cases (skips moves).lookup index <;> rfl
    rw [result, Outcome.exhausted.injEq, Exhausted.mk.injEq]
    exact List.map_injective_iff.mpr (fun _ _ => Option.some.inj) (table.trans places)

end Race

/-! ## In a resolution -/

namespace Resolver

open Race

variable {resolver : Resolver σ τ η} {config : ConnectionConfig} {completions : List String}
  {memory : σ} {seed : τ} {cause : Cause}

/-- A resolution asks its connector once for every host that it attempts, and for nothing else. -/
theorem exists_asked (resolver : Resolver σ τ η) (config : ConnectionConfig)
    (completions : List String) (memory : σ) (seed : τ) :
    ∃ asked, asked ~ attempted (resolver.resolve config completions memory seed).log ∧
      (resolver.resolve config completions memory seed).connector =
        resolver.connector.after config memory asked := by
  simp only [resolve]
  split
  -- one host at a time the calls are made in the order of the log
  · simp only [attempted_append, attempted_events, List.append_nil]
    exact ⟨_, List.Perm.refl _, Search.connector_tryEach ..⟩
  · rename_i limit positive _
    simp only [attempted_append, attempted_events, List.append_nil]
    obtain ⟨moves, ⟨run, -⟩, unskipped, nobody⟩ := returns_play
      (raceSetup resolver.connector config
        (resolver.shuffle.shuffle config.host.hosts seed).1 limit) completions memory
    refine ⟨_, ?_, connector_eq_after run⟩
    -- whoever was come to has started, and at the end no call is open
    have all := dials_append_dialing_perm run
    rw [(List.append_eq_nil_iff.mp nobody).1, List.append_nil,
      starts_eq_visits_of_skips unskipped] at all
    rw [attempted_log run]
    exact all.map _

/-- A connector that refuses every host is left as it was, and the failures are those of all hosts
in their order. -/
theorem resolve_of_refuses (refuses : resolver.connector.Refuses config cause)
    (completions : List String) (memory : σ) (seed : τ) :
    (resolver.resolve config completions memory seed).outcome =
        .exhausted (.ofCause (resolver.shuffle.shuffle config.host.hosts seed).1 cause) ∧
      (resolver.resolve config completions memory seed).connector = memory := by
  constructor
  · simp only [resolve]
    split
    · exact Search.outcome_tryEach_of_refuses refuses _ [] memory
    · rename_i limit positive _
      obtain ⟨moves, returned, unskipped, -⟩ := returns_play
        (raceSetup resolver.connector config
          (resolver.shuffle.shuffle config.host.hosts seed).1 limit) completions memory
      -- nobody was passed over, so no host has a cause of its own
      rw [← Exhausted.ofCauses_nil, ← unskipped]
      exact outcome_of_refuses refuses positive returned
  · obtain ⟨asked, -, connector⟩ := exists_asked resolver config completions memory seed
    rw [connector, Connector.after_of_refuses refuses]

end Resolver

end ClusterSchema
