import ClusterSchema.Proofs.Race.Handles
import ClusterSchema.Proofs.Resolve.Asked

/-!
# What the answers of hosts say about a resolution

A resolution that ends with a connection got it from a host that it asked, and one that ends without
any has asked every host and was taken by none.  In a race this holds from the moment in which the
coordinator returns, whatever attempts are still under way and in whatever order answers come in:
the handles that other hosts give out are closed or on their way to be closed, and nobody uses them.

* `Connector.accepted`       the hosts that take the connection, with their handles
* `Race.mem_accepted`        every success in a race is the answer of a host that was asked
* `Resolver.Ends.answered`   the end of a resolution, in terms of the answers
* `Resolver.ends_resolve`    the end that `resolve` comes to
-/

namespace ClusterSchema

open scoped List

variable {σ τ η : Type}

/-- The host with the handle that it gives out, if its answer is one that takes the connection. -/
def Answer.taken (host : String) : Answer η → List (String × η)
  | accept handle => [(host, handle)]
  | refuse _ | crash _ => []

theorem Answer.mem_taken_iff {host taker : String} {handle : η} {answer : Answer η} :
    (taker, handle) ∈ answer.taken host ↔ taker = host ∧ answer = .accept handle := by
  cases answer <;> simp [taken, eq_comm]

namespace Connector

variable {connector : Connector σ η} {config : ConnectionConfig} {memory : σ}

/-- The hosts that take the connection when a connector is asked for some hosts of a config, one
after the other, each with the handle that it gives out. -/
def accepted (connector : Connector σ η) (config : ConnectionConfig) :
    σ → List String → List (String × η)
  | _, [] => []
  | memory, host :: rest =>
    (connector.connect (config.withHost host) memory).1.taken host ++
      connector.accepted config (connector.connect (config.withHost host) memory).2 rest

/-- Those who take the connection among further hosts have been asked after the first ones. -/
theorem accepted_append (hosts later : List String) :
    connector.accepted config memory (hosts ++ later) =
      connector.accepted config memory hosts ++
        connector.accepted config (connector.after config memory hosts) later := by
  induction hosts generalizing memory with
  | nil => rfl
  | cons host rest ih =>
    rw [List.cons_append, accepted, ih, accepted, List.append_assoc]
    rfl

/-- The last host is asked when the connector has heard of all before it. -/
theorem accepted_concat (hosts : List String) (host : String) :
    connector.accepted config memory (hosts ++ [host]) =
      connector.accepted config memory hosts ++
        (connector.connect (config.withHost host)
          (connector.after config memory hosts)).1.taken host := by
  rw [accepted_append, accepted, accepted, List.append_nil]

/-- A host that takes the connection was asked and has accepted. -/
theorem exists_accept {host : String} {handle : η} {hosts : List String}
    (member : (host, handle) ∈ connector.accepted config memory hosts) :
    host ∈ hosts ∧
      ∃ earlier, (connector.connect (config.withHost host) earlier).1 = .accept handle := by
  induction hosts generalizing memory with
  | nil => cases member
  | cons first rest ih =>
    -- it is the first host that takes the connection, or one of those asked later
    rcases List.mem_append.mp member with taken | later
    · obtain ⟨rfl, said⟩ := Answer.mem_taken_iff.mp taken
      exact ⟨List.mem_cons_self, memory, said⟩
    · obtain ⟨asked, said⟩ := ih later
      exact ⟨List.mem_cons_of_mem _ asked, said⟩

end Connector

/-- The end of a resolution in terms of what the hosts have answered that were asked; `passed` are
those whose attempts could not be started, `others` are the handles that have not won, and `final`
is what the connector remembers. -/
structure Outcome.Answered (outcome : Outcome η) (connector : Connector σ η)
    (config : ConnectionConfig) (order : List String) (memory : σ) (asked passed : List String)
    (others : List η) (final : σ) : Prop where
  /-- No host is come to more often than the order names it. -/
  among : asked ++ passed <+~ order
  /-- The connector was asked for these hosts and for nothing else. -/
  remembered : final = connector.after config memory asked
  fate : match outcome with
    | .connected connection => connection.config = config.withHost connection.host ∧
        (connection.host, connection.handle) ∈ connector.accepted config memory asked ∧
        (connector.accepted config memory asked).map Prod.snd ~ connection.handle :: others
    | .exhausted _ =>
        asked ++ passed ~ order ∧ connector.accepted config memory asked = [] ∧ others = []
    | .crashed _ => ¬ connector.NeverCrashes

namespace Outcome.Answered

variable {connector : Connector σ η} {config : ConnectionConfig}
  {order hosts asked passed : List String} {memory final : σ} {outcome : Outcome η}
  {others : List η}

/-- The order in which hosts are tried does not count. -/
theorem of_perm
    (answered : outcome.Answered connector config order memory asked passed others final)
    (same : order ~ hosts) :
    outcome.Answered connector config hosts memory asked passed others final := by
  obtain ⟨among, remembered, fate⟩ := answered
  refine ⟨among.trans same.subperm, remembered, ?_⟩
  cases outcome with
  | exhausted failure => exact ⟨fate.1.trans same, fate.2⟩
  | _ => exact fate

/-- Handles that have not won are those of hosts that took the connection all the same. -/
theorem exists_mem_accepted
    (answered : outcome.Answered connector config order memory asked passed others final)
    (calm : connector.NeverCrashes) {handle : η} (member : handle ∈ others) :
    ∃ host, (host, handle) ∈ connector.accepted config memory asked := by
  have fate := answered.fate
  cases outcome with
  | connected connection =>
    -- the winner's handle and the others are all that the hosts have given out
    have given := fate.2.2.mem_iff.mpr (List.mem_cons_of_mem _ member)
    obtain ⟨⟨host, _⟩, taken, rfl⟩ := List.mem_map.mp given
    exact ⟨host, taken⟩
  | exhausted failure =>
    rw [fate.2.2] at member
    cases member
  | crashed message => exact absurd calm fate

end Outcome.Answered

/-! ## One host at a time -/

section Search

variable {connector : Connector σ η} {config : ConnectionConfig} {host : String}
  {order asked passed : List String} {memory next final : σ} {outcome : Outcome η}
  {others : List η}

/-- A host that does not take the connection leaves the end to those behind it. -/
theorem Outcome.Answered.behind {cause : Cause}
    (refused : connector.connect (config.withHost host) memory = (.refuse cause, next))
    (later : outcome.Answered connector config order next asked passed others final) :
    outcome.Answered connector config (host :: order) memory (host :: asked) passed others
      final := by
  -- the first host gives out no handle
  have same : connector.accepted config memory (host :: asked) =
      connector.accepted config next asked := by
    rw [Connector.accepted, refused]
    rfl
  obtain ⟨among, remembered, fate⟩ := later
  refine ⟨(List.subperm_cons host).mpr among, ?_, ?_⟩
  · rw [remembered, Connector.after, Connector.after, List.foldl_cons, refused]
  · rw [same]
    cases outcome with
    | connected connection => exact fate
    | exhausted failure => exact ⟨fate.1.cons host, fate.2⟩
    | crashed message => exact fate

/-- A search asks hosts up to the first that takes the connection. -/
theorem Search.answered (connector : Connector σ η) (config : ConnectionConfig)
    (order : List String) (failed : List HostAttempt) (memory : σ) :
    let search := tryEach connector config order failed memory
    search.outcome.Answered connector config order memory (attempted search.log) [] []
      search.connector := by
  induction order generalizing failed memory with
  | nil => exact ⟨List.Subperm.refl _, rfl, List.Perm.refl _, rfl, rfl⟩
  | cons host rest ih =>
    rw [tryEach]
    -- the first host is asked in any case
    have first : [host] <+~ host :: rest := (List.sublist_append_left [host] rest).subperm
    cases said : connector.connect (config.withHost host) memory with
    | mk answer next =>
      have asked : next = connector.after config memory [host] := (congrArg Prod.snd said).symm
      cases answer with
      | accept handle =>
        have only : connector.accepted config memory [host] = [(host, handle)] := by
          rw [Connector.accepted, said]
          rfl
        refine ⟨first, asked, rfl, ?_, ?_⟩
        · exact only ▸ List.mem_singleton_self _
        · exact only ▸ List.Perm.refl _
      -- the search ends here, because the connector broke down
      | crash message =>
        exact ⟨first, asked, fun calm => calm _ _ message (congrArg Prod.fst said)⟩
      | refuse cause => exact (ih (failed ++ [⟨host, cause⟩]) next).behind said

end Search

/-! ## In a race -/

namespace Race

variable {connector : Connector σ η} {config : ConnectionConfig} {order : List String}
  {limit : Nat} {memory : σ} {moves : List Move} {state : State σ η}

/-- An attempt sends the handle that its host gives out, and none otherwise. -/
theorem handles_message (index : Nat) (host : String) (answer : Answer η) :
    handles [message index answer] = (answer.taken host).map Prod.snd := by
  cases answer <;> rfl

/-- The hosts that a race has asked its connector for, in the order of the answers. -/
def asked (order : List String) (moves : List Move) : List String :=
  (dials moves).map fun index => order.getD index ""

/-- The hosts that the coordinator has passed over, because their attempts could not be started. -/
def passed (order : List String) (moves : List Move) : List String :=
  (skips moves).map fun skip => order.getD skip.1 ""

/-- The hosts come to are those asked and those passed over. -/
theorem map_dials_append_skips (order : List String) (moves : List Move) :
    (dials moves ++ (skips moves).map (·.1)).map (fun index => order.getD index "") =
      asked order moves ++ passed order moves := by
  rw [List.map_append, List.map_map]
  rfl

/-- A host is asked in the move that calls the connector for it, and in no other. -/
theorem asked_concat (order : List String) (moves : List Move) (move : Move) :
    asked order (moves ++ [move]) =
      asked order moves ++ move.dialed.map fun index => order.getD index "" := by
  rw [asked, dials_append, List.map_append, dials_singleton]
  rfl

/-- The positions of an order lead to its hosts. -/
theorem map_getD_range (order : List String) :
    ((List.range order.length).map fun index => order.getD index "") = order := by
  apply List.ext_getElem
  · simp
  · intro index _ inside
    simp [inside]

section Run

variable (run : run? (Resolver.raceSetup connector config order limit)
  (initial (Resolver.raceSetup connector config order limit) memory) moves = some state)

include run

/-- The attempts dialed and passed over are, with those that are still dialing, the ones that the
coordinator has come to. -/
theorem dials_append_skips_perm :
    dials moves ++ (skips moves).map (·.1) ++ state.dialing ~ List.range state.reached := by
  have started := (dials_append_dialing_perm run).append_right ((skips moves).map (·.1))
  have visited := started.trans (starts_append_skips_perm moves)
  rw [visits_eq_range run] at visited
  refine List.Perm.trans ?_ visited
  rw [List.append_assoc, List.append_assoc]
  exact List.perm_append_comm.append_left _

/-- No host is come to more often than the order names it. -/
theorem asked_passed_subperm : asked order moves ++ passed order moves <+~ order := by
  have fewer : dials moves ++ (skips moves).map (·.1) <+~ List.range order.length := by
    refine (List.sublist_append_left ..).subperm.trans
      ((dials_append_skips_perm run).subperm.trans ?_)
    exact (List.range_sublist.mpr (reached_le run)).subperm
  obtain ⟨chosen, same, among⟩ := fewer
  -- different positions of the order are different places in it, whoever stands there
  have hosts := among.map fun index => order.getD index ""
  rw [map_getD_range] at hosts
  rw [← map_dials_append_skips]
  exact ⟨_, same.map _, hosts⟩

/-- Without a winner every host has been asked or passed over. -/
theorem asked_passed_perm_of_exhausted (positive : 0 < limit)
    (exhausted : state.phase = .exhausted) : asked order moves ++ passed order moves ~ order := by
  -- nobody dials any more, and all places have been come to
  have nobody := (List.append_eq_nil_iff.mp (of_exhausted run exhausted).1).1
  have all := dials_append_skips_perm run
  rw [nobody, List.append_nil, reached_eq_of_exhausted positive run exhausted] at all
  have hosts := all.map fun index => order.getD index ""
  rw [map_dials_append_skips] at hosts
  exact hosts.trans (List.Perm.of_eq (map_getD_range order))

/-- The handles given out in a race are those of the hosts that took the connection. -/
theorem produced_eq_accepted :
    produced (Resolver.raceSetup connector config order limit)
        (initial (Resolver.raceSetup connector config order limit) memory) moves =
      (connector.accepted config memory (asked order moves)).map Prod.snd := by
  refine run_induction (motive := fun moves _ =>
    produced (Resolver.raceSetup connector config order limit)
        (initial (Resolver.raceSetup connector config order limit) memory) moves =
      (connector.accepted config memory (asked order moves)).map Prod.snd) rfl ?_ run
  intro moves state move next before step ih
  rw [produced_concat before, ih, asked_concat]
  cases step with
  -- the connector is called, after all the calls before, and no other move opens a handle
  | @dial index =>
    rw [Move.dialed, List.map_singleton, Connector.accepted_concat, List.map_append, opened,
      handles_message index (order.getD index ""), connector_eq_after before]
    rfl
  | _ => simp [opened]

/-- A success that is on its way to the coordinator or has come to it is the answer of a host that
was asked. -/
theorem mem_accepted {index : Nat} {handle : η}
    (member : (index, .ok handle) ∈
      messages (Resolver.raceSetup connector config order limit) memory moves state) :
    (order.getD index "", handle) ∈ connector.accepted config memory (asked order moves) := by
  revert member
  refine run_induction (motive := fun moves state => (index, .ok handle) ∈
      messages (Resolver.raceSetup connector config order limit) memory moves state →
    (order.getD index "", handle) ∈ connector.accepted config memory (asked order moves)) ?_ ?_ run
  · simp [messages, initial, received, trace]
  intro moves state move next before step ih member
  -- what was asked before is still asked, and a new message comes from a new call
  rw [asked_concat]
  rcases mem_messages_of_step before step member with old | ⟨position, -, rfl, new⟩
  · rw [Connector.accepted_append]
    exact List.mem_append_left _ (ih old)
  · obtain ⟨rfl, said⟩ := message_eq_ok new.symm
    rw [Move.dialed, List.map_singleton, Connector.accepted_concat]
    rw [connector_eq_after before] at said
    exact List.mem_append_right _ (Answer.mem_taken_iff.mpr ⟨rfl, said⟩)

end Run

/-- From the moment in which its coordinator returns, a race has ended as its hosts have answered.
-/
theorem answered_of_returns (positive : 0 < limit)
    (returned : Returns (Resolver.raceSetup connector config order limit) memory moves state) :
    (outcome (Resolver.raceSetup connector config order limit) config state).Answered connector
      config order memory (asked order moves) (passed order moves)
      (handles state.answered ++ state.dropped) state.connector := by
  obtain ⟨run, ended⟩ := returned
  refine ⟨asked_passed_subperm run, connector_eq_after run, ?_⟩
  -- all handles are accounted for, and none is left in the channel
  have given := produced_perm run
  rw [produced_eq_accepted run, openHandles, channel_eq_nil run ended] at given
  cases phase : state.phase with
  | won index handle =>
    have decided : state.phase.winner? = some (index, handle) := by rw [phase, Phase.winner?]
    -- a winner's success has been received, so it is the answer of a host that was asked
    have won : (index, .ok handle) ∈
        messages (Resolver.raceSetup connector config order limit) memory moves state := by
      refine List.mem_append_right _ (mem_successes.mp ?_)
      rw [successes_received run, decided]
      exact List.mem_singleton_self _
    simp only [outcome, decided]
    refine ⟨rfl, mem_accepted run won, given.trans ?_⟩
    simp [decided]
  | exhausted =>
    -- nobody holds an answer, nothing is in the channel and nothing was closed
    have undecided : state.phase.winner? = none := by rw [phase, Phase.winner?]
    have silent := List.map_eq_nil_iff.mp (List.append_eq_nil_iff.mp (of_exhausted run phase).1).2
    have unclosed := dropped_eq_nil run undecided
    have nothing : (connector.accepted config memory (asked order moves)).map Prod.snd = [] := by
      simpa [undecided, silent, unclosed] using given
    simp only [outcome, undecided]
    refine ⟨asked_passed_perm_of_exhausted run positive phase, List.map_eq_nil_iff.mp nothing, ?_⟩
    rw [silent, unclosed]
    rfl
  | _ => simp [phase, Phase.isOver] at ended

end Race

/-! ## In a resolution -/

namespace Resolver

open Race

/-- How a resolution that tries hosts in an order can end, with the hosts whose attempts could not
be started, with the handles of hosts that have not won and with what the connector remembers: as a
search, or at any moment of a race after its coordinator has returned. -/
inductive Ends (resolver : Resolver σ τ η) (config : ConnectionConfig) (order : List String)
    (memory : σ) : List String → Outcome η → List η → σ → Prop where
  | search {found : Search σ η} (oneByOne : resolver.policy = .sequential)
      (searched : found = Search.tryEach resolver.connector config order [] memory) :
      Ends resolver config order memory [] found.outcome [] found.connector
  | race {limit : Nat} {positive : 0 < limit} {moves : List Move} {state : State σ η}
      (racing : resolver.policy = .race limit positive)
      (returned : Returns (raceSetup resolver.connector config order limit) memory moves state) :
      Ends resolver config order memory (passed order moves)
        (outcome (raceSetup resolver.connector config order limit) config state)
        (handles state.answered ++ state.dropped) state.connector

variable {resolver : Resolver σ τ η} {config : ConnectionConfig} {order skipped : List String}
  {memory final : σ} {outcome : Outcome η} {others : List η}

/-- However a resolution ends, the hosts that were asked have answered so. -/
theorem Ends.answered (ends : Ends resolver config order memory skipped outcome others final) :
    ∃ asked,
      outcome.Answered resolver.connector config order memory asked skipped others final := by
  cases ends with
  | search oneByOne searched =>
    subst searched
    exact ⟨_, Search.answered ..⟩
  | @race limit positive moves state racing returned =>
    exact ⟨_, answered_of_returns positive returned⟩

/-- Resolving a config ends in one of these ways, with the hosts in the order of the shuffle and
none of them passed over. -/
theorem ends_resolve (resolver : Resolver σ τ η) (config : ConnectionConfig)
    (completions : List String) (memory : σ) (seed : τ) :
    let resolution := resolver.resolve config completions memory seed
    Ends resolver config (resolver.shuffle.shuffle config.host.hosts seed).1 memory []
      resolution.outcome resolution.dropped resolution.connector := by
  simp only [resolve]
  split
  · rename_i oneByOne
    exact .search oneByOne rfl
  · rename_i limit positive racing
    obtain ⟨moves, returned, unskipped, nobody⟩ := returns_play
      (raceSetup resolver.connector config
        (resolver.shuffle.shuffle config.host.hosts seed).1 limit) completions memory
    have ends := Ends.race racing returned
    -- at the end nobody holds an answer
    have silent := List.map_eq_nil_iff.mp (List.append_eq_nil_iff.mp nobody).2
    rwa [silent, handles_nil, List.nil_append, passed, unskipped, List.map_nil] at ends

end Resolver

end ClusterSchema
