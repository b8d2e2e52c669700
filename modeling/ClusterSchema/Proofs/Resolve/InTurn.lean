import ClusterSchema.Proofs.Resolve.Asked
import Mathlib.Data.Set.List

/-!
# One host after the other

A search asks its connector for the hosts in order and stops at the first that takes the connection.
The connector may answer by all that it was asked before, so the answers are those that it gives to
the whole order, host by host (`Connector.answers`), and the first success among them decides how
the search ends and which calls it makes.

* `getElem?_answers`      the answer at a position, after the calls before it
* `tryEach_of_accept`     a search with a success
* `tryEach_of_refuse`     a search without one
* `hosts_tried_in_turn`   the calls and the end of a resolution, host by host
-/

namespace ClusterSchema

open scoped List

variable {σ τ η : Type}

namespace Connector

variable {connector : Connector σ η} {config : ConnectionConfig} {memory : σ} {hosts : List String}
  {k : Nat}

/-- The answers of a connector that is asked for some hosts of a config, one after the other. -/
def answers (connector : Connector σ η) (config : ConnectionConfig) :
    σ → List String → List (Answer η)
  | _, [] => []
  | memory, host :: rest =>
    let (answer, next) := connector.connect (config.withHost host) memory
    answer :: connector.answers config next rest

/-- The answer at a position is the one for its host, after all the calls before it. -/
theorem getElem?_answers :
    (connector.answers config memory hosts)[k]? =
      hosts[k]?.map fun host =>
        (connector.connect (config.withHost host)
          (connector.after config memory (hosts.take k))).1 := by
  induction hosts generalizing memory k with
  | nil => rfl
  | cons host rest ih =>
    cases k with
    | zero => rfl
    | succ k => exact ih

/-- There is one answer for each host. -/
theorem length_answers (connector : Connector σ η) (config : ConnectionConfig) (memory : σ)
    (hosts : List String) : (connector.answers config memory hosts).length = hosts.length := by
  induction hosts generalizing memory with
  | nil => rfl
  | cons host rest ih => exact congrArg (· + 1) (ih _)

/-- A connector that does not break down and does not take the connection refuses it. -/
theorem exists_refusal (calm : connector.NeverCrashes) (inside : k < hosts.length)
    (notTaken : ∀ handle, (connector.answers config memory hosts)[k]? ≠ some (.accept handle)) :
    ∃ cause, (connector.answers config memory hosts)[k]? = some (.refuse cause) := by
  rw [getElem?_answers, List.getElem?_eq_getElem inside, Option.map_some] at notTaken ⊢
  -- of the three answers two are ruled out
  cases said : (connector.connect (config.withHost hosts[k])
    (connector.after config memory (hosts.take k))).1 with
  | accept handle => exact absurd (congrArg some said) (notTaken handle)
  | refuse cause => exact ⟨cause, rfl⟩
  | crash message => exact absurd said (calm _ _ message)

/-- A connector that takes the connection for none of some hosts has a cause for each of them. -/
theorem exists_causes (calm : connector.NeverCrashes)
    (notTaken : ∀ (k : Nat) (handle : η),
      (connector.answers config memory hosts)[k]? ≠ some (Answer.accept handle)) :
    ∃ causes : List Cause, connector.answers config memory hosts = causes.map .refuse := by
  -- each answer is given at some position, where it is a refusal
  have refusals : ∀ answer ∈ connector.answers config memory hosts,
      answer ∈ Set.range (Answer.refuse (η := η)) := by
    intro answer member
    obtain ⟨k, given⟩ := List.mem_iff_getElem?.mp member
    have inside : k < hosts.length := by
      rw [← length_answers connector config memory]
      exact (List.getElem?_eq_some_iff.mp given).1
    obtain ⟨cause, refused⟩ := exists_refusal calm inside (notTaken k)
    exact ⟨cause, Option.some.inj (refused.symm.trans given)⟩
  have range : connector.answers config memory hosts ∈ Set.range (List.map .refuse) := by
    rw [Set.range_list_map]
    exact refusals
  obtain ⟨causes, same⟩ := range
  exact ⟨causes, same.symm⟩

/-- Recording calls changes no answer. -/
theorem answers_recorded {calls : List ConnectionConfig} :
    connector.recorded.answers config (memory, calls) hosts =
      connector.answers config memory hosts := by
  induction hosts generalizing memory calls with
  | nil => rfl
  | cons host rest ih => exact congrArg (_ :: ·) ih

/-- The recorded calls are one for each host, with the config narrowed to it. -/
theorem after_recorded {calls : List ConnectionConfig} :
    connector.recorded.after config (memory, calls) hosts =
      (connector.after config memory hosts, calls ++ hosts.map config.withHost) := by
  induction hosts generalizing memory calls with
  | nil => simp [after]
  | cons host rest ih =>
    have step : connector.recorded.after config (memory, calls) (host :: rest) =
        connector.recorded.after config
          ((connector.connect (config.withHost host) memory).2, calls ++ [config.withHost host])
          rest := rfl
    rw [step, ih, List.append_assoc]
    rfl

end Connector

namespace Search

variable {connector : Connector σ η} {config : ConnectionConfig} {memory : σ} {hosts : List String}

/-- The first success ends a search: no host behind it is asked for. -/
theorem tryEach_of_accept {k : Nat} {handle : η} (failed : List HostAttempt)
    (success : (connector.answers config memory hosts)[k]? = some (.accept handle))
    (refused : ∀ j < k, ∃ cause,
      (connector.answers config memory hosts)[j]? = some (.refuse cause)) :
    ∃ host, hosts[k]? = some host ∧
      (tryEach connector config hosts failed memory).outcome =
        .connected ⟨handle, config.withHost host⟩ ∧
      (tryEach connector config hosts failed memory).connector =
        connector.after config memory (hosts.take (k + 1)) := by
  induction hosts generalizing memory k failed with
  | nil => cases success
  | cons host rest ih =>
    cases said : connector.connect (config.withHost host) memory with
    | mk answer next =>
    have asked : connector.after config memory [host] = next := congrArg Prod.snd said
    simp only [Connector.answers, said] at success refused
    -- the induction is on the hosts, and the position moves with them
    cases k with
    -- the first host takes the connection, and the search ends with the one call
    | zero =>
      obtain rfl : answer = .accept handle := Option.some.inj success
      refine ⟨host, rfl, ?_, ?_⟩
      · simp only [tryEach, said]
      · simp only [tryEach, said]
        exact asked.symm
    | succ k =>
      -- the first host is one of those that refuse, and the search goes on behind it
      obtain ⟨cause, first⟩ := refused 0 (by omega)
      obtain rfl : answer = .refuse cause := Option.some.inj first
      obtain ⟨taker, place, outcome, calls⟩ := ih (failed ++ [⟨host, cause⟩])
        success (fun j below => refused (j + 1) (by omega))
      refine ⟨taker, place, ?_, ?_⟩
      · simpa only [tryEach, said] using outcome
      · simp only [tryEach, said]
        rw [calls, ← asked]
        rfl

/-- A search in which every host refuses asks for all of them and keeps what each has said. -/
theorem tryEach_of_refuse {causes : List Cause} (failed : List HostAttempt)
    (refused : connector.answers config memory hosts = causes.map .refuse) :
    (tryEach connector config hosts failed memory).outcome =
        .exhausted ⟨failed ++ List.zipWith HostAttempt.mk hosts causes⟩ ∧
      (tryEach connector config hosts failed memory).connector =
        connector.after config memory hosts := by
  induction hosts generalizing memory causes failed with
  | nil => exact ⟨by simp [tryEach], rfl⟩
  | cons host rest ih =>
    cases said : connector.connect (config.withHost host) memory with
    | mk answer next =>
    have asked : connector.after config memory [host] = next := congrArg Prod.snd said
    cases causes with
    | nil => simp [Connector.answers] at refused
    | cons cause others =>
      simp only [Connector.answers, said, List.map_cons, List.cons.injEq] at refused
      obtain ⟨rfl, later⟩ := refused
      -- the search goes on with this failure noted
      obtain ⟨outcome, calls⟩ := ih (failed ++ [⟨host, cause⟩]) later
      constructor
      · simp only [tryEach, said, List.zipWith_cons_cons]
        rw [outcome, List.append_assoc, List.singleton_append]
      · simp only [tryEach, said]
        rw [calls, ← asked]
        rfl

end Search

namespace Resolver

/-- Hosts are tried in turn.  The connector is called with the config narrowed to the first host of
the order, to the second, and so on up to the first that takes the connection, and the connection
keeps the handle and the narrowed config.  If none does, all hosts have been tried, and the failures
are theirs, in order, each with its own cause. -/
theorem hosts_tried_in_turn {connector : Connector σ η} (calm : connector.NeverCrashes)
    (shuffle : HostShuffle τ) (config : ConnectionConfig) (completions : List String) (first : σ)
    (seed : τ) :
    let order := (shuffle.shuffle config.host.hosts seed).1
    let answers := connector.answers config first order
    let resolution :=
      Resolver.resolve ⟨connector.recorded, shuffle, .sequential⟩ config completions (first, [])
        seed
    let calls := resolution.connector.2
    let narrowed := fun host => { config with host := HostList.single host }
    order ~ config.host.hosts ∧
    (∀ (k : Nat) (handle : η), answers[k]? = some (Answer.accept handle) →
      (∀ j < k, ∀ other : η, answers[j]? ≠ some (Answer.accept other)) →
      calls = (order.take (k + 1)).map narrowed ∧
      ∃ host connection, order[k]? = some host ∧
        resolution.outcome = .connected connection ∧ connection.handle = handle ∧
        connection.host = host ∧ connection.database = config.database ∧
        connection.tablePrefix = config.tablePrefix ∧ connection.config = narrowed host) ∧
    ((∀ (k : Nat) (handle : η), answers[k]? ≠ some (Answer.accept handle)) →
      calls = order.map narrowed ∧
      ∃ failure, resolution.outcome = .exhausted failure ∧
        failure.attempts.length = config.host.size ∧
        ∀ (k : Nat) (host : String), order[k]? = some host →
          ∃ cause, answers[k]? = some (Answer.refuse cause) ∧
            failure.attempts[k]? = some ⟨host, cause⟩) := by
  intro order answers resolution calls narrowed
  have permuted : order ~ config.host.hosts := shuffle.permutes ..
  have same : connector.recorded.answers config (first, []) order = answers :=
    Connector.answers_recorded
  refine ⟨permuted, ?_, ?_⟩
  · intro k handle success earlier
    have inside : k < order.length := by
      rw [← Connector.length_answers connector config first]
      exact (List.getElem?_eq_some_iff.mp success).1
    -- whoever comes before the first success has given some answer, and so has refused
    have refused : ∀ j < k, ∃ cause, answers[j]? = some (Answer.refuse cause) := by
      intro j before
      exact Connector.exists_refusal calm (before.trans inside) (earlier j before)
    rw [← same] at success refused
    obtain ⟨host, place, outcome, asked⟩ := Search.tryEach_of_accept [] success refused
    rw [Connector.after_recorded] at asked
    exact ⟨congrArg Prod.snd asked, host, _, place, outcome, rfl, rfl, rfl, rfl, rfl⟩
  · intro notTaken
    obtain ⟨causes, all⟩ := Connector.exists_causes calm notTaken
    -- there is a cause for each host
    have long : causes.length = order.length := by
      rw [← List.length_map (f := Answer.refuse (η := η)), ← all, Connector.length_answers]
    obtain ⟨outcome, asked⟩ := Search.tryEach_of_refuse [] (same.trans all)
    rw [Connector.after_recorded] at asked
    refine ⟨congrArg Prod.snd asked, _, outcome, ?_, ?_⟩
    · simp [long, permuted.length_eq, HostList.size]
    · intro k host place
      have inside : k < causes.length := by
        rw [long]
        exact (List.getElem?_eq_some_iff.mp place).1
      refine ⟨causes[k], ?_, ?_⟩
      · rw [show answers = _ from all]
        simp [inside]
      · simp [List.getElem?_zipWith, place, inside]

/-- Takes a host that it was asked for before, and remembers all that it was asked for. -/
def wary : Connector (List String) Nat where
  connect config asked :=
    let host := config.host.first
    (if host ∈ asked then .accept asked.length else .refuse (.root "too soon"), asked ++ [host])

/-- It answers every call, one way or the other. -/
theorem wary_neverCrashes : wary.NeverCrashes := by
  intro config asked message
  simp only [wary]
  split <;> simp

/-- A host that is named twice takes the connection the second time, and the host behind it is not
tried; two hosts that are named once refuse. -/
theorem hosts_tried_in_turn_wary :
    let twice : ConnectionConfig :=
      { (default : ConnectionConfig) with host := ⟨["d", "a", "b", "a", "c"], by simp⟩ }
    let once : ConnectionConfig :=
      { (default : ConnectionConfig) with host := ⟨["a", "b"], by simp⟩ }
    let found := Resolver.resolve ⟨wary.recorded, .reversed, .sequential⟩ twice [] ([], []) ()
    let lost := Resolver.resolve ⟨wary.recorded, .keep, .sequential⟩ once [] ([], []) ()
    wary.NeverCrashes ∧
    (found.connector.2 = ["c", "a", "b", "a"].map twice.withHost ∧
      ∃ connection, found.outcome = .connected connection ∧ connection.handle = 3) ∧
    (lost.connector.2 = ["a", "b"].map once.withHost ∧
      ∃ failure, lost.outcome = .exhausted failure ∧ failure.attempts.length = 2) := by
  intro twice once found lost
  have ofTwice := (hosts_tried_in_turn wary_neverCrashes .reversed twice [] [] ()).2.1 3 3
  have ofOnce := (hosts_tried_in_turn wary_neverCrashes .keep once [] [] ()).2.2
  let refusal : Answer Nat := .refuse (.root "too soon")
  -- asked in the reversed order, `a` comes a second time before `d`
  have said : wary.answers twice [] ["c", "a", "b", "a", "d"] =
      [refusal, refusal, refusal, .accept 3, refusal] := rfl
  have first : ∀ j < 3, ∀ other,
      (wary.answers twice [] ["c", "a", "b", "a", "d"])[j]? ≠ some (.accept other) := by
    intro j below other
    rw [said]
    match j, below with
    | 0, _ | 1, _ | 2, _ => simp [refusal]
  have never : ∀ k handle : Nat,
      (wary.answers once [] ["a", "b"])[k]? ≠ some (.accept handle) := by
    intro k handle taken
    have given : Answer.accept handle ∈ [refusal, refusal] := List.mem_of_getElem? taken
    simp [refusal] at given
  obtain ⟨asked, host, connection, -, outcome, handle, -⟩ := ofTwice rfl first
  obtain ⟨askedAll, failure, exhausted, size, -⟩ := ofOnce never
  exact ⟨wary_neverCrashes, ⟨asked, connection, outcome, handle⟩, askedAll, failure, exhausted,
    size⟩

end Resolver

end ClusterSchema
