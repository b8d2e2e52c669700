import ClusterSchema.Proofs.Race.Winners
import ClusterSchema.Resolve.Race.Conduct

/-!
# A race played through is a run

The conductor of a race chooses among the moves that the state allows, whoever is said to answer
first, and it has a move to choose until the coordinator has returned and nobody is under way.  So
what holds of every run holds of a race that is played through, and such a race has ended.

* `exists_step_of_next?`  a chosen move is allowed, and starts the attempt it comes to
* `ended_of_next?`        where there is nothing to choose the race has ended
* `returns_play`          playing a race through is one of its runs, up to its end
-/

namespace ClusterSchema.Race

variable {σ η : Type} {setup : Setup σ η} {connector : σ} {moves : List Move} {state : State σ η}
  {completions later : List String}

/-! ## Who answers next -/

/-- Whoever is chosen to answer next has an answer to send. -/
theorem mem_of_nextSender? {answered : List (Message η)} {index : Nat}
    (chosen : nextSender? setup answered completions = some (index, later)) :
    index ∈ answered.map (·.1) := by
  induction completions with
  | nil =>
    simp only [nextSender?, Option.map_eq_some_iff, Prod.mk.injEq] at chosen
    obtain ⟨sent, first, rfl, -⟩ := chosen
    exact List.mem_map_of_mem (List.mem_of_head? first)
  -- a host without an answer is passed over, and the next one named is asked
  | cons host others ih =>
    rw [nextSender?] at chosen
    split at chosen
    · rename_i sent found
      cases chosen
      exact List.mem_map_of_mem (List.mem_of_find?_eq_some found)
    · exact ih chosen

/-- Somebody answers next as long as there is an answer. -/
theorem eq_nil_of_nextSender? {answered : List (Message η)}
    (nobody : nextSender? setup answered completions = none) : answered = [] := by
  induction completions with
  | nil => simpa [nextSender?] using nobody
  | cons host others ih =>
    rw [nextSender?] at nobody
    split at nobody
    · cases nobody
    · exact ih nobody

/-- An attempt with an answer can send it. -/
theorem exists_send (setup : Setup σ η) {index : Nat} (held : index ∈ state.answered.map (·.1)) :
    ∃ next, Step setup state (.send index) next := by
  obtain ⟨sent, found⟩ : ∃ sent, state.answered.find? (·.1 == index) = some sent := by
    rw [← Option.isSome_iff_exists, List.find?_isSome]
    simpa using held
  -- the step that is not refused is one of the two sends
  refine ⟨(step? setup state (.send index)).get ?_, step?_eq_some_iff.mp (Option.some_get _).symm⟩
  simp only [step?, send?, found]
  split <;> rfl

/-! ## The next move -/

/-- A chosen move is allowed, and no attempt is passed over. -/
theorem exists_step_of_next? (run : run? setup (initial setup connector) moves = some state)
    {move : Move} (chosen : next? setup completions state = some (move, later)) :
    move.skipped = [] ∧ ∃ next, Step setup state move next := by
  rw [next?] at chosen
  split at chosen
  · rename_i index others isDialing
    cases chosen
    exact ⟨rfl, _, .dial (by simp [isDialing])⟩
  -- nobody dials any more, so the coordinator is next, phase by phase
  rename_i nobodyDials
  split at chosen
  · rename_i draining queue
    cases chosen
    exact ⟨rfl, _, .drain draining queue⟩
  · rename_i draining empty
    cases chosen
    exact ⟨rfl, _, .stopDraining draining empty⟩
  · rename_i leaving
    cases chosen
    exact ⟨rfl, _, .leave leaving⟩
  · rename_i collecting
    split at chosen
    · rename_i room
      cases chosen
      exact ⟨rfl, _, .start collecting room⟩
    rename_i noRoom
    have full : hasRoom setup state = false := by simpa using noRoom
    split at chosen
    · rename_i received rest queue
      cases chosen
      obtain ⟨index, _ | _⟩ := received
      · exact ⟨rfl, _, .receiveFailure collecting full queue⟩
      · exact ⟨rfl, _, .receiveSuccess collecting full queue⟩
    · rename_i queue sender
      cases chosen
      exact ⟨rfl, exists_send setup (mem_of_nextSender? sender)⟩
    · -- nobody dials, nobody has an answer and none is in the channel, so the counter is at zero
      rename_i empty nobody
      cases chosen
      have idle := inFlight_eq_of_collecting run collecting
      rw [running, nobodyDials, eq_nil_of_nextSender? nobody, empty] at idle
      exact ⟨rfl, _, .giveUp collecting full idle⟩
  -- the coordinator has returned, and those with answers send them all the same
  all_goals
    simp only [Option.map_eq_some_iff] at chosen
    obtain ⟨⟨index, rest⟩, sender, same⟩ := chosen
    cases same
    exact ⟨rfl, exists_send setup (mem_of_nextSender? sender)⟩

/-- Where there is nothing to choose the coordinator has returned and everybody has finished. -/
theorem ended_of_next? (nothing : next? setup completions state = none) :
    state.phase.isOver = true ∧ running state = [] := by
  rw [next?] at nothing
  split at nothing
  · cases nothing
  rename_i nobodyDials
  split at nothing
  -- only a coordinator that has returned may have nothing to do
  case h_5 | h_6 =>
    rename_i returned
    rw [Option.map_eq_none_iff] at nothing
    rw [running, nobodyDials, eq_nil_of_nextSender? nothing, returned]
    exact ⟨rfl, rfl⟩
  case h_4 =>
    split at nothing
    · cases nothing
    · split at nothing <;> cases nothing
  all_goals cases nothing

/-! ## The whole race -/

/-- A race is conducted to its end by as many moves as are left to it. -/
theorem exists_run_conduct {count : Nat}
    (run : run? setup (initial setup connector) moves = some state) (unskipped : skips moves = [])
    (enough : remaining setup state ≤ count) (completions : List String) :
    ∃ longer, Returns setup connector longer (conduct setup count completions state) ∧
      skips longer = [] ∧ running (conduct setup count completions state) = [] := by
  -- the induction is on the moves that the conductor may still make
  induction count generalizing moves state completions with
  | zero =>
    -- a move would take from what is left, and nothing is
    cases chosen : next? setup completions state with
    | none =>
      obtain ⟨returned, nobody⟩ := ended_of_next? chosen
      exact ⟨moves, ⟨run, returned⟩, unskipped, nobody⟩
    | some choice =>
      obtain ⟨-, next, step⟩ := exists_step_of_next? run chosen
      have fewer := remaining_lt step
      omega
  | succ count ih =>
    rw [conduct]
    cases chosen : next? setup completions state with
    | none =>
      obtain ⟨returned, nobody⟩ := ended_of_next? chosen
      exact ⟨moves, ⟨run, returned⟩, unskipped, nobody⟩
    | some choice =>
      obtain ⟨started, next, step⟩ := exists_step_of_next? run chosen
      have fewer := remaining_lt step
      simp only [step?_eq_some_iff.mpr step]
      refine ih (run?_concat_of_step run step) ?_ (by omega) choice.2
      rw [skips_append, unskipped, skips_singleton, started, List.append_nil]

/-- Playing a race through is one of its runs in which every attempt is started, and at its end
everybody has finished. -/
theorem returns_play (setup : Setup σ η) (completions : List String) (connector : σ) :
    ∃ moves, Returns setup connector moves (play setup completions connector) ∧
      skips moves = [] ∧ running (play setup completions connector) = [] := by
  have start : run? setup (initial setup connector) [] = some (initial setup connector) := rfl
  have whole : remaining setup (initial setup connector) ≤ 4 * setup.order.length + 2 := by
    simp [remaining, initial, Phase.remaining]
  exact exists_run_conduct start rfl whole completions

end ClusterSchema.Race
