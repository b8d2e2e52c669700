import ClusterSchema.Client.Connector
import ClusterSchema.Proofs.Client.Options
import ClusterSchema.Proofs.Resolve.Asked

/-!
# Whether a client dials

The options of a config decide whether any of its hosts is dialed.  With an option that is refused
nothing is dialed, whichever host, order or policy, and a resolution ends with the option's error
for every host.  With options that are fine every attempt dials, and it dials with the mode that the
config asks for.

* `refuses_of_refused`      an option that is refused keeps every host from being dialed
* `exists_dialed`           otherwise there is one dialing for every host asked for
* `options_decide_dialing`  for all policies, and for all runs of a race
-/

namespace ClusterSchema.Client

open scoped List
open Race

variable {σ τ η : Type} {defaultPort : UInt16} {dial : Dialer σ η} {config : ConnectionConfig}
  {error : OptionError}

/-- Which host a config is narrowed to does not count for its options. -/
theorem refused_withHost {host : String} :
    Refused (config.withHost host) error ↔ Refused config error :=
  ⟨fun refused => refused.of_extra_eq rfl, fun refused => refused.of_extra_eq rfl⟩

/-- An option that is refused keeps every host of the config from being dialed. -/
theorem refuses_of_refused (defaultPort : UInt16) (dial : Dialer σ η)
    (refused : Refused config error) :
    (connector defaultPort dial).Refuses config (.root error.message) := by
  intro host memory
  have failed : Settings.ofConfig defaultPort (config.withHost host) = .error error :=
    Settings.ofConfig_eq_error_iff.mpr (refused_withHost.mpr refused)
  simp only [connector, failed]

/-- What a host of a config is dialed with. -/
structure Dialed (defaultPort : UInt16) (config : ConnectionConfig) (host : String)
    (settings : Settings) : Prop where
  derived : Settings.ofConfig defaultPort (config.withHost host) = .ok settings
  disable_iff : settings.sslMode = .disable ↔ AsksMode config "disable"
  prefer_iff : settings.sslMode = .prefer ↔
    config.extra.get? sslModeOption = none ∨ AsksMode config "allow" ∨ AsksMode config "prefer"

/-- With options that are fine there are settings for every host. -/
theorem exists_settings (defaultPort : UInt16) (fine : ∀ error, ¬ Refused config error)
    (host : String) : ∃ settings, Dialed defaultPort config host settings := by
  cases derived : Settings.ofConfig defaultPort (config.withHost host) with
  | error error =>
    exact absurd (refused_withHost.mp (Settings.ofConfig_eq_error_iff.mp derived)) (fine error)
  | ok settings =>
    obtain ⟨disable_iff, prefer_iff⟩ := Settings.sslMode_of_ofConfig derived
    exact ⟨settings, derived, disable_iff, prefer_iff⟩

/-- With options that are fine there is one dialing for every host asked for, in order. -/
theorem exists_dialed (defaultPort : UInt16) (dial : Dialer σ η)
    (fine : ∀ error, ¬ Refused config error) (asked : List String) (memory : σ × List Settings) :
    ∃ dialed, ((connector defaultPort dial.recorded).after config memory asked).2 =
        memory.2 ++ dialed ∧ List.Forall₂ (Dialed defaultPort config) asked dialed := by
  induction asked generalizing memory with
  | nil => exact ⟨[], (List.append_nil _).symm, .nil⟩
  | cons host rest ih =>
    obtain ⟨settings, isIts⟩ := exists_settings defaultPort fine host
    obtain ⟨dialed, later, each⟩ := ih ((dial settings memory.1).2, memory.2 ++ [settings])
    refine ⟨settings :: dialed, ?_, .cons isIts each⟩
    -- one dialing for the first host, and those behind it dial after it
    have first : ((connector defaultPort dial.recorded).connect (config.withHost host) memory).2 =
        ((dial settings memory.1).2, memory.2 ++ [settings]) := by
      simp only [connector, isIts.derived]
      rfl
    rw [Connector.after, List.foldl_cons, first]
    exact later.trans (List.append_assoc ..)

/-! ## The result -/

/-- Options decide whether hosts are dialed.  One that is refused ends every resolution and every
race without a dialing, with its error for each host in the order of the shuffle; in a race, a host
whose attempt could not be started keeps the reason for that.  Otherwise each attempt dials once, as
soon as its call is answered. -/
theorem options_decide_dialing (defaultPort : UInt16) (dial : Dialer σ η) (shuffle : HostShuffle τ)
    (config : ConnectionConfig) (first : σ) (seed : τ) :
    let connector := connector defaultPort dial.recorded
    let order := (shuffle.shuffle config.host.hosts seed).1
    let resolution := fun policy completions =>
      Resolver.resolve ⟨connector, shuffle, policy⟩ config completions (first, []) seed
    let setup := Resolver.raceSetup connector config order
    order ~ config.host.hosts ∧
    ((∃ error, Refused config error) ↔ BadMode config ∨ BadTimeout config) ∧
    (∀ error, Refused config error →
      (∀ policy completions,
        (resolution policy completions).outcome =
            .exhausted ⟨order.map fun host => ⟨host, .root error.message⟩⟩ ∧
          (resolution policy completions).connector = (first, [])) ∧
      ∀ limit > 0, ∀ moves state,
        run? (setup limit) (initial (setup limit) (first, [])) moves = some state →
        state.connector = (first, []) ∧
          (state.phase.isOver = true →
            outcome (setup limit) config state = .exhausted ⟨order.mapIdx fun index host =>
              ⟨host, ((skips moves).lookup index).getD (.root error.message)⟩⟩ ∧
            (skips moves = [] → outcome (setup limit) config state =
              .exhausted ⟨order.map fun host => ⟨host, .root error.message⟩⟩))) ∧
    ((∀ error, ¬ Refused config error) →
      (∀ policy completions, ∃ asked, asked ~ attempted (resolution policy completions).log ∧
        List.Forall₂ (Dialed defaultPort config) asked
          (resolution policy completions).connector.2) ∧
      ∀ limit moves state,
        run? (setup limit) (initial (setup limit) (first, [])) moves = some state →
        dials moves ++ state.dialing ~ starts moves ∧
          List.Forall₂ (Dialed defaultPort config) ((dials moves).map (setup limit).host)
            state.connector.2) ∧
    ∀ limit moves state,
      run? (setup limit) (initial (setup limit) (first, [])) moves = some state →
      moves.length ≤ 4 * order.length + 2 ∧
        ((∀ move, move.skipped = [] → step? (setup limit) state move = none) →
          state.phase.isOver = true ∧ state.dialing = []) := by
  intro connector order resolution setup
  refine ⟨shuffle.permutes .., exists_refused_iff, ?_, ?_, ?_⟩
  -- a refused option: the connector refuses every host without dialing
  · intro error refused
    have refuses := refuses_of_refused defaultPort dial.recorded refused
    refine ⟨fun policy completions => ?_, fun limit positive moves state run => ⟨?_, ?_⟩⟩
    · exact Resolver.resolve_of_refuses refuses completions (first, []) seed
    · rw [connector_eq_after run]
      exact Connector.after_of_refuses refuses _
    · intro ended
      have result := outcome_of_refuses refuses positive ⟨run, ended⟩
      refine ⟨result, fun unskipped => ?_⟩
      rw [unskipped, Exhausted.ofCauses_nil] at result
      exact result
  -- options that are fine: each call of the connector is one dialing
  · intro fine
    constructor
    · intro policy completions
      obtain ⟨asked, each, known⟩ := Resolver.exists_asked
        ⟨connector, shuffle, policy⟩ config completions (first, []) seed
      obtain ⟨dialed, settings, related⟩ :=
        exists_dialed defaultPort dial fine asked (first, [])
      refine ⟨asked, each, ?_⟩
      rw [known, settings]
      exact related
    · intro limit moves state run
      refine ⟨dials_append_dialing_perm run, ?_⟩
      obtain ⟨dialed, settings, related⟩ :=
        exists_dialed defaultPort dial fine ((dials moves).map (setup limit).host) (first, [])
      rw [connector_eq_after run, settings]
      exact related
  · intro limit moves state run
    -- whatever the options are, the race comes to an end
    have bounded := length_add_remaining_le run
    refine ⟨Nat.le_of_add_right_le bounded, fun stuck => ?_⟩
    obtain ⟨returned, nobody⟩ := over_of_stuck run stuck
    exact ⟨returned, (List.append_eq_nil_iff.mp nobody).1⟩

/-- Two hosts, with a mode that insists on encryption and a time limit that is no number. -/
def bothBad : ConnectionConfig where
  host := ⟨["a", "b:26258"], by simp⟩
  database := "app"
  extra := NameMap.ofList [("sslmode", " Require "), ("connect_timeout", "soon")]

/-- The same hosts, with a mode that does not insist on encryption. -/
def allowing : ConnectionConfig :=
  { bothBad with extra := NameMap.ofList [("sslmode", "\tAllow")] }

/-- Nobody takes the connection. -/
def unanswered : Dialer Unit Unit := fun _ memory => (.error (.root "timed out"), memory)

/-- Of the two bad options it is the mode that is reported. -/
theorem refused_bothBad : Refused bothBad (.needsEncryption "require") := by
  refine .needsEncryption ⟨" Require ", rfl, spellsMode_iff.mpr ?_⟩ (by simp [encryptedModes])
  have trimmed : Text.trim " Require " = "Require" := by decide
  rw [trimmed]
  simp [Text.asciiLower, ← String.toList_inj]

/-- The blank in front and the capital letter do not count. -/
theorem eq_allow_of_asksMode {mode : String} (asked : AsksMode allowing mode) : mode = "allow" := by
  obtain ⟨text, given, spelled⟩ := asked
  have only : allowing.extra.get? sslModeOption = some "\tAllow" := rfl
  rw [only] at given
  cases given
  have trimmed : Text.trim "\tAllow" = "Allow" := by decide
  rw [spellsMode_iff.mp spelled, trimmed]
  simp [Text.asciiLower, ← String.toList_inj]

/-- None of its options is refused. -/
theorem not_refused_allowing (error : OptionError) : ¬ Refused allowing error := by
  intro refused
  rcases exists_refused_iff.mp ⟨error, refused⟩ with ⟨mode, asked, notPlain⟩ | ⟨text, given, -⟩
  · rw [eq_allow_of_asksMode asked] at notPlain
    simp [plainModes] at notPlain
  · cases given

/-- A mode that insists on encryption is reported for both hosts, and a mode that does not is dialed
with. -/
theorem options_decide_dialing_twoHosts :
    let client := connector postgresPort unanswered.recorded
    let setup := Resolver.raceSetup client bothBad ["b:26258", "a"] 2
    (Resolver.resolve ⟨client, .reversed, .sequential⟩ bothBad [] ((), []) ()).outcome =
        .exhausted ⟨["b:26258", "a"].map fun host =>
          ⟨host, .root (OptionError.needsEncryption "require").message⟩⟩ ∧
      (∃ state, run? setup (initial setup ((), [])) [.start 0, .start 1, .dial 1] = some state ∧
        state.connector = ((), [])) ∧
      ∃ asked, asked ~ attempted
          (Resolver.resolve ⟨client, .reversed, .sequential⟩ allowing [] ((), []) ()).log ∧
        List.Forall₂ (Dialed postgresPort allowing) asked
          (Resolver.resolve ⟨client, .reversed, .sequential⟩ allowing [] ((), [])
            ()).connector.2 := by
  intro client setup
  obtain ⟨-, -, refusing, -⟩ :=
    options_decide_dialing postgresPort unanswered .reversed bothBad () ()
  obtain ⟨-, -, -, dialing, -⟩ :=
    options_decide_dialing postgresPort unanswered .reversed allowing () ()
  obtain ⟨resolved, raced⟩ := refusing _ refused_bothBad
  obtain ⟨state, run⟩ : ∃ state,
      run? setup (initial setup ((), [])) [.start 0, .start 1, .dial 1] = some state := ⟨_, rfl⟩
  exact ⟨(resolved .sequential []).1, ⟨state, run, (raced 2 (by decide) _ state run).1⟩,
    (dialing not_refused_allowing).1 .sequential []⟩

end ClusterSchema.Client
