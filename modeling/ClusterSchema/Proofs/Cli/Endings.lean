import ClusterSchema.Cli.Run

/-!
# How runs of the program end

The two ends that a run may have, apart from how it got there: with exit code 0 and nothing to
report, or with exit code 1 and a failure under its category.  The driver of an invocation is looked
up before anything else is done.

* `Ending.code_ofPrinted_eq_zero_iff`  the exit code tells whether a run has failed
* `Invocation.ending_of_unknown`       without a driver nothing is read and nothing is listed
* `Invocation.ending_compile`          compiling reads its source once
* `Invocation.ending_of_noHosts`       without a host nothing is listed
* `Invocation.ending_tables`           listing tables reads nothing
-/

namespace ClusterSchema.Cli

/-- The run has printed `stdout` and has nothing to report. -/
structure Ending.Succeeds (ending : Ending) (stdout : String) : Prop where
  code : ending.code = 0
  printed : ending.stdout = stdout
  silent : ending.report = ""

/-- The run has printed `stdout` when it fails, and it reports the failure under `category`. -/
structure Ending.Fails (ending : Ending) (stdout category : String) (error : RunError) : Prop where
  code : ending.code = 1
  printed : ending.stdout = stdout
  reported : ending.report =
    "[" ++ category ++ "] " ++ Text.joined ": " (error.context?.toList ++ error.chain) ++ "\n"

namespace Ending

/-- What was printed without a failure ends a run well. -/
theorem ofPrinted_success (stdout : String) : (ofPrinted ⟨stdout, none⟩).Succeeds stdout :=
  ⟨rfl, rfl, rfl⟩

/-- A failure ends a run with its report, under its own category, and keeps what was printed. -/
theorem ofPrinted_failure (stdout : String) (error : RunError) :
    (ofPrinted ⟨stdout, some error⟩).Fails stdout error.category error :=
  ⟨rfl, rfl, rfl⟩

/-- The exit code tells whether a run has failed. -/
theorem code_ofPrinted_eq_zero_iff {printed : Printed} :
    (ofPrinted printed).code = 0 ↔ printed.error = none := by
  obtain ⟨stdout, error⟩ := printed
  cases error with
  | none => simp [ofPrinted]
  | some error => simp [ofPrinted]

end Ending

namespace Invocation

variable {m : Type → Type} [Monad m] [LawfulMonad m] {options : OptionValues}
  {parse : String → Except Cause (List CommandEntry)} {read : Source → m (Except InputError String)}
  {list : Driver → ConnectionConfig → ResolvePolicy → m Printed}

/-- Without a driver the run is over before anything is read or listed. -/
theorem ending_of_unknown
    (unknown : DriverRegistry.standard.driver? (options.driver.getD defaultDriver) = none)
    (task : Task) :
    ending ⟨options, task⟩ parse read list =
      pure (.ofPrinted (.failure (.unknownDriver (options.driver.getD defaultDriver)))) := by
  simp only [ending, printed, Plan.ofInvocation, unknown, map_pure]

/-- With a driver, compiling reads its source once, and how it ends depends on what is read. -/
theorem ending_compile {driver : Driver}
    (known : DriverRegistry.standard.driver? (options.driver.getD defaultDriver) = some driver)
    (input : String) :
    ending ⟨options, .compile input⟩ parse read list =
      (fun content => .ofPrinted
        (compileSource parse (options.grammar driver) (.ofArgument input) content)) <$>
        read (.ofArgument input) := by
  simp only [ending, printed, Plan.ofInvocation, known, bind_pure_comp, Functor.map_map]

/-- Without a host the run is over before anything is listed. -/
theorem ending_of_noHosts {driver : Driver}
    (known : DriverRegistry.standard.driver? (options.driver.getD defaultDriver) = some driver)
    (nobody : options.hostList? = none) (database : String) :
    ending ⟨options, .tables database⟩ parse read list = pure (.ofPrinted (.failure .noHosts)) := by
  simp only [ending, printed, Plan.ofInvocation, known, nobody, map_pure]

omit [LawfulMonad m] in
/-- With a driver and hosts the run is that of the listing. -/
theorem ending_tables {driver : Driver} {host : HostList}
    (known : DriverRegistry.standard.driver? (options.driver.getD defaultDriver) = some driver)
    (hosts : options.hostList? = some host) (database : String) :
    ending ⟨options, .tables database⟩ parse read list =
      Ending.ofPrinted <$> list driver (options.config host database) options.policy := by
  simp only [ending, printed, Plan.ofInvocation, known, hosts]

end Invocation

end ClusterSchema.Cli
