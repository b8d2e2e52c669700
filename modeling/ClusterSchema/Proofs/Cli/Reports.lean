import ClusterSchema.Cli.Report

/-!
# Reports and what they repeat

A failure is told by its message and by what is behind it, link by link.  Putting a failure among
the others changes nothing about this, and the report of the program says what it was doing and then
every message of the chain.

* `Cause.getElem?_chain`   a chain has the message of every link, in order
* `Exhausted.chain_concat` the chain of a failure to connect, with the last attempt in it
* `Tells`                  a failure in the words of what it holds, also in a report
* `wrapping_keeps_chain`   for failures of all kinds
-/

namespace ClusterSchema

namespace Cause

/-- The failure that is `links` links behind a failure, if the chain is that long. -/
def behind? : (links : Nat) → Cause → Option Cause
  | 0, cause => some cause
  | links + 1, cause => cause.source?.bind (behind? links)

/-- A chain has one message for every link and skips none. -/
theorem getElem?_chain (cause : Cause) (links : Nat) :
    cause.chain[links]? = (cause.behind? links).map message := by
  -- along the cause: the chain loses its first message when its first link is followed
  induction cause generalizing links with
  | root text => cases links <;> rfl
  | dueTo text source ih =>
    cases links with
    | zero => rfl
    | succ links => exact ih links

end Cause

namespace Exhausted

/-- Without an attempt there is nothing behind the failure. -/
theorem chain_nil :
    (toCause ⟨[]⟩).chain = ["connection exhausted: all 0 candidate host(s) failed []"] := by
  decide

/-- The message counts the hosts, names them in order, and ends with what the last one said. -/
theorem message_concat (earlier : List HostAttempt) (last : HostAttempt) :
    message ⟨earlier ++ [last]⟩ =
      "connection exhausted: all " ++ toString (earlier.length + 1) ++ " candidate host(s) failed ["
        ++ ", ".intercalate ((earlier ++ [last]).map (·.host)) ++ "]; last error from "
        ++ last.message := by
  -- the text that the program puts together in one piece is cut where the list of hosts ends
  have closing : "]; last error from " = "]" ++ "; last error from " := rfl
  have number : String.ofList (Text.Numeral.write (earlier ++ [last]).length) =
      toString (earlier.length + 1) := by
    rw [List.length_append]
    rfl
  unfold message
  rw [Text.joined_eq_intercalate, List.getLast?_concat, closing, number]
  simp only [hosts, String.append_assoc]

/-- The failure to connect leads to the last attempt and on to what led to that. -/
theorem chain_concat (earlier : List HostAttempt) (last : HostAttempt) :
    (toCause ⟨earlier ++ [last]⟩).chain =
      message ⟨earlier ++ [last]⟩ :: last.message :: last.source.chain := by
  rw [toCause, source?, List.getLast?_concat]
  rfl

end Exhausted

namespace Cli

/-- A failure among the others has the message of what it holds and the same behind it, and the
report has the category and the context of its kind and every message of the chain, once each and in
order. -/
structure Tells (failure : Failure) (held : Cause) (category context : String) : Prop where
  message : failure.message = held.message
  source : failure.source? = held.source?
  chain : failure.chain = held.chain
  report : (RunError.failed failure).report =
    "[" ++ category ++ "] " ++ ": ".intercalate (context :: held.chain)

/-- A report is the category, the context and the chain, joined by colons. -/
theorem report_failed (failure : Failure) {context : String}
    (known : (RunError.failed failure).context? = some context) :
    (RunError.failed failure).report =
      "[" ++ (RunError.failed failure).category ++ "] "
        ++ ": ".intercalate (context :: failure.chain) := by
  rw [RunError.report, known, Text.joined_eq_intercalate]
  rfl

/-- There is nothing behind a failure to compile. -/
theorem tells_compile (error : CompileError) :
    Tells (.compile error) (.root error.message) "compile" "while compiling schema commands" where
  message := rfl
  source := rfl
  chain := rfl
  report := report_failed (.compile error) rfl

/-- A failure to connect is told with the last attempt behind it. -/
theorem tells_connect (failure : Exhausted) :
    Tells (.connect failure) failure.toCause "connect" "while resolving a cluster connection" where
  message := (Cause.message_ofSource ..).symm
  source := (Cause.source?_ofSource ..).symm
  chain := rfl
  report := report_failed (.connect failure) rfl

/-- A failed statement is told with what the database said behind it. -/
theorem tells_execute (failure : StatementFailed) :
    Tells (.execute failure) failure.toCause "execute" "while querying the catalog" where
  message := rfl
  source := rfl
  chain := rfl
  report := report_failed (.execute failure) rfl

/-- A failure of any kind keeps its message and its chain among the others, and its report repeats
them.  The chain of a failure to connect goes over the last attempt, which names its host, to the
root of it, and a chain is as long as what is behind a failure, with a message for every link. -/
theorem wrapping_keeps_chain :
    (∀ error : CompileError,
      Tells (.compile error) (.root error.message) "compile" "while compiling schema commands") ∧
    (∀ failure : Exhausted, Tells (.connect failure) failure.toCause "connect"
      "while resolving a cluster connection") ∧
    (∀ failure : StatementFailed, Tells (.execute failure) failure.toCause "execute"
      "while querying the catalog") ∧
    (Exhausted.toCause ⟨[]⟩).chain = ["connection exhausted: all 0 candidate host(s) failed []"] ∧
    (∀ earlier last, (Exhausted.toCause ⟨earlier ++ [last]⟩).chain =
      ("connection exhausted: all " ++ toString (earlier.length + 1) ++
        " candidate host(s) failed [" ++ ", ".intercalate ((earlier ++ [last]).map (·.host)) ++
        "]; last error from " ++ last.message) :: last.message :: last.source.chain) ∧
    (∀ attempt : HostAttempt,
      attempt.message = "host `" ++ attempt.host ++ "`: " ++ attempt.source.message) ∧
    (∀ failure : StatementFailed, failure.toCause.chain =
      ("execute failed on host `" ++ failure.host ++ "`: " ++ failure.sql) ::
        failure.source.chain) ∧
    ∀ (cause : Cause) (links : Nat),
      cause.chain[links]? = (cause.behind? links).map Cause.message := by
  refine ⟨tells_compile, tells_connect, tells_execute, Exhausted.chain_nil, ?_, fun _ => rfl,
    fun _ => rfl, Cause.getElem?_chain⟩
  intro earlier last
  rw [Exhausted.chain_concat, Exhausted.message_concat]

end Cli

end ClusterSchema
