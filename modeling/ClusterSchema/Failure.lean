import ClusterSchema.Capability
import ClusterSchema.Text.Numeral
import ClusterSchema.Text.Pieces

/-!
# Failures

The three ways in which work on a cluster fails: a command has no SQL, no host takes the connection,
or a statement is refused.  Each has a message and, behind it, what led to it.  `Failure` puts the
three under one roof and adds nothing of its own, so that its chain is the chain of what it holds.
-/

namespace ClusterSchema

/-- An attempt to connect to one host that failed. -/
structure HostAttempt where
  host : String
  source : Cause
deriving DecidableEq, Repr

namespace HostAttempt

/-- The failed attempt in words. -/
def message (attempt : HostAttempt) : String :=
  "host `" ++ attempt.host ++ "`: " ++ attempt.source.message

/-- The attempt as what led to something else. -/
def toCause (attempt : HostAttempt) : Cause := .dueTo attempt.message attempt.source

end HostAttempt

/-- Why there is no connection: every host has failed, in the order of the attempts. -/
structure Exhausted where
  attempts : List HostAttempt
deriving DecidableEq, Repr

namespace Exhausted

/-- The hosts that were tried. -/
def hosts (failure : Exhausted) : List String := failure.attempts.map (·.host)

/-- The failure in words: how many hosts and which, and what the last of them said. -/
def message (failure : Exhausted) : String :=
  "connection exhausted: all " ++ String.ofList (Text.Numeral.write failure.attempts.length)
    ++ " candidate host(s) failed [" ++ Text.joined ", " failure.hosts ++ "]"
    ++ match failure.attempts.getLast? with
      | some last => "; last error from " ++ last.message
      | none => ""

/-- What is behind the failure: the last attempt. -/
def source? (failure : Exhausted) : Option Cause :=
  failure.attempts.getLast?.map HostAttempt.toCause

end Exhausted

/-- A statement that the database refused. -/
structure StatementFailed where
  host : String
  sql : String
  source : Cause
deriving DecidableEq, Repr

namespace StatementFailed

/-- The failure in words. -/
def message (failure : StatementFailed) : String :=
  "execute failed on host `" ++ failure.host ++ "`: " ++ failure.sql

end StatementFailed

/-- Anything that fails in work on a cluster. -/
inductive Failure where
  | compile (error : CompileError)
  | connect (failure : Exhausted)
  | execute (failure : StatementFailed)
deriving DecidableEq, Repr

namespace Failure

/-- The failure in words: those of what it holds. -/
def message : Failure → String
  | compile error => error.message
  | connect failure => failure.message
  | execute failure => failure.message

/-- What is behind the failure: what is behind what it holds. -/
def source? : Failure → Option Cause
  | compile _ => none
  | connect failure => failure.source?
  | execute failure => some failure.source

/-- The failure with everything that led to it. -/
def toCause (failure : Failure) : Cause := .ofSource failure.message failure.source?

/-- Every message, from the outermost to the root. -/
def chain (failure : Failure) : List String := failure.toCause.chain

end Failure

/-- The failure to connect with everything that led to it. -/
def Exhausted.toCause (failure : Exhausted) : Cause := .ofSource failure.message failure.source?

/-- The refused statement with everything that led to it. -/
def StatementFailed.toCause (failure : StatementFailed) : Cause :=
  .dueTo failure.message failure.source

end ClusterSchema
