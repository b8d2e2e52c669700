import ClusterSchema.Document.Record
import ClusterSchema.Failure
import ClusterSchema.Files

/-!
# Reports of failures

What the program prints when it fails: a category in brackets, what it was doing, and everything
that led to the failure, from the outside to the root.
-/

namespace ClusterSchema.Cli

/-- Why a run of the program fails. -/
inductive RunError where
  | unknownDriver (name : String)
  /-- No host is left after blank ones are dropped. -/
  | noHosts
  | unreadableFile (path : String) (error : InputError)
  | unreadableStdin (error : InputError)
  /-- The input is no list of commands. -/
  | notCommands (error : Cause)
  | failed (failure : Failure)
  /-- Connecting broke down. -/
  | crashed (message : String)
deriving DecidableEq, Repr

namespace RunError

/-- The word for the kind of a failure. -/
def category : RunError → String
  | unknownDriver _ | noHosts => "config"
  | unreadableFile _ _ | unreadableStdin _ => "io"
  | notCommands _ => "input"
  | failed (.compile _) => "compile"
  | failed (.connect _) | crashed _ => "connect"
  | failed (.execute _) => "execute"

/-- What the program was doing, where there is more to say than the failure itself. -/
def context? : RunError → Option String
  | unknownDriver _ => none
  | noHosts => some "while reading --host"
  | unreadableFile path _ => some ("while reading command file `" ++ path ++ "`")
  | unreadableStdin _ => some "while reading commands from stdin"
  | notCommands _ => some "while parsing schema commands"
  | failed (.compile _) => some "while compiling schema commands"
  | failed (.connect _) | crashed _ => some "while resolving a cluster connection"
  | failed (.execute _) => some "while querying the catalog"

/-- What led to the failure, from the outside to the root. -/
def chain : RunError → List String
  | unknownDriver name =>
    ["unknown driver `" ++ name ++ "`; expected one of cockroachdb, crdb, postgres, pgsql"]
  | noHosts => [emptyHostListMessage]
  | unreadableFile _ error | unreadableStdin error => [error.message]
  | notCommands error => error.chain
  | failed failure => failure.chain
  | crashed message => [message]

/-- The report of a failure. -/
def report (error : RunError) : String :=
  "[" ++ error.category ++ "] " ++ Text.joined ": " (error.context?.toList ++ error.chain)

end RunError

end ClusterSchema.Cli
