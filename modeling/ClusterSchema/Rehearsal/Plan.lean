import ClusterSchema.Connection

/-!
# A connector without a network

A connector that answers from a plan: each host has a list of answers, which are used one after the
other, and the last of them for ever.  A handle is the name of its host.
-/

namespace ClusterSchema.Rehearsal

/-- The answer that a plan holds for one attempt. -/
inductive PlannedAnswer where
  | accept
  | crash
  /-- A refusal, in the given words or in the usual ones. -/
  | refuse (message : Option String)
deriving DecidableEq, Repr

namespace PlannedAnswer

/-- The answer that a host gives. -/
def answer (host : String) : PlannedAnswer → Answer String
  | accept => .accept host
  | crash => .crash ("connector panicked on " ++ host)
  | refuse message => .refuse (.root (message.getD ("connection refused by " ++ host)))

end PlannedAnswer

/-- The answers of hosts that are still to be used. -/
abbrev Plan := List (String × List PlannedAnswer)

namespace Plan

/-- The answer that a host gives next, and the plan afterwards.  A host without a plan refuses. -/
def next (host : String) : Plan → PlannedAnswer × Plan
  | [] => (.refuse none, [])
  | (other, answers) :: rest =>
    if other = host then
      match answers with
      | [] => (.refuse none, (other, []) :: rest)
      | [answer] => (answer, (other, [answer]) :: rest)
      | answer :: later => (answer, (other, later) :: rest)
    else
      let (answer, rest) := next host rest
      (answer, (other, answers) :: rest)

/-- The connector that answers from a plan. -/
def connector : Connector Plan String where
  connect config plan :=
    let (planned, later) := next config.host.first plan
    (planned.answer config.host.first, later)

end Plan

end ClusterSchema.Rehearsal
