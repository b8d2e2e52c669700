import ClusterSchema.Text.Numeral
import ClusterSchema.Text.Quoted

/-!
# Events

What work on a cluster reports about itself while it runs: the attempts of a resolution and the
statements of a session.  An event has a name, a level and fields, each field a text.
-/

namespace ClusterSchema

/-- How much an event matters. -/
inductive Level where
  | debug
  | info
  | warn
  | error
deriving DecidableEq, Repr

namespace Level

/-- The word for a level. -/
def word : Level → String
  | debug => "DEBUG"
  | info => "INFO"
  | warn => "WARN"
  | error => "ERROR"

end Level

/-- Something that happened. -/
inductive Event where
  /-- A resolution starts; everything up to its end happens inside it. -/
  | resolving (database : String) (candidates : Nat)
  /-- The order in which hosts will be tried. -/
  | permutation (order : List String)
  | attempting (host : String)
  | attemptFailed (host error : String)
  /-- An attempt could not even be started. -/
  | startFailed (host error : String)
  | connected (host : String)
  | exhausted (error : String)
  | executing (host sql : String)
  | listing (host : String)
deriving DecidableEq, Repr

namespace Event

/-- Whether an event opens a span instead of being a single moment. -/
def isSpan : Event → Bool
  | resolving _ _ => true
  | _ => false

/-- The name of an event. -/
def name : Event → String
  | resolving _ _ => "resolve"
  | permutation _ => "host permutation"
  | attempting _ => "attempting connection"
  | attemptFailed _ _ => "connection attempt failed"
  | startFailed _ _ => "could not start connection attempt"
  | connected _ => "connected"
  | exhausted _ => "no candidate host accepted a connection"
  | executing _ _ => "executing statement"
  | listing _ => "listing tables"

/-- How much an event matters. -/
def level : Event → Level
  | resolving _ _ | connected _ => .info
  | permutation _ | attempting _ | executing _ _ | listing _ => .debug
  | attemptFailed _ _ | startFailed _ _ => .warn
  | exhausted _ => .error

/-- What an event says, as named texts. -/
def fields : Event → List (String × String)
  | resolving database candidates =>
    [("database", database), ("candidates", String.ofList (Text.Numeral.write candidates))]
  | permutation order => [("order", Text.quotedList order)]
  | attempting host | connected host | listing host => [("host", host)]
  | attemptFailed host error | startFailed host error => [("host", host), ("error", error)]
  | exhausted error => [("error", error)]
  | executing host sql => [("host", host), ("sql", sql)]

end Event

end ClusterSchema
