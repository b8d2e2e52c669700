import ClusterSchema.Text.Numeral
import ClusterSchema.Text.Pieces

/-!
# Host entries

A host in a config may carry its own port after a colon.  Addresses with colons of their own stand
in square brackets when a port follows, and a path to a socket is taken as it is.
-/

namespace ClusterSchema.Client

/-- A host entry taken apart. -/
structure HostEntry where
  host : String
  port : Option UInt16
deriving DecidableEq, Repr

namespace HostEntry

/-- The port that a numeral writes. -/
def port? (text : List Char) : Option UInt16 :=
  (Text.Numeral.read? Text.Numeral.limit16 text).map UInt16.ofNat

/-- The port that stands after the closing bracket of an address. -/
def portAfterBracket? : List Char → Option UInt16
  | ':' :: port => port? port
  | _ => none

/-- A host entry without a port. -/
def whole (entry : String) : HostEntry := ⟨entry, none⟩

/-- An entry that starts with a bracket, given the entry and what follows the bracket. -/
def ofBracketed (entry : String) (rest : List Char) : HostEntry :=
  match Text.cutAtFirst ']' rest with
  | some (address, suffix) => ⟨String.ofList address, portAfterBracket? suffix⟩
  | none => whole entry

/-- An entry that starts with neither a slash nor a bracket.  One colon with a port behind it cuts
the port off; anything else leaves the entry as it is. -/
def ofPlain (entry : String) : HostEntry :=
  match Text.cutAtLast ':' entry.toList with
  | some (host, port) =>
    if host.contains ':' then whole entry
    else
      match port? port with
      | some port => ⟨String.ofList host, some port⟩
      | none => whole entry
  | none => whole entry

/-- A host entry taken apart into host and port. -/
def ofText (entry : String) : HostEntry :=
  match entry.toList with
  | '/' :: _ => whole entry
  | '[' :: rest => ofBracketed entry rest
  | _ => ofPlain entry

end HostEntry

end ClusterSchema.Client
