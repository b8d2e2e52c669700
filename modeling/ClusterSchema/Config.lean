import ClusterSchema.NameMap
import ClusterSchema.Text.Pieces

/-!
# Connection configs

What a connection needs to know.  A host list is never empty, and every way to make one keeps it so;
a config may name several hosts, and narrowing it to one of them changes nothing else.
-/

namespace ClusterSchema

/-- The hosts that may take a connection; there is at least one. -/
structure HostList where
  hosts : List String
  nonempty : hosts ≠ []
deriving DecidableEq

namespace HostList

/-- The host list of a list of hosts, if there are any. -/
def ofList? (hosts : List String) : Option HostList :=
  if nonempty : hosts ≠ [] then some ⟨hosts, nonempty⟩ else none

/-- The host list of one host. -/
def single (host : String) : HostList := ⟨[host], List.cons_ne_nil _ _⟩

instance : Inhabited HostList := ⟨single ""⟩

/-- The first host. -/
def first (list : HostList) : String := list.hosts.head list.nonempty

/-- How many hosts there are. -/
def size (list : HostList) : Nat := list.hosts.length

/-- Whether there is no host. -/
def isEmpty (list : HostList) : Bool := list.hosts.isEmpty

/-- How a host list is shown to people: the hosts, with commas between them. -/
def display (list : HostList) : String := Text.joined "," list.hosts

theorem ofList?_eq_some_iff {hosts : List String} {list : HostList} :
    ofList? hosts = some list ↔ list.hosts = hosts := by
  obtain ⟨found, nonempty⟩ := list
  rw [ofList?]
  split
  · simp [eq_comm]
  · rename_i empty
    simp only [reduceCtorEq, false_iff]
    exact fun same => empty (same ▸ nonempty)

theorem ofList?_eq_none_iff {hosts : List String} : ofList? hosts = none ↔ hosts = [] := by
  rw [ofList?]
  split
  · rename_i nonempty
    simpa using nonempty
  · rename_i empty
    simpa using empty

end HostList

/-- How to connect to a cluster. -/
structure ConnectionConfig where
  host : HostList
  port : Option UInt16 := none
  database : String
  username : Option String := none
  password : Option String := none
  /-- The prefix of every table name. -/
  tablePrefix : String := ""
  /-- Further options under their names; the connector knows what some of them mean. -/
  extra : NameMap String := NameMap.empty
deriving DecidableEq, Inhabited

namespace ConnectionConfig

/-- The same config with one host in place of its hosts. -/
def withHost (config : ConnectionConfig) (host : String) : ConnectionConfig :=
  { config with host := HostList.single host }

end ConnectionConfig

end ClusterSchema
