import ClusterSchema.NameMap
import ClusterSchema.Text.Blank

/-!
# Drivers and their names

A driver is known by a key, and a registry gives further names to keys.  A name is looked up after
trimming and with small ASCII letters; a name without an entry stands for itself.
-/

namespace ClusterSchema

/-- The databases that can be connected to. -/
inductive Driver where
  | cockroach
  | postgres
deriving DecidableEq, Repr

namespace Driver

/-- A driver's key. -/
def key : Driver → String
  | cockroach => "crdb"
  | postgres => "pgsql"

/-- The driver of a key. -/
def ofKey? (key : String) : Option Driver :=
  if key = cockroach.key then some cockroach
  else if key = postgres.key then some postgres
  else none

end Driver

/-- The names that stand for driver keys. -/
structure DriverRegistry where
  aliases : NameMap String

namespace DriverRegistry

/-- The names that are always known. -/
def builtin : List (String × String) :=
  [("cockroachdb", Driver.cockroach.key), ("postgres", Driver.postgres.key),
   ("postgresql", Driver.postgres.key)]

/-- The registry with nothing but the names that are always known. -/
def standard : DriverRegistry := ⟨NameMap.ofList builtin⟩

/-- The registry with `name` standing for `key`.  The name is filed with small ASCII letters. -/
def addAlias (registry : DriverRegistry) (name key : String) : DriverRegistry :=
  ⟨registry.aliases.insert (Text.asciiLower name) key⟩

/-- How a name is looked up. -/
def normalized (name : String) : String := Text.asciiLower (Text.trim name)

/-- The key that a name stands for. -/
def resolveKey (registry : DriverRegistry) (name : String) : String :=
  (registry.aliases.get? (normalized name)).getD (normalized name)

/-- The driver that a name stands for. -/
def driver? (registry : DriverRegistry) (name : String) : Option Driver :=
  Driver.ofKey? (registry.resolveKey name)

end DriverRegistry

end ClusterSchema
