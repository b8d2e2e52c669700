import ClusterSchema.Cause

/-!
# Capabilities

What a dialect can do beyond the common ground.  A capability table lists features with their
support; a feature that is not listed is native.  `require` turns an unsupported feature into the
error that compiling reports.
-/

namespace ClusterSchema

/-- The features whose support differs between dialects. -/
inductive Feature where
  | fulltext
  | indexStoring
  | alterTableDropUnique
  | totalRelationSize
deriving DecidableEq, Repr

namespace Feature

/-- The word by which messages and test cases name a feature. -/
def id : Feature → String
  | fulltext => "fulltext"
  | indexStoring => "index_storing"
  | alterTableDropUnique => "alter_table_drop_unique"
  | totalRelationSize => "total_relation_size"

/-- Every feature. -/
def all : List Feature := [fulltext, indexStoring, alterTableDropUnique, totalRelationSize]

/-- The feature that a word names. -/
def ofId? (word : String) : Option Feature := all.find? (·.id == word)

end Feature

/-- How a dialect stands to a feature. -/
inductive Support where
  /-- The common form of the feature works. -/
  | native
  /-- The feature does not exist, for the reason given. -/
  | unsupported (reason : String)
  /-- The common form is refused; the dialect has another one. -/
  | replaced (form : String)
deriving DecidableEq, Repr

/-- Why a schema command has no SQL in a dialect. -/
inductive CompileError where
  | unsupportedFeature (feature : Feature) (dialect reason : String)
deriving DecidableEq, Repr

namespace CompileError

/-- The feature that is missing. -/
def feature : CompileError → Feature
  | unsupportedFeature feature _ _ => feature

/-- The error in words. -/
def message : CompileError → String
  | unsupportedFeature feature dialect reason =>
    "unsupported feature `" ++ feature.id ++ "` for dialect " ++ dialect ++ ": " ++ reason

end CompileError

/-- The features of one dialect. -/
structure CapabilityTable where
  /-- The dialect's name. -/
  dialect : String
  /-- Features with their support; the first entry for a feature counts. -/
  entries : List (Feature × Support)
deriving Repr

namespace CapabilityTable

/-- The support for a feature: what the table says, and native where it says nothing. -/
def support (table : CapabilityTable) (feature : Feature) : Support :=
  match table.entries.find? (·.1 == feature) with
  | some entry => entry.2
  | none => .native

/-- Whether a feature can be used, in its own form or in another. -/
def supports (table : CapabilityTable) (feature : Feature) : Bool :=
  match table.support feature with
  | .unsupported _ => false
  | .native | .replaced _ => true

/-- Succeeds when a feature can be used and says why not otherwise. -/
def require (table : CapabilityTable) (feature : Feature) : Except CompileError Unit :=
  match table.support feature with
  | .unsupported reason => .error (.unsupportedFeature feature table.dialect reason)
  | .native | .replaced _ => .ok ()

end CapabilityTable

end ClusterSchema
