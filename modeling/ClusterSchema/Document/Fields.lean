import ClusterSchema.Document

/-!
# Records as documents

How a record is written: as an object with an entry for each field, in any order, or as a list with
an element for each, in the order of the fields.  A field at its default may be left out, in a list
only when nothing comes behind it.  Where an object repeats a name, the last entry may be the one
that counts (`latest`).
-/

namespace ClusterSchema

/-- Texts as a list document. -/
def Document.ofTexts (texts : List String) : Document := .list (texts.map .text)

/-- A value that may be absent; null stands for none. -/
def Document.ofOptional {α : Type} (write : α → Document) : Option α → Document
  | none => .null
  | some value => write value

namespace Record

/-- Entries that write a record with the given fields. -/
structure Written (defaults fields entries : List (String × Document)) : Prop where
  /-- No name is used twice. -/
  distinct : (entries.map Prod.fst).Nodup
  /-- There is nothing but fields, each with its value. -/
  sound : ∀ entry ∈ entries, entry ∈ fields
  /-- A field that is left out is at its default. -/
  complete : ∀ field ∈ fields, field ∈ entries ∨ field ∈ defaults

/-- Items that write a record with the given fields: the values of the first of them, where the
others are at their defaults. -/
def Listed (defaults fields : List (String × Document)) (items : List Document) : Prop :=
  ∃ kept omitted, fields = kept ++ omitted ∧ items = kept.map Prod.snd ∧
    ∀ field ∈ omitted, field ∈ defaults

/-- Entries without those that a later entry of the same name replaces. -/
def latest {β : Type} : List (String × β) → List (String × β)
  | [] => []
  | entry :: rest => if entry.1 ∈ rest.map Prod.fst then latest rest else entry :: latest rest

end Record

end ClusterSchema
