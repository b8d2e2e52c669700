/-!
# Maps from names

A finite map from texts, kept as a list of entries in strictly increasing byte order of the names,
so that equal maps are equal lists and a listing needs no sorting.  The order of texts by code
point is the order of their UTF-8 bytes.

* `get?_insert_self`, `get?_insert_of_ne`  what inserting does to a look-up
* `ofList_eq_iff`                          which lists of entries make up a map
-/

namespace ClusterSchema

open scoped List

universe u

variable {α : Type u}

/-- Entries with the value of `key` set; an earlier value is replaced. -/
def setEntry (key : String) (value : α) : List (String × α) → List (String × α)
  | [] => [(key, value)]
  | (other, old) :: rest =>
    if key < other then (key, value) :: (other, old) :: rest
    else if key = other then (key, value) :: rest
    else (other, old) :: setEntry key value rest

theorem mem_keys_setEntry {key other : String} {value : α} {entries : List (String × α)} :
    other ∈ (setEntry key value entries).map Prod.fst →
      other = key ∨ other ∈ entries.map Prod.fst := by
  induction entries with
  | nil => simp [setEntry]
  | cons entry rest ih =>
    intro h
    unfold setEntry at h
    split at h
    · simpa using h
    · split at h
      · simp only [List.map_cons, List.mem_cons] at h ⊢
        rcases h with h | h
        · exact .inl h
        · exact .inr (.inr h)
      · simp only [List.map_cons, List.mem_cons] at h ⊢
        rcases h with h | h
        · exact .inr (.inl h)
        · rcases ih h with h | h
          · exact .inl h
          · exact .inr (.inr h)

theorem setEntry_sorted {key : String} {value : α} {entries : List (String × α)}
    (sorted : (entries.map Prod.fst).Pairwise (· < ·)) :
    ((setEntry key value entries).map Prod.fst).Pairwise (· < ·) := by
  induction entries with
  | nil => simp [setEntry]
  | cons entry rest ih =>
    obtain ⟨other, old⟩ := entry
    simp only [List.map_cons, List.pairwise_cons] at sorted
    obtain ⟨least, sorted⟩ := sorted
    unfold setEntry
    split
    · rename_i before
      simp only [List.map_cons, List.pairwise_cons, List.mem_cons]
      refine ⟨?_, least, sorted⟩
      rintro name (rfl | h)
      · exact before
      · exact String.lt_trans before (least name h)
    · rename_i notBefore
      split
      · rename_i same
        subst same
        exact List.pairwise_cons.mpr ⟨least, sorted⟩
      · rename_i different
        simp only [List.map_cons, List.pairwise_cons]
        refine ⟨fun name h => ?_, ih sorted⟩
        rcases mem_keys_setEntry h with rfl | h
        · exact Decidable.byContradiction fun hn =>
            different (String.le_antisymm (String.not_lt.mp hn) (String.not_lt.mp notBefore))
        · exact least name h

/-- A new name adds its entry to the others. -/
theorem setEntry_perm {key : String} (value : α) {entries : List (String × α)}
    (fresh : key ∉ entries.map Prod.fst) :
    setEntry key value entries ~ (key, value) :: entries := by
  induction entries with
  | nil => exact .refl _
  | cons entry rest ih =>
    obtain ⟨other, old⟩ := entry
    rw [List.map_cons, List.mem_cons, not_or] at fresh
    obtain ⟨different, later⟩ := fresh
    rw [setEntry, if_neg different]
    split
    · exact .refl _
    · exact ((ih later).cons _).trans (.swap ..)

theorem find?_setEntry_self (key : String) (value : α) (entries : List (String × α)) :
    (setEntry key value entries).find? (·.1 == key) = some (key, value) := by
  induction entries with
  | nil => simp [setEntry]
  | cons entry rest ih =>
    obtain ⟨other, old⟩ := entry
    unfold setEntry
    split
    · simp
    · split
      · simp
      · rename_i different
        simp [Ne.symm different, ih]

theorem find?_setEntry_of_ne {key name : String} (different : name ≠ key) (value : α)
    (entries : List (String × α)) :
    (setEntry key value entries).find? (·.1 == name) = entries.find? (·.1 == name) := by
  induction entries with
  | nil => simp [setEntry, Ne.symm different]
  | cons entry rest ih =>
    obtain ⟨other, old⟩ := entry
    unfold setEntry
    split
    · simp [Ne.symm different]
    · split
      · rename_i same
        subst same
        simp [Ne.symm different]
      · simp [List.find?_cons, ih]

/-- A finite map from names, listed in byte order of the names. -/
structure NameMap (α : Type u) where
  /-- The entries in order. -/
  entries : List (String × α)
  /-- The names increase strictly. -/
  sorted : (entries.map Prod.fst).Pairwise (· < ·)

namespace NameMap

/-- The map without entries. -/
def empty : NameMap α := ⟨[], .nil⟩

instance : Inhabited (NameMap α) := ⟨empty⟩

instance [DecidableEq α] : DecidableEq (NameMap α) := fun a b =>
  decidable_of_iff (a.entries = b.entries) (by cases a; cases b; simp)

/-- The value of a name. -/
def get? (map : NameMap α) (name : String) : Option α :=
  (map.entries.find? (·.1 == name)).map (·.2)

/-- The map with the value of `name` set; an earlier value is replaced. -/
def insert (map : NameMap α) (name : String) (value : α) : NameMap α :=
  ⟨setEntry name value map.entries, setEntry_sorted map.sorted⟩

/-- The map of a list of entries, of which a later one replaces an earlier one. -/
def ofList (entries : List (String × α)) : NameMap α :=
  entries.foldl (fun map entry => map.insert entry.1 entry.2) empty

theorem ext {a b : NameMap α} (same : a.entries = b.entries) : a = b := by
  cases a
  cases b
  cases same
  rfl

/-- Entries with names of their own join those of a map. -/
theorem entries_foldl_insert_perm (first : NameMap α) {entries : List (String × α)}
    (distinct : ((first.entries ++ entries).map Prod.fst).Nodup) :
    (entries.foldl (fun map entry => map.insert entry.1 entry.2) first).entries
      ~ first.entries ++ entries := by
  induction entries generalizing first with
  | nil => simp
  | cons entry rest ih =>
    have fresh : entry.1 ∉ first.entries.map Prod.fst := by
      rw [List.map_append, List.nodup_append] at distinct
      exact fun member => distinct.2.2 _ member _ List.mem_cons_self rfl
    have step : (first.insert entry.1 entry.2).entries ~ entry :: first.entries :=
      setEntry_perm entry.2 fresh
    -- moved to its place in front, the entry is one of the map's
    have moved : (first.insert entry.1 entry.2).entries ++ rest ~ first.entries ++ entry :: rest :=
      (step.append_right rest).trans List.perm_middle.symm
    rw [List.foldl_cons]
    exact (ih _ ((moved.map Prod.fst).nodup_iff.mpr distinct)).trans moved

theorem nodup_keys (map : NameMap α) : (map.entries.map Prod.fst).Nodup :=
  map.sorted.imp String.ne_of_lt

/-- Maps with the same entries are equal, as the order of the entries is given by their names. -/
theorem eq_of_perm {a b : NameMap α} (same : a.entries ~ b.entries) : a = b := by
  refine ext
    (same.eq_of_pairwise ?_ (List.pairwise_map.mp a.sorted) (List.pairwise_map.mp b.sorted))
  exact fun x y _ _ before after => absurd before (String.lt_asymm after)

/-- A list of entries with different names makes up the map that has these entries. -/
theorem ofList_eq_iff {map : NameMap α} {entries : List (String × α)}
    (distinct : (entries.map Prod.fst).Nodup) : ofList entries = map ↔ entries ~ map.entries := by
  have same : (ofList entries).entries ~ entries := entries_foldl_insert_perm empty distinct
  constructor
  · intro made
    exact made ▸ same.symm
  · intro perm
    exact eq_of_perm (same.trans perm)

theorem get?_insert_self (map : NameMap α) (name : String) (value : α) :
    (map.insert name value).get? name = some value := by
  simp [get?, insert, find?_setEntry_self]

theorem get?_insert_of_ne (map : NameMap α) {key name : String} (different : name ≠ key)
    (value : α) : (map.insert key value).get? name = map.get? name := by
  simp [get?, insert, find?_setEntry_of_ne different]

end NameMap

end ClusterSchema
