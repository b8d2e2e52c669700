import ClusterSchema.Proofs.Document.Records

/-!
# Objects that repeat a name

Where a later entry replaces an earlier one of its name, an object stands for what is left when all
replaced entries are taken out.  These entries have different names, are those with nothing of their
name behind them, and make up the same map as all entries do.

* `mem_latest_iff`               which entries are left
* `nodup_latest`                 their names differ
* `filter_latest`                some entries, told by their names
* `NameMap.foldl_insert_latest`  the map that entries make up
-/

namespace ClusterSchema

namespace Record

variable {β γ : Type} {entries rest : List (String × β)} {entry : String × β}

/-- An entry with its name behind it is replaced. -/
theorem latest_cons_of_mem (again : entry.1 ∈ rest.map Prod.fst) :
    latest (entry :: rest) = latest rest :=
  if_pos again

/-- An entry without its name behind it is left. -/
theorem latest_cons_of_not_mem (last : entry.1 ∉ rest.map Prod.fst) :
    latest (entry :: rest) = entry :: latest rest :=
  if_neg last

/-- An entry is left if and only if none of its name stands behind it. -/
theorem mem_latest_iff :
    entry ∈ latest entries ↔
      ∃ before after, entries = before ++ entry :: after ∧ entry.1 ∉ after.map Prod.fst := by
  induction entries with
  | nil => simp [latest]
  | cons first rest ih =>
    by_cases again : first.1 ∈ rest.map Prod.fst
    · rw [latest_cons_of_mem again, ih]
      constructor
      · rintro ⟨before, after, rfl, last⟩
        exact ⟨first :: before, after, rfl, last⟩
      · rintro ⟨before, after, whole, last⟩
        cases before with
        | nil =>
          -- the first entry is replaced, so it is not the one with nothing of its name behind it
          obtain ⟨rfl, rfl⟩ := List.cons.inj whole
          exact absurd again last
        | cons _ before =>
          obtain ⟨rfl, rfl⟩ := List.cons.inj whole
          exact ⟨before, after, rfl, last⟩
    · rw [latest_cons_of_not_mem again, List.mem_cons, ih]
      constructor
      · rintro (rfl | ⟨before, after, rfl, last⟩)
        · exact ⟨[], rest, rfl, again⟩
        · exact ⟨first :: before, after, rfl, last⟩
      · rintro ⟨before, after, whole, last⟩
        cases before with
        | nil => exact .inl (List.cons.inj whole).1.symm
        | cons _ before =>
          obtain ⟨rfl, rfl⟩ := List.cons.inj whole
          exact .inr ⟨before, after, rfl, last⟩

/-- What is left was there. -/
theorem latest_subset : latest entries ⊆ entries := by
  intro entry member
  obtain ⟨before, after, rfl, -⟩ := mem_latest_iff.mp member
  simp

/-- Every name is still there. -/
theorem mem_keys_latest {name : String} :
    name ∈ (latest entries).map Prod.fst ↔ name ∈ entries.map Prod.fst := by
  induction entries with
  | nil => rfl
  | cons first rest ih =>
    by_cases again : first.1 ∈ rest.map Prod.fst
    · rw [latest_cons_of_mem again, ih, List.map_cons, List.mem_cons]
      exact ⟨.inr, fun named => named.elim (fun same => same ▸ again) id⟩
    · rw [latest_cons_of_not_mem again, List.map_cons, List.map_cons, List.mem_cons,
        List.mem_cons, ih]

/-- No name is left twice. -/
theorem nodup_latest (entries : List (String × β)) : ((latest entries).map Prod.fst).Nodup := by
  induction entries with
  | nil => exact .nil
  | cons first rest ih =>
    by_cases again : first.1 ∈ rest.map Prod.fst
    · rwa [latest_cons_of_mem again]
    · -- a name that does not come again is not among those that are left behind it
      rw [latest_cons_of_not_mem again, List.map_cons, List.nodup_cons, mem_keys_latest]
      exact ⟨again, ih⟩

/-- Where names differ nothing is replaced. -/
theorem latest_of_nodup (distinct : (entries.map Prod.fst).Nodup) : latest entries = entries := by
  induction entries with
  | nil => rfl
  | cons first rest ih =>
    rw [List.map_cons, List.nodup_cons] at distinct
    rw [latest_cons_of_not_mem distinct.1, ih distinct.2]

/-- Entries of other names have no part in what replaces what. -/
theorem filter_latest (some : String → Bool) (entries : List (String × β)) :
    (latest entries).filter (fun entry => some entry.1) =
      latest (entries.filter fun entry => some entry.1) := by
  induction entries with
  | nil => rfl
  | cons first rest ih =>
    cases chosen : some first.1 with
    | false =>
      rw [List.filter_cons_of_neg (by simp [chosen]), ← ih]
      by_cases again : first.1 ∈ rest.map Prod.fst
      · rw [latest_cons_of_mem again]
      · rw [latest_cons_of_not_mem again, List.filter_cons_of_neg (by simp [chosen])]
    | true =>
      -- whether the name comes again is not changed by dropping other names
      have same : first.1 ∈ (rest.filter fun entry => some entry.1).map Prod.fst ↔
          first.1 ∈ rest.map Prod.fst := by
        simp only [List.mem_map, List.mem_filter]
        refine exists_congr fun entry => and_congr_left fun named => and_iff_left ?_
        rw [named, chosen]
      rw [List.filter_cons_of_pos (by simp [chosen])]
      by_cases again : first.1 ∈ rest.map Prod.fst
      · rw [latest_cons_of_mem again, latest_cons_of_mem (same.mpr again), ih]
      · rw [latest_cons_of_not_mem again, latest_cons_of_not_mem (mt same.mp again),
          List.filter_cons_of_pos (by simp [chosen]), ih]

/-- What is made of the values has no part in it either. -/
theorem latest_map (change : β → γ) (entries : List (String × β)) :
    latest (entries.map fun entry => (entry.1, change entry.2)) =
      (latest entries).map fun entry => (entry.1, change entry.2) := by
  induction entries with
  | nil => rfl
  | cons first rest ih =>
    -- the names stay as they are
    have names : (rest.map fun entry => (entry.1, change entry.2)).map Prod.fst =
        rest.map Prod.fst := by
      rw [List.map_map]
      rfl
    rw [List.map_cons, latest, latest, names, ih]
    split <;> rfl

end Record

namespace NameMap

open Record

variable {α : Type} {map other : NameMap α} {entries : List (String × α)} {name key : String}

/-- A map is known from its look-ups. -/
theorem ext_get? (same : ∀ name, map.get? name = other.get? name) : map = other := by
  -- the entries have different names, so a map has each of them once
  refine eq_of_perm ((List.perm_ext_iff_of_nodup map.nodup_keys.of_map
    other.nodup_keys.of_map).mpr ?_)
  rintro ⟨name, value⟩
  rw [← get?_eq_some_iff, ← get?_eq_some_iff, same]

/-- A look-up after an insertion finds the new value under its name, and what was there under every
other. -/
theorem get?_insert (map : NameMap α) (key name : String) (value : α) :
    (map.insert key value).get? name = if name = key then some value else map.get? name := by
  split
  · rename_i same
    rw [same, get?_insert_self]
  · rename_i different
    exact get?_insert_of_ne map different value

/-- A value that is replaced later might as well not have been put in. -/
theorem foldl_insert_of_mem (map : NameMap α) (value : α) (again : key ∈ entries.map Prod.fst) :
    entries.foldl (fun map entry => map.insert entry.1 entry.2) (map.insert key value) =
      entries.foldl (fun map entry => map.insert entry.1 entry.2) map := by
  induction entries generalizing map with
  | nil => cases again
  | cons entry rest ih =>
    rw [List.foldl_cons, List.foldl_cons]
    by_cases same : key = entry.1
    · -- the two values go to one name, and the second takes the place of the first
      subst same
      congr 1
      apply ext_get?
      intro name
      simp only [get?_insert]
      split <;> rfl
    · -- the two values go to different names, so it does not count which is put in first
      have swapped : (map.insert key value).insert entry.1 entry.2 =
          (map.insert entry.1 entry.2).insert key value := by
        apply ext_get?
        intro name
        simp only [get?_insert]
        split <;> split <;> simp_all
      rw [swapped]
      exact ih _ ((List.mem_cons.mp again).resolve_left same)

/-- Putting all entries into a map, one after the other, comes to the same without the replaced
ones. -/
theorem foldl_insert_latest (map : NameMap α) (entries : List (String × α)) :
    (latest entries).foldl (fun map entry => map.insert entry.1 entry.2) map =
      entries.foldl (fun map entry => map.insert entry.1 entry.2) map := by
  induction entries generalizing map with
  | nil => rfl
  | cons entry rest ih =>
    by_cases again : entry.1 ∈ rest.map Prod.fst
    · -- the entry is left out on one side, and on the other its value is put in for nothing
      rw [latest_cons_of_mem again, ih, List.foldl_cons, foldl_insert_of_mem map entry.2 again]
    · rw [latest_cons_of_not_mem again, List.foldl_cons, List.foldl_cons, ih]

end NameMap

end ClusterSchema
