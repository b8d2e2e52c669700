import ClusterSchema.Driver
import ClusterSchema.Proofs.Text.Trimming

/-!
# What names stand for

A name is looked up without the blanks around it and with small letters, and an alias is filed with
small letters but with the blanks around it.  So an alias is found under every spelling of it
(`SameName`) as long as there are no blanks around it when it is added, and under no name at all
otherwise.

* `asciiLower_eq_normalized_iff`  which names find an alias
* `resolveKey_addAlias`           what adding one alias does to all names
* `resolveKey_withAliases`        what a name stands for after any number of aliases
* `addAlias_resolves_iff`         when an added alias resolves
-/

namespace ClusterSchema.DriverRegistry

open Text

variable {registry : DriverRegistry} {added key name : String}

/-! ## Spellings of a name -/

/-- Two texts spell one name: they differ in nothing but the blanks around them and the case of
ASCII letters. -/
def SameName (added name : String) : Prop :=
  ∃ core other, Trimmed added.toList core ∧ Trimmed name.toList other ∧
    core.map Char.toLower = other.map Char.toLower

/-- A name is looked up as its rest between the blanks, in small letters. -/
theorem toList_normalized (name : String) :
    (normalized name).toList = (trimChars name.toList).map Char.toLower := by
  rw [normalized, asciiLower, trim, String.toList_map, String.toList_ofList]

/-- Names are looked up alike if and only if they spell one name. -/
theorem normalized_eq_iff : normalized added = normalized name ↔ SameName added name := by
  rw [← String.toList_inj, toList_normalized, toList_normalized]
  constructor
  · intro same
    exact ⟨_, _, trimChars_eq_iff.mp rfl, trimChars_eq_iff.mp rfl, same⟩
  · rintro ⟨core, other, trimmed, trimmedOther, same⟩
    rw [trimChars_eq_iff.mpr trimmed, trimChars_eq_iff.mpr trimmedOther, same]

/-- Every text spells the name that it is. -/
theorem SameName.refl (name : String) : SameName name name := normalized_eq_iff.mp rfl

instance (added name : String) : Decidable (SameName added name) :=
  decidable_of_iff
    ((trimChars added.toList).map Char.toLower = (trimChars name.toList).map Char.toLower) <| by
      rw [← normalized_eq_iff, ← String.toList_inj, toList_normalized, toList_normalized]

/-- All spellings of a name stand for the same key. -/
theorem resolveKey_of_sameName (registry : DriverRegistry) (spelled : SameName added name) :
    registry.resolveKey name = registry.resolveKey added := by
  rw [resolveKey, resolveKey, normalized_eq_iff.mpr spelled]

/-- An alias is found under a name. -/
def FoundUnder (added name : String) : Prop := Tight added.toList ∧ SameName added name

instance (added name : String) : Decidable (FoundUnder added name) :=
  inferInstanceAs (Decidable (_ ∧ _))

/-- An alias is filed where a name is looked up if and only if both spell one name and there are no
blanks around the alias. -/
theorem asciiLower_eq_normalized_iff :
    asciiLower added = normalized name ↔ FoundUnder added name := by
  have filed : (asciiLower added).toList = added.toList.map Char.toLower := String.toList_map
  constructor
  · intro same
    rw [← String.toList_inj, filed, toList_normalized] at same
    -- what is looked up has no blanks around it, so neither has the alias
    have clean : Tight ((trimChars name.toList).map Char.toLower) := by
      rw [tight_map_toLower_iff]
      exact (trimChars_eq_iff.mp rfl).tight
    have tight : Tight added.toList := by rwa [← same, tight_map_toLower_iff] at clean
    refine ⟨tight, added.toList, trimChars name.toList, ?_, trimChars_eq_iff.mp rfl, same⟩
    exact trimChars_eq_iff.mp (trimChars_eq_self_iff.mpr tight)
  · rintro ⟨tight, spelled⟩
    have same := normalized_eq_iff.mpr spelled
    rw [← same, ← String.toList_inj, filed, toList_normalized, trimChars_eq_self_iff.mpr tight]

/-! ## Adding aliases -/

/-- An added alias takes the names that find it, and leaves all others as they were. -/
theorem resolveKey_addAlias (registry : DriverRegistry) (added key name : String) :
    (registry.addAlias added key).resolveKey name =
      if FoundUnder added name then key else registry.resolveKey name := by
  unfold resolveKey addAlias
  split
  · rename_i finds
    rw [asciiLower_eq_normalized_iff.mpr finds, NameMap.get?_insert_self, Option.getD_some]
  · rename_i lost
    have apart : normalized name ≠ asciiLower added :=
      fun same => lost (asciiLower_eq_normalized_iff.mp same.symm)
    rw [NameMap.get?_insert_of_ne _ apart]

/-- A registry with aliases added one after the other. -/
def addAll (registry : DriverRegistry) (history : List (String × String)) : DriverRegistry :=
  history.foldl (fun registry entry => registry.addAlias entry.1 entry.2) registry

/-- The key of the alias added last among those that a name finds. -/
def latest? (history : List (String × String)) (name : String) : Option String :=
  (history.reverse.find? fun entry => FoundUnder entry.1 name).map Prod.snd

/-- An alias that is added last is the last one found, if it is found at all. -/
theorem latest?_append_singleton (history : List (String × String)) (added key name : String) :
    latest? (history ++ [(added, key)]) name =
      if FoundUnder added name then some key else latest? history name := by
  rw [latest?, List.reverse_append, List.reverse_singleton, List.singleton_append, List.find?_cons]
  by_cases finds : FoundUnder added name
  · simp [finds]
  · simp [finds, latest?]

/-- After a history of aliases a name stands for the key of the last one that it finds, and for what
it stood for before if it finds none. -/
theorem resolveKey_addAll (registry : DriverRegistry) (history : List (String × String))
    (name : String) :
    (registry.addAll history).resolveKey name =
      (latest? history name).getD (registry.resolveKey name) := by
  -- from the end, since the alias added last is the one that decides
  induction history using List.reverseRecOn with
  | nil => rfl
  | append_singleton earlier entry ih =>
    obtain ⟨added, key⟩ := entry
    have last : registry.addAll (earlier ++ [(added, key)]) =
        (registry.addAll earlier).addAlias added key := by
      rw [addAll, List.foldl_append]
      rfl
    rw [last, resolveKey_addAlias, latest?_append_singleton, ih]
    split <;> rfl

/-- The built-in names are spelled as they are filed. -/
theorem asciiLower_of_mem_builtin {entry : String × String} (member : entry ∈ builtin) :
    asciiLower entry.1 = entry.1 := by
  have all : ∀ entry ∈ builtin, entry.1.toList.map Char.toLower = entry.1.toList := by decide
  rw [← String.toList_inj, asciiLower, String.toList_map]
  exact all entry member

/-- Entries that are spelled as they are filed make up a map as aliases make up a registry. -/
theorem foldl_insert_eq_addAll (map : NameMap String) {entries : List (String × String)}
    (small : ∀ entry ∈ entries, asciiLower entry.1 = entry.1) :
    ⟨entries.foldl (fun map entry => map.insert entry.1 entry.2) map⟩ = addAll ⟨map⟩ entries := by
  induction entries generalizing map with
  | nil => rfl
  | cons entry rest ih =>
    -- filing an entry in small letters changes nothing, so both sides insert the same
    have first : asciiLower entry.1 = entry.1 := small entry List.mem_cons_self
    have others := ih (map.insert entry.1 entry.2) fun e member => small e (.tail _ member)
    rw [List.foldl_cons, others, addAll, addAll, List.foldl_cons, addAlias, first]

/-- The built-in names are aliases like all others. -/
theorem standard_eq_addAll : standard = addAll ⟨NameMap.empty⟩ builtin :=
  foldl_insert_eq_addAll NameMap.empty fun _ => asciiLower_of_mem_builtin

/-- The registry with the built-in names and with aliases added to them. -/
def withAliases (history : List (String × String)) : DriverRegistry := standard.addAll history

/-- A name stands for the key of the last alias that it finds, the built-in ones being the first,
and for itself if it finds none. -/
theorem resolveKey_withAliases (history : List (String × String)) (name : String) :
    (withAliases history).resolveKey name =
      (latest? (builtin ++ history) name).getD (normalized name) := by
  have joined : withAliases history = addAll ⟨NameMap.empty⟩ (builtin ++ history) := by
    rw [withAliases, standard_eq_addAll, addAll, addAll, addAll, List.foldl_append]
  rw [joined, resolveKey_addAll]
  rfl

/-- An added alias resolves under all its spellings if there are no blanks around it, and otherwise
only where it changes nothing: with blanks around it, it is found under no name.  Names of another
spelling are left as they were in any case.  This holds after any history of added aliases, which
says for itself what every name stands for. -/
theorem addAlias_resolves_iff (history : List (String × String)) (added key : String) :
    let before := withAliases history
    let after := before.addAlias added key
    ((∀ name, SameName added name → after.resolveKey name = key) ↔
      Tight added.toList ∨ before.resolveKey added = key) ∧
    (∀ name, ¬ SameName added name → after.resolveKey name = before.resolveKey name) ∧
    (¬ Tight added.toList → ∀ name, after.resolveKey name = before.resolveKey name) ∧
    ∀ name, before.resolveKey name =
      (latest? (builtin ++ history) name).getD (normalized name) := by
  intro before after
  have added_or_kept (name : String) : after.resolveKey name =
      if FoundUnder added name then key else before.resolveKey name :=
    resolveKey_addAlias before added key name
  have lost (padded : ¬ Tight added.toList) (name : String) :
      after.resolveKey name = before.resolveKey name := by
    rw [added_or_kept, if_neg fun found => padded found.1]
  refine ⟨⟨?_, ?_⟩, ?_, lost, resolveKey_withAliases history⟩
  · intro resolves
    by_cases tight : Tight added.toList
    · exact .inl tight
    · right
      -- its own spelling is one of those that the hypothesis speaks of
      rw [← lost tight added, resolves added (.refl added)]
  · intro useful name spelled
    rw [added_or_kept]
    split
    · rfl
    · rename_i notFound
      -- blanks are around the alias, but the name has stood for the key before
      have unchanged := useful.resolve_left fun tight => notFound ⟨tight, spelled⟩
      rw [resolveKey_of_sameName before spelled, unchanged]
  · intro name other
    rw [added_or_kept, if_neg fun found => other found.2]

/-- An alias in capitals that replaces another and a built-in name, looked up with blanks around it.
-/
theorem addAlias_resolves_iff_overwritten :
    let before := withAliases [("roach", "crdb"), ("Postgres", "crdb")]
    SameName "POSTGRES" "\tpostgres " ∧
      (before.addAlias "POSTGRES" "pgsql").resolveKey "\tpostgres " = "pgsql" ∧
      ¬ SameName "POSTGRES" "ROACH" ∧
      (before.addAlias "POSTGRES" "pgsql").resolveKey "ROACH" = before.resolveKey "ROACH" := by
  intro before
  have same : SameName "POSTGRES" "\tpostgres " := by decide
  have other : ¬ SameName "POSTGRES" "ROACH" := by decide
  obtain ⟨resolves, kept, -⟩ :=
    addAlias_resolves_iff [("roach", "crdb"), ("Postgres", "crdb")] "POSTGRES" "pgsql"
  exact ⟨same, resolves.mpr (.inl (by decide)) _ same, other, kept "ROACH" other⟩

/-- An alias with a blank in front of it does not resolve, not even under its own spelling. -/
theorem addAlias_padded_lost :
    ¬ ∀ history added key name, SameName added name →
      ((withAliases history).addAlias added key).resolveKey name = key := by
  intro resolves
  have kept : ((withAliases []).addAlias " roach" "crdb").resolveKey " roach" = "roach" := by
    rw [resolveKey_addAlias, if_neg (by decide), resolveKey_withAliases]
    -- the blank stays with the filed alias and goes from the name, so no alias is found
    have unknown : latest? (builtin ++ []) " roach" = none := by decide
    have trimmed : normalized " roach" = "roach" := by
      rw [← String.toList_inj, toList_normalized]
      decide
    rw [unknown, trimmed]
    rfl
  have wrong : "roach" = "crdb" := kept.symm.trans (resolves [] " roach" "crdb" _ (.refl _))
  exact absurd wrong (by decide)

end ClusterSchema.DriverRegistry
