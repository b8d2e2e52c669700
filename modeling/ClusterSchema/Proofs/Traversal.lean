import Mathlib.Data.List.Forall2

/-!
# Reading one thing after the other

What is read in several steps is read if every step succeeds, and otherwise fails with the first
step that does.  So a list is read item by item, and the first item that cannot be read ends the
reading.

* `bind_eq_ok_iff`, `bind_eq_error_iff`  two steps
* `mapM_eq_ok_iff_forall₂`  a list that is read has every item read
* `mapM_eq_error_iff`       a list that is not read has a first item that is not
-/

namespace ClusterSchema

variable {ε α β : Type} {read : α → Except ε β} {items : List α}

/-- Two steps succeed if the first does and the second does with what it gives. -/
theorem bind_eq_ok_iff {first : Except ε α} {next : α → Except ε β} {result : β} :
    first >>= next = .ok result ↔ ∃ value, first = .ok value ∧ next value = .ok result := by
  cases first with
  | error error => simp [bind, Except.bind]
  | ok value => simp [bind, Except.bind]

/-- Two steps fail with the first that fails. -/
theorem bind_eq_error_iff {first : Except ε α} {next : α → Except ε β} {error : ε} :
    first >>= next = .error error ↔
      first = .error error ∨ ∃ value, first = .ok value ∧ next value = .error error := by
  cases first with
  | error other => simp [bind, Except.bind]
  | ok value => simp [bind, Except.bind]

/-- With a first item that is read, the others decide. -/
theorem mapM_cons_of_ok {item : α} {value : β} (isRead : read item = .ok value) :
    (item :: items).mapM read = (items.mapM read).map (value :: ·) := by
  rw [List.mapM_cons, isRead]
  rfl

/-- The items behind one that cannot be read are not looked at. -/
theorem mapM_cons_of_error {item : α} {error : ε} (failed : read item = .error error) :
    (item :: items).mapM read = .error error := by
  rw [List.mapM_cons, failed]
  rfl

/-- A list is read if and only if every item is, each in its place. -/
theorem mapM_eq_ok_iff_forall₂ {values : List β} :
    items.mapM read = .ok values ↔
      List.Forall₂ (fun item value => read item = .ok value) items values := by
  induction items generalizing values with
  | nil =>
    rw [List.forall₂_nil_left_iff]
    exact ⟨fun same => (Except.ok.inj same).symm, fun same => same ▸ rfl⟩
  | cons item rest ih =>
    rw [List.forall₂_cons_left_iff]
    cases first : read item with
    | error error =>
      rw [mapM_cons_of_error first]
      simp
    | ok value =>
      rw [mapM_cons_of_ok first]
      cases later : rest.mapM read with
      | error error => simp [Except.map, ← ih, later]
      | ok others => simp [Except.map, ← ih, later, eq_comm]

/-- A list is not read if and only if some item is not and all before it are, and it is that item's
failure. -/
theorem mapM_eq_error_iff {error : ε} :
    items.mapM read = .error error ↔ ∃ before item after values, items = before ++ item :: after ∧
      List.Forall₂ (fun item value => read item = .ok value) before values ∧
      read item = .error error := by
  constructor
  · intro failed
    induction items with
    | nil => cases failed
    | cons item rest ih =>
      cases first : read item with
      -- this is the first item that cannot be read
      | error reason =>
        rw [mapM_cons_of_error first, Except.error.injEq] at failed
        exact ⟨[], item, rest, [], rfl, .nil, failed ▸ first⟩
      | ok value =>
        rw [mapM_cons_of_ok first] at failed
        -- the first item is read, so the one that cannot be read is among the others
        cases later : rest.mapM read with
        | ok others =>
          rw [later] at failed
          cases failed
        | error reason =>
          rw [later] at failed
          obtain ⟨before, bad, after, values, rfl, each, unreadable⟩ := ih (later.trans failed)
          exact ⟨item :: before, bad, after, value :: values, rfl, .cons first each, unreadable⟩
  · rintro ⟨before, item, after, values, rfl, each, failed⟩
    induction each with
    | nil => exact mapM_cons_of_error failed
    | cons first _ ih =>
      rw [List.cons_append, mapM_cons_of_ok first, ih]
      rfl

end ClusterSchema
