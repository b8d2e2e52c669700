import ClusterSchema.Document.Fields
import ClusterSchema.Document.Record
import ClusterSchema.NameMap
import ClusterSchema.Proofs.Traversal
import Mathlib.Data.List.Nodup

/-!
# Reading what was written

Each reader of a value accepts exactly what one way of writing it yields (`Reads`).  From that
follow the fields: a field is read from an entry or an item if and only if its value is written
there or, where it may be left out, it is not there and the value is the default.

* `reads_text`, `reads_flag`, `reads_texts`, `Reads.optional`  the readers of values
* `visit_eq_ok_iff`, `required_eq_ok_iff`, `defaulted_eq_ok_iff`  the fields of an object
* `requiredAt_eq_ok_iff`, `defaultedAt_eq_ok_iff`                 the fields of a list
* `visit_then_eq_ok_iff`, `listed_iff`                            all fields of a record
* `written_append_iff`, `written_iff_perm`                        some fields apart from the others
* `written_cons_iff`, `listed_cons_iff`                           one field apart from the others
* `NameMap.get?_eq_some_iff`                                      a map's entries by their names
-/

namespace ClusterSchema

open scoped List

variable {α γ : Type}

/-- A check in front of a reading. -/
theorem Decoded.then_eq_ok_iff {check : Decoded Unit} {next : Decoded γ} {result : γ} :
    (do check; next) = .ok result ↔ check = .ok () ∧ next = .ok result := by
  cases check with
  | ok value => simp [bind, Except.bind]
  | error error => simp [bind, Except.bind]

/-- What is made of a reading is there if and only if the reading is. -/
theorem Decoded.map_eq_ok_iff {read : Decoded α} {change : α → γ} {result : γ} :
    change <$> read = .ok result ↔ ∃ value, read = .ok value ∧ change value = result := by
  cases read with
  | ok value => simp [Functor.map, Except.map]
  | error error => simp [Functor.map, Except.map]

namespace Document

/-- A reader accepts a document if and only if it is what `write` makes of the value. -/
def Reads (read : Document → Decoded α) (write : α → Document) : Prop :=
  ∀ document value, read document = .ok value ↔ document = write value

/-- What was written is read back. -/
theorem Reads.apply {read : Document → Decoded α} {write : α → Document} (reads : Reads read write)
    (value : α) : read (write value) = .ok value :=
  (reads _ value).mpr rfl

/-- A text is read from a text and from nothing else. -/
theorem reads_text : Reads asText text := by
  intro document value
  cases document <;> simp [asText]

/-- A flag is read from a flag and from nothing else. -/
theorem reads_flag : Reads asFlag bool := by
  intro document value
  cases document <;> simp [asFlag]

/-- The items of a list are read together if and only if they are what is written for the values. -/
theorem mapM_eq_ok_iff {read : Document → Decoded α} {write : α → Document}
    (reads : Reads read write)
    (items : List Document) (values : List α) :
    items.mapM read = .ok values ↔ items = values.map write := by
  have pointwise : (fun item value => read item = .ok value) =
      fun item value => item = write value := by
    funext item value
    exact propext (reads item value)
  rw [mapM_eq_ok_iff_forall₂, pointwise, ← List.forall₂_map_right_iff, List.forall₂_eq_eq_eq]

/-- Texts are read from a list of texts. -/
theorem reads_texts : Reads asTexts ofTexts := by
  intro document texts
  cases document with
  | list items => simp only [asTexts, ofTexts, mapM_eq_ok_iff reads_text, Document.list.injEq]
  | _ => simp [asTexts, ofTexts]

/-- A reader of values that are never written as null also reads absent ones. -/
theorem Reads.optional {read : Document → Decoded α} {write : α → Document}
    (reads : Reads read write) (never : ∀ value, write value ≠ null) :
    Reads (optional read) (ofOptional write) := by
  intro document value
  -- null stands for no value, and everything else goes to the reader
  by_cases absent : document = null
  · subst absent
    cases value with
    | none => simp [Document.optional, ofOptional]
    | some value => simp [Document.optional, ofOptional, (never value).symm]
  · have present : Document.optional read document = some <$> read document := by
      cases document <;> first | rfl | exact absurd rfl absent
    rw [present, Decoded.map_eq_ok_iff]
    cases value with
    | none => simp [ofOptional, absent]
    | some value => simp [ofOptional, reads document value]

/-- A text that may be absent is read from a text or from null. -/
theorem reads_optionalText : Reads (optional asText) (ofOptional text) :=
  reads_text.optional fun _ => nofun

/-- A flag that may be absent is read from a flag or from null. -/
theorem reads_optionalFlag : Reads (optional asFlag) (ofOptional bool) :=
  reads_flag.optional fun _ => nofun

/-- Only the absence of texts is written as an empty list. -/
@[simp] theorem ofTexts_eq_nil_iff {texts : List String} :
    ofTexts texts = ofTexts [] ↔ texts = [] := by
  simp [ofTexts]

/-- Only an absent text is written as null. -/
@[simp] theorem ofOptional_text_eq_null_iff {value : Option String} :
    ofOptional text value = null ↔ value = none := by
  cases value <;> simp [ofOptional]

/-- Only an absent flag is written as null. -/
@[simp] theorem ofOptional_flag_eq_null_iff {value : Option Bool} :
    ofOptional bool value = null ↔ value = none := by
  cases value <;> simp [ofOptional]

end Document

namespace Record

open Document

variable {read : Document → Decoded α} {write : α → Document} {name : String} {value default : α}
  {fields defaults entries : List (String × Document)} {items : List Document}

/-! ## Objects -/

/-- In an object without repeated names the entry of a name is the one that is found. -/
theorem entry?_eq_some_iff {β : Type} {entries : List (String × β)} {value : β}
    (distinct : (entries.map Prod.fst).Nodup) :
    entry? entries name = some value ↔ (name, value) ∈ entries := by
  unfold entry?
  rw [Option.map_eq_some_iff]
  constructor
  · rintro ⟨⟨other, found⟩, first, rfl⟩
    have same : other = name := by simpa using List.find?_some first
    exact same ▸ List.mem_of_find?_eq_some first
  · intro member
    obtain ⟨entry, found⟩ : ∃ entry, entries.find? (·.1 == name) = some entry := by
      rw [← Option.isSome_iff_exists, List.find?_isSome]
      exact ⟨_, member, beq_self_eq_true name⟩
    have same : entry.1 = (name, value).1 := by simpa using List.find?_some found
    -- two entries of one name are one entry
    have unique := List.inj_on_of_nodup_map distinct (List.mem_of_find?_eq_some found) member same
    exact ⟨entry, found, congrArg Prod.snd unique⟩

/-- No entry of a name is found if and only if there is none. -/
theorem entry?_eq_none_iff : entry? entries name = none ↔ name ∉ entries.map Prod.fst := by
  unfold entry?
  rw [Option.map_eq_none_iff, List.find?_eq_none, List.mem_map, not_exists]
  exact forall_congr' fun entry => by simp

/-- A visit succeeds if no name is met twice and every entry can be read as a field. -/
theorem visit_eq_ok_iff {known : List (FieldCheck Document)} {seen : List String} :
    visit known seen entries = .ok () ↔
      (entries.map Prod.fst).Nodup ∧ (∀ entry ∈ entries, entry.1 ∉ seen) ∧
        ∀ entry ∈ entries, ∃ field, known.find? (·.name == entry.1) = some field ∧
          field.check entry.2 = .ok () := by
  induction entries generalizing seen with
  | nil => simp [visit]
  | cons entry rest ih =>
    obtain ⟨name, document⟩ := entry
    rw [visit]
    cases found : known.find? (·.name == name) with
    | none => simp [found]
    | some field =>
      rw [List.forall_mem_cons, List.forall_mem_cons, List.map_cons, List.nodup_cons]
      -- a name that was met before ends the visit
      by_cases old : name ∈ seen
      · simp [old]
      · dsimp only
        rw [if_neg (by simpa using old), bind_eq_ok_iff]
        simp only [ih, found, Option.some.injEq, exists_eq_left']
        constructor
        -- met later means met behind this entry, whose name is on the list by then
        · rintro ⟨_, readable, distinct, new, others⟩
          refine ⟨⟨fun again => ?_, distinct⟩, ⟨old, fun entry member => ?_⟩, readable, others⟩
          · obtain ⟨entry, member, same⟩ := List.mem_map.mp again
            exact new entry member (same ▸ List.mem_cons_self)
          · exact fun before => new entry member (List.mem_cons_of_mem _ before)
        · rintro ⟨⟨fresh, distinct⟩, ⟨-, new⟩, readable, others⟩
          refine ⟨(), readable, distinct, fun entry member before => ?_, others⟩
          rcases List.mem_cons.mp before with same | earlier
          · exact fresh (same ▸ List.mem_map_of_mem member)
          · exact new entry member earlier

/-- A field that has to be there is read from its entry, by whatever reader. -/
theorem required_eq_ok_iff_exists (distinct : (entries.map Prod.fst).Nodup) :
    required entries name read = .ok value ↔
      ∃ document, (name, document) ∈ entries ∧ read document = .ok value := by
  simp only [required, ← entry?_eq_some_iff distinct]
  cases entry? entries name with
  | none => simp
  | some document => simp

/-- A field that has to be there is read if and only if its value is written. -/
theorem required_eq_ok_iff (reads : Reads read write) (distinct : (entries.map Prod.fst).Nodup) :
    required entries name read = .ok value ↔ (name, write value) ∈ entries := by
  rw [required_eq_ok_iff_exists distinct]
  simp only [reads _ value, exists_eq_right]

/-- A field that may be left out is read if its value is written, or is at its default without an
entry. -/
theorem defaulted_eq_ok_iff (reads : Reads read write) (distinct : (entries.map Prod.fst).Nodup) :
    defaulted entries name read default = .ok value ↔
      (name, write value) ∈ entries ∨ name ∉ entries.map Prod.fst ∧ value = default := by
  rw [defaulted, ← entry?_eq_some_iff distinct, ← entry?_eq_none_iff]
  cases entry? entries name with
  | none => simp [eq_comm]
  | some document => simp [reads document value]

/-- A record is written in entries if and only if a visit accepts them and each of its fields is
found in them, or is left out and at its default. -/
theorem written_iff (known : List (FieldCheck Document)) (names : (fields.map Prod.fst).Nodup)
    (sameNames : known.map (·.name) = fields.map Prod.fst)
    (readable : ∀ field ∈ fields, ∃ each, known.find? (·.name == field.1) = some each ∧
      each.check field.2 = .ok ()) :
    Written defaults fields entries ↔ visit known [] entries = .ok () ∧
      ∀ field ∈ fields, field ∈ entries ∨ field.1 ∉ entries.map Prod.fst ∧ field ∈ defaults := by
  rw [visit_eq_ok_iff]
  constructor
  · rintro ⟨distinct, sound, complete⟩
    refine ⟨⟨distinct, fun _ _ => List.not_mem_nil, fun entry member =>
      readable entry (sound entry member)⟩, fun field isField => ?_⟩
    -- a field that is not in the entries has no entry of its name, because names are told apart
    by_cases present : field ∈ entries
    · exact .inl present
    · refine .inr ⟨fun named => ?_, (complete field isField).resolve_left present⟩
      obtain ⟨entry, member, same⟩ := List.mem_map.mp named
      have unique := List.inj_on_of_nodup_map names (sound entry member) isField same
      exact present (unique ▸ member)
  · rintro ⟨⟨distinct, -, accepted⟩, found⟩
    refine ⟨distinct, fun entry member => ?_, fun field isField => (found field isField).imp_right
      And.right⟩
    -- the entry has the name of a field, and that field is found under no other entry
    obtain ⟨each, known, -⟩ := accepted entry member
    have named : entry.1 ∈ fields.map Prod.fst := by
      rw [← sameNames, ← show each.name = entry.1 by simpa using List.find?_some known]
      exact List.mem_map_of_mem (List.mem_of_find?_eq_some known)
    obtain ⟨field, isField, same⟩ := List.mem_map.mp named
    rcases found field isField with present | ⟨absent, -⟩
    · exact List.inj_on_of_nodup_map distinct present member same ▸ isField
    · exact absurd (same ▸ List.mem_map_of_mem member) absent

/-- A record that is read after a visit: it remains to find its fields in entries that are known to
have different names. -/
theorem visit_then_eq_ok_iff (known : List (FieldCheck Document)) {rest : Decoded α} {record : α}
    (names : (fields.map Prod.fst).Nodup) (sameNames : known.map (·.name) = fields.map Prod.fst)
    (readable : ∀ field ∈ fields, ∃ each, known.find? (·.name == field.1) = some each ∧
      each.check field.2 = .ok ())
    (found : (entries.map Prod.fst).Nodup → (rest = .ok record ↔
      ∀ field ∈ fields, field ∈ entries ∨ field.1 ∉ entries.map Prod.fst ∧ field ∈ defaults)) :
    (do visit known [] entries; rest) = .ok record ↔ Written defaults fields entries := by
  rw [written_iff known names sameNames readable, Decoded.then_eq_ok_iff]
  exact and_congr_right fun visited => found (visit_eq_ok_iff.mp visited).1

/-- Fields that are told apart by their names are written apart from each other. -/
theorem written_append_iff {others : List (String × Document)} (own : String → Bool)
    (isOwn : ∀ field ∈ fields, own field.1 = true)
    (isOther : ∀ field ∈ others, own field.1 = false) :
    Written defaults (fields ++ others) entries ↔
      Written defaults fields (entries.filter fun entry => own entry.1) ∧
        Written defaults others (entries.filter fun entry => !own entry.1) := by
  constructor
  · rintro ⟨distinct, sound, complete⟩
    -- every entry is of one of the two parts, and is kept for that part
    have kept : ∀ entry ∈ entries, entry ∈ fields ∧ own entry.1 = true ∨
        entry ∈ others ∧ own entry.1 = false := by
      intro entry member
      rcases List.mem_append.mp (sound entry member) with field | other
      · exact .inl ⟨field, isOwn entry field⟩
      · exact .inr ⟨other, isOther entry other⟩
    refine ⟨⟨distinct.sublist (List.filter_sublist.map _), fun entry member => ?_,
      fun field isField => ?_⟩, ⟨distinct.sublist (List.filter_sublist.map _),
      fun entry member => ?_, fun field isField => ?_⟩⟩
    · obtain ⟨inside, isOwn⟩ := List.mem_filter.mp member
      rcases kept entry inside with ⟨field, -⟩ | ⟨-, foreign⟩
      · exact field
      · rw [foreign] at isOwn
        cases isOwn
    · refine (complete field (List.mem_append_left _ isField)).imp_left fun inside => ?_
      exact List.mem_filter.mpr ⟨inside, isOwn field isField⟩
    · obtain ⟨inside, notOwn⟩ := List.mem_filter.mp member
      rcases kept entry inside with ⟨-, own⟩ | ⟨other, -⟩
      · rw [own] at notOwn
        cases notOwn
      · exact other
    · refine (complete field (List.mem_append_right _ isField)).imp_left fun inside => ?_
      exact List.mem_filter.mpr ⟨inside, by rw [isOther field isField]; rfl⟩
  · rintro ⟨first, second⟩
    -- the two filtered lists make up all the entries
    have both := List.filter_append_perm (fun entry => own entry.1) entries
    refine ⟨?_, fun entry member => ?_, fun field isField => ?_⟩
    · -- the names of the two parts differ because they are told apart
      rw [← (both.map Prod.fst).nodup_iff, List.map_append, List.nodup_append]
      refine ⟨first.distinct, second.distinct, fun name isOwn other isOther same => ?_⟩
      obtain ⟨entry, member, rfl⟩ := List.mem_map.mp isOwn
      obtain ⟨foreign, inside, rfl⟩ := List.mem_map.mp isOther
      have yes := (List.mem_filter.mp member).2
      have no := (List.mem_filter.mp inside).2
      rw [← same, yes] at no
      cases no
    · rcases List.mem_append.mp (both.mem_iff.mpr member) with isOwn | isOther
      · exact List.mem_append_left _ (first.sound entry isOwn)
      · exact List.mem_append_right _ (second.sound entry isOther)
    · rcases List.mem_append.mp isField with isOwn | isOther
      · exact (first.complete field isOwn).imp_left List.mem_of_mem_filter
      · exact (second.complete field isOther).imp_left List.mem_of_mem_filter

/-- Where no field can be left out, the entries are the fields in some order. -/
theorem written_iff_perm (names : (fields.map Prod.fst).Nodup)
    (needed : ∀ field ∈ fields, field ∉ defaults) :
    Written defaults fields entries ↔ entries ~ fields := by
  constructor
  · rintro ⟨distinct, sound, complete⟩
    refine (List.perm_ext_iff_of_nodup distinct.of_map names.of_map).mpr fun entry => ?_
    exact ⟨sound entry,
      fun isField => (complete entry isField).resolve_right (needed entry isField)⟩
  · intro perm
    exact ⟨(perm.map Prod.fst).nodup_iff.mpr names, fun entry => perm.mem_iff.mp,
      fun field isField => .inl (perm.mem_iff.mpr isField)⟩

/-- A field that cannot be left out, apart from the others: it has one entry, and the other entries
write the other fields. -/
theorem written_cons_iff {document : Document} (apart : name ∉ fields.map Prod.fst)
    (needed : (name, document) ∉ defaults) :
    Written defaults ((name, document) :: fields) entries ↔
      entries.filter (·.1 == name) = [(name, document)] ∧
        Written defaults fields (entries.filter (·.1 != name)) := by
  have isOther : ∀ field ∈ fields, (field.1 == name) = false := by
    intro field isField
    rw [beq_eq_false_iff_ne]
    exact fun same => apart (same ▸ List.mem_map_of_mem isField)
  rw [← List.singleton_append, written_append_iff (· == name) (by simp) isOther,
    written_iff_perm (by simp) (by simpa using needed), List.perm_singleton]
  rfl

/-! ## Lists -/

/-- In a list, a field that has to be there is read if and only if its value stands at its place. -/
theorem requiredAt_eq_ok_iff {shape : Shape} {position : Nat} (reads : Reads read write) :
    requiredAt shape items position read = .ok value ↔ items[position]? = some (write value) := by
  rw [requiredAt]
  cases items[position]? with
  | none => simp
  | some document => simp [reads document value]

/-- In a list, a field may be left out where the items have ended. -/
theorem defaultedAt_eq_ok_iff {position : Nat} (reads : Reads read write) :
    defaultedAt items position read default = .ok value ↔
      items[position]? = some (write value) ∨ items[position]? = none ∧ value = default := by
  rw [defaultedAt]
  cases items[position]? with
  | none => simp [eq_comm]
  | some document => simp [reads document value]

/-- A list may not have more items than there are fields. -/
theorem checkSurplus_eq_ok_iff {size : Nat} {wanted : String} {result : Unit} :
    checkSurplus size items wanted = .ok result ↔ items.length ≤ size := by
  rw [checkSurplus]
  split <;> simp_all

/-- A record is written in items if and only if there are no more of them than fields and each of
its fields is found at its place, or the items end before it and it is at its default. -/
theorem listed_iff :
    Listed defaults fields items ↔ items.length ≤ fields.length ∧
      ∀ placed ∈ fields.zipIdx, items[placed.2]? = some placed.1.2 ∨
        items[placed.2]? = none ∧ placed.1 ∈ defaults := by
  constructor
  -- the fields whose places are behind the items are those left out
  · rintro ⟨kept, omitted, rfl, rfl, atDefault⟩
    refine ⟨by simp, fun placed member => ?_⟩
    rw [List.mem_zipIdx_iff_getElem?, List.getElem?_append] at member
    split at member
    · simp [member]
    · rename_i beyond
      exact .inr ⟨by simpa using beyond, atDefault _ (List.mem_of_getElem? member)⟩
  · rintro ⟨short, placed⟩
    refine ⟨fields.take items.length, fields.drop items.length, by simp, ?_, ?_⟩
    · apply List.ext_getElem?
      intro position
      rw [List.getElem?_map, List.getElem?_take]
      by_cases inside : position < items.length
      · have isField : fields[position]? = some fields[position] :=
          List.getElem?_eq_getElem (Nat.lt_of_lt_of_le inside short)
        have here := placed (_, position) (List.mem_zipIdx_iff_getElem?.mpr isField)
        rw [if_pos inside, isField]
        simpa [inside, Nat.not_le.mpr inside] using here
      · simp [inside]
    · intro field omitted
      -- a field left out stands behind as many fields as there are items
      obtain ⟨offset, isField⟩ := List.mem_iff_getElem?.mp omitted
      rw [List.getElem?_drop] at isField
      have here := placed (field, items.length + offset) (List.mem_zipIdx_iff_getElem?.mpr isField)
      rw [List.getElem?_eq_none (Nat.le_add_right ..)] at here
      simpa using here

/-- A field that cannot be left out, in front of the others. -/
theorem listed_cons_iff {document : Document} (needed : (name, document) ∉ defaults) :
    Listed defaults ((name, document) :: fields) items ↔
      ∃ rest, items = document :: rest ∧ Listed defaults fields rest := by
  constructor
  · rintro ⟨kept, omitted, all, rfl, atDefault⟩
    -- the first field is kept, because it is not at its default
    cases kept with
    | nil =>
      rw [List.nil_append] at all
      exact absurd (atDefault _ (all ▸ List.mem_cons_self)) needed
    | cons field others =>
      rw [List.cons_append, List.cons.injEq] at all
      obtain ⟨rfl, rfl⟩ := all
      exact ⟨_, rfl, others, omitted, rfl, rfl, atDefault⟩
  · rintro ⟨_, rfl, kept, omitted, rfl, rfl, atDefault⟩
    exact ⟨(name, document) :: kept, omitted, rfl, rfl, atDefault⟩

end Record

/-- The value of a name in a map is the one in its entry. -/
theorem NameMap.get?_eq_some_iff {map : NameMap α} {name : String} {value : α} :
    map.get? name = some value ↔ (name, value) ∈ map.entries :=
  Record.entry?_eq_some_iff map.nodup_keys

end ClusterSchema
