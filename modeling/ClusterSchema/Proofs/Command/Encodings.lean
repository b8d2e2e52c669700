import ClusterSchema.Command.Encoding
import ClusterSchema.Proofs.Document.Records

/-!
# Which documents are commands

Reading a command accepts the documents that stand for it (`SchemaCommand.Encoded`) and no others.
The kind of a command is treated as one more field, which cannot be left out: it stands anywhere
among the entries of an object and at the start of a list.

* `split_eq_ok_iff`       the kind among the entries of an object
* `ofEntries_eq_ok_iff`   the other entries of an object
* `ofItems_eq_ok_iff`     the other items of a list
* `encoded_object_iff`, `encoded_list_iff`  encodings with their kind apart
-/

namespace ClusterSchema

open Document Record

variable {entries : List (String × Document)} {items : List Document}

/-! ## The kinds of records -/

section Records

open SchemaCommand

variable {index : IndexCommand} {unique : UniqueCommand} {fulltext : FulltextCommand}
  {drop : DropCommand}

/-- An object is read as an index if and only if the index is written in its entries. -/
theorem IndexCommand.ofEntries_eq_ok_iff :
    ofEntries entries = .ok index ↔ Written fieldDefaults index.fieldValues entries := by
  refine visit_then_eq_ok_iff fields (by simp [fieldValues]) rfl ?_ fun distinct => ?_
  · simp [fieldValues, fields, field, reads_text.apply, reads_texts.apply,
      reads_optionalText.apply, Except.map]
  -- with different names, each field is found by itself
  · simp only [bind_eq_ok_iff, required_eq_ok_iff reads_text distinct,
      required_eq_ok_iff reads_texts distinct, defaulted_eq_ok_iff reads_texts distinct,
      defaulted_eq_ok_iff reads_optionalText distinct]
    obtain ⟨name, columns, algorithm, storing⟩ := index
    simp [fieldValues, fieldDefaults, pure, Except.pure]

/-- A list is read as an index if and only if the index is written in its items. -/
theorem IndexCommand.ofItems_eq_ok_iff :
    ofItems items = .ok index ↔ Listed fieldDefaults index.fieldValues items := by
  rw [listed_iff, and_comm]
  simp only [ofItems, bind_eq_ok_iff, requiredAt_eq_ok_iff reads_text,
    requiredAt_eq_ok_iff reads_texts, defaultedAt_eq_ok_iff reads_texts,
    defaultedAt_eq_ok_iff reads_optionalText, checkSurplus_eq_ok_iff]
  obtain ⟨name, columns, algorithm, storing⟩ := index
  simp [fieldValues, fieldDefaults, pure, Except.pure, and_assoc]

/-- The same for uniqueness constraints, in objects. -/
theorem UniqueCommand.ofEntries_eq_ok_iff :
    ofEntries entries = .ok unique ↔ Written fieldDefaults unique.fieldValues entries := by
  refine visit_then_eq_ok_iff fields (by simp [fieldValues]) rfl ?_ fun distinct => ?_
  · simp [fieldValues, fields, field, reads_text.apply, reads_texts.apply,
      reads_optionalFlag.apply, Except.map]
  · simp only [bind_eq_ok_iff, required_eq_ok_iff reads_text distinct,
      required_eq_ok_iff reads_texts distinct, defaulted_eq_ok_iff reads_texts distinct,
      defaulted_eq_ok_iff reads_optionalFlag distinct]
    obtain ⟨name, columns, storing, deferrable, initiallyImmediate⟩ := unique
    simp [fieldValues, fieldDefaults, pure, Except.pure]

/-- The same for uniqueness constraints, in lists. -/
theorem UniqueCommand.ofItems_eq_ok_iff :
    ofItems items = .ok unique ↔ Listed fieldDefaults unique.fieldValues items := by
  rw [listed_iff, and_comm]
  simp only [ofItems, bind_eq_ok_iff, requiredAt_eq_ok_iff reads_text,
    requiredAt_eq_ok_iff reads_texts, defaultedAt_eq_ok_iff reads_texts,
    defaultedAt_eq_ok_iff reads_optionalFlag, checkSurplus_eq_ok_iff]
  obtain ⟨name, columns, storing, deferrable, initiallyImmediate⟩ := unique
  simp [fieldValues, fieldDefaults, pure, Except.pure, and_assoc]

/-- The same for full-text indexes, in objects. -/
theorem FulltextCommand.ofEntries_eq_ok_iff :
    ofEntries entries = .ok fulltext ↔ Written fieldDefaults fulltext.fieldValues entries := by
  refine visit_then_eq_ok_iff fields (by simp [fieldValues]) rfl ?_ fun distinct => ?_
  · simp [fieldValues, fields, field, reads_text.apply, reads_texts.apply,
      reads_optionalText.apply, Except.map]
  · simp only [bind_eq_ok_iff, required_eq_ok_iff reads_text distinct,
      required_eq_ok_iff reads_texts distinct, defaulted_eq_ok_iff reads_optionalText distinct]
    obtain ⟨name, columns, language⟩ := fulltext
    simp [fieldValues, fieldDefaults, pure, Except.pure]

/-- The same for full-text indexes, in lists. -/
theorem FulltextCommand.ofItems_eq_ok_iff :
    ofItems items = .ok fulltext ↔ Listed fieldDefaults fulltext.fieldValues items := by
  rw [listed_iff, and_comm]
  simp only [ofItems, bind_eq_ok_iff, requiredAt_eq_ok_iff reads_text,
    requiredAt_eq_ok_iff reads_texts, defaultedAt_eq_ok_iff reads_optionalText,
    checkSurplus_eq_ok_iff]
  obtain ⟨name, columns, language⟩ := fulltext
  simp [fieldValues, fieldDefaults, pure, Except.pure, and_assoc]

/-- The same for what is dropped, in objects. -/
theorem DropCommand.ofEntries_eq_ok_iff :
    ofEntries entries = .ok drop ↔ Written fieldDefaults drop.fieldValues entries := by
  refine visit_then_eq_ok_iff fields (by simp [fieldValues]) rfl ?_ fun distinct => ?_
  · simp [fieldValues, fields, field, reads_text.apply, Except.map]
  · simp only [bind_eq_ok_iff, required_eq_ok_iff reads_text distinct]
    obtain ⟨name⟩ := drop
    simp [fieldValues, fieldDefaults, pure, Except.pure]

/-- The same for what is dropped, in lists. -/
theorem DropCommand.ofItems_eq_ok_iff :
    ofItems items = .ok drop ↔ Listed fieldDefaults drop.fieldValues items := by
  rw [listed_iff, and_comm]
  simp only [ofItems, bind_eq_ok_iff, requiredAt_eq_ok_iff reads_text,
    checkSurplus_eq_ok_iff]
  obtain ⟨name⟩ := drop
  simp [fieldValues, fieldDefaults, pure, Except.pure]

end Records

/-! ## The kind -/

namespace CommandKind

/-- The word for a kind in documents is the one by which the kind is known. -/
theorem word_eq_tag (kind : CommandKind) : kind.word = kind.tag := by
  cases kind <;> rfl

/-- A word is looked up by the tag of its kind. -/
theorem ofWord?_eq_some_iff {word : String} {kind : CommandKind} :
    ofWord? word = some kind ↔ word = kind.tag := by
  constructor
  · intro found
    -- what the look-up finds has the word
    have named := List.find?_some (show all.find? (fun each => each.word == word) = _ from found)
    rw [← eq_of_beq named, word_eq_tag]
  · rintro rfl
    cases kind <;> decide +kernel

/-- The kind is read from its tag and from nothing else. -/
theorem ofDocument_eq_ok_iff {document : Document} {kind : CommandKind} :
    ofDocument document = .ok kind ↔ document = .text kind.tag := by
  cases document with
  | text word =>
    rw [ofDocument, Document.text.injEq, ← ofWord?_eq_some_iff]
    cases ofWord? word <;> simp
  | _ => simp [ofDocument]

/-- Behind the entry for the kind there must not be another. -/
theorem split_some_eq_ok_iff {found kind : CommandKind} {others : List (String × Document)} :
    split some (some found) entries = .ok (kind, others) ↔
      kind = found ∧ others = entries.filter (·.1 != entryName) ∧
        entries.filter (·.1 == entryName) = [] := by
  induction entries generalizing others with
  | nil => simp [split, eq_comm]
  | cons entry rest ih =>
    obtain ⟨key, value⟩ := entry
    rw [split]
    -- a second entry for the kind is refused, and any other is kept
    by_cases isKind : key = entryName
    · simp [isKind]
    · rw [if_neg (by simpa using isKind), bind_eq_ok_iff, List.filter_cons_of_pos
        (by simpa using isKind), List.filter_cons_of_neg (by simpa using isKind)]
      constructor
      · rintro ⟨⟨later, kept⟩, split, same⟩
        cases same
        obtain ⟨rfl, rfl, none⟩ := ih.mp split
        exact ⟨rfl, rfl, none⟩
      · rintro ⟨rfl, rfl, none⟩
        exact ⟨_, ih.mpr ⟨rfl, rfl, none⟩, rfl⟩

/-- Entries split if exactly one of them is for the kind and names one. -/
theorem split_eq_ok_iff {kind : CommandKind} {others : List (String × Document)} :
    split some none entries = .ok (kind, others) ↔
      others = entries.filter (·.1 != entryName) ∧
        entries.filter (·.1 == entryName) = [(entryName, .text kind.tag)] := by
  induction entries generalizing others with
  | nil => simp [split]
  | cons entry rest ih =>
    obtain ⟨key, value⟩ := entry
    rw [split]
    -- the first entry for the kind says what it is; from there on there must be none
    by_cases isKind : key = entryName
    · rw [if_pos (congrArg some isKind), List.filter_cons_of_neg (by simpa using isKind),
        List.filter_cons_of_pos (by simpa using isKind)]
      simp only [bind_eq_ok_iff, split_some_eq_ok_iff, ofDocument_eq_ok_iff,
        List.cons.injEq, Prod.mk.injEq, isKind, true_and]
      constructor
      · rintro ⟨found, named, rfl, rest, none⟩
        exact ⟨rest, named, none⟩
      · rintro ⟨rest, named, none⟩
        exact ⟨kind, named, rfl, rest, none⟩
    · rw [if_neg (by simpa using isKind), bind_eq_ok_iff, List.filter_cons_of_pos
        (by simpa using isKind), List.filter_cons_of_neg (by simpa using isKind)]
      constructor
      · rintro ⟨⟨later, kept⟩, split, same⟩
        cases same
        obtain ⟨rfl, once⟩ := ih.mp split
        exact ⟨rfl, once⟩
      · rintro ⟨rfl, once⟩
        exact ⟨_, ih.mpr ⟨rfl, once⟩, rfl⟩

end CommandKind

/-! ## Commands -/

namespace SchemaCommand

variable {command : SchemaCommand} {kind : CommandKind}

/-- The fields of a command have the names that its kind gives them, in that order. -/
theorem map_fst_fieldValues (command : SchemaCommand) :
    command.fieldValues.map Prod.fst = command.kind.fieldNames := by
  cases command <;> rfl

/-- No field is named like the entry for the kind. -/
theorem entryName_not_mem_fieldNames (kind : CommandKind) :
    CommandKind.entryName ∉ kind.fieldNames := by
  cases kind <;> decide

/-- The kind has no default, so it cannot be left out. -/
theorem kindEntry_not_mem_fieldDefaults (command : SchemaCommand) :
    command.kindEntry ∉ fieldDefaults := by
  simp [kindEntry, fieldDefaults, CommandKind.entryName]

/-- Entries are read by the kind; to list tables they may be anything. -/
theorem ofEntries_eq_ok_iff :
    ofEntries kind entries = .ok command ↔ command.kind = kind ∧
      (command = listTables ∨ Written fieldDefaults command.fieldValues entries) := by
  cases kind with
  | createIndex | dropIndex | createUnique | dropUnique | createFulltext | dropFulltext =>
    rw [ofEntries, Decoded.map_eq_ok_iff]
    cases command <;> simp [SchemaCommand.kind, fieldValues, IndexCommand.ofEntries_eq_ok_iff,
      UniqueCommand.ofEntries_eq_ok_iff, FulltextCommand.ofEntries_eq_ok_iff,
      DropCommand.ofEntries_eq_ok_iff]
  | listTables => cases command <;> simp [ofEntries, SchemaCommand.kind]

/-- So are items, of which listing tables takes none. -/
theorem ofItems_eq_ok_iff :
    ofItems kind items = .ok command ↔
      command.kind = kind ∧ Listed fieldDefaults command.fieldValues items := by
  cases kind with
  | createIndex | dropIndex | createUnique | dropUnique | createFulltext | dropFulltext =>
    rw [ofItems, Decoded.map_eq_ok_iff]
    cases command <;> simp [SchemaCommand.kind, fieldValues, IndexCommand.ofItems_eq_ok_iff,
      UniqueCommand.ofItems_eq_ok_iff, FulltextCommand.ofItems_eq_ok_iff,
      DropCommand.ofItems_eq_ok_iff]
  | listTables =>
    rw [ofItems, Decoded.then_eq_ok_iff, checkSurplus_eq_ok_iff, and_comm]
    cases command <;> simp [SchemaCommand.kind, fieldValues, listed_iff, pure, Except.pure]

/-- The objects that stand for a command have one entry for the kind, and the others are its fields;
to list tables they may be anything. -/
theorem encoded_object_iff :
    Encoded command (.object entries) ↔
      entries.filter (·.1 == CommandKind.entryName) = [command.kindEntry] ∧
        (command = listTables ∨
          Written fieldDefaults command.fieldValues
            (entries.filter (·.1 != CommandKind.entryName))) := by
  -- the entry for the kind is told from the fields by its name
  have apart : CommandKind.entryName ∉ command.fieldValues.map Prod.fst := by
    rw [map_fst_fieldValues]
    exact entryName_not_mem_fieldNames command.kind
  have split : Written fieldDefaults (command.kindEntry :: command.fieldValues) entries ↔ _ :=
    written_cons_iff apart (kindEntry_not_mem_fieldDefaults command)
  constructor
  · intro encoded
    cases encoded with
    | object written => exact (split.mp written).imp_right .inr
    | listTables once => exact ⟨once, .inl rfl⟩
  · rintro ⟨once, rfl | written⟩
    · exact .listTables once
    · exact .object (split.mpr ⟨once, written⟩)

/-- The lists that stand for a command start with the kind. -/
theorem encoded_list_iff :
    Encoded command (.list items) ↔
      ∃ rest, items = .text command.tag :: rest ∧
        Listed fieldDefaults command.fieldValues rest := by
  rw [← listed_cons_iff (kindEntry_not_mem_fieldDefaults command)]
  constructor
  · intro encoded
    cases encoded with
    | list listed => exact listed
  · exact .list

/-- Reading a command accepts the documents that stand for it and no others. -/
theorem ofDocument_eq_ok_iff {document : Document} :
    ofDocument document = .ok command ↔ Encoded command document := by
  cases document with
  | object entries =>
    rw [encoded_object_iff, ofDocument, bind_eq_ok_iff]
    simp only [Prod.exists, CommandKind.split_eq_ok_iff, ofEntries_eq_ok_iff]
    constructor
    · rintro ⟨kind, others, ⟨rfl, once⟩, rfl, fields⟩
      exact ⟨once, fields⟩
    · rintro ⟨once, fields⟩
      exact ⟨command.kind, _, ⟨rfl, once⟩, rfl, fields⟩
  | list items =>
    rw [encoded_list_iff]
    cases items with
    | nil => simp [ofDocument]
    | cons first rest =>
      rw [ofDocument, bind_eq_ok_iff]
      simp only [CommandKind.ofDocument_eq_ok_iff, ofItems_eq_ok_iff, List.cons.injEq]
      constructor
      · rintro ⟨kind, rfl, rfl, listed⟩
        exact ⟨rest, ⟨rfl, rfl⟩, listed⟩
      · rintro ⟨_, ⟨rfl, rfl⟩, listed⟩
        exact ⟨command.kind, rfl, rfl, listed⟩
  | null | bool | int | float | text =>
    constructor
    · intro accepted
      cases accepted
    · intro encoded
      cases encoded

/-- The fields that cannot be left out. -/
theorem mem_entries_of_needed (written : Written fieldDefaults command.fieldValues entries)
    {field : String × Document} (isField : field ∈ command.fieldValues)
    (needed : field.1 = "name" ∨ field.1 = "columns") : field ∈ entries := by
  refine (written.complete field isField).resolve_right fun atDefault => ?_
  have named := List.mem_map_of_mem (f := Prod.fst) atDefault
  rcases needed with same | same <;> simp [same, fieldDefaults] at named

/-! ## The result -/

/-- Documents and commands say the same of each other.  A document is read as a command if and only
if it stands for it; the word for the kind is the one by which the kind is known; and so no object
with a key that is no field of its kind, without a name or columns, or with a value of another type
is read as a command that has fields, and no list with more items than there are fields. -/
theorem reading_accepts_encodings :
    (∀ kind : CommandKind, kind.word = kind.tag) ∧
    (∀ document command, ofDocument document = .ok command ↔ Encoded command document) ∧
    (∀ entries command, ofDocument (.object entries) = .ok command → command ≠ listTables →
      (∀ entry ∈ entries, entry.1 ∈ CommandKind.entryName :: command.kind.fieldNames ∧
        entry ∈ command.kindEntry :: command.fieldValues) ∧
      ∀ field ∈ command.fieldValues, field.1 = "name" ∨ field.1 = "columns" → field ∈ entries) ∧
    ∀ items command, ofDocument (.list items) = .ok command →
      items.length ≤ command.kind.fieldNames.length + 1 := by
  refine ⟨CommandKind.word_eq_tag, fun document command => ofDocument_eq_ok_iff, ?_, ?_⟩
  · intro entries command accepted notListTables
    have encoded := ofDocument_eq_ok_iff.mp accepted
    cases encoded with
    | listTables => exact absurd rfl notListTables
    | object written =>
      refine ⟨fun entry member => ⟨?_, written.sound entry member⟩, fun field isField needed => ?_⟩
      · rw [← map_fst_fieldValues, ← show command.kindEntry.1 = CommandKind.entryName from rfl,
          ← List.map_cons]
        exact List.mem_map_of_mem (written.sound entry member)
      · obtain ⟨-, isListTables | fields⟩ := encoded_object_iff.mp (.object written)
        · exact absurd isListTables notListTables
        · exact List.mem_of_mem_filter (mem_entries_of_needed fields isField needed)
  · intro items command accepted
    obtain ⟨rest, rfl, kept, omitted, all, rfl, -⟩ :=
      encoded_list_iff.mp (ofDocument_eq_ok_iff.mp accepted)
    -- the items are the kind and one for each field that is not left out
    have sizes := congrArg List.length (map_fst_fieldValues command)
    rw [all, List.map_append, List.length_append, List.length_map, List.length_map] at sizes
    rw [List.length_cons, List.length_map]
    omega

/-- A constraint whose columns come first, with one of its three further fields. -/
def mixedEntries : List (String × Document) :=
  [("columns", .list [.text "day"]), ("deferrable", .null),
    ("kind", .text "create_unique_constraint"),
    ("name", .text "key")]

/-- The fields may stand in any order around the kind, with null for one that is absent. -/
theorem reading_accepts_mixedEntries :
    ofDocument (.object mixedEntries) = .ok (.createUnique { name := "key", columns := ["day"] }) ∧
      ("name", .text "key") ∈ mixedEntries ∧
      [Document.text "drop_index", .text "key"].length ≤ 2 := by
  obtain ⟨-, accepts, sound, short⟩ := reading_accepts_encodings
  have accepted : ofDocument (.object mixedEntries) =
      .ok (.createUnique { name := "key", columns := ["day"] }) := by
    refine (accepts _ _).mpr (.object ⟨by decide, ?_, ?_⟩)
    · simp [mixedEntries, kindEntry, fieldValues, UniqueCommand.fieldValues, ofTexts, ofOptional,
        CommandKind.entryName, tag, SchemaCommand.kind, CommandKind.tag]
    · simp [mixedEntries, kindEntry, fieldValues, UniqueCommand.fieldValues, ofTexts, ofOptional,
        CommandKind.entryName, tag, SchemaCommand.kind, CommandKind.tag, fieldDefaults]
  have hasFields : createUnique { name := "key", columns := ["day"] } ≠ listTables := by simp
  refine ⟨accepted, (sound _ _ accepted hasFields).2 _ List.mem_cons_self (.inl rfl), ?_⟩
  exact short _ (.dropIndex ⟨"key"⟩) rfl

end SchemaCommand

end ClusterSchema
