import ClusterSchema.Config.Encoding
import ClusterSchema.Proofs.Document.Repeated
import Mathlib.Data.List.Perm.Basic
import Mathlib.Data.Set.List

/-!
# Which objects are connection configs

Reading a config accepts the objects that stand for it (`ConnectionConfig.Encoded`) and no others.
The names of the own fields tell the entries of an object apart: those for fields are read as a
record, and all others make up the options.  A field may stand there once, and an option again and
again, with its last entry as the one that counts.

* `HostList.ofDocument_eq_ok_iff`  the documents that name hosts
* `options_eq_ok_iff`              the entries that make up options
* `ofEntries_eq_ok_iff`            the two parts of an object
* `encoded_iff`                    encodings, taken apart in the same way
* `ofEntries_eq_ok_iff_encoded`    an object is read as what its latest entries stand for
* `reading_loses_nothing`          what is read of an object, and what is refused
* `repeated_option_replaced`       an option that stands there twice
-/

namespace ClusterSchema

open Document Record
open scoped List

/-! ## Values -/

/-- Hosts are read from the documents that name them: a text, or a list of texts that is not empty.
-/
theorem HostList.ofDocument_eq_ok_iff {document : Document} {list : HostList} :
    ofDocument document = .ok list ↔ list.Encoded document := by
  constructor
  · intro read
    cases document with
    | text host =>
      cases read
      exact .single host
    | list items =>
      -- every item has to be a text, and there has to be one
      cases texts : items.mapM asText with
      | error error => simp [ofDocument, texts] at read
      | ok hosts =>
        cases made : ofList? hosts with
        | none => simp [ofDocument, texts, made] at read
        | some found =>
          simp only [ofDocument, texts, made, Except.ok.injEq] at read
          subst read
          rw [(mapM_eq_ok_iff reads_text items hosts).mp texts, ← ofList?_eq_some_iff.mp made]
          exact .list found
    | _ => cases read
  · intro encoded
    cases encoded with
    | list =>
      have texts := (mapM_eq_ok_iff reads_text _ list.hosts).mpr rfl
      have made : ofList? list.hosts = some list := ofList?_eq_some_iff.mpr rfl
      simp only [ofDocument, ofTexts, texts, made]
    | single host => rfl

/-- A host list has a first host. -/
theorem HostList.head?_hosts (list : HostList) : list.hosts.head? = some list.first :=
  List.head?_eq_some_head list.nonempty

/-- A document for hosts names the first host first. -/
theorem HostList.Encoded.names_first {list : HostList} {document : Document}
    (encoded : list.Encoded document) :
    document = .text list.first ∨ ∃ items, document = .list items ∧
      items = list.hosts.map .text ∧ items.head? = some (.text list.first) := by
  cases encoded with
  | list =>
    refine .inr ⟨_, rfl, rfl, ?_⟩
    rw [List.head?_map, head?_hosts]
    rfl
  | single host => exact .inl rfl

/-- A port is read from a number of sixteen bits and from nothing else. -/
theorem Document.reads_port : Reads asPort ofPort := by
  intro document port
  cases document with
  | int n =>
    rw [asPort, ofPort, Document.int.injEq]
    split
    · rename_i inside
      rw [Except.ok.injEq, ← UInt16.toNat_inj, UInt16.toNat_ofNat']
      simp only [Text.Numeral.limit16] at inside
      omega
    · rename_i outside
      have small := port.toNat_lt
      simp only [Text.Numeral.limit16] at outside
      simp only [reduceCtorEq, false_iff]
      omega
  | _ => simp [asPort, ofPort]

/-- A port that may be absent is read from such a number or from null. -/
theorem Document.reads_optionalPort : Reads (optional asPort) (ofOptional ofPort) :=
  reads_port.optional fun _ => nofun

/-- Only an absent port is written as null. -/
@[simp] theorem Document.ofOptional_port_eq_null_iff {port : Option UInt16} :
    ofOptional ofPort port = null ↔ port = none := by
  cases port <;> simp [ofOptional, ofPort]

namespace ConnectionConfig

variable {entries : List (String × Document)} {config : ConnectionConfig}

/-! ## Options -/

/-- An option can be read off its entry. -/
theorem optionEntry_injective :
    Function.Injective fun option : String × String => (option.1, Document.text option.2) := by
  rintro ⟨name, value⟩ ⟨other, found⟩ same
  simpa using same

/-- Options are read from texts, and each joins those before it. -/
theorem options_eq_ok_iff_texts {found extra : NameMap String} :
    options documentReaders entries found = .ok extra ↔
      ∃ texts : List (String × String), entries = texts.map (fun text => (text.1, .text text.2)) ∧
        texts.foldl (fun map text => map.insert text.1 text.2) found = extra := by
  induction entries generalizing found with
  | nil => simp [options]
  | cons entry rest ih =>
    obtain ⟨name, document⟩ := entry
    rw [options, bind_eq_ok_iff]
    constructor
    -- an entry that is read is a text, and so are all behind it
    · rintro ⟨value, isText, later⟩
      obtain ⟨texts, rfl, made⟩ := ih.mp later
      rw [(reads_text document value).mp isText]
      exact ⟨(name, value) :: texts, rfl, made⟩
    · rintro ⟨texts, all, made⟩
      cases texts with
      | nil => cases all
      | cons text later =>
        rw [List.map_cons, List.cons.injEq, Prod.mk.injEq] at all
        obtain ⟨⟨rfl, rfl⟩, rfl⟩ := all
        exact ⟨text.2, rfl, ih.mpr ⟨later, rfl, made⟩⟩

/-- Entries with different names make up the options that they spell. -/
theorem options_eq_ok_iff (distinct : (entries.map Prod.fst).Nodup) {extra : NameMap String} :
    options documentReaders entries NameMap.empty = .ok extra ↔
      entries ~ extra.entries.map fun option => (option.1, .text option.2) := by
  rw [options_eq_ok_iff_texts]
  constructor
  · rintro ⟨texts, rfl, made⟩
    rw [List.map_map] at distinct
    exact ((NameMap.ofList_eq_iff distinct).mp made).map _
  · intro perm
    -- the entries spell the options in another order
    have spelled : Relation.Comp (· = List.map (fun option => (option.1, .text option.2)) ·) (· ~ ·)
        entries extra.entries := by
      rw [List.eq_map_comp_perm]
      exact perm
    obtain ⟨texts, rfl, same⟩ := spelled
    rw [List.map_map] at distinct
    exact ⟨texts, rfl, (NameMap.ofList_eq_iff distinct).mpr same⟩

/-! ## Fields -/

/-- The own fields of a config are written in entries if a visit accepts them and each is found. -/
theorem written_fieldValues_iff {hosts : Document} (encoded : config.host.Encoded hosts) :
    Written fieldDefaults (config.fieldValues hosts) entries ↔
      visit (fields documentReaders) [] entries = .ok () ∧
        ("host", hosts) ∈ entries ∧
        (("port", ofOptional ofPort config.port) ∈ entries ∨
          "port" ∉ entries.map Prod.fst ∧ config.port = none) ∧
        ("database", .text config.database) ∈ entries ∧
        (("username", ofOptional .text config.username) ∈ entries ∨
          "username" ∉ entries.map Prod.fst ∧ config.username = none) ∧
        (("password", ofOptional .text config.password) ∈ entries ∨
          "password" ∉ entries.map Prod.fst ∧ config.password = none) ∧
        (("prefix", .text config.tablePrefix) ∈ entries ∨
          "prefix" ∉ entries.map Prod.fst ∧ config.tablePrefix = "") := by
  rw [written_iff (fields documentReaders) (by simp [fieldValues]) rfl]
  · simp [fieldValues, fieldDefaults]
  -- each field can be read as what is written for it
  · have readable := HostList.ofDocument_eq_ok_iff.mpr encoded
    simp [fieldValues, fields, field, documentReaders, readable, reads_text.apply,
      reads_optionalText.apply, reads_optionalPort.apply, Except.map]

/-- An object is read in two parts. -/
theorem ofEntries_eq_ok_iff :
    ofEntries documentReaders entries = .ok config ↔
      (∃ hosts, config.host.Encoded hosts ∧ Written fieldDefaults (config.fieldValues hosts)
        (entries.filter fun entry => fieldNames.contains entry.1)) ∧
      options documentReaders (entries.filter fun entry => !fieldNames.contains entry.1)
        NameMap.empty = .ok config.extra := by
  rw [ofEntries, Decoded.then_eq_ok_iff]
  constructor
  · rintro ⟨visited, read⟩
    -- the visit has seen to it that no field is there twice
    have distinct := (visit_eq_ok_iff.mp visited).1
    simp only [bind_eq_ok_iff, documentReaders, required_eq_ok_iff reads_text distinct,
      defaulted_eq_ok_iff reads_optionalPort distinct, defaulted_eq_ok_iff reads_text distinct,
      defaulted_eq_ok_iff reads_optionalText distinct] at read
    obtain ⟨host, isHost, port, hasPort, database, hasDatabase, username, hasUsername, password,
      hasPassword, tablePrefix, hasPrefix, extra, isExtra, made⟩ := read
    cases made
    obtain ⟨hosts, hasHosts, isHost⟩ := (required_eq_ok_iff_exists distinct).mp isHost
    have encoded := HostList.ofDocument_eq_ok_iff.mp isHost
    exact ⟨⟨hosts, encoded, (written_fieldValues_iff encoded).mpr
      ⟨visited, hasHosts, hasPort, hasDatabase, hasUsername, hasPassword, hasPrefix⟩⟩, isExtra⟩
  · rintro ⟨⟨hosts, encoded, written⟩, isExtra⟩
    have distinct := written.distinct
    obtain ⟨visited, hasHosts, hasPort, hasDatabase, hasUsername, hasPassword, hasPrefix⟩ :=
      (written_fieldValues_iff encoded).mp written
    refine ⟨visited, ?_⟩
    simp only [bind_eq_ok_iff, documentReaders, required_eq_ok_iff reads_text distinct,
      defaulted_eq_ok_iff reads_optionalPort distinct, defaulted_eq_ok_iff reads_text distinct,
      defaulted_eq_ok_iff reads_optionalText distinct]
    exact ⟨config.host, (required_eq_ok_iff_exists distinct).mpr
      ⟨hosts, hasHosts, HostList.ofDocument_eq_ok_iff.mpr encoded⟩, _, hasPort, _, hasDatabase, _,
      hasUsername, _, hasPassword, _, hasPrefix, _, isExtra, rfl⟩

/-- Encodings in the same two parts. -/
theorem encoded_iff (distinct : (entries.map Prod.fst).Nodup) :
    config.Encoded entries ↔
      (∃ hosts, config.host.Encoded hosts ∧ Written fieldDefaults (config.fieldValues hosts)
        (entries.filter fun entry => fieldNames.contains entry.1)) ∧
      options documentReaders (entries.filter fun entry => !fieldNames.contains entry.1)
        NameMap.empty = .ok config.extra := by
  rw [options_eq_ok_iff (distinct.sublist (List.filter_sublist.map _))]
  have isOwn : ∀ hosts, ∀ field ∈ config.fieldValues hosts, fieldNames.contains field.1 = true := by
    intro hosts
    simp [fieldValues, fieldNames]
  -- no two options have one name
  have names : (config.optionValues.map Prod.fst).Nodup := by
    rw [optionValues, List.map_map]
    exact config.extra.nodup_keys
  -- options that are not named like own fields are written apart from these, and none is left out
  have split : (∀ option ∈ config.extra.entries, option.1 ∉ fieldNames) → ∀ hosts,
      (Written fieldDefaults (config.fieldValues hosts ++ config.optionValues) entries ↔
        Written fieldDefaults (config.fieldValues hosts)
          (entries.filter fun entry => fieldNames.contains entry.1) ∧
        (entries.filter fun entry => !fieldNames.contains entry.1) ~ config.optionValues) := by
    intro apart hosts
    have foreign : ∀ field ∈ config.optionValues, fieldNames.contains field.1 = false := by
      intro field isOption
      obtain ⟨option, member, rfl⟩ := List.mem_map.mp isOption
      simpa using apart option member
    rw [written_append_iff fieldNames.contains (isOwn hosts) foreign, written_iff_perm names]
    intro field isOption atDefault
    have named : fieldNames.contains field.1 = true := by
      have all : ∀ default ∈ fieldDefaults, fieldNames.contains default.1 = true := by decide
      exact all field atDefault
    rw [foreign field isOption] at named
    cases named
  constructor
  · rintro ⟨apart, hosts, encoded, written⟩
    obtain ⟨own, others⟩ := (split apart hosts).mp written
    exact ⟨⟨hosts, encoded, own⟩, others⟩
  · rintro ⟨⟨hosts, encoded, own⟩, others⟩
    have apart : ∀ option ∈ config.extra.entries, option.1 ∉ fieldNames := by
      intro option member
      have entry := others.mem_iff.mpr (List.mem_map_of_mem member)
      simpa using (List.mem_filter.mp entry).2
    exact ⟨apart, hosts, encoded, (split apart hosts).mpr ⟨own, others⟩⟩

/-! ## What is accepted and what is not -/

/-- An entry that is named like a field is one of the own entries. -/
theorem mem_own {entry : String × Document} (member : entry ∈ entries)
    (named : entry.1 ∈ fieldNames) :
    entry ∈ entries.filter fun entry => fieldNames.contains entry.1 :=
  List.mem_filter.mpr ⟨member, by simpa using named⟩

/-- An object that is accepted names its hosts. -/
theorem exists_hosts (accepted : ofDocument (.object entries) = .ok config) :
    ∃ hosts, config.host.Encoded hosts ∧ ("host", hosts) ∈ entries ∧
      ∀ own, ("host", own) ∈ entries → own = hosts := by
  obtain ⟨⟨hosts, encoded, written⟩, -⟩ := ofEntries_eq_ok_iff.mp accepted
  obtain ⟨-, hasHosts, -⟩ := (written_fieldValues_iff encoded).mp written
  refine ⟨hosts, encoded, List.mem_of_mem_filter hasHosts, fun own member => ?_⟩
  simpa [fieldValues] using written.sound _ (mem_own member (by simp [fieldNames]))

/-- No object that is accepted has a field twice. -/
theorem nodup_own (accepted : ofDocument (.object entries) = .ok config) :
    ((entries.filter fun entry => fieldNames.contains entry.1).map Prod.fst).Nodup := by
  obtain ⟨⟨hosts, -, written⟩, -⟩ := ofEntries_eq_ok_iff.mp accepted
  exact written.distinct

/-- The port of an object that is accepted is none or fits 16 bits. -/
theorem port_of_mem (accepted : ofDocument (.object entries) = .ok config) {port : Int}
    (member : ("port", .int port) ∈ entries) : 0 ≤ port ∧ port ≤ 65535 := by
  obtain ⟨⟨hosts, -, written⟩, -⟩ := ofEntries_eq_ok_iff.mp accepted
  -- the entry is that of the config's own port
  have isPort : Document.int port = ofOptional ofPort config.port := by
    simpa [fieldValues] using written.sound _ (mem_own member (by simp [fieldNames]))
  cases given : config.port with
  | none => simp [given, ofOptional] at isPort
  | some number =>
    have small := number.toNat_lt
    simp only [given, ofOptional, ofPort, Document.int.injEq] at isPort
    omega

/-- Every entry of an object that is accepted is a field or has a text. -/
theorem text_of_mem (accepted : ofDocument (.object entries) = .ok config)
    {entry : String × Document} (member : entry ∈ entries) (foreign : entry.1 ∉ fieldNames) :
    ∃ value, entry.2 = .text value := by
  obtain ⟨-, isExtra⟩ := ofEntries_eq_ok_iff.mp accepted
  obtain ⟨texts, all, -⟩ := options_eq_ok_iff_texts.mp isExtra
  have other : entry ∈ entries.filter fun entry => !fieldNames.contains entry.1 :=
    List.mem_filter.mpr ⟨member, by simpa using foreign⟩
  rw [all] at other
  obtain ⟨text, -, rfl⟩ := List.mem_map.mp other
  exact ⟨text.2, rfl⟩

/-- Options are read the same from the entries that are left when replaced ones are taken out, as
long as those are texts too. -/
theorem options_latest_iff {extra : NameMap String} :
    options documentReaders entries NameMap.empty = .ok extra ↔
      (∀ entry ∈ entries, ∃ value, entry.2 = .text value) ∧
        options documentReaders (latest entries) NameMap.empty = .ok extra := by
  rw [options_eq_ok_iff_texts, options_eq_ok_iff_texts]
  constructor
  · rintro ⟨texts, rfl, made⟩
    refine ⟨fun entry member => ?_, latest texts, latest_map Document.text texts, ?_⟩
    · obtain ⟨text, -, rfl⟩ := List.mem_map.mp member
      exact ⟨text.2, rfl⟩
    · rwa [NameMap.foldl_insert_latest]
  · rintro ⟨allTexts, left, isLeft, made⟩
    have spelled : entries ∈ Set.range
        (List.map fun option : String × String => (option.1, Document.text option.2)) := by
      rw [Set.range_list_map]
      intro entry member
      obtain ⟨value, isText⟩ := allTexts entry member
      exact ⟨(entry.1, value), Prod.ext rfl isText.symm⟩
    obtain ⟨texts, rfl⟩ := spelled
    -- what is left of the entries spells what is left of the texts
    rw [latest_map Document.text] at isLeft
    have same : latest texts = left := List.map_injective_iff.mpr optionEntry_injective isLeft
    rw [← same, NameMap.foldl_insert_latest] at made
    exact ⟨texts, rfl, made⟩

/-- An object is read as the config that its latest entries stand for, as long as no field is
repeated and all options are texts. -/
theorem ofEntries_eq_ok_iff_encoded :
    ofEntries documentReaders entries = .ok config ↔
      ((entries.filter fun entry => fieldNames.contains entry.1).map Prod.fst).Nodup ∧
        (∀ entry ∈ entries, entry.1 ∉ fieldNames → ∃ value, entry.2 = .text value) ∧
        config.Encoded (latest entries) := by
  have foreignTexts :
      (∀ entry ∈ entries.filter fun entry => !fieldNames.contains entry.1,
        ∃ value, entry.2 = .text value) ↔
      ∀ entry ∈ entries, entry.1 ∉ fieldNames → ∃ value, entry.2 = .text value := by
    simp only [List.mem_filter, and_imp, Bool.not_eq_true', List.contains_eq_mem,
      decide_eq_false_iff_not]
  -- both sides are taken apart into own fields and options, and only options may repeat
  rw [encoded_iff (nodup_latest entries), ofEntries_eq_ok_iff, options_latest_iff, foreignTexts,
    filter_latest (fun name => fieldNames.contains name),
    filter_latest (fun name => !fieldNames.contains name)]
  constructor
  · rintro ⟨⟨hosts, encoded, written⟩, texts, isExtra⟩
    have distinct := written.distinct
    refine ⟨distinct, texts, ⟨hosts, encoded, ?_⟩, isExtra⟩
    rwa [latest_of_nodup distinct]
  · rintro ⟨distinct, texts, ⟨hosts, encoded, written⟩, isExtra⟩
    rw [latest_of_nodup distinct] at written
    exact ⟨⟨hosts, encoded, written⟩, texts, isExtra⟩

/-- The value of an option is the text in the last entry of its name. -/
theorem get?_extra_eq_some_iff (accepted : ofDocument (.object entries) = .ok config)
    {name value : String} :
    config.extra.get? name = some value ↔
      name ∉ fieldNames ∧ (name, .text value) ∈ latest entries := by
  obtain ⟨-, isExtra⟩ := ofEntries_eq_ok_iff.mp accepted
  have others := (options_eq_ok_iff (nodup_latest _)).mp (options_latest_iff.mp isExtra).2
  rw [NameMap.get?_eq_some_iff, ← List.mem_map_of_injective optionEntry_injective,
    ← others.mem_iff, ← filter_latest (fun name => !fieldNames.contains name), List.mem_filter,
    and_comm]
  simp

/-! ## The result -/

/-- Reading a config loses nothing but options that a later entry of their name replaces.  An object
is read as a config if and only if it repeats no field, has texts for all its options and, without
those that are replaced, stands for the config; so an object whose names all differ is read if and
only if it stands for it.  Every entry that is no field is an option, with the text of the last
entry of its name, and there are no others.  A field that is given twice, an empty list of hosts, a
port that does not fit and an option that is no text are refused.  And however a host list is made,
it has a first host, which is the first that was given. -/
theorem reading_loses_nothing :
    (∀ entries config, ofDocument (.object entries) = .ok config ↔
      ((entries.filter fun entry => fieldNames.contains entry.1).map Prod.fst).Nodup ∧
        (∀ entry ∈ entries, entry.1 ∉ fieldNames → ∃ value, entry.2 = .text value) ∧
        Encoded config (latest entries)) ∧
    (∀ entries config, (entries.map Prod.fst).Nodup →
      (ofDocument (.object entries) = .ok config ↔ Encoded config entries)) ∧
    (∀ entries config, ofDocument (.object entries) = .ok config →
      (∀ name value, config.extra.get? name = some value ↔ name ∉ fieldNames ∧
        ∃ before after, entries = before ++ (name, .text value) :: after ∧
          name ∉ after.map Prod.fst) ∧
      ∀ entry ∈ entries, entry.1 ∉ fieldNames →
        ∃ value, config.extra.get? entry.1 = some value) ∧
    (∀ entries,
        ¬ ((entries.filter fun entry => fieldNames.contains entry.1).map Prod.fst).Nodup ∨
        ("host", .list []) ∈ entries ∨
        (∃ port, ("port", .int port) ∈ entries ∧ (port < 0 ∨ 65535 < port)) ∨
        (∃ entry ∈ entries, entry.1 ∉ fieldNames ∧ ∀ value, entry.2 ≠ .text value) →
      ∃ error, ofDocument (.object entries) = .error error) ∧
    (∀ document config, ofDocument document = .ok config →
      ∃ entries, document = .object entries ∧
        (("host", .text config.host.first) ∈ entries ∨
          ∃ items, ("host", .list items) ∈ entries ∧ items = config.host.hosts.map .text ∧
            items.head? = some (.text config.host.first))) ∧
    (∀ hosts, (HostList.ofList? hosts = none ↔ hosts = []) ∧
      ∀ list, HostList.ofList? hosts = some list → list.hosts = hosts ∧
        hosts.head? = some list.first) ∧
    ∀ (config : ConnectionConfig) host,
      (HostList.single host).first = host ∧ (config.withHost host).host.first = host := by
  refine ⟨fun entries config => ofEntries_eq_ok_iff_encoded, fun entries config distinct => ?_,
    fun entries config accepted => ⟨fun name value => ?_, fun entry member foreign => ?_⟩,
    ?_, ?_, ?_, ?_⟩
  · rw [encoded_iff distinct, ← ofEntries_eq_ok_iff]
    rfl
  · rw [get?_extra_eq_some_iff accepted, mem_latest_iff]
  · -- the last entry of the name has a text, as every option does
    obtain ⟨last, isLast, same⟩ :=
      List.mem_map.mp (mem_keys_latest.mpr (List.mem_map_of_mem member))
    rw [← same] at foreign ⊢
    obtain ⟨value, isText⟩ := text_of_mem accepted (latest_subset isLast) foreign
    exact ⟨value, (get?_extra_eq_some_iff accepted).mpr ⟨foreign, isText ▸ isLast⟩⟩
  · intro entries wrong
    cases outcome : ofDocument (.object entries) with
    | error error => exact ⟨error, rfl⟩
    | ok config =>
      -- each of the four faults contradicts what an accepted object has
      rcases wrong with twice | empty | ⟨port, given, tooFar⟩ | ⟨entry, member, foreign, noText⟩
      · exact absurd (nodup_own outcome) twice
      · obtain ⟨hosts, encoded, -, only⟩ := exists_hosts outcome
        rw [← only _ empty] at encoded
        rcases encoded.names_first with isText | ⟨items, isList, -, first⟩
        · cases isText
        · cases isList
          cases first
      · have fits := port_of_mem outcome given
        omega
      · obtain ⟨value, isText⟩ := text_of_mem outcome member foreign
        exact absurd isText (noText value)
  · intro document config accepted
    cases document with
    | object entries =>
      obtain ⟨hosts, encoded, hasHosts, -⟩ := exists_hosts accepted
      rcases encoded.names_first with rfl | ⟨items, rfl, named, first⟩
      · exact ⟨entries, rfl, .inl hasHosts⟩
      · exact ⟨entries, rfl, .inr ⟨items, hasHosts, named, first⟩⟩
    | _ => cases accepted
  · intro hosts
    refine ⟨HostList.ofList?_eq_none_iff, fun list made => ?_⟩
    have same := HostList.ofList?_eq_some_iff.mp made
    exact ⟨same, same ▸ list.head?_hosts⟩
  · exact fun config host => ⟨rfl, rfl⟩

/-- A config with one host, the greatest port and one option. -/
def oneHost : ConnectionConfig where
  host := .single "n1"
  port := some 65535
  database := "app"
  extra := NameMap.empty.insert "application_name" "migrator"

/-- The config as an object: the host stands by itself, one absent field is null and the others are
left out. -/
def oneHostEntries : List (String × Document) :=
  [("application_name", .text "migrator"), ("database", .text "app"), ("host", .text "n1"),
    ("password", .null), ("port", .int 65535)]

/-- An object with its entries in another order is read as the config, and with an empty list of
hosts in front it is refused. -/
theorem reading_loses_nothing_oneHost :
    ofDocument (.object oneHostEntries) = .ok oneHost ∧
      oneHost.extra.get? "application_name" = some "migrator" ∧
      oneHost.extra.get? "host" = none ∧
      ∃ error, ofDocument (.object (("host", .list []) :: oneHostEntries)) = .error error := by
  obtain ⟨-, accepts, keeps, refuses, -⟩ := reading_loses_nothing
  have distinct : (oneHostEntries.map Prod.fst).Nodup := by decide
  have options : oneHost.extra.entries = [("application_name", "migrator")] := rfl
  have fields : oneHost.fieldValues (.text "n1") ++ oneHost.optionValues =
    [("host", .text "n1"), ("port", .int 65535), ("database", .text "app"), ("username", .null),
      ("password", .null), ("prefix", .text ""), ("application_name", .text "migrator")] := rfl
  have accepted : ofDocument (.object oneHostEntries) = .ok oneHost := by
    refine (accepts _ _ distinct).mpr ⟨?_, .text "n1", .single "n1", distinct, ?_, ?_⟩
    · simp [options, fieldNames]
    · rw [fields]
      simp [oneHostEntries]
    · rw [fields]
      simp [oneHostEntries, fieldDefaults]
  have extra := (keeps _ _ accepted).1
  refine ⟨accepted, (extra _ _).mpr ⟨by decide, [], _, rfl, by decide⟩, ?_,
    refuses _ (.inr (.inl List.mem_cons_self))⟩
  rw [Option.eq_none_iff_forall_ne_some]
  exact fun value given => ((extra _ _).mp given).1 (by decide)

/-- An object with an option twice. -/
def repeatedEntries : List (String × Document) :=
  [("host", .text "a"), ("database", .text "d"), ("x", .text "1"), ("x", .text "2")]

/-- An option that stands in an object twice is read with the later value only, and the object
stands for no config. -/
theorem repeated_option_replaced :
    (∃ config, ofDocument (.object repeatedEntries) = .ok config ∧
      config.extra.entries = [("x", "2")]) ∧
      ("x", .text "1") ∈ repeatedEntries ∧ ∀ config, ¬ Encoded config repeatedEntries := by
  refine ⟨⟨_, rfl, rfl⟩, by simp [repeatedEntries], ?_⟩
  rintro config ⟨-, hosts, -, written⟩
  exact absurd written.distinct (by decide)

end ConnectionConfig

end ClusterSchema
