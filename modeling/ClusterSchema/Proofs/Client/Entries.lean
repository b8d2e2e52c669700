import ClusterSchema.Client.Settings
import ClusterSchema.Proofs.Text.Numerals

/-!
# Host entries and what they are taken for

An entry writes a host, alone or in brackets, with or without a port behind a colon (`Written`).
Taking an entry apart undoes the writing, as long as the host has no colons of its own or stands in
brackets, and an entry that writes no port is left as it is.  There is one exception: what follows a
closing bracket and is no port is dropped (`HasRemnant`), so that the address is dialed on a port
that the entry does not name.

* `exists_form`          the forms of entries, by first character, brackets and colons
* `ofText_closed`, `ofText_oneColon`, …  what an entry of each form is taken for
* `ofText_joined`        taking apart undoes the writing
* `written_ofText_iff`   when nothing of an entry is lost
-/

namespace ClusterSchema.Client.HostEntry

open Text

variable {entry host address suffix : String} {port : UInt16}

/-! ## Ports -/

/-- A text is a numeral for a port. -/
def SpellsPort (text : String) (port : UInt16) : Prop := Numeral.Writes text.toList port.toNat

/-- A text is read as a port if and only if it is a numeral for it. The number fits, so it is the
port's own. -/
theorem port?_eq_some_iff {text : String} :
    port? text.toList = some port ↔ SpellsPort text port := by
  have bounded : port.toNat < Numeral.limit16 := port.toNat_lt
  rw [port?, SpellsPort, Option.map_eq_some_iff]
  constructor
  · rintro ⟨number, read, rfl⟩
    obtain ⟨writes, below⟩ := Numeral.read?_eq_some_iff.mp read
    -- the number is below the limit, so it survives as sixteen bits
    have same : (UInt16.ofNat number).toNat = number := UInt16.toNat_ofNat_of_lt' below
    rwa [same]
  · intro writes
    exact ⟨port.toNat, Numeral.read?_eq_some_iff.mpr ⟨writes, bounded⟩, UInt16.ofNat_toNat⟩

/-- A text that is a numeral for no port is read as none. -/
theorem port?_eq_none_iff {text : String} :
    port? text.toList = none ↔ ∀ port, ¬ SpellsPort text port := by
  rw [Option.eq_none_iff_forall_ne_some]
  exact forall_congr' fun port => not_congr port?_eq_some_iff

/-- A port in decimal. -/
def decimal (port : UInt16) : String := String.ofList (Numeral.write port.toNat)

/-- The digits of a port are a numeral for it. -/
theorem spellsPort_decimal (port : UInt16) : SpellsPort (decimal port) port := by
  rw [SpellsPort, decimal, String.toList_ofList]
  exact Numeral.writes_write _

/-- A numeral has no colon in it. -/
theorem SpellsPort.colon_not_mem {text : String} (spells : SpellsPort text port) :
    ':' ∉ text.toList := by
  obtain ⟨digits, shape, -, all, -⟩ := spells
  have noColon : ':' ∉ digits := fun member => absurd (all ':' member) (by decide)
  rcases shape with same | same
  · rwa [same]
  · simp [same, noColon]

/-- Behind a colon a port is looked for as anywhere else. -/
theorem portAfterBracket?_colon (text : String) :
    portAfterBracket? (":" ++ text).toList = port? text.toList := by
  simp [portAfterBracket?]

/-- A bracket is followed by a port if and only if a colon and a numeral follow it, and nothing
else. -/
theorem portAfterBracket?_eq_some_iff :
    portAfterBracket? suffix.toList = some port ↔
      ∃ numeral, suffix = ":" ++ numeral ∧ SpellsPort numeral port := by
  constructor
  · intro found
    unfold portAfterBracket? at found
    split at found
    · rename_i text shape
      refine ⟨String.ofList text, String.ext (by simp [shape]), ?_⟩
      rw [← port?_eq_some_iff, String.toList_ofList]
      exact found
    · cases found
  · rintro ⟨numeral, rfl, spells⟩
    rw [portAfterBracket?_colon, port?_eq_some_iff.mpr spells]

/-- Anything else that follows a bracket is no port. -/
theorem portAfterBracket?_eq_none_iff :
    portAfterBracket? suffix.toList = none ↔
      ∀ numeral port, SpellsPort numeral port → suffix ≠ ":" ++ numeral := by
  rw [Option.eq_none_iff_forall_ne_some]
  constructor
  · intro absent numeral port spells same
    exact absent port (portAfterBracket?_eq_some_iff.mpr ⟨numeral, same, spells⟩)
  · intro absent port found
    obtain ⟨numeral, same, spells⟩ := portAfterBracket?_eq_some_iff.mp found
    exact absent numeral port spells same

/-! ## Forms of entries -/

/-- An entry that starts with neither a slash nor a bracket. -/
def Plain (entry : String) : Prop :=
  entry.toList.head? ≠ some '/' ∧ entry.toList.head? ≠ some '['

instance (entry : String) : Decidable (Plain entry) := inferInstanceAs (Decidable (_ ∧ _))

/-- The forms of entries. -/
inductive Form : String → Prop where
  | path {entry : String} (slash : entry.toList.head? = some '/') : Form entry
  /-- The address ends at the first closing bracket. -/
  | closed (address suffix : String) (inside : ']' ∉ address.toList) :
      Form ("[" ++ address ++ "]" ++ suffix)
  | unclosed (rest : String) (isOpen : ']' ∉ rest.toList) : Form ("[" ++ rest)
  | oneColon (host text : String) (plain : Plain (host ++ ":" ++ text))
      (before : ':' ∉ host.toList) (after : ':' ∉ text.toList) : Form (host ++ ":" ++ text)
  /-- Without a colon, or with two or more. -/
  | colons {entry : String} (plain : Plain entry) (number : entry.toList.count ':' ≠ 1) :
      Form entry

/-- The first character of an entry is that of the host, or the colon. -/
theorem Plain.colon {text : String} (plain : Plain host) : Plain (host ++ ":" ++ text) := by
  unfold Plain at plain ⊢
  cases shape : host.toList with
  | nil => simp [shape]
  | cons c rest => simpa [shape] using plain

/-- A colon is the only one exactly if there is none on either side of it. -/
theorem count_colon_eq_one_iff {before after : List Char} :
    (before ++ ':' :: after).count ':' = 1 ↔ ':' ∉ before ∧ ':' ∉ after := by
  rw [List.count_append, List.count_cons_self, ← List.count_eq_zero, ← List.count_eq_zero]
  omega

/-- Every entry has one of the forms. -/
theorem exists_form (entry : String) : Form entry := by
  by_cases slash : entry.toList.head? = some '/'
  · exact .path slash
  by_cases bracket : entry.toList.head? = some '['
  · obtain ⟨rest, shape⟩ := List.head?_eq_some_iff.mp bracket
    by_cases closing : ']' ∈ rest
    · -- the first closing bracket ends the address
      obtain ⟨address, suffix, split, inside⟩ := List.eq_append_cons_of_mem closing
      have same : entry = "[" ++ String.ofList address ++ "]" ++ String.ofList suffix :=
        String.ext (by simp [shape, split])
      rw [same]
      exact .closed _ _ (by simpa using inside)
    · have same : entry = "[" ++ String.ofList rest := String.ext (by simp [shape])
      rw [same]
      exact .unclosed _ (by simpa using closing)
  -- neither a path nor in brackets: the number of colons decides
  have plain : Plain entry := ⟨slash, bracket⟩
  by_cases number : entry.toList.count ':' = 1
  · have colon : ':' ∈ entry.toList := List.count_pos_iff.mp (by omega)
    obtain ⟨host, text, split, before⟩ := List.eq_append_cons_of_mem colon
    rw [split] at number
    obtain ⟨-, after⟩ := count_colon_eq_one_iff.mp number
    have same : entry = String.ofList host ++ ":" ++ String.ofList text :=
      String.ext (by simp [split])
    rw [same] at plain ⊢
    exact .oneColon _ _ plain (by simpa using before) (by simpa using after)
  · exact .colons plain number

/-! ## What entries are taken for -/

/-- A path is taken as it is, with whatever colons and brackets. -/
theorem ofText_path (slash : entry.toList.head? = some '/') : ofText entry = whole entry := by
  obtain ⟨rest, shape⟩ := List.head?_eq_some_iff.mp slash
  simp only [ofText, shape]

/-- An address in brackets is cut out, and only a port is read from what follows it. -/
theorem ofText_closed (inside : ']' ∉ address.toList) (suffix : String) :
    ofText ("[" ++ address ++ "]" ++ suffix) = ⟨address, portAfterBracket? suffix.toList⟩ := by
  have shape : ("[" ++ address ++ "]" ++ suffix).toList =
      '[' :: (address.toList ++ ']' :: suffix.toList) := by simp
  have cut : cutAtFirst ']' (address.toList ++ ']' :: suffix.toList) =
      some (address.toList, suffix.toList) := cutAtFirst_eq_some_iff.mpr ⟨rfl, inside⟩
  simp only [ofText, shape, ofBracketed, cut, String.ofList_toList]

/-- An address in brackets alone has no port. -/
theorem ofText_bracketed (inside : ']' ∉ address.toList) :
    ofText ("[" ++ address ++ "]") = ⟨address, none⟩ := by
  have closed := ofText_closed inside ""
  rwa [String.append_empty] at closed

/-- An address in brackets may be followed by its port. -/
theorem ofText_bracketedPort {numeral : String} (inside : ']' ∉ address.toList)
    (spells : SpellsPort numeral port) :
    ofText ("[" ++ address ++ "]" ++ (":" ++ numeral)) = ⟨address, some port⟩ := by
  rw [ofText_closed inside, portAfterBracket?_eq_some_iff.mpr ⟨numeral, rfl, spells⟩]

/-- Without a closing bracket an entry is taken as it is. -/
theorem ofText_unclosed {rest : String} (isOpen : ']' ∉ rest.toList) :
    ofText ("[" ++ rest) = whole ("[" ++ rest) := by
  have shape : ("[" ++ rest).toList = '[' :: rest.toList := by simp
  have uncut : cutAtFirst ']' rest.toList = none := cutAtFirst_eq_none_iff.mpr isOpen
  simp only [ofText, shape, ofBracketed, uncut]

/-- An entry with neither sign in front is looked at for a colon. -/
theorem ofText_plain (plain : Plain entry) : ofText entry = ofPlain entry := by
  unfold ofText
  split
  · -- the first character rules out a path and a bracket
    rename_i shape
    exact absurd (by rw [shape, List.head?_cons]) plain.1
  · rename_i shape
    exact absurd (by rw [shape, List.head?_cons]) plain.2
  · rfl

/-- One colon separates a port, if there is one behind it; otherwise the entry is left whole. -/
theorem ofText_oneColon {text : String} (plain : Plain (host ++ ":" ++ text))
    (before : ':' ∉ host.toList) (after : ':' ∉ text.toList) :
    ofText (host ++ ":" ++ text) =
      ((port? text.toList).map fun port => ⟨host, some port⟩).getD
        (whole (host ++ ":" ++ text)) := by
  have cut : cutAtLast ':' (host ++ ":" ++ text).toList = some (host.toList, text.toList) :=
    cutAtLast_eq_some_iff.mpr ⟨by simp, after⟩
  have clear : host.toList.contains ':' = false := by simpa using before
  rw [ofText_plain plain, ofPlain, cut]
  simp only [clear, Bool.false_eq_true, if_false, String.ofList_toList]
  cases port? text.toList <;> rfl

/-- Without a colon, or with several, an entry is left whole. -/
theorem ofText_colons (plain : Plain entry) (number : entry.toList.count ':' ≠ 1) :
    ofText entry = whole entry := by
  rw [ofText_plain plain, ofPlain]
  split
  · rename_i host text cut
    obtain ⟨split, after⟩ := cutAtLast_eq_some_iff.mp cut
    rw [split] at number
    -- behind the last colon there is none, so another one stands before it
    have another : ':' ∈ host := by
      by_cases clear : ':' ∈ host
      · exact clear
      · exact absurd (count_colon_eq_one_iff.mpr ⟨clear, after⟩) number
    rw [if_pos (List.contains_iff_mem.mpr another)]
  · rfl

/-- A port behind the only colon is cut off. -/
theorem ofText_port {numeral : String} (plain : Plain (host ++ ":" ++ numeral))
    (before : ':' ∉ host.toList) (spells : SpellsPort numeral port) :
    ofText (host ++ ":" ++ numeral) = ⟨host, some port⟩ := by
  rw [ofText_oneColon plain before spells.colon_not_mem, port?_eq_some_iff.mpr spells]
  rfl

/-- What stands behind the only colon and is no port stays with the host. -/
theorem ofText_noPort {text : String} (plain : Plain (host ++ ":" ++ text))
    (before : ':' ∉ host.toList) (after : ':' ∉ text.toList)
    (noPort : ∀ port, ¬ SpellsPort text port) :
    ofText (host ++ ":" ++ text) = whole (host ++ ":" ++ text) := by
  rw [ofText_oneColon plain before after, port?_eq_none_iff.mpr noPort]
  rfl

/-! ## Joining and taking apart -/

/-- Taking an entry apart undoes the writing of host and port, and an entry that writes no port is
left as it is. -/
theorem ofText_joined (port : UInt16) :
    (∀ host : String, ':' ∉ host.toList → Plain host →
      ofText host = ⟨host, none⟩ ∧ ofText (host ++ ":" ++ decimal port) = ⟨host, some port⟩) ∧
    (∀ address : String, ']' ∉ address.toList →
      ofText ("[" ++ address ++ "]") = ⟨address, none⟩ ∧
        ofText ("[" ++ address ++ "]" ++ (":" ++ decimal port)) = ⟨address, some port⟩) ∧
    (∀ entry : String, entry.toList.head? = some '/' → ofText entry = ⟨entry, none⟩) ∧
    (∀ entry : String, entry.toList.head? ≠ some '[' → 2 ≤ entry.toList.count ':' →
      ofText entry = ⟨entry, none⟩) ∧
    ∀ host text : String, (host ++ ":" ++ text).toList.head? ≠ some '[' → ':' ∉ host.toList →
      ':' ∉ text.toList → (∀ port, ¬ SpellsPort text port) →
      ofText (host ++ ":" ++ text) = ⟨host ++ ":" ++ text, none⟩ := by
  have spells : SpellsPort (decimal port) port := spellsPort_decimal port
  refine ⟨?_, ?_, ?_, ?_, ?_⟩
  · intro host noColon plain
    -- no colon at all is not one colon
    have none : host.toList.count ':' = 0 := List.count_eq_zero.mpr noColon
    exact ⟨ofText_colons plain (by omega), ofText_port plain.colon noColon spells⟩
  · intro address inside
    exact ⟨ofText_bracketed inside, ofText_bracketedPort inside spells⟩
  · exact fun entry slash => ofText_path slash
  -- a slash in front makes a path of it, whatever follows
  · intro entry noBracket several
    by_cases slash : entry.toList.head? = some '/'
    · exact ofText_path slash
    · exact ofText_colons ⟨slash, noBracket⟩ (by omega)
  · intro host text noBracket before after noPort
    by_cases slash : (host ++ ":" ++ text).toList.head? = some '/'
    · exact ofText_path slash
    · exact ofText_noPort ⟨slash, noBracket⟩ before after noPort

/-- A host, an address with colons, a path, and two entries that name no port. -/
theorem ofText_joined_entries :
    (ofText "node1" = ⟨"node1", none⟩ ∧ ofText "node1:26258" = ⟨"node1", some 26258⟩) ∧
      (ofText "[::1]" = ⟨"::1", none⟩ ∧ ofText "[::1]:26258" = ⟨"::1", some 26258⟩) ∧
      ofText "/var/run/crdb" = ⟨"/var/run/crdb", none⟩ ∧ ofText "::1" = ⟨"::1", none⟩ ∧
      ofText "node1:65536" = ⟨"node1:65536", none⟩ := by
  obtain ⟨hosts, addresses, paths, colons, noPorts⟩ := ofText_joined 26258
  have tooLarge : ∀ port, ¬ SpellsPort "65536" port := port?_eq_none_iff.mp (by decide)
  refine ⟨?_, ?_, ?_, ?_, ?_⟩
  · exact hosts "node1" (by decide) (by decide)
  · exact addresses "::1" (by decide)
  · exact paths "/var/run/crdb" (by decide)
  · exact colons "::1" (by decide) (by decide)
  · exact noPorts "node1" "65536" (by decide) (by decide) (by decide) tooLarge

/-! ## What is lost -/

/-- An entry says what it is taken for: it is the host, alone or in brackets, with or without a
colon and a numeral for the port. -/
inductive Written : String → HostEntry → Prop where
  | bare (host : String) : Written host ⟨host, none⟩
  | port {numeral : String} {port : UInt16} (host : String) (spells : SpellsPort numeral port) :
      Written (host ++ ":" ++ numeral) ⟨host, some port⟩
  | bracketed (host : String) : Written ("[" ++ host ++ "]") ⟨host, none⟩
  | bracketedPort {numeral : String} {port : UInt16} (host : String)
      (spells : SpellsPort numeral port) :
      Written ("[" ++ host ++ "]" ++ (":" ++ numeral)) ⟨host, some port⟩

/-- An entry is an address in brackets with something behind it that is no port. -/
structure HasRemnant (entry address suffix : String) : Prop where
  shape : entry = "[" ++ address ++ "]" ++ suffix
  /-- The bracket is the first that closes. -/
  inside : ']' ∉ address.toList
  something : suffix ≠ ""
  noPort : ∀ numeral port, SpellsPort numeral port → suffix ≠ ":" ++ numeral

/-- A colon behind the bracket does not make a port of what is none. -/
theorem hasRemnant_badPort (address text : String) (inside : ']' ∉ address.toList)
    (noPort : ∀ port, ¬ SpellsPort text port) :
    HasRemnant ("[" ++ address ++ "]" ++ (":" ++ text)) address (":" ++ text) where
  shape := rfl
  inside := inside
  something := by simp [← String.toList_inj]
  noPort := by
    intro numeral port spells same
    obtain rfl : text = numeral := by simpa [← String.toList_inj] using same
    exact noPort port spells

/-- What follows the bracket is dropped, and only the address is left. -/
theorem ofText_of_hasRemnant (has : HasRemnant entry address suffix) :
    ofText entry = ⟨address, none⟩ := by
  rw [has.shape, ofText_closed has.inside, portAfterBracket?_eq_none_iff.mpr has.noPort]

/-- The brackets take two characters. -/
theorem length_closed (address suffix : String) :
    ("[" ++ address ++ "]" ++ suffix).toList.length =
      address.toList.length + 2 + suffix.toList.length := by
  simp only [String.toList_append, List.length_append]
  show 1 + address.toList.length + 1 + suffix.toList.length = _
  omega

/-- An entry that loses something is none of the ways to write what it is taken for. -/
theorem not_written_of_hasRemnant (has : HasRemnant entry address suffix) :
    ¬ Written entry (ofText entry) := by
  have size : entry.toList.length = address.toList.length + 2 + suffix.toList.length := by
    rw [has.shape, length_closed]
  have long : 0 < suffix.toList.length := by simpa [List.length_pos_iff] using has.something
  rw [ofText_of_hasRemnant has]
  intro written
  -- the entry is longer than both of the ways to write the address alone
  cases written with
  | bare => omega
  | bracketed =>
    have alone := length_closed address ""
    have nothing : "".toList.length = 0 := rfl
    rw [String.append_empty] at alone
    omega

/-- An entry that loses nothing writes what it is taken for, whatever its form. -/
theorem written_of_no_remnant (clean : ∀ address suffix, ¬ HasRemnant entry address suffix) :
    Written entry (ofText entry) := by
  -- form by form; only an address in brackets can be followed by what it does not write
  cases exists_form entry with
  | path slash =>
    rw [ofText_path slash]
    exact .bare _
  | closed address suffix inside =>
    rw [ofText_closed inside]
    cases found : portAfterBracket? suffix.toList with
    | some port =>
      obtain ⟨numeral, rfl, spells⟩ := portAfterBracket?_eq_some_iff.mp found
      exact .bracketedPort address spells
    | none =>
      have noPort := portAfterBracket?_eq_none_iff.mp found
      -- there is no port behind the bracket, so there is nothing at all
      by_cases nothing : suffix = ""
      · rw [nothing, String.append_empty]
        exact .bracketed address
      · exact absurd ⟨rfl, inside, nothing, noPort⟩ (clean address suffix)
  | unclosed rest isOpen =>
    rw [ofText_unclosed isOpen]
    exact .bare _
  | oneColon host text plain before after =>
    by_cases spelled : ∃ port, SpellsPort text port
    · obtain ⟨port, spells⟩ := spelled
      rw [ofText_port plain before spells]
      exact .port host spells
    · rw [ofText_noPort plain before after (not_exists.mp spelled)]
      exact .bare _
  | colons plain number =>
    rw [ofText_colons plain number]
    exact .bare _

/-- Settings see no more of an entry than what it is taken for. -/
theorem ofConfig_congr {config : ConnectionConfig} (defaultPort : UInt16)
    (same : ofText config.host.first = ofText host) :
    Settings.ofConfig defaultPort config =
      Settings.ofConfig defaultPort (config.withHost host) := by
  have narrowed : (config.withHost host).host.first = host := rfl
  simp only [Settings.ofConfig, narrowed, same]
  rfl

/-- Nothing of an entry is lost, unless something follows its closing bracket that is no port.  Then
it is taken for the address alone, and settings are those of an entry that is nothing else: the port
is the config's or the default. -/
theorem written_ofText_iff (entry : String) :
    (Written entry (ofText entry) ↔ ∀ address suffix, ¬ HasRemnant entry address suffix) ∧
    ∀ address suffix, HasRemnant entry address suffix →
      ofText entry = ⟨address, none⟩ ∧
      ∀ (defaultPort : UInt16) (config : ConnectionConfig), config.host.first = entry →
        Settings.ofConfig defaultPort config =
          Settings.ofConfig defaultPort (config.withHost ("[" ++ address ++ "]")) := by
  refine ⟨⟨?_, written_of_no_remnant⟩, ?_⟩
  · intro written address suffix has
    exact not_written_of_hasRemnant has written
  · intro address suffix has
    have taken := ofText_of_hasRemnant has
    refine ⟨taken, fun defaultPort config first => ofConfig_congr defaultPort ?_⟩
    rw [first, taken, ofText_bracketed has.inside]

/-- The text of the number 70000 is no port. -/
theorem not_spellsPort_tooLarge : ∀ port, ¬ SpellsPort "70000" port :=
  port?_eq_none_iff.mp (by decide)

/-- A port out of range behind a bracket is dropped, and the address is dialed on the port of the
config. -/
theorem written_ofText_iff_outOfRange :
    HasRemnant "[::1]:70000" "::1" ":70000" ∧
      Settings.ofConfig postgresPort ((default : ConnectionConfig).withHost "[::1]:70000") =
        Settings.ofConfig postgresPort ((default : ConnectionConfig).withHost "[::1]") := by
  have has : HasRemnant "[::1]:70000" "::1" ":70000" :=
    hasRemnant_badPort "::1" "70000" (by decide) not_spellsPort_tooLarge
  exact ⟨has, ((written_ofText_iff "[::1]:70000").2 "::1" ":70000" has).2 postgresPort _ rfl⟩

/-- Not every entry says what it is taken for: a port out of range is dropped behind a bracket, and
kept as a part of the host without one. -/
theorem outOfRange_dropped :
    ¬ Written "[::1]:70000" (ofText "[::1]:70000") ∧ ofText "[::1]:70000" = ⟨"::1", none⟩ ∧
      ofText "node1:70000" = ⟨"node1:70000", none⟩ := by
  have has : HasRemnant "[::1]:70000" "::1" ":70000" :=
    hasRemnant_badPort "::1" "70000" (by decide) not_spellsPort_tooLarge
  have kept : ofText ("node1" ++ ":" ++ "70000") = whole "node1:70000" :=
    ofText_noPort (by decide) (by decide) (by decide) not_spellsPort_tooLarge
  exact ⟨not_written_of_hasRemnant has, ofText_of_hasRemnant has, kept⟩

end ClusterSchema.Client.HostEntry
