import ClusterSchema.Client.Settings
import ClusterSchema.Proofs.Text.Numerals
import ClusterSchema.Proofs.Text.Trimming

/-!
# Options that keep a connection from being tried

`Refused` says which option of a config is no good and how it is reported, in terms of what the
option spells: a mode is spelled with any case and any blanks around it, and a time limit is a
numeral with any blanks around it.  The mode is looked at first.  Deriving settings fails in these
cases, with this error, and in no others.

* `ofOption_eq_error_iff`, `ofOption_eq_ok_iff`  what a mode is read as
* `exists_refused_iff`                           an option is refused when one of the two is bad
* `Refused.of_extra_eq`                          the hosts of the config have no part in it
* `ofConfig_eq_error_iff`                        settings fail exactly for the options refused
* `ofConfig_eq_ok_iff`                           what settings consist of otherwise
* `sslMode_of_ofConfig`                          the mode of settings is the one spelled
-/

namespace ClusterSchema.Client

/-! ## What options spell -/

/-- A text spells a mode, whatever its case and the blanks around it. -/
def SpellsMode (text mode : String) : Prop :=
  ∃ core, Text.Trimmed text.toList core ∧ mode = Text.asciiLower (String.ofList core)

/-- A text spells a number of seconds of at most 64 bits, whatever the blanks around it. -/
def SpellsSeconds (text : String) (seconds : Nat) : Prop :=
  ∃ core, Text.Trimmed text.toList core ∧ Text.Numeral.Writes core seconds ∧
    seconds < Text.Numeral.limit64

/-- A text spells one mode, which is what is left of it in lower case without the blanks around it.
-/
theorem spellsMode_iff {text mode : String} :
    SpellsMode text mode ↔ mode = Text.asciiLower (Text.trim text) := by
  simp only [SpellsMode, ← Text.trimChars_eq_iff, Text.trim]
  constructor
  · rintro ⟨core, rfl, same⟩
    exact same
  · exact fun same => ⟨_, rfl, same⟩

/-- A number of seconds is spelled by a numeral of 64 bits, once the blanks around it are gone. -/
theorem spellsSeconds_iff {text : String} {seconds : Nat} :
    SpellsSeconds text seconds ↔
      Text.Numeral.read? Text.Numeral.limit64 (Text.trimChars text.toList) = some seconds := by
  simp only [SpellsSeconds, ← Text.trimChars_eq_iff, Text.Numeral.read?_eq_some_iff]
  constructor
  · rintro ⟨core, rfl, number⟩
    exact number
  · exact fun number => ⟨_, rfl, number⟩

/-! ## Modes -/

/-- The modes that end in a connection without encryption if need be. -/
def plainModes : List String := ["disable", "allow", "prefer"]

/-- The modes that insist on encryption. -/
def encryptedModes : List String := ["require", "verify-ca", "verify-full"]

/-- No mode is on both lists. -/
theorem not_mem_plainModes {mode : String} (encrypted : mode ∈ encryptedModes) :
    mode ∉ plainModes := by
  simp only [encryptedModes, List.mem_cons, List.not_mem_nil, or_false] at encrypted
  rcases encrypted with rfl | rfl | rfl <;> simp [plainModes]

namespace SslMode

/-- What the mode that a text spells is read as. -/
theorem ofOption_eq_ite {text mode : String} (spelled : SpellsMode text mode) :
    ofOption text =
      if mode ∈ plainModes then .ok (if mode = "disable" then disable else prefer)
      else .error (if mode ∈ encryptedModes then .needsEncryption mode else .unknownMode mode) := by
  simp only [ofOption, ← spellsMode_iff.mp spelled]
  -- the three modes that are taken are compared first
  by_cases isDisable : mode = "disable"
  · subst isDisable
    rfl
  by_cases isPlain : mode = "prefer" ∨ mode = "allow"
  · rcases isPlain with rfl | rfl <;> rfl
  have notPlain : mode ∉ plainModes := by
    simp only [plainModes, List.mem_cons, List.not_mem_nil, or_false]
    tauto
  rw [if_neg isDisable, if_neg isPlain, if_neg notPlain, apply_ite Except.error]
  -- the modes with encryption are compared one by one in the code
  simp only [encryptedModes, List.mem_cons, List.not_mem_nil, or_false]

/-- Only three modes are taken, and two of them come to the same. -/
theorem ofOption_eq_ok_iff {text : String} {sslMode : SslMode} :
    ofOption text = .ok sslMode ↔
      (SpellsMode text "disable" ∧ sslMode = disable) ∨
        ((SpellsMode text "allow" ∨ SpellsMode text "prefer") ∧ sslMode = prefer) := by
  rw [ofOption_eq_ite (spellsMode_iff.mpr rfl)]
  simp only [spellsMode_iff]
  -- only the mode counts from here on, and not how it was spelled
  generalize Text.asciiLower (Text.trim text) = mode
  by_cases plain : mode ∈ plainModes
  · rw [if_pos plain]
    simp only [plainModes, List.mem_cons, List.not_mem_nil, or_false] at plain
    rcases plain with rfl | rfl | rfl <;> simp [eq_comm]
  · rw [if_neg plain]
    simp only [plainModes, List.mem_cons, List.not_mem_nil, or_false, not_or] at plain
    simp [eq_comm, plain]

/-- Every other mode is refused: for wanting encryption, or for being unknown. -/
theorem ofOption_eq_error_iff {text : String} {error : OptionError} :
    ofOption text = .error error ↔
      ∃ mode, SpellsMode text mode ∧
        ((mode ∈ encryptedModes ∧ error = .needsEncryption mode) ∨
          (mode ∉ plainModes ∧ mode ∉ encryptedModes ∧ error = .unknownMode mode)) := by
  rw [ofOption_eq_ite (spellsMode_iff.mpr rfl)]
  simp only [spellsMode_iff, exists_eq_left]
  generalize Text.asciiLower (Text.trim text) = mode
  by_cases plain : mode ∈ plainModes
  · have notEncrypted : mode ∉ encryptedModes := fun encrypted =>
      not_mem_plainModes encrypted plain
    simp [plain, notEncrypted]
  · rw [if_neg plain]
    by_cases encrypted : mode ∈ encryptedModes
    · simp [encrypted, eq_comm]
    · simp [encrypted, plain, eq_comm]

end SslMode

/-! ## The options of a config -/

/-- A config asks for a mode. -/
def AsksMode (config : ConnectionConfig) (mode : String) : Prop :=
  ∃ text, config.extra.get? sslModeOption = some text ∧ SpellsMode text mode

/-- A config asks for a mode that does not end in a connection without encryption. -/
def BadMode (config : ConnectionConfig) : Prop :=
  ∃ mode, AsksMode config mode ∧ mode ∉ plainModes

/-- A config has a time limit that is no number of seconds. -/
def BadTimeout (config : ConnectionConfig) : Prop :=
  ∃ text, config.extra.get? connectTimeoutOption = some text ∧
    ∀ seconds, ¬ SpellsSeconds text seconds

/-- An option of a config is no good, and this is how it is reported. -/
inductive Refused (config : ConnectionConfig) : OptionError → Prop where
  | needsEncryption {mode : String} (asked : AsksMode config mode)
      (encrypted : mode ∈ encryptedModes) : Refused config (.needsEncryption mode)
  | unknownMode {mode : String} (asked : AsksMode config mode) (notPlain : mode ∉ plainModes)
      (notEncrypted : mode ∉ encryptedModes) : Refused config (.unknownMode mode)
  | badTimeout {text : String} (goodMode : ¬ BadMode config)
      (given : config.extra.get? connectTimeoutOption = some text)
      (noNumber : ∀ seconds, ¬ SpellsSeconds text seconds) : Refused config (.badTimeout text)

/-- One of the two options is refused exactly when one of them is bad. -/
theorem exists_refused_iff {config : ConnectionConfig} :
    (∃ error, Refused config error) ↔ BadMode config ∨ BadTimeout config := by
  constructor
  · rintro ⟨error, refused⟩
    cases refused with
    | needsEncryption asked encrypted => exact .inl ⟨_, asked, not_mem_plainModes encrypted⟩
    | unknownMode asked notPlain => exact .inl ⟨_, asked, notPlain⟩
    | badTimeout _ given noNumber => exact .inr ⟨_, given, noNumber⟩
  · intro bad
    -- a bad mode is reported before the time limit is looked at
    by_cases badMode : BadMode config
    · obtain ⟨mode, asked, notPlain⟩ := badMode
      by_cases encrypted : mode ∈ encryptedModes
      · exact ⟨_, .needsEncryption asked encrypted⟩
      · exact ⟨_, .unknownMode asked notPlain encrypted⟩
    · obtain ⟨text, given, noNumber⟩ := bad.resolve_left badMode
      exact ⟨_, .badTimeout badMode given noNumber⟩

/-- Nothing but the options of a config has a part in this. -/
theorem Refused.of_extra_eq {config other : ConnectionConfig} {error : OptionError}
    (refused : Refused config error) (same : config.extra = other.extra) :
    Refused other error := by
  -- both configs ask for the same modes
  have modes : ∀ mode, AsksMode config mode ↔ AsksMode other mode := by
    simp only [AsksMode, same, implies_true]
  cases refused with
  | needsEncryption asked encrypted => exact .needsEncryption ((modes _).mp asked) encrypted
  | unknownMode asked notPlain notEncrypted =>
    exact .unknownMode ((modes _).mp asked) notPlain notEncrypted
  | badTimeout goodMode given noNumber =>
    have stillGood : ¬ BadMode other := by simpa only [BadMode, modes] using goodMode
    exact .badTimeout stillGood (same ▸ given) noNumber

namespace Settings

/-- A time limit is refused, with its own text, if it spells no number. -/
theorem timeoutOfOption_eq_error_iff {text : String} {error : OptionError} :
    timeoutOfOption text = .error error ↔
      (∀ seconds, ¬ SpellsSeconds text seconds) ∧ error = .badTimeout text := by
  simp only [timeoutOfOption, spellsSeconds_iff]
  cases Text.Numeral.read? Text.Numeral.limit64 (Text.trimChars text.toList) with
  | none => simp [eq_comm]
  | some seconds => simp

/-- A time limit is taken if it spells a number. -/
theorem timeoutOfOption_eq_ok_iff {text : String} {seconds : Nat} :
    timeoutOfOption text = .ok seconds ↔ SpellsSeconds text seconds := by
  simp only [timeoutOfOption, spellsSeconds_iff]
  cases Text.Numeral.read? Text.Numeral.limit64 (Text.trimChars text.toList) with
  | none => simp
  | some seconds => simp

section Reading

variable {α : Type} {config : ConnectionConfig} {name : String}
  {read : String → Except OptionError α}

/-- An option fails if it is given and cannot be read. -/
theorem readOption_eq_error_iff {error : OptionError} :
    readOption config name read = .error error ↔
      ∃ text, config.extra.get? name = some text ∧ read text = .error error := by
  rw [readOption]
  cases config.extra.get? name with
  | none => simp
  | some text => cases result : read text <;> simp [result, Except.map]

/-- An option that is not given is fine, and one that is given has to be read. -/
theorem readOption_eq_ok_iff {value : Option α} :
    readOption config name read = .ok value ↔
      (config.extra.get? name = none ∧ value = none) ∨
        ∃ text item, config.extra.get? name = some text ∧ read text = .ok item ∧
          value = some item := by
  rw [readOption]
  cases config.extra.get? name with
  | none => simp [eq_comm]
  | some text => cases result : read text <;> simp [result, Except.map, eq_comm]

end Reading

/-! ## Settings -/

variable {defaultPort : UInt16} {config : ConnectionConfig} {error : OptionError}

/-- Reading the mode fails exactly when the mode is bad, and with the error reported for it. -/
theorem readMode_eq_error_iff :
    readOption config sslModeOption SslMode.ofOption = .error error ↔
      BadMode config ∧ Refused config error := by
  simp only [readOption_eq_error_iff, SslMode.ofOption_eq_error_iff]
  constructor
  · rintro ⟨text, given, mode, spelled, ⟨encrypted, rfl⟩ | ⟨notPlain, notEncrypted, rfl⟩⟩
    · have asked : AsksMode config mode := ⟨text, given, spelled⟩
      exact ⟨⟨mode, asked, not_mem_plainModes encrypted⟩, .needsEncryption asked encrypted⟩
    · have asked : AsksMode config mode := ⟨text, given, spelled⟩
      exact ⟨⟨mode, asked, notPlain⟩, .unknownMode asked notPlain notEncrypted⟩
  · rintro ⟨bad, refused⟩
    cases refused with
    | needsEncryption asked encrypted =>
      obtain ⟨text, given, spelled⟩ := asked
      exact ⟨text, given, _, spelled, .inl ⟨encrypted, rfl⟩⟩
    | unknownMode asked notPlain notEncrypted =>
      obtain ⟨text, given, spelled⟩ := asked
      exact ⟨text, given, _, spelled, .inr ⟨notPlain, notEncrypted, rfl⟩⟩
    -- a time limit is reported only where the mode is fine
    | badTimeout goodMode => exact absurd bad goodMode

/-- Where the mode is fine, the time limit alone decides what is refused. -/
theorem readTimeout_eq_error_iff (goodMode : ¬ BadMode config) :
    readOption config connectTimeoutOption timeoutOfOption = .error error ↔
      Refused config error := by
  simp only [readOption_eq_error_iff, timeoutOfOption_eq_error_iff]
  constructor
  · rintro ⟨text, given, noNumber, rfl⟩
    exact .badTimeout goodMode given noNumber
  · intro refused
    cases refused with
    | needsEncryption asked encrypted =>
      exact absurd ⟨_, asked, not_mem_plainModes encrypted⟩ goodMode
    | unknownMode asked notPlain => exact absurd ⟨_, asked, notPlain⟩ goodMode
    | badTimeout _ given noNumber => exact ⟨_, given, noNumber, rfl⟩

/-- Settings fail exactly for the options that are refused, and with their errors. -/
theorem ofConfig_eq_error_iff :
    ofConfig defaultPort config = .error error ↔ Refused config error := by
  by_cases bad : BadMode config
  · -- the mode is read first, and its error ends the reading
    obtain ⟨reported, isIt⟩ := exists_refused_iff.mpr (.inl bad)
    have failed := readMode_eq_error_iff.mpr ⟨bad, isIt⟩
    have first : ofConfig defaultPort config = .error reported := by
      rw [ofConfig, failed]
      rfl
    constructor
    · intro failure
      rw [first] at failure
      cases failure
      exact isIt
    · intro refused
      have same := readMode_eq_error_iff.mpr ⟨bad, refused⟩
      rw [failed] at same
      cases same
      exact first
  -- the mode is fine, so reading goes on with the time limit
  · rw [← readTimeout_eq_error_iff bad]
    cases modeRead : readOption config sslModeOption SslMode.ofOption with
    | error other => exact absurd (readMode_eq_error_iff.mp modeRead).1 bad
    | ok sslMode =>
      rw [ofConfig, modeRead]
      cases readOption config connectTimeoutOption timeoutOfOption with
      | error other =>
        change Except.error other = Except.error error ↔ _
        rw [Except.error.injEq, Except.error.injEq]
      | ok timeout => exact ⟨nofun, nofun⟩

/-- Settings come from the two options that are read and from what the config says otherwise. -/
theorem ofConfig_eq_ok_iff {settings : Settings} :
    ofConfig defaultPort config = .ok settings ↔
      ∃ mode timeout, readOption config sslModeOption SslMode.ofOption = .ok mode ∧
        readOption config connectTimeoutOption timeoutOfOption = .ok timeout ∧
        { hosts := [Endpoint.ofHost (HostEntry.ofText config.host.first).host]
          ports := [((HostEntry.ofText config.host.first).port.orElse fun _ => config.port).getD
            defaultPort]
          user := config.username
          password := config.password
          database := config.database
          sslMode := mode.getD .prefer
          applicationName := config.extra.get? applicationNameOption
          connectTimeout := timeout } = settings := by
  rw [ofConfig]
  -- either option may end the reading, and otherwise both are in the settings
  cases readOption config sslModeOption SslMode.ofOption with
  | error other => simp [bind, Except.bind]
  | ok mode =>
    cases readOption config connectTimeoutOption timeoutOfOption with
    | error other => simp [bind, Except.bind]
    | ok timeout => simp [bind, Except.bind, pure, Except.pure]

/-- The mode of settings is the one that the config asks for; encryption is tried where it asks for
none. -/
theorem sslMode_of_ofConfig {settings : Settings}
    (derived : ofConfig defaultPort config = .ok settings) :
    (settings.sslMode = .disable ↔ AsksMode config "disable") ∧
      (settings.sslMode = .prefer ↔
        config.extra.get? sslModeOption = none ∨ AsksMode config "allow" ∨
          AsksMode config "prefer") := by
  obtain ⟨mode, timeout, modeRead, -, rfl⟩ := ofConfig_eq_ok_iff.mp derived
  rcases readOption_eq_ok_iff.mp modeRead with ⟨absent, rfl⟩ | ⟨text, sslMode, given, read, rfl⟩
  · simp [AsksMode, absent]
  · -- a text spells one mode only
    rw [SslMode.ofOption_eq_ok_iff] at read
    simp only [AsksMode, given, Option.some.injEq, exists_eq_left', spellsMode_iff] at read ⊢
    rcases read with ⟨spelled, rfl⟩ | ⟨spelled, rfl⟩
    · simp [← spelled]
    · rcases spelled with spelled | spelled <;> simp [← spelled]

/-- The time limit of settings is the one that the config spells out. -/
theorem connectTimeout_of_ofConfig {settings : Settings}
    (derived : ofConfig defaultPort config = .ok settings) (seconds : Nat) :
    settings.connectTimeout = some seconds ↔
      ∃ text, config.extra.get? connectTimeoutOption = some text ∧ SpellsSeconds text seconds := by
  obtain ⟨mode, timeout, -, timeoutRead, rfl⟩ := ofConfig_eq_ok_iff.mp derived
  simp only [← timeoutOfOption_eq_ok_iff]
  rcases readOption_eq_ok_iff.mp timeoutRead with ⟨absent, rfl⟩ | ⟨text, limit, given, read, rfl⟩
  · simp [absent]
  · simp [given, read]

end Settings

end ClusterSchema.Client
