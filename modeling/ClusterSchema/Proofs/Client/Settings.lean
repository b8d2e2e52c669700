import ClusterSchema.Proofs.Client.Options

/-!
# What settings take from a config

A client reads the first host of a config, its port, its credentials, its database and three of its
options, and nothing else: configs that agree on these have the same settings or the same error.
`Reads` says what the settings are, and there is one answer only.

* `SameForClient.ofConfig_eq`   what a client does not read has no part in its settings
* `Reads.unique`                a config has one way to be read
* `ofConfig_eq_ok_iff_reads`    settings are what is read, when no option is bad
* `settings_read_from`          both, with the errors
-/

namespace ClusterSchema.Client

variable {defaultPort port : UInt16} {config other : ConnectionConfig} {settings : Settings}

/-- The options that a client reads. -/
def clientOptions : List String :=
  [sslModeOption, applicationNameOption, connectTimeoutOption]

/-- A client cannot tell the configs apart: their further hosts, their table prefixes and all other
options may differ. -/
structure SameForClient (config other : ConnectionConfig) : Prop where
  host : config.host.first = other.host.first
  port : config.port = other.port
  username : config.username = other.username
  password : config.password = other.password
  database : config.database = other.database
  options : ∀ name ∈ clientOptions, config.extra.get? name = other.extra.get? name

/-- Configs that a client cannot tell apart have the same settings, or fail alike. -/
theorem SameForClient.ofConfig_eq (same : SameForClient config other) :
    Settings.ofConfig defaultPort config = Settings.ofConfig defaultPort other := by
  have mode := same.options sslModeOption (by simp [clientOptions])
  have applicationName := same.options applicationNameOption (by simp [clientOptions])
  have timeout := same.options connectTimeoutOption (by simp [clientOptions])
  simp only [Settings.ofConfig, Settings.readOption, same.host, same.port, same.username,
    same.password, same.database, mode, applicationName, timeout]

/-- A client sees nothing of the hosts behind the first. -/
theorem sameForClient_withHost (config : ConnectionConfig) :
    SameForClient config (config.withHost config.host.first) :=
  ⟨rfl, rfl, rfl, rfl, rfl, fun _ _ => rfl⟩

/-! ## What is read -/

/-- The first host of a config, taken apart. -/
def firstEntry (config : ConnectionConfig) : HostEntry := HostEntry.ofText config.host.first

/-- The port to dial: the one written in the host entry, else the config's, else the default. -/
inductive DialedPort (defaultPort : UInt16) (config : ConnectionConfig) : UInt16 → Prop where
  | ofEntry {port : UInt16} (written : (firstEntry config).port = some port) :
      DialedPort defaultPort config port
  | ofConfig {port : UInt16} (unwritten : (firstEntry config).port = none)
      (given : config.port = some port) : DialedPort defaultPort config port
  | default (unwritten : (firstEntry config).port = none) (absent : config.port = none) :
      DialedPort defaultPort config defaultPort

/-- The entry's own port comes first, then the config's, then the default. -/
theorem dialedPort_iff :
    DialedPort defaultPort config port ↔
      ((firstEntry config).port.orElse fun _ => config.port).getD defaultPort = port := by
  constructor
  -- each rule is one way through the two fallbacks
  · rintro (written | ⟨unwritten, given⟩ | ⟨unwritten, absent⟩)
    · rw [written]; rfl
    · rw [unwritten, given]; rfl
    · rw [unwritten, absent]; rfl
  · rintro rfl
    cases entry : (firstEntry config).port with
    | some own => exact .ofEntry entry
    | none =>
      cases given : config.port with
      | some own => exact .ofConfig entry given
      | none => exact .default entry given

/-- A host starts like a path. -/
def IsPath (host : String) : Prop := host.toList.head? = some '/'

instance : DecidablePred IsPath :=
  fun host => inferInstanceAs (Decidable (host.toList.head? = some '/'))

/-- Whether a host is a path decides how it is dialed. -/
theorem ofHost_eq_ite (host : String) :
    Endpoint.ofHost host = if IsPath host then .socket host else .tcp host := by
  unfold Endpoint.ofHost
  split
  · rename_i rest shape
    have starts : IsPath host := by rw [IsPath, shape]; rfl
    rw [if_pos starts]
  · rename_i other
    have notPath : ¬ IsPath host := by
      intro starts
      obtain ⟨rest, shape⟩ := List.head?_eq_some_iff.mp starts
      exact other rest shape
    rw [if_neg notPath]

/-- A path is dialed as a socket, and nothing else is. -/
theorem ofHost_eq_socket_iff {host path : String} :
    Endpoint.ofHost host = .socket path ↔ IsPath host ∧ path = host := by
  rw [ofHost_eq_ite]
  split <;> simp_all [eq_comm]

/-- Everything else is dialed as the name of a host. -/
theorem ofHost_eq_tcp_iff {host name : String} :
    Endpoint.ofHost host = .tcp name ↔ ¬ IsPath host ∧ name = host := by
  rw [ofHost_eq_ite]
  split <;> simp_all [eq_comm]

/-- The settings that a config spells out. -/
structure Reads (defaultPort : UInt16) (config : ConnectionConfig) (settings : Settings) :
    Prop where
  oneHost : ∃ endpoint, settings.hosts = [endpoint]
  onePort : ∃ port, settings.ports = [port]
  port : ∀ port ∈ settings.ports, DialedPort defaultPort config port
  socket_iff : ∀ path, .socket path ∈ settings.hosts ↔
    IsPath (firstEntry config).host ∧ path = (firstEntry config).host
  tcp_iff : ∀ host, .tcp host ∈ settings.hosts ↔
    ¬ IsPath (firstEntry config).host ∧ host = (firstEntry config).host
  user : settings.user = config.username
  password : settings.password = config.password
  database : settings.database = config.database
  applicationName : settings.applicationName = config.extra.get? applicationNameOption
  disable_iff : settings.sslMode = .disable ↔ AsksMode config "disable"
  connectTimeout_iff : ∀ seconds, settings.connectTimeout = some seconds ↔
    ∃ text, config.extra.get? connectTimeoutOption = some text ∧ SpellsSeconds text seconds

/-- A config has one way to be read. -/
theorem Reads.unique {first second : Settings} (reads₁ : Reads defaultPort config first)
    (reads₂ : Reads defaultPort config second) : first = second := by
  -- each field of the settings is fixed by what the config says
  have ports : first.ports = second.ports := by
    obtain ⟨port₁, one₁⟩ := reads₁.onePort
    obtain ⟨port₂, one₂⟩ := reads₂.onePort
    have dialed₁ := dialedPort_iff.mp (reads₁.port port₁ (by simp [one₁]))
    have dialed₂ := dialedPort_iff.mp (reads₂.port port₂ (by simp [one₂]))
    rw [one₁, one₂, ← dialed₁, dialed₂]
  have hosts : first.hosts = second.hosts := by
    obtain ⟨dialed₁, one₁⟩ := reads₁.oneHost
    obtain ⟨dialed₂, one₂⟩ := reads₂.oneHost
    -- what one of them dials the other dials as well
    have member : dialed₁ ∈ second.hosts := by
      cases dialed₁ with
      | socket path =>
        exact (reads₂.socket_iff path).mpr ((reads₁.socket_iff path).mp (by simp [one₁]))
      | tcp host => exact (reads₂.tcp_iff host).mpr ((reads₁.tcp_iff host).mp (by simp [one₁]))
    rw [one₂, List.mem_singleton] at member
    rw [one₁, one₂, member]
  have sslMode : first.sslMode = second.sslMode := by
    have disabled := reads₁.disable_iff.trans reads₂.disable_iff.symm
    -- there are two modes only
    cases mode₁ : first.sslMode <;> cases mode₂ : second.sslMode <;> simp_all
  have connectTimeout : first.connectTimeout = second.connectTimeout :=
    Option.ext fun seconds =>
      (reads₁.connectTimeout_iff seconds).trans (reads₂.connectTimeout_iff seconds).symm
  have user := reads₁.user.trans reads₂.user.symm
  have password := reads₁.password.trans reads₂.password.symm
  have database := reads₁.database.trans reads₂.database.symm
  have applicationName := reads₁.applicationName.trans reads₂.applicationName.symm
  cases first
  cases second
  simp_all

/-- Settings that are derived are those that the config spells out. -/
theorem reads_of_ofConfig (derived : Settings.ofConfig defaultPort config = .ok settings) :
    Reads defaultPort config settings := by
  have disable_iff := (Settings.sslMode_of_ofConfig derived).1
  have connectTimeout_iff := Settings.connectTimeout_of_ofConfig derived
  obtain ⟨mode, timeout, -, -, rfl⟩ := Settings.ofConfig_eq_ok_iff.mp derived
  exact
    { oneHost := ⟨_, rfl⟩
      onePort := ⟨_, rfl⟩
      port := fun _ member => dialedPort_iff.mpr (List.mem_singleton.mp member).symm
      socket_iff := by
        intro dialed
        rw [List.mem_singleton, eq_comm]
        exact ofHost_eq_socket_iff
      tcp_iff := by
        intro dialed
        rw [List.mem_singleton, eq_comm]
        exact ofHost_eq_tcp_iff
      user := rfl
      password := rfl
      database := rfl
      applicationName := rfl
      disable_iff
      connectTimeout_iff }

/-- There are settings if and only if neither of the two options is bad, and then they are those
that the config spells out. -/
theorem ofConfig_eq_ok_iff_reads :
    Settings.ofConfig defaultPort config = .ok settings ↔
      ¬ BadMode config ∧ ¬ BadTimeout config ∧ Reads defaultPort config settings := by
  have refused_iff : (∃ error, Refused config error) ↔ BadMode config ∨ BadTimeout config :=
    exists_refused_iff
  constructor
  · intro derived
    have fine : ¬ ∃ error, Refused config error := by
      rintro ⟨error, refused⟩
      rw [Settings.ofConfig_eq_error_iff.mpr refused] at derived
      cases derived
    rw [refused_iff, not_or] at fine
    exact ⟨fine.1, fine.2, reads_of_ofConfig derived⟩
  · rintro ⟨goodMode, goodTimeout, reads⟩
    cases derived : Settings.ofConfig defaultPort config with
    -- an error would be that of a bad option
    | error error =>
      have refused := Settings.ofConfig_eq_error_iff.mp derived
      exact absurd (refused_iff.mp ⟨error, refused⟩) (not_or.mpr ⟨goodMode, goodTimeout⟩)
    | ok found => rw [(reads_of_ofConfig derived).unique reads]

/-! ## The result -/

/-- Settings are derived from the first host, the port, the credentials, the database and three
options alone.  They are what the config spells out, and they fail for the mode or, if that is fine,
for the time limit, and for nothing else. -/
theorem settings_read_from (defaultPort : UInt16) (config : ConnectionConfig) :
    (∀ other, SameForClient config other →
      Settings.ofConfig defaultPort config = Settings.ofConfig defaultPort other) ∧
    Settings.ofConfig defaultPort config =
      Settings.ofConfig defaultPort (config.withHost config.host.first) ∧
    (∀ settings, Settings.ofConfig defaultPort config = .ok settings ↔
      ¬ BadMode config ∧ ¬ BadTimeout config ∧ Reads defaultPort config settings) ∧
    (∀ error, Settings.ofConfig defaultPort config = .error error ↔ Refused config error) ∧
    ((∃ error, Refused config error) ↔
      BadMode config ∨ (¬ BadMode config ∧ BadTimeout config)) := by
  refine ⟨?_, ?_, ?_, ?_, ?_⟩
  · exact fun other same => same.ofConfig_eq
  · exact (sameForClient_withHost config).ofConfig_eq
  · exact fun settings => ofConfig_eq_ok_iff_reads
  · exact fun error => Settings.ofConfig_eq_error_iff
  -- a bad mode is reported whether or not the time limit is bad too
  · rw [exists_refused_iff]
    tauto

/-- A first host with a port of its own, options spelled in odd ways, and much that a client does
not read. -/
def wordy : ConnectionConfig where
  host := ⟨["[/run/db]:26258", "n2"], by simp⟩
  port := some 5433
  database := "app"
  tablePrefix := "app_"
  extra := NameMap.ofList
    [("options", "-c x"), ("sslmode", "\tDisable"), ("connect_timeout", "+007 ")]

/-- The same without what a client does not read. -/
def terse : ConnectionConfig where
  host := .single "[/run/db]:26258"
  port := some 5433
  database := "app"
  extra := NameMap.ofList [("connect_timeout", "+007 "), ("sslmode", "\tDisable")]

/-- The two configs differ in nothing that a client reads. -/
theorem sameForClient_wordy : SameForClient wordy terse where
  host := rfl
  port := rfl
  username := rfl
  password := rfl
  database := rfl
  options := by decide

/-- Both configs dial the directory in brackets on the port behind it. -/
theorem settings_read_from_wordy :
    SameForClient wordy terse ∧
      Settings.ofConfig cockroachPort wordy = Settings.ofConfig cockroachPort terse ∧
      ∃ settings, Settings.ofConfig cockroachPort terse = .ok settings ∧
        Reads cockroachPort wordy settings ∧ settings.hosts = [.socket "/run/db"] ∧
        settings.ports = [26258] := by
  obtain ⟨same, -, read, -⟩ := settings_read_from cockroachPort wordy
  have equal := same terse sameForClient_wordy
  let settings : Settings :=
    { hosts := [.socket "/run/db"], ports := [26258], user := none, password := none,
      database := "app", sslMode := .disable, applicationName := none, connectTimeout := some 7 }
  -- the port in the entry goes before the config's, and the mode is spelled with a tab
  have derived : Settings.ofConfig cockroachPort wordy = .ok settings := by decide +kernel
  obtain ⟨-, -, reads⟩ := (read settings).mp derived
  exact ⟨sameForClient_wordy, equal, settings, equal ▸ derived, reads, rfl, rfl⟩

end ClusterSchema.Client
