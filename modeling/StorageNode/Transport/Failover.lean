import StorageNode.Config.Load
import StorageNode.Transport.Selector

/-!
# Failover transports

`load_exclusive_failover` from the parsed TOML on, and `ExclusiveFailoverConfig.resolve`, which turns an
SSHFS transport into a target.

`FailoverAccepted` says what the loader guarantees of a configuration that it returns. The selector's
view of such a configuration is `ExclusiveFailoverConfig.selector`.
-/

set_option autoImplicit false

namespace StorageNode.Transport

open StorageNode.Config

/-- The text of an authentication mode. -/
def AuthMode.text : AuthMode → Text
  | .key => "key".toList
  | .password => "password".toList

/-- `SshfsTransportConfig`. -/
structure SshfsTransportConfig where
  name : Text
  priority : Int
  source : Text
  authMode : AuthMode
  knownHostsFile : Text
  identityFile : Text := []
  credentialsFile : Text := []
  port : Int := 22
  mountOptions : List Text := []
  deriving DecidableEq

/-- `ExclusiveFailoverConfig`. Manual failback is the only policy. -/
structure ExclusiveFailoverConfig where
  target : Text
  primaryName : Text
  primaryPriority : Int
  failbackPolicy : Text
  failureCooldownSeconds : Int
  verifyAllTransportsOnStartup : Bool
  transports : List SshfsTransportConfig
  workerUid : Int
  workerGid : Int
  runtimeDir : PosixPath
  deriving DecidableEq

/-! ## Resolving a transport -/

/-- A file of a transport among the generated ones. -/
def runtimeFile (runtimeDir : PosixPath) (name : Text) (suffix : String) : PosixPath :=
  (runtimeDir.join (PosixPath.parse "generated")).join
    (PosixPath.parse ("ssh-".toList ++ (name ++ suffix.toList)))

/-- An option with its value, where it has one. -/
abbrev SshOption := Text × Option Text

/-- The text of an option. -/
def SshOption.text : SshOption → Text
  | (name, none) => name
  | (name, some value) => name ++ '=' :: value

namespace ExclusiveFailoverConfig

/-- The options that select the authentication mode. -/
def authOptions (failover : ExclusiveFailoverConfig) (transport : SshfsTransportConfig) :
    List SshOption :=
  match transport.authMode with
  | .key =>
    [("IdentityFile".toList,
        some (runtimeFile failover.runtimeDir transport.name ".key").text),
      ("BatchMode".toList, some "yes".toList),
      ("PreferredAuthentications".toList, some "publickey".toList),
      ("PasswordAuthentication".toList, some "no".toList),
      ("KbdInteractiveAuthentication".toList, some "no".toList)]
  | .password =>
    [("password_stdin".toList, none), ("BatchMode".toList, some "no".toList),
      ("PreferredAuthentications".toList, some "password".toList),
      ("PubkeyAuthentication".toList, some "no".toList),
      ("KbdInteractiveAuthentication".toList, some "no".toList),
      ("NumberOfPasswordPrompts".toList, some "1".toList)]

/-- The options of every transport. -/
def commonOptions (failover : ExclusiveFailoverConfig) (transport : SshfsTransportConfig) :
    List SshOption :=
  [("UserKnownHostsFile".toList, some transport.knownHostsFile),
    ("StrictHostKeyChecking".toList, some "yes".toList),
    ("port".toList, some (Text.ofInt transport.port)), ("reconnect".toList, none),
    ("ServerAliveInterval".toList, some "15".toList),
    ("ServerAliveCountMax".toList, some "3".toList), ("sshfs_sync".toList, none),
    ("dir_cache".toList, some "no".toList), ("allow_other".toList, none),
    ("default_permissions".toList, none), ("uid".toList, some (Text.ofInt failover.workerUid)),
    ("gid".toList, some (Text.ofInt failover.workerGid)), ("umask".toList, some "007".toList)]

/-- The options that the guardian owns. -/
def guardianOptions (failover : ExclusiveFailoverConfig) (transport : SshfsTransportConfig) :
    List SshOption :=
  failover.authOptions transport ++ failover.commonOptions transport

/-- The target of an SSHFS transport. -/
def sshfsTarget (failover : ExclusiveFailoverConfig) (base : TargetConfig)
    (transport : SshfsTransportConfig) : TargetConfig :=
  { base with
    type := .sshfs
    source := transport.source
    credentialsFile := []
    mountOptions := (failover.guardianOptions transport).map SshOption.text ++ transport.mountOptions
    ioFailurePolicy := []
    minimumSmbDialect := []
    handleReconnectPolicy := "disabled".toList
    multichannelPolicy := "disabled".toList
    maxChannels := 2
    requireTransportObservability := false
    transportName := transport.name
    sshAuthMode := transport.authMode.text
    sshIdentityFile := transport.identityFile
    sshCredentialsFile := transport.credentialsFile
    sshKnownHostsFile := transport.knownHostsFile
    sshRuntimeIdentityFile := match transport.authMode with
      | .key => (runtimeFile failover.runtimeDir transport.name ".key").text
      | .password => []
    sshRuntimePidFile := (runtimeFile failover.runtimeDir transport.name ".pid").text
    sshPort := transport.port }

/-- `resolve`. -/
def resolve (failover : ExclusiveFailoverConfig) (base : TargetConfig) (name : Text) :
    Except String TargetConfig :=
  if name = failover.primaryName then .ok { base with transportName := name }
  else match failover.transports.find? fun transport => transport.name = name with
    | some transport => .ok (failover.sshfsTarget base transport)
    | none => .error (s!"unknown transport '{String.ofList name}' for target " ++
        String.ofList failover.target)

end ExclusiveFailoverConfig

/-! ## Reading the settings -/

/-- `_require_table`. -/
def requireTable (value : Value) (name : String) : Except Raised Table :=
  match value with
  | .table members => .ok members
  | _ => .error (.config s!"{name} must be a table")

/-- `_string` of this module, which strips what it reads. -/
def strippedString (value : Option Value) (name : String) (default : Text) : Except Raised Text :=
  match value with
  | none => .ok default
  | some (.str text) => .ok text.strip
  | some _ => .error (.config s!"{name} must be a string")

/-- `_string_list` of this module, which takes arrays only. -/
def optionList (value : Option Value) (name : String) : Except Raised (List Text) :=
  match value with
  | none => .ok []
  | some (.array items) => match texts items with
    | some items => .ok items
    | none => .error (.config s!"{name} must be an array of strings")
  | some _ => .error (.config s!"{name} must be an array of strings")

/-- A character of a transport name. -/
def nameChar (c : Char) : Bool :=
  c.isAlphanum || c = '.' || c = '_' || c = '-'

/-- `_TRANSPORT_NAME.fullmatch`. -/
def matchesTransportName : Text → Bool
  | [] => false
  | c :: rest => c.isAlphanum && decide (rest.length ≤ 63) && rest.all nameChar

/-- `_SSHFS_SAFE_OPTIONS`. -/
def sshfsSafeOptions : List Text :=
  ["no_readahead".toList, "max_read".toList, "max_write".toList, "max_background".toList,
    "congestion_threshold".toList, "dcache_max_size".toList, "dcache_timeout".toList,
    "dcache_stat_timeout".toList, "dcache_link_timeout".toList, "dcache_dir_timeout".toList,
    "direct_io".toList, "auto_cache".toList, "disable_hardlink".toList, "renamexdev".toList,
    "truncate_workaround".toList, "workaround".toList]

/-- `_transport_name`. -/
def transportName (value : Option Value) (name : String) (default : Text) : Except Raised Text := do
  let result ← strippedString value name default
  require (matchesTransportName result)
    s!"{name} must use 1-64 letters, numbers, dots, underscores, or hyphens"
  pure result

/-- The characters that a configured path may not hold. -/
def pathSeparators : List Char := [',', '\n', '\r', '\x00']

/-- `_absolute_file` with `required`. -/
def absoluteFile (value : Option Value) (name : String) : Except Raised Text := do
  let result ← strippedString value name []
  require (decide (result ≠ []) && (PosixPath.parse result).isAbsolute)
    s!"{name} must be an absolute path"
  require (pathSeparators.all fun c => decide (c ∉ result))
    s!"{name} may not contain commas or control characters"
  pure result

/-- The name by which an SSHFS option is checked. -/
def optionKey (lib : Library) (option : Text) : Text :=
  lib.lower (option.before '=').strip

/-- `_validate_sshfs_options`. -/
def validateSshfsOptions (lib : Library) (name : String) : List Text → Except Raised Unit
  | [] => .ok ()
  | option :: options => do
    let key := optionKey lib option
    require (decide (key ∈ sshfsSafeOptions))
      (s!"{name} option '{String.ofList key}' is not in the guarded SSHFS tuning " ++ "allowlist")
    validateSshfsOptions lib name options

/-- The source looks like `user@host:/remote/path`. -/
def plausibleSource (source : Text) : Bool :=
  decide (source ≠ [] ∧ source.head? ≠ some '-' ∧ ':' ∈ source ∧ '@' ∈ source.before ':') &&
    ['\n', '\r', '\x00'].all fun c => decide (c ∉ source)

/-- The authentication settings: the mode with the two file settings. -/
structure Authentication where
  mode : AuthMode
  identityFile : Text
  credentialsFile : Text

/-- The value, or the default where it is missing or empty. -/
def valueOr (value : Option Value) (default : Text) : Option Value :=
  match value with
  | none => some (.str default)
  | some (.str []) => some (.str default)
  | some value => some value

/-- The authentication settings of a transport. -/
def parseAuthentication (lib : Library) (data : TargetConfig) (place : String) (item : Table) :
    Except Raised Authentication := do
  let configured ← strippedString (item.get? "auth_mode") s!"{place}.auth_mode" []
  let identity ← strippedString (item.get? "identity_file") s!"{place}.identity_file" []
  let credentials ← strippedString (item.get? "credentials_file") s!"{place}.credentials_file" []
  let inferred := if credentials ≠ [] ∧ identity = [] then "password".toList else "key".toList
  let mode ← choice [("key".toList, AuthMode.key), ("password".toList, .password)]
    s!"{place}.auth_mode must be key or password" (orElse (lib.lower configured) inferred)
  match mode with
  | .key =>
    let identityFile ← absoluteFile (item.get? "identity_file") s!"{place}.identity_file"
    require (decide (credentials = []))
      s!"{place}.credentials_file is only valid with auth_mode=password"
    pure ⟨.key, identityFile, []⟩
  | .password =>
    require (decide (identity = [])) s!"{place}.identity_file is only valid with auth_mode=key"
    let credentialsFile ← absoluteFile
      (valueOr (item.get? "credentials_file") data.credentialsFile) s!"{place}.credentials_file"
    pure ⟨.password, [], credentialsFile⟩

/-- What the loop over the transports carries. -/
structure Taken where
  names : List Text
  priorities : List Int

/-- One transport. -/
def parseTransport (lib : Library) (data : TargetConfig) (index : Nat) (taken : Taken)
    (value : Value) : Except Raised SshfsTransportConfig := do
  let place := s!"storage.data.failover.transports[{index}]"
  let item ← requireTable value place
  let type ← strippedString (item.get? "type") s!"{place}.type" "sshfs"
  require (decide (lib.lower type = "sshfs".toList)) s!"{place}.type currently supports only sshfs"
  let name ← transportName (item.get? "name") s!"{place}.name" []
  require (decide (name ∉ taken.names)) s!"duplicate storage transport name: {String.ofList name}"
  let priority ← int (item.get? "priority") s!"{place}.priority" (20 + index)
  require (decide (0 ≤ priority)) s!"{place}.priority must be zero or greater"
  require (decide (priority ∉ taken.priorities)) s!"duplicate storage transport priority: {priority}"
  let source ← strippedString (item.get? "source") s!"{place}.source" []
  require (plausibleSource source) s!"{place}.source must look like user@host:/remote/path"
  let auth ← parseAuthentication lib data place item
  let knownHostsFile ← absoluteFile (item.get? "known_hosts_file") s!"{place}.known_hosts_file"
  let port ← int (item.get? "port") s!"{place}.port" 22
  require (decide (1 ≤ port ∧ port ≤ 65535)) s!"{place}.port must be between 1 and 65535"
  let mountOptions ← optionList (item.get? "mount_options") s!"{place}.mount_options"
  validateSshfsOptions lib s!"{place}.mount_options" mountOptions
  pure ⟨name, priority, source, auth.mode, knownHostsFile, auth.identityFile, auth.credentialsFile,
    port, mountOptions⟩

/-- The loop over the transports. -/
def parseTransports (lib : Library) (data : TargetConfig) :
    Nat → Taken → List Value → Except Raised (List SshfsTransportConfig)
  | _, _, [] => .ok []
  | index, taken, value :: values => do
    let transport ← parseTransport lib data index taken value
    let transports ← parseTransports lib data (index + 1)
      ⟨transport.name :: taken.names, transport.priority :: taken.priorities⟩ values
    pure (transport :: transports)

/-- `config.data_target`. -/
def dataTarget (config : Config) : Except Raised TargetConfig :=
  match config.targets.get? "data" with
  | some data => .ok data
  | none => .error (.host "KeyError")

/-- The settings of an enabled failover table. -/
def parseFailover (lib : Library) (failover : Table) (config : Config) :
    Except Raised ExclusiveFailoverConfig := do
  let data ← dataTarget config
  require (decide (data.type = .cifs))
    "storage.data.failover requires the canonical storage.data target to be CIFS"
  require (decide (config.appliance.workerFencingMode = .namespaced))
    "storage.data.failover requires appliance.worker_fencing_mode=namespace"
  let primaryName ← transportName (failover.get? "primary_name")
    "storage.data.failover.primary_name" "cifs-primary"
  let primaryPriority ← int (failover.get? "primary_priority")
    "storage.data.failover.primary_priority" 10
  require (decide (0 ≤ primaryPriority))
    "storage.data.failover.primary_priority must be zero or greater"
  let failbackPolicy ← strippedString (failover.get? "failback_policy")
    "storage.data.failover.failback_policy" "manual"
  let failbackPolicy := lib.lower failbackPolicy
  require (decide (failbackPolicy = "manual".toList))
    "storage.data.failover.failback_policy currently supports only manual"
  let cooldown ← int (failover.get? "failure_cooldown_seconds")
    "storage.data.failover.failure_cooldown_seconds" 60
  require (decide (0 < cooldown))
    "storage.data.failover.failure_cooldown_seconds must be greater than zero"
  let verifyOnStartup ← bool (failover.get? "verify_all_transports_on_startup")
    "storage.data.failover.verify_all_transports_on_startup" true
  match failover.get? "transports" with
  | some (.array (value :: values)) =>
    let transports ← parseTransports lib data 0 ⟨[primaryName], [primaryPriority]⟩ (value :: values)
    pure
      { target := "data".toList
        primaryName := primaryName
        primaryPriority := primaryPriority
        failbackPolicy := failbackPolicy
        failureCooldownSeconds := cooldown
        verifyAllTransportsOnStartup := verifyOnStartup
        transports := transports
        workerUid := config.appliance.uid
        workerGid := config.appliance.gid
        runtimeDir := config.appliance.runtimeDir }
  | _ => throw (.config "storage.data.failover.transports must contain at least one SSHFS transport")

/-- `table.get(key, {})` where it is a table. -/
def tableAt (table : Table) (key : String) : Option Table :=
  match table.get? key with
  | none => some []
  | some (.table members) => some members
  | some _ => none

/-- `load_exclusive_failover`, from the parsed TOML on; `none` where no failover is configured. -/
def loadExclusiveFailover (lib : Library) (raw : Table) (config : Config) :
    Except Raised (Option ExclusiveFailoverConfig) :=
  match (tableAt raw "storage").bind fun storage => tableAt storage "data" with
  | none => .ok none
  | some data => match data.get? "failover" with
    | none => .ok none
    | some failover => do
      let failover ← requireTable failover "storage.data.failover"
      let enabled ← bool (failover.get? "enabled") "storage.data.failover.enabled" false
      if enabled then do
        let failover ← parseFailover lib failover config
        pure (some failover)
      else pure none

/-! ## Accepted configurations -/

variable {lib : Library}

/-- What the loader guarantees of a transport. -/
structure TransportAccepted (lib : Library) (transport : SshfsTransportConfig) : Prop where
  name_matches : matchesTransportName transport.name = true
  priority_nonneg : 0 ≤ transport.priority
  known_hosts_plain : ',' ∉ transport.knownHostsFile
  port_range : 1 ≤ transport.port ∧ transport.port ≤ 65535
  options_safe : ∀ option ∈ transport.mountOptions, optionKey lib option ∈ sshfsSafeOptions

/-- What the loader guarantees of a failover configuration. -/
structure FailoverAccepted (lib : Library) (failover : ExclusiveFailoverConfig) : Prop where
  primary_matches : matchesTransportName failover.primaryName = true
  primary_nonneg : 0 ≤ failover.primaryPriority
  cooldown_pos : 0 < failover.failureCooldownSeconds
  accepted : ∀ transport ∈ failover.transports, TransportAccepted lib transport
  distinct : (failover.primaryName :: failover.transports.map SshfsTransportConfig.name).Nodup
  fallback : failover.transports ≠ []

theorem transportName_eq_ok {value : Option Value} {name : String} {default result : Text}
    (h : transportName value name default = .ok result) : matchesTransportName result = true := by
  obtain ⟨text, -, h⟩ := bind_eq_ok.mp h
  obtain ⟨hmatches, h⟩ := require_bind_eq_ok.mp h
  obtain rfl := Except.ok.inj h
  exact hmatches

theorem absoluteFile_eq_ok {value : Option Value} {name : String} {result : Text}
    (h : absoluteFile value name = .ok result) : ',' ∉ result := by
  obtain ⟨text, -, h⟩ := bind_eq_ok.mp h
  obtain ⟨-, h⟩ := require_bind_eq_ok.mp h
  obtain ⟨hplain, h⟩ := require_bind_eq_ok.mp h
  obtain rfl := Except.ok.inj h
  exact of_decide_eq_true (List.all_eq_true.mp hplain ',' List.mem_cons_self)

theorem validateSshfsOptions_eq_ok {name : String} {options : List Text}
    (h : validateSshfsOptions lib name options = .ok ()) :
    ∀ option ∈ options, optionKey lib option ∈ sshfsSafeOptions := by
  induction options with
  | nil => exact fun _ hmem => absurd hmem List.not_mem_nil
  | cons first rest ih =>
    obtain ⟨hfirst, h⟩ := require_bind_eq_ok.mp h
    intro option hoption
    obtain rfl | hoption := List.mem_cons.mp hoption
    · exact of_decide_eq_true hfirst
    · exact ih h option hoption

theorem parseTransport_eq_ok {data : TargetConfig} {index : Nat} {taken : Taken} {value : Value}
    {transport : SshfsTransportConfig}
    (h : parseTransport lib data index taken value = .ok transport) :
    TransportAccepted lib transport ∧ transport.name ∉ taken.names := by
  obtain ⟨item, -, h⟩ := bind_eq_ok.mp h
  obtain ⟨type, -, h⟩ := bind_eq_ok.mp h
  obtain ⟨-, h⟩ := require_bind_eq_ok.mp h
  obtain ⟨name, hname, h⟩ := bind_eq_ok.mp h
  obtain ⟨hnew, h⟩ := require_bind_eq_ok.mp h
  obtain ⟨priority, -, h⟩ := bind_eq_ok.mp h
  obtain ⟨hpriority, h⟩ := require_bind_eq_ok.mp h
  obtain ⟨-, h⟩ := require_bind_eq_ok.mp h
  obtain ⟨source, -, h⟩ := bind_eq_ok.mp h
  obtain ⟨-, h⟩ := require_bind_eq_ok.mp h
  obtain ⟨auth, -, h⟩ := bind_eq_ok.mp h
  obtain ⟨knownHosts, hknown, h⟩ := bind_eq_ok.mp h
  obtain ⟨port, -, h⟩ := bind_eq_ok.mp h
  obtain ⟨hport, h⟩ := require_bind_eq_ok.mp h
  obtain ⟨options, -, h⟩ := bind_eq_ok.mp h
  obtain ⟨_, hoptions, h⟩ := bind_eq_ok.mp h
  obtain rfl := Except.ok.inj h
  refine ⟨⟨transportName_eq_ok hname, of_decide_eq_true hpriority, absoluteFile_eq_ok hknown,
    of_decide_eq_true hport, validateSshfsOptions_eq_ok hoptions⟩, of_decide_eq_true hnew⟩

theorem parseTransports_eq_ok {data : TargetConfig} {index : Nat} {taken : Taken}
    {values : List Value} {transports : List SshfsTransportConfig} (htaken : taken.names.Nodup)
    (h : parseTransports lib data index taken values = .ok transports) :
    (∀ transport ∈ transports, TransportAccepted lib transport) ∧
      (taken.names ++ transports.map SshfsTransportConfig.name).Nodup ∧
      transports.length = values.length := by
  induction values generalizing index taken transports with
  | nil =>
    obtain rfl := Except.ok.inj h
    exact ⟨fun _ hmem => absurd hmem List.not_mem_nil, by simpa using htaken, rfl⟩
  | cons value values ih =>
    obtain ⟨transport, htransport, h⟩ := bind_eq_ok.mp h
    obtain ⟨rest, hrest, h⟩ := bind_eq_ok.mp h
    obtain rfl := Except.ok.inj h
    obtain ⟨haccepted, hnew⟩ := parseTransport_eq_ok htransport
    obtain ⟨hall, hnodup, hlength⟩ := ih (List.nodup_cons.mpr ⟨hnew, htaken⟩) hrest
    refine ⟨?_, ?_, by simp [hlength]⟩
    · intro other hother
      obtain rfl | hother := List.mem_cons.mp hother
      · exact haccepted
      · exact hall other hother
    · -- the new name moves from the head of the taken names behind them
      rw [List.map_cons]
      exact (List.perm_middle.nodup_iff).mpr hnodup

theorem parseFailover_eq_ok {raw : Table} {config : Config} {failover : ExclusiveFailoverConfig}
    (h : parseFailover lib raw config = .ok failover) : FailoverAccepted lib failover := by
  obtain ⟨data, -, h⟩ := bind_eq_ok.mp h
  obtain ⟨-, h⟩ := require_bind_eq_ok.mp h
  obtain ⟨-, h⟩ := require_bind_eq_ok.mp h
  obtain ⟨primaryName, hprimary, h⟩ := bind_eq_ok.mp h
  obtain ⟨primaryPriority, -, h⟩ := bind_eq_ok.mp h
  obtain ⟨hpriority, h⟩ := require_bind_eq_ok.mp h
  obtain ⟨policy, -, h⟩ := bind_eq_ok.mp h
  obtain ⟨-, h⟩ := require_bind_eq_ok.mp h
  obtain ⟨cooldown, -, h⟩ := bind_eq_ok.mp h
  obtain ⟨hcooldown, h⟩ := require_bind_eq_ok.mp h
  obtain ⟨verify, -, h⟩ := bind_eq_ok.mp h
  split at h
  · obtain ⟨transports, htransports, h⟩ := bind_eq_ok.mp h
    obtain rfl := Except.ok.inj h
    obtain ⟨hall, hnodup, hlength⟩ :=
      parseTransports_eq_ok (List.nodup_singleton primaryName) htransports
    refine ⟨transportName_eq_ok hprimary, of_decide_eq_true hpriority, of_decide_eq_true hcooldown,
      hall, hnodup, ?_⟩
    rintro rfl
    cases hlength
  · cases h

theorem loadExclusiveFailover_ok {raw : Table} {config : Config} {failover : ExclusiveFailoverConfig}
    (h : loadExclusiveFailover lib raw config = .ok (some failover)) :
    FailoverAccepted lib failover := by
  unfold loadExclusiveFailover at h
  split at h
  · cases h
  · split at h
    · cases h
    · obtain ⟨table, -, h⟩ := bind_eq_ok.mp h
      obtain ⟨enabled, -, h⟩ := bind_eq_ok.mp h
      split at h
      · obtain ⟨accepted, haccepted, h⟩ := bind_eq_ok.mp h
        obtain rfl := Option.some.inj (Except.ok.inj h)
        exact parseFailover_eq_ok haccepted
      · cases h

theorem ne_nil_of_matches {name : Text} (h : matchesTransportName name = true) : name ≠ [] := by
  rintro rfl
  cases h

/-- A transport name holds no comma. -/
theorem comma_not_mem_of_matches {name : Text} (h : matchesTransportName name = true) :
    ',' ∉ name := by
  cases name with
  | nil => exact List.not_mem_nil
  | cons c rest =>
    simp only [matchesTransportName, Bool.and_eq_true] at h
    intro hmem
    obtain heq | hmem := List.mem_cons.mp hmem
    · rw [← heq] at h
      exact absurd h.1.1 (by decide)
    · exact absurd (List.all_eq_true.mp h.2 ',' hmem) (by decide)

namespace ExclusiveFailoverConfig

/-- A transport of the selector. -/
def selectorTransport (transport : SshfsTransportConfig) : SshfsTransport where
  name := String.ofList transport.name
  priority := transport.priority.toNat
  source := String.ofList transport.source
  authMode := transport.authMode
  knownHostsFile := String.ofList transport.knownHostsFile
  identityFile := String.ofList transport.identityFile
  credentialsFile := String.ofList transport.credentialsFile
  port := transport.port.toNat
  mountOptions := transport.mountOptions.map String.ofList

/-- What the selector reads of an accepted configuration. -/
def selector (failover : ExclusiveFailoverConfig) (h : FailoverAccepted lib failover) :
    FailoverConfig where
  primaryName := String.ofList failover.primaryName
  primaryPriority := failover.primaryPriority.toNat
  failureCooldownSeconds := failover.failureCooldownSeconds.toNat
  transports := failover.transports.map selectorTransport
  named := by
    intro name hname
    have hofList : ∀ {text : Text}, text ≠ [] → String.ofList text ≠ "" := by
      intro text htext heq
      exact htext (by simpa using congrArg String.toList heq)
    obtain rfl | hname := List.mem_cons.mp hname
    · exact hofList (ne_nil_of_matches h.primary_matches)
    · rw [List.map_map, List.mem_map] at hname
      obtain ⟨transport, htransport, rfl⟩ := hname
      exact hofList (ne_nil_of_matches (h.accepted transport htransport).name_matches)
  distinct := by
    have hmap := h.distinct.map fun _ _ => String.ofList_injective
    rw [List.map_cons, List.map_map] at hmap
    rw [List.map_map]
    exact hmap
  cooldown := by
    have hpos := h.cooldown_pos
    omega
  fallback := by
    intro hnil
    exact h.fallback (List.map_eq_nil_iff.mp hnil)

/-- Every transport of an accepted configuration resolves to its own target. -/
theorem resolve_transport {failover : ExclusiveFailoverConfig} (h : FailoverAccepted lib failover)
    (base : TargetConfig) {transport : SshfsTransportConfig} (hmem : transport ∈ failover.transports) :
    failover.resolve base transport.name = .ok (failover.sshfsTarget base transport) := by
  obtain ⟨hprimary, hnodup⟩ := List.nodup_cons.mp h.distinct
  have hname : transport.name ≠ failover.primaryName := by
    intro heq
    exact hprimary (heq ▸ List.mem_map_of_mem hmem)
  have hfind : failover.transports.find? (fun other => other.name = transport.name) =
      some transport := by
    cases hfound : failover.transports.find? (fun other => other.name = transport.name) with
    | none => exact absurd (decide_eq_true rfl) (List.find?_eq_none.mp hfound transport hmem)
    | some other =>
      have hother := List.find?_some hfound
      rw [List.inj_on_of_nodup_map hnodup (List.mem_of_find?_eq_some hfound) hmem
        (of_decide_eq_true hother)]
  rw [resolve, if_neg hname, hfind]

end ExclusiveFailoverConfig

end StorageNode.Transport
