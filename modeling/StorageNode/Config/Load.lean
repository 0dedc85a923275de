import StorageNode.Config.Target

/-!
# Loading the configuration

`load_config` from the parsed TOML on, section by section in the order of the source, with the records
of `config_types`.
-/

set_option autoImplicit false
set_option linter.dupNamespace false

namespace StorageNode.Config

/-- `appliance.worker_fencing_mode`. -/
inductive FencingMode where
  | disabled
  | namespaced
  deriving DecidableEq

/-- `metadata.backend`. -/
inductive Backend where
  | embedded
  | postgres
  | custom
  deriving DecidableEq

/-- `s3.auth_mode`. -/
inductive AuthMode where
  | static
  | config
  | none
  deriving DecidableEq

/-- `s3.tls_mode`. -/
inductive TlsMode where
  | off
  | terminate
  deriving DecidableEq

/-- `ApplianceConfig`. -/
structure ApplianceConfig where
  name : Text
  stateDir : PosixPath
  runtimeDir : PosixPath
  uid : Int
  gid : Int
  healthHost : Text
  healthPort : Int
  probeIntervalSeconds : Int
  fullProbeIntervalSeconds : Int
  probeTimeoutSeconds : Int
  startupTimeoutSeconds : Int
  shutdownGraceSeconds : Int
  recoveryInitialSeconds : Int
  recoveryMaxSeconds : Int
  recoveryStabilitySeconds : Int
  recoveryProbeIntervalSeconds : Int
  recoverySuccessesRequired : Int
  s3CanaryEnabled : Bool
  workerFencingMode : FencingMode
  workerHostAddress : Text
  workerAddress : Text
  workerGateway : Text
  deriving DecidableEq

/-- `MetadataConfig`. -/
structure MetadataConfig where
  backend : Backend
  target : Text
  directory : Text
  postgresHost : Text
  postgresPort : Int
  postgresUser : Text
  postgresPasswordFile : Text
  postgresDatabase : Text
  postgresSchema : Text
  postgresSslmode : Text
  customFilerToml : Text
  deriving DecidableEq

/-- `IndexConfig`. -/
structure IndexConfig where
  target : Text
  directory : Text
  deriving DecidableEq

/-- `SeaweedConfig`. -/
structure SeaweedConfig where
  binary : Text
  masterPort : Int
  volumePort : Int
  filerPort : Int
  s3InternalPort : Int
  volumeDirectory : Text
  volumeMax : Int
  volumeSizeLimitMb : Int
  defaultReplication : Text
  filerMaxMb : Int
  dataCenter : Text
  rack : Text
  diskType : Text
  volumeExtraArgs : List Text
  masterExtraArgs : List Text
  filerExtraArgs : List Text
  s3ExtraArgs : List Text
  encryptVolumeData : Bool
  volumeHealthEnabled : Bool
  expectedReadonlyVolumeIds : List Int
  allReadonlyWaitSeconds : Int
  autoIndexRepairEnabled : Bool
  indexRepairConcurrency : Int
  indexRepairMaxVolumes : Int
  indexRepairTimeoutSeconds : Int
  autoTailRecoveryEnabled : Bool
  autoTailRecoveryMaxBytes : Int
  concurrentUploadLimitMb : Int
  inflightUploadTimeoutSeconds : Int
  deriving DecidableEq

/-- `S3AdmissionConfig`. -/
structure S3AdmissionConfig where
  enabled : Bool
  adaptiveEnabled : Bool
  slowProbeSeconds : Int
  healthyWindowSeconds : Int
  maxActiveReadRequests : Int
  maxActiveWriteRequests : Int
  maxQueuedReadRequests : Int
  maxQueuedWriteRequests : Int
  queueTimeoutSeconds : Int
  deriving DecidableEq

/-- `S3Config`. -/
structure S3Config where
  host : Text
  port : Int
  domainName : Text
  allowedOrigins : Text
  externalUrl : Text
  authMode : AuthMode
  accessKeyFile : Text
  secretKeyFile : Text
  authConfigFile : Text
  canaryAccessKeyFile : Text
  canarySecretKeyFile : Text
  iamConfigFile : Text
  auditLogConfigFile : Text
  tlsMode : TlsMode
  tlsPemFile : Text
  admission : S3AdmissionConfig
  deriving DecidableEq

/-- The targets by name. -/
abbrev Targets := List (Text × TargetConfig)

/-- `targets[name]`. -/
def Targets.get? (targets : Targets) (name : Text) : Option TargetConfig :=
  (targets.find? fun t => t.1 = name).map Prod.snd

/-- `Config`. -/
structure Config where
  appliance : ApplianceConfig
  targets : Targets
  metadata : MetadataConfig
  index : IndexConfig
  seaweed : SeaweedConfig
  s3 : S3Config
  deriving DecidableEq

namespace Config

/-- `active_target_names`. -/
def activeTargetNames (config : Config) : List Text :=
  (["data".toList, config.index.target] ++
    if config.metadata.backend = .embedded then [config.metadata.target] else []).eraseDups

/-- `active_targets`. -/
def activeTargets (config : Config) : List TargetConfig :=
  config.activeTargetNames.filterMap config.targets.get?

/-- `storage_root / directory` of the target with a name. -/
def rolePath (config : Config) (target directory : Text) : Option PosixPath :=
  (config.targets.get? target).map fun t => t.storageRoot.join (PosixPath.parse directory)

/-- `volume_path`. -/
def volumePath (config : Config) : Option PosixPath :=
  config.rolePath "data" config.seaweed.volumeDirectory

/-- `metadata_path`. -/
def metadataPath (config : Config) : Option PosixPath :=
  config.rolePath config.metadata.target config.metadata.directory

/-- `index_path`. -/
def indexPath (config : Config) : Option PosixPath :=
  config.rolePath config.index.target config.index.directory

end Config

/-! ## Accessors of a section -/

/-- One value of a list of choices. -/
def choice {α : Type} (choices : List (Text × α)) (message : String) (text : Text) :
    Except Raised α :=
  match choices.find? fun c => c.1 = text with
  | some c => .ok c.2
  | none => .error (.config message)

/-- A string setting of a section. -/
def stringAt (raw : Table) (part key : String) (default : Text) : Except Raised Text :=
  string (raw.get? key) s!"{part}.{key}" default

/-- An integer setting of a section. -/
def intAt (raw : Table) (part key : String) (default : Int) : Except Raised Int :=
  int (raw.get? key) s!"{part}.{key}" default

/-- A boolean setting of a section. -/
def boolAt (raw : Table) (part key : String) (default : Bool) : Except Raised Bool :=
  bool (raw.get? key) s!"{part}.{key}" default

/-- A list of strings in a section. -/
def stringListAt (raw : Table) (part key : String) : Except Raised (List Text) :=
  stringList (raw.get? key) s!"{part}.{key}"

/-- A relative path in a section. -/
def relativePathAt (raw : Table) (part key : String) (default : Text) : Except Raised Text :=
  relativePath (raw.get? key) s!"{part}.{key}" default

/-- `_positive` for some fields of a section, in order. -/
def allPositive (part : String) : List (String × Int) → Except Raised Unit
  | [] => .ok ()
  | (key, value) :: rest => do
    positive value s!"{part}.{key}"
    allPositive part rest

/-! ## Sections -/

/-- The checks on the addresses of the worker namespace. -/
def checkWorkerAddresses (lib : Library) (hostAddress workerAddress gateway : Text) :
    Except Raised Unit :=
  match lib.ipInterface hostAddress, lib.ipInterface workerAddress, lib.ipAddress gateway with
  | .error e, _, _ | .ok _, .error e, _ | .ok _, .ok _, .error e =>
    .error (.config s!"invalid worker namespace address: {e}")
  | .ok host, .ok worker, .ok (version, ip) => do
    require (decide (host.version = 4 ∧ worker.version = 4 ∧ version = 4))
      "worker namespace addresses must be IPv4"
    require (decide (host.network = worker.network))
      "worker_host_address and worker_address must share one subnet"
    require (decide (host.ip ≠ worker.ip))
      "worker_host_address and worker_address must use different addresses"
    require (decide (version = host.version ∧ ip = host.ip))
      "worker_gateway must equal the worker_host_address IP"

/-- `[appliance]`. -/
def parseAppliance (lib : Library) (raw : Table) : Except Raised ApplianceConfig := do
  let runtimeDir ← stringAt raw "appliance" "runtime_dir" "/run/s3-storage-node"
  let stateDir ← stringAt raw "appliance" "state_dir" "/var/lib/s3-storage-node"
  let runtimeDir := PosixPath.parse runtimeDir
  let stateDir := PosixPath.parse stateDir
  require (runtimeDir.isAbsolute && stateDir.isAbsolute)
    "appliance.state_dir and appliance.runtime_dir must be absolute"
  require (!(decide (stateDir = runtimeDir) || stateDir.isRelativeTo runtimeDir))
    "appliance.state_dir must not be inside the ephemeral runtime_dir"
  let fencing ← stringAt raw "appliance" "worker_fencing_mode" "disabled"
  let fencing ← choice [("disabled".toList, FencingMode.disabled), ("namespace".toList, .namespaced)]
    "appliance.worker_fencing_mode must be disabled or namespace" (lib.lower fencing)
  let hostAddress ← stringAt raw "appliance" "worker_host_address" "169.254.254.1/30"
  let workerAddress ← stringAt raw "appliance" "worker_address" "169.254.254.2/30"
  let gateway ← stringAt raw "appliance" "worker_gateway" "169.254.254.1"
  checkWorkerAddresses lib hostAddress workerAddress gateway
  let appliance : ApplianceConfig :=
    { name := ← stringAt raw "appliance" "name" "s3-storage-node"
      stateDir := stateDir
      runtimeDir := runtimeDir
      uid := ← intAt raw "appliance" "uid" 10001
      gid := ← intAt raw "appliance" "gid" 10001
      healthHost := ← stringAt raw "appliance" "health_host" "0.0.0.0"
      healthPort := ← intAt raw "appliance" "health_port" 9090
      probeIntervalSeconds := ← intAt raw "appliance" "probe_interval_seconds" 5
      fullProbeIntervalSeconds := ← intAt raw "appliance" "full_probe_interval_seconds" 60
      probeTimeoutSeconds := ← intAt raw "appliance" "probe_timeout_seconds" 15
      startupTimeoutSeconds := ← intAt raw "appliance" "startup_timeout_seconds" 30
      shutdownGraceSeconds := ← intAt raw "appliance" "shutdown_grace_seconds" 45
      recoveryInitialSeconds := ← intAt raw "appliance" "recovery_initial_seconds" 5
      recoveryMaxSeconds := ← intAt raw "appliance" "recovery_max_seconds" 60
      recoveryStabilitySeconds := ← intAt raw "appliance" "recovery_stability_seconds" 15
      recoveryProbeIntervalSeconds := ← intAt raw "appliance" "recovery_probe_interval_seconds" 2
      recoverySuccessesRequired := ← intAt raw "appliance" "recovery_successes_required" 3
      s3CanaryEnabled := ← boolAt raw "appliance" "s3_canary_enabled" true
      workerFencingMode := fencing
      workerHostAddress := hostAddress
      workerAddress := workerAddress
      workerGateway := gateway }
  allPositive "appliance"
    [("health_port", appliance.healthPort),
      ("probe_interval_seconds", appliance.probeIntervalSeconds),
      ("full_probe_interval_seconds", appliance.fullProbeIntervalSeconds),
      ("probe_timeout_seconds", appliance.probeTimeoutSeconds),
      ("startup_timeout_seconds", appliance.startupTimeoutSeconds),
      ("shutdown_grace_seconds", appliance.shutdownGraceSeconds),
      ("recovery_initial_seconds", appliance.recoveryInitialSeconds),
      ("recovery_max_seconds", appliance.recoveryMaxSeconds),
      ("recovery_probe_interval_seconds", appliance.recoveryProbeIntervalSeconds),
      ("recovery_successes_required", appliance.recoverySuccessesRequired),
      ("recovery_stability_seconds", appliance.recoveryStabilitySeconds)]
  require (decide (appliance.recoveryInitialSeconds ≤ appliance.recoveryMaxSeconds))
    "appliance.recovery_initial_seconds may not exceed recovery_max_seconds"
  pure appliance

/-- The loop over the names of targets. -/
def parseTargets (lib : Library) (storage : Table) (runtimeDir : PosixPath) :
    List String → Except Raised Targets
  | [] => pure []
  | name :: names => match storage.get? name with
    | none => parseTargets lib storage runtimeDir names
    | some (.table raw) => do
      let target ← parseTarget lib name raw runtimeDir
      let targets ← parseTargets lib storage runtimeDir names
      pure ((name.toList, target) :: targets)
    | some _ => .error (.config s!"[storage.{name}] must be a table")

/-- `[storage]`. -/
def parseStorage (lib : Library) (storage : Table) (runtimeDir : PosixPath) :
    Except Raised Targets :=
  match storage.get? "data" with
  | some (.table _) => parseTargets lib storage runtimeDir ["data", "metadata", "index"]
  | _ => .error (.config "[storage.data] is required")

/-- `path.resolve(strict=False)`. -/
def resolvePath (lib : Library) (path : PosixPath) : Except Raised PosixPath :=
  match lib.resolve path with
  | .ok path => .ok path
  | .error e => .error (.host e)

/-- Targets that may be initialised lie beneath the state directory. -/
def checkInitialize (lib : Library) (stateDir : PosixPath) : Targets → Except Raised Unit
  | [] => .ok ()
  | (_, target) :: targets => do
    if target.type = .path ∧ target.allowInitialize = true then do
      let mountpoint ← resolvePath lib target.mountpoint
      let state ← resolvePath lib stateDir
      require (mountpoint.isRelativeTo state)
        (s!"storage.{String.ofList target.name}.allow_initialize may only be true for path " ++
          s!"targets beneath appliance.state_dir ({String.ofList stateDir.text}); externally " ++
          "managed paths must be enrolled manually and use allow_initialize=false")
    checkInitialize lib stateDir targets

/-- `[metadata]`. -/
def parseMetadata (lib : Library) (raw : Table) (targets : Targets) :
    Except Raised MetadataConfig := do
  let backend ← stringAt raw "metadata" "backend" "embedded"
  let backend ← choice [("embedded".toList, Backend.embedded), ("postgres".toList, .postgres),
    ("custom".toList, .custom)] "metadata.backend must be embedded, postgres, or custom"
    (lib.lower backend)
  let metadata : MetadataConfig :=
    { backend := backend
      target := ← stringAt raw "metadata" "target" "metadata"
      directory := ← relativePathAt raw "metadata" "directory" "filer"
      postgresHost := ← stringAt raw "metadata" "postgres_host" []
      postgresPort := ← intAt raw "metadata" "postgres_port" 5432
      postgresUser := ← stringAt raw "metadata" "postgres_user" []
      postgresPasswordFile := ← stringAt raw "metadata" "postgres_password_file" []
      postgresDatabase := ← stringAt raw "metadata" "postgres_database" []
      postgresSchema := ← stringAt raw "metadata" "postgres_schema" "public"
      postgresSslmode := ← stringAt raw "metadata" "postgres_sslmode" "require"
      customFilerToml := ← stringAt raw "metadata" "custom_filer_toml" [] }
  require (decide (metadata.backend ≠ .embedded) || (targets.get? metadata.target).isSome)
    s!"metadata.target references missing storage target: {String.ofList metadata.target}"
  let missing := ([("postgres_host", metadata.postgresHost), ("postgres_user", metadata.postgresUser),
    ("postgres_password_file", metadata.postgresPasswordFile),
    ("postgres_database", metadata.postgresDatabase)].filter fun s => s.2 = []).map Prod.fst
  require (decide (metadata.backend ≠ .postgres ∨ missing = []))
    ("metadata postgres settings missing: " ++ ", ".intercalate missing)
  require (decide (metadata.backend ≠ .custom ∨ metadata.customFilerToml ≠ []))
    "metadata.custom_filer_toml is required for custom backend"
  pure metadata

/-- `[index]`. -/
def parseIndex (raw : Table) (targets : Targets) : Except Raised IndexConfig := do
  let index : IndexConfig :=
    { target := ← stringAt raw "index" "target" "index"
      directory := ← relativePathAt raw "index" "directory" "volume-indexes" }
  require (targets.get? index.target).isSome
    s!"index.target references missing storage target: {String.ofList index.target}"
  pure index

/-- The record of `[seaweed]`. -/
def readSeaweed (raw : Table) : Except Raised SeaweedConfig := do
  pure
    { binary := ← stringAt raw "seaweed" "binary" "/usr/local/bin/weed"
      masterPort := ← intAt raw "seaweed" "master_port" 9333
      volumePort := ← intAt raw "seaweed" "volume_port" 8080
      filerPort := ← intAt raw "seaweed" "filer_port" 8888
      s3InternalPort := ← intAt raw "seaweed" "s3_internal_port" 18333
      volumeDirectory := ← relativePathAt raw "seaweed" "volume_directory" "volumes"
      volumeMax := ← intAt raw "seaweed" "volume_max" 0
      volumeSizeLimitMb := ← intAt raw "seaweed" "volume_size_limit_mb" 30000
      defaultReplication := ← stringAt raw "seaweed" "default_replication" "000"
      filerMaxMb := ← intAt raw "seaweed" "filer_max_mb" 16
      dataCenter := ← stringAt raw "seaweed" "data_center" []
      rack := ← stringAt raw "seaweed" "rack" []
      diskType := ← stringAt raw "seaweed" "disk_type" []
      volumeExtraArgs := ← stringListAt raw "seaweed" "volume_extra_args"
      masterExtraArgs := ← stringListAt raw "seaweed" "master_extra_args"
      filerExtraArgs := ← stringListAt raw "seaweed" "filer_extra_args"
      s3ExtraArgs := ← stringListAt raw "seaweed" "s3_extra_args"
      encryptVolumeData := ← boolAt raw "seaweed" "encrypt_volume_data" false
      volumeHealthEnabled := ← boolAt raw "seaweed" "volume_health_enabled" true
      expectedReadonlyVolumeIds := ← intList (raw.get? "expected_readonly_volume_ids")
        "seaweed.expected_readonly_volume_ids"
      allReadonlyWaitSeconds := ← intAt raw "seaweed" "all_readonly_wait_seconds" 75
      autoIndexRepairEnabled := ← boolAt raw "seaweed" "auto_index_repair_enabled" true
      indexRepairConcurrency := ← intAt raw "seaweed" "index_repair_concurrency" 1
      indexRepairMaxVolumes := ← intAt raw "seaweed" "index_repair_max_volumes" 2
      indexRepairTimeoutSeconds := ← intAt raw "seaweed" "index_repair_timeout_seconds" 3600
      autoTailRecoveryEnabled := ← boolAt raw "seaweed" "auto_tail_recovery_enabled" false
      autoTailRecoveryMaxBytes := ← intAt raw "seaweed" "auto_tail_recovery_max_bytes" 16777216
      concurrentUploadLimitMb := ← intAt raw "seaweed" "concurrent_upload_limit_mb" 32
      inflightUploadTimeoutSeconds := ← intAt raw "seaweed" "inflight_upload_timeout_seconds" 15 }

/-- The checks of `[seaweed]`. -/
def checkSeaweed (seaweed : SeaweedConfig) : Except Raised Unit := do
  allPositive "seaweed"
    [("master_port", seaweed.masterPort), ("volume_port", seaweed.volumePort),
      ("filer_port", seaweed.filerPort), ("s3_internal_port", seaweed.s3InternalPort),
      ("volume_size_limit_mb", seaweed.volumeSizeLimitMb), ("filer_max_mb", seaweed.filerMaxMb)]
  positiveOrZero seaweed.volumeMax "seaweed.volume_max"
  require (seaweed.expectedReadonlyVolumeIds.all fun id => decide (0 < id))
    "seaweed.expected_readonly_volume_ids must contain positive volume IDs"
  require (decide seaweed.expectedReadonlyVolumeIds.Nodup)
    "seaweed.expected_readonly_volume_ids must not contain duplicates"
  allPositive "seaweed"
    [("all_readonly_wait_seconds", seaweed.allReadonlyWaitSeconds),
      ("index_repair_concurrency", seaweed.indexRepairConcurrency),
      ("index_repair_max_volumes", seaweed.indexRepairMaxVolumes),
      ("index_repair_timeout_seconds", seaweed.indexRepairTimeoutSeconds),
      ("auto_tail_recovery_max_bytes", seaweed.autoTailRecoveryMaxBytes),
      ("concurrent_upload_limit_mb", seaweed.concurrentUploadLimitMb),
      ("inflight_upload_timeout_seconds", seaweed.inflightUploadTimeoutSeconds)]
  require (decide (seaweed.indexRepairConcurrency ≤ 8))
    "seaweed.index_repair_concurrency may not exceed 8"
  require (!(seaweed.autoIndexRepairEnabled && !seaweed.volumeHealthEnabled))
    "seaweed.auto_index_repair_enabled requires seaweed.volume_health_enabled"

/-- `[s3.admission]`. -/
def parseAdmission (raw : Table) : Except Raised S3AdmissionConfig := do
  let admission : S3AdmissionConfig :=
    { enabled := ← boolAt raw "s3.admission" "enabled" true
      adaptiveEnabled := ← boolAt raw "s3.admission" "adaptive_enabled" true
      slowProbeSeconds := ← intAt raw "s3.admission" "slow_probe_seconds" 2
      healthyWindowSeconds := ← intAt raw "s3.admission" "healthy_window_seconds" 300
      maxActiveReadRequests := ← intAt raw "s3.admission" "max_active_read_requests" 16
      maxActiveWriteRequests := ← intAt raw "s3.admission" "max_active_write_requests" 2
      maxQueuedReadRequests := ← intAt raw "s3.admission" "max_queued_read_requests" 32
      maxQueuedWriteRequests := ← intAt raw "s3.admission" "max_queued_write_requests" 4
      queueTimeoutSeconds := ← intAt raw "s3.admission" "queue_timeout_seconds" 3 }
  allPositive "s3.admission"
    [("max_active_read_requests", admission.maxActiveReadRequests),
      ("max_active_write_requests", admission.maxActiveWriteRequests),
      ("max_queued_read_requests", admission.maxQueuedReadRequests),
      ("max_queued_write_requests", admission.maxQueuedWriteRequests),
      ("queue_timeout_seconds", admission.queueTimeoutSeconds),
      ("slow_probe_seconds", admission.slowProbeSeconds),
      ("healthy_window_seconds", admission.healthyWindowSeconds)]
  pure admission

/-- `[s3]`. -/
def parseS3 (lib : Library) (raw : Table) (canaryEnabled : Bool) : Except Raised S3Config := do
  let authMode ← stringAt raw "s3" "auth_mode" "static"
  let authMode ← choice [("static".toList, AuthMode.static), ("config".toList, .config),
    ("none".toList, .none)] "s3.auth_mode must be static, config, or none" (lib.lower authMode)
  let tlsMode ← stringAt raw "s3" "tls_mode" "off"
  let tlsMode ← choice [("off".toList, TlsMode.off), ("terminate".toList, .terminate)]
    "s3.tls_mode must be off or terminate" (lib.lower tlsMode)
  let admissionRaw ← table raw "admission"
  let admission ← parseAdmission admissionRaw
  let s3 : S3Config :=
    { host := ← stringAt raw "s3" "host" "0.0.0.0"
      port := ← intAt raw "s3" "port" 8333
      domainName := ← stringAt raw "s3" "domain_name" []
      allowedOrigins := ← stringAt raw "s3" "allowed_origins" "*"
      externalUrl := ← stringAt raw "s3" "external_url" []
      authMode := authMode
      accessKeyFile := ← stringAt raw "s3" "access_key_file" "/run/secrets/s3_access_key"
      secretKeyFile := ← stringAt raw "s3" "secret_key_file" "/run/secrets/s3_secret_key"
      authConfigFile := ← stringAt raw "s3" "auth_config_file" []
      canaryAccessKeyFile := ← stringAt raw "s3" "canary_access_key_file" []
      canarySecretKeyFile := ← stringAt raw "s3" "canary_secret_key_file" []
      iamConfigFile := ← stringAt raw "s3" "iam_config_file" []
      auditLogConfigFile := ← stringAt raw "s3" "audit_log_config_file" []
      tlsMode := tlsMode
      tlsPemFile := ← stringAt raw "s3" "tls_pem_file" []
      admission := admission }
  positive s3.port "s3.port"
  require (decide (1024 ≤ s3.port))
    ("s3.port must be 1024 or greater; publish privileged host ports through Docker port " ++
      "mapping")
  require (!(decide (s3.authMode = .static) && decide (s3.accessKeyFile = [] ∨ s3.secretKeyFile = [])))
    "static S3 auth requires access_key_file and secret_key_file"
  require (!(decide (s3.authMode = .config) && decide (s3.authConfigFile = [])))
    "config S3 auth requires auth_config_file"
  require (!(decide (s3.authMode = .config) && canaryEnabled &&
      decide (s3.canaryAccessKeyFile = [] ∨ s3.canarySecretKeyFile = [])))
    ("config S3 auth with canary enabled requires canary_access_key_file and " ++
      "canary_secret_key_file")
  require (!(decide (s3.tlsMode = .terminate) && decide (s3.tlsPemFile = [])))
    "TLS termination requires s3.tls_pem_file"
  pure s3

/-- The ports of the appliance. -/
def checkPorts (ports : List Int) : Except Raised Unit := do
  require (ports.all fun port => decide (port ≤ 65535)) "ports must be between 1 and 65535"
  require (decide ports.Nodup) "appliance and SeaweedFS ports must be unique"

/-- The loop over the active targets. -/
def checkMountpoints (lib : Library) : List TargetConfig → List (PosixPath × Text) →
    Except Raised Unit
  | [], _ => .ok ()
  | target :: targets, seen => do
    let resolved ← resolvePath lib target.mountpoint
    match (seen.find? fun s => s.1 = resolved).map Prod.snd with
    | some previous =>
      require (decide (previous = [] ∨ previous = target.name))
        (s!"active storage targets {String.ofList previous} and {String.ofList target.name} use " ++
          "the same mountpoint; reference one target from metadata/index instead")
    | none => pure ()
    checkMountpoints lib targets ((resolved, target.name) :: seen)

/-- The loop over the role directories. -/
def checkRoles : List (String × PosixPath) → List (PosixPath × String) → Except Raised Unit
  | [], _ => .ok ()
  | (role, path) :: roles, seen => do
    match seen.find? fun s => s.1 = path with
    | some previous =>
      throw (.config s!"SeaweedFS role directories {previous.2} and {role} resolve to the same path")
    | none => pure ()
    checkRoles roles ((path, role) :: seen)

/-- The resolved path of a role. -/
def resolveRole (lib : Library) : Option PosixPath → Except Raised PosixPath
  | some path => resolvePath lib path
  | none => .error (.host "KeyError")

/-- The checks on the whole configuration. -/
def checkConfig (lib : Library) (config : Config) : Except Raised Unit := do
  checkMountpoints lib config.activeTargets []
  let volume ← resolveRole lib config.volumePath
  let index ← resolveRole lib config.indexPath
  if config.metadata.backend = .embedded then do
    let metadata ← resolveRole lib config.metadataPath
    checkRoles [("volume", volume), ("index", index), ("metadata", metadata)] []
  else checkRoles [("volume", volume), ("index", index)] []

/-- `load_config`, from the parsed TOML on. -/
def loadConfig (lib : Library) (raw : Table) : Except Raised Config := do
  let applianceRaw ← table raw "appliance"
  let appliance ← parseAppliance lib applianceRaw
  let storageRaw ← table raw "storage"
  let targets ← parseStorage lib storageRaw appliance.runtimeDir
  require (!(decide (appliance.workerFencingMode = .namespaced) &&
      decide ((targets.get? "data").map (·.type) ≠ some .cifs)))
    "appliance.worker_fencing_mode=namespace currently requires storage.data.type=cifs"
  checkInitialize lib appliance.stateDir targets
  let metadataRaw ← table raw "metadata"
  let metadata ← parseMetadata lib metadataRaw targets
  let indexRaw ← table raw "index"
  let index ← parseIndex indexRaw targets
  let seaweedRaw ← table raw "seaweed"
  let seaweed ← readSeaweed seaweedRaw
  checkSeaweed seaweed
  let s3Raw ← table raw "s3"
  let s3 ← parseS3 lib s3Raw appliance.s3CanaryEnabled
  checkPorts [appliance.healthPort, seaweed.masterPort, seaweed.volumePort, seaweed.filerPort,
    seaweed.s3InternalPort, s3.port]
  let config : Config := ⟨appliance, targets, metadata, index, seaweed, s3⟩
  checkConfig lib config
  pure config

/-- A configuration with one CIFS target for all roles, with some further settings of the target and of
SeaweedFS. -/
def nodeTable (data seaweed : Table) : Table :=
  [("storage".toList, .table [("data".toList, .table (cifsTable data []))]),
    ("metadata".toList, .table [("target".toList, .str "data".toList)]),
    ("index".toList, .table [("target".toList, .str "data".toList)]),
    ("seaweed".toList, .table seaweed)]

end StorageNode.Config
