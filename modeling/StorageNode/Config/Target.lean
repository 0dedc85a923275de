import Mathlib.Algebra.Group.Nat.Defs
import StorageNode.Config.Helpers
import Mathlib.Data.List.Dedup

/-!
# Storage targets

`_parse_target` of `config_target` with the canonicalisation of CIFS options, and `TargetConfig`.

The mount options of a CIFS target may hold options that the guardian owns, as older configurations
did: `soft` and `hard`, the handle options and the multichannel options. The parser turns them into the
explicit policies and keeps the other options in order.
-/

set_option autoImplicit false

namespace StorageNode.Config

/-- An interface address of `ipaddress`, with its network. -/
structure Interface where
  version : Nat
  ip : Nat
  network : Nat × Nat
  deriving DecidableEq

/-- The parts of the standard library and of the host that are left open: case mapping, `int` of a
string, `ipaddress` and `Path.resolve(strict=False)`. -/
structure Library where
  case : CaseMapping
  int : Text → Option Int
  ipInterface : Text → Except String Interface
  ipAddress : Text → Except String (Nat × Nat)
  resolve : PosixPath → Except String PosixPath

/-- A plain decimal number. -/
def decimal (text : Text) : Option Nat :=
  if text ≠ [] ∧ text.all Char.isDigit then
    some (text.foldl (fun n c => 10 * n + (c.toNat - '0'.toNat)) 0)
  else none

/-- A dotted IPv4 address. -/
def ipv4 (text : Text) : Option Nat :=
  match (text.splitOn '.').mapM decimal with
  | some [a, b, c, d] =>
    if a < 256 ∧ b < 256 ∧ c < 256 ∧ d < 256 then some (((a * 256 + b) * 256 + c) * 256 + d) else none
  | _ => none

/-- A library for ASCII texts, plain decimal numbers and IPv4, on a host without links. -/
def Library.plain : Library where
  case := .ascii
  int text := (decimal text).map Int.ofNat
  ipInterface text := match text.splitOn '/' with
    | [address, bits] => match ipv4 address, decimal bits with
      | some ip, some bits => .ok ⟨4, ip, ip / 2 ^ (32 - bits), bits⟩
      | _, _ => .error "not an IPv4 interface"
    | _ => .error "not an IPv4 interface"
  ipAddress text := match ipv4 text with
    | some ip => .ok (4, ip)
    | none => .error "not an IPv4 address"
  resolve := .ok

/-- `str.lower`. -/
def Library.lower (lib : Library) : Text → Text :=
  lib.case.lower

/-- The first text that is not empty. -/
def orElse (first second : Text) : Text :=
  if first = [] then second else first

/-- The kinds of a target; `sshfs` comes from a failover transport only. -/
inductive TargetType where
  | cifs
  | block
  | path
  | sshfs
  deriving DecidableEq

/-- `TargetConfig`. -/
structure TargetConfig where
  name : Text
  type : TargetType
  mountpoint : PosixPath
  subdirectory : Text
  sentinelId : Text
  sentinelFile : Text
  allowInitialize : Bool
  minFreeBytes : Int
  source : Text
  credentialsFile : Text
  mountOptions : List Text
  ioFailurePolicy : Text
  minimumSmbDialect : Text
  handleReconnectPolicy : Text
  multichannelPolicy : Text
  maxChannels : Int
  requireTransportObservability : Bool
  device : Text
  expectedUuid : Text
  expectedFilesystem : Text
  transportName : Text := []
  sshAuthMode : Text := "key".toList
  sshIdentityFile : Text := []
  sshCredentialsFile : Text := []
  sshKnownHostsFile : Text := []
  sshRuntimeIdentityFile : Text := []
  sshRuntimePidFile : Text := []
  sshPort : Int := 22
  deriving DecidableEq

/-- `TargetConfig.storage_root`. -/
def TargetConfig.storageRoot (target : TargetConfig) : PosixPath :=
  if target.subdirectory = [] then target.mountpoint
  else target.mountpoint.join (PosixPath.parse target.subdirectory)

/-- `TargetConfig.effective_io_failure_policy`. -/
def TargetConfig.effectiveIoFailurePolicy (target : TargetConfig) : Text :=
  orElse target.ioFailurePolicy "soft"

/-! ## CIFS options -/

/-- `_CIFS_IO_FAILURE_POLICIES`. -/
def ioFailurePolicies : List Text := ["soft".toList, "hard".toList]

/-- `_CIFS_HANDLE_POLICIES`. -/
def handlePolicies : List Text :=
  ["disabled".toList, "auto".toList, "resilient".toList, "persistent".toList]

/-- `_CIFS_MULTICHANNEL_POLICIES`. -/
def multichannelPolicies : List Text := ["disabled".toList, "auto".toList, "required".toList]

/-- `_SMB_DIALECTS`. -/
def smbDialects : List Text :=
  ["1.0".toList, "2.0".toList, "2.1".toList, "3.0".toList, "3.02".toList, "3.1.1".toList]

/-- `_HANDLE_OPTIONS`. -/
def handleOptions : List Text :=
  ["persistenthandles".toList, "resilienthandles".toList, "nopersistenthandles".toList,
    "noresilienthandles".toList]

/-- `_MULTICHANNEL_OPTIONS`. -/
def multichannelOptions : List Text :=
  ["multichannel".toList, "nomultichannel".toList, "max_channels".toList]

/-- The names of all options that the guardian owns. -/
def guardianOwned : List Text :=
  ioFailurePolicies ++ (handleOptions ++ multichannelOptions)

/-- `_mount_option_name`. -/
def mountOptionName (lib : Library) (option : Text) : Text :=
  lib.lower (option.before '=').strip

/-- The names of some options. -/
def optionNames (lib : Library) (mountOptions : List Text) : List Text :=
  mountOptions.map (mountOptionName lib)

/-- The options whose names are not in a list. -/
def withoutNames (lib : Library) (names : List Text) (mountOptions : List Text) : List Text :=
  mountOptions.filter fun option => mountOptionName lib option ∉ names

/-- `_normalize_dialect`. -/
def normalizeDialect (lib : Library) (value : Text) : Text :=
  let value := lib.lower value.strip
  if value = "3.0.2".toList then "3.02"
  else if value = "smb3".toList then "3.0"
  else if value = "smb3.1.1".toList then "3.1.1"
  else value

/-- `_parse_cifs_io_failure_policy`. -/
def parseCifsIoFailurePolicy (lib : Library) (name : String) (raw : Table)
    (mountOptions : List Text) : Except Raised (Text × List Text) := do
  let configured ← string (raw.get? "io_failure_policy") s!"storage.{name}.io_failure_policy" []
  let configured := lib.lower configured.strip
  require (decide (configured = [] ∨ configured ∈ ioFailurePolicies))
    s!"storage.{name}.io_failure_policy must be soft or hard"
  let legacyPolicies := ((optionNames lib mountOptions).filter (· ∈ ioFailurePolicies)).dedup
  require (decide (legacyPolicies.length ≤ 1))
    s!"storage.{name}.mount_options may not contain both soft and hard"
  let legacy := legacyPolicies.head?.getD []
  require (decide (configured = [] ∨ legacy = [] ∨ configured = legacy))
    (s!"storage.{name}.io_failure_policy={String.ofList configured} conflicts with " ++
      s!"mount_options containing {String.ofList legacy}")
  pure (orElse (orElse configured legacy) "soft", withoutNames lib ioFailurePolicies mountOptions)

/-- The policy that the handle options of a target ask for. -/
def handleChoice (persistent resilient negative : Bool) : Text :=
  if persistent then "persistent" else if resilient then "resilient"
  else if negative then "disabled" else []

/-- `_legacy_handle_policy`. -/
def legacyHandlePolicy (lib : Library) (name : String) (mountOptions : List Text) :
    Except Raised Text := do
  let names := optionNames lib mountOptions
  let persistent := decide ("persistenthandles".toList ∈ names)
  let resilient := decide ("resilienthandles".toList ∈ names)
  let negative :=
    decide ("nopersistenthandles".toList ∈ names ∨ "noresilienthandles".toList ∈ names)
  require (!(persistent && resilient))
    s!"storage.{name}.mount_options may not contain both persistenthandles and resilienthandles"
  require (!((persistent || resilient) && negative))
    s!"storage.{name}.mount_options contains contradictory handle reconnect options"
  pure (handleChoice persistent resilient negative)

/-- The values of the `max_channels` options. -/
def maxChannelsValues (lib : Library) (mountOptions : List Text) : List Text :=
  (mountOptions.filter fun option => mountOptionName lib option = "max_channels".toList).map
    fun option => (option.past '=').strip

/-- The number in the only `max_channels` option. -/
def legacyMaxChannels (lib : Library) (name : String) (mountOptions : List Text) :
    Except Raised (Option Int) :=
  match maxChannelsValues lib mountOptions with
  | [] => .ok none
  | value :: more => do
    require (decide (more = [])) s!"storage.{name}.mount_options may contain max_channels only once"
    match lib.int value with
    | some n => pure (some n)
    | none => throw (.config s!"storage.{name}.mount_options max_channels must be an integer")

/-- The policy that the multichannel options of a target ask for. -/
def multichannelChoice (positive negative : Bool) : Text :=
  if positive then "required" else if negative then "disabled" else []

/-- `_legacy_multichannel_policy`. -/
def legacyMultichannelPolicy (lib : Library) (name : String) (mountOptions : List Text) :
    Except Raised (Text × Option Int) := do
  let names := optionNames lib mountOptions
  let positive := decide ("multichannel".toList ∈ names ∨ "max_channels".toList ∈ names)
  let negative := decide ("nomultichannel".toList ∈ names)
  require (!(positive && negative))
    s!"storage.{name}.mount_options contains contradictory multichannel options"
  let legacyMax ← legacyMaxChannels lib name mountOptions
  pure (multichannelChoice positive negative, legacyMax)

/-- What `_parse_cifs_transport_policy` returns beside the remaining options. -/
structure TransportPolicy where
  minimumSmbDialect : Text := []
  handleReconnectPolicy : Text := "disabled".toList
  multichannelPolicy : Text := "disabled".toList
  maxChannels : Int := 2
  requireTransportObservability : Bool := false
  deriving DecidableEq

/-- The transport policies of a target. -/
def TargetConfig.transport (target : TargetConfig) : TransportPolicy where
  minimumSmbDialect := target.minimumSmbDialect
  handleReconnectPolicy := target.handleReconnectPolicy
  multichannelPolicy := target.multichannelPolicy
  maxChannels := target.maxChannels
  requireTransportObservability := target.requireTransportObservability

/-- `legacy_max or 2`. -/
def maxChannelsDefault : Option Int → Int
  | none => 2
  | some n => if n = 0 then 2 else n

/-- The dialect setting. -/
def parseMinimumDialect (lib : Library) (name : String) (raw : Table) : Except Raised Text := do
  let dialect ← string (raw.get? "minimum_smb_dialect") s!"storage.{name}.minimum_smb_dialect" []
  let dialect := normalizeDialect lib dialect
  require (decide (dialect = [] ∨ dialect ∈ smbDialects))
    s!"storage.{name}.minimum_smb_dialect must be one of 1.0, 2.0, 2.1, 3.0, 3.02, 3.1.1"
  pure dialect

/-- The handle setting with its legacy options. -/
def parseHandlePolicy (lib : Library) (name : String) (raw : Table) (mountOptions : List Text) :
    Except Raised Text := do
  let configured ← string (raw.get? "handle_reconnect_policy")
    s!"storage.{name}.handle_reconnect_policy" []
  let configured := lib.lower configured.strip
  require (decide (configured = [] ∨ configured ∈ handlePolicies))
    s!"storage.{name}.handle_reconnect_policy must be disabled, auto, resilient, or persistent"
  let legacy ← legacyHandlePolicy lib name mountOptions
  require (decide (configured = [] ∨ legacy = [] ∨ configured = legacy))
    (s!"storage.{name}.handle_reconnect_policy={String.ofList configured} conflicts with " ++
      "legacy mount_options")
  pure (orElse (orElse configured legacy) "disabled")

/-- The multichannel settings with their legacy options. -/
def parseMultichannelPolicy (lib : Library) (name : String) (raw : Table)
    (mountOptions : List Text) : Except Raised (Text × Int) := do
  let configured ← string (raw.get? "multichannel_policy") s!"storage.{name}.multichannel_policy" []
  let configured := lib.lower configured.strip
  require (decide (configured = [] ∨ configured ∈ multichannelPolicies))
    s!"storage.{name}.multichannel_policy must be disabled, auto, or required"
  let (legacy, legacyMax) ← legacyMultichannelPolicy lib name mountOptions
  require (decide (configured = [] ∨ legacy = [] ∨ configured = legacy))
    (s!"storage.{name}.multichannel_policy={String.ofList configured} conflicts with " ++
      "legacy mount_options")
  let policy := orElse (orElse configured legacy) "disabled"
  let maxChannels ← int (raw.get? "max_channels") s!"storage.{name}.max_channels"
    (maxChannelsDefault legacyMax)
  require (decide (2 ≤ maxChannels ∧ maxChannels ≤ 16))
    s!"storage.{name}.max_channels must be between 2 and 16"
  require (!(decide (policy = "disabled".toList) && (raw.has "max_channels" || legacyMax.isSome)))
    s!"storage.{name}.max_channels requires multichannel_policy=auto or required"
  pure (policy, maxChannels)

/-- `_parse_cifs_transport_policy`. -/
def parseCifsTransportPolicy (lib : Library) (name : String) (raw : Table)
    (mountOptions : List Text) : Except Raised (TransportPolicy × List Text) := do
  let minimumDialect ← parseMinimumDialect lib name raw
  let handlePolicy ← parseHandlePolicy lib name raw mountOptions
  let (multichannelPolicy, maxChannels) ← parseMultichannelPolicy lib name raw mountOptions
  let requireObservability ← bool (raw.get? "require_transport_observability")
    s!"storage.{name}.require_transport_observability" false
  pure (⟨minimumDialect, handlePolicy, multichannelPolicy, maxChannels, requireObservability⟩,
    withoutNames lib (handleOptions ++ multichannelOptions) mountOptions)

/-! ## Targets -/

/-- The settings that only CIFS targets have, in alphabetical order. -/
def cifsOnly : List String :=
  ["handle_reconnect_policy", "io_failure_policy", "max_channels", "minimum_smb_dialect",
    "multichannel_policy", "require_transport_observability"]

/-- The kind of a target. -/
def parseTargetType (lib : Library) (name : String) (raw : Table) : Except Raised TargetType := do
  let type ← string (raw.get? "type") s!"storage.{name}.type" "path"
  let type := lib.lower type
  if type = "cifs".toList then pure .cifs
  else if type = "block".toList then pure .block
  else if type = "path".toList then pure .path
  else throw (.config s!"storage.{name}.type must be cifs, block, or path")

/-- Where a target lies. -/
structure Placement where
  mountpoint : PosixPath
  subdirectory : Text
  sentinelFile : Text

/-- `runtime_dir / "mounts"`. -/
def managedRoot (runtimeDir : PosixPath) : PosixPath :=
  runtimeDir.join (PosixPath.parse "mounts")

/-- The mountpoint, subdirectory and sentinel settings. -/
def parsePlacement (name : String) (raw : Table) (runtimeDir : PosixPath) :
    Except Raised Placement := do
  let defaultMountpoint := (managedRoot runtimeDir).join (PosixPath.parse name)
  let mountpoint ← string (raw.get? "mountpoint") s!"storage.{name}.mountpoint"
    defaultMountpoint.text
  let mountpoint := PosixPath.parse mountpoint
  require mountpoint.isAbsolute s!"storage.{name}.mountpoint must be absolute"
  let subdirectory ← string (raw.get? "subdirectory") s!"storage.{name}.subdirectory" []
  require (decide (subdirectory = []) || isPlainRelative subdirectory)
    s!"storage.{name}.subdirectory must be relative and may not contain '..'"
  let sentinelFile ← string (raw.get? "sentinel_file") s!"storage.{name}.sentinel_file"
    ".s3-storage-node.json"
  let sentinelPath := PosixPath.parse sentinelFile
  require (decide (sentinelFile ≠ []) && !sentinelPath.isAbsolute &&
      decide (sentinelPath.parts.length = 1))
    s!"storage.{name}.sentinel_file must be a single relative filename"
  pure ⟨mountpoint, subdirectory, sentinelFile⟩

/-- The policies of a target: a CIFS target has its own, other targets may not set any. -/
def parsePolicies (lib : Library) (name : String) (type : TargetType) (raw : Table)
    (mountOptions : List Text) : Except Raised (Text × TransportPolicy × List Text) :=
  if type = .cifs then do
    let (policy, mountOptions) ← parseCifsIoFailurePolicy lib name raw mountOptions
    let (transport, mountOptions) ← parseCifsTransportPolicy lib name raw mountOptions
    pure (policy, transport, mountOptions)
  else match cifsOnly.find? fun key => raw.has key with
    | some key => .error (.config s!"storage.{name}.{key} is only valid for CIFS targets")
    | none => .ok ([], {}, mountOptions)

/-- The call of `TargetConfig`. -/
def buildTarget (name : String) (raw : Table) (type : TargetType) (place : Placement)
    (ioFailurePolicy : Text) (transport : TransportPolicy) (mountOptions : List Text) :
    Except Raised TargetConfig := do
  let sentinelId ← string (raw.get? "sentinel_id") s!"storage.{name}.sentinel_id" []
  let allowInitialize ← bool (raw.get? "allow_initialize") s!"storage.{name}.allow_initialize" false
  let minFreeBytes ← int (raw.get? "min_free_bytes") s!"storage.{name}.min_free_bytes" 1073741824
  let source ← string (raw.get? "source") s!"storage.{name}.source" []
  let credentialsFile ← string (raw.get? "credentials_file") s!"storage.{name}.credentials_file" []
  let device ← string (raw.get? "device") s!"storage.{name}.device" []
  let expectedUuid ← string (raw.get? "expected_uuid") s!"storage.{name}.expected_uuid" []
  let expectedFilesystem ← string (raw.get? "expected_filesystem")
    s!"storage.{name}.expected_filesystem" []
  pure
    { name := name
      type := type
      mountpoint := place.mountpoint
      subdirectory := place.subdirectory
      sentinelId := sentinelId
      sentinelFile := place.sentinelFile
      allowInitialize := allowInitialize
      minFreeBytes := minFreeBytes
      source := source
      credentialsFile := credentialsFile
      mountOptions := mountOptions
      ioFailurePolicy := ioFailurePolicy
      minimumSmbDialect := transport.minimumSmbDialect
      handleReconnectPolicy := transport.handleReconnectPolicy
      multichannelPolicy := transport.multichannelPolicy
      maxChannels := transport.maxChannels
      requireTransportObservability := transport.requireTransportObservability
      device := device
      expectedUuid := expectedUuid
      expectedFilesystem := expectedFilesystem }

/-- The checks that depend on the kind of the target. -/
def checkTarget (name : String) (raw : Table) (runtimeDir : PosixPath) (target : TargetConfig) :
    Except Raised Unit :=
  match target.type with
  | .cifs => do
    require ("//".toList.isPrefixOf target.source)
      s!"storage.{name}.source must look like //server/share"
    require (decide (target.credentialsFile ≠ []))
      s!"storage.{name}.credentials_file is required for CIFS"
    require (target.mountpoint.isRelativeTo (managedRoot runtimeDir))
      (s!"storage.{name}.mountpoint for CIFS must be beneath " ++
        String.ofList (managedRoot runtimeDir).text)
  | .block => do
    require (decide (target.device ≠ [])) s!"storage.{name}.device is required for block storage"
    require (decide (target.expectedUuid ≠ []))
      s!"storage.{name}.expected_uuid is required for block storage"
    require (decide (target.expectedFilesystem ≠ []))
      s!"storage.{name}.expected_filesystem is required for block storage"
    require (target.mountpoint.isRelativeTo (managedRoot runtimeDir))
      (s!"storage.{name}.mountpoint for block storage must be beneath " ++
        String.ofList (managedRoot runtimeDir).text)
  | .path | .sshfs =>
    match raw.get? "mountpoint" with
    | none | some (.str []) =>
      .error (.config s!"storage.{name}.mountpoint is required for path storage")
    | some _ => .ok ()

/-- `_parse_target`. -/
def parseTarget (lib : Library) (name : String) (raw : Table) (runtimeDir : PosixPath) :
    Except Raised TargetConfig := do
  let type ← parseTargetType lib name raw
  let place ← parsePlacement name raw runtimeDir
  let mountOptions ← stringList (raw.get? "mount_options") s!"storage.{name}.mount_options"
  let (ioFailurePolicy, transport, mountOptions) ← parsePolicies lib name type raw mountOptions
  let target ← buildTarget name raw type place ioFailurePolicy transport mountOptions
  require (decide (target.sentinelId ≠ [])) s!"storage.{name}.sentinel_id is required"
  positiveOrZero target.minFreeBytes s!"storage.{name}.min_free_bytes"
  checkTarget name raw runtimeDir target
  pure target

/-- A CIFS table with some further settings and mount options. -/
def cifsTable (settings : Table) (options : List String) : Table :=
  settings ++
    [("type".toList, .str "cifs".toList), ("source".toList, .str "//server/share".toList),
      ("credentials_file".toList, .str "/run/secrets/cifs".toList),
      ("sentinel_id".toList, .str "dataset-1".toList),
      ("mount_options".toList, .array (options.map fun o => .str o.toList))]

/-- The default runtime directory. -/
def runDirectory : PosixPath :=
  PosixPath.parse "/run/s3-storage-node"

end StorageNode.Config
