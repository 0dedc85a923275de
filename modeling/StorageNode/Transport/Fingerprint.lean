import StorageNode.Storage.Sentinel
import StorageNode.Transport.StartupVerification

/-!
# What the fingerprint of a configuration covers

`startup_verification_fingerprint` over the loaded configuration. The fingerprint is taken of a fixed
selection of settings (`RoutePayload`). Against it stands what the storage helpers read of a route: the
settings of the target that `resolve` returns, without its paths, and the contents of its files
(`RouteSettings`). A route is treated alike under two configurations with one fingerprint exactly when
they agree on the settings that the selection leaves out (`Unhashed`).
-/

set_option autoImplicit false

namespace StorageNode.Transport

open StorageNode.Config

/-- The contents of a file that a configuration names. -/
abbrev FileContents := FileFingerprint (List UInt8)

/-- `_file_fingerprint` hashes what it reads. -/
def FileFingerprint.map {D E : Type} (f : D → E) : FileFingerprint D → FileFingerprint E
  | .absent => .absent
  | .missing => .missing
  | .content d => .content (f d)

theorem FileFingerprint.map_injective {D E : Type} {f : D → E} (hf : Function.Injective f) :
    Function.Injective (FileFingerprint.map f) := by
  intro x y h
  cases x with
  | absent => cases y <;> first | rfl | cases h
  | missing => cases y <;> first | rfl | cases h
  | content d =>
    cases y with
    | content e => rw [hf (FileFingerprint.content.inj h)]
    | absent => cases h
    | missing => cases h

/-! ## The selection -/

/-- The entry of an SSHFS transport; `X` stands for what is kept of a file. -/
structure TransportEntry (X : Type) where
  name : Text
  source : Text
  authMode : AuthMode
  identity : X
  credentials : X
  knownHosts : X
  port : Int
  mountOptions : List Text

/-- The dictionary that is encoded. -/
structure RoutePayload (X : Type) where
  target : Text
  primaryName : Text
  source : Text
  credentials : X
  mountOptions : List Text
  ioFailurePolicy : Text
  minimumSmbDialect : Text
  handleReconnectPolicy : Text
  multichannelPolicy : Text
  maxChannels : Int
  transports : List (TransportEntry X)

/-- A configuration with failover, whose primary target the loader requires to be CIFS, and the files
that it names. -/
structure RouteConfig where
  primary : TargetConfig
  failover : ExclusiveFailoverConfig
  read : Text → Option (List UInt8)
  cifs : primary.type = .cifs

section

variable {X Y : Type} (f : X → Y)

/-- An entry with other values for its files. -/
def TransportEntry.map (entry : TransportEntry X) : TransportEntry Y where
  name := entry.name
  source := entry.source
  authMode := entry.authMode
  identity := f entry.identity
  credentials := f entry.credentials
  knownHosts := f entry.knownHosts
  port := entry.port
  mountOptions := entry.mountOptions

/-- A dictionary with other values for its files. -/
def RoutePayload.map (payload : RoutePayload X) : RoutePayload Y where
  target := payload.target
  primaryName := payload.primaryName
  source := payload.source
  credentials := f payload.credentials
  mountOptions := payload.mountOptions
  ioFailurePolicy := payload.ioFailurePolicy
  minimumSmbDialect := payload.minimumSmbDialect
  handleReconnectPolicy := payload.handleReconnectPolicy
  multichannelPolicy := payload.multichannelPolicy
  maxChannels := payload.maxChannels
  transports := payload.transports.map (TransportEntry.map f)

variable {f}

theorem TransportEntry.map_injective (hf : Function.Injective f) :
    Function.Injective (TransportEntry.map f) := by
  rintro ⟨⟩ ⟨⟩ h
  simp only [TransportEntry.map, TransportEntry.mk.injEq, hf.eq_iff] at h ⊢
  exact h

theorem RoutePayload.map_injective (hf : Function.Injective f) :
    Function.Injective (RoutePayload.map f) := by
  rintro ⟨⟩ ⟨⟩ h
  simp only [RoutePayload.map, RoutePayload.mk.injEq, hf.eq_iff,
    (List.map_injective_iff.mpr (TransportEntry.map_injective hf)).eq_iff] at h ⊢
  exact h

end

namespace RouteConfig

variable (c : RouteConfig)

/-- What a file holds. -/
def contents (path : Text) : FileContents :=
  if path = [] then .absent
  else match c.read path with
    | none => .missing
    | some bytes => .content bytes

/-- The dictionary of `startup_verification_fingerprint`, for a way to describe files. -/
def payload {X : Type} (file : Text → X) : RoutePayload X where
  target := c.failover.target
  primaryName := c.failover.primaryName
  source := c.primary.source
  credentials := file c.primary.credentialsFile
  mountOptions := c.primary.mountOptions
  ioFailurePolicy := c.primary.effectiveIoFailurePolicy
  minimumSmbDialect := c.primary.minimumSmbDialect
  handleReconnectPolicy := c.primary.handleReconnectPolicy
  multichannelPolicy := c.primary.multichannelPolicy
  maxChannels := c.primary.maxChannels
  transports := c.failover.transports.map fun transport =>
    { name := transport.name
      source := transport.source
      authMode := transport.authMode
      identity := file transport.identityFile
      credentials := file transport.credentialsFile
      knownHosts := file transport.knownHostsFile
      port := transport.port
      mountOptions := transport.mountOptions }

/-- `startup_verification_fingerprint`; `digest` is the hash of the encoded dictionary. -/
def fingerprint {D F : Type} (sha256 : List UInt8 → D) (digest : RoutePayload (FileFingerprint D) → F) :
    F :=
  digest (c.payload fun path => (c.contents path).map sha256)

theorem payload_comp {X Y : Type} (f : X → Y) (file : Text → X) :
    c.payload (fun path => f (file path)) = (c.payload file).map f := by
  simp only [payload, RoutePayload.map, List.map_map]
  rfl

/-- One fingerprint means one selection, up to the contents of the files. -/
theorem payload_eq_of_fingerprint {D F : Type} {sha256 : List UInt8 → D}
    {digest : RoutePayload (FileFingerprint D) → F} (hsha256 : Function.Injective sha256)
    (hdigest : Function.Injective digest) {c c' : RouteConfig}
    (h : c.fingerprint sha256 digest = c'.fingerprint sha256 digest) :
    c.payload c.contents = c'.payload c'.contents := by
  have hpayload := hdigest h
  rw [payload_comp c (FileFingerprint.map sha256) c.contents,
    payload_comp c' (FileFingerprint.map sha256) c'.contents] at hpayload
  exact RoutePayload.map_injective (FileFingerprint.map_injective hsha256) hpayload

end RouteConfig

/-! ## The guardian's description

`verifyAllTransportsOnStartup` takes the fingerprint of a `Deployment`: the same dictionary, with
strings for texts and natural numbers for ports and channels. On accepted configurations both
descriptions have the same content. -/

section

variable {D : Type}

/-- An entry as the guardian describes it. -/
def TransportEntry.described (entry : TransportEntry (FileFingerprint D)) : TransportPayload D where
  name := String.ofList entry.name
  source := String.ofList entry.source
  authMode := entry.authMode
  identity := entry.identity
  credentials := entry.credentials
  knownHosts := entry.knownHosts
  port := entry.port.toNat
  mountOptions := entry.mountOptions.map String.ofList

/-- A dictionary as the guardian describes it. -/
def RoutePayload.described (payload : RoutePayload (FileFingerprint D)) : FingerprintPayload D where
  target := String.ofList payload.target
  primaryName := String.ofList payload.primaryName
  primary :=
    { source := String.ofList payload.source
      credentialsFile := ""
      mountOptions := payload.mountOptions.map String.ofList
      ioFailurePolicy := String.ofList payload.ioFailurePolicy
      minimumSmbDialect := String.ofList payload.minimumSmbDialect
      handleReconnectPolicy := String.ofList payload.handleReconnectPolicy
      multichannelPolicy := String.ofList payload.multichannelPolicy
      maxChannels := payload.maxChannels.toNat }
  primaryCredentials := payload.credentials
  transports := payload.transports.map TransportEntry.described

/-- An entry read back. -/
def TransportPayload.entry (transport : TransportPayload D) : TransportEntry (FileFingerprint D) where
  name := transport.name.toList
  source := transport.source.toList
  authMode := transport.authMode
  identity := transport.identity
  credentials := transport.credentials
  knownHosts := transport.knownHosts
  port := transport.port
  mountOptions := transport.mountOptions.map String.toList

/-- A dictionary read back. -/
def FingerprintPayload.route (payload : FingerprintPayload D) : RoutePayload (FileFingerprint D) where
  target := payload.target.toList
  primaryName := payload.primaryName.toList
  source := payload.primary.source.toList
  credentials := payload.primaryCredentials
  mountOptions := payload.primary.mountOptions.map String.toList
  ioFailurePolicy := payload.primary.ioFailurePolicy.toList
  minimumSmbDialect := payload.primary.minimumSmbDialect.toList
  handleReconnectPolicy := payload.primary.handleReconnectPolicy.toList
  multichannelPolicy := payload.primary.multichannelPolicy.toList
  maxChannels := payload.primary.maxChannels
  transports := payload.transports.map TransportPayload.entry

theorem map_toList_map_ofList (texts : List Text) :
    (texts.map String.ofList).map String.toList = texts := by
  rw [List.map_map]
  exact (List.map_congr_left fun text _ => String.toList_ofList).trans (List.map_id texts)

theorem TransportEntry.entry_described {entry : TransportEntry (FileFingerprint D)}
    (hport : 0 ≤ entry.port) : entry.described.entry = entry := by
  simp only [described, TransportPayload.entry, String.toList_ofList, map_toList_map_ofList,
    Int.toNat_of_nonneg hport]

/-- Where ports and channels are not negative, a description is read back. -/
theorem RoutePayload.route_described {payload : RoutePayload (FileFingerprint D)}
    (hchannels : 0 ≤ payload.maxChannels) (hports : ∀ entry ∈ payload.transports, 0 ≤ entry.port) :
    payload.described.route = payload := by
  have htransports : (payload.transports.map TransportEntry.described).map TransportPayload.entry =
      payload.transports := by
    rw [List.map_map]
    exact (List.map_congr_left fun entry hentry =>
      TransportEntry.entry_described (hports entry hentry)).trans (List.map_id _)
  simp only [described, FingerprintPayload.route, String.toList_ofList, map_toList_map_ofList,
    Int.toNat_of_nonneg hchannels, htransports]

end

namespace RouteConfig

variable {lib : Library} {D F : Type}

/-- What the guardian reads of an accepted configuration. -/
def deployment (c : RouteConfig) (h : FailoverAccepted lib c.failover) : Deployment where
  target := String.ofList c.failover.target
  primary :=
    { source := String.ofList c.primary.source
      credentialsFile := String.ofList c.primary.credentialsFile
      mountOptions := c.primary.mountOptions.map String.ofList
      ioFailurePolicy := String.ofList c.primary.effectiveIoFailurePolicy
      minimumSmbDialect := String.ofList c.primary.minimumSmbDialect
      handleReconnectPolicy := String.ofList c.primary.handleReconnectPolicy
      multichannelPolicy := String.ofList c.primary.multichannelPolicy
      maxChannels := c.primary.maxChannels.toNat }
  failover := c.failover.selector h
  read path := c.read path.toList

theorem deployment_fileFingerprint (c : RouteConfig) (h : FailoverAccepted lib c.failover)
    (sha256 : List UInt8 → D) (path : Text) :
    (c.deployment h).fileFingerprint sha256 (String.ofList path) =
      (c.contents path).map sha256 := by
  rw [Deployment.fileFingerprint, contents]
  by_cases hpath : path = []
  · rw [if_pos hpath, if_pos (hpath ▸ rfl)]
    rfl
  · have hne : String.ofList path ≠ "" := by
      intro heq
      exact hpath (by simpa using congrArg String.toList heq)
    have hread : (c.deployment h).read (String.ofList path) = c.read path :=
      congrArg c.read String.toList_ofList
    rw [if_neg hpath, if_neg hne, hread]
    cases c.read path with
    | none => rfl
    | some bytes => rfl

theorem deployment_payload (c : RouteConfig) (h : FailoverAccepted lib c.failover)
    (sha256 : List UInt8 → D) :
    (c.deployment h).payload sha256 =
      (c.payload fun path => (c.contents path).map sha256).described := by
  have htransports : (c.deployment h).failover.transports.map
      ((c.deployment h).transportPayload sha256) =
        (c.payload fun path => (c.contents path).map sha256).transports.map
          TransportEntry.described := by
    rw [deployment, ExclusiveFailoverConfig.selector, payload, List.map_map, List.map_map]
    refine List.map_congr_left fun transport _ => ?_
    simp only [Function.comp, Deployment.transportPayload, TransportEntry.described,
      ExclusiveFailoverConfig.selectorTransport]
    rw [← deployment_fileFingerprint c h, ← deployment_fileFingerprint c h,
      ← deployment_fileFingerprint c h]
    rfl
  rw [Deployment.payload, htransports, RoutePayload.described]
  simp only [payload, ← deployment_fileFingerprint c h]
  rfl

/-- Both descriptions of `startup_verification_fingerprint` compute the same. -/
theorem deployment_fingerprint (c : RouteConfig) (h : FailoverAccepted lib c.failover)
    (sha256 : List UInt8 → D) (digest : FingerprintPayload D → F) :
    (c.deployment h).fingerprint sha256 digest =
      c.fingerprint sha256 fun payload => digest payload.described := by
  rw [Deployment.fingerprint, fingerprint, deployment_payload]

theorem payload_nonneg {c : RouteConfig} (h : FailoverAccepted lib c.failover) {X : Type}
    (file : Text → X) : ∀ entry ∈ (c.payload file).transports, 0 ≤ entry.port := by
  intro entry hentry
  obtain ⟨transport, htransport, rfl⟩ := List.mem_map.mp hentry
  have hrange := (h.accepted transport htransport).port_range.1
  simp only
  omega

/-- Accepted configurations to which the guardian gives one fingerprint have one selection. -/
theorem payload_eq_of_deployment {c c' : RouteConfig} (h : FailoverAccepted lib c.failover)
    (h' : FailoverAccepted lib c'.failover) (hchannels : 0 ≤ c.primary.maxChannels)
    (hchannels' : 0 ≤ c'.primary.maxChannels) {sha256 : List UInt8 → D}
    {digest : FingerprintPayload D → F} (hsha256 : Function.Injective sha256)
    (hdigest : Function.Injective digest)
    (heq : (c.deployment h).fingerprint sha256 digest = (c'.deployment h').fingerprint sha256 digest) :
    c.payload c.contents = c'.payload c'.contents := by
  have hdescribed := hdigest heq
  rw [deployment_payload, deployment_payload] at hdescribed
  have hroute := congrArg FingerprintPayload.route hdescribed
  rw [RoutePayload.route_described hchannels (payload_nonneg h _),
    RoutePayload.route_described hchannels' (payload_nonneg h' _)] at hroute
  have hplain : c.fingerprint sha256 id = c'.fingerprint sha256 id := hroute
  exact payload_eq_of_fingerprint hsha256 Function.injective_id hplain

end RouteConfig

/-! ## What the helpers read -/

/-- An option that names a file. -/
def isPathOption (option : Text) : Bool :=
  Text.before '=' option ∈ ["IdentityFile".toList, "UserKnownHostsFile".toList]

/-- What mounting, preparing and probing a route read of it, besides paths. -/
structure RouteSettings where
  source : Text
  mountOptions : List Text
  ioFailurePolicy : Text
  minimumSmbDialect : Text
  handleReconnectPolicy : Text
  multichannelPolicy : Text
  maxChannels : Int
  requireTransportObservability : Bool
  sshAuthMode : Option Text
  sshPort : Option Int
  sentinelId : Text
  subdirectory : Text
  allowInitialize : Bool
  minFreeBytes : Int
  workerUid : Int
  workerGid : Int
  files : List FileContents
  deriving DecidableEq

/-- The settings that the fingerprint leaves out. -/
structure Unhashed where
  requireTransportObservability : Bool
  sentinelId : Text
  subdirectory : Text
  allowInitialize : Bool
  minFreeBytes : Int
  workerUid : Int
  workerGid : Int
  deriving DecidableEq

namespace RouteConfig

variable (c : RouteConfig)

/-- The settings of a target that `resolve` returns. The SSH settings count for SSHFS only. -/
def targetSettings (target : TargetConfig) : RouteSettings where
  source := target.source
  mountOptions := target.mountOptions.filter fun option => !isPathOption option
  ioFailurePolicy := target.effectiveIoFailurePolicy
  minimumSmbDialect := target.minimumSmbDialect
  handleReconnectPolicy := target.handleReconnectPolicy
  multichannelPolicy := target.multichannelPolicy
  maxChannels := target.maxChannels
  requireTransportObservability := target.requireTransportObservability
  sshAuthMode := if target.type = .sshfs then some target.sshAuthMode else none
  sshPort := if target.type = .sshfs then some target.sshPort else none
  sentinelId := target.sentinelId
  subdirectory := target.subdirectory
  allowInitialize := target.allowInitialize
  minFreeBytes := target.minFreeBytes
  workerUid := c.failover.workerUid
  workerGid := c.failover.workerGid
  files :=
    if target.type = .sshfs then
      [c.contents target.sshIdentityFile, c.contents target.sshCredentialsFile,
        c.contents target.sshKnownHostsFile]
    else [c.contents target.credentialsFile]

/-- The settings of a route. -/
def settings (name : Text) : Option RouteSettings :=
  match c.failover.resolve c.primary name with
  | .ok target => some (c.targetSettings target)
  | .error _ => none

/-- What the fingerprint leaves out. -/
def unhashed : Unhashed where
  requireTransportObservability := c.primary.requireTransportObservability
  sentinelId := c.primary.sentinelId
  subdirectory := c.primary.subdirectory
  allowInitialize := c.primary.allowInitialize
  minFreeBytes := c.primary.minFreeBytes
  workerUid := c.failover.workerUid
  workerGid := c.failover.workerGid

end RouteConfig

/-! ## The selection and the rest determine a route -/

/-- The options of a transport, without the ones that name files. -/
def plainOptions (options : List SshOption) : List Text :=
  (options.map SshOption.text).filter fun option => !isPathOption option

theorem plainOptions_append (options more : List SshOption) :
    plainOptions (options ++ more) = plainOptions options ++ plainOptions more := by
  rw [plainOptions, List.map_append, List.filter_append]
  rfl

/-- The names of the two options that name files. -/
theorem plainOptions_path {name : Text} (h : name = "IdentityFile" ∨ name = "UserKnownHostsFile")
    (path : Text) (rest : List SshOption) :
    plainOptions ((name, some path) :: rest) = plainOptions rest := by
  have hequals : '=' ∉ name := by
    obtain rfl | rfl := h
    · decide
    · decide
  have hbefore : Text.before '=' (name ++ '=' :: path) = name := by
    have hne : ∀ c ∈ name, decide (c ≠ '=') = true :=
      fun c hc => decide_eq_true fun heq => hequals (heq ▸ hc)
    rw [Text.before, List.takeWhile_append_of_pos hne]
    simp
  have hpath : isPathOption (name ++ '=' :: path) = true := by
    rw [isPathOption, hbefore]
    simpa using h
  rw [plainOptions, List.map_cons, List.filter_cons_of_neg]
  · rfl
  · simpa [SshOption.text] using hpath

/-- Besides files, the options of the guardian depend on four settings. -/
theorem plainOptions_guardianOptions {failover failover' : ExclusiveFailoverConfig}
    {transport transport' : SshfsTransportConfig} (hauth : transport.authMode = transport'.authMode)
    (hport : transport.port = transport'.port) (huid : failover.workerUid = failover'.workerUid)
    (hgid : failover.workerGid = failover'.workerGid) :
    plainOptions (failover.guardianOptions transport) =
      plainOptions (failover'.guardianOptions transport') := by
  rw [ExclusiveFailoverConfig.guardianOptions, ExclusiveFailoverConfig.guardianOptions,
    plainOptions_append, plainOptions_append]
  congr 1
  · rw [ExclusiveFailoverConfig.authOptions, ExclusiveFailoverConfig.authOptions, hauth]
    cases transport'.authMode with
    | key => rw [plainOptions_path (.inl rfl), plainOptions_path (.inl rfl)]
    | password => rfl
  · rw [ExclusiveFailoverConfig.commonOptions, ExclusiveFailoverConfig.commonOptions,
      plainOptions_path (.inr rfl), plainOptions_path (.inr rfl), hport, huid, hgid]

/-- Elements that are found by what two lists have in common. -/
theorem find?_congr {α γ δ : Type} {e e' : α → γ} {l l' : List α} (h : l.map e = l'.map e')
    (p : γ → Bool) {F F' : α → δ} (hF : ∀ a a', e a = e' a' → F a = F' a') :
    (l.find? fun a => p (e a)).map F = (l'.find? fun a => p (e' a)).map F' := by
  induction l generalizing l' with
  | nil =>
    cases l' with
    | nil => rfl
    | cons a' l' => cases h
  | cons a l ih =>
    cases l' with
    | nil => cases h
    | cons a' l' =>
      injection h with hhead htail
      rw [List.find?_cons, List.find?_cons, hhead]
      cases p (e' a') with
      | true => exact congrArg some (hF a a' hhead)
      | false => exact ih htail

namespace RouteConfig

variable {c c' : RouteConfig}

theorem settings_primary (c : RouteConfig) :
    c.settings c.failover.primaryName = some (c.targetSettings c.primary) := by
  rw [settings, ExclusiveFailoverConfig.resolve, if_pos rfl]
  rfl

theorem settings_transport {name : Text} (hname : name ≠ c.failover.primaryName) :
    c.settings name = (c.failover.transports.find? fun t => t.name = name).map fun t =>
      c.targetSettings (c.failover.sshfsTarget c.primary t) := by
  rw [settings, ExclusiveFailoverConfig.resolve, if_neg hname]
  cases c.failover.transports.find? fun t => t.name = name with
  | none => rfl
  | some t => rfl

/-- The selection, with what it leaves out, determines every route. -/
theorem settings_eq (hpayload : c.payload c.contents = c'.payload c'.contents)
    (hunhashed : c.unhashed = c'.unhashed) (name : Text) : c.settings name = c'.settings name := by
  simp only [payload, RoutePayload.mk.injEq] at hpayload
  simp only [unhashed, Unhashed.mk.injEq] at hunhashed
  obtain ⟨-, hprimary, hsource, hcredentials, hoptions, hio, hdialect, hhandle, hchannel, hmax,
    htransports⟩ := hpayload
  obtain ⟨hobservability, hsentinel, hsubdirectory, hinitialize, hfree, huid, hgid⟩ := hunhashed
  by_cases hname : name = c.failover.primaryName
  · have hname' : name = c'.failover.primaryName := hname.trans hprimary
    have hroute : c.targetSettings c.primary = c'.targetSettings c'.primary := by
      simp only [targetSettings, c.cifs, c'.cifs, reduceCtorEq, if_false, hsource, hcredentials,
        hoptions, hio, hdialect, hhandle, hchannel, hmax, hobservability, hsentinel, hsubdirectory,
        hinitialize, hfree, huid, hgid]
    rw [hname', settings_primary, ← hroute, ← hprimary, settings_primary]
  · have hname' : name ≠ c'.failover.primaryName := fun heq => hname (heq.trans hprimary.symm)
    rw [settings_transport hname, settings_transport hname']
    refine find?_congr htransports (fun entry => decide (entry.name = name)) ?_
    intro t t' hentry
    simp only [TransportEntry.mk.injEq] at hentry
    obtain ⟨-, hsource, hauth, hidentity, hcredentials, hknown, hport, hoptions⟩ := hentry
    have hguardian := plainOptions_guardianOptions hauth hport huid hgid
    rw [plainOptions, plainOptions] at hguardian
    simp only [targetSettings, ExclusiveFailoverConfig.sshfsTarget, List.filter_append, hguardian,
      TargetConfig.effectiveIoFailurePolicy, if_true, hsource, hauth, hidentity, hcredentials, hknown,
      hport, hoptions, hsentinel, hsubdirectory, hinitialize, hfree, huid, hgid]

/-- The settings of the primary route hold everything that the fingerprint leaves out. -/
theorem unhashed_eq
    (h : c.settings c.failover.primaryName = c'.settings c'.failover.primaryName) :
    c.unhashed = c'.unhashed := by
  rw [settings_primary, settings_primary] at h
  injection h with h
  simp only [targetSettings, RouteSettings.mk.injEq] at h
  simp only [unhashed, Unhashed.mk.injEq]
  obtain ⟨-, -, -, -, -, -, -, hobservability, -, -, hsentinel, hsubdirectory, hinitialize, hfree, huid,
    hgid, -⟩ := h
  exact ⟨hobservability, hsentinel, hsubdirectory, hinitialize, hfree, huid, hgid⟩

/-- Under one fingerprint, every route has the same settings and files exactly when the settings that
are left out are the same. -/
theorem fingerprint_covers_iff {D F : Type} (sha256 : List UInt8 → D)
    (digest : RoutePayload (FileFingerprint D) → F) (hsha256 : Function.Injective sha256)
    (hdigest : Function.Injective digest) (c c' : RouteConfig)
    (h : c.fingerprint sha256 digest = c'.fingerprint sha256 digest) :
    (∀ name, c.settings name = c'.settings name) ↔ c.unhashed = c'.unhashed := by
  have hpayload := payload_eq_of_fingerprint hsha256 hdigest h
  constructor
  · intro hsettings
    have hname : c.failover.primaryName = c'.failover.primaryName :=
      congrArg RoutePayload.primaryName hpayload
    apply unhashed_eq
    rw [hsettings, hname]
  · exact settings_eq hpayload

end RouteConfig

/-- One SSHFS route besides the share of a target. -/
def mediaRoutes (subdirectory : String) (cooldown : Int) : RouteConfig where
  primary := Sentinel.mediaTarget subdirectory
  failover :=
    { target := "data".toList
      primaryName := "cifs-primary".toList
      primaryPriority := 10
      failbackPolicy := "manual".toList
      failureCooldownSeconds := cooldown
      verifyAllTransportsOnStartup := true
      transports :=
        [{ name := "sshfs".toList
           priority := 20
           source := "user@nas:/media".toList
           authMode := .key
           knownHostsFile := "/run/secrets/known_hosts".toList
           identityFile := "/run/secrets/key".toList }]
      workerUid := 10001
      workerGid := 10001
      runtimeDir := PosixPath.parse "/run/s3-storage-node" }
  read := fun _ => some [1, 2, 3]
  cifs := rfl

/-- Another pause after a failure changes no route. -/
theorem fingerprint_covers_cooldown :
    (mediaRoutes "s3" 60).settings "sshfs" = (mediaRoutes "s3" 90).settings "sshfs" :=
  (RouteConfig.fingerprint_covers_iff id id Function.injective_id Function.injective_id
    (mediaRoutes "s3" 60) (mediaRoutes "s3" 90) rfl).mpr rfl _

/-- Another subdirectory of the share has the same fingerprint. -/
theorem subdirectory_not_covered :
    (mediaRoutes "s3" 60).fingerprint id id = (mediaRoutes "old" 60).fingerprint id id ∧
    (mediaRoutes "s3" 60).settings "cifs-primary" ≠ (mediaRoutes "old" 60).settings "cifs-primary" := by
  refine ⟨rfl, fun h => ?_⟩
  have hunhashed := RouteConfig.unhashed_eq h
  exact absurd (congrArg Unhashed.subdirectory hunhashed) (by decide)

end StorageNode.Transport
