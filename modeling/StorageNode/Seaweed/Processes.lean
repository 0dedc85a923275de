import StorageNode.Config.Loaded

/-!
# The commands of SeaweedFS

`Guardian._build_processes`: the command lines of the four SeaweedFS processes. Each ends with the
extra arguments that the operator configured for it.

A flag can be spelled `-flag=v`, `--flag=v` or `-flag v`, and SeaweedFS takes the last occurrence.
The guardian does not look at the extra arguments. A flag that it owns occurs with its value only, and
not at all where it sets none, exactly when they do not spell it otherwise (`flags_owned_iff`).
-/

set_option autoImplicit false

namespace StorageNode.Seaweed

open StorageNode.Config

/-- A flag with its value. -/
abbrev Flag := Text × Text

/-- The argument for a flag that the guardian sets. -/
def Flag.argument (flag : Flag) : Text :=
  '-' :: (flag.1 ++ '=' :: flag.2)

/-- A flag that is set only for a value that is not empty. -/
def optionalFlag (name : String) (value : Text) : List Flag :=
  if value = [] then [] else [(name.toList, value)]

/-- One process: its SeaweedFS command, the flags that the guardian sets, and the extra arguments. -/
structure Launch where
  name : Text
  flags : List Flag
  extraArgs : List Text

/-- The arguments of a process. -/
def Launch.arguments (launch : Launch) : List Text :=
  launch.flags.map Flag.argument ++ launch.extraArgs

/-- `ManagedProcess`. -/
structure ManagedProcess where
  name : Text
  command : List Text
  uid : Int
  gid : Int
  cwd : Option Text := none
  deriving DecidableEq

/-- The path that `render_filer_toml` returns. -/
def filerToml (config : Config) : PosixPath :=
  (config.appliance.runtimeDir.join (PosixPath.parse "generated")).join
    (PosixPath.parse "filer.toml")

/-- The path that `render_s3_config` returns. -/
def s3ConfigPath (config : Config) : Option PosixPath :=
  if config.s3.authMode = .none then none
  else some ((config.appliance.runtimeDir.join (PosixPath.parse "generated")).join
    (PosixPath.parse "s3.json"))

/-- An address on the loopback interface. -/
def loopback (port : Int) : Text :=
  "127.0.0.1:".toList ++ Text.ofInt port

/-- The master. -/
def masterLaunch (config : Config) : Launch where
  name := "master"
  flags :=
    [("ip".toList, "127.0.0.1".toList), ("ip.bind".toList, "127.0.0.1".toList),
      ("port".toList, Text.ofInt config.seaweed.masterPort),
      ("mdir".toList, (config.appliance.stateDir.join (PosixPath.parse "master")).text),
      ("volumeSizeLimitMB".toList, Text.ofInt config.seaweed.volumeSizeLimitMb),
      ("defaultReplication".toList, config.seaweed.defaultReplication)]
  extraArgs := config.seaweed.masterExtraArgs

/-- The volume server. -/
def volumeLaunch (config : Config) (volumePath indexPath : PosixPath) : Launch where
  name := "volume"
  flags :=
    [("ip".toList, "127.0.0.1".toList), ("ip.bind".toList, "127.0.0.1".toList),
      ("port".toList, Text.ofInt config.seaweed.volumePort),
      ("master".toList, loopback config.seaweed.masterPort), ("dir".toList, volumePath.text),
      ("dir.idx".toList, indexPath.text), ("max".toList, Text.ofInt config.seaweed.volumeMax),
      ("index".toList, "memory".toList),
      ("concurrentUploadLimitMB".toList, Text.ofInt config.seaweed.concurrentUploadLimitMb),
      ("inflightUploadDataTimeout".toList,
        Text.ofInt config.seaweed.inflightUploadTimeoutSeconds ++ ['s'])] ++
    (optionalFlag "dataCenter" config.seaweed.dataCenter ++
      (optionalFlag "rack" config.seaweed.rack ++ optionalFlag "disk" config.seaweed.diskType))
  extraArgs := config.seaweed.volumeExtraArgs

/-- The filer. -/
def filerLaunch (config : Config) : Launch where
  name := "filer"
  flags :=
    [("ip".toList, "127.0.0.1".toList), ("ip.bind".toList, "127.0.0.1".toList),
      ("port".toList, Text.ofInt config.seaweed.filerPort),
      ("master".toList, loopback config.seaweed.masterPort),
      ("maxMB".toList, Text.ofInt config.seaweed.filerMaxMb),
      ("defaultReplicaPlacement".toList, config.seaweed.defaultReplication)]
  extraArgs := config.seaweed.filerExtraArgs

/-- The S3 gateway. -/
def s3Launch (config : Config) : Launch where
  name := "s3"
  flags :=
    [("ip.bind".toList, "127.0.0.1".toList),
      ("port".toList, Text.ofInt config.seaweed.s3InternalPort), ("port.iceberg".toList, ['0']),
      ("filer".toList, loopback config.seaweed.filerPort),
      ("allowedOrigins".toList, config.s3.allowedOrigins)] ++
    (optionalFlag "domainName" config.s3.domainName ++
      (optionalFlag "externalUrl" config.s3.externalUrl ++
        (optionalFlag "config" ((s3ConfigPath config).elim [] PosixPath.text) ++
          (optionalFlag "iam.config" config.s3.iamConfigFile ++
            (optionalFlag "auditLogConfig" config.s3.auditLogConfigFile ++
              optionalFlag "encryptVolumeData"
                (if config.seaweed.encryptVolumeData then "true" else []))))))
  extraArgs := config.seaweed.s3ExtraArgs

/-- The four launches, in order. The paths of an accepted configuration exist. -/
def launches (config : Config) : Option (List Launch) := do
  let volumePath ← config.volumePath
  let indexPath ← config.indexPath
  pure [masterLaunch config, volumeLaunch config volumePath indexPath, filerLaunch config,
    s3Launch config]

/-- The process of a launch; the filer runs beside its configuration. -/
def Launch.process (config : Config) (launch : Launch) : ManagedProcess where
  name := launch.name
  command := config.seaweed.binary :: launch.name :: launch.arguments
  uid := config.appliance.uid
  gid := config.appliance.gid
  cwd := if launch.name = "filer".toList then
      some { filerToml config with components := (filerToml config).components.dropLast }.text
    else none

/-- `_build_processes`. -/
def buildProcesses (config : Config) : Option (List ManagedProcess) :=
  (launches config).map fun ls => ls.map (Launch.process config)

/-! ## Spellings of flags -/

/-- The text of a flag argument after its dashes. -/
def flagBody : Text → Option Text
  | '-' :: '-' :: c :: body => some (c :: body)
  | '-' :: c :: body => if c = '-' then none else some (c :: body)
  | _ => none

/-- Flags that are switched on by their name alone. -/
def switches : List Text :=
  ["encryptVolumeData".toList]

/-- The flag that an argument spells, with its value in the same or in the next argument. A switch
takes no further argument. -/
def spelled (argument : Text) (rest : List Text) : List Flag :=
  match flagBody argument with
  | none => []
  | some body =>
    if '=' ∈ body then [(body.before '=', body.past '=')]
    else if body ∈ switches then [(body, "true".toList)]
    else match rest with
      | [] => []
      | value :: _ => [(body, value)]

/-- The flags that a list of arguments spells. -/
def occurrences : List Text → List Flag
  | [] => []
  | argument :: rest => spelled argument rest ++ occurrences rest

/-- The flags that the guardian owns in the command of a process: those that it sets there in some
configuration. -/
def ownedNames (process : Text) : List Text :=
  if process = "master".toList then
    ["ip".toList, "ip.bind".toList, "port".toList, "mdir".toList, "volumeSizeLimitMB".toList,
      "defaultReplication".toList]
  else if process = "volume".toList then
    ["ip".toList, "ip.bind".toList, "port".toList, "master".toList, "dir".toList,
      "dir.idx".toList, "max".toList, "index".toList, "concurrentUploadLimitMB".toList,
      "inflightUploadDataTimeout".toList, "dataCenter".toList, "rack".toList, "disk".toList]
  else if process = "filer".toList then
    ["ip".toList, "ip.bind".toList, "port".toList, "master".toList, "maxMB".toList,
      "defaultReplicaPlacement".toList]
  else if process = "s3".toList then
    ["ip.bind".toList, "port".toList, "port.iceberg".toList, "filer".toList,
      "allowedOrigins".toList, "domainName".toList, "externalUrl".toList, "config".toList,
      "iam.config".toList, "auditLogConfig".toList, "encryptVolumeData".toList]
  else []

/-- In every command, a flag that the guardian owns occurs with the guardian's value only; one that the
guardian does not set there does not occur. -/
def FlagsOwned (config : Config) : Prop :=
  ∃ ls, launches config = some ls ∧ ∀ launch ∈ ls, ∀ name ∈ ownedNames launch.name, ∀ value,
    (name, value) ∈ occurrences ((launch.process config).command.drop 2) → (name, value) ∈ launch.flags

/-- The extra arguments spell no flag that the guardian owns, unless with the guardian's own value. -/
def ExtraArgsYield (config : Config) : Prop :=
  ∀ ls, launches config = some ls → ∀ launch ∈ ls, ∀ name ∈ ownedNames launch.name, ∀ value,
    (name, value) ∈ occurrences launch.extraArgs → (name, value) ∈ launch.flags

/-- A name that a dash and a value can be put around. -/
def plainName (name : Text) : Bool :=
  decide (name ≠ [] ∧ name.head? ≠ some '-' ∧ '=' ∉ name)

theorem spelled_argument {flag : Flag} (h : plainName flag.1 = true) (rest : List Text) :
    spelled flag.argument rest = [flag] := by
  obtain ⟨name, value⟩ := flag
  obtain ⟨hne, hdash, heq⟩ := of_decide_eq_true h
  cases name with
  | nil => exact absurd rfl hne
  | cons c name =>
    have hc : c ≠ '-' := fun hc => hdash (by rw [hc]; rfl)
    have hbody : flagBody (Flag.argument (c :: name, value)) =
        some ((c :: name) ++ '=' :: value) := by
      rw [Flag.argument, List.cons_append, flagBody, if_neg hc]
      exact fun _ _ hdash' => absurd hdash' hc
    have hnot : ∀ d ∈ c :: name, decide (d ≠ '=') = true := fun d hd =>
      decide_eq_true fun hd' => heq (hd' ▸ hd)
    have hbefore : Text.before '=' ((c :: name) ++ '=' :: value) = c :: name := by
      rw [Text.before, List.takeWhile_append_of_pos hnot]
      simp
    have hpast : Text.past '=' ((c :: name) ++ '=' :: value) = value := by
      rw [Text.past, List.dropWhile_append_of_pos hnot]
      simp
    simp only [spelled, hbody]
    rw [if_pos (by simp), hbefore, hpast]

theorem occurrences_arguments {flags : List Flag} (h : ∀ flag ∈ flags, plainName flag.1 = true)
    (extraArgs : List Text) :
    occurrences (flags.map Flag.argument ++ extraArgs) = flags ++ occurrences extraArgs := by
  induction flags with
  | nil => rfl
  | cons flag flags ih =>
    rw [List.map_cons, List.cons_append, occurrences, spelled_argument (h flag List.mem_cons_self),
      ih fun flag hflag => h flag (List.mem_cons_of_mem _ hflag)]
    rfl

/-! ## The flags of the guardian -/

/-- The names of the flags of a launch are distinct and plain. -/
def DistinctFlags (flags : List Flag) : Prop :=
  (flags.map Prod.fst).Nodup ∧ ∀ flag ∈ flags, plainName flag.1 = true

theorem ownedNames_distinct (process : Text) :
    (ownedNames process).Nodup ∧ ∀ name ∈ ownedNames process, plainName name = true := by
  unfold ownedNames
  split
  · decide +kernel
  split
  · decide +kernel
  split
  · decide +kernel
  split
  · decide +kernel
  · simp

/-- Flags with owned names, in order. -/
theorem distinctFlags_of_sublist {flags : List Flag} {process : Text}
    (hsub : (flags.map Prod.fst).Sublist (ownedNames process)) : DistinctFlags flags :=
  ⟨hsub.nodup (ownedNames_distinct process).1, fun _ hflag =>
    (ownedNames_distinct process).2 _ (hsub.subset (List.mem_map_of_mem hflag))⟩

theorem optionalFlag_sublist (name : String) (value : Text) :
    ((optionalFlag name value).map Prod.fst).Sublist [name.toList] := by
  unfold optionalFlag
  split
  · exact List.nil_sublist _
  · exact List.Sublist.refl _

/-- The flags of a launch are owned ones, in order. -/
def Launch.Owns (launch : Launch) : Prop :=
  (launch.flags.map Prod.fst).Sublist (ownedNames launch.name)

theorem masterLaunch_owns (config : Config) : (masterLaunch config).Owns :=
  List.Sublist.refl _

theorem volumeLaunch_owns (config : Config) (volumePath indexPath : PosixPath) :
    (volumeLaunch config volumePath indexPath).Owns := by
  unfold Launch.Owns volumeLaunch
  simp only [List.map_append]
  exact (List.Sublist.refl _).append ((optionalFlag_sublist "dataCenter" _).append
    ((optionalFlag_sublist "rack" _).append (optionalFlag_sublist "disk" _)))

theorem filerLaunch_owns (config : Config) : (filerLaunch config).Owns :=
  List.Sublist.refl _

theorem s3Launch_owns (config : Config) : (s3Launch config).Owns := by
  unfold Launch.Owns s3Launch
  simp only [List.map_append]
  exact (List.Sublist.refl _).append ((optionalFlag_sublist "domainName" _).append
    ((optionalFlag_sublist "externalUrl" _).append ((optionalFlag_sublist "config" _).append
      ((optionalFlag_sublist "iam.config" _).append ((optionalFlag_sublist "auditLogConfig" _).append
        (optionalFlag_sublist "encryptVolumeData" _))))))

theorem launches_own {config : Config} {ls : List Launch} (h : launches config = some ls) :
    ∀ launch ∈ ls, launch.Owns := by
  unfold launches at h
  obtain ⟨volumePath, -, h⟩ := Option.bind_eq_some_iff.mp h
  obtain ⟨indexPath, -, h⟩ := Option.bind_eq_some_iff.mp h
  obtain rfl := Option.some.inj h
  intro launch hlaunch
  simp only [List.mem_cons, List.not_mem_nil, or_false] at hlaunch
  obtain rfl | rfl | rfl | rfl := hlaunch
  · exact masterLaunch_owns config
  · exact volumeLaunch_owns config volumePath indexPath
  · exact filerLaunch_owns config
  · exact s3Launch_owns config

theorem launches_distinct {config : Config} {ls : List Launch} (h : launches config = some ls) :
    ∀ launch ∈ ls, DistinctFlags launch.flags :=
  fun launch hlaunch => distinctFlags_of_sublist (launches_own h launch hlaunch)

/-- The four commands of an accepted configuration exist. -/
theorem launches_of_loaded {config : Config} (h : Loaded config) : ∃ ls, launches config = some ls := by
  obtain ⟨data, hdata⟩ := Option.isSome_iff_exists.mp h.data
  obtain ⟨index, hindex⟩ := Option.isSome_iff_exists.mp h.index
  have hvolume : config.volumePath =
      some (data.storageRoot.join (PosixPath.parse config.seaweed.volumeDirectory)) := by
    rw [Config.volumePath, Config.rolePath, hdata]
    rfl
  have hindexPath : config.indexPath =
      some (index.storageRoot.join (PosixPath.parse config.index.directory)) := by
    rw [Config.indexPath, Config.rolePath, hindex]
    rfl
  exact ⟨_, by rw [launches, hvolume, hindexPath]; rfl⟩

/-- Two values of one flag among distinct ones are the same. -/
theorem DistinctFlags.value_unique {flags : List Flag} (h : DistinctFlags flags)
    {name value other : Text} (hvalue : (name, value) ∈ flags) (hother : (name, other) ∈ flags) :
    other = value := by
  have hinj := List.inj_on_of_nodup_map h.1
  exact (Prod.mk.inj (hinj hother hvalue rfl)).2

/-- With the flags owned, every occurrence of a flag that the guardian sets has its value. -/
theorem FlagsOwned.value {config : Config} (h : FlagsOwned config) {ls : List Launch}
    (hls : launches config = some ls) {launch : Launch} (hlaunch : launch ∈ ls) {name value other : Text}
    (hvalue : (name, value) ∈ launch.flags)
    (hother : (name, other) ∈ occurrences ((launch.process config).command.drop 2)) : other = value := by
  obtain ⟨ls', hls', howned⟩ := h
  obtain rfl := Option.some.inj (hls.symm.trans hls')
  have hname : name ∈ ownedNames launch.name :=
    (launches_own hls launch hlaunch).subset (List.mem_map_of_mem hvalue)
  exact (launches_distinct hls launch hlaunch).value_unique hvalue
    (howned launch hlaunch name hname other hother)

/-- In the commands of an accepted configuration the flags that the guardian owns keep its values
exactly when the extra arguments do not spell one of them otherwise. -/
theorem flags_owned_iff {lib : Library} {raw : Table} {config : Config}
    (h : loadConfig lib raw = .ok config) : FlagsOwned config ↔ ExtraArgsYield config := by
  obtain ⟨ls, hls⟩ := launches_of_loaded (loadConfig_ok h)
  -- a command line shows the flags of the launch, then those of the extra arguments
  have hoccurrences : ∀ launch ∈ ls, occurrences ((launch.process config).command.drop 2) =
      launch.flags ++ occurrences launch.extraArgs := by
    intro launch hlaunch
    exact occurrences_arguments (launches_distinct hls launch hlaunch).2 launch.extraArgs
  constructor
  · rintro ⟨ls', hls', howned⟩ ls'' hls'' launch hlaunch name hname value hvalue
    obtain rfl := Option.some.inj (hls.symm.trans hls')
    obtain rfl := Option.some.inj (hls.symm.trans hls'')
    apply howned launch hlaunch name hname value
    rw [hoccurrences launch hlaunch]
    exact List.mem_append_right _ hvalue
  · intro hyield
    refine ⟨ls, hls, ?_⟩
    intro launch hlaunch name hname value hvalue
    rw [hoccurrences launch hlaunch] at hvalue
    -- an occurrence is one of the own flags or in an extra argument
    obtain hvalue | hvalue := List.mem_append.mp hvalue
    · exact hvalue
    · exact hyield ls hls launch hlaunch name hname value hvalue

/-- The configuration with extra arguments for the volume server. -/
def volumeArgs (args : List String) : Table :=
  nodeTable [] [("volume_extra_args".toList, .array (args.map fun a => .str a.toList))]

/-- The flag of the volume server with a name, and the values with which its command spells it. -/
def volumeFlag (config : Config) (name : Text) : Option (Option Flag × List Flag) :=
  ((launches config).bind (·[1]?)).map fun launch =>
    (launch.flags.find? (·.1 = name),
      (occurrences ((launch.process config).command.drop 2)).filter (·.1 = name))

/-- The extra arguments spell none of the guardian's flags. -/
def foreignArgs (launch : Launch) : Bool :=
  (occurrences launch.extraArgs).all fun flag => flag.1 ∉ ownedNames launch.name

/-- An extra argument that the guardian does not set. -/
theorem flags_owned_read_mode : ∃ config,
    loadConfig Library.plain (volumeArgs ["-readMode", "proxy"]) = .ok config ∧
    FlagsOwned config := by
  have heval : ((loadConfig Library.plain (volumeArgs ["-readMode", "proxy"])).toOption.bind
      fun config => (launches config).map fun ls => ls.all foreignArgs) = some true := by
    decide +kernel
  obtain ⟨config, hload, hforeign⟩ := Option.bind_eq_some_iff.mp heval
  refine ⟨config, toOption_eq_some hload, (flags_owned_iff (toOption_eq_some hload)).mpr ?_⟩
  intro ls hls launch hlaunch name hname value hvalue
  obtain ⟨ls', hls', hall⟩ := Option.map_eq_some_iff.mp hforeign
  obtain rfl := Option.some.inj (hls.symm.trans hls')
  have hforeign := List.all_eq_true.mp (List.all_eq_true.mp hall launch hlaunch) _ hvalue
  exact absurd hname (of_decide_eq_true hforeign)

/-- An extra argument redirects the data directory of the volume server. -/
theorem data_directory_overridden : ∃ config,
    loadConfig Library.plain (volumeArgs ["-dir=/other"]) = .ok config ∧
    volumeFlag config "dir" = some
      (some ("dir".toList, "/run/s3-storage-node/mounts/data/volumes".toList),
        [("dir".toList, "/run/s3-storage-node/mounts/data/volumes".toList),
          ("dir".toList, "/other".toList)]) ∧
    ¬ FlagsOwned config := by
  have heval : ((loadConfig Library.plain (volumeArgs ["-dir=/other"])).toOption.bind fun config =>
      volumeFlag config "dir") = some
        (some ("dir".toList, "/run/s3-storage-node/mounts/data/volumes".toList),
          [("dir".toList, "/run/s3-storage-node/mounts/data/volumes".toList),
            ("dir".toList, "/other".toList)]) := by
    decide +kernel
  obtain ⟨config, hload, hflag⟩ := Option.bind_eq_some_iff.mp heval
  refine ⟨config, toOption_eq_some hload, hflag, ?_⟩
  intro howned
  obtain ⟨ls, hls, -⟩ := id howned
  obtain ⟨launch, hlaunch, hfound⟩ := Option.map_eq_some_iff.mp hflag
  rw [hls, Option.bind_some] at hlaunch
  obtain ⟨hfind, hspelled⟩ := Prod.mk.inj hfound
  have hother : ("dir".toList, "/other".toList) ∈
      (occurrences ((launch.process config).command.drop 2)).filter (·.1 = "dir".toList) := by
    rw [hspelled]
    exact List.mem_cons_of_mem _ List.mem_cons_self
  have hsame := howned.value hls (List.mem_of_getElem? hlaunch) (List.mem_of_find?_eq_some hfind)
    (List.mem_of_mem_filter hother)
  exact absurd hsame (by decide)

end StorageNode.Seaweed
