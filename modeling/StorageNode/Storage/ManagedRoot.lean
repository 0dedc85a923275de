import StorageNode.Config.Loaded

/-!
# The managed root

Where the directories of an accepted configuration lie once `.` and `..` are taken. The parser compares
the mountpoint of a managed target with `runtime_dir/mounts` component by component, without taking
`..`, and accepts the root itself. `mountpoints_managed_iff` says exactly which mountpoints stay
strictly beneath the root; role directories always lie beneath the mountpoint of their target.
-/

set_option autoImplicit false

namespace StorageNode.Storage

open StorageNode.Config

/-- What `prepare_barrier` does to a directory. -/
inductive BarrierAction where
  | mkdir (path : PosixPath)
  | chown (path : PosixPath) (uid gid : Nat)
  | chmod (path : PosixPath) (mode : Nat)
  deriving DecidableEq

/-- The path whose ownership or mode an action changes. -/
def BarrierAction.changed : BarrierAction → Option PosixPath
  | .mkdir _ => none
  | .chown path _ _ | .chmod path _ => some path

/-- `prepare_barrier`. -/
def prepareBarrier (target : TargetConfig) : List BarrierAction :=
  if target.type = .path then []
  else [.mkdir target.mountpoint, .chown target.mountpoint 0 0, .chmod target.mountpoint 0]

/-- A path lies beneath a directory, or is the directory, once `..` is taken. -/
def Beneath (directory path : PosixPath) : Prop :=
  path.root = directory.root ∧
    PosixPath.resolveDots directory.components <+: PosixPath.resolveDots path.components

/-- A path lies strictly beneath a directory once `..` is taken. -/
def StrictlyBeneath (directory path : PosixPath) : Prop :=
  Beneath directory path ∧
    PosixPath.resolveDots path.components ≠ PosixPath.resolveDots directory.components

/-- A target that the guardian mounts. -/
def Managed (target : TargetConfig) : Prop :=
  target.type = .cifs ∨ target.type = .block

/-- The role directory of a target exists and lies beneath its mountpoint. -/
def RoleBeneath (config : Config) (name : Text) (path : Option PosixPath) : Prop :=
  ∃ target directory, config.targets.get? name = some target ∧ path = some directory ∧
    Beneath target.mountpoint directory

/-- What a configuration owes: managed mountpoints strictly beneath the managed root, barriers that
change nothing else, and role directories beneath their mountpoints. -/
def MountpointsManaged (config : Config) : Prop :=
  (∀ t ∈ config.targets, Managed t.2 →
    StrictlyBeneath (managedRoot config.appliance.runtimeDir) t.2.mountpoint) ∧
  (∀ t ∈ config.targets, ∀ action ∈ prepareBarrier t.2, ∀ path, action.changed = some path →
    StrictlyBeneath (managedRoot config.appliance.runtimeDir) path) ∧
  RoleBeneath config "data" config.volumePath ∧
  RoleBeneath config config.index.target config.indexPath ∧
  (config.metadata.backend = .embedded →
    RoleBeneath config config.metadata.target config.metadataPath)

/-- The components of a path below a directory, as written. -/
def below (directory path : PosixPath) : List Text :=
  path.components.drop directory.components.length

/-- With every `..` cancelled against the component before it, what is left of the path below the
directory enters again the directories it left, and goes on. Without a leading `..` this says that
something is left. -/
def StaysBelow (directory path : PosixPath) : Prop :=
  let walk := PosixPath.climb (below directory path)
  let place := PosixPath.resolveDots directory.components
  let left := place.drop (place.length - walk.above)
  left <+: walk.below ∧ walk.below ≠ left

/-- A path that passes the lexical test lies strictly beneath the directory exactly when it stays
below. -/
theorem strictlyBeneath_iff {directory path : PosixPath}
    (h : path.isRelativeTo directory = true) :
    StrictlyBeneath directory path ↔ StaysBelow directory path := by
  obtain ⟨hroot, rest, hrest⟩ := PosixPath.isRelativeTo_iff.mp h
  have hbelow : below directory path = rest := by simp [below, hrest]
  unfold StrictlyBeneath Beneath StaysBelow
  rw [hbelow, hrest, PosixPath.resolveDots_append]
  simp only [hroot, true_and]
  exact PosixPath.foldl_enter_strictly_below _ rest

/-- Components without `..` lead beneath a directory. -/
theorem beneath_join {directory path : PosixPath} {text : Text} (hbeneath : Beneath directory path)
    (htext : isPlainRelative text = true) :
    Beneath directory (path.join (PosixPath.parse text)) := by
  obtain ⟨hroot, hup⟩ := isPlainRelative_iff.mp htext
  obtain ⟨hsame, hprefix⟩ := hbeneath
  rw [PosixPath.join, if_pos hroot]
  refine ⟨hsame, ?_⟩
  rw [PosixPath.resolveDots_append, PosixPath.foldl_enter_of_not_mem hup]
  exact hprefix.trans (List.prefix_append _ _)

theorem beneath_storageRoot {target : TargetConfig}
    (h : target.subdirectory = [] ∨ isPlainRelative target.subdirectory = true) :
    Beneath target.mountpoint target.storageRoot := by
  have hself : Beneath target.mountpoint target.mountpoint := ⟨rfl, List.prefix_refl _⟩
  unfold TargetConfig.storageRoot
  split
  · exact hself
  · rename_i hne
    exact beneath_join hself (h.resolve_left hne)

/-- Every role directory lies beneath the mountpoint of its target. -/
theorem roleBeneath_of_loaded {config : Config} (h : Loaded config) {name directory : Text}
    (htarget : (config.targets.get? name).isSome) (hdirectory : isPlainRelative directory = true) :
    RoleBeneath config name (config.rolePath name directory) := by
  obtain ⟨target, hget⟩ := Option.isSome_iff_exists.mp htarget
  obtain ⟨t, ht, rfl⟩ := Targets.mem_of_get? hget
  refine ⟨t.2, _, hget, by rw [Config.rolePath, hget]; rfl, ?_⟩
  exact beneath_join (beneath_storageRoot (h.placed t ht).subdirectory_plain) hdirectory

/-- A barrier changes the mountpoint of its target only. -/
theorem prepareBarrier_changed {target : TargetConfig} {action : BarrierAction} {path : PosixPath}
    (haction : action ∈ prepareBarrier target) (hpath : action.changed = some path) :
    target.type ≠ .path ∧ path = target.mountpoint := by
  unfold prepareBarrier at haction
  split at haction
  · cases haction
  · rename_i htype
    refine ⟨htype, ?_⟩
    simp only [List.mem_cons, List.not_mem_nil, or_false] at haction
    obtain rfl | rfl | rfl := haction
    · cases hpath
    · exact (Option.some.inj hpath).symm
    · exact (Option.some.inj hpath).symm

theorem managed_of_placed {runtimeDir : PosixPath} {target : TargetConfig}
    (h : PlacedTarget runtimeDir target) (htype : target.type ≠ .path) : Managed target := by
  have hne := h.not_sshfs
  cases hcase : target.type with
  | cifs => exact .inl hcase
  | block => exact .inr hcase
  | path => exact absurd hcase htype
  | sshfs => exact absurd hcase hne

/-- An accepted configuration keeps its managed mountpoints beneath the managed root exactly when each
of them stays below it. -/
theorem mountpoints_managed_iff {lib : Library} {raw : Table} {config : Config}
    (h : loadConfig lib raw = .ok config) :
    MountpointsManaged config ↔ ∀ t ∈ config.targets, Managed t.2 →
      StaysBelow (managedRoot config.appliance.runtimeDir) t.2.mountpoint := by
  have hloaded := loadConfig_ok h
  constructor
  · rintro ⟨hmanaged, -⟩ t ht htype
    exact (strictlyBeneath_iff ((hloaded.placed t ht).managed htype)).mp (hmanaged t ht htype)
  · intro hstays
    have hmanaged : ∀ t ∈ config.targets, Managed t.2 →
        StrictlyBeneath (managedRoot config.appliance.runtimeDir) t.2.mountpoint :=
      fun t ht htype => (strictlyBeneath_iff ((hloaded.placed t ht).managed htype)).mpr
        (hstays t ht htype)
    refine ⟨hmanaged, ?_, roleBeneath_of_loaded hloaded hloaded.data hloaded.volume_plain,
      roleBeneath_of_loaded hloaded hloaded.index hloaded.index_plain,
      fun hembedded => roleBeneath_of_loaded hloaded (hloaded.metadata hembedded)
        hloaded.metadata_plain⟩
    intro t ht action haction path hpath
    obtain ⟨htype, rfl⟩ := prepareBarrier_changed haction hpath
    exact hmanaged t ht (managed_of_placed (hloaded.placed t ht) htype)

/-- The configuration with a mountpoint. -/
def mountedAt (mountpoint : String) : Table :=
  nodeTable [("mountpoint".toList, .str mountpoint.toList)] []

/-- A mountpoint that leaves a directory and comes back. -/
theorem mountpoints_managed_data : ∃ config,
    loadConfig Library.plain (mountedAt "/run/s3-storage-node/mounts/x/../data") = .ok config ∧
    MountpointsManaged config := by
  obtain ⟨config, hload, hfields⟩ := map_eq_ok (show (loadConfig Library.plain
    (mountedAt "/run/s3-storage-node/mounts/x/../data")).map
    (fun c => (c.targets.map fun t => t.2.mountpoint, c.appliance.runtimeDir)) =
    .ok ([PosixPath.parse "/run/s3-storage-node/mounts/x/../data"], runDirectory) by decide +kernel)
  obtain ⟨hmountpoints, hruntime⟩ := Prod.mk.inj hfields
  refine ⟨config, hload, (mountpoints_managed_iff hload).mpr ?_⟩
  intro t ht _
  have hmem : t.2.mountpoint ∈ config.targets.map fun t => t.2.mountpoint :=
    List.mem_map_of_mem ht
  rw [hmountpoints] at hmem
  rw [List.mem_singleton.mp hmem, hruntime]
  constructor
  · decide +kernel
  · decide +kernel

/-- A mountpoint that climbs out of the managed root: the barrier takes over `/srv`. -/
theorem mountpoint_climbs_out : ∃ config,
    loadConfig Library.plain (mountedAt "/run/s3-storage-node/mounts/../../../srv") = .ok config ∧
    (∃ t ∈ config.targets, BarrierAction.chown t.2.mountpoint 0 0 ∈ prepareBarrier t.2 ∧
      PosixPath.resolveDots t.2.mountpoint.components = ["srv".toList]) ∧
    ¬ MountpointsManaged config := by
  obtain ⟨config, hload, hfields⟩ := map_eq_ok (show (loadConfig Library.plain
    (mountedAt "/run/s3-storage-node/mounts/../../../srv")).map
    (fun c => (c.targets.map fun t => (t.2.type, t.2.mountpoint), c.appliance.runtimeDir)) =
    .ok ([(.cifs, PosixPath.parse "/run/s3-storage-node/mounts/../../../srv")], runDirectory) by
      decide +kernel)
  obtain ⟨htargets, hruntime⟩ := Prod.mk.inj hfields
  obtain ⟨t, ht, hfield⟩ := List.mem_map.mp (htargets ▸ List.mem_singleton_self _)
  obtain ⟨htype, hmountpoint⟩ := Prod.mk.inj hfield
  refine ⟨config, hload, ⟨t, ht, ?_, ?_⟩, ?_⟩
  · rw [prepareBarrier, htype]
    exact List.mem_cons_of_mem _ List.mem_cons_self
  · rw [hmountpoint]
    decide +kernel
  · rintro ⟨hmanaged, -⟩
    have hbeneath := (hmanaged t ht (.inl htype)).1.2
    rw [hmountpoint, hruntime] at hbeneath
    exact absurd hbeneath (by decide +kernel)

end StorageNode.Storage
