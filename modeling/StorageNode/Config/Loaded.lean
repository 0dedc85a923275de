import StorageNode.Config.Load
import StorageNode.Config.TargetPolicies

/-!
# Accepted configurations

What `load_config` guarantees of a configuration that it returns: every target was accepted by
`_parse_target`, the targets of the roles exist, and the role directories are relative paths without
`..`.
-/

set_option autoImplicit false

namespace StorageNode.Config

variable {lib : Library}

/-- What `_parse_target` guarantees of where a target lies. -/
structure PlacedTarget (runtimeDir : PosixPath) (target : TargetConfig) : Prop where
  not_sshfs : target.type ≠ .sshfs
  subdirectory_plain : target.subdirectory = [] ∨ isPlainRelative target.subdirectory = true
  managed : target.type = .cifs ∨ target.type = .block →
    target.mountpoint.isRelativeTo (managedRoot runtimeDir) = true

theorem parseTargetType_ne_sshfs {name : String} {raw : Table} {type : TargetType}
    (h : parseTargetType lib name raw = .ok type) : type ≠ .sshfs := by
  obtain ⟨text, -, h⟩ := bind_eq_ok.mp h
  rintro rfl
  simp only at h
  split at h
  · cases Except.ok.inj h
  · split at h
    · cases Except.ok.inj h
    · split at h
      · cases Except.ok.inj h
      · cases h

theorem parsePlacement_subdirectory {name : String} {raw : Table} {runtimeDir : PosixPath}
    {place : Placement} (h : parsePlacement name raw runtimeDir = .ok place) :
    place.subdirectory = [] ∨ isPlainRelative place.subdirectory = true := by
  unfold parsePlacement at h
  obtain ⟨mountpoint, -, h⟩ := bind_eq_ok.mp h
  obtain ⟨-, h⟩ := require_bind_eq_ok.mp h
  obtain ⟨subdirectory, -, h⟩ := bind_eq_ok.mp h
  obtain ⟨hplain, h⟩ := require_bind_eq_ok.mp h
  obtain ⟨sentinelFile, -, h⟩ := bind_eq_ok.mp h
  obtain ⟨-, h⟩ := require_bind_eq_ok.mp h
  obtain rfl := Except.ok.inj h
  simpa using hplain

theorem checkTarget_managed {name : String} {raw : Table} {runtimeDir : PosixPath}
    {target : TargetConfig} (h : checkTarget name raw runtimeDir target = .ok ())
    (htype : target.type = .cifs ∨ target.type = .block) :
    target.mountpoint.isRelativeTo (managedRoot runtimeDir) = true := by
  unfold checkTarget at h
  obtain htype | htype := htype
  · rw [htype] at h
    obtain ⟨-, h⟩ := require_bind_eq_ok.mp h
    obtain ⟨-, h⟩ := require_bind_eq_ok.mp h
    exact require_eq_ok.mp h
  · rw [htype] at h
    obtain ⟨-, h⟩ := require_bind_eq_ok.mp h
    obtain ⟨-, h⟩ := require_bind_eq_ok.mp h
    obtain ⟨-, h⟩ := require_bind_eq_ok.mp h
    exact require_eq_ok.mp h

theorem parseTarget_placed {name : String} {raw : Table} {runtimeDir : PosixPath}
    {target : TargetConfig} (h : parseTarget lib name raw runtimeDir = .ok target) :
    PlacedTarget runtimeDir target := by
  obtain ⟨type, place, options, policy, transport, remaining, htype, hplace, -, -, htarget, -, -,
    hcheck⟩ := parseTarget_eq_ok.mp h
  have hbuilt := buildTarget_ok htarget
  constructor
  · rw [hbuilt.type_eq]
    exact parseTargetType_ne_sshfs htype
  · rw [hbuilt.subdirectory_eq]
    exact parsePlacement_subdirectory hplace
  · exact checkTarget_managed hcheck

theorem parseTargets_placed {storage : Table} {runtimeDir : PosixPath} {names : List String}
    {targets : Targets} (h : parseTargets lib storage runtimeDir names = .ok targets) :
    ∀ t ∈ targets, PlacedTarget runtimeDir t.2 := by
  induction names generalizing targets with
  | nil =>
    obtain rfl := Except.ok.inj h
    exact fun t ht => absurd ht List.not_mem_nil
  | cons name names ih =>
    rw [parseTargets] at h
    split at h
    · exact ih h
    · obtain ⟨target, htarget, h⟩ := bind_eq_ok.mp h
      obtain ⟨rest, hrest, h⟩ := bind_eq_ok.mp h
      obtain rfl := Except.ok.inj h
      intro t ht
      obtain rfl | ht := List.mem_cons.mp ht
      · exact parseTarget_placed htarget
      · exact ih hrest t ht
    · cases h

/-- The data target is among the parsed ones. -/
theorem parseStorage_ok {storage : Table} {runtimeDir : PosixPath} {targets : Targets}
    (h : parseStorage lib storage runtimeDir = .ok targets) :
    (targets.get? "data").isSome ∧ ∀ t ∈ targets, PlacedTarget runtimeDir t.2 := by
  unfold parseStorage at h
  split at h
  · rename_i raw hdata
    refine ⟨?_, parseTargets_placed h⟩
    rw [parseTargets, hdata] at h
    obtain ⟨target, -, h⟩ := bind_eq_ok.mp h
    obtain ⟨rest, -, h⟩ := bind_eq_ok.mp h
    obtain rfl := Except.ok.inj h
    rfl
  · cases h

theorem parseMetadata_ok {raw : Table} {targets : Targets} {metadata : MetadataConfig}
    (h : parseMetadata lib raw targets = .ok metadata) :
    isPlainRelative metadata.directory = true ∧
      (metadata.backend = .embedded → (targets.get? metadata.target).isSome) := by
  unfold parseMetadata at h
  iterate 3 obtain ⟨_, -, h⟩ := bind_eq_ok.mp h
  obtain ⟨directory, hdirectory, h⟩ := bind_eq_ok.mp h
  iterate 8 obtain ⟨_, -, h⟩ := bind_eq_ok.mp h
  obtain ⟨htarget, h⟩ := require_bind_eq_ok.mp h
  iterate 2 obtain ⟨-, h⟩ := require_bind_eq_ok.mp h
  obtain rfl := Except.ok.inj h
  refine ⟨(relativePath_eq_ok hdirectory).2, ?_⟩
  intro hembedded
  obtain hother | hsome := Bool.or_eq_true_iff.mp htarget
  · exact absurd hembedded (of_decide_eq_true hother)
  · exact hsome

theorem parseIndex_ok {raw : Table} {targets : Targets} {index : IndexConfig}
    (h : parseIndex raw targets = .ok index) :
    isPlainRelative index.directory = true ∧ (targets.get? index.target).isSome := by
  unfold parseIndex at h
  obtain ⟨target, -, h⟩ := bind_eq_ok.mp h
  obtain ⟨directory, hdirectory, h⟩ := bind_eq_ok.mp h
  obtain ⟨htarget, h⟩ := require_bind_eq_ok.mp h
  obtain rfl := Except.ok.inj h
  exact ⟨(relativePath_eq_ok hdirectory).2, htarget⟩

theorem readSeaweed_ok {raw : Table} {seaweed : SeaweedConfig}
    (h : readSeaweed raw = .ok seaweed) : isPlainRelative seaweed.volumeDirectory = true := by
  unfold readSeaweed at h
  iterate 5 obtain ⟨_, -, h⟩ := bind_eq_ok.mp h
  obtain ⟨directory, hdirectory, h⟩ := bind_eq_ok.mp h
  iterate 23 obtain ⟨_, -, h⟩ := bind_eq_ok.mp h
  obtain rfl := Except.ok.inj h
  exact (relativePath_eq_ok hdirectory).2

/-- What `load_config` guarantees of the paths of a configuration. -/
structure Loaded (config : Config) : Prop where
  placed : ∀ t ∈ config.targets, PlacedTarget config.appliance.runtimeDir t.2
  data : (config.targets.get? "data").isSome
  index : (config.targets.get? config.index.target).isSome
  metadata : config.metadata.backend = .embedded →
    (config.targets.get? config.metadata.target).isSome
  volume_plain : isPlainRelative config.seaweed.volumeDirectory = true
  index_plain : isPlainRelative config.index.directory = true
  metadata_plain : isPlainRelative config.metadata.directory = true

theorem loadConfig_ok {raw : Table} {config : Config} (h : loadConfig lib raw = .ok config) :
    Loaded config := by
  unfold loadConfig at h
  obtain ⟨applianceRaw, -, h⟩ := bind_eq_ok.mp h
  obtain ⟨appliance, -, h⟩ := bind_eq_ok.mp h
  obtain ⟨storageRaw, -, h⟩ := bind_eq_ok.mp h
  obtain ⟨targets, htargets, h⟩ := bind_eq_ok.mp h
  obtain ⟨-, h⟩ := require_bind_eq_ok.mp h
  obtain ⟨_, -, h⟩ := bind_eq_ok.mp h
  obtain ⟨metadataRaw, -, h⟩ := bind_eq_ok.mp h
  obtain ⟨metadata, hmetadata, h⟩ := bind_eq_ok.mp h
  obtain ⟨indexRaw, -, h⟩ := bind_eq_ok.mp h
  obtain ⟨index, hindex, h⟩ := bind_eq_ok.mp h
  obtain ⟨seaweedRaw, -, h⟩ := bind_eq_ok.mp h
  obtain ⟨seaweed, hseaweed, h⟩ := bind_eq_ok.mp h
  obtain ⟨_, -, h⟩ := bind_eq_ok.mp h
  obtain ⟨s3Raw, -, h⟩ := bind_eq_ok.mp h
  obtain ⟨s3, -, h⟩ := bind_eq_ok.mp h
  obtain ⟨_, -, h⟩ := bind_eq_ok.mp h
  obtain ⟨_, -, h⟩ := bind_eq_ok.mp h
  obtain rfl := Except.ok.inj h
  obtain ⟨hdata, hplaced⟩ := parseStorage_ok htargets
  obtain ⟨hdirectory, htarget⟩ := parseMetadata_ok hmetadata
  obtain ⟨hindexDirectory, hindexTarget⟩ := parseIndex_ok hindex
  exact ⟨hplaced, hdata, hindexTarget, htarget, readSeaweed_ok hseaweed, hindexDirectory,
    hdirectory⟩

theorem Targets.mem_of_get? {targets : Targets} {name : Text} {target : TargetConfig}
    (h : targets.get? name = some target) : ∃ t ∈ targets, t.2 = target := by
  unfold Targets.get? at h
  obtain ⟨t, hfind, rfl⟩ := Option.map_eq_some_iff.mp h
  exact ⟨t, List.mem_of_find?_eq_some hfind, rfl⟩

end StorageNode.Config
