import StorageNode.Storage.MountInfo
import StorageNode.Storage.Sentinel

/-!
# The identity of a mount

`find_mount` of `mounts` and `_verify_mount_identity` of `storage`. The table is in mount order, so the
last entry at a path is the one that can be seen there (`topmost`), and `find_mount` returns the first.
The check speaks of the visible mount as long as the first and the last entry at the path cannot be told
apart by what it compares.
-/

set_option autoImplicit false

namespace StorageNode.Mounts

open StorageNode.Config (TargetConfig)

section

variable (realpath : Text → Text) (table : List MountInfo) (mountpoint : PosixPath)

/-- The entries at a path, in mount order. -/
def entriesAt : List MountInfo :=
  table.filter fun entry => realpath entry.mountpoint = realpath mountpoint.text

/-- `find_mount`. -/
def findMount : Option MountInfo :=
  table.find? fun entry => realpath entry.mountpoint = realpath mountpoint.text

/-- The entry that covers the others at its path. -/
def topmost : Option MountInfo :=
  (entriesAt realpath table mountpoint).getLast?

/-- The lookup takes the lowest entry of a stack. -/
theorem findMount_eq_head? :
    findMount realpath table mountpoint = (entriesAt realpath table mountpoint).head? :=
  List.head?_filter.symm

end

/-- `str.rstrip("/")`. -/
def rstripSlash (t : Text) : Text :=
  t.rdropWhile (· = '/')

/-- The filesystems of a CIFS mount. -/
def cifsFilesystems : List Text := ["cifs".toList, "smb3".toList]

/-- The filesystems of an SSHFS mount. -/
def sshfsFilesystems : List Text := ["fuse.sshfs".toList, "fuse".toList]

/-- The checks of `_verify_mount_identity` on the mount that was found. -/
def checkMount (target : TargetConfig) (mount : MountInfo) : Except Text Unit :=
  match target.type with
  | .path => .ok ()
  | .cifs =>
    if mount.filesystem ∉ cifsFilesystems then
      .error (target.name ++ " mounted with unexpected filesystem ".toList ++ mount.filesystem)
    else if rstripSlash mount.source ≠ rstripSlash target.source then
      .error (target.name ++ " source mismatch: expected ".toList ++ rstripSlash target.source ++
        ", got ".toList ++ mount.source)
    else .ok ()
  | .sshfs =>
    if mount.filesystem ∉ sshfsFilesystems then
      .error (target.name ++ " mounted with unexpected filesystem ".toList ++ mount.filesystem)
    else if rstripSlash mount.source ≠ rstripSlash target.source then
      .error (target.name ++ " source mismatch: expected ".toList ++ target.source ++
        ", got ".toList ++ mount.source)
    else .ok ()
  | .block =>
    if mount.filesystem ≠ target.expectedFilesystem then
      .error (target.name ++ " filesystem mismatch: expected ".toList ++ target.expectedFilesystem ++
        ", got ".toList ++ mount.filesystem)
    else .ok ()

/-- `_verify_mount_identity`. -/
def verifyMountIdentity (realpath : Text → Text) (table : List MountInfo) (target : TargetConfig) :
    Except Text Unit :=
  if target.type = .path then .ok ()
  else match findMount realpath table target.mountpoint with
    | none => .error (target.name ++ " is not mounted".toList)
    | some mount => checkMount target mount

/-! ## What the check asks for -/

/-- The filesystem type, and for network filesystems the source, that a target requires. -/
def Required (target : TargetConfig) (mount : MountInfo) : Prop :=
  match target.type with
  | .path => True
  | .cifs => mount.filesystem ∈ cifsFilesystems ∧
      rstripSlash mount.source = rstripSlash target.source
  | .sshfs => mount.filesystem ∈ sshfsFilesystems ∧
      rstripSlash mount.source = rstripSlash target.source
  | .block => mount.filesystem = target.expectedFilesystem

theorem checkMount_iff {target : TargetConfig} {mount : MountInfo} :
    checkMount target mount = .ok () ↔ Required target mount := by
  rw [checkMount, Required]
  cases target.type with
  | path => simp
  | block => simp
  | cifs =>
    by_cases hfilesystem : mount.filesystem ∈ cifsFilesystems
    · simp [hfilesystem]
    · simp [hfilesystem]
  | sshfs =>
    by_cases hfilesystem : mount.filesystem ∈ sshfsFilesystems
    · simp [hfilesystem]
    · simp [hfilesystem]

/-- Two mounts that a target of this type cannot tell apart once it accepts the first. -/
def SameMount (type : Config.TargetType) (first last : MountInfo) : Prop :=
  match type with
  | .path => True
  | .cifs => last.filesystem ∈ cifsFilesystems ∧ rstripSlash last.source = rstripSlash first.source
  | .sshfs => last.filesystem ∈ sshfsFilesystems ∧
      rstripSlash last.source = rstripSlash first.source
  | .block => last.filesystem = first.filesystem

/-- The check speaks of the visible mount. -/
def Visible (realpath : Text → Text) (table : List MountInfo) (target : TargetConfig) : Prop :=
  target.type ≠ .path → verifyMountIdentity realpath table target = .ok () →
    ∃ mount, topmost realpath table target.mountpoint = some mount ∧ Required target mount

section

variable {realpath : Text → Text} {table : List MountInfo} {target : TargetConfig}

/-- The check passes exactly when the lowest mount of the stack is the required one. -/
theorem verifyMountIdentity_iff (htype : target.type ≠ .path) :
    verifyMountIdentity realpath table target = .ok () ↔
      ∃ first, (entriesAt realpath table target.mountpoint).head? = some first ∧
        Required target first := by
  rw [verifyMountIdentity, if_neg htype, findMount_eq_head?]
  cases (entriesAt realpath table target.mountpoint).head? with
  | none => simp
  | some first => simp [checkMount_iff]

/-- A target that accepts one mount accepts another exactly when it cannot tell them apart. -/
theorem required_iff_sameMount {first last : MountInfo} (h : Required target first) :
    Required target last ↔ SameMount target.type first last := by
  cases htype : target.type with
  | path => simp only [Required, SameMount, htype]
  | block =>
    simp only [Required, SameMount, htype] at h ⊢
    rw [h]
  | cifs =>
    simp only [Required, SameMount, htype] at h ⊢
    rw [h.2]
  | sshfs =>
    simp only [Required, SameMount, htype] at h ⊢
    rw [h.2]

/-- Whether the check speaks of the visible mount of one target. -/
theorem visible_iff : Visible realpath table target ↔
    ∀ first last, (entriesAt realpath table target.mountpoint).head? = some first →
      (entriesAt realpath table target.mountpoint).getLast? = some last →
      Required target first → SameMount target.type first last := by
  by_cases htype : target.type = .path
  · simp [Visible, SameMount, htype]
  constructor
  · intro h first last hfirst hlast hrequired
    obtain ⟨mount, htop, hmount⟩ :=
      h htype ((verifyMountIdentity_iff htype).mpr ⟨first, hfirst, hrequired⟩)
    obtain rfl := Option.some.inj (hlast.symm.trans htop)
    exact (required_iff_sameMount hrequired).mp hmount
  · intro h _ hverified
    obtain ⟨first, hfirst, hrequired⟩ := (verifyMountIdentity_iff htype).mp hverified
    -- a stack with a first entry has a last one
    have hne : entriesAt realpath table target.mountpoint ≠ [] := by
      intro hnil
      rw [hnil] at hfirst
      cases hfirst
    have hlast := List.getLast?_eq_some_getLast hne
    exact ⟨_, hlast, (required_iff_sameMount hrequired).mpr (h first _ hfirst hlast hrequired)⟩

end

/-- The check speaks of the visible mount of a target exactly when the target cannot tell the first
entry at its path from the last one, where it accepts the first. For all targets at a path, this is to
say that the two entries have the same filesystem and, on a network, the same source. -/
theorem verified_mount_visible_iff (realpath : Text → Text) (table : List MountInfo)
    (mountpoint : PosixPath) :
    (∀ target : TargetConfig, target.mountpoint = mountpoint →
      (Visible realpath table target ↔
        ∀ first last, (entriesAt realpath table mountpoint).head? = some first →
          (entriesAt realpath table mountpoint).getLast? = some last →
          Required target first → SameMount target.type first last)) ∧
    ((∀ target : TargetConfig, target.mountpoint = mountpoint → Visible realpath table target) ↔
      ∀ first last, (entriesAt realpath table mountpoint).head? = some first →
        (entriesAt realpath table mountpoint).getLast? = some last →
        last.filesystem = first.filesystem ∧
          (first.filesystem ∈ cifsFilesystems ++ sshfsFilesystems →
            rstripSlash last.source = rstripSlash first.source)) := by
  constructor
  · rintro target rfl
    exact visible_iff
  constructor
  · intro h first last hfirst hlast
    have hsame : ∀ target : TargetConfig, target.mountpoint = mountpoint → Required target first →
        SameMount target.type first last := by
      rintro target rfl hrequired
      exact visible_iff.mp (h target rfl) first last hfirst hlast hrequired
    -- a target of each type that asks for what the first entry shows
    let target (type : Config.TargetType) : TargetConfig :=
      { Sentinel.mediaTarget "" with
        mountpoint := mountpoint
        type := type
        source := first.source
        expectedFilesystem := first.filesystem }
    refine ⟨hsame (target .block) rfl rfl, fun hnetwork => ?_⟩
    obtain hcifs | hsshfs := List.mem_append.mp hnetwork
    · exact (hsame (target .cifs) rfl ⟨hcifs, rfl⟩).2
    · exact (hsame (target .sshfs) rfl ⟨hsshfs, rfl⟩).2
  · rintro h target rfl
    apply visible_iff.mpr
    intro first last hfirst hlast hrequired
    -- the check looks at the first entry, and the last one is on top
    obtain ⟨hfilesystem, hsource⟩ := h first last hfirst hlast
    cases htype : target.type with
    | path => trivial
    | block => exact hfilesystem
    | cifs =>
      simp only [Required, htype] at hrequired
      exact ⟨hfilesystem ▸ hrequired.1, hsource (List.mem_append_left _ hrequired.1)⟩
    | sshfs =>
      simp only [Required, htype] at hrequired
      exact ⟨hfilesystem ▸ hrequired.1, hsource (List.mem_append_right _ hrequired.1)⟩

/-- The share of a target, with a temporary filesystem mounted over it. -/
def coveredShare : List MountInfo :=
  [⟨"/mnt/media".toList, "cifs".toList, "//nas/media".toList, ["rw".toList].toFinset,
      ["rw".toList].toFinset⟩,
    ⟨"/mnt/media".toList, "tmpfs".toList, "tmpfs".toList, ["rw".toList].toFinset,
      ["rw".toList].toFinset⟩]

/-- The check passes although the share cannot be seen. -/
theorem covered_share_verified :
    verifyMountIdentity id coveredShare (Sentinel.mediaTarget "s3") = .ok () ∧
      ¬ Visible id coveredShare (Sentinel.mediaTarget "s3") := by
  have hverified : verifyMountIdentity id coveredShare (Sentinel.mediaTarget "s3") = .ok () := rfl
  refine ⟨hverified, fun h => ?_⟩
  obtain ⟨mount, htop, hfilesystem, -⟩ := h (by decide) hverified
  obtain rfl : _ = mount := Option.some.inj htop
  exact absurd hfilesystem (by decide)

end StorageNode.Mounts
