import StorageNode.Config.PolicySource

/-!
# Mounting a CIFS target

`cifs_mount_options` and `cifs_mount_profiles` of `cifs_transport`, and the option argument that
`_mount_cifs` passes to `mount` for a profile. The kernel sees that argument split at its commas.

The parser judges an option by the text before its first equals sign, so an option or a credentials
path with a comma can carry a guardian-owned option past it. `profiles_follow_policy_iff` says that
nothing else can: without such pieces the policies that the raw table asks for reach the kernel.
-/

set_option autoImplicit false

namespace StorageNode.Storage

open StorageNode.Config

/-- `cifs_mount_options`. -/
def cifsMountOptions (lib : Library) (target : TargetConfig) : Except String (List Text) :=
  let policy := target.effectiveIoFailurePolicy
  let name := String.ofList target.name
  if policy ∉ ioFailurePolicies then
    .error s!"invalid CIFS I/O failure policy for {name}: {String.ofList policy}"
  else if ∃ option ∈ target.mountOptions, mountOptionName lib option ∈ ioFailurePolicies then
    .error s!"raw CIFS I/O failure options remain for {name}; use io_failure_policy instead"
  else if ∃ option ∈ target.mountOptions,
      mountOptionName lib option ∈ handleOptions ++ multichannelOptions then
    .error (s!"raw guardian-owned CIFS options remain for {name}; " ++
      "use explicit transport policy settings instead")
  else .ok (policy :: target.mountOptions)

/-- The handle options to try, from strongest to weakest. -/
def handleTries (target : TargetConfig) : Except String (List (List Text)) :=
  let policy := target.handleReconnectPolicy
  if policy = "auto".toList then
    .ok [["persistenthandles".toList], ["resilienthandles".toList], []]
  else if policy = "persistent".toList ∨ policy = "resilient".toList then
    .ok [[policy ++ "handles".toList]]
  else if policy = "disabled".toList then .ok [[]]
  else .error (s!"invalid handle reconnect policy for {String.ofList target.name}: " ++
    String.ofList policy)

/-- The options that turn multichannel on. -/
def enabledChannels (target : TargetConfig) : List Text :=
  ["multichannel".toList, "max_channels=".toList ++ Text.ofInt target.maxChannels]

/-- The multichannel options to try. -/
def channelTries (target : TargetConfig) : Except String (List (List Text)) :=
  let policy := target.multichannelPolicy
  if policy = "auto".toList then .ok [enabledChannels target, []]
  else if policy = "required".toList then .ok [enabledChannels target]
  else if policy = "disabled".toList then .ok [[]]
  else .error (s!"invalid multichannel policy for {String.ofList target.name}: " ++
    String.ofList policy)

/-- `if profile not in profiles: profiles.append(profile)`. -/
def addProfile (profiles : List (List Text)) (profile : List Text) : List (List Text) :=
  if profile ∈ profiles then profiles else profiles ++ [profile]

/-- `cifs_mount_profiles`. -/
def cifsMountProfiles (lib : Library) (target : TargetConfig) :
    Except String (List (List Text)) := do
  let base ← cifsMountOptions lib target
  let handles ← handleTries target
  let channels ← channelTries target
  pure ((handles.flatMap fun handle => channels.map fun channel => base ++ handle ++ channel).foldl
    addProfile [])

/-- The option argument of `_mount_cifs` for a profile. -/
def mountArgument (target : TargetConfig) (profile : List Text) : Text :=
  [','].intercalate (("credentials=".toList ++ target.credentialsFile) :: profile)

/-! ## What the kernel sees -/

/-- The options of an argument, split at its commas. -/
def kernelOptions (target : TargetConfig) (profile : List Text) : List Text :=
  (mountArgument target profile).splitOn ','

/-- The options among them that the guardian owns. -/
def ownedOptions (lib : Library) (target : TargetConfig) (profile : List Text) : List Text :=
  (kernelOptions target profile).filter fun option => mountOptionName lib option ∈ guardianOwned

/-- The handle options that a policy allows. -/
def HandlesFollow (policy : Text) (handles : List Text) : Prop :=
  (policy = "persistent".toList → handles = ["persistenthandles".toList]) ∧
  (policy = "resilient".toList → handles = ["resilienthandles".toList]) ∧
  (policy = "disabled".toList → handles = []) ∧
  (policy = "auto".toList →
    handles = ["persistenthandles".toList] ∨ handles = ["resilienthandles".toList] ∨ handles = [])

/-- The multichannel options that a policy allows. -/
def ChannelsFollow (policy : Text) (maxChannels : Int) (channels : List Text) : Prop :=
  let enabled := ["multichannel".toList, "max_channels=".toList ++ Text.ofInt maxChannels]
  (policy = "required".toList → channels = enabled) ∧
  (policy = "disabled".toList → channels = []) ∧
  (policy = "auto".toList → channels = enabled ∨ channels = [])

/-- The owned options in the kernel's view are one of `soft` and `hard`, the configured one, with handle
and multichannel options as their policies allow, and nothing else. -/
def FollowsPolicy (lib : Library) (policies : MountPolicies) (target : TargetConfig)
    (profile : List Text) : Prop :=
  ∃ handles channels,
    ownedOptions lib target profile = policies.ioFailure :: (handles ++ channels) ∧
    HandlesFollow policies.handle handles ∧
    ChannelsFollow policies.multichannel policies.maxChannels channels

/-- The strength of a profile: persistent handles before resilient ones before none, and multichannel
before a single channel. -/
def strength (profile : List Text) : Nat :=
  2 * (if "persistenthandles".toList ∈ profile then 2
    else if "resilienthandles".toList ∈ profile then 1 else 0) +
    (if "multichannel".toList ∈ profile then 1 else 0)

/-- What the mount code owes to the table of a target: its profiles follow the policies that the table
asks for. -/
def ProfilesFollow (lib : Library) (raw : Table) (options : List Text) (target : TargetConfig) : Prop :=
  ∃ policies, Configured lib raw options policies ∧ policies.ioFailure ∈ ioFailurePolicies ∧
    ∃ profiles, cifsMountProfiles lib target = .ok profiles ∧ profiles ≠ [] ∧ profiles.Nodup ∧
      profiles.Pairwise (fun stronger weaker => strength weaker < strength stronger) ∧
      ∀ profile ∈ profiles, FollowsPolicy lib policies target profile

/-- No piece of a kept option, and no piece of the credentials path after its first comma, is an option
that the guardian owns. -/
def NoHiddenOptions (lib : Library) (target : TargetConfig) (options : List Text) : Prop :=
  (∀ option ∈ options, mountOptionName lib option ∉ guardianOwned →
    ∀ piece ∈ option.splitOn ',', mountOptionName lib piece ∉ guardianOwned) ∧
  ∀ piece ∈ (target.credentialsFile.splitOn ',').tail, mountOptionName lib piece ∉ guardianOwned

/-! ## The tries -/

/-- The strength of a handle option. -/
def handleStrength (handle : List Text) : Nat :=
  if handle = ["persistenthandles".toList] then 2
  else if handle = ["resilienthandles".toList] then 1 else 0

/-- The strength of multichannel options. -/
def channelStrength (channel : List Text) : Nat :=
  if channel = [] then 0 else 1

/-- What the mount code needs of a list of tries. -/
structure TriesOk (weight : List Text → Nat) (allowed : List (List Text)) (follows : List Text → Prop)
    (tries : List (List Text)) : Prop where
  decreasing : tries.Pairwise fun stronger weaker => weight weaker < weight stronger
  among : ∀ option ∈ tries, option ∈ allowed
  follow : ∀ option ∈ tries, follows option
  longest : ∃ option ∈ tries, ∀ other, follows other → other.length ≤ option.length

/-- The handle options that can be tried. -/
def handleShapes : List (List Text) :=
  [["persistenthandles".toList], ["resilienthandles".toList], []]

theorem handleTries_ok {target : TargetConfig} (h : target.handleReconnectPolicy ∈ handlePolicies) :
    ∃ tries, handleTries target = .ok tries ∧ TriesOk handleStrength handleShapes
      (HandlesFollow target.handleReconnectPolicy) tries := by
  have hcases : target.handleReconnectPolicy = "disabled".toList ∨
      target.handleReconnectPolicy = "auto".toList ∨
      target.handleReconnectPolicy = "resilient".toList ∨
      target.handleReconnectPolicy = "persistent".toList := by
    simpa only [handlePolicies, List.mem_cons, List.not_mem_nil, or_false] using h
  unfold handleTries
  -- one list of tries for each policy; `auto` tries all shapes, the strongest first
  obtain hpolicy | hpolicy | hpolicy | hpolicy := hcases <;> rw [hpolicy]
  · refine ⟨[[]], rfl, by decide, by decide, ?_, [], List.mem_singleton_self _, ?_⟩
    · intro option hoption
      obtain rfl := List.mem_singleton.mp hoption
      exact ⟨by decide, by decide, fun _ => rfl, by decide⟩
    · intro other hfollow
      rw [hfollow.2.2.1 rfl]
  · refine ⟨handleShapes, rfl, by decide, by decide, ?_, _, List.mem_cons_self, ?_⟩
    · intro option hoption
      refine ⟨fun hno => absurd hno (by decide), fun hno => absurd hno (by decide),
        fun hno => absurd hno (by decide), fun _ => ?_⟩
      simpa only [handleShapes, List.mem_cons, List.not_mem_nil, or_false] using hoption
    · intro other hfollow
      obtain rfl | rfl | rfl := hfollow.2.2.2 rfl <;> decide
  · refine ⟨[["resilienthandles".toList]], rfl, by decide, by decide, ?_, _,
      List.mem_singleton_self _, ?_⟩
    · intro option hoption
      obtain rfl := List.mem_singleton.mp hoption
      exact ⟨by decide, fun _ => rfl, by decide, by decide⟩
    · intro other hfollow
      rw [hfollow.2.1 rfl]
  · refine ⟨[["persistenthandles".toList]], rfl, by decide, by decide, ?_, _,
      List.mem_singleton_self _, ?_⟩
    · intro option hoption
      obtain rfl := List.mem_singleton.mp hoption
      exact ⟨fun _ => rfl, by decide, by decide, by decide⟩
    · intro other hfollow
      rw [hfollow.1 rfl]

theorem channelTries_ok {target : TargetConfig}
    (h : target.multichannelPolicy ∈ multichannelPolicies) :
    ∃ tries, channelTries target = .ok tries ∧ TriesOk channelStrength [enabledChannels target, []]
      (ChannelsFollow target.multichannelPolicy target.maxChannels) tries := by
  have hcases : target.multichannelPolicy = "disabled".toList ∨
      target.multichannelPolicy = "auto".toList ∨ target.multichannelPolicy = "required".toList := by
    simpa only [multichannelPolicies, List.mem_cons, List.not_mem_nil, or_false] using h
  unfold channelTries
  -- `auto` tries with channels and then without
  obtain hpolicy | hpolicy | hpolicy := hcases <;> rw [hpolicy]
  · refine ⟨[[]], rfl, List.pairwise_singleton _ _, ?_, ?_, [], List.mem_singleton_self _, ?_⟩
    · intro option hoption
      exact List.mem_cons_of_mem _ hoption
    · intro option hoption
      obtain rfl := List.mem_singleton.mp hoption
      exact ⟨fun hno => absurd hno (by decide), fun _ => rfl, fun hno => absurd hno (by decide)⟩
    · intro other hfollow
      rw [hfollow.2.1 rfl]
  · refine ⟨[enabledChannels target, []], rfl, ?_, fun _ h => h, ?_, _, List.mem_cons_self, ?_⟩
    · exact List.pairwise_pair.mpr Nat.zero_lt_one
    · intro option hoption
      refine ⟨fun hno => absurd hno (by decide), fun hno => absurd hno (by decide), fun _ => ?_⟩
      exact List.mem_pair.mp hoption
    · intro other hfollow
      obtain rfl | rfl := hfollow.2.2 rfl
      · exact le_refl _
      · exact Nat.zero_le _
  · refine ⟨[enabledChannels target], rfl, List.pairwise_singleton _ _, ?_, ?_, _,
      List.mem_singleton_self _, ?_⟩
    · intro option hoption
      obtain rfl := List.mem_singleton.mp hoption
      exact List.mem_cons_self
    · intro option hoption
      obtain rfl := List.mem_singleton.mp hoption
      exact ⟨fun _ => rfl, fun hno => absurd hno (by decide), fun hno => absurd hno (by decide)⟩
    · intro other hfollow
      rw [hfollow.1 rfl]
      exact le_refl _

/-! ## The profiles -/

theorem foldl_addProfile (profiles added : List (List Text)) (hnodup : added.Nodup)
    (hnew : ∀ profile ∈ added, profile ∉ profiles) :
    added.foldl addProfile profiles = profiles ++ added := by
  induction added generalizing profiles with
  | nil => simp
  | cons profile rest ih =>
    obtain ⟨hprofile, hrest⟩ := List.nodup_cons.mp hnodup
    rw [List.foldl_cons, addProfile, if_neg (hnew profile List.mem_cons_self), ih _ hrest]
    · simp
    · intro other hother hmem
      obtain hmem | hmem := List.mem_append.mp hmem
      · exact hnew other (List.mem_cons_of_mem _ hother) hmem
      · exact hprofile (List.mem_singleton.mp hmem ▸ hother)

/-- The text of the channel number is not the name of another option. -/
theorem channels_ne {text : Text} (n : Int) (h : text.head? ≠ some 'm') :
    text ≠ "max_channels=".toList ++ Text.ofInt n := by
  rintro rfl
  exact h rfl

theorem handles_not_mem_enabledChannels (target : TargetConfig) {text : Text}
    (h : text.head? ≠ some 'm') : text ∉ enabledChannels target := by
  intro hmem
  obtain heq | heq := List.mem_pair.mp hmem
  · exact h (heq ▸ rfl)
  · exact channels_ne _ h heq

/-- The two parts of the strength depend on the tries alone. -/
theorem handleShapes_strength : ∀ handle ∈ handleShapes,
    (if "persistenthandles".toList ∈ handle then 2
      else if "resilienthandles".toList ∈ handle then 1 else 0) = handleStrength handle ∧
    "multichannel".toList ∉ handle := by
  decide

theorem channelShapes_strength {target : TargetConfig} {channel : List Text}
    (h : channel ∈ [enabledChannels target, []]) :
    (if "multichannel".toList ∈ channel then 1 else 0) = channelStrength channel ∧
    "persistenthandles".toList ∉ channel ∧ "resilienthandles".toList ∉ channel := by
  obtain rfl | rfl := List.mem_pair.mp h
  · exact ⟨if_pos List.mem_cons_self, handles_not_mem_enabledChannels target (by decide),
      handles_not_mem_enabledChannels target (by decide)⟩
  · decide

/-- Among options that the guardian does not own, the tries alone decide the strength. -/
theorem strength_eq {target : TargetConfig} {base handle channel : List Text}
    (hbase : ∀ t ∈ handleOptions ++ multichannelOptions, t ∉ base) (hhandle : handle ∈ handleShapes)
    (hchannel : channel ∈ [enabledChannels target, []]) :
    strength (base ++ handle ++ channel) = 2 * handleStrength handle + channelStrength channel := by
  have hp := hbase "persistenthandles".toList (by decide)
  have hr := hbase "resilienthandles".toList (by decide)
  have hm := hbase "multichannel".toList (by decide)
  obtain ⟨hhandles, hmh⟩ := handleShapes_strength handle hhandle
  obtain ⟨hchannels, hpc, hrc⟩ := channelShapes_strength hchannel
  have hmem : ∀ {text : Text}, text ∉ base → text ∉ channel →
      (text ∈ base ++ handle ++ channel ↔ text ∈ handle) := by
    intro text hb hc
    simp [hb, hc]
  have hmulti : "multichannel".toList ∈ base ++ handle ++ channel ↔
      "multichannel".toList ∈ channel := by
    rw [List.mem_append, List.mem_append]
    constructor
    · rintro ((h | h) | h)
      · exact absurd h hm
      · exact absurd h hmh
      · exact h
    · exact .inr
  unfold strength
  simp only [hmem hp hpc, hmem hr hrc, hmulti]
  rw [hhandles, hchannels]

theorem channelStrength_le (channel : List Text) : channelStrength channel ≤ 1 := by
  unfold channelStrength
  split <;> omega

/-- The profiles of an accepted target: all combinations of the tries, from strongest to weakest. -/
theorem cifsMountProfiles_ok {lib : Library} {target : TargetConfig} {handles channels base}
    (hoptions : cifsMountOptions lib target = .ok base) (hhandles : handleTries target = .ok handles)
    (hchannels : channelTries target = .ok channels)
    (hbase : ∀ t ∈ handleOptions ++ multichannelOptions, t ∉ base)
    (hh : TriesOk handleStrength handleShapes (HandlesFollow target.handleReconnectPolicy) handles)
    (hc : TriesOk channelStrength [enabledChannels target, []]
      (ChannelsFollow target.multichannelPolicy target.maxChannels) channels) :
    cifsMountProfiles lib target = .ok (handles.flatMap fun handle =>
      channels.map fun channel => base ++ handle ++ channel) ∧
    (handles.flatMap fun handle => channels.map fun channel => base ++ handle ++ channel).Pairwise
      fun stronger weaker => strength weaker < strength stronger := by
  have hdecreasing : (handles.flatMap fun handle =>
      channels.map fun channel => base ++ handle ++ channel).Pairwise
      fun stronger weaker => strength weaker < strength stronger := by
    rw [List.pairwise_flatMap]
    constructor
    · -- the same handle option: multichannel comes first
      intro handle hhandle
      rw [List.pairwise_map]
      refine hc.decreasing.imp_of_mem ?_
      intro c d hcmem hdmem hlt
      rw [strength_eq hbase (hh.among _ hhandle) (hc.among _ hcmem),
        strength_eq hbase (hh.among _ hhandle) (hc.among _ hdmem)]
      omega
    · -- a stronger handle option outweighs multichannel
      refine hh.decreasing.imp_of_mem ?_
      intro h k hhmem hkmem hlt x hx y hy
      obtain ⟨c, hcmem, rfl⟩ := List.mem_map.mp hx
      obtain ⟨d, hdmem, rfl⟩ := List.mem_map.mp hy
      rw [strength_eq hbase (hh.among _ hhmem) (hc.among _ hcmem),
        strength_eq hbase (hh.among _ hkmem) (hc.among _ hdmem)]
      have hle := channelStrength_le d
      omega
  refine ⟨?_, hdecreasing⟩
  -- a strictly decreasing list has no duplicates, so the loop that skips known profiles adds each
  have hnodup : (handles.flatMap fun handle =>
      channels.map fun channel => base ++ handle ++ channel).Nodup := by
    refine hdecreasing.imp ?_
    rintro a b hlt rfl
    exact lt_irrefl _ hlt
  unfold cifsMountProfiles
  refine bind_eq_ok.mpr ⟨base, hoptions, ?_⟩
  refine bind_eq_ok.mpr ⟨handles, hhandles, ?_⟩
  refine bind_eq_ok.mpr ⟨channels, hchannels, ?_⟩
  rw [foldl_addProfile [] _ hnodup (fun _ _ => List.not_mem_nil), List.nil_append]
  rfl

theorem cifsMountOptions_ok {lib : Library} {name : String} {raw : Table} {options : List Text}
    {target : TargetConfig}
    (h : CifsOk lib name raw options target.ioFailurePolicy target.transport target.mountOptions) :
    cifsMountOptions lib target = .ok (target.ioFailurePolicy :: target.mountOptions) := by
  have hne : target.ioFailurePolicy ≠ [] := (knownTexts_plain _ (known_of_owned
    (List.mem_append_left _ h.policy_mem))).2.2.2.1
  have heffective : target.effectiveIoFailurePolicy = target.ioFailurePolicy := if_neg hne
  have hkept : ∀ option ∈ target.mountOptions, mountOptionName lib option ∉ guardianOwned := by
    intro option hoption
    rw [h.remaining_eq] at hoption
    exact (mem_withoutNames.mp hoption).2
  unfold cifsMountOptions
  rw [heffective, if_neg (not_not.mpr h.policy_mem), if_neg, if_neg]
  · rintro ⟨option, hoption, hmem⟩
    exact hkept option hoption (List.mem_append_right _ hmem)
  · rintro ⟨option, hoption, hmem⟩
    exact hkept option hoption (List.mem_append_left _ hmem)

/-! ## The kernel's view of a profile -/

/-- The owned options among the pieces of some options. -/
def ownedPieces (lib : Library) (options : List Text) : List Text :=
  (options.flatMap (List.splitOn ',')).filter fun option => mountOptionName lib option ∈ guardianOwned

theorem ownedPieces_append (lib : Library) (xs ys : List Text) :
    ownedPieces lib (xs ++ ys) = ownedPieces lib xs ++ ownedPieces lib ys := by
  simp [ownedPieces]

theorem ownedPieces_cons (lib : Library) (x : Text) (xs : List Text) :
    ownedPieces lib (x :: xs) = ownedPieces lib [x] ++ ownedPieces lib xs :=
  ownedPieces_append lib [x] xs

theorem ownedPieces_eq_nil {lib : Library} {options : List Text} :
    ownedPieces lib options = [] ↔
      ∀ option ∈ options, ∀ piece ∈ option.splitOn ',', mountOptionName lib piece ∉ guardianOwned := by
  rw [ownedPieces, List.filter_eq_nil_iff]
  constructor
  · intro h option hoption piece hpiece hmem
    exact h piece (List.mem_flatMap.mpr ⟨option, hoption, hpiece⟩) (decide_eq_true hmem)
  · intro h piece hpiece hmem
    obtain ⟨option, hoption, hpiece⟩ := List.mem_flatMap.mp hpiece
    exact h option hoption piece hpiece (of_decide_eq_true hmem)

/-- An owned option without a comma is seen as it is. -/
theorem ownedPieces_singleton {lib : Library} {option : Text} (hcomma : ',' ∉ option)
    (howned : mountOptionName lib option ∈ guardianOwned) : ownedPieces lib [option] = [option] := by
  simp [ownedPieces, List.splitOn_eq_singleton hcomma, howned]

theorem ownedPieces_known {lib : Library} {option : Text} (h : option ∈ guardianOwned) :
    ownedPieces lib [option] = [option] := by
  have hknown := known_of_owned h
  apply ownedPieces_singleton
  · exact fun hmem => ((knownTexts_plain option hknown).2.2.2.2 ',' hmem).2 rfl
  · rwa [mountOptionName_of_known hknown]

theorem ownedPieces_handle {lib : Library} {handle : List Text} (h : handle ∈ handleShapes) :
    ownedPieces lib handle = handle := by
  simp only [handleShapes, List.mem_cons, List.not_mem_nil, or_false] at h
  obtain rfl | rfl | rfl := h
  · exact ownedPieces_known (by decide)
  · exact ownedPieces_known (by decide)
  · rfl

theorem ownedPieces_channel {lib : Library} {target : TargetConfig} {channel : List Text}
    (h : channel ∈ [enabledChannels target, []]) : ownedPieces lib channel = channel := by
  obtain rfl | rfl := List.mem_pair.mp h
  · have hnumber : ownedPieces lib ["max_channels=".toList ++ Text.ofInt target.maxChannels] =
        ["max_channels=".toList ++ Text.ofInt target.maxChannels] := by
      apply ownedPieces_singleton
      · intro hmem
        obtain hmem | hmem := List.mem_append.mp hmem
        · exact absurd hmem (by decide)
        · obtain hc | hc := Text.mem_ofInt hmem
          · exact absurd hc (by decide)
          · exact absurd hc (by decide)
      · have hname : mountOptionName lib ("max_channels=".toList ++ Text.ofInt target.maxChannels) =
            mountOptionName lib "max_channels".toList := rfl
        rw [hname, mountOptionName_of_known (by decide)]
        decide
    rw [enabledChannels, ← List.singleton_append, ownedPieces_append,
      ownedPieces_known (by decide), hnumber]
  · rfl

/-- The credentials option itself is not owned; what follows a comma may be. -/
theorem ownedPieces_credentials (lib : Library) (path : Text) :
    ownedPieces lib ["credentials=".toList ++ path] =
      (path.splitOn ',').tail.filter fun piece => mountOptionName lib piece ∈ guardianOwned := by
  have hname : ∀ rest : Text, mountOptionName lib ("credentials=".toList ++ rest) ∉ guardianOwned := by
    intro rest
    have hname : mountOptionName lib ("credentials=".toList ++ rest) =
        mountOptionName lib "credentials".toList := rfl
    rw [hname, mountOptionName_of_known (by decide)]
    decide
  have hsplit : ("credentials=".toList ++ path).splitOn ',' =
      (path.splitOn ',').modifyHead ("credentials=".toList ++ ·) :=
    splitOn_append_of_not_mem ',' (by decide) path
  unfold ownedPieces
  rw [List.flatMap_singleton, hsplit]
  cases hpieces : path.splitOn ',' with
  | nil => rfl
  | cons first rest =>
    rw [List.modifyHead_cons, List.filter_cons, if_neg]
    · rfl
    · exact fun h => hname first (of_decide_eq_true h)

/-- The kernel's view of a profile: what is hidden in the credentials, the policy, what is hidden in the
kept options, and the tries. -/
theorem ownedOptions_eq {lib : Library} {target : TargetConfig} {handle channel : List Text}
    (hpolicy : target.ioFailurePolicy ∈ ioFailurePolicies) (hhandle : handle ∈ handleShapes)
    (hchannel : channel ∈ [enabledChannels target, []]) :
    ownedOptions lib target (target.ioFailurePolicy :: target.mountOptions ++ handle ++ channel) =
      ownedPieces lib ["credentials=".toList ++ target.credentialsFile] ++
        (target.ioFailurePolicy :: (ownedPieces lib target.mountOptions ++ (handle ++ channel))) := by
  have hpieces : ∀ profile, ownedOptions lib target profile =
      ownedPieces lib (("credentials=".toList ++ target.credentialsFile) :: profile) := by
    intro profile
    rw [ownedOptions, kernelOptions, mountArgument,
      splitOn_intercalate_flatMap ',' _ (List.cons_ne_nil _ _), ownedPieces]
  rw [hpieces, ownedPieces_cons, ownedPieces_append, ownedPieces_append,
    ownedPieces_cons lib target.ioFailurePolicy,
    ownedPieces_known (List.mem_append_left _ hpolicy), ownedPieces_handle hhandle,
    ownedPieces_channel hchannel, List.singleton_append, List.cons_append, List.cons_append,
    List.append_assoc]

/-- The mount policy of an accepted CIFS target reaches the kernel exactly when no option and no
credentials path hides an owned option behind a comma. -/
theorem profiles_follow_policy_iff {lib : Library} {name : String} {raw : Table}
    {runtimeDir : PosixPath} {target : TargetConfig} {options : List Text}
    (h : parseTarget lib name raw runtimeDir = .ok target) (htype : target.type = .cifs)
    (hoptions : stringList (raw.get? "mount_options") s!"storage.{name}.mount_options" =
      .ok options) :
    ProfilesFollow lib raw options target ↔ NoHiddenOptions lib target options := by
  have hcifs := parseTarget_cifs h htype hoptions
  have hconfigured := configured_iff h htype hoptions
  have hbase : ∀ t ∈ handleOptions ++ multichannelOptions,
      t ∉ target.ioFailurePolicy :: target.mountOptions := by
    intro t ht hmem
    have howned : t ∈ guardianOwned := List.mem_append_right _ ht
    obtain rfl | hmem := List.mem_cons.mp hmem
    · obtain ht | ht := List.mem_append.mp ht
      · exact owned_disjoint.1 _ ht hcifs.policy_mem
      · exact owned_disjoint.2 _ ht hcifs.policy_mem
    · rw [hcifs.remaining_eq] at hmem
      apply (mem_withoutNames.mp hmem).2
      rwa [mountOptionName_of_known (known_of_owned howned)]
  obtain ⟨handles, hhandles, hh⟩ := handleTries_ok hcifs.handle_mem
  obtain ⟨channels, hchannels, hc⟩ := channelTries_ok hcifs.multichannel.policy_mem
  obtain ⟨hprofiles, hdecreasing⟩ := cifsMountProfiles_ok (cifsMountOptions_ok hcifs) hhandles
    hchannels hbase hh hc
  have hmem : ∀ profile, profile ∈ (handles.flatMap fun handle => channels.map fun channel =>
      target.ioFailurePolicy :: target.mountOptions ++ handle ++ channel) ↔
      ∃ handle ∈ handles, ∃ channel ∈ channels,
        target.ioFailurePolicy :: target.mountOptions ++ handle ++ channel = profile := by
    intro profile
    simp only [List.mem_flatMap, List.mem_map]
  -- hidden are owned names among the kept options and behind commas of the credentials path
  have hhidden : NoHiddenOptions lib target options ↔ ownedPieces lib target.mountOptions = [] ∧
      ownedPieces lib ["credentials=".toList ++ target.credentialsFile] = [] := by
    rw [ownedPieces_eq_nil, ownedPieces_credentials, List.filter_eq_nil_iff, hcifs.remaining_eq]
    unfold NoHiddenOptions
    simp only [mem_withoutNames, and_imp, decide_eq_true_eq]
  rw [hhidden]
  constructor
  · -- the strongest profile has no room for a hidden option
    rintro ⟨policies, hpolicies, -, profiles, hok, -, -, -, hfollow⟩
    obtain rfl := (hconfigured policies).1 hpolicies
    obtain rfl := Except.ok.inj (hprofiles.symm.trans hok)
    obtain ⟨handle, hhandle, hlongest⟩ := hh.longest
    obtain ⟨channel, hchannel, hwidest⟩ := hc.longest
    obtain ⟨handles', channels', hview, hfh, hfc⟩ :=
      hfollow _ ((hmem _).mpr ⟨handle, hhandle, channel, hchannel, rfl⟩)
    rw [ownedOptions_eq hcifs.policy_mem (hh.among _ hhandle) (hc.among _ hchannel)] at hview
    have hlength := congrArg List.length hview
    have hle := hlongest handles' hfh
    have hle' := hwidest channels' hfc
    simp only [List.length_append, List.length_cons] at hlength
    constructor
    · apply List.eq_nil_of_length_eq_zero
      omega
    · apply List.eq_nil_of_length_eq_zero
      omega
  -- nothing is hidden, so a profile shows the options of its handle and channel only
  · rintro ⟨hkept, hcredentials⟩
    refine ⟨_, (hconfigured _).2 rfl, hcifs.policy_mem, _, hprofiles, ?_, ?_, hdecreasing, ?_⟩
    · obtain ⟨handle, hhandle, -⟩ := hh.longest
      obtain ⟨channel, hchannel, -⟩ := hc.longest
      exact List.ne_nil_of_mem ((hmem _).mpr ⟨handle, hhandle, channel, hchannel, rfl⟩)
    · refine hdecreasing.imp ?_
      rintro a b hlt rfl
      exact lt_irrefl _ hlt
    · intro profile hprofile
      obtain ⟨handle, hhandle, channel, hchannel, rfl⟩ := (hmem profile).mp hprofile
      refine ⟨handle, channel, ?_, hh.follow _ hhandle, hc.follow _ hchannel⟩
      rw [ownedOptions_eq hcifs.policy_mem (hh.among _ hhandle) (hc.among _ hchannel), hkept,
        hcredentials, List.nil_append, List.nil_append]
      rfl

/-- A target that tries persistent handles and multichannel first. -/
theorem profiles_follow_policy_auto : ∃ target,
    parseTarget Library.plain "data"
      (cifsTable [("handle_reconnect_policy".toList, .str "auto".toList),
        ("multichannel_policy".toList, .str "auto".toList)] ["vers=3.1.1"])
      runDirectory = .ok target ∧ ProfilesFollow Library.plain
        (cifsTable [("handle_reconnect_policy".toList, .str "auto".toList),
          ("multichannel_policy".toList, .str "auto".toList)] ["vers=3.1.1"])
        ["vers=3.1.1".toList] target := by
  obtain ⟨target, hparse, hfields⟩ := map_eq_ok (show (parseTarget Library.plain "data"
    (cifsTable [("handle_reconnect_policy".toList, .str "auto".toList),
      ("multichannel_policy".toList, .str "auto".toList)] ["vers=3.1.1"]) runDirectory).map
    (fun t => (t.type, t.credentialsFile)) = .ok (.cifs, "/run/secrets/cifs".toList) by
      decide +kernel)
  obtain ⟨htype, hcredentials⟩ := Prod.mk.inj hfields
  refine ⟨target, hparse, (profiles_follow_policy_iff hparse htype rfl).mpr ⟨?_, ?_⟩⟩
  · show ∀ option ∈ ["vers=3.1.1".toList], mountOptionName Library.plain option ∉ guardianOwned →
      ∀ piece ∈ option.splitOn ',', mountOptionName Library.plain piece ∉ guardianOwned
    decide +kernel
  · rw [hcredentials]
    decide +kernel

/-- The kernel sees both policies of a target whose only option hides `soft` behind a comma. -/
theorem hidden_soft_reaches_kernel : ∃ target,
    parseTarget Library.plain "data"
      (cifsTable [("io_failure_policy".toList, .str "hard".toList)] ["vers=3.1.1,soft"])
      runDirectory = .ok target ∧ target.type = .cifs ∧
    cifsMountProfiles Library.plain target = .ok [["hard".toList, "vers=3.1.1,soft".toList]] ∧
    ownedOptions Library.plain target ["hard".toList, "vers=3.1.1,soft".toList] =
      ["hard".toList, "soft".toList] ∧
    ¬ ProfilesFollow Library.plain
      (cifsTable [("io_failure_policy".toList, .str "hard".toList)] ["vers=3.1.1,soft"])
      ["vers=3.1.1,soft".toList] target := by
  -- the parsed target is evaluated once, with the fields that are needed
  obtain ⟨target, hparse, hfields⟩ := map_eq_ok (show (parseTarget Library.plain "data"
    (cifsTable [("io_failure_policy".toList, .str "hard".toList)] ["vers=3.1.1,soft"])
    runDirectory).map (fun t => (t.type, (cifsMountProfiles Library.plain t).toOption,
      ownedOptions Library.plain t ["hard".toList, "vers=3.1.1,soft".toList],
      t.handleReconnectPolicy, t.multichannelPolicy)) =
    .ok (.cifs, some [["hard".toList, "vers=3.1.1,soft".toList]], ["hard".toList, "soft".toList],
      "disabled".toList, "disabled".toList) from rfl)
  simp only [Prod.mk.injEq] at hfields
  obtain ⟨htype, hprofiles, howned, hhandle, hmultichannel⟩ := hfields
  have hok : cifsMountProfiles Library.plain target =
      .ok [["hard".toList, "vers=3.1.1,soft".toList]] := by
    cases hresult : cifsMountProfiles Library.plain target with
    | error e =>
      rw [hresult] at hprofiles
      cases hprofiles
    | ok profiles =>
      rw [hresult] at hprofiles
      rw [Option.some.inj hprofiles]
  refine ⟨target, hparse, htype, hok, howned, ?_⟩
  rintro ⟨policies, hpolicies, -, profiles, hprofiles', -, -, -, hfollow⟩
  obtain rfl := (configured_iff hparse htype rfl policies).1 hpolicies
  obtain rfl := Except.ok.inj (hok.symm.trans hprofiles')
  obtain ⟨handles, channels, hview, hfh, hfc⟩ := hfollow _ (List.mem_singleton_self _)
  -- two owned options are left where the policies allow one
  rw [howned, hfh.2.2.1 hhandle, hfc.2.1 hmultichannel] at hview
  have hlength : 2 = 1 := congrArg List.length hview
  cases hlength

end StorageNode.Storage
