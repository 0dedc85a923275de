import StorageNode.Config.TargetPolicies

/-!
# Migration of legacy CIFS options

An accepted CIFS target keeps what its mount options asked for: every option that the guardian owns
agrees with the policy it became, every other option is kept in order, and the table rewritten with the
policies parses to the same target.

The number of channels is the exception. An explicit `max_channels` silently wins over a different
`max_channels=N` option, and `max_channels=0` counts as absent. `channels_migrate_iff` says that these
are the only ways in which the meaning changes.
-/

set_option autoImplicit false

namespace StorageNode.Config

variable {lib : Library} {name : String} {raw : Table} {runtimeDir : PosixPath}
  {target : TargetConfig} {options : List Text}

/-- The value of an option. -/
def optionValue (option : Text) : Text :=
  (option.past '=').strip

/-! ## The canonical table -/

/-- The keys that the canonical table sets. -/
def canonicalKeys : List Text :=
  ["mount_options".toList, "io_failure_policy".toList, "minimum_smb_dialect".toList,
    "handle_reconnect_policy".toList, "multichannel_policy".toList, "max_channels".toList]

/-- The channel setting, which is valid only where multichannel is not disabled. -/
def setChannels (raw : Table) (target : TargetConfig) : Table :=
  if target.multichannelPolicy = "disabled".toList then raw.erase "max_channels"
  else raw.set "max_channels" (.int target.maxChannels)

/-- The raw table with the policies of the parsed target and the options that are left. -/
def canonicalTable (raw : Table) (target : TargetConfig) : Table :=
  ((((setChannels raw target).set "multichannel_policy" (.str target.multichannelPolicy)).set
    "handle_reconnect_policy" (.str target.handleReconnectPolicy)).set
    "minimum_smb_dialect" (.str target.minimumSmbDialect)).set
    "io_failure_policy" (.str target.ioFailurePolicy) |>.set
    "mount_options" (.array (target.mountOptions.map .str))

theorem setChannels_get? {key : Text} (h : key ≠ "max_channels".toList) :
    (setChannels raw target).get? key = raw.get? key := by
  unfold setChannels
  split
  · rw [Table.get?_erase, if_neg h]
  · rw [Table.get?_set, if_neg h]

/-- Other keys are as they were. -/
theorem canonicalTable_get?_other {key : Text} (h : key ∉ canonicalKeys) :
    (canonicalTable raw target).get? key = raw.get? key := by
  have hne : ∀ other ∈ canonicalKeys, key ≠ other := fun other hother heq => h (heq ▸ hother)
  unfold canonicalTable
  rw [Table.get?_set, if_neg (hne _ (by decide)), Table.get?_set, if_neg (hne _ (by decide)),
    Table.get?_set, if_neg (hne _ (by decide)), Table.get?_set, if_neg (hne _ (by decide)),
    Table.get?_set, if_neg (hne _ (by decide)), setChannels_get? (hne _ (by decide))]

theorem canonicalTable_options :
    (canonicalTable raw target).get? "mount_options" =
      some (.array (target.mountOptions.map .str)) := by
  rw [canonicalTable, Table.get?_set, if_pos rfl]

theorem canonicalTable_ioFailurePolicy :
    (canonicalTable raw target).get? "io_failure_policy" = some (.str target.ioFailurePolicy) := by
  rw [canonicalTable, Table.get?_set, if_neg (by decide), Table.get?_set, if_pos rfl]

theorem canonicalTable_dialect :
    (canonicalTable raw target).get? "minimum_smb_dialect" =
      some (.str target.minimumSmbDialect) := by
  rw [canonicalTable, Table.get?_set, if_neg (by decide), Table.get?_set, if_neg (by decide),
    Table.get?_set, if_pos rfl]

theorem canonicalTable_handle :
    (canonicalTable raw target).get? "handle_reconnect_policy" =
      some (.str target.handleReconnectPolicy) := by
  rw [canonicalTable, Table.get?_set, if_neg (by decide), Table.get?_set, if_neg (by decide),
    Table.get?_set, if_neg (by decide), Table.get?_set, if_pos rfl]

theorem canonicalTable_multichannel :
    (canonicalTable raw target).get? "multichannel_policy" =
      some (.str target.multichannelPolicy) := by
  rw [canonicalTable, Table.get?_set, if_neg (by decide), Table.get?_set, if_neg (by decide),
    Table.get?_set, if_neg (by decide), Table.get?_set, if_neg (by decide), Table.get?_set,
    if_pos rfl]

theorem canonicalTable_channels
    (h : target.multichannelPolicy = "disabled".toList → target.maxChannels = 2) :
    CanonicalChannels (canonicalTable raw target) target.multichannelPolicy target.maxChannels := by
  have hget : (canonicalTable raw target).get? "max_channels" =
      (setChannels raw target).get? "max_channels" := by
    rw [canonicalTable, Table.get?_set, if_neg (by decide), Table.get?_set, if_neg (by decide),
      Table.get?_set, if_neg (by decide), Table.get?_set, if_neg (by decide), Table.get?_set,
      if_neg (by decide)]
  unfold CanonicalChannels
  rw [hget, setChannels]
  split
  · rename_i hdisabled
    exact ⟨by rw [Table.get?_erase, if_pos rfl], h hdisabled⟩
  · rw [Table.get?_set, if_pos rfl]

theorem texts_map_str (items : List Text) : texts (items.map .str) = some items := by
  induction items with
  | nil => rfl
  | cons item items ih => simp [texts, ih]

/-! ## Parsing again -/

/-- An accepted CIFS target parses again from its canonical table. -/
theorem parseTarget_canonicalTable (h : parseTarget lib name raw runtimeDir = .ok target)
    (htype : target.type = .cifs) :
    parseTarget lib name (canonicalTable raw target) runtimeDir = .ok target := by
  obtain ⟨type, place, options, policy, transport, remaining, hkind, hplace, hoptions, hpolicies,
    htarget, hsentinel, hfree, hcheck⟩ := parseTarget_eq_ok.mp h
  have hcifs := parseTarget_cifs h htype hoptions
  have hbuilt := buildTarget_ok htarget
  obtain rfl : type = .cifs := hbuilt.type_eq.symm.trans htype
  have hget : ∀ key : Text, key ∉ canonicalKeys →
      (canonicalTable raw target).get? key = raw.get? key :=
    fun key hkey => canonicalTable_get?_other hkey
  -- a disabled policy leaves the number of channels at its default
  have hchannels : target.multichannelPolicy = "disabled".toList → target.maxChannels = 2 := by
    intro hdisabled
    obtain ⟨legacyMax, -, hvalue, hnone⟩ := hcifs.multichannel.channels
    obtain ⟨hraw, rfl⟩ := hnone hdisabled
    obtain ⟨-, hdefault⟩ | hsome := hvalue
    · exact hdefault
    · rw [hraw] at hsome
      cases hsome
  -- the parse of the canonical table goes through stage by stage
  refine parseTarget_eq_ok.mpr ⟨.cifs, place, target.mountOptions, policy, transport, remaining,
    ?_, ?_, ?_, ?_, ?_, hsentinel, hfree, ?_⟩
  · rw [parseTargetType, hget _ (by decide)]
    exact hkind
  · rw [parsePlacement, hget _ (by decide), hget _ (by decide), hget _ (by decide)]
    exact hplace
  · rw [canonicalTable_options, stringList, texts_map_str]
  · rw [← hbuilt.policy_eq, ← hbuilt.options_eq, ← hbuilt.transport_eq]
    -- the policies are the only stage whose keys were rewritten
    exact parsePolicies_canonical hcifs ⟨canonicalTable_ioFailurePolicy, canonicalTable_dialect,
      canonicalTable_handle, canonicalTable_multichannel, canonicalTable_channels hchannels⟩
      (hget _ (by decide))
  · unfold buildTarget
    rw [hget _ (by decide), hget _ (by decide), hget _ (by decide), hget _ (by decide),
      hget _ (by decide), hget _ (by decide), hget _ (by decide), hget _ (by decide)]
    exact htarget
  · rw [checkTarget, htype] at hcheck ⊢
    exact hcheck

/-! ## The number of channels -/

/-- What the migration keeps: each option that the guardian owns equals the policy it became, the other
options stay in order, and the canonical table parses to the same target. -/
structure Migrated (lib : Library) (name : String) (raw : Table) (runtimeDir : PosixPath)
    (options : List Text) (target : TargetConfig) : Prop where
  ioFailure : ∀ option ∈ options, mountOptionName lib option ∈ ioFailurePolicies →
    target.ioFailurePolicy = mountOptionName lib option
  handle : ∀ option ∈ options, ∀ policy,
    impliedHandlePolicy (mountOptionName lib option) = some policy →
    target.handleReconnectPolicy = policy
  multichannel : ∀ option ∈ options, ∀ policy,
    impliedMultichannelPolicy (mountOptionName lib option) = some policy →
    target.multichannelPolicy = policy
  channels : ∀ option ∈ options, mountOptionName lib option = "max_channels".toList →
    lib.int (optionValue option) = some target.maxChannels
  kept : target.mountOptions = options.filter fun option => mountOptionName lib option ∉ guardianOwned
  parsesAgain : parseTarget lib name (canonicalTable raw target) runtimeDir = .ok target

/-- A `max_channels=N` option has a number other than zero, and an explicit setting is the same. -/
def ChannelsAgree (lib : Library) (raw : Table) (options : List Text) : Prop :=
  ∀ option ∈ options, mountOptionName lib option = "max_channels".toList →
    ∀ n, lib.int (optionValue option) = some n →
      n ≠ 0 ∧ ∀ m, raw.get? "max_channels" = some (.int m) → m = n

/-- The only `max_channels` option of an accepted target has a number. -/
theorem legacyMaxChannels_of_option {legacyMax : Option Int} {option : Text}
    (h : legacyMaxChannels lib name options = .ok legacyMax) (hoption : option ∈ options)
    (hname : mountOptionName lib option = "max_channels".toList) :
    ∃ n, lib.int (optionValue option) = some n ∧ legacyMax = some n := by
  have hvalue : optionValue option ∈ maxChannelsValues lib options :=
    List.mem_map_of_mem (List.mem_filter.mpr ⟨hoption, decide_eq_true hname⟩)
  obtain ⟨hnil, -⟩ | ⟨value, n, hvalues, hint, hmax⟩ := legacyMaxChannels_ok h
  · rw [hnil] at hvalue
    cases hvalue
  · rw [hvalues] at hvalue
    obtain heq := List.mem_singleton.mp hvalue
    exact ⟨n, heq ▸ hint, hmax⟩

/-- The migration of an accepted CIFS target keeps its meaning exactly when the channel numbers
agree. -/
theorem channels_migrate_iff (h : parseTarget lib name raw runtimeDir = .ok target)
    (htype : target.type = .cifs)
    (hoptions : stringList (raw.get? "mount_options") s!"storage.{name}.mount_options" =
      .ok options) :
    Migrated lib name raw runtimeDir options target ↔ ChannelsAgree lib raw options := by
  have hcifs := parseTarget_cifs h htype hoptions
  obtain ⟨legacyMax, hlegacy, hvalue, -⟩ := hcifs.multichannel.channels
  have hbounds := hcifs.multichannel.bounds
  constructor
  -- the canonical setting is the option, so it is at least two and agrees with an explicit one
  · intro hmigrated option hoption hname n hint
    obtain rfl : target.maxChannels = n :=
      Option.some.inj ((hmigrated.channels option hoption hname).symm.trans hint)
    refine ⟨?_, ?_⟩
    · intro hzero
      have hlow : 2 ≤ target.maxChannels := hbounds.1
      omega
    · intro m hraw
      obtain ⟨hnone, -⟩ | hsome := hvalue
      · rw [hraw] at hnone
        cases hnone
      · rw [hraw] at hsome
        exact Value.int.inj (Option.some.inj hsome)
  · intro hagree
    constructor
    · exact fun option hoption hmem => (hcifs.policy_follows option hoption hmem).symm
    · exact hcifs.handle_follows
    · exact hcifs.multichannel.follows
    · intro option hoption hname
      -- without an explicit setting the option is taken over, unless it is zero
      obtain ⟨n, hint, rfl⟩ := legacyMaxChannels_of_option hlegacy hoption hname
      obtain ⟨hzero, hexplicit⟩ := hagree option hoption hname n hint
      rw [hint]
      obtain ⟨-, hdefault⟩ | hsome := hvalue
      · have hchannels : target.maxChannels = maxChannelsDefault (some n) := hdefault
        rw [hchannels, maxChannelsDefault, if_neg hzero]
      · exact congrArg some (hexplicit _ hsome).symm
    · exact hcifs.remaining_eq
    · exact parseTarget_canonicalTable h htype

/-- Four channels, asked for twice. -/
theorem channels_migrate_four : ∃ target,
    parseTarget Library.plain "data"
      (cifsTable [("max_channels".toList, .int 4)] ["vers=3.1.1", "max_channels=4"])
      runDirectory = .ok target ∧ target.maxChannels = 4 ∧
    Migrated Library.plain "data"
      (cifsTable [("max_channels".toList, .int 4)] ["vers=3.1.1", "max_channels=4"])
      runDirectory ["vers=3.1.1".toList, "max_channels=4".toList] target := by
  obtain ⟨target, hparse, hfields⟩ := map_eq_ok (show (parseTarget Library.plain "data"
    (cifsTable [("max_channels".toList, .int 4)] ["vers=3.1.1", "max_channels=4"])
    runDirectory).map (fun t => (t.type, t.maxChannels)) = .ok (.cifs, 4) by decide +kernel)
  obtain ⟨htype, hchannels⟩ := Prod.mk.inj hfields
  refine ⟨target, hparse, hchannels, (channels_migrate_iff hparse htype rfl).mpr ?_⟩
  intro option hoption hname n hint
  obtain rfl | hoption := List.mem_cons.mp hoption
  · exact absurd hname (by decide +kernel)
  · obtain rfl := List.mem_singleton.mp hoption
    obtain rfl : (4 : Int) = n := Option.some.inj (Eq.trans (by decide +kernel) hint)
    refine ⟨by decide, ?_⟩
    intro m hraw
    exact (Value.int.inj (Option.some.inj hraw)).symm

/-- A legacy option for four channels is dropped in favour of an explicit setting of eight. -/
theorem channels_contradiction_accepted : ∃ target,
    parseTarget Library.plain "data"
      (cifsTable [("max_channels".toList, .int 8)] ["max_channels=4"]) runDirectory = .ok target ∧
    target.type = .cifs ∧ target.maxChannels = 8 ∧
    ¬ Migrated Library.plain "data" (cifsTable [("max_channels".toList, .int 8)] ["max_channels=4"])
      runDirectory ["max_channels=4".toList] target := by
  obtain ⟨target, hparse, hfields⟩ := map_eq_ok (show (parseTarget Library.plain "data"
    (cifsTable [("max_channels".toList, .int 8)] ["max_channels=4"]) runDirectory).map
    (fun t => (t.type, t.maxChannels)) = .ok (.cifs, 8) by decide +kernel)
  obtain ⟨htype, hchannels⟩ := Prod.mk.inj hfields
  refine ⟨target, hparse, htype, hchannels, ?_⟩
  intro hmigrated
  have hint := hmigrated.channels _ List.mem_cons_self (by decide +kernel)
  rw [hchannels] at hint
  exact absurd hint (by decide +kernel)

end StorageNode.Config
