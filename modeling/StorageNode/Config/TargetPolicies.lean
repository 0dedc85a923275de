import StorageNode.Config.Target

/-!
# What the target parser guarantees

One specification lemma for each parsing function: which options it looked at, which policy it chose and
which options it kept. The last section takes `_parse_target` itself apart.
-/

set_option autoImplicit false

namespace StorageNode.Config

variable {lib : Library} {name : String} {raw : Table}

/-! ## Names that the parser knows -/

/-- The settings and option names that the parser compares with. -/
def knownTexts : List Text :=
  guardianOwned ++ handlePolicies ++ multichannelPolicies ++ smbDialects ++ ["credentials".toList]

theorem knownTexts_plain : ∀ t ∈ knownTexts, t.strip = t ∧ t.before '=' = t ∧ t.map Char.toLower = t ∧
    t ≠ [] ∧ ∀ c ∈ t, c.toNat < 128 ∧ c ≠ ',' := by
  have hnames : ∀ t ∈ knownTexts, t.strip = t ∧ t.before '=' = t ∧ t.map Char.toLower = t ∧ t ≠ [] := by
    decide +kernel
  have hascii : ∀ t ∈ knownTexts, (t.all fun c => c.toNat < 128 ∧ c ≠ ',') = true := by
    decide +kernel
  intro t ht
  obtain ⟨hstrip, hbefore, hlower, hne⟩ := hnames t ht
  refine ⟨hstrip, hbefore, hlower, hne, fun c hc => ?_⟩
  exact of_decide_eq_true (List.all_eq_true.1 (hascii t ht) c hc)

/-- A known text is in canonical form. -/
theorem lower_strip_of_known {t : Text} (h : t ∈ knownTexts) : lib.lower t.strip = t := by
  obtain ⟨hstrip, -, hlower, -, hascii⟩ := knownTexts_plain t h
  rw [hstrip, Library.lower, lib.case.lower_ascii t fun c hc => (hascii c hc).1, hlower]

/-- A known text is the name of an option that starts with it. -/
theorem mountOptionName_of_known {t : Text} (h : t ∈ knownTexts) : mountOptionName lib t = t := by
  rw [mountOptionName, (knownTexts_plain t h).2.1]
  exact lower_strip_of_known h

theorem known_of_owned {t : Text} (h : t ∈ guardianOwned) : t ∈ knownTexts := by
  simp only [knownTexts, List.mem_append]
  exact .inl (.inl (.inl (.inl h)))

/-! ## Merging a setting with its legacy options -/

/-- A setting that agrees with what the legacy options ask for wins over the default. -/
theorem merge_eq_of_legacy {configured legacy default : Text} (hlegacy : legacy ≠ [])
    (hagree : configured = [] ∨ legacy = [] ∨ configured = legacy) :
    orElse (orElse configured legacy) default = legacy := by
  unfold orElse
  obtain rfl | h | rfl := hagree
  · simp [hlegacy]
  · exact absurd h hlegacy
  · simp [hlegacy]

/-- The merged setting is the configured one, the legacy one or the default. -/
theorem merge_mem {configured legacy default : Text} {allowed : List Text}
    (hconfigured : configured = [] ∨ configured ∈ allowed) (hlegacy : legacy = [] ∨ legacy ∈ allowed)
    (hdefault : default ∈ allowed) :
    orElse (orElse configured legacy) default ∈ allowed := by
  unfold orElse
  by_cases hempty : configured = []
  · by_cases hnone : legacy = []
    · simpa [hempty, hnone] using hdefault
    · simpa [hempty, hnone] using hlegacy.resolve_left hnone
  · simpa [hempty] using hconfigured.resolve_left hempty

/-! ## The soft and hard options -/

theorem parseCifsIoFailurePolicy_ok {options : List Text} {policy : Text} {remaining : List Text}
    (h : parseCifsIoFailurePolicy lib name raw options = .ok (policy, remaining)) :
    policy ∈ ioFailurePolicies ∧ remaining = withoutNames lib ioFailurePolicies options ∧
      ∀ option ∈ options, mountOptionName lib option ∈ ioFailurePolicies →
        mountOptionName lib option = policy := by
  unfold parseCifsIoFailurePolicy at h
  obtain ⟨configured, -, h⟩ := bind_eq_ok.mp h
  obtain ⟨hconfigured, h⟩ := require_bind_eq_ok.mp h
  obtain ⟨hlength, h⟩ := require_bind_eq_ok.mp h
  obtain ⟨hagree, h⟩ := require_bind_eq_ok.mp h
  obtain ⟨rfl, rfl⟩ := Prod.mk.inj (Except.ok.inj h)
  -- only the set of owned names matters from here on
  generalize hset : ((optionNames lib options).filter (· ∈ ioFailurePolicies)).dedup = policies at *
  have hmem : ∀ t, t ∈ policies ↔ t ∈ optionNames lib options ∧ t ∈ ioFailurePolicies := by
    intro t
    rw [← hset]
    simp
  have hlegacy : policies.head?.getD [] = [] ∨ policies.head?.getD [] ∈ ioFailurePolicies := by
    cases policies with
    | nil => exact .inl rfl
    | cons p rest => exact .inr ((hmem p).mp List.mem_cons_self).2
  refine ⟨merge_mem (by simpa using hconfigured) hlegacy List.mem_cons_self, rfl, ?_⟩
  intro option hoption howned
  have hp : mountOptionName lib option ∈ policies :=
    (hmem _).mpr ⟨List.mem_map_of_mem hoption, howned⟩
  -- the parser refuses two names, so the option is the one name there is
  obtain ⟨p, rfl⟩ : ∃ p, policies = [p] :=
    List.length_eq_one_iff.mp (Nat.le_antisymm (of_decide_eq_true hlength) (List.length_pos_of_mem hp))
  obtain heq := List.mem_singleton.mp hp
  rw [heq] at howned ⊢
  exact (merge_eq_of_legacy ((knownTexts_plain p (known_of_owned
    (List.mem_append_left _ howned))).2.2.2.1) (of_decide_eq_true hagree)).symm

/-- A setting in canonical form, without legacy options, parses as itself. -/
theorem parseCifsIoFailurePolicy_canonical {options : List Text} {policy : Text}
    (hraw : raw.get? "io_failure_policy" = some (.str policy)) (hpolicy : policy ∈ ioFailurePolicies)
    (hoptions : ∀ option ∈ options, mountOptionName lib option ∉ ioFailurePolicies) :
    parseCifsIoFailurePolicy lib name raw options = .ok (policy, options) := by
  have hknown : policy ∈ knownTexts := known_of_owned (List.mem_append_left _ hpolicy)
  have hnone : (optionNames lib options).filter (· ∈ ioFailurePolicies) = [] := by
    rw [List.filter_eq_nil_iff]
    intro t ht
    obtain ⟨option, hoption, rfl⟩ := List.mem_map.mp ht
    simpa using hoptions option hoption
  have hkept : withoutNames lib ioFailurePolicies options = options := by
    rw [withoutNames, List.filter_eq_self]
    intro option hoption
    simpa using hoptions option hoption
  have hne : policy ≠ [] := (knownTexts_plain policy hknown).2.2.2.1
  unfold parseCifsIoFailurePolicy
  refine bind_eq_ok.mpr ⟨policy, by rw [hraw]; rfl, ?_⟩
  simp only [lower_strip_of_known hknown, hnone, List.dedup_nil, hkept]
  refine require_bind_eq_ok.mpr ⟨decide_eq_true (.inr hpolicy), ?_⟩
  refine require_bind_eq_ok.mpr ⟨rfl, ?_⟩
  refine require_bind_eq_ok.mpr ⟨decide_eq_true (.inr (.inl rfl)), ?_⟩
  simp [orElse, hne, Pure.pure, Except.pure]

/-! ## The handle options -/

/-- The handle policy that an option of this name asks for. -/
def impliedHandlePolicy (option : Text) : Option Text :=
  if option = "persistenthandles".toList then some "persistent".toList
  else if option = "resilienthandles".toList then some "resilient".toList
  else if option = "nopersistenthandles".toList ∨ option = "noresilienthandles".toList then
    some "disabled".toList
  else none

theorem impliedHandlePolicy_isSome {option policy : Text}
    (h : impliedHandlePolicy option = some policy) :
    (option = "persistenthandles".toList ∧ policy = "persistent".toList) ∨
    (option = "resilienthandles".toList ∧ policy = "resilient".toList) ∨
    ((option = "nopersistenthandles".toList ∨ option = "noresilienthandles".toList) ∧
      policy = "disabled".toList) := by
  unfold impliedHandlePolicy at h
  split at h
  · rename_i hname
    exact .inl ⟨hname, (Option.some.inj h).symm⟩
  · split at h
    · rename_i hname
      exact .inr (.inl ⟨hname, (Option.some.inj h).symm⟩)
    · split at h
      · rename_i hname
        exact .inr (.inr ⟨hname, (Option.some.inj h).symm⟩)
      · cases h

/-- Where the options do not contradict each other, the choice follows each of them. -/
theorem handleChoice_follows : ∀ persistent resilient negative : Bool,
    (!(persistent && resilient)) = true → (!((persistent || resilient) && negative)) = true →
    (persistent = true → handleChoice persistent resilient negative = "persistent".toList) ∧
    (resilient = true → handleChoice persistent resilient negative = "resilient".toList) ∧
    (negative = true → handleChoice persistent resilient negative = "disabled".toList) ∧
    (handleChoice persistent resilient negative = [] ∨
      handleChoice persistent resilient negative ∈ handlePolicies) := by
  decide

theorem legacyHandlePolicy_ok {options : List Text} {legacy : Text}
    (h : legacyHandlePolicy lib name options = .ok legacy) :
    (legacy = [] ∨ legacy ∈ handlePolicies) ∧ ∀ option ∈ options, ∀ policy,
      impliedHandlePolicy (mountOptionName lib option) = some policy → legacy = policy := by
  unfold legacyHandlePolicy at h
  obtain ⟨hboth, h⟩ := require_bind_eq_ok.mp h
  obtain ⟨hcontradiction, h⟩ := require_bind_eq_ok.mp h
  obtain rfl := Except.ok.inj h
  obtain ⟨hpersistent, hresilient, hnegative, hmem⟩ :=
    handleChoice_follows _ _ _ hboth hcontradiction
  refine ⟨hmem, ?_⟩
  intro option hoption policy himplied
  have hname : mountOptionName lib option ∈ optionNames lib options := List.mem_map_of_mem hoption
  obtain ⟨heq, rfl⟩ | ⟨heq, rfl⟩ | ⟨heq | heq, rfl⟩ := impliedHandlePolicy_isSome himplied
  · exact hpersistent (decide_eq_true (heq ▸ hname))
  · exact hresilient (decide_eq_true (heq ▸ hname))
  · exact hnegative (decide_eq_true (.inl (heq ▸ hname)))
  · exact hnegative (decide_eq_true (.inr (heq ▸ hname)))

theorem legacyHandlePolicy_canonical {options : List Text}
    (hoptions : ∀ option ∈ options, mountOptionName lib option ∉ handleOptions) :
    legacyHandlePolicy lib name options = .ok [] := by
  have hnot : ∀ t ∈ handleOptions, t ∉ optionNames lib options := by
    intro t ht hmem
    obtain ⟨option, hoption, rfl⟩ := List.mem_map.mp hmem
    exact hoptions option hoption ht
  unfold legacyHandlePolicy
  have hpersistent := hnot "persistenthandles".toList (by decide)
  have hresilient := hnot "resilienthandles".toList (by decide)
  have hnegative : ¬ ("nopersistenthandles".toList ∈ optionNames lib options ∨
      "noresilienthandles".toList ∈ optionNames lib options) :=
    not_or.mpr ⟨hnot _ (by decide), hnot _ (by decide)⟩
  simp only [decide_eq_false hpersistent, decide_eq_false hresilient, decide_eq_false hnegative]
  rfl

theorem parseHandlePolicy_ok {options : List Text} {policy : Text}
    (h : parseHandlePolicy lib name raw options = .ok policy) :
    policy ∈ handlePolicies ∧ ∀ option ∈ options, ∀ implied,
      impliedHandlePolicy (mountOptionName lib option) = some implied → policy = implied := by
  unfold parseHandlePolicy at h
  obtain ⟨configured, -, h⟩ := bind_eq_ok.mp h
  obtain ⟨hconfigured, h⟩ := require_bind_eq_ok.mp h
  obtain ⟨legacy, hlegacy, h⟩ := bind_eq_ok.mp h
  obtain ⟨hagree, h⟩ := require_bind_eq_ok.mp h
  obtain rfl := Except.ok.inj h
  obtain ⟨hmem, hfollows⟩ := legacyHandlePolicy_ok hlegacy
  refine ⟨merge_mem (of_decide_eq_true hconfigured) hmem (by decide), ?_⟩
  intro option hoption implied himplied
  obtain rfl := hfollows option hoption implied himplied
  have hne : legacy ≠ [] := by
    obtain ⟨-, rfl⟩ | ⟨-, rfl⟩ | ⟨-, rfl⟩ := impliedHandlePolicy_isSome himplied <;> decide
  exact merge_eq_of_legacy hne (of_decide_eq_true hagree)

theorem parseHandlePolicy_canonical {options : List Text} {policy : Text}
    (hraw : raw.get? "handle_reconnect_policy" = some (.str policy))
    (hpolicy : policy ∈ handlePolicies)
    (hoptions : ∀ option ∈ options, mountOptionName lib option ∉ handleOptions) :
    parseHandlePolicy lib name raw options = .ok policy := by
  have hknown : policy ∈ knownTexts := by
    simp only [knownTexts, List.mem_append]
    exact .inl (.inl (.inl (.inr hpolicy)))
  have hne : policy ≠ [] := (knownTexts_plain policy hknown).2.2.2.1
  unfold parseHandlePolicy
  refine bind_eq_ok.mpr ⟨policy, by rw [hraw]; rfl, ?_⟩
  simp only [lower_strip_of_known hknown]
  refine require_bind_eq_ok.mpr ⟨decide_eq_true (.inr hpolicy), ?_⟩
  refine bind_eq_ok.mpr ⟨[], legacyHandlePolicy_canonical hoptions, ?_⟩
  refine require_bind_eq_ok.mpr ⟨decide_eq_true (.inr (.inl rfl)), ?_⟩
  simp [orElse, hne, Pure.pure, Except.pure]

/-! ## The multichannel options -/

/-- The multichannel policy that an option of this name asks for. -/
def impliedMultichannelPolicy (option : Text) : Option Text :=
  if option = "multichannel".toList ∨ option = "max_channels".toList then some "required".toList
  else if option = "nomultichannel".toList then some "disabled".toList
  else none

theorem impliedMultichannelPolicy_isSome {option policy : Text}
    (h : impliedMultichannelPolicy option = some policy) :
    ((option = "multichannel".toList ∨ option = "max_channels".toList) ∧
      policy = "required".toList) ∨
    (option = "nomultichannel".toList ∧ policy = "disabled".toList) := by
  unfold impliedMultichannelPolicy at h
  split at h
  · rename_i hname
    exact .inl ⟨hname, (Option.some.inj h).symm⟩
  · split at h
    · rename_i hname
      exact .inr ⟨hname, (Option.some.inj h).symm⟩
    · cases h

theorem multichannelChoice_follows : ∀ positive negative : Bool, (!(positive && negative)) = true →
    (positive = true → multichannelChoice positive negative = "required".toList) ∧
    (negative = true → multichannelChoice positive negative = "disabled".toList) ∧
    (multichannelChoice positive negative = [] ∨
      multichannelChoice positive negative ∈ multichannelPolicies) := by
  decide

/-- The number of channels comes from the only `max_channels` option. -/
theorem legacyMaxChannels_ok {options : List Text} {legacyMax : Option Int}
    (h : legacyMaxChannels lib name options = .ok legacyMax) :
    (maxChannelsValues lib options = [] ∧ legacyMax = none) ∨
    ∃ value n, maxChannelsValues lib options = [value] ∧ lib.int value = some n ∧
      legacyMax = some n := by
  unfold legacyMaxChannels at h
  cases hvalues : maxChannelsValues lib options with
  | nil =>
    rw [hvalues] at h
    exact .inl ⟨rfl, (Except.ok.inj h).symm⟩
  | cons value more =>
    rw [hvalues] at h
    obtain ⟨hmore, hread⟩ := require_bind_eq_ok.mp h
    obtain rfl := of_decide_eq_true hmore
    cases hint : lib.int value with
    | none =>
      rw [hint] at hread
      cases hread
    | some n =>
      rw [hint] at hread
      exact .inr ⟨value, n, rfl, hint, (Except.ok.inj hread).symm⟩

theorem legacyMultichannelPolicy_ok {options : List Text} {legacy : Text} {legacyMax : Option Int}
    (h : legacyMultichannelPolicy lib name options = .ok (legacy, legacyMax)) :
    (legacy = [] ∨ legacy ∈ multichannelPolicies) ∧
    (∀ option ∈ options, ∀ policy,
      impliedMultichannelPolicy (mountOptionName lib option) = some policy → legacy = policy) ∧
    legacyMaxChannels lib name options = .ok legacyMax := by
  unfold legacyMultichannelPolicy at h
  obtain ⟨hcontradiction, h⟩ := require_bind_eq_ok.mp h
  obtain ⟨legacyMax', hmax, h⟩ := bind_eq_ok.mp h
  obtain ⟨rfl, rfl⟩ := Prod.mk.inj (Except.ok.inj h)
  obtain ⟨hpositive, hnegative, hmem⟩ := multichannelChoice_follows _ _ hcontradiction
  refine ⟨hmem, ?_, hmax⟩
  intro option hoption policy himplied
  have hname : mountOptionName lib option ∈ optionNames lib options := List.mem_map_of_mem hoption
  obtain ⟨heq | heq, rfl⟩ | ⟨heq, rfl⟩ := impliedMultichannelPolicy_isSome himplied
  · exact hpositive (decide_eq_true (.inl (heq ▸ hname)))
  · exact hpositive (decide_eq_true (.inr (heq ▸ hname)))
  · exact hnegative (decide_eq_true (heq ▸ hname))

theorem maxChannelsValues_eq_nil {options : List Text}
    (hoptions : ∀ option ∈ options, mountOptionName lib option ≠ "max_channels".toList) :
    maxChannelsValues lib options = [] := by
  rw [maxChannelsValues, List.map_eq_nil_iff, List.filter_eq_nil_iff]
  intro option hoption hname
  exact hoptions option hoption (of_decide_eq_true hname)

theorem legacyMultichannelPolicy_canonical {options : List Text}
    (hoptions : ∀ option ∈ options, mountOptionName lib option ∉ multichannelOptions) :
    legacyMultichannelPolicy lib name options = .ok ([], none) := by
  have hnot : ∀ t ∈ multichannelOptions, t ∉ optionNames lib options := by
    intro t ht hmem
    obtain ⟨option, hoption, rfl⟩ := List.mem_map.mp hmem
    exact hoptions option hoption ht
  have hpositive : ¬ ("multichannel".toList ∈ optionNames lib options ∨
      "max_channels".toList ∈ optionNames lib options) :=
    not_or.mpr ⟨hnot _ (by decide), hnot _ (by decide)⟩
  have hnegative := hnot "nomultichannel".toList (by decide)
  have hvalues : maxChannelsValues lib options = [] := maxChannelsValues_eq_nil
    fun option hoption heq => hoptions option hoption (heq ▸ by decide)
  unfold legacyMultichannelPolicy legacyMaxChannels
  simp only [decide_eq_false hpositive, decide_eq_false hnegative, hvalues]
  rfl

theorem int_eq_ok {value : Option Value} {field : String} {default n : Int}
    (h : int value field default = .ok n) :
    (value = none ∧ n = default) ∨ value = some (.int n) := by
  unfold int at h
  split at h
  · exact .inl ⟨rfl, (Except.ok.inj h).symm⟩
  · rw [Except.ok.inj h]
    exact .inr rfl
  · cases h

theorem Table.has_iff {table : Table} {key : Text} : table.has key = true ↔ table.get? key ≠ none := by
  rw [Table.has, Option.isSome_iff_ne_none]

/-- What the multichannel parser guarantees. -/
structure MultichannelOk (lib : Library) (name : String) (raw : Table) (options : List Text)
    (policy : Text) (maxChannels : Int) : Prop where
  policy_mem : policy ∈ multichannelPolicies
  follows : ∀ option ∈ options, ∀ implied,
    impliedMultichannelPolicy (mountOptionName lib option) = some implied → policy = implied
  bounds : 2 ≤ maxChannels ∧ maxChannels ≤ 16
  channels : ∃ legacyMax, legacyMaxChannels lib name options = .ok legacyMax ∧
    ((raw.get? "max_channels" = none ∧ maxChannels = maxChannelsDefault legacyMax) ∨
      raw.get? "max_channels" = some (.int maxChannels)) ∧
    (policy = "disabled".toList → raw.get? "max_channels" = none ∧ legacyMax = none)

theorem parseMultichannelPolicy_ok {options : List Text} {policy : Text} {maxChannels : Int}
    (h : parseMultichannelPolicy lib name raw options = .ok (policy, maxChannels)) :
    MultichannelOk lib name raw options policy maxChannels := by
  unfold parseMultichannelPolicy at h
  obtain ⟨configured, -, h⟩ := bind_eq_ok.mp h
  obtain ⟨hconfigured, h⟩ := require_bind_eq_ok.mp h
  obtain ⟨⟨legacy, legacyMax⟩, hlegacy, h⟩ := bind_eq_ok.mp h
  obtain ⟨hagree, h⟩ := require_bind_eq_ok.mp h
  obtain ⟨maxChannels', hmax, h⟩ := bind_eq_ok.mp h
  obtain ⟨hbounds, h⟩ := require_bind_eq_ok.mp h
  obtain ⟨hdisabled, h⟩ := require_bind_eq_ok.mp h
  obtain ⟨hpolicy, rfl⟩ := Prod.mk.inj (Except.ok.inj h)
  obtain ⟨hmem, hfollows, hlegacyMax⟩ := legacyMultichannelPolicy_ok hlegacy
  constructor
  · rw [← hpolicy]
    exact merge_mem (of_decide_eq_true hconfigured) hmem (by decide)
  · intro option hoption implied himplied
    obtain rfl := hfollows option hoption implied himplied
    -- a legacy option implies a policy, and the configured one agrees with it
    have hne : legacy ≠ [] := by
      obtain ⟨-, rfl⟩ | ⟨-, rfl⟩ := impliedMultichannelPolicy_isSome himplied <;> decide
    rw [← hpolicy]
    exact merge_eq_of_legacy hne (of_decide_eq_true hagree)
  · exact of_decide_eq_true hbounds
  · refine ⟨legacyMax, hlegacyMax, int_eq_ok hmax, ?_⟩
    intro heq
    rw [hpolicy, decide_eq_true heq, Bool.true_and, Bool.not_eq_true', Bool.or_eq_false_iff]
      at hdisabled
    constructor
    · by_contra hsome
      rw [Table.has_iff.mpr hsome] at hdisabled
      cases hdisabled.1
    · simpa using hdisabled.2

/-- The channel setting as the canonical table has it: absent where multichannel is disabled. -/
def CanonicalChannels (raw : Table) (policy : Text) (maxChannels : Int) : Prop :=
  if policy = "disabled".toList then raw.get? "max_channels" = none ∧ maxChannels = 2
  else raw.get? "max_channels" = some (.int maxChannels)

theorem parseMultichannelPolicy_canonical {options : List Text} {policy : Text} {maxChannels : Int}
    (hraw : raw.get? "multichannel_policy" = some (.str policy))
    (hpolicy : policy ∈ multichannelPolicies) (hbounds : 2 ≤ maxChannels ∧ maxChannels ≤ 16)
    (hchannels : CanonicalChannels raw policy maxChannels)
    (hoptions : ∀ option ∈ options, mountOptionName lib option ∉ multichannelOptions) :
    parseMultichannelPolicy lib name raw options = .ok (policy, maxChannels) := by
  have hknown : policy ∈ knownTexts := by
    simp only [knownTexts, List.mem_append]
    exact .inl (.inl (.inr hpolicy))
  have hne : policy ≠ [] := (knownTexts_plain policy hknown).2.2.2.1
  have hmerge : orElse (orElse policy []) "disabled" = policy := by simp [orElse, hne]
  unfold parseMultichannelPolicy
  refine bind_eq_ok.mpr ⟨policy, by rw [hraw]; rfl, ?_⟩
  simp only [lower_strip_of_known hknown]
  refine require_bind_eq_ok.mpr ⟨decide_eq_true (.inr hpolicy), ?_⟩
  refine bind_eq_ok.mpr ⟨([], none), legacyMultichannelPolicy_canonical hoptions, ?_⟩
  refine require_bind_eq_ok.mpr ⟨decide_eq_true (.inr (.inl rfl)), ?_⟩
  simp only [hmerge]
  unfold CanonicalChannels at hchannels
  split at hchannels
  · obtain ⟨hnone, rfl⟩ := hchannels
    -- a disabled policy has no number of channels in the table
    refine bind_eq_ok.mpr ⟨2, by rw [hnone]; rfl, ?_⟩
    refine require_bind_eq_ok.mpr ⟨rfl, ?_⟩
    refine require_bind_eq_ok.mpr ⟨?_, rfl⟩
    rw [Table.has, hnone, Option.isSome_none, Bool.false_or, Option.isSome_none, Bool.and_false]
    rfl
  -- an enabled one states it
  · rename_i henabled
    refine bind_eq_ok.mpr ⟨maxChannels, by rw [hchannels]; rfl, ?_⟩
    refine require_bind_eq_ok.mpr ⟨decide_eq_true hbounds, ?_⟩
    refine require_bind_eq_ok.mpr ⟨?_, rfl⟩
    rw [decide_eq_false henabled]
    rfl

/-! ## The dialect -/

theorem parseMinimumDialect_ok {dialect : Text}
    (h : parseMinimumDialect lib name raw = .ok dialect) : dialect = [] ∨ dialect ∈ smbDialects := by
  unfold parseMinimumDialect at h
  obtain ⟨setting, -, h⟩ := bind_eq_ok.mp h
  obtain ⟨hmem, h⟩ := require_bind_eq_ok.mp h
  obtain rfl := Except.ok.inj h
  exact of_decide_eq_true hmem

theorem smbDialects_not_alias : ∀ t ∈ smbDialects,
    t ≠ "3.0.2".toList ∧ t ≠ "smb3".toList ∧ t ≠ "smb3.1.1".toList := by
  decide

theorem normalizeDialect_canonical {dialect : Text} (h : dialect = [] ∨ dialect ∈ smbDialects) :
    normalizeDialect lib dialect = dialect := by
  have hfixed : lib.lower dialect.strip = dialect := by
    obtain rfl | h := h
    · exact lib.case.lower_ascii [] (by simp)
    · apply lower_strip_of_known
      simp only [knownTexts, List.mem_append]
      exact .inl (.inr h)
  have halias : dialect ≠ "3.0.2".toList ∧ dialect ≠ "smb3".toList ∧ dialect ≠ "smb3.1.1".toList := by
    obtain rfl | h := h
    · decide
    · exact smbDialects_not_alias dialect h
  unfold normalizeDialect
  simp only [hfixed]
  rw [if_neg halias.1, if_neg halias.2.1, if_neg halias.2.2]

theorem parseMinimumDialect_canonical {dialect : Text}
    (hraw : raw.get? "minimum_smb_dialect" = some (.str dialect))
    (h : dialect = [] ∨ dialect ∈ smbDialects) :
    parseMinimumDialect lib name raw = .ok dialect := by
  unfold parseMinimumDialect
  refine bind_eq_ok.mpr ⟨dialect, by rw [hraw]; rfl, ?_⟩
  simp only [normalizeDialect_canonical h]
  exact require_bind_eq_ok.mpr ⟨decide_eq_true h, rfl⟩

/-! ## All policies of a CIFS target -/

/-- The parser drops the options it owns in two passes. -/
theorem withoutNames_withoutNames (options : List Text) :
    withoutNames lib (handleOptions ++ multichannelOptions)
      (withoutNames lib ioFailurePolicies options) = withoutNames lib guardianOwned options := by
  unfold withoutNames
  rw [List.filter_filter]
  apply List.filter_congr
  intro option _
  simp only [guardianOwned, List.mem_append, decide_not, Bool.and_comm, Bool.decide_or, Bool.not_or]

theorem mem_withoutNames {names options : List Text} {option : Text} :
    option ∈ withoutNames lib names options ↔
      option ∈ options ∧ mountOptionName lib option ∉ names := by
  simp [withoutNames]

theorem owned_disjoint :
    (∀ t ∈ handleOptions, t ∉ ioFailurePolicies) ∧ (∀ t ∈ multichannelOptions, t ∉ ioFailurePolicies) := by
  decide

theorem impliedHandlePolicy_mem {option policy : Text}
    (h : impliedHandlePolicy option = some policy) : option ∈ handleOptions := by
  obtain ⟨rfl, -⟩ | ⟨rfl, -⟩ | ⟨rfl | rfl, -⟩ := impliedHandlePolicy_isSome h <;> decide

theorem impliedMultichannelPolicy_mem {option policy : Text}
    (h : impliedMultichannelPolicy option = some policy) : option ∈ multichannelOptions := by
  obtain ⟨rfl | rfl, -⟩ | ⟨rfl, -⟩ := impliedMultichannelPolicy_isSome h <;> decide

theorem maxChannelsValues_withoutNames (options : List Text) :
    maxChannelsValues lib (withoutNames lib ioFailurePolicies options) =
      maxChannelsValues lib options := by
  unfold maxChannelsValues withoutNames
  rw [List.filter_filter]
  congr 1
  apply List.filter_congr
  intro option _
  by_cases hname : mountOptionName lib option = "max_channels".toList
  · rw [decide_eq_true hname, Bool.true_and, hname]
    decide
  · rw [decide_eq_false hname, Bool.false_and]

/-- What the parser guarantees of the policies of a CIFS target with these mount options. -/
structure CifsOk (lib : Library) (name : String) (raw : Table) (options : List Text) (policy : Text)
    (transport : TransportPolicy) (remaining : List Text) : Prop where
  policy_mem : policy ∈ ioFailurePolicies
  policy_follows : ∀ option ∈ options, mountOptionName lib option ∈ ioFailurePolicies →
    mountOptionName lib option = policy
  dialect_mem : transport.minimumSmbDialect = [] ∨ transport.minimumSmbDialect ∈ smbDialects
  handle_mem : transport.handleReconnectPolicy ∈ handlePolicies
  handle_follows : ∀ option ∈ options, ∀ implied,
    impliedHandlePolicy (mountOptionName lib option) = some implied →
    transport.handleReconnectPolicy = implied
  multichannel : MultichannelOk lib name raw options transport.multichannelPolicy
    transport.maxChannels
  observability : bool (raw.get? "require_transport_observability")
    s!"storage.{name}.require_transport_observability" false =
    .ok transport.requireTransportObservability
  remaining_eq : remaining = withoutNames lib guardianOwned options

theorem parsePolicies_cifs {options : List Text} {policy : Text} {transport : TransportPolicy}
    {remaining : List Text}
    (h : parsePolicies lib name .cifs raw options = .ok (policy, transport, remaining)) :
    CifsOk lib name raw options policy transport remaining := by
  rw [parsePolicies, if_pos rfl] at h
  obtain ⟨⟨policy', kept⟩, hpolicy, h⟩ := bind_eq_ok.mp h
  obtain ⟨⟨transport', remaining'⟩, htransport, h⟩ := bind_eq_ok.mp h
  obtain ⟨rfl, hpair⟩ := Prod.mk.inj (Except.ok.inj h)
  obtain ⟨rfl, rfl⟩ := Prod.mk.inj hpair
  -- each parser removes the options that it owns before the next one looks
  obtain ⟨hmem, rfl, hfollows⟩ := parseCifsIoFailurePolicy_ok hpolicy
  unfold parseCifsTransportPolicy at htransport
  obtain ⟨dialect, hdialect, h⟩ := bind_eq_ok.mp htransport
  obtain ⟨handle, hhandle, h⟩ := bind_eq_ok.mp h
  obtain ⟨⟨multichannel, maxChannels⟩, hmultichannel, h⟩ := bind_eq_ok.mp h
  obtain ⟨observability, hobservability, h⟩ := bind_eq_ok.mp h
  obtain ⟨rfl, rfl⟩ := Prod.mk.inj (Except.ok.inj h)
  obtain ⟨hhandlemem, hhandlefollows⟩ := parseHandlePolicy_ok hhandle
  have hmulti := parseMultichannelPolicy_ok hmultichannel
  constructor
  · exact hmem
  · exact hfollows
  · exact parseMinimumDialect_ok hdialect
  · exact hhandlemem
  · intro option hoption implied himplied
    -- the options of the other policies imply no handle policy
    exact hhandlefollows option (mem_withoutNames.mpr ⟨hoption,
      owned_disjoint.1 _ (impliedHandlePolicy_mem himplied)⟩) implied himplied
  · constructor
    · exact hmulti.policy_mem
    · intro option hoption implied himplied
      exact hmulti.follows option (mem_withoutNames.mpr ⟨hoption,
        owned_disjoint.2 _ (impliedMultichannelPolicy_mem himplied)⟩) implied himplied
    · exact hmulti.bounds
    · obtain ⟨legacyMax, hlegacy, hchannels⟩ := hmulti.channels
      refine ⟨legacyMax, ?_, hchannels⟩
      rwa [legacyMaxChannels, maxChannelsValues_withoutNames] at hlegacy
  · exact hobservability
  · exact withoutNames_withoutNames options

/-- The settings of a table that holds canonical policies. -/
structure CanonicalSettings (raw : Table) (policy : Text) (transport : TransportPolicy) : Prop where
  policy_eq : raw.get? "io_failure_policy" = some (.str policy)
  dialect_eq : raw.get? "minimum_smb_dialect" = some (.str transport.minimumSmbDialect)
  handle_eq : raw.get? "handle_reconnect_policy" = some (.str transport.handleReconnectPolicy)
  multichannel_eq : raw.get? "multichannel_policy" = some (.str transport.multichannelPolicy)
  channels_eq : CanonicalChannels raw transport.multichannelPolicy transport.maxChannels

/-- Canonical policies parse as themselves, and so do options that the guardian does not own. -/
theorem parsePolicies_canonical {old : Table} {before options : List Text} {policy : Text}
    {transport : TransportPolicy} (h : CifsOk lib name old before policy transport options)
    (hsettings : CanonicalSettings raw policy transport)
    (hobservability : raw.get? "require_transport_observability" =
      old.get? "require_transport_observability") :
    parsePolicies lib name .cifs raw options = .ok (policy, transport, options) := by
  -- what is left of the options names no setting that the guardian owns
  have hoptions : ∀ option ∈ options, mountOptionName lib option ∉ guardianOwned := by
    intro option hoption
    rw [h.remaining_eq] at hoption
    exact (mem_withoutNames.mp hoption).2
  have hio : ∀ option ∈ options, mountOptionName lib option ∉ ioFailurePolicies :=
    fun option hoption hmem => hoptions option hoption (List.mem_append_left _ hmem)
  have hother : ∀ option ∈ options,
      mountOptionName lib option ∉ handleOptions ++ multichannelOptions :=
    fun option hoption hmem => hoptions option hoption (List.mem_append_right _ hmem)
  rw [parsePolicies, if_pos rfl]
  refine bind_eq_ok.mpr ⟨_,
    parseCifsIoFailurePolicy_canonical hsettings.policy_eq h.policy_mem hio, ?_⟩
  refine bind_eq_ok.mpr ⟨(transport, options), ?_, rfl⟩
  unfold parseCifsTransportPolicy
  refine bind_eq_ok.mpr ⟨_,
    parseMinimumDialect_canonical hsettings.dialect_eq h.dialect_mem, ?_⟩
  refine bind_eq_ok.mpr ⟨_, parseHandlePolicy_canonical hsettings.handle_eq h.handle_mem
    fun option hoption hmem => hother option hoption (List.mem_append_left _ hmem), ?_⟩
  refine bind_eq_ok.mpr ⟨_, parseMultichannelPolicy_canonical hsettings.multichannel_eq
    h.multichannel.policy_mem h.multichannel.bounds hsettings.channels_eq
    fun option hoption hmem => hother option hoption (List.mem_append_right _ hmem), ?_⟩
  refine bind_eq_ok.mpr ⟨transport.requireTransportObservability, ?_, ?_⟩
  · rw [hobservability]
    exact h.observability
  -- so nothing is removed the second time
  · have hkept : withoutNames lib (handleOptions ++ multichannelOptions) options = options := by
      rw [withoutNames, List.filter_eq_self]
      intro option hoption
      exact decide_eq_true (hother option hoption)
    rw [hkept]
    rfl

/-! ## The whole target -/

/-- `_parse_target` taken apart: it returns exactly when every part does. -/
theorem parseTarget_eq_ok {runtimeDir : PosixPath} {target : TargetConfig} :
    parseTarget lib name raw runtimeDir = .ok target ↔
    ∃ type place options policy transport remaining,
      parseTargetType lib name raw = .ok type ∧ parsePlacement name raw runtimeDir = .ok place ∧
      stringList (raw.get? "mount_options") s!"storage.{name}.mount_options" = .ok options ∧
      parsePolicies lib name type raw options = .ok (policy, transport, remaining) ∧
      buildTarget name raw type place policy transport remaining = .ok target ∧
      target.sentinelId ≠ [] ∧ 0 ≤ target.minFreeBytes ∧
      checkTarget name raw runtimeDir target = .ok () := by
  constructor
  · intro h
    -- each stage of the parser is one bind that succeeded
    unfold parseTarget at h
    obtain ⟨type, htype, h⟩ := bind_eq_ok.mp h
    obtain ⟨place, hplace, h⟩ := bind_eq_ok.mp h
    obtain ⟨options, hoptions, h⟩ := bind_eq_ok.mp h
    obtain ⟨⟨policy, transport, remaining⟩, hpolicies, h⟩ := bind_eq_ok.mp h
    obtain ⟨target', htarget, h⟩ := bind_eq_ok.mp h
    obtain ⟨hsentinel, h⟩ := require_bind_eq_ok.mp h
    obtain ⟨hfree, h⟩ := require_bind_eq_ok.mp h
    obtain ⟨_, hcheck, h⟩ := bind_eq_ok.mp h
    obtain rfl := Except.ok.inj h
    exact ⟨type, place, options, policy, transport, remaining, htype, hplace, hoptions, hpolicies,
      htarget, of_decide_eq_true hsentinel, of_decide_eq_true hfree, hcheck⟩
  · rintro ⟨type, place, options, policy, transport, remaining, htype, hplace, hoptions, hpolicies,
      htarget, hsentinel, hfree, hcheck⟩
    unfold parseTarget
    refine bind_eq_ok.mpr ⟨type, htype, ?_⟩
    refine bind_eq_ok.mpr ⟨place, hplace, ?_⟩
    refine bind_eq_ok.mpr ⟨options, hoptions, ?_⟩
    refine bind_eq_ok.mpr ⟨_, hpolicies, ?_⟩
    refine bind_eq_ok.mpr ⟨target, htarget, ?_⟩
    refine require_bind_eq_ok.mpr ⟨decide_eq_true hsentinel, ?_⟩
    refine require_bind_eq_ok.mpr ⟨decide_eq_true hfree, ?_⟩
    exact bind_eq_ok.mpr ⟨(), hcheck, rfl⟩

/-- The fields of a target that the earlier parts decide. -/
structure BuiltFrom (type : TargetType) (place : Placement) (policy : Text)
    (transport : TransportPolicy) (remaining : List Text) (target : TargetConfig) : Prop where
  type_eq : target.type = type
  mountpoint_eq : target.mountpoint = place.mountpoint
  subdirectory_eq : target.subdirectory = place.subdirectory
  options_eq : target.mountOptions = remaining
  policy_eq : target.ioFailurePolicy = policy
  transport_eq : target.transport = transport

theorem buildTarget_ok {type : TargetType} {place : Placement} {policy : Text}
    {transport : TransportPolicy} {remaining : List Text} {target : TargetConfig}
    (h : buildTarget name raw type place policy transport remaining = .ok target) :
    BuiltFrom type place policy transport remaining target := by
  unfold buildTarget at h
  obtain ⟨sentinelId, -, h⟩ := bind_eq_ok.mp h
  obtain ⟨allowInitialize, -, h⟩ := bind_eq_ok.mp h
  obtain ⟨minFreeBytes, -, h⟩ := bind_eq_ok.mp h
  obtain ⟨source, -, h⟩ := bind_eq_ok.mp h
  obtain ⟨credentialsFile, -, h⟩ := bind_eq_ok.mp h
  obtain ⟨device, -, h⟩ := bind_eq_ok.mp h
  obtain ⟨expectedUuid, -, h⟩ := bind_eq_ok.mp h
  obtain ⟨expectedFilesystem, -, h⟩ := bind_eq_ok.mp h
  obtain rfl := Except.ok.inj h
  exact ⟨rfl, rfl, rfl, rfl, rfl, rfl⟩

/-- The policies of an accepted CIFS target. -/
theorem parseTarget_cifs {runtimeDir : PosixPath} {target : TargetConfig} {options : List Text}
    (h : parseTarget lib name raw runtimeDir = .ok target) (htype : target.type = .cifs)
    (hoptions : stringList (raw.get? "mount_options") s!"storage.{name}.mount_options" =
      .ok options) :
    CifsOk lib name raw options target.ioFailurePolicy target.transport target.mountOptions := by
  obtain ⟨type, place, options', policy, transport, remaining, -, -, hoptions', hpolicies, htarget,
    -⟩ := parseTarget_eq_ok.mp h
  obtain rfl := Except.ok.inj (hoptions.symm.trans hoptions')
  have hbuilt := buildTarget_ok htarget
  obtain rfl : type = .cifs := hbuilt.type_eq.symm.trans htype
  rw [hbuilt.policy_eq, hbuilt.options_eq, hbuilt.transport_eq]
  exact parsePolicies_cifs hpolicies

end StorageNode.Config
