import StorageNode.Config.TargetPolicies

/-!
# The policies that a CIFS table asks for

A setting of the table decides a policy; without it the legacy mount options do; without either the
default holds. `Asked` and `ChannelsAsked` say so of the raw table alone. `configured_iff` says that the
parser finds exactly these policies.
-/

set_option autoImplicit false

namespace StorageNode.Config

variable {lib : Library} {name : String} {raw : Table} {options : List Text}

/-- The mount policies of a CIFS target. -/
structure MountPolicies where
  ioFailure : Text
  handle : Text
  multichannel : Text
  maxChannels : Int

/-- The `soft` or `hard` that an option asks for. -/
def impliedIoFailurePolicy (option : Text) : Option Text :=
  if option ∈ ioFailurePolicies then some option else none

/-- A text setting that is absent or blank. -/
def Unset (lib : Library) (raw : Table) (key : String) : Prop :=
  ∀ text, raw.get? key = some (.str text) → lib.lower text.strip = []

/-- The policy that a table asks for, with a setting and options that imply policies. -/
inductive Asked (lib : Library) (raw : Table) (key : String) (implied : Text → Option Text)
    (options : List Text) (fallback : Text) : Text → Prop
  | setting (text : Text) (h : raw.get? key = some (.str text)) (hset : lib.lower text.strip ≠ []) :
      Asked lib raw key implied options fallback (lib.lower text.strip)
  | option (option policy : Text) (hunset : Unset lib raw key) (h : option ∈ options)
      (himplied : implied (mountOptionName lib option) = some policy) :
      Asked lib raw key implied options fallback policy
  | default (hunset : Unset lib raw key)
      (hnone : ∀ option ∈ options, implied (mountOptionName lib option) = none) :
      Asked lib raw key implied options fallback fallback

/-- The number of channels that a table asks for. An option that says 0 counts as none. -/
inductive ChannelsAsked (lib : Library) (raw : Table) (options : List Text) : Int → Prop
  | setting (n : Int) (h : raw.get? "max_channels" = some (.int n)) : ChannelsAsked lib raw options n
  | option (option : Text) (n : Int) (hunset : raw.get? "max_channels" = none) (h : option ∈ options)
      (hname : mountOptionName lib option = "max_channels".toList)
      (hint : lib.int (option.past '=').strip = some n) (hne : n ≠ 0) :
      ChannelsAsked lib raw options n
  | default (hunset : raw.get? "max_channels" = none)
      (hnone : ∀ option ∈ options, mountOptionName lib option = "max_channels".toList →
        lib.int (option.past '=').strip = some 0) : ChannelsAsked lib raw options 2

/-- The policies that a table with these mount options asks for. -/
structure Configured (lib : Library) (raw : Table) (options : List Text) (policies : MountPolicies) :
    Prop where
  ioFailure : Asked lib raw "io_failure_policy" impliedIoFailurePolicy options "soft".toList
    policies.ioFailure
  handle : Asked lib raw "handle_reconnect_policy" impliedHandlePolicy options "disabled".toList
    policies.handle
  multichannel : Asked lib raw "multichannel_policy" impliedMultichannelPolicy options
    "disabled".toList policies.multichannel
  maxChannels : ChannelsAsked lib raw options policies.maxChannels

/-! ## One policy -/

theorem string_eq_ok {value : Option Value} {field : String} {text : Text}
    (h : string value field [] = .ok text) :
    (value = none ∧ text = []) ∨ value = some (.str text) := by
  unfold string at h
  split at h
  · exact .inl ⟨rfl, (Except.ok.inj h).symm⟩
  · rw [Except.ok.inj h]
    exact .inr rfl
  · cases h

/-- What the legacy options come down to: nothing if none of them implies a policy. -/
structure Legacy (lib : Library) (implied : Text → Option Text) (options : List Text) (legacy : Text) :
    Prop where
  empty : legacy = [] → ∀ option ∈ options, implied (mountOptionName lib option) = none
  some_option : legacy ≠ [] → ∃ option ∈ options, implied (mountOptionName lib option) = some legacy

/-- Merging a setting with its legacy options yields what the table asks for, and nothing else. -/
theorem asked_iff {key field : String} {implied : Text → Option Text} {fallback text legacy : Text}
    (htext : string (raw.get? key) field [] = .ok text) (hlegacy : Legacy lib implied options legacy)
    (hfollows : ∀ option ∈ options, ∀ policy,
      implied (mountOptionName lib option) = some policy → legacy = policy) (policy : Text) :
    Asked lib raw key implied options fallback policy ↔
      policy = orElse (orElse (lib.lower text.strip) legacy) fallback := by
  have hblank : lib.lower (Text.strip []) = [] := lib.case.lower_ascii [] (by simp)
  have hunset : Unset lib raw key ↔ lib.lower text.strip = [] := by
    obtain ⟨hnone, rfl⟩ | hsome := string_eq_ok htext
    · exact iff_of_true (fun _ h => absurd (hnone.symm.trans h) (by simp)) hblank
    · refine ⟨fun h => h text hsome, fun h other hother => ?_⟩
      obtain rfl : text = other := by simpa using hsome.symm.trans hother
      exact h
  constructor
  · intro h
    cases h with
    | setting other hother hset =>
      obtain ⟨hnone, -⟩ | hsome := string_eq_ok htext
      · exact absurd (hnone.symm.trans hother) (by simp)
      · obtain rfl : text = other := by simpa using hsome.symm.trans hother
        simp [orElse, hset]
    | option option policy hclear hoption himplied =>
      obtain rfl := hfollows option hoption policy himplied
      -- a legacy policy that some option implies is not blank
      have hne : legacy ≠ [] := fun hempty =>
        absurd ((hlegacy.empty hempty option hoption).symm.trans himplied) (by simp)
      simp [orElse, hunset.1 hclear, hne]
    | default hclear hnone =>
      have hempty : legacy = [] := by
        by_contra hne
        obtain ⟨option, hoption, himplied⟩ := hlegacy.some_option hne
        exact absurd ((hnone option hoption).symm.trans himplied) (by simp)
      simp [orElse, hunset.1 hclear, hempty]
  · rintro rfl
    by_cases hset : lib.lower text.strip = []
    · rw [hset]
      by_cases hempty : legacy = []
      · rw [hempty]
        exact .default (hunset.2 hset) (hlegacy.empty hempty)
      · obtain ⟨option, hoption, himplied⟩ := hlegacy.some_option hempty
        rw [show orElse (orElse [] legacy) fallback = legacy by simp [orElse, hempty]]
        exact .option option legacy (hunset.2 hset) hoption himplied
    · obtain ⟨-, rfl⟩ | hsome := string_eq_ok htext
      · exact absurd hblank hset
      · rw [show orElse (orElse (lib.lower text.strip) legacy) fallback = lib.lower text.strip by
          simp [orElse, hset]]
        exact .setting text hsome hset

/-! ## The four policies -/

theorem ioFailurePolicies_ne : ∀ policy ∈ ioFailurePolicies, policy ≠ [] := by
  decide

theorem parseCifsIoFailurePolicy_asked {policy : Text} {remaining : List Text}
    (h : parseCifsIoFailurePolicy lib name raw options = .ok (policy, remaining)) (p : Text) :
    Asked lib raw "io_failure_policy" impliedIoFailurePolicy options "soft".toList p ↔ p = policy := by
  unfold parseCifsIoFailurePolicy at h
  obtain ⟨text, htext, h⟩ := bind_eq_ok.mp h
  obtain ⟨-, h⟩ := require_bind_eq_ok.mp h
  obtain ⟨hlength, h⟩ := require_bind_eq_ok.mp h
  obtain ⟨-, h⟩ := require_bind_eq_ok.mp h
  obtain ⟨rfl, -⟩ := Prod.mk.inj (Except.ok.inj h)
  -- only the set of owned names matters from here on
  generalize hset : ((optionNames lib options).filter (· ∈ ioFailurePolicies)).dedup = policies at *
  have hmem : ∀ t, t ∈ policies ↔ t ∈ optionNames lib options ∧ t ∈ ioFailurePolicies := by
    intro t
    rw [← hset]
    simp
  have himplied : ∀ option ∈ options, ∀ policy,
      impliedIoFailurePolicy (mountOptionName lib option) = some policy → policy ∈ policies := by
    intro option hoption policy heq
    unfold impliedIoFailurePolicy at heq
    split at heq
    · rename_i hpolicy
      obtain rfl := Option.some.inj heq
      exact (hmem _).2 ⟨List.mem_map_of_mem hoption, hpolicy⟩
    · cases heq
  refine asked_iff htext ⟨fun hempty option hoption => ?_, fun hne => ?_⟩ (fun option hoption q hq => ?_) p
  · cases hasked : impliedIoFailurePolicy (mountOptionName lib option) with
    | none => rfl
    | some q =>
      have hq := himplied option hoption q hasked
      cases policies with
      | nil => cases hq
      | cons first rest =>
        exact absurd hempty (ioFailurePolicies_ne first ((hmem first).1 List.mem_cons_self).2)
  · cases policies with
    | nil => exact absurd rfl hne
    | cons first rest =>
      obtain ⟨hname, hpolicy⟩ := (hmem first).1 List.mem_cons_self
      obtain ⟨option, hoption, rfl⟩ := List.mem_map.mp hname
      exact ⟨option, hoption, if_pos hpolicy⟩
  · have hq := himplied option hoption q hq
    -- the parser refuses two names
    obtain ⟨only, rfl⟩ : ∃ only, policies = [only] := List.length_eq_one_iff.mp
      (Nat.le_antisymm (of_decide_eq_true hlength) (List.length_pos_of_mem hq))
    exact (List.mem_singleton.mp hq).symm

/-- The choice is blank when nothing asks for a policy, and otherwise one that something asks for. -/
theorem handleChoice_source : ∀ persistent resilient negative : Bool,
    (handleChoice persistent resilient negative = [] →
      persistent = false ∧ resilient = false ∧ negative = false) ∧
    (handleChoice persistent resilient negative ≠ [] →
      (persistent = true ∧ handleChoice persistent resilient negative = "persistent".toList) ∨
      (resilient = true ∧ handleChoice persistent resilient negative = "resilient".toList) ∨
      (negative = true ∧ handleChoice persistent resilient negative = "disabled".toList)) := by
  decide

/-- A name among those of the options is the name of one of them. -/
theorem exists_option {option : Text} (h : option ∈ optionNames lib options)
    {implied : Text → Option Text} {policy : Text} (himplied : implied option = some policy) :
    ∃ option ∈ options, implied (mountOptionName lib option) = some policy := by
  obtain ⟨found, hfound, rfl⟩ := List.mem_map.mp h
  exact ⟨found, hfound, himplied⟩

theorem legacyHandlePolicy_legacy {legacy : Text}
    (h : legacyHandlePolicy lib name options = .ok legacy) :
    Legacy lib impliedHandlePolicy options legacy := by
  unfold legacyHandlePolicy at h
  obtain ⟨-, h⟩ := require_bind_eq_ok.mp h
  obtain ⟨-, h⟩ := require_bind_eq_ok.mp h
  obtain rfl := Except.ok.inj h
  obtain ⟨hblank, hsource⟩ := handleChoice_source
    (decide ("persistenthandles".toList ∈ optionNames lib options))
    (decide ("resilienthandles".toList ∈ optionNames lib options))
    (decide ("nopersistenthandles".toList ∈ optionNames lib options ∨
      "noresilienthandles".toList ∈ optionNames lib options))
  constructor
  · -- an option that implies a policy has one of the names that were looked for
    intro hempty option hoption
    obtain ⟨hpersistent, hresilient, hnegative⟩ := hblank hempty
    have hmem : mountOptionName lib option ∈ optionNames lib options := List.mem_map_of_mem hoption
    cases himplied : impliedHandlePolicy (mountOptionName lib option) with
    | none => rfl
    | some policy =>
      obtain ⟨heq, -⟩ | ⟨heq, -⟩ | ⟨heq, -⟩ := impliedHandlePolicy_isSome himplied
      · exact absurd (heq ▸ hmem) (of_decide_eq_false hpersistent)
      · exact absurd (heq ▸ hmem) (of_decide_eq_false hresilient)
      · exact absurd (heq.imp (· ▸ hmem) (· ▸ hmem)) (of_decide_eq_false hnegative)
  · intro hne
    obtain ⟨hname, heq⟩ | ⟨hname, heq⟩ | ⟨hname, heq⟩ := hsource hne
    · rw [heq]
      exact exists_option (of_decide_eq_true hname) (by decide)
    · rw [heq]
      exact exists_option (of_decide_eq_true hname) (by decide)
    · rw [heq]
      obtain hname | hname := of_decide_eq_true hname
      · exact exists_option hname (by decide)
      · exact exists_option hname (by decide)

theorem parseHandlePolicy_asked {policy : Text}
    (h : parseHandlePolicy lib name raw options = .ok policy) (p : Text) :
    Asked lib raw "handle_reconnect_policy" impliedHandlePolicy options "disabled".toList p ↔
      p = policy := by
  unfold parseHandlePolicy at h
  obtain ⟨text, htext, h⟩ := bind_eq_ok.mp h
  obtain ⟨-, h⟩ := require_bind_eq_ok.mp h
  obtain ⟨legacy, hlegacy, h⟩ := bind_eq_ok.mp h
  obtain ⟨-, h⟩ := require_bind_eq_ok.mp h
  obtain rfl := Except.ok.inj h
  exact asked_iff htext (legacyHandlePolicy_legacy hlegacy) (legacyHandlePolicy_ok hlegacy).2 p

theorem multichannelChoice_source : ∀ positive negative : Bool,
    (multichannelChoice positive negative = [] → positive = false ∧ negative = false) ∧
    (multichannelChoice positive negative ≠ [] →
      (positive = true ∧ multichannelChoice positive negative = "required".toList) ∨
      (negative = true ∧ multichannelChoice positive negative = "disabled".toList)) := by
  decide

theorem legacyMultichannelPolicy_legacy {legacy : Text} {legacyMax : Option Int}
    (h : legacyMultichannelPolicy lib name options = .ok (legacy, legacyMax)) :
    Legacy lib impliedMultichannelPolicy options legacy := by
  unfold legacyMultichannelPolicy at h
  obtain ⟨-, h⟩ := require_bind_eq_ok.mp h
  obtain ⟨_, -, h⟩ := bind_eq_ok.mp h
  obtain ⟨rfl, -⟩ := Prod.mk.inj (Except.ok.inj h)
  obtain ⟨hblank, hsource⟩ := multichannelChoice_source
    (decide ("multichannel".toList ∈ optionNames lib options ∨
      "max_channels".toList ∈ optionNames lib options))
    (decide ("nomultichannel".toList ∈ optionNames lib options))
  constructor
  · intro hempty option hoption
    obtain ⟨hpositive, hnegative⟩ := hblank hempty
    have hmem : mountOptionName lib option ∈ optionNames lib options := List.mem_map_of_mem hoption
    cases himplied : impliedMultichannelPolicy (mountOptionName lib option) with
    | none => rfl
    | some policy =>
      obtain ⟨heq, -⟩ | ⟨heq, -⟩ := impliedMultichannelPolicy_isSome himplied
      · exact absurd (heq.imp (· ▸ hmem) (· ▸ hmem)) (of_decide_eq_false hpositive)
      · exact absurd (heq ▸ hmem) (of_decide_eq_false hnegative)
  · intro hne
    obtain ⟨hname, heq⟩ | ⟨hname, heq⟩ := hsource hne
    · rw [heq]
      obtain hname | hname := of_decide_eq_true hname
      · exact exists_option hname (by decide)
      · exact exists_option hname (by decide)
    · rw [heq]
      exact exists_option (of_decide_eq_true hname) (by decide)

theorem mem_maxChannelsValues {value : Text} : value ∈ maxChannelsValues lib options ↔
    ∃ option ∈ options, mountOptionName lib option = "max_channels".toList ∧
      (option.past '=').strip = value := by
  unfold maxChannelsValues
  constructor
  · intro h
    obtain ⟨option, hoption, rfl⟩ := List.mem_map.mp h
    obtain ⟨hmem, hname⟩ := List.mem_filter.mp hoption
    exact ⟨option, hmem, of_decide_eq_true hname, rfl⟩
  · rintro ⟨option, hmem, hname, rfl⟩
    exact List.mem_map.mpr ⟨option, List.mem_filter.mpr ⟨hmem, decide_eq_true hname⟩, rfl⟩

/-- The number of channels that the parser reads is what the table asks for, and nothing else. -/
theorem channelsAsked_iff {field : String} {legacyMax : Option Int} {maxChannels : Int}
    (hlegacy : legacyMaxChannels lib name options = .ok legacyMax)
    (hmax : int (raw.get? "max_channels") field (maxChannelsDefault legacyMax) = .ok maxChannels)
    (n : Int) : ChannelsAsked lib raw options n ↔ n = maxChannels := by
  have hread := legacyMaxChannels_ok hlegacy
  -- at most one option names the channels, and its number is the legacy one
  have hoption : ∀ option ∈ options, mountOptionName lib option = "max_channels".toList →
      lib.int (option.past '=').strip = legacyMax ∧ legacyMax ≠ none := by
    intro option hoption hname
    have hmem := mem_maxChannelsValues.2 ⟨option, hoption, hname, rfl⟩
    obtain ⟨hnil, -⟩ | ⟨value, m, hvalues, hint, rfl⟩ := hread
    · rw [hnil] at hmem
      cases hmem
    · rw [hvalues] at hmem
      rw [List.mem_singleton.mp hmem, hint]
      exact ⟨rfl, by simp⟩
  obtain ⟨hunset, rfl⟩ | hset := int_eq_ok hmax
  · constructor
    · intro h
      cases h with
      | setting n hn => exact absurd (hunset.symm.trans hn) (by simp)
      | option option n _ hmem hname hint hne =>
        obtain ⟨heq, -⟩ := hoption option hmem hname
        rw [← heq, hint, maxChannelsDefault, if_neg hne]
      | default _ hnone =>
        obtain ⟨-, rfl⟩ | ⟨value, m, hvalues, hint, rfl⟩ := hread
        · rfl
        · obtain ⟨option, hmem, hname, rfl⟩ := mem_maxChannelsValues.1
            (hvalues ▸ List.mem_cons_self : value ∈ maxChannelsValues lib options)
          obtain rfl : m = 0 := Option.some.inj (hint.symm.trans (hnone option hmem hname))
          rfl
    · rintro rfl
      obtain ⟨hnil, rfl⟩ | ⟨value, m, hvalues, hint, rfl⟩ := hread
      · refine .default hunset fun option hmem hname => ?_
        exact absurd rfl (hoption option hmem hname).2
      · by_cases hzero : m = 0
        · subst hzero
          exact .default hunset fun option hmem hname => (hoption option hmem hname).1
        · obtain ⟨option, hmem, hname, rfl⟩ := mem_maxChannelsValues.1
            (hvalues ▸ List.mem_cons_self : value ∈ maxChannelsValues lib options)
          rw [maxChannelsDefault, if_neg hzero]
          exact .option option m hunset hmem hname hint hzero
  · constructor
    · intro h
      cases h with
      | setting m hm => simpa using hm.symm.trans hset
      | option _ _ hunset => exact absurd (hunset.symm.trans hset) (by simp)
      | default hunset => exact absurd (hunset.symm.trans hset) (by simp)
    · rintro rfl
      exact .setting n hset

theorem parseMultichannelPolicy_asked {policy : Text} {maxChannels : Int}
    (h : parseMultichannelPolicy lib name raw options = .ok (policy, maxChannels)) (p : Text) (n : Int) :
    (Asked lib raw "multichannel_policy" impliedMultichannelPolicy options "disabled".toList p ↔
      p = policy) ∧ (ChannelsAsked lib raw options n ↔ n = maxChannels) := by
  unfold parseMultichannelPolicy at h
  obtain ⟨text, htext, h⟩ := bind_eq_ok.mp h
  obtain ⟨-, h⟩ := require_bind_eq_ok.mp h
  obtain ⟨⟨legacy, legacyMax⟩, hlegacy, h⟩ := bind_eq_ok.mp h
  obtain ⟨-, h⟩ := require_bind_eq_ok.mp h
  obtain ⟨maxChannels', hmax, h⟩ := bind_eq_ok.mp h
  obtain ⟨-, h⟩ := require_bind_eq_ok.mp h
  obtain ⟨-, h⟩ := require_bind_eq_ok.mp h
  obtain ⟨rfl, rfl⟩ := Prod.mk.inj (Except.ok.inj h)
  obtain ⟨-, hfollows, hlegacyMax⟩ := legacyMultichannelPolicy_ok hlegacy
  exact ⟨asked_iff htext (legacyMultichannelPolicy_legacy hlegacy) hfollows p,
    channelsAsked_iff hlegacyMax hmax n⟩

/-! ## All policies -/

/-- The options of one policy do not decide another one. -/
theorem asked_withoutNames {key : String} {implied : Text → Option Text} {fallback : Text}
    (hdisjoint : ∀ option ∈ ioFailurePolicies, implied option = none) (p : Text) :
    Asked lib raw key implied (withoutNames lib ioFailurePolicies options) fallback p ↔
      Asked lib raw key implied options fallback p := by
  constructor
  · intro h
    cases h with
    | setting text h hset => exact .setting text h hset
    | option option _ hunset h himplied =>
      exact .option option p hunset (mem_withoutNames.mp h).1 himplied
    | default hunset hnone =>
      refine .default hunset fun option hoption => ?_
      by_cases howned : mountOptionName lib option ∈ ioFailurePolicies
      · exact hdisjoint _ howned
      · exact hnone option (mem_withoutNames.mpr ⟨hoption, howned⟩)
  · intro h
    cases h with
    | setting text h hset => exact .setting text h hset
    | option option _ hunset h himplied =>
      refine .option option p hunset (mem_withoutNames.mpr ⟨h, fun howned => ?_⟩) himplied
      exact absurd ((hdisjoint _ howned).symm.trans himplied) (by simp)
    | default hunset hnone =>
      exact .default hunset fun option hoption => hnone option (mem_withoutNames.mp hoption).1

theorem channelsAsked_withoutNames (n : Int) :
    ChannelsAsked lib raw (withoutNames lib ioFailurePolicies options) n ↔
      ChannelsAsked lib raw options n := by
  have hkept : ∀ option, mountOptionName lib option = "max_channels".toList →
      mountOptionName lib option ∉ ioFailurePolicies := by
    intro option hname
    rw [hname]
    decide
  constructor
  · intro h
    cases h with
    | setting n h => exact .setting n h
    | option option n hunset h hname hint hne =>
      exact .option option n hunset (mem_withoutNames.mp h).1 hname hint hne
    | default hunset hnone =>
      exact .default hunset fun option hoption hname =>
        hnone option (mem_withoutNames.mpr ⟨hoption, hkept option hname⟩) hname
  · intro h
    cases h with
    | setting n h => exact .setting n h
    | option option n hunset h hname hint hne =>
      exact .option option n hunset (mem_withoutNames.mpr ⟨h, hkept option hname⟩) hname hint hne
    | default hunset hnone =>
      exact .default hunset fun option hoption hname =>
        hnone option (mem_withoutNames.mp hoption).1 hname

/-- The mount policies of a target. -/
def TargetConfig.policies (target : TargetConfig) : MountPolicies where
  ioFailure := target.ioFailurePolicy
  handle := target.handleReconnectPolicy
  multichannel := target.multichannelPolicy
  maxChannels := target.maxChannels

theorem parsePolicies_configured {policy : Text} {transport : TransportPolicy} {remaining : List Text}
    (h : parsePolicies lib name .cifs raw options = .ok (policy, transport, remaining))
    (policies : MountPolicies) : Configured lib raw options policies ↔
      policies = ⟨policy, transport.handleReconnectPolicy, transport.multichannelPolicy,
        transport.maxChannels⟩ := by
  rw [parsePolicies, if_pos rfl] at h
  obtain ⟨⟨policy', kept⟩, hpolicy, h⟩ := bind_eq_ok.mp h
  obtain ⟨⟨transport', remaining'⟩, htransport, h⟩ := bind_eq_ok.mp h
  obtain ⟨rfl, hpair⟩ := Prod.mk.inj (Except.ok.inj h)
  obtain ⟨rfl, rfl⟩ := Prod.mk.inj hpair
  obtain ⟨-, rfl, -⟩ := parseCifsIoFailurePolicy_ok hpolicy
  unfold parseCifsTransportPolicy at htransport
  obtain ⟨_, -, h⟩ := bind_eq_ok.mp htransport
  obtain ⟨handle, hhandle, h⟩ := bind_eq_ok.mp h
  obtain ⟨⟨multichannel, maxChannels⟩, hmultichannel, h⟩ := bind_eq_ok.mp h
  obtain ⟨_, -, h⟩ := bind_eq_ok.mp h
  obtain ⟨rfl, rfl⟩ := Prod.mk.inj (Except.ok.inj h)
  have hio := parseCifsIoFailurePolicy_asked hpolicy policies.ioFailure
  have hhandles := parseHandlePolicy_asked hhandle policies.handle
  have hmulti := parseMultichannelPolicy_asked hmultichannel policies.multichannel policies.maxChannels
  -- these two read the options that are left after `soft` and `hard` were taken out
  rw [asked_withoutNames (by decide)] at hhandles
  rw [asked_withoutNames (by decide), channelsAsked_withoutNames] at hmulti
  constructor
  · intro hconfigured
    obtain ⟨io, handle', multichannel', maxChannels'⟩ := policies
    obtain rfl := hio.1 hconfigured.ioFailure
    obtain rfl := hhandles.1 hconfigured.handle
    obtain rfl := hmulti.1.1 hconfigured.multichannel
    obtain rfl := hmulti.2.1 hconfigured.maxChannels
    rfl
  · rintro rfl
    exact ⟨hio.2 rfl, hhandles.2 rfl, hmulti.1.2 rfl, hmulti.2.2 rfl⟩

/-- The parser gives a CIFS target the policies that its table asks for, and no others. -/
theorem configured_iff {runtimeDir : PosixPath} {target : TargetConfig}
    (h : parseTarget lib name raw runtimeDir = .ok target) (htype : target.type = .cifs)
    (hoptions : stringList (raw.get? "mount_options") s!"storage.{name}.mount_options" =
      .ok options) (policies : MountPolicies) :
    Configured lib raw options policies ↔ policies = target.policies := by
  obtain ⟨type, place, options', policy, transport, remaining, -, -, hoptions', hpolicies, htarget,
    -⟩ := parseTarget_eq_ok.mp h
  obtain rfl := Except.ok.inj (hoptions.symm.trans hoptions')
  have hbuilt := buildTarget_ok htarget
  obtain rfl : type = .cifs := hbuilt.type_eq.symm.trans htype
  have htransport := hbuilt.transport_eq
  rw [parsePolicies_configured hpolicies, TargetConfig.policies, hbuilt.policy_eq, ← htransport]
  rfl

end StorageNode.Config
