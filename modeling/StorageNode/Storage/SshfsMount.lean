import StorageNode.Transport.Failover

/-!
# Mounting SSHFS transports

The command of `_mount_sshfs`. The mount options of a resolved transport are joined with commas, and
`sshfs` takes the argument apart at its commas again.

The validator of `load_exclusive_failover` looks at each configured option as a whole, by the text
before its first `=`. `sshfs_options_guarded_iff` says when its view and that of `sshfs` agree.
-/

set_option autoImplicit false

namespace StorageNode.Storage

open StorageNode.Config
open StorageNode.Transport

/-- The command of `_mount_sshfs`. -/
def mountSshfsCommand (target : TargetConfig) : List Text :=
  ["sshfs".toList, "-f".toList, target.source, target.mountpoint.text] ++
    if target.mountOptions = [] then []
    else ["-o".toList, [','].intercalate target.mountOptions]

/-! ## What `sshfs` sees -/

/-- The value of `PreferredAuthentications` for an authentication mode. -/
def preferredAuthentications : Transport.AuthMode → Text
  | .key => "publickey".toList
  | .password => "password".toList

/-- The options with a name, as `ssh` compares names. -/
def named (lib : Library) (name : String) (options : List Text) : List Text :=
  options.filter fun option => optionKey lib option = name.toList

/-- The options that `sshfs` sees are those of the guardian, followed by options of the allowlist. Host
keys are always checked, against the configured file, and there is one authentication mode. -/
structure Guarded (lib : Library) (failover : ExclusiveFailoverConfig)
    (transport : SshfsTransportConfig) (options : List Text) : Prop where
  owned : ∃ extra, options = (failover.guardianOptions transport).map SshOption.text ++ extra ∧
    ∀ option ∈ extra, optionKey lib option ∈ sshfsSafeOptions
  host_keys : named lib "stricthostkeychecking" options =
    [SshOption.text ("StrictHostKeyChecking".toList, some "yes".toList)]
  known_hosts : named lib "userknownhostsfile" options =
    [SshOption.text ("UserKnownHostsFile".toList, some transport.knownHostsFile)]
  authentication : named lib "preferredauthentications" options =
    [SshOption.text ("PreferredAuthentications".toList,
      some (preferredAuthentications transport.authMode))]

/-- The transport resolves to a target whose command hands guarded options to `sshfs`. -/
def SshfsGuarded (lib : Library) (failover : ExclusiveFailoverConfig) (base : TargetConfig)
    (transport : SshfsTransportConfig) : Prop :=
  ∃ target argument, failover.resolve base transport.name = .ok target ∧
    mountSshfsCommand target =
      ["sshfs".toList, "-f".toList, target.source, target.mountpoint.text, "-o".toList, argument] ∧
    Guarded lib failover transport (argument.splitOn ',')

/-- Every piece of a configured option is on the allowlist, and the runtime directory that the key is
copied to has no comma in its path. -/
def PiecesSafe (lib : Library) (failover : ExclusiveFailoverConfig)
    (transport : SshfsTransportConfig) : Prop :=
  (∀ option ∈ transport.mountOptions, ∀ piece ∈ option.splitOn ',',
    optionKey lib piece ∈ sshfsSafeOptions) ∧
  (transport.authMode = .key → ',' ∉ failover.runtimeDir.text)

/-! ## The options of the guardian -/

/-- A name that `optionKey` only lowers. -/
def plainKey (name : Text) : Bool :=
  decide ('=' ∉ name ∧ name.strip = name ∧ ',' ∉ name) && name.all fun c => decide (c.toNat < 128)

theorem optionKey_text (lib : Library) {option : SshOption}
    (h : plainKey option.1 = true) : optionKey lib option.text = option.1.map Char.toLower := by
  obtain ⟨name, value⟩ := option
  obtain ⟨hplain, hascii⟩ := Bool.and_eq_true_iff.mp h
  obtain ⟨hequals, hstrip, -⟩ := of_decide_eq_true hplain
  have hnot : ∀ c ∈ name, decide (c ≠ '=') = true := fun c hc =>
    decide_eq_true fun heq => hequals (heq ▸ hc)
  have hbefore : (SshOption.text (name, value)).before '=' = name := by
    cases value with
    | none => exact List.takeWhile_eq_self_iff.mpr hnot
    | some value =>
      show (name ++ '=' :: value).takeWhile _ = name
      rw [List.takeWhile_append_of_pos hnot]
      simp
  rw [optionKey, hbefore, hstrip]
  exact lib.case.lower_ascii name fun c hc => of_decide_eq_true (List.all_eq_true.mp hascii c hc)

theorem comma_mem_text {option : SshOption} (h : plainKey option.1 = true) :
    ',' ∈ option.text ↔ ∃ value, option.2 = some value ∧ ',' ∈ value := by
  obtain ⟨name, value⟩ := option
  obtain ⟨-, -, hcomma⟩ := of_decide_eq_true (Bool.and_eq_true_iff.mp h).1
  cases value with
  | none => simpa [SshOption.text] using hcomma
  | some value =>
    have hne : ',' ≠ '=' := by decide
    simp only [SshOption.text, List.mem_append, List.mem_cons, hne, false_or, Option.some.injEq,
      exists_eq_left']
    exact ⟨fun hmem => hmem.resolve_left hcomma, .inr⟩

/-- The names of the guardian's options. -/
def guardianNames (mode : Transport.AuthMode) : List Text :=
  (match mode with
    | .key =>
      ["IdentityFile".toList, "BatchMode".toList, "PreferredAuthentications".toList,
        "PasswordAuthentication".toList, "KbdInteractiveAuthentication".toList]
    | .password =>
      ["password_stdin".toList, "BatchMode".toList, "PreferredAuthentications".toList,
        "PubkeyAuthentication".toList, "KbdInteractiveAuthentication".toList,
        "NumberOfPasswordPrompts".toList]) ++
    ["UserKnownHostsFile".toList, "StrictHostKeyChecking".toList, "port".toList,
      "reconnect".toList, "ServerAliveInterval".toList, "ServerAliveCountMax".toList,
      "sshfs_sync".toList, "dir_cache".toList, "allow_other".toList,
      "default_permissions".toList, "uid".toList, "gid".toList, "umask".toList]

theorem guardianNames_ok : ∀ mode, (∀ name ∈ guardianNames mode, plainKey name = true) ∧
    ((guardianNames mode).map (List.map Char.toLower)).Nodup
  | .key => by decide +kernel
  | .password => by decide +kernel

theorem guardianOptions_names (failover : ExclusiveFailoverConfig)
    (transport : SshfsTransportConfig) :
    (failover.guardianOptions transport).map Prod.fst = guardianNames transport.authMode := by
  unfold ExclusiveFailoverConfig.guardianOptions ExclusiveFailoverConfig.authOptions guardianNames
  cases transport.authMode <;> rfl

theorem guardianOptions_plain (failover : ExclusiveFailoverConfig)
    (transport : SshfsTransportConfig) :
    ∀ option ∈ failover.guardianOptions transport, plainKey option.1 = true := by
  intro option hoption
  apply (guardianNames_ok transport.authMode).1
  rw [← guardianOptions_names failover transport]
  exact List.mem_map_of_mem hoption

/-- Where the images are distinct, one element has the image of another. -/
theorem filter_eq_singleton {α β : Type} [DecidableEq β] {f : α → β} {xs : List α}
    (h : (xs.map f).Nodup) {x : α} (hx : x ∈ xs) : xs.filter (fun y => f y = f x) = [x] := by
  induction xs with
  | nil => exact absurd hx List.not_mem_nil
  | cons y ys ih =>
    obtain ⟨hy, hys⟩ := List.nodup_cons.mp h
    obtain rfl | hx := List.mem_cons.mp hx
    · have hnone : ys.filter (fun y => f y = f x) = [] := by
        rw [List.filter_eq_nil_iff]
        intro z hz heq
        exact hy (of_decide_eq_true heq ▸ List.mem_map_of_mem hz)
      simp [hnone]
    · rw [List.filter_cons_of_neg, ih hys hx]
      intro heq
      exact hy (of_decide_eq_true heq ▸ List.mem_map_of_mem hx)

/-- A name of the guardian occurs with the guardian's value only, and the allowlist does not hold it. -/
theorem named_guarded {lib : Library} {failover : ExclusiveFailoverConfig}
    {transport : SshfsTransportConfig} {option : SshOption} {extra : List Text} {name : String}
    (hoption : option ∈ failover.guardianOptions transport)
    (hname : option.1.map Char.toLower = name.toList) (hrefused : name.toList ∉ sshfsSafeOptions)
    (hextra : ∀ other ∈ extra, optionKey lib other ∈ sshfsSafeOptions) :
    named lib name ((failover.guardianOptions transport).map SshOption.text ++ extra) =
      [option.text] := by
  have hplain := guardianOptions_plain failover transport
  have hnodup : ((failover.guardianOptions transport).map
      fun other => other.1.map Char.toLower).Nodup := by
    have hnames := (guardianNames_ok transport.authMode).2
    rwa [← guardianOptions_names failover transport, List.map_map] at hnames
  have hnone : extra.filter (fun other => optionKey lib other = name.toList) = [] := by
    rw [List.filter_eq_nil_iff]
    intro other hother heq
    exact hrefused (of_decide_eq_true heq ▸ hextra other hother)
  have hcongr : ∀ other ∈ failover.guardianOptions transport,
      ((fun text => decide (optionKey lib text = name.toList)) ∘ SshOption.text) other =
        decide (other.1.map Char.toLower = option.1.map Char.toLower) := by
    intro other hother
    rw [Function.comp_apply, optionKey_text lib (hplain other hother), hname]
  rw [named, List.filter_append, hnone, List.append_nil, List.filter_map,
    List.filter_congr hcongr, filter_eq_singleton hnodup hoption]
  rfl

/-! ## Commas -/

/-- Besides slashes and dots, the text of a path holds what its parts hold. -/
theorem mem_text_iff {c : Char} (hslash : c ≠ '/') (hdot : c ≠ '.') (path : PosixPath) :
    c ∈ path.text ↔ c ∈ path.root ∨ ∃ component ∈ path.components, c ∈ component := by
  unfold PosixPath.text
  split
  · rename_i hempty
    simp [hempty.1, hempty.2, hdot]
  · rw [List.mem_append, mem_intercalate_iff '/' hslash]

/-- A generated file of a transport has a comma in its path only through the runtime directory. -/
theorem comma_mem_runtimeFile {runtimeDir : PosixPath} {name : Text} {suffix : String}
    (hname : ',' ∉ name) (hsuffix : ',' ∉ suffix.toList) :
    ',' ∈ (runtimeFile runtimeDir name suffix).text ↔ ',' ∈ runtimeDir.text := by
  have hfile : ∀ component ∈ (PosixPath.parse ("ssh-".toList ++ (name ++ suffix.toList))).components,
      ',' ∉ component := by
    intro component hcomponent hmem
    have htext := mem_of_mem_splitOn '/' (List.mem_of_mem_filter hcomponent) hmem
    obtain hmem | hmem := List.mem_append.mp htext
    · exact absurd hmem (by decide)
    · exact (List.mem_append.mp hmem).elim hname hsuffix
  have hgenerated : ∀ component ∈ (PosixPath.parse "generated").components, ',' ∉ component := by
    decide +kernel
  have hjoin : runtimeFile runtimeDir name suffix = { runtimeDir with
      components := runtimeDir.components ++ (PosixPath.parse "generated").components ++
        (PosixPath.parse ("ssh-".toList ++ (name ++ suffix.toList))).components } := by
    rfl
  rw [mem_text_iff (by decide) (by decide), mem_text_iff (by decide) (by decide), hjoin]
  constructor
  · rintro (hroot | ⟨component, hcomponent, hmem⟩)
    · exact .inl hroot
    · obtain hcomponent | hcomponent := List.mem_append.mp hcomponent
      · obtain hcomponent | hcomponent := List.mem_append.mp hcomponent
        · exact .inr ⟨component, hcomponent, hmem⟩
        · exact absurd hmem (hgenerated component hcomponent)
      · exact absurd hmem (hfile component hcomponent)
  · rintro (hroot | ⟨component, hcomponent, hmem⟩)
    · exact .inl hroot
    · exact .inr ⟨component, List.mem_append_left _ (List.mem_append_left _ hcomponent), hmem⟩

theorem comma_not_mem_ofInt (n : Int) : ',' ∉ Text.ofInt n := by
  intro hmem
  obtain heq | hdigit := Text.mem_ofInt hmem
  · exact absurd heq (by decide)
  · exact absurd hdigit (by decide)

/-- The identity file of a transport with a key. -/
theorem identityFile_mem {failover : ExclusiveFailoverConfig} {transport : SshfsTransportConfig}
    (hmode : transport.authMode = .key) :
    ("IdentityFile".toList, some (runtimeFile failover.runtimeDir transport.name ".key").text) ∈
      failover.guardianOptions transport := by
  apply List.mem_append_left
  unfold ExclusiveFailoverConfig.authOptions
  rw [hmode]
  exact List.mem_cons_self

/-- The options of the guardian hold no comma exactly when the path of the key holds none. -/
theorem guardianOptions_no_comma_iff {lib : Library} {failover : ExclusiveFailoverConfig}
    {transport : SshfsTransportConfig} (h : TransportAccepted lib transport) :
    (∀ option ∈ failover.guardianOptions transport, ',' ∉ option.text) ↔
      (transport.authMode = .key → ',' ∉ failover.runtimeDir.text) := by
  have hplain := guardianOptions_plain failover transport
  -- the name of a transport has no comma, so that the key path has one only from the directory
  have hkey : ',' ∈ (runtimeFile failover.runtimeDir transport.name ".key").text ↔
      ',' ∈ failover.runtimeDir.text :=
    comma_mem_runtimeFile (comma_not_mem_of_matches h.name_matches) (by decide)
  constructor
  · intro hcomma hmode hruntime
    have hidentity : _ ∈ failover.guardianOptions transport := identityFile_mem hmode
    apply hcomma _ hidentity
    rw [comma_mem_text (hplain _ hidentity)]
    exact ⟨_, rfl, hkey.mpr hruntime⟩
  · intro hruntime
    -- no other option carries a text that was not checked
    have hauth : ∀ option ∈ failover.authOptions transport, ∀ value, option.2 = some value →
        ',' ∉ value := by
      unfold ExclusiveFailoverConfig.authOptions
      cases hmode : transport.authMode with
      | key => simpa using fun hmem => hruntime hmode (hkey.mp hmem)
      | password => simp
    have hcommon : ∀ option ∈ failover.commonOptions transport, ∀ value, option.2 = some value →
        ',' ∉ value := by
      unfold ExclusiveFailoverConfig.commonOptions
      simp [h.known_hosts_plain, comma_not_mem_ofInt]
    intro option hoption hmem
    obtain ⟨value, hvalue, hcomma⟩ := (comma_mem_text (hplain option hoption)).mp hmem
    obtain hoption | hoption := List.mem_append.mp hoption
    · exact hauth option hoption value hvalue hcomma
    · exact hcommon option hoption value hvalue hcomma

/-- The command of a resolved transport ends with the joined options. -/
theorem mountSshfsCommand_eq (failover : ExclusiveFailoverConfig) (base : TargetConfig)
    (transport : SshfsTransportConfig) :
    mountSshfsCommand (failover.sshfsTarget base transport) =
      ["sshfs".toList, "-f".toList, transport.source, base.mountpoint.text, "-o".toList,
        [','].intercalate ((failover.guardianOptions transport).map SshOption.text ++
          transport.mountOptions)] := by
  rw [mountSshfsCommand, if_neg]
  · rfl
  · unfold ExclusiveFailoverConfig.sshfsTarget ExclusiveFailoverConfig.guardianOptions
      ExclusiveFailoverConfig.commonOptions
    simp

/-- Options of the allowlist behind those of the guardian change none of them. -/
theorem guarded_of_safe {lib : Library} {failover : ExclusiveFailoverConfig}
    {transport : SshfsTransportConfig} {extra : List Text}
    (hextra : ∀ option ∈ extra, optionKey lib option ∈ sshfsSafeOptions) :
    Guarded lib failover transport
      ((failover.guardianOptions transport).map SshOption.text ++ extra) := by
  have hcommon : ∀ {option}, option ∈ failover.commonOptions transport →
      option ∈ failover.guardianOptions transport := List.mem_append_right _
  constructor
  · exact ⟨extra, rfl, hextra⟩
  · have hname : "StrictHostKeyChecking".toList.map Char.toLower =
        "stricthostkeychecking".toList := by decide +kernel
    exact named_guarded (hcommon (List.mem_cons_of_mem _ List.mem_cons_self)) hname
      (by decide +kernel) hextra
  · have hname : "UserKnownHostsFile".toList.map Char.toLower = "userknownhostsfile".toList := by
      decide +kernel
    exact named_guarded (hcommon List.mem_cons_self) hname (by decide +kernel) hextra
  · have hname : "PreferredAuthentications".toList.map Char.toLower =
        "preferredauthentications".toList := by decide +kernel
    have hauth : ("PreferredAuthentications".toList,
        some (preferredAuthentications transport.authMode)) ∈ failover.authOptions transport := by
      unfold ExclusiveFailoverConfig.authOptions
      cases transport.authMode with
      | key => exact List.mem_cons_of_mem _ (List.mem_cons_of_mem _ List.mem_cons_self)
      | password => exact List.mem_cons_of_mem _ (List.mem_cons_of_mem _ List.mem_cons_self)
    exact named_guarded (List.mem_append_left _ hauth) hname (by decide +kernel) hextra

/-- What `sshfs` sees of a resolved transport. -/
theorem splitOn_mountOptions (failover : ExclusiveFailoverConfig) (transport : SshfsTransportConfig) :
    ([','].intercalate ((failover.guardianOptions transport).map SshOption.text ++
      transport.mountOptions)).splitOn ',' =
    ((failover.guardianOptions transport).map SshOption.text).flatMap (List.splitOn ',') ++
      transport.mountOptions.flatMap (List.splitOn ',') := by
  rw [splitOn_intercalate_flatMap, List.flatMap_append]
  unfold ExclusiveFailoverConfig.guardianOptions ExclusiveFailoverConfig.commonOptions
  simp

theorem guardianOptions_split {failover : ExclusiveFailoverConfig} {transport : SshfsTransportConfig}
    (h : ∀ option ∈ failover.guardianOptions transport, ',' ∉ option.text) :
    ((failover.guardianOptions transport).map SshOption.text).flatMap (List.splitOn ',') =
      (failover.guardianOptions transport).map SshOption.text := by
  apply flatMap_splitOn_of_not_mem
  intro text htext
  obtain ⟨option, hoption, rfl⟩ := List.mem_map.mp htext
  exact h option hoption

/-- The options that `sshfs` sees of a resolved transport are guarded exactly when every piece of a
configured option is on the allowlist and the path of the key has no comma. -/
theorem sshfs_options_guarded_iff {lib : Library} {raw : Table} {config : Config}
    {failover : ExclusiveFailoverConfig}
    (h : loadExclusiveFailover lib raw config = .ok (some failover)) (base : TargetConfig)
    {transport : SshfsTransportConfig} (hmem : transport ∈ failover.transports) :
    SshfsGuarded lib failover base transport ↔ PiecesSafe lib failover transport := by
  have haccepted := loadExclusiveFailover_ok h
  have hcommas : _ ↔ (transport.authMode = .key → ',' ∉ failover.runtimeDir.text) :=
    guardianOptions_no_comma_iff (haccepted.accepted transport hmem)
  have hresolve := ExclusiveFailoverConfig.resolve_transport haccepted base hmem
  have hcommand := mountSshfsCommand_eq failover base transport
  have hsplit := splitOn_mountOptions failover transport
  constructor
  · rintro ⟨target, argument, htarget, hargument, hguarded⟩
    obtain rfl := Except.ok.inj (hresolve.symm.trans htarget)
    have hcommands := hcommand.symm.trans hargument
    simp only [List.cons.injEq, and_true, true_and] at hcommands
    obtain ⟨extra, hextra, hsafe⟩ := hguarded.owned
    -- what stands between commas holds none, so the guardian's options hold none
    have hcomma : ∀ option ∈ failover.guardianOptions transport, ',' ∉ option.text := by
      intro option hoption
      apply not_mem_of_mem_splitOn ','
      rw [hextra]
      exact List.mem_append_left _ (List.mem_map_of_mem hoption)
    rw [← hcommands.2.2, hsplit, guardianOptions_split hcomma] at hextra
    obtain rfl := List.append_cancel_left hextra
    refine ⟨?_, hcommas.mp hcomma⟩
    intro option hoption piece hpiece
    exact hsafe piece (List.mem_flatMap.mpr ⟨option, hoption, hpiece⟩)
  · rintro ⟨hpieces, hruntime⟩
    refine ⟨_, _, hresolve, hcommand, ?_⟩
    -- without commas in the own options, what follows them are pieces of the allowlist
    rw [hsplit, guardianOptions_split (hcommas.mpr hruntime)]
    apply guarded_of_safe
    intro piece hpiece
    obtain ⟨option, hoption, hpiece⟩ := List.mem_flatMap.mp hpiece
    exact hpieces option hoption piece hpiece

/-- The settings of an SSHFS transport with a key. -/
def transportTable (name : String) (options : List String) : Table :=
  [("name".toList, .str name.toList), ("source".toList, .str "user@host:/remote".toList),
    ("identity_file".toList, .str "/run/secrets/key".toList),
    ("known_hosts_file".toList, .str "/run/secrets/known_hosts".toList),
    ("mount_options".toList, .array (options.map fun o => .str o.toList))]

/-- A configuration with two SSHFS transports: one with an option of the allowlist, and one whose only
option holds a comma. -/
def failoverTable : Table :=
  ("appliance".toList, .table [("worker_fencing_mode".toList, .str "namespace".toList)]) ::
    nodeTable [("failover".toList, .table
      [("enabled".toList, .bool true),
        ("transports".toList, .array
          [.table (transportTable "plain" ["no_readahead"]),
            .table (transportTable "injected" ["max_read=1,StrictHostKeyChecking=no"])])])] []

/-- One of its transports. -/
def keyTransport (name : String) (priority : Int) (options : List String) :
    SshfsTransportConfig where
  name := name.toList
  priority := priority
  source := "user@host:/remote".toList
  authMode := .key
  knownHostsFile := "/run/secrets/known_hosts".toList
  identityFile := "/run/secrets/key".toList
  mountOptions := options.map String.toList

/-- Its failover configuration. -/
def sampleFailover : ExclusiveFailoverConfig where
  target := "data".toList
  primaryName := "cifs-primary".toList
  primaryPriority := 10
  failbackPolicy := "manual".toList
  failureCooldownSeconds := 60
  verifyAllTransportsOnStartup := true
  transports := [keyTransport "plain" 20 ["no_readahead"],
    keyTransport "injected" 21 ["max_read=1,StrictHostKeyChecking=no"]]
  workerUid := 10001
  workerGid := 10001
  runtimeDir := runDirectory

theorem failoverTable_accepted : ∃ config, loadConfig Library.plain failoverTable = .ok config ∧
    loadExclusiveFailover Library.plain failoverTable config = .ok (some sampleFailover) := by
  have heval : ((loadConfig Library.plain failoverTable).toOption.bind fun config =>
      (loadExclusiveFailover Library.plain failoverTable config).toOption) =
        some (some sampleFailover) := by
    decide +kernel
  obtain ⟨config, hconfig, hfailover⟩ := Option.bind_eq_some_iff.mp heval
  exact ⟨config, toOption_eq_some hconfig, toOption_eq_some hfailover⟩

/-- The first transport hands guarded options to `sshfs`. -/
theorem sshfs_options_guarded_plain : ∃ config,
    loadConfig Library.plain failoverTable = .ok config ∧
    loadExclusiveFailover Library.plain failoverTable config = .ok (some sampleFailover) ∧
    ∀ base, SshfsGuarded Library.plain sampleFailover base
      (keyTransport "plain" 20 ["no_readahead"]) := by
  obtain ⟨config, hconfig, hfailover⟩ := failoverTable_accepted
  refine ⟨config, hconfig, hfailover, fun base => ?_⟩
  apply (sshfs_options_guarded_iff hfailover base List.mem_cons_self).mpr
  constructor
  · show ∀ option ∈ ["no_readahead".toList], ∀ piece ∈ option.splitOn ',',
      optionKey Library.plain piece ∈ sshfsSafeOptions
    decide +kernel
  · show _ → ',' ∉ runDirectory.text
    exact fun _ => by decide +kernel

/-- The second transport switches the check of host keys off. -/
theorem host_key_check_disabled : ∃ config,
    loadConfig Library.plain failoverTable = .ok config ∧
    loadExclusiveFailover Library.plain failoverTable config = .ok (some sampleFailover) ∧
    keyTransport "injected" 21 ["max_read=1,StrictHostKeyChecking=no"] ∈ sampleFailover.transports ∧
    ∀ base, ¬ SshfsGuarded Library.plain sampleFailover base
      (keyTransport "injected" 21 ["max_read=1,StrictHostKeyChecking=no"]) := by
  obtain ⟨config, hconfig, hfailover⟩ := failoverTable_accepted
  have hmem : keyTransport "injected" 21 ["max_read=1,StrictHostKeyChecking=no"] ∈
      sampleFailover.transports := List.mem_cons_of_mem _ List.mem_cons_self
  refine ⟨config, hconfig, hfailover, hmem, ?_⟩
  rintro base ⟨target, argument, htarget, hcommand, hguarded⟩
  have hresolve := ExclusiveFailoverConfig.resolve_transport (loadExclusiveFailover_ok hfailover)
    base hmem
  obtain rfl := Except.ok.inj (hresolve.symm.trans htarget)
  have hcommands := (mountSshfsCommand_eq sampleFailover base _).symm.trans hcommand
  simp only [List.cons.injEq, and_true, true_and] at hcommands
  -- the second piece of the option is an option of its own
  have hpiece : "StrictHostKeyChecking=no".toList ∈ argument.splitOn ',' := by
    rw [← hcommands.2.2, splitOn_mountOptions]
    apply List.mem_append_right
    show _ ∈ ["max_read=1,StrictHostKeyChecking=no".toList].flatMap (List.splitOn ',')
    decide +kernel
  have hnamed : "StrictHostKeyChecking=no".toList ∈
      named Library.plain "stricthostkeychecking" (argument.splitOn ',') :=
    List.mem_filter.mpr ⟨hpiece, by decide +kernel⟩
  rw [hguarded.host_keys] at hnamed
  exact absurd hnamed (by decide +kernel)

end StorageNode.Storage
