import StorageNode.Generation.Lifecycle

/-!
# Creating a generation

The contracts of `start` and `create`, and of what the guardian does with a generation. A generation that
has been created is the only one whose namespace can be connected, and the record says that it is active
(`create_triple`).
-/

set_option autoImplicit false

namespace StorageNode.Generation

open StorageNode.Files StorageNode.Program StorageNode.Text

variable {ι : Type} [DecidableEq ι] {i : ι} {g : WorkerGeneration} {φ : World ι → Prop}

/-! ## DNS -/

theorem waitProxy_triple (hφ : Modest φ) (pid patience : Nat) :
    (guardianDiscipline i).Triple (fun w => Mine i g w ∧ φ w) (waitProxy pid patience)
      (fun _ w => Mine i g w ∧ φ w) fun _ => Aged i g fun _ w => φ w := by
  have hquiet : ∀ {α : Type} {p : Prog α}, (p.Issues fun r => r.quiet = true) →
      (guardianDiscipline i).Triple (fun w => Mine i g w ∧ φ w) p (fun _ w => Mine i g w ∧ φ w)
        fun _ => Aged i g fun _ w => φ w :=
    fun hp => (quiet_triple hφ hp).mono (fun _ _ h => h) (fun _ _ _ h => h)
      fun _ _ _ h => ⟨g, .refl g, h⟩
  induction patience with
  | zero =>
    refine .bind (M := fun _ => Aged i g fun _ w => φ w) ((stopDnsProxy_triple hφ).mono (fun _ _ h => h)
      (fun _ _ _ h => ?_) fun _ _ _ h => ?_) fun _ => .raise fun _ _ h => h
    · exact ⟨{ g with dnsProxy := none }, ⟨rfl, rfl, id⟩, h⟩
    · exact ⟨{ g with dnsProxy := none }, ⟨rfl, rfl, id⟩, h⟩
  | succ patience ih =>
    refine .bind (hquiet (quiet_perform rfl)) fun (ready : Bool) => .ite (fun _ => .ret fun _ _ h => h)
      fun _ => ?_
    refine .bind (hquiet (quiet_perform rfl)) fun (exited : Bool) => ?_
    exact .bind (hquiet (Prog.issues_raiseIf _ _)) fun _ => .bind (hquiet (quiet_perform rfl)) fun _ => ih

/-- `_configure_dns`. -/
theorem configureDns_triple (hφ : Modest φ) (patience : Nat) :
    (guardianDiscipline i).Triple (fun w => Mine i g w ∧ φ w) (configureDns patience)
      (fun _ w => ∃ proxy, Mine i { g with dnsProxy := proxy } w ∧ φ w)
      fun _ => Aged i g fun _ w => φ w := by
  have hquiet : ∀ {α : Type} {p : Prog α}, (p.Issues fun r => r.quiet = true) →
      (guardianDiscipline i).Triple (fun w => Mine i g w ∧ φ w) p (fun _ w => Mine i g w ∧ φ w)
        fun _ => Aged i g fun _ w => φ w :=
    fun hp => (quiet_triple hφ hp).mono (fun _ _ h => h) (fun _ _ _ h => h)
      fun _ _ _ h => ⟨g, .refl g, h⟩
  refine this_triple hφ (.bind (hquiet (Prog.issues_orRaise _ _)) fun keeper => ?_)
  refine .bind (hquiet (quiet_perform rfl)) fun (text : Text) => ?_
  refine .bind (hquiet ?_) fun upstreams => ?_
  · cases resolverNameservers g.settings.ipAddress text with
    | ok found => trivial
    | error e => trivial
  refine .bind (hquiet (Prog.issues_orRaise _ _)) fun gateway => ?_
  refine .bind (hquiet (quiet_perform rfl)) fun (source : Text) => ?_
  refine .bind (hquiet (quiet_perform rfl)) fun _ => ?_
  refine .bind (hquiet (quiet_perform rfl)) fun (proxy : Nat) => ?_
  refine .bind (update_triple hφ fun w hw hg _ =>
    revises_of_inv hw hg rfl rfl rfl fun pid hpid => hw.keeper i g pid hg.2 hpid) fun _ => ?_
  refine .bind ((waitProxy_triple hφ proxy patience).mono (fun _ _ h => h) (fun _ _ _ h => h)
    fun _ _ _ h => h.of_ages ⟨rfl, rfl, id⟩) fun _ => ?_
  refine .catchWith ((quiet_triple hφ (quiet_perform rfl)).post fun _ _ _ h => ⟨_, h⟩) fun e => ?_
  refine .bind (M := fun _ => Aged i g fun _ w => φ w) ((stopDnsProxy_triple hφ).mono (fun _ _ h => h)
    (fun _ _ _ h => ?_) fun _ _ _ h => ?_) fun _ => .raise fun _ _ h => h
  · exact ⟨{ g with dnsProxy := none }, ⟨rfl, rfl, id⟩, h⟩
  · exact ⟨{ g with dnsProxy := none }, ⟨rfl, rfl, id⟩, h⟩

/-! ## Starting -/

theorem waitKeeper_triple (pid patience : Nat) :
    (guardianDiscipline i).Triple (Mine i g) (waitKeeper pid patience) (fun _ w => Mine i g w)
      fun _ => Aged i g fun _ _ => True := by
  have hquiet : ∀ {α : Type} {p : Prog α}, (p.Issues fun r => r.quiet = true) →
      (guardianDiscipline i).Triple (Mine i g) p (fun _ w => Mine i g w)
        fun _ => Aged i g fun _ _ => True :=
    fun hp => (quiet_triple modest_true hp).mono (fun _ _ h => ⟨h, trivial⟩) (fun _ _ _ h => h.1)
      fun _ _ _ h => ⟨g, .refl g, h⟩
  induction patience with
  | zero =>
    refine .bind (M := fun _ => Aged i g fun _ _ => True) ((stopKeeper_triple modest_true).mono
      (fun _ _ h => ⟨h, trivial⟩) (fun _ _ _ h => ?_) fun _ _ _ h => ?_) fun _ => .raise fun _ _ h => h
    · exact ⟨{ g with keeper := none }, ⟨rfl, rfl, id⟩, h⟩
    · exact ⟨{ g with keeper := none }, ⟨rfl, rfl, id⟩, h⟩
  | succ patience ih =>
    refine .bind (hquiet (quiet_perform rfl)) fun (exited : Bool) => ?_
    refine .bind (hquiet (Prog.issues_raiseIf _ _)) fun _ => ?_
    refine .bind (hquiet (quiet_perform rfl)) fun (found : Bool) => .ite (fun _ => .ret fun _ _ h => h)
      fun _ => ?_
    exact .bind (hquiet (quiet_perform rfl)) fun _ => ih

/-- Starting a keeper. -/
theorem startKeeper_triple (hfenced : g.fenced = false) (hisolated : g.isolated) :
    (guardianDiscipline i).Triple (Mine i g) (perform .startKeeper)
      (fun (pid : Nat) w => Mine i g w ∧ (g.token, pid) ∈ w.keepers) fun _ w => Mine i g w := by
  have hstate : ∀ c w, Mine i g w → Mine i g (exec i .startKeeper c w).2 := by
    intro c w hg
    obtain ⟨hloses, hobject⟩ := suffer_loses w c.happenings
    have hfound : (w.suffer c.happenings).object i = some g := by rw [hobject]; exact hg.2
    simp only [exec, effect, hfound]
    split
    · exact ⟨hloses.lease.trans hg.1, hfound⟩
    · exact ⟨hloses.lease.trans hg.1, hfound⟩
  refine perform_triple (stable_mine g) (fun w _ hg => .inr ⟨hg.1, g, hg.2, hfenced, hisolated⟩)
    (fun c w pid _ hg ha => ⟨hstate c w hg, ?_⟩) fun c w _ _ hg _ => hstate c w hg
  obtain ⟨-, hobject⟩ := suffer_loses w c.happenings
  have hfound : (w.suffer c.happenings).object i = some g := by rw [hobject]; exact hg.2
  cases hraises : c.raises with
  | true => simp [exec, answer, Request.internal, hraises] at ha
  | false =>
    have hpid : (w.suffer c.happenings).nextPid = pid := by
      simpa [exec, answer, Request.internal, hraises, refusal, result] using ha
    simp [exec, takesEffect, refusal, hraises, effect, hfound, hpid]

/-- The setup of a namespace. When it fails, the generation is fenced and its keeper is stopped. -/
theorem setup_triple (hfenced : g.fenced = false) (patience : Nat) :
    (guardianDiscipline i).Triple (Mine i g)
      (cleaningUp (configureNetwork.bind fun _ => configureDns patience)
        ((fence "namespace setup failed").bind fun _ => stopKeeper))
      (fun _ w => ∃ proxy, Mine i { g with dnsProxy := proxy } w ∧ Led g w)
      fun _ => Aged i g fun _ _ => True := by
  refine .catchWith (F := fun _ => Aged i g fun _ _ => True) ?_ fun e => ?_
  · refine .bind ((configureNetwork_triple hfenced).mono (fun _ _ h => h) (fun _ _ _ h => h)
      fun _ _ _ h => ⟨g, .refl g, h, trivial⟩) fun _ => ?_
    exact (configureDns_triple modest_led patience).mono (fun _ _ h => h) (fun _ _ _ h => h)
      fun _ _ _ h => h.mono fun _ _ => trivial
  · refine .exists_pre fun g₁ => .assume fun hages => ?_
    refine .bind (M := fun _ => Aged i g fun _ _ => True) ?_ fun _ => .raise fun _ _ h => h
    refine .bind ((fence_triple modest_true _).mono (fun _ _ h => h) (fun _ _ _ h => h)
      fun _ _ _ h => h.of_ages hages) fun _ => ?_
    refine .exists_pre fun g₂ => .assume fun hages₂ => ?_
    refine (stopKeeper_triple modest_true).mono (fun _ _ h => ⟨h.1, trivial⟩) (fun _ _ _ h => ?_)
      fun _ _ _ h => ?_
    · exact ⟨{ g₂ with keeper := none }, (hages.trans hages₂).trans ⟨rfl, rfl, id⟩, h⟩
    · exact ⟨{ g₂ with keeper := none }, (hages.trans hages₂).trans ⟨rfl, rfl, id⟩, h⟩

/-- What a generation is that has been started. -/
def Started (g : WorkerGeneration) (w : World ι) : Prop :=
  g.fenced = false ∧ (∃ workerIp now, Stored (g.record "active" workerIp now) w) ∧
    (g.isolated → (∃ pid, g.keeper = some pid) ∧ Led g w)

/-- `start`. -/
theorem start_triple (hfenced : g.fenced = false) (patience : Nat) :
    (guardianDiscipline i).Triple (Mine i g) (start patience) (fun _ => Aged i g Started)
      fun _ => Aged i g fun _ _ => True := by
  have hquiet : ∀ {α : Type} {p : Prog α}, (p.Issues fun r => r.quiet = true) →
      (guardianDiscipline i).Triple (Mine i g) p (fun _ w => Mine i g w)
        fun _ => Aged i g fun _ _ => True :=
    fun hp => (quiet_triple modest_true hp).mono (fun _ _ h => ⟨h, trivial⟩) (fun _ _ _ h => h.1)
      fun _ _ _ h => ⟨g, .refl g, h⟩
  refine (this_triple modest_true ?_).pre fun _ _ h => ⟨h, trivial⟩
  refine .ite (fun hdisabled => ?_) fun _ => ?_
  · refine (persist_triple modest_true "active").mono (fun _ _ h => h) (fun _ _ _ h => ?_)
      fun _ _ _ h => ⟨g, .refl g, h⟩
    have hplain : ¬ g.isolated := by
      rw [WorkerGeneration.isolated, hdisabled]
      decide
    exact ⟨g, .refl g, h.1, hfenced, h.2.2, fun h => absurd h hplain⟩
  refine Discipline.Triple.pre (P := Mine i g) ?_ fun _ _ h => h.1
  refine .bind (M := fun _ w => g.isolated ∧ Mine i g w) (.raiseIf (fun _ _ _ h => ⟨g, .refl g, h, trivial⟩)
    fun hisolated _ _ h => ⟨by simpa using hisolated, h⟩) fun _ => .assume fun hisolated => ?_
  refine .bind (hquiet (quiet_perform rfl)) fun _ => ?_
  refine .bind ((startKeeper_triple hfenced hisolated).mono (fun _ _ h => h) (fun _ _ _ h => h)
    fun _ _ _ h => ⟨g, .refl g, h, trivial⟩) fun (pid : Nat) => ?_
  refine .bind (update_triple (modest_keeper g.token pid) fun w hw hg hpid =>
    revises_of_inv hw hg rfl rfl rfl fun other hother => ?_) fun _ => ?_
  · obtain rfl : pid = other := by simpa using hother
    exact hpid
  -- from here on the object has its keeper
  refine Discipline.Triple.mono (P := Mine i { g with keeper := some pid })
    (Q := fun _ => Aged i { g with keeper := some pid } Started)
    (E := fun _ => Aged i { g with keeper := some pid } fun _ _ => True) ?_ (fun _ _ h => h.1)
    (fun _ _ _ h => h.of_ages ⟨rfl, rfl, id⟩)
    fun _ _ _ h => h.of_ages ⟨rfl, rfl, id⟩
  refine .bind (waitKeeper_triple pid patience) fun _ => ?_
  have hnew : ({ g with keeper := some pid } : WorkerGeneration).fenced = false := hfenced
  refine .bind (setup_triple hnew patience) fun _ => .exists_pre fun proxy => ?_
  refine (persist_triple modest_led "active").mono (fun _ _ h => h) (fun _ _ _ h => ?_) fun _ _ _ h => ?_
  · exact ⟨{ g with keeper := some pid, dnsProxy := proxy }, ⟨rfl, rfl, id⟩, h.1, hfenced, h.2.2,
      fun _ => ⟨⟨pid, rfl⟩, h.2.1⟩⟩
  · exact ⟨{ g with keeper := some pid, dnsProxy := proxy }, ⟨rfl, rfl, id⟩, h.1, trivial⟩

/-! ## The guardian -/

/-- What leaves the lease alone. -/
theorem leads_triple {α : Type} {p : Prog α} (hp : p.Issues fun r => r.quiet = true) :
    (guardianDiscipline i).Triple (Leads i) p (fun _ => Leads i) fun _ => Leads i :=
  .of_issues stable_leads (fun _ _ hr _ h => ⟨.inr ⟨h, proper_of_quiet hr⟩,
    fun _ => (exec_quiet hr).1.lease.trans h⟩) hp

/-- A new object. -/
theorem construct_triple (generation : Nat) (settings : Settings) {E : Error → World ι → Prop} :
    (guardianDiscipline i).Triple (Leads i) (perform (.construct generation settings))
      (fun _ w => ∃ token, Mine i ⟨generation, token, settings, none, none, false, ""⟩ w) E := by
  have hconstruct : ∀ (c : Choice) (w : World ι), exec i (.construct generation settings) c w =
      (.ok (), { w.suffer c.happenings with
        nextToken := (w.suffer c.happenings).nextToken + 1
        object := Function.update (w.suffer c.happenings).object i
          (some ⟨generation, (w.suffer c.happenings).nextToken, settings, none, none, false, ""⟩) }) :=
    fun _ _ => rfl
  refine perform_triple stable_leads (fun _ _ h => .inr ⟨h, trivial⟩) (fun c w _ _ h _ => ?_)
    fun c w e _ _ he => ?_
  · rw [hconstruct]
    exact ⟨(w.suffer c.happenings).nextToken, (suffer_loses w c.happenings).1.lease.trans h, by simp⟩
  · rw [hconstruct] at he
    cases he

/-- `create`. A generation that has been created is the only one whose namespace can be connected. -/
theorem create_triple (settings : Settings) (patience : Nat) :
    (guardianDiscipline i).Triple (Leads i) (create settings patience)
      (fun _ w => ∃ g, g.settings = settings ∧ Mine i g w ∧ Started g w) fun _ => Leads i := by
  refine .bind (leads_triple (quiet_perform rfl)) fun (generation : Nat) => ?_
  refine .bind (construct_triple generation settings) fun _ => .exists_pre fun token => ?_
  refine .bind ((quiet_triple modest_true (quiet_perform rfl)).mono (fun _ _ h => ⟨h, trivial⟩)
    (fun _ _ _ h => h.1) fun _ _ _ h => h.1.1) fun _ => ?_
  refine (start_triple rfl patience).mono (fun _ _ h => h) (fun _ _ _ h => ?_) fun _ _ _ h => ?_
  · obtain ⟨g, hages, hmine, hstarted⟩ := h
    exact ⟨g, hages.settings, hmine, hstarted⟩
  · obtain ⟨g, -, hmine, -⟩ := h
    exact hmine.1

/-- `retire`. A generation that has been retired is cut off for good. -/
theorem retire_cuts_off :
    (guardianDiscipline i).Triple (Mine i g) retire
      (fun _ => Aged i g fun g' w => Retired g' w ∧ Dead g.token w) fun _ => Aged i g fun _ _ => True := by
  refine (retire_triple modest_true).mono (fun _ _ h => ⟨h, trivial⟩) (fun _ w hw h => ?_)
    fun _ _ _ h => h
  obtain ⟨g', hages, hmine, hretired, -⟩ := h
  exact ⟨g', hages, hmine, hretired, hages.token ▸ hw.dead hmine.2 hretired.1⟩

/-- No object is left, and the lease is kept. -/
def Bare (i : ι) (w : World ι) : Prop :=
  Leads i w ∧ w.object i = none

theorem forget_triple {E : Error → World ι → Prop} :
    (guardianDiscipline i).Triple (Leads i) forget (fun _ => Bare i) E := by
  have hassign : ∀ (c : Choice) (w : World ι), exec i (.assign none) c w =
      (.ok (), { w.suffer c.happenings with
        object := Function.update (w.suffer c.happenings).object i none }) := fun _ _ => rfl
  refine perform_triple stable_leads (fun _ _ h => .inr ⟨h, trivial⟩) (fun c w _ _ h _ => ?_)
    fun c w e _ _ he => ?_
  · rw [hassign]
    exact ⟨(suffer_loses w c.happenings).1.lease.trans h, by simp⟩
  · rw [hassign] at he
    cases he

/-- What leaves the lease and the object alone. -/
theorem bare_triple {α : Type} {p : Prog α} (hp : p.Issues fun r => r.quiet = true) :
    (guardianDiscipline i).Triple (Bare i) p (fun _ => Bare i) fun _ => Bare i :=
  .of_issues (fun w w' hw hw' hd h => ⟨stable_leads w w' hw hw' hd h.1, hd.object.trans h.2⟩)
    (fun _ _ hr _ h => ⟨.inr ⟨h.1, proper_of_quiet hr⟩, fun _ =>
      ⟨(exec_quiet hr).1.lease.trans h.1, by rw [(exec_quiet hr).2]; exact h.2⟩⟩) hp

/-- Look whether there is an object. -/
theorem object_triple {f : Option WorkerGeneration → Prog Unit} {Q : World ι → Prop}
    (hnone : (guardianDiscipline i).Triple (Bare i) (f none) (fun _ => Q) fun _ => Q)
    (hsome : ∀ g, (guardianDiscipline i).Triple (Mine i g) (f (some g)) (fun _ => Q) fun _ => Q) :
    (guardianDiscipline i).Triple (Leads i) ((perform .self).bind f) (fun _ => Q) fun _ => Q := by
  have hself : ∀ (c : Choice) (w : World ι), exec i .self c w =
      (.ok ((w.suffer c.happenings).object i), w.suffer c.happenings) := fun _ _ => by
    simp [exec, answer, Request.internal, result, takesEffect, effect]
  refine .bind (M := fun (object : Option WorkerGeneration) w => Leads i w ∧ w.object i = object)
    (perform_triple stable_leads (fun _ _ _ => .inl rfl) (fun c w a _ h ha => ?_)
      fun c w e _ _ he => ?_) fun object => ?_
  · rw [hself] at ha ⊢
    exact ⟨(suffer_loses w c.happenings).1.lease.trans h, Except.ok.inj ha⟩
  · rw [hself] at he
    cases he
  · cases object with
    | none => exact hnone
    | some g => exact hsome g

theorem retireCurrent_triple :
    (guardianDiscipline i).Triple (Mine i g) retireCurrent (fun _ => Bare i) fun _ => Bare i := by
  have hkept : ∀ (φ : WorkerGeneration → World ι → Prop) w, Aged i g φ w → Leads i w := by
    intro φ w h
    obtain ⟨g', -, hmine, -⟩ := h
    exact hmine.1
  refine .andFinally (M := fun _ => Leads i) (F := fun _ => Leads i) ?_ (fun _ => forget_triple)
    fun _ => forget_triple
  refine .catchWith ((retire_triple modest_true).mono (fun _ _ h => ⟨h, trivial⟩)
    (fun _ w _ h => hkept _ w h) fun _ _ _ h => h) fun e => .exists_pre fun g₁ => .assume fun _ => ?_
  exact (stopKeeper_triple modest_true).mono (fun _ _ h => ⟨h.1, trivial⟩) (fun _ _ _ h => h.1.1)
    fun _ _ _ h => h.1.1

/-- `_retire_generation`. No object is left, whatever fails. -/
theorem retireGeneration_triple :
    (guardianDiscipline i).Triple (Leads i) retireGeneration (fun _ => Bare i) fun _ => Bare i := by
  refine object_triple (.when (fun h => absurd h (by simp)) fun _ _ _ h => h) fun g => ?_
  exact .when (fun _ => retireCurrent_triple) fun h _ _ _ => absurd rfl h

omit [DecidableEq ι] in
theorem Started.loses {w w' : World ι} (h : Started g w) (hloses : Loses w w') : Started g w' := by
  obtain ⟨hfenced, ⟨workerIp, now, hstored⟩, hisolated⟩ := h
  refine ⟨hfenced, ⟨workerIp, now, ?_⟩, fun hg => ?_⟩
  · rw [Stored, hloses.records]
    exact hstored
  · exact ⟨(hisolated hg).1, modest_led w w' hloses.declines (hisolated hg).2⟩

/-- What leaves a generation that has been started as it is. -/
theorem started_triple {α : Type} {p : Prog α} (hp : p.Issues fun r => r.quiet = true) :
    (guardianDiscipline i).Triple (fun w => Mine i g w ∧ Started g w) p
      (fun _ w => Mine i g w ∧ Started g w) fun _ w => Mine i g w ∧ Started g w :=
  .of_issues (stable_lossy fun _ _ hloses h => h.loses hloses) (fun _ _ hr _ h =>
    ⟨.inr ⟨h.1.1, proper_of_quiet hr⟩, fun _ => ⟨h.1.quiet hr, h.2.loses (exec_quiet hr).1⟩⟩) hp

theorem stable_object (object : Option WorkerGeneration) :
    (guardianDiscipline i).Stable fun w => Leads i w ∧ w.object i = object :=
  fun w w' hw hw' hd h => ⟨stable_leads w w' hw hw' hd h.1, hd.object.trans h.2⟩

/-- `_ensure_no_lingering_processes`. -/
theorem ensureNoLingeringProcesses_triple (object : Option WorkerGeneration) :
    (guardianDiscipline i).Triple (fun w => Leads i w ∧ w.object i = object) ensureNoLingeringProcesses
      (fun _ w => Leads i w ∧ w.object i = object)
      fun e w => e = .lingering ∧ Leads i w ∧ w.object i = object := by
  have hfind : ∀ (c : Choice) (w : World ι), exec i .findLingering c w =
      (.ok c.refuses, w.suffer c.happenings) := fun _ _ => rfl
  refine .bind (M := fun _ w => Leads i w ∧ w.object i = object) (perform_triple (stable_object object)
    (fun w _ h => .inr ⟨h.1, trivial⟩) (fun c w a _ h _ => ?_) fun c w e _ _ he => ?_) fun alive => ?_
  · rw [hfind]
    obtain ⟨hloses, hobject⟩ := suffer_loses w c.happenings
    exact ⟨hloses.lease.trans h.1, by rw [hobject]; exact h.2⟩
  · rw [hfind] at he
    cases he
  · exact .raiseIf (fun _ _ _ h => ⟨rfl, h⟩) fun _ _ _ h => h

/-- A generation that has been created is the only one whose namespace can be connected. -/
def Connected (i : ι) (settings : Settings) (w : World ι) : Prop :=
  ∃ g, g.settings = settings ∧ Mine i g w ∧ Started g w

/-- `_begin_generation`. When it returns, the new generation is the only one whose namespace can be
connected. When it raises, processes linger and the object is the one that there was, or no object is
left, or the new generation is connected alone and only its start could not be recorded. -/
theorem begin_connects_alone (settings : Settings) (patience : Nat) (object : Option WorkerGeneration) :
    (guardianDiscipline i).Triple (fun w => Leads i w ∧ w.object i = object)
      (beginGeneration settings patience) (fun _ => Connected i settings)
      fun e w => Leads i w ∧
        ((e = .lingering ∧ w.object i = object) ∨ w.object i = none ∨ Connected i settings w) := by
  have hbare : ∀ (e : Error) (w : World ι), Bare i w → Leads i w ∧
      ((e = .lingering ∧ w.object i = object) ∨ w.object i = none ∨ Connected i settings w) :=
    fun _ _ h => ⟨h.1, .inr (.inl h.2)⟩
  refine .bind ((ensureNoLingeringProcesses_triple object).mono (fun _ _ h => h) (fun _ _ _ h => h)
    fun e w _ h => ⟨h.2.1, .inl ⟨h.1, h.2.2⟩⟩) fun _ => ?_
  refine .bind (retireGeneration_triple.mono (fun _ _ h => h.1) (fun _ _ _ h => h)
    fun e w _ h => hbare e w h) fun _ => ?_
  refine Discipline.Triple.pre (P := Leads i) ?_ fun _ _ h => h.1
  refine .bind (M := fun _ => Connected i settings) (.catchWith (create_triple settings patience) fun e =>
    .bind (.bind forget_triple fun _ => ?_) fun _ => .raise fun w _ h => hbare e w h) fun _ => ?_
  · exact bare_triple (quiet_perform rfl) |>.mono (fun _ _ h => h) (fun _ _ _ h => h)
      fun e w _ h => hbare e w h
  · refine .exists_pre fun g => .assume fun hsettings => ?_
    exact (started_triple (quiet_perform rfl)).mono (fun _ _ h => h)
      (fun _ _ _ h => ⟨g, hsettings, h.1, h.2⟩)
      fun e w _ h => ⟨h.1.1, .inr (.inr ⟨g, hsettings, h.1, h.2⟩)⟩

/-- Whatever a guardian does with its generations, it keeps the lease. -/
theorem order_triple (order : Order) :
    (guardianDiscipline i).Triple (Leads i) order.program (fun _ => Leads i) fun _ => Leads i := by
  have hbare : (guardianDiscipline i).Triple (Leads i) retireGeneration (fun _ => Leads i)
      fun _ => Leads i :=
    retireGeneration_triple.mono (fun _ _ h => h) (fun _ _ _ h => h.1) fun _ _ _ h => h.1
  cases order with
  | retire => exact hbare
  | fence reason =>
    refine object_triple (.when (fun h => absurd h (by simp)) fun _ _ _ h => h.1) fun g => ?_
    refine .when (fun _ => ?_) fun _ _ _ h => h.1
    refine (fence_triple modest_true reason).mono (fun _ _ h => ⟨h, trivial⟩) (fun _ _ _ h => ?_)
      fun _ _ _ h => ?_
    · obtain ⟨g', -, hmine, -⟩ := h
      exact hmine.1
    · obtain ⟨g', -, hmine, -⟩ := h
      exact hmine.1
  | begin settings patience =>
    have hquiet : ∀ {r : Request}, r.quiet = true →
        (guardianDiscipline i).Triple (Leads i) (perform r) (fun _ => Leads i) fun _ => Leads i :=
      fun hr => leads_triple (quiet_perform hr)
    refine .bind (M := fun _ => Leads i) (.bind (hquiet rfl) fun _ => .raiseIf (fun _ _ _ h => h)
      fun _ _ _ h => h) fun _ => ?_
    -- an object whose setup raises is forgotten before the exception goes on
    refine .bind hbare fun _ => .bind (.catchWith ((create_triple settings patience).post
      fun _ w _ h => ?_) fun e => .bind (.bind forget_triple fun _ => (hquiet rfl).pre fun _ _ h => h.1)
        fun _ => .raise fun _ _ h => h) fun _ => hquiet rfl
    obtain ⟨g, -, hmine, -⟩ := h
    exact hmine.1

/-- A request that needs no lease. -/
theorem free_triple {r : Request} (hr : r.free = true) :
    (guardianDiscipline i).Triple (fun _ => True) (perform r) (fun _ _ => True) fun _ _ => True :=
  perform_triple (.const True) (fun _ _ _ => .inl hr) (fun _ _ _ _ _ _ => trivial)
    fun _ _ _ _ _ _ => trivial

/-- `acquire`. -/
theorem acquire_triple (ft : Json.FloatText) (nodeName : String) (pid : Nat) (now : Json.Number) :
    (guardianDiscipline i).Triple (fun _ => True) (acquire ft nodeName pid now) (fun _ => Leads i)
      fun _ _ => True := by
  refine .bind (free_triple rfl) fun _ => .bind (free_triple rfl) fun _ => ?_
  refine .bind (M := fun (granted : Bool) w => granted = true → Leads i w) (perform_triple (.const True)
    (fun _ _ _ => .inl rfl) (fun c w a _ _ ha hgranted => ?_) fun _ _ _ _ _ _ => trivial)
    fun granted => .ite (fun hgranted => ?_) fun _ => ?_
  · cases hraises : c.raises with
    | true => simp [exec, answer, Request.internal, hraises] at ha
    | false =>
      have hfree : decide ((w.suffer c.happenings).lease = none) = a := by
        simpa [exec, answer, Request.internal, hraises, refusal, result] using ha
      have hnone : (w.suffer c.happenings).lease = none := of_decide_eq_true (hfree.trans hgranted)
      simp [exec, takesEffect, refusal, hraises, effect, hnone, Leads]
  · refine Discipline.Triple.pre (P := Leads i) ?_ fun _ _ h => h hgranted
    have hwrite : ∀ {r : Request}, r.quiet = true → (guardianDiscipline i).Triple (Leads i) (perform r)
        (fun _ => Leads i) fun _ _ => True :=
      fun hr => (leads_triple (quiet_perform hr)).mono (fun _ _ h => h) (fun _ _ _ h => h)
        fun _ _ _ _ => trivial
    exact .bind (hwrite rfl) fun _ => .bind (hwrite rfl) fun _ => hwrite rfl
  · refine Discipline.Triple.pre (P := fun _ => True) ?_ fun _ _ _ => trivial
    exact .bind (free_triple rfl) fun _ => .bind (free_triple rfl) fun _ => .raise fun _ _ h => h

theorem guardian_triple (ft : Json.FloatText) (nodeName : String) (pid : Nat) (now : Json.Number)
    (orders : List Order) :
    (guardianDiscipline i).Triple (fun _ => True) (guardian ft nodeName pid now orders)
      (fun _ _ => True) fun _ _ => True := by
  have hrelease : (guardianDiscipline i).Triple (fun _ => True) releaseLease (fun _ _ => True)
      fun _ _ => True :=
    .andFinally (free_triple rfl) (fun _ => free_triple rfl) fun _ => free_triple rfl
  refine .bind (acquire_triple ft nodeName pid now) fun _ => .andFinally (M := fun _ => Leads i)
    (F := fun _ => Leads i) ?_ (fun _ => hrelease.pre fun _ _ _ => trivial)
    fun _ => hrelease.pre fun _ _ _ => trivial
  refine .forEach (I := fun _ => Leads i) (fun order _ => ?_) orders
  exact .bind (M := fun _ => Leads i) (.attempt (order_triple order)) fun _ => .ret fun _ _ h => h

end StorageNode.Generation
