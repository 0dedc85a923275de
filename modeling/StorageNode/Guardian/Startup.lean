import StorageNode.Guardian.Serving

/-!
# The beginning of a generation

`beginGeneration_enters`: a generation is created only when nothing of an earlier one is left, and
while no fence in service has failed. `mountAndEnrollTargets_mounts`: its targets are then mounted and
prepared, after any startup verification of transports. `prepareIndexRepairOffline_serves`: the repair
controller prepares while nothing runs.
-/

set_option autoImplicit false

namespace StorageNode.Guardian

open StorageNode.Program GuardProg

variable {cfg : Config} {g : Nat} {w w' : World}

/-! ## Creation -/

theorem Closed.aborted {G : Option Nat} (h : Closed G False w) : Failed .entering w :=
  ⟨h.failed, fun _ => h.down⟩

/-- No generation, no process, and the last stop check saw no stop request. -/
structure Fresh (w : World) : Prop extends Closed none False w where
  unheeded : w.heeded = false

theorem Framed.fresh : Framed Fresh where
  firm w w' hm h := ⟨(Framed.closed none False).firm w w' hm h.toClosed, hm.heeded.trans h.unheeded⟩
  detached w w' hd h :=
    ⟨(Framed.closed none False).detached w w' hd h.toClosed, hd.heeded.trans h.unheeded⟩
  down _ h := h.down

theorem Fresh.quiet (h : Fresh w) {r : GuardReq} (hr : r.quiet = true) (c : GuardChoice) :
    Fresh (guardExec r c w).2 :=
  ⟨h.toClosed.quiet hr c, (quiet_core hr c w).1.heeded.trans h.unheeded⟩

/-- The process list of a fresh start may be written. -/
theorem Fresh.lingering (h : Fresh w) (ps : List Proc) :
    Fresh { w with self := { w.self with lingeringProcesses := ps } } :=
  ⟨⟨⟨h.down, h.generation, h.failed⟩, h.processes⟩, h.unheeded⟩

/-- Nothing of an earlier generation is left. -/
structure Cleared (w : World) : Prop extends Fresh w where
  lingering : w.self.lingeringProcesses = []
  children : w.self.helperChildren = []

theorem Cleared.frame (h : Cleared w) (hs : SameCore w w') (hlog : w'.log = w.log) : Cleared w' :=
  ⟨⟨h.toClosed.frame hs fun hf => hlog ▸ hf, hs.heeded.trans h.unheeded⟩,
    hs.lingering.trans h.lingering, hs.helperChildren.trans h.children⟩

theorem Firm.cleared : Firm Cleared :=
  fun _ _ hm h => h.frame hm.sameCore hm.log

theorem Cleared.quiet (h : Cleared w) {r : GuardReq} (hr : r.quiet = true) (c : GuardChoice) :
    Cleared (guardExec r c w).2 :=
  h.frame (quiet_core hr c w).1 (quiet_core hr c w).2

/-- An allocated generation that is not current yet. -/
structure Allocated (g : Nat) (w : World) : Prop extends Cleared w where
  serial : g < w.nextSerial
  unfenced : g ∉ w.fenced

theorem Allocated.frame (h : Allocated g w) (hs : SameCore w w') (hlog : w'.log = w.log) :
    Allocated g w' :=
  ⟨h.toCleared.frame hs hlog, Nat.lt_of_lt_of_le h.serial hs.nextSerial, hs.fenced ▸ h.unfenced⟩

theorem Firm.allocated (g : Nat) : Firm (Allocated g) :=
  fun _ _ hm h => h.frame hm.sameCore hm.log

theorem allocated_quiet {α : Type} {p : GuardProg α} (hp : p.Issues fun r => r.quiet = true) :
    Serves cfg .entering (Allocated g) p fun _ => Allocated g :=
  (guards_quiet (Firm.allocated g) (fun _ c w hr h => h.frame (quiet_core hr c w).1
    (quiet_core hr c w).2) hp).mono (fun _ _ h => h) (fun _ _ _ h => h)
    fun _ _ _ h => h.toClosed.aborted

theorem failed_quiet {stage : Stage} {α : Type} {p : GuardProg α}
    (hp : p.Issues fun r => r.quiet = true) :
    Serves cfg stage (Failed stage) p fun _ => Failed stage :=
  guards_quiet (Firm.failed stage) (fun _ c _ hr h => h.quiet hr c) hp

theorem Failed.event {stage : Stage} (h : Failed stage w) {e : Event} (hlog : w'.log = e :: w.log)
    (hready : w'.health.ready = w.health.ready) (he : ∀ g, e ≠ .fenceFailed g false) :
    Failed stage w' := by
  constructor
  · rintro ⟨g, hg⟩
    rw [hlog] at hg
    rcases List.mem_cons.1 hg with heq | hg
    · exact he g heq.symm
    · exact h.sound ⟨g, hg⟩
  · intro hstage
    rw [Down, hready]
    exact h.down hstage

/-- The fence of a generation whose setup failed; its failure is not that of a fence in service. -/
theorem fence_setup (g : Nat) :
    Serves cfg .entering (fun w => Failed .entering w ∧ g < w.nextSerial) (fence g true)
      fun _ => Failed .entering := by
  have hfirm := (Firm.failed .entering).and (Firm.nextSerial g)
  refine .bind (M := fun _ w => Failed .entering w ∧ g < w.nextSerial)
    (guards_ask hfirm (fun _ _ _ => trivial) fun _ _ _ h => h) fun fenced => ?_
  refine .when (fun _ => ?_) fun _ _ _ h => h.1
  refine .bind (M := fun _ w => Failed .entering w ∧ g < w.nextSerial) (guards_ask hfirm
    (fun w _ h => h.1.down (by decide)) fun c w _ h => ?_) fun remains => ?_
  · simp only [guardExec, World.record]
    split
    · exact ⟨h.1.event rfl rfl fun _ => by simp, h.2⟩
    · exact h
  refine .bind (M := fun _ w => Failed .entering w ∧ g < w.nextSerial) (.raiseIf
    (fun _ _ _ h => h.1) fun _ _ _ h => h) fun _ => ?_
  refine .bind (M := fun _ => Failed .entering) (guards_ask hfirm
    (fun w _ h => ⟨h.1.down (by decide), h.2⟩) fun c w _ h => ?_) fun _ => ?_
  · exact h.1.event rfl rfl fun _ => by simp
  · exact failed_quiet (issues_must _ ((Prog.issues_ask _).2 rfl))

theorem startGeneration_allocates (g : Nat) :
    Serves cfg .entering (Allocated g) (startGeneration g) fun _ => Allocated g := by
  refine .bind (allocated_quiet (issues_must _ ((Prog.issues_ask _).2 rfl))) fun _ => ?_
  refine .bind (allocated_quiet ((Prog.issues_ask _).2 rfl)) fun configured => ?_
  refine .bind (M := fun _ => Allocated g) (.when (fun _ => ?_) fun _ _ _ h => h) fun _ =>
    allocated_quiet (issues_must _ ((Prog.issues_ask _).2 rfl))
  -- a failed setup fences the namespace and raises
  refine .bind ((fence_setup g).pre fun w _ h => ⟨h.toClosed.aborted, h.serial⟩) fun _ => ?_
  refine .bind (failed_quiet ((Prog.issues_ask _).2 rfl)) fun _ => .raise fun _ _ h => h

theorem createGeneration_allocates :
    Serves cfg .entering Cleared createGeneration Allocated := by
  refine .bind (M := fun answer w => answer.elim (Failed .entering w) (Allocated · w))
    (guards_ask Firm.cleared (fun w _ h => ⟨h.down, h.failed⟩) fun c w hw h => ?_) fun answer => ?_
  · simp only [guardExec]
    by_cases hok : c.ok = true
    · have hcore : SameCore w { w with
          self := { w.self with allocated := true }, nextSerial := w.nextSerial + 1 } :=
        .of_eq rfl id rfl rfl rfl rfl rfl (Nat.le_succ _) rfl
      rw [if_pos hok]
      exact ⟨h.frame hcore rfl, Nat.lt_succ_self _, fun hmem => Nat.lt_irrefl _ (hw.fresh _ hmem)⟩
    · rw [if_neg hok]
      exact h.toClosed.aborted
  · refine .bind (M := Allocated) (.orRaise (fun hnone w _ h => ?_) fun g hsome w _ h => ?_) fun g => ?_
    · rwa [hnone] at h
    · rwa [hsome] at h
    · refine .bind (allocated_quiet (issues_must _ ((Prog.issues_ask _).2 rfl))) fun _ => ?_
      exact .bind (startGeneration_allocates g) fun _ => .ret fun _ _ h => h

theorem Failed.finishActive {stage : Stage} (h : Failed stage w) (cleanShutdown : Bool) :
    Failed stage (w.finishActive cleanShutdown) := by
  unfold World.finishActive
  split
  · exact h.event rfl rfl fun _ => by simp
  · exact h

theorem recordFailedCreation_failed :
    Serves cfg .entering (Failed .entering) recordFailedCreation fun _ => Failed .entering := by
  have hfirm := Firm.failed .entering
  refine .bind (M := fun _ => Failed .entering) ((guards_view hfirm).post fun _ _ _ h => h.2)
    fun s => .when (fun _ => ?_) fun _ _ _ h => h
  refine .bind (M := fun _ => Failed .entering) (guards_must (guards_ask hfirm (fun _ _ _ => trivial)
    fun c w _ h => ?_)) fun _ => ?_
  · have hfinish := h.finishActive false
    exact ⟨fun _ => ⟨hfinish.sound, hfinish.down⟩, fun _ => ⟨hfinish.sound, hfinish.down⟩⟩
  refine .bind (M := fun _ => Failed .entering) (guards_must (guards_ask hfirm (fun _ _ _ => trivial)
    fun c w _ h => ⟨fun _ => h.finishActive false, fun _ => h.finishActive false⟩)) fun _ => ?_
  exact guards_ask hfirm (fun _ _ _ => trivial) fun c w _ h => ⟨h.sound, h.down⟩

/-- A generation without any process yet, in its first stage. -/
def Entering (g : Nat) (w : World) : Prop :=
  ∃ es, (∀ e ∈ es, e.starts = false) ∧ Serving .entering g es w

/-- The new generation becomes the current one. -/
theorem Allocated.create (h : Allocated g w) (hw : GuardInv cfg w) (c : GuardChoice) :
    Serving .creating g [] (guardExec (.assign (.generation (some g))) c w).2 where
  since := ⟨rfl, h.unfenced, ⟨w.log, rfl⟩, by simp⟩
  others g' hg hne := by
    rcases List.mem_cons.1 hg with heq | hg
    · exact absurd (by simpa using heq) hne
    · rcases hw.generations g' hg with hfenced | hcurrent | hfailed
      · exact hfenced
      · exact absurd (h.generation.symm.trans hcurrent) (by simp)
      · exact absurd hfailed h.failed
  sound := by
    rintro ⟨g', hg'⟩
    exact h.failed ⟨g', by simpa [guardExec, Assignment.events] using hg'⟩
  lingering := h.lingering
  children := h.children
  processes p hp := absurd hp (by simp [guardExec, Assignment.apply, h.processes])
  synced hc := absurd rfl hc
  down _ := h.down
  armed hc := absurd rfl hc
  idle _ _ := h.processes
  unheeded := h.unheeded

/-- The history may record the end of an earlier generation first. -/
theorem Serving.historyStart (h : Serving .creating g [] w) (ok : Bool) :
    ∃ es, (∀ e ∈ es, e.starts = false) ∧
      Serving .creating g es (guardExec .historyStart { ok := ok } w).2 := by
  simp only [guardExec, World.finishActive]
  split
  · refine ⟨[.finished false w.health.orphanDeletionSafe], by simp [Event.starts], ?_⟩
    constructor
    · exact h.since.extend rfl rfl rfl rfl
    · intro g' hg hne
      exact h.others g' (by simpa using hg) hne
    · rintro ⟨g', hg'⟩
      exact h.sound ⟨g', by simpa using hg'⟩
    · exact h.lingering
    · exact h.children
    · exact h.processes
    · exact fun hc => absurd rfl hc
    · exact h.down
    · exact fun hc => absurd rfl hc
    · exact h.idle
    · exact h.unheeded
  · exact ⟨[], by simp, h.since.same rfl rfl rfl, h.others, h.sound, h.lingering, h.children, h.processes,
      fun hc => absurd rfl hc, h.down, fun hc => absurd rfl hc, h.idle, h.unheeded⟩

/-- The published history is the recorded one again. -/
theorem Serving.publishHistory {es : List Event} (h : Serving .creating g es w) :
    Serving .entering g es { w with
      health := { w.health with indexesCertified := w.history.indexesCertified } } :=
  ⟨h.since.same rfl rfl rfl, h.others, h.sound, h.lingering, h.children, h.processes, fun _ => rfl,
    fun _ => h.down (by decide), fun _ he => absurd rfl he, fun _ _ => h.idle (by decide) (by decide),
    h.unheeded⟩

theorem beginGenerationBase_enters :
    Serves cfg .entering (fun w => Fresh w ∧ w.self.helperChildren = []) beginGenerationBase
      fun _ w => ∃ g, Entering g w := by
  have hfirm : Firm fun w => Fresh w ∧ w.self.helperChildren = [] :=
    Framed.fresh.firm.and (Firm.self (P := fun s => s.helperChildren = []) fun _ _ h => h)
  refine .bind ((ensureNoLingeringProcesses_clears hfirm fun w ps h => ⟨h.1.lingering ps, h.2⟩).mono
    (fun _ _ h => h) (fun _ w _ h => (⟨h.2.1, h.1, h.2.2⟩ : Cleared w))
    fun _ _ _ h => h.1.toClosed.aborted) fun _ => ?_
  refine .bind (M := fun s w => s.generation = none ∧ Cleared w) ((guards_view Firm.cleared).post
    fun s w _ h => ⟨?_, h.2⟩) fun s => .assume fun hnone => ?_
  · rw [← h.2.generation, h.1.self]
  refine .bind (M := fun _ => Cleared) (.when (fun hsome => ?_) fun _ _ _ h => h) fun _ => ?_
  · exact absurd hsome (by simp [hnone])
  refine .bind (M := fun _ => Cleared) (guards_ask Firm.cleared (fun _ _ _ h => absurd h (by decide))
    fun c w _ h => h.quiet (r := .setHealth .creatingGeneration false) rfl c) fun _ => ?_
  refine .bind (.catchWith createGeneration_allocates fun e => .ite (fun _ => ?_) fun _ =>
    .raise fun _ _ h => h) fun g => ?_
  · exact .bind recordFailedCreation_failed fun _ => .raise fun _ _ h => h
  refine .bind (M := fun _ => Serving .creating g []) (guards_ask (Firm.allocated g)
    (fun w _ h => ⟨h.down, h.failed, h.generation, h.serial, h.unfenced⟩)
    fun c w hw h => h.create hw c) fun _ => ?_
  refine .bind (M := fun _ w => ∃ es, (∀ e ∈ es, e.starts = false) ∧ Serving .creating g es w)
    (guards_must (guards_ask (Firm.serving _ _ _) (fun _ _ _ => trivial) fun c w _ h => ?_)) fun _ => ?_
  · obtain ⟨es, hes, hserving⟩ := h.historyStart c.ok
    exact ⟨fun _ => ⟨es, hes, hserving⟩, fun _ => ⟨hserving.sound, fun _ => hserving.down (by decide)⟩⟩
  · refine .exists_pre fun es => guards_ask (Firm.and (.const _) (Firm.serving _ _ _))
      (fun _ _ _ => trivial) fun c w _ h => ?_
    exact ⟨g, es, h.1, h.2.publishHistory⟩

/-! ## Transports -/

theorem publishTransport_quiet : (publishTransport cfg).Issues fun r => r.quiet = true := by
  unfold publishTransport
  split
  · exact Prog.issues_ret _
  · exact issues_must _ ((Prog.issues_ask _).2 rfl)

theorem chooseTransport_quiet : (chooseTransport cfg).Issues fun r => r.quiet = true := by
  unfold chooseTransport
  split
  · exact Prog.Issues.bind ((Prog.issues_ask _).2 rfl) fun _ => (Prog.issues_ask _).2 rfl
  · refine Prog.Issues.bind ((Prog.issues_ask _).2 rfl) fun _ => ?_
    refine Prog.Issues.bind ((Prog.issues_ask _).2 rfl) fun selected => ?_
    refine Prog.Issues.bind (Prog.issues_orRaise _ _) fun name => ?_
    refine Prog.Issues.bind ((Prog.issues_ask _).2 rfl) fun _ => ?_
    refine Prog.Issues.bind ((Prog.issues_ask _).2 rfl) fun _ => ?_
    refine Prog.Issues.bind ?_ fun required => ?_
    · split
      · exact (Prog.issues_ask _).2 rfl
      · exact Prog.issues_ret _
    refine Prog.Issues.bind (Prog.issues_orRaise _ _) fun required => ?_
    exact Prog.Issues.bind ((Prog.issues_ask _).2 rfl) fun _ => (Prog.issues_ask _).2 rfl

theorem entering_quiet {α : Type} {p : GuardProg α} (hp : p.Issues fun r => r.quiet = true) :
    Serves cfg .entering (Entering g) p fun _ => Entering g :=
  .exists_pre fun es => .assume fun hes => (serves_quiet hp).post fun _ _ _ h => ⟨es, hes, h⟩

/-- `_begin_generation`: nothing of an earlier generation is left when a new one is created. -/
theorem beginGeneration_enters :
    Serves cfg .entering Fresh (beginGeneration cfg) fun _ w => ∃ g, Entering g w := by
  have hfirm := Framed.fresh.firm
  refine .bind (M := fun _ => Fresh) ((guards_view hfirm).post fun _ _ _ h => h.2) fun s => ?_
  refine .bind (M := fun _ => Fresh) (guards_ask hfirm (fun _ _ _ => trivial)
    fun c w _ h => h.quiet (r := .assign (.transport _)) rfl c) fun _ => ?_
  refine .bind ((ensureNoLingeringProcesses_clears hfirm fun w ps h => h.lingering ps).mono
    (fun _ _ h => h) (fun _ _ _ h => h.2) fun _ _ _ h => h.toClosed.aborted) fun _ => ?_
  refine .bind ((reapHelperChildren_framed .fresh).mono (fun _ _ h => h) (fun _ _ _ h => h)
    fun _ _ _ h => h.toClosed.aborted) fun _ => ?_
  refine .bind (guards_view hfirm) fun s => ?_
  refine .bind (M := fun _ w => Fresh w ∧ w.self.helperChildren = []) (.raiseIf
    (fun _ _ _ h => h.2.toClosed.aborted) fun hnone w _ h => ⟨h.2, ?_⟩) fun _ => ?_
  · rw [h.1.self]
    exact Classical.not_not.1 hnone
  -- choosing a transport leaves the children alone
  have hchildren : Firm fun w => w.self.helperChildren = [] :=
    Firm.self (P := fun s => s.helperChildren = []) fun _ _ h => h
  refine .bind ((guards_quiet (hfirm.and hchildren) (fun r c w hr h =>
    ⟨h.1.quiet hr c, (quiet_core hr c w).1.helperChildren.trans h.2⟩) chooseTransport_quiet).mono
    (fun _ _ h => h) (fun _ _ _ h => h) fun _ _ _ h => h.1.toClosed.aborted) fun _ => ?_
  refine .bind beginGenerationBase_enters fun _ => .exists_pre fun g => ?_
  exact (entering_quiet publishTransport_quiet).post fun _ _ _ h => ⟨g, h⟩

theorem runHelper_enters (op : HelperOp) (target : Option Target) (full : Bool) :
    Serves cfg .entering (Entering g) (runHelper cfg op target full) fun _ => Entering g := by
  refine .exists_pre fun es => .assume fun hes => ?_
  refine (runHelper_serves op target full fun _ => by decide).post fun _ w _ h => ⟨_, ?_, h⟩
  intro e he
  rcases List.mem_append.1 he with he | he
  · exact hes e he
  · exact List.mem_singleton.1 he ▸ rfl

theorem Framed.failed {stage : Stage} (hstage : stage ≠ .online) : Framed (Failed stage) where
  firm := .failed stage
  detached w w' hd h :=
    ⟨fun ⟨g, hg⟩ => h.sound ⟨g, hd.failures g false hg⟩,
      fun ho => Framed.of_down.detached w w' hd (h.down ho)⟩
  down _ h := h.down hstage

theorem verifyMounted_enters (target : Target) :
    Serves cfg .entering (Entering g) (verifyMounted cfg target) fun _ => Entering g :=
  .bind (runHelper_enters _ _ _) fun _ => .bind (runHelper_enters _ _ _) fun _ =>
    runHelper_enters _ _ _

/-- A transport under verification is detached again, whether or not the verification passed. -/
theorem verifyTransportOnStartup_enters (failover : Failover) (name : String) :
    Serves cfg .entering (Entering g) (verifyTransportOnStartup cfg failover name)
      fun _ => Entering g := by
  refine .bind (entering_quiet ((Prog.issues_ask _).2 rfl)) fun s => ?_
  refine .bind (entering_quiet ((Prog.issues_ask _).2 rfl)) fun _ => ?_
  refine .bind (entering_quiet ((Prog.issues_ask _).2 rfl)) fun _ => ?_
  refine .bind (entering_quiet publishTransport_quiet) fun _ => ?_
  refine .bind (M := fun verified w => match verified with
    | .ok _ => Entering g w
    | .error _ => Failed .entering w) (.attempt (verifyMounted_enters _)) fun verified => ?_
  cases verified with
  | ok _ =>
      refine .bind (M := fun detached w => match detached with
        | .ok _ => Entering g w
        | .error _ => Failed .entering w) (.attempt (runHelper_enters _ _ _)) fun detached => ?_
      cases detached with
      | ok _ => exact .ret fun _ _ h => h
      | error e => exact .raise fun _ _ h => h
  | error e =>
      refine .bind (M := fun _ => Failed .entering) (.attempt (unmount_framed (.failed (by decide)) _))
        fun _ => ?_
      exact .raise fun _ _ h => h

theorem verifyEach_enters (failover : Failover) :
    Serves cfg .entering (Entering g) (verifyEach cfg failover) fun _ => Entering g := by
  refine .bind (M := fun _ => Entering g) (.forEach (I := fun _ => Entering g) (fun name _ => ?_) _)
    fun _ => ?_
  · refine .bind (entering_quiet ((Prog.issues_ask _).2 rfl)) fun answer => ?_
    refine .bind (entering_quiet (Prog.issues_orRaise _ _)) fun quarantined => ?_
    exact .when (fun _ => verifyTransportOnStartup_enters failover name) fun _ _ _ h => h
  · refine entering_quiet (Prog.Issues.bind (issues_must _ ((Prog.issues_ask _).2 rfl)) fun _ => ?_)
    exact Prog.Issues.bind ((Prog.issues_ask _).2 rfl) fun _ => (Prog.issues_ask _).2 rfl

theorem verifyAllTransportsOnStartup_enters :
    Serves cfg .entering (Entering g) (verifyAllTransportsOnStartup cfg) fun _ => Entering g := by
  unfold verifyAllTransportsOnStartup
  split
  · exact .ret fun _ _ h => h
  · refine .bind (entering_quiet ((Prog.issues_ask _).2 rfl)) fun s => ?_
    refine .when (fun _ => ?_) fun _ _ _ h => h
    -- the `finally` block is quiet
    have hquiet : Prog.Issues (fun r => GuardReq.quiet r = true) (do
        let t := (← view).transport
        assign (.transport { t with verificationTransport := "" })
        publishTransport cfg : GuardProg Unit) := by
      refine Prog.Issues.bind ((Prog.issues_ask _).2 rfl) fun _ => ?_
      exact Prog.Issues.bind ((Prog.issues_ask _).2 rfl) fun _ => publishTransport_quiet
    refine .andFinally (M := fun _ => Entering g) (F := fun _ => Failed .entering)
      (verifyEach_enters _) (fun _ => entering_quiet hquiet) fun _ => failed_quiet hquiet

/-! ## Mounting -/

/-- All targets are mounted and prepared, and no process has been started. -/
def Mounted (cfg : Config) (g : Nat) (w : World) : Prop :=
  ∃ before, (∀ e ∈ before, e.starts = false) ∧
    Serving .entering g (before ++ enrolment cfg ++ [.helper .prepareLayout none false]) w

theorem mountAndEnrollTargets_mounts :
    Serves cfg .entering (Entering g) (mountAndEnrollTargets cfg) fun _ => Mounted cfg g := by
  refine .bind verifyAllTransportsOnStartup_enters fun _ => ?_
  refine .exists_pre fun before => .assume fun hbefore => ?_
  refine .bind ensureNoLingeringProcesses_serves fun _ => ?_
  refine .bind (serves_forEach (f := fun t =>
    [.helper .mount (some t) false, .helper .prepare (some t) false]) (fun t es => ?_) _ _) fun _ => ?_
  · refine .bind (runHelper_serves .mount (some t) false nofun) fun _ => ?_
    refine (runHelper_serves .prepare (some t) false nofun).post fun _ w _ h => ?_
    simpa [List.append_assoc] using h
  · exact (runHelper_serves .prepareLayout none false nofun).post fun _ w _ h => ⟨before, hbefore, h⟩

/-! ## The repair controller -/

theorem repairCall_serves {stage : Stage} {P : World → Prop} {answer : RepairAnswer}
    (hP : ∀ w, P w → Failed stage w) : Serves cfg stage P (repairCall answer) fun _ => P := by
  cases answer with
  | ok => exact .ret fun _ _ h => h
  | repairError => exact .raise fun w _ h => hP w h
  | manualIntervention => exact .raise fun w _ h => hP w h
  | os => exact .raise fun w _ h => hP w h

/-- An operation of the repair controller that changes nothing but the pending volumes. -/
theorem repair_serves {stage : Stage} {es : List Event} {r : GuardReq}
    (hpermit : ∀ w, GuardInv cfg w → Serving stage g es w → Permit cfg r w)
    (hr : ∀ c w, ∃ pending, (guardExec r c w).2 = { w with pending := pending }) :
    Serves cfg stage (Serving stage g es) (Prog.ask r) fun _ => Serving stage g es := by
  refine guards_ask (Firm.serving _ _ _) hpermit fun c w _ h => ?_
  obtain ⟨pending, heq⟩ := hr c w
  rw [heq]
  exact h.frame (.of_eq rfl id rfl rfl rfl rfl rfl (Nat.le_refl _) rfl) rfl

theorem prepareIndexRepairOffline_serves {es : List Event} :
    Serves cfg .offline (Serving .entering g es) prepareIndexRepairOffline
      fun _ => Serving .offline g es := by
  refine .bind (M := fun _ => Serving .offline g es) (guards_ask (Firm.serving _ _ _)
    (fun _ _ _ => trivial) fun c w _ h => ?_) fun _ => ?_
  · have hframe := h.quiet (r := .assign .indexRepair) rfl c
    exact ⟨hframe.since, hframe.others, hframe.sound, hframe.lingering, hframe.children,
      hframe.processes, fun _ => hframe.synced (by decide), fun _ => hframe.down (by decide),
      fun _ _ => rfl, fun _ _ => hframe.idle (by decide) (by decide), hframe.unheeded⟩
  · refine .bind (repair_serves (fun w hw h => h.running hw (by decide) (by decide))
      fun c w => ⟨c.pending, rfl⟩) fun answer => ?_
    exact repairCall_serves fun _ h => h.failed

end StorageNode.Guardian
