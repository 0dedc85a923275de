import StorageNode.Guardian.Acceptance

/-!
# Starting SeaweedFS

`startSeaweedWithIndexRecovery_serves`: SeaweedFS is started by a generation in service, and live index
files are repaired or rolled back only after every writer has stopped. Whatever the outcome of repair
and validation, a normal return leaves the generation in service with no target detached.
-/

set_option autoImplicit false

namespace StorageNode.Guardian

open StorageNode.Program StorageNode.FloatingPoint GuardProg

variable {cfg : Config} {stage : Stage} {g : Nat} {es : List Event} {w w' : World}
  {status : VolumeStatus}

/-! ## Pauses -/

/-- A pause leaves the generation as it is; it raises no exception about a status. -/
theorem watchRequests_serves : ∀ fuel : Nat,
    Guards cfg (Serving stage g es) (watchRequests fuel) (fun _ => Serving stage g es)
      fun e w => e.plain = true ∧ Serving stage g es w := by
  have hfirm := Firm.serving stage g es
  intro fuel
  induction fuel with
  | zero => exact .raise fun _ _ h => ⟨rfl, h⟩
  | succ fuel ih =>
      refine .bind (M := fun _ => Serving stage g es) ((guards_view hfirm).post fun _ _ _ h => h.2)
        fun s => .when (fun _ => ?_) fun _ _ _ h => h
      refine .bind (M := fun _ => Serving stage g es) (guards_ask hfirm (fun _ _ _ => trivial)
        fun _ _ _ h => h) fun poll => ?_
      cases poll with
      | failed => exact .raise fun _ _ h => ⟨rfl, h⟩
      | requested name =>
          refine .ite (fun _ => ?_) fun _ => ?_
          · -- an operator asks for another transport
            refine .bind (M := fun _ => Serving stage g es) (guards_ask hfirm (fun _ _ _ => trivial)
              fun c w _ h => h.quiet (r := .assign (.transport _)) rfl c) fun _ => ?_
            refine .bind (M := fun _ => Serving stage g es) (guards_ask hfirm
              (fun _ _ _ h => absurd h (by decide)) fun c w _ h =>
                h.quiet (r := .setHealth .suspect false) rfl c) fun _ => ?_
            exact .raise fun _ _ h => ⟨rfl, h⟩
          · refine .bind (M := fun _ => Serving stage g es) (guards_ask hfirm (fun _ _ _ => trivial)
              fun _ _ _ h => h) fun late => .when (fun _ => ?_) fun _ _ _ h => h
            exact .bind (M := fun _ => Serving stage g es) (guards_ask hfirm (fun _ _ _ => trivial)
              fun c w _ h => h.quiet (r := .sleep) rfl c) fun _ => ih

theorem interruptibleSleep_serves (fuel : Nat) :
    Guards cfg (Serving stage g es) (interruptibleSleep cfg fuel) (fun _ => Serving stage g es)
      fun e w => e.plain = true ∧ Serving stage g es w := by
  have hfirm := Firm.serving stage g es
  refine .bind (M := fun _ => Serving stage g es) ((guards_view hfirm).post fun _ _ _ h => h.2)
    fun s => .ite (fun _ => watchRequests_serves fuel) fun _ => ?_
  exact guards_ask hfirm (fun _ _ _ => trivial) fun c w _ h => h.quiet (r := .sleep) rfl c

/-! ## Waiting for a stable status -/

/-- A contract from every state in which the generation has proceeded. -/
theorem guards_proceeded {α : Type} {p : GuardProg α} {Q : α → World → Prop}
    (h : ∀ new, (∀ e ∈ new, e.detaches = false) →
      Guards cfg (Serving stage g (es ++ new)) p Q (Refused stage g es)) :
    Guards cfg (Proceeded stage g es) p Q (Refused stage g es) :=
  .exists_pre fun new => .assume fun hnew => h new hnew

theorem Proceeded.event {new : List Event} {e : Event} (hnew : ∀ e ∈ new, e.detaches = false)
    (he : e.detaches = false) (h : Serving stage g (es ++ new ++ [e]) w) : Proceeded stage g es w :=
  .extend hnew (.of_event he h)

/-- The loop of `_wait_for_stable_seaweed_volumes`, by induction on the samples that are left. -/
theorem awaitStableStatus_serves (deadline : Extended) : ∀ (fuel : Nat) (sample : Sample),
    Guards cfg (Proceeded .starting g es) (awaitStableStatus cfg deadline fuel sample)
      (fun _ => Proceeded .starting g es) (Refused .starting g es) := by
  intro fuel
  induction fuel with
  | zero =>
      intro sample
      rw [awaitStableStatus]
      exact .raise fun _ _ h => refused_of_plain rfl h.failed
  | succ fuel ih =>
      -- the end of an iteration without a stable status
      have hretry : ∀ sample, Guards cfg (Proceeded .starting g es)
          (retryStatus cfg deadline fuel (awaitStableStatus cfg deadline fuel sample))
          (fun _ => Proceeded .starting g es) (Refused .starting g es) := by
        intro sample
        refine guards_proceeded fun new hnew => .bind clock_serves fun now => ?_
        have hclock : ∀ e ∈ new ++ [.clock now], e.detaches = false := by
          intro e he
          rcases List.mem_append.1 he with he | he
          · exact hnew e he
          · exact List.mem_singleton.1 he ▸ rfl
        rw [List.append_assoc]
        refine .bind (M := fun _ => Serving .starting g (es ++ (new ++ [.clock now]))) (.raiseIf
          (fun _ _ _ h => refused_of_plain rfl h.failed) fun _ _ _ h => h) fun _ => ?_
        refine .bind (M := fun _ => Serving .starting g (es ++ (new ++ [.clock now])))
          ((interruptibleSleep_serves fuel).mono (fun _ _ h => h) (fun _ _ _ h => h)
            fun e w _ h => refused_of_plain h.1 h.2.failed) fun _ => ?_
        exact (ih sample).pre fun w _ h => ⟨_, hclock, h⟩
      intro sample
      rw [awaitStableStatus]
      refine guards_proceeded fun new hnew => ?_
      refine .bind stopRequested_serves fun stopping => ?_
      refine .bind (M := fun _ => Serving .starting g (es ++ new)) (.raiseIf
        (fun _ _ _ h => refused_of_plain rfl h.1) fun hgo _ _ h => h.2.2 (by simpa using hgo)) fun _ => ?_
      refine .bind inspect_serves fun answer => ?_
      cases answer with
      | none => exact (hretry {}).pre fun w _ h => ⟨new, hnew, h⟩
      | some status =>
          refine .bind (M := fun now w => Serving .starting g
            (es ++ (new ++ [.inspected status, .clock now])) w ∧ lastInspected w.log = some status)
            (guards_ask ((Firm.serving _ _ _).and (Firm.lastInspected _)) (fun _ _ _ => trivial)
              fun c w _ h => ⟨?_, h.2⟩) fun now => ?_
          · have hevent := h.1.event (reports_core (r := .clock) rfl c w).1 rfl rfl fun _ => by simp
            rwa [List.append_assoc, List.append_assoc] at hevent
          have hread : ∀ e ∈ new ++ [.inspected status, .clock now], e.detaches = false := by
            intro e he
            rcases List.mem_append.1 he with he | he
            · exact hnew e he
            · rcases List.mem_cons.1 he with rfl | he
              · rfl
              · exact List.mem_singleton.1 he ▸ rfl
          refine .ite (fun _ => ?_) fun _ => (hretry _).pre fun w _ h => ⟨_, hread, h.1⟩
          refine .bind (M := fun _ w => Serving .starting g
            (es ++ (new ++ [.inspected status, .clock now])) w ∧ lastInspected w.log = some status)
            (.raiseIf (fun _ _ _ h => refused_of_plain rfl h.1.failed) fun _ _ _ h => h) fun _ => ?_
          refine (acceptSeaweedVolumeStatus_serves .starting (by decide) (by decide) nofun).mono
            (fun _ _ h => h) (fun _ w _ h => ?_) fun e w _ h => h.extend hread
          refine .extend hread ⟨_, ?_, h.2⟩
          simp [Event.detaches]

theorem Proceeded.frame (h : Proceeded stage g es w) (hs : SameCore w w') (hlog : w'.log = w.log) :
    Proceeded stage g es w' := by
  obtain ⟨new, hnew, h⟩ := h
  exact ⟨new, hnew, h.frame hs hlog⟩

theorem Firm.proceeded : Firm (Proceeded stage g es) :=
  fun _ _ hm h => h.frame hm.sameCore hm.log

theorem Proceeded.quiet (h : Proceeded stage g es w) {r : GuardReq} (hr : r.quiet = true)
    (c : GuardChoice) : Proceeded stage g es (guardExec r c w).2 :=
  h.frame (quiet_core hr c w).1 (quiet_core hr c w).2

/-- A quiet request in the course of a generation. -/
theorem ask_proceeds {r : GuardReq} {E : GuardExc → World → Prop} (hr : r.quiet = true) :
    Guards cfg (Proceeded stage g es) (Prog.ask r) (fun _ => Proceeded stage g es) E :=
  guards_ask Firm.proceeded (fun w _ _ => permit_of_quiet hr w) fun c _ _ h => h.quiet hr c

theorem waitForStableSeaweedVolumes_serves (fuel : Nat) :
    Guards cfg (Proceeded .starting g es) (waitForStableSeaweedVolumes cfg fuel)
      (fun _ => Proceeded .starting g es) (Refused .starting g es) := by
  refine .when (fun _ => ?_) fun _ _ _ h => h
  refine .bind (M := fun _ => Proceeded .starting g es) (guards_proceeded fun new hnew =>
    clock_serves.post fun now w _ h => Proceeded.event hnew rfl h) fun now => ?_
  refine .bind (M := fun _ => Proceeded .starting g es)
    (.orRaise (fun _ _ _ h => refused_of_plain rfl h.failed) fun _ _ _ _ h => h) fun deadline => ?_
  refine .bind (ask_proceeds (r := .setHealth .verifyingSeaweedStatus false) rfl) fun _ => ?_
  exact awaitStableStatus_serves deadline fuel {}

theorem canary_proceeds {E : GuardExc → World → Prop}
    (hE : ∀ w, Proceeded stage g es w → E .canary w) :
    Guards cfg (Proceeded stage g es) (Prog.when cfg.s3CanaryEnabled runS3Canary)
      (fun _ => Proceeded stage g es) E := by
  refine .when (fun _ => ?_) fun _ _ _ h => h
  refine .exists_pre fun new => .assume fun hnew => ?_
  refine guards_must (guards_ask (Firm.serving _ _ _) (fun _ _ _ => trivial) fun c w _ h => ?_)
  have hcore := (reports_core (r := .canary) rfl c w).1
  simp only [guardExec, World.record] at hcore ⊢
  constructor
  · intro hok
    rw [if_pos hok] at hcore ⊢
    exact Proceeded.event hnew rfl (h.event hcore rfl rfl fun _ => by simp)
  · intro hbad
    rw [if_neg (by simp [hbad])]
    exact hE w ⟨new, hnew, h⟩

/-! ## Starting -/

/-- The processes of the generation are listed before any of them is started. -/
theorem Serving.list (h : Serving .offline g es w) {ps : List Proc} (hps : ∀ p ∈ ps, p.generation = g)
    (c : GuardChoice) : Serving .starting g es (guardExec (.assign (.processes ps)) c w).2 :=
  ⟨h.since.same rfl rfl rfl, h.others, h.sound, h.lingering, h.children, hps,
    fun _ => h.synced (by decide), fun _ => h.down (by decide),
    fun _ _ => h.armed (by decide) (by decide), fun hs => absurd rfl hs, h.unheeded⟩

theorem Serving.started (h : Serving stage g es w) (p : Proc) :
    Serving stage g (es ++ [.started p])
      { w with running := p :: w.running, log := .started p :: w.log } := by
  have hcore : SameCore w { w with log := .started p :: w.log } :=
    .of_eq rfl id rfl rfl rfl rfl rfl (Nat.le_refl _) rfl
  have hevent := h.event hcore rfl rfl fun _ => by simp
  exact ⟨hevent.since.same rfl rfl rfl, hevent.others, hevent.sound, hevent.lingering,
    hevent.children, hevent.processes, hevent.synced, hevent.down, hevent.armed, hevent.idle,
    hevent.unheeded⟩

/-- A listed process may be started: whatever runs is of the same generation. -/
theorem Serving.startable (h : Serving stage g es w) (hw : GuardInv cfg w) {p : Proc}
    (hp : p ∈ w.self.processes) : Startable p w where
  own := hp
  alone q hq := (h.processes q (h.mem_processes hw hq)).trans (h.processes p hp).symm
  helpers := h.helpersRunning hw
  fenced g' hg hne := h.others g' hg ((h.processes p hp) ▸ hne)

/-- The state of the loop in `_start_seaweed`. -/
def Launching (g : Nat) (es : List Event) (left : List Proc) (w : World) : Prop :=
  left ⊆ w.self.processes ∧ Proceeded .starting g es w

theorem Firm.launching (left : List Proc) : Firm (Launching g es left) := by
  rintro w w' hm ⟨hleft, h⟩
  refine ⟨?_, Firm.proceeded w w' hm h⟩
  rw [hm.self]
  exact hleft

theorem startProcess_serves (p : Proc) (left : List Proc) :
    Guards cfg (Launching g es (p :: left)) (must .os (start p)) (fun _ => Launching g es left)
      (Refused .starting g es) := by
  refine guards_must (guards_ask (Firm.launching _) (fun w hw h => ?_) fun c w _ h => ?_)
  · obtain ⟨new, -, hserving⟩ := h.2
    exact hserving.startable hw (h.1 List.mem_cons_self)
  · simp only [guardExec]
    constructor
    · intro hok
      obtain ⟨new, hnew, hserving⟩ := h.2
      rw [if_pos hok]
      exact ⟨(List.cons_subset.1 h.1).2, Proceeded.event hnew rfl (hserving.started p)⟩
    · intro hbad
      rw [if_neg (by simp [hbad])]
      exact refused_of_plain rfl h.2.failed

/-- `_start_seaweed`, with nothing running before. -/
theorem startSeaweed_serves (fuel : Nat) :
    Guards cfg (Serving .offline g es) (startSeaweed cfg fuel) (fun _ => Proceeded .starting g es)
      (Refused .starting g es) := by
  have hfirm := Firm.serving .offline g es
  refine .bind (M := fun _ => Serving .offline g es) (guards_ask hfirm
    (fun _ _ _ h => absurd h (by decide)) fun c w _ h =>
      h.quiet (r := .setHealth .startingSeaweed false) rfl c) fun _ => ?_
  refine .bind (M := fun answer w => (∀ ps, answer = some ps → ∀ p ∈ ps, p.generation = g) ∧
    Serving .offline g es w) (guards_ask hfirm (fun _ _ _ => trivial) fun c w _ h =>
      ⟨fun ps hps p hp => ?_, h.quiet (r := .buildProcesses) rfl c⟩) fun answer => ?_
  · -- the processes are built for the current generation
    simp only [guardExec, h.since.generation] at hps
    cases hok : c.ok with
    | false =>
        rw [hok] at hps
        exact absurd hps (by simp)
    | true =>
        rw [hok] at hps
        obtain rfl := Option.some.inj hps
        obtain ⟨n, -, rfl⟩ := List.mem_map.1 hp
        rfl
  refine .bind (M := fun ps w => (∀ p ∈ ps, p.generation = g) ∧ Serving .offline g es w) (.orRaise
    (fun _ w _ h => refused_of_plain rfl ⟨h.2.sound, fun _ => h.2.down (by decide)⟩)
    fun ps hps w _ h => ⟨h.1 ps hps, h.2⟩) fun ps => .assume fun hps => ?_
  refine .bind (M := fun _ => Launching g es ps) (guards_ask hfirm (fun w hw h p hp => ?_)
    fun c w _ h => ⟨List.Subset.refl _, (h.list hps c).proceeded⟩) fun _ => ?_
  · exact absurd hp (by simp [h.running hw (by decide) (by decide)])
  -- the loop over the processes keeps what was launched so far in the invariant
  refine .bind (.forEach (I := Launching g es) (fun p left => ?_) ps) fun _ => ?_
  · refine .bind (startProcess_serves p left) fun _ => ?_
    refine guards_must (guards_ask (Firm.launching _) (fun _ _ _ => trivial) fun c w _ h => ⟨fun _ => h,
      fun _ => refused_of_plain rfl h.2.failed⟩)
  refine .bind ((waitForStableSeaweedVolumes_serves fuel).pre fun _ _ h => h.2) fun _ => ?_
  exact canary_proceeds fun w h => refused_of_plain rfl h.failed

/-! ## Stopping all writers -/

/-- A generation whose processes are being stopped. -/
structure Halted (g : Nat) (es : List Event) (w : World) : Prop where
  since : Since g es w
  others : ∀ g', .created g' ∈ w.log → g' ≠ g → g' ∈ w.fenced
  sound : Sound w
  children : w.self.helperChildren = []
  synced : w.health.indexesCertified = w.history.indexesCertified
  down : Down w
  armed : w.self.indexRepair = true
  unheeded : w.heeded = false

theorem Serving.halted (h : Serving .starting g es w) : Halted g es w :=
  ⟨h.since, h.others, h.sound, h.children, h.synced (by decide), h.down (by decide),
    h.armed (by decide) (by decide), h.unheeded⟩

theorem Halted.failed (h : Halted g es w) : Failed .starting w :=
  ⟨h.sound, fun _ => h.down⟩

/-- Once nothing is listed, the generation is offline again. -/
theorem Halted.offline (h : Halted g es w) (hprocesses : w.self.processes = [])
    (hlingering : w.self.lingeringProcesses = []) : Serving .offline g es w where
  since := h.since
  others := h.others
  sound := h.sound
  lingering := hlingering
  children := h.children
  processes p hp := absurd hp (by simp [hprocesses])
  synced _ := h.synced
  down _ := h.down
  armed _ _ := h.armed
  idle _ _ := hprocesses
  unheeded := h.unheeded

theorem Halted.stopped (w w' : World) (hs : Stopped w w') (h : Halted g es w) : Halted g es w' where
  since := h.since.same hs.generation hs.fenced hs.log
  others g' hg hne := by
    rw [hs.fenced]
    exact h.others g' (hs.log ▸ hg) hne
  sound hf := h.sound (hs.log ▸ hf)
  children := hs.helperChildren.trans h.children
  synced := by rw [hs.certified, hs.history, h.synced]
  down := by
    have hdown := h.down
    rw [Down, ← Bool.not_eq_true] at hdown ⊢
    exact fun hr => hdown (hs.ready hr)
  armed := hs.repair.trans h.armed
  unheeded := hs.heeded.trans h.unheeded

theorem Firm.halted : Firm (Halted g es) := by
  intro w w' hm h
  have hs := hm.sameCore
  constructor
  · exact h.since.same hs.generation hs.fenced hm.log
  · intro g' hg hne
    rw [hs.fenced]
    exact h.others g' (hm.log ▸ hg) hne
  · exact fun hf => h.sound (hm.log ▸ hf)
  · exact hs.helperChildren.trans h.children
  · rw [hs.certified, hs.history, h.synced]
  · exact down_of_sameCore hs h.down
  · exact hs.repair h.armed
  · exact hs.heeded.trans h.unheeded

/-- All writers are stopped before live index files are touched. -/
theorem stopWriters_serves :
    Serves cfg .starting (Serving .starting g es) stopWriters fun _ => Serving .offline g es := by
  have hempty : Firm fun w => w.self.processes = [] ∧ Halted g es w :=
    (Firm.self (P := fun s => s.processes = []) fun _ _ h => h).and Firm.halted
  have hstop := guards_stops Firm.halted Halted.stopped
    (stopSeaweed_empties (E := Anything) : Guards cfg _ _ _ _) stopSeaweed_stops (F := Halted g es)
  refine .bind (M := fun _ w => w.self.processes = [] ∧ Halted g es w) (hstop.mono
    (fun _ _ h => ⟨trivial, h.halted⟩) (fun _ _ _ h => h) fun _ _ _ h => h.2.failed) fun stopped => ?_
  refine .bind (M := fun _ w => w.self.processes = [] ∧ Halted g es w) (.raiseIf
    (fun _ _ _ h => h.2.failed) fun _ _ _ h => h) fun _ => ?_
  refine (ensureNoLingeringProcesses_clears hempty fun w ps h => ⟨h.1, ?_⟩).mono (fun _ _ h => h)
    (fun _ _ _ h => h.2.2.offline h.2.1 h.1) fun _ _ _ h => h.2.failed
  exact ⟨h.2.since.same rfl rfl rfl, h.2.others, h.2.sound, h.2.children, h.2.synced, h.2.down,
    h.2.armed, h.2.unheeded⟩

theorem stopWriters_proceeds :
    Serves cfg .starting (Proceeded .starting g es) stopWriters fun _ => Proceeded .offline g es :=
  .exists_pre fun new => .assume fun hnew => stopWriters_serves.post fun _ _ _ h => ⟨new, hnew, h⟩

/-! ## Repair and validation -/

/-- Live index files are repaired with no writer left. -/
theorem repairDetected_proceeds (status : VolumeStatus) :
    Serves cfg .starting (Proceeded .offline g es) (repairDetected status)
      fun _ => Proceeded .offline g es := by
  refine .exists_pre fun new => .assume fun hnew => ?_
  refine .bind ((repair_serves (r := .repairDetected status) (fun w hw h => h.running hw (by decide)
    (by decide)) fun c w => ⟨c.pending, rfl⟩).mono (fun _ _ h => h) (fun _ w _ h => h)
    fun _ w _ h => (⟨h.sound, fun _ => h.down (by decide)⟩ : Failed .starting w)) fun answer => ?_
  refine (repairCall_serves fun w h => ?_).post fun _ _ _ h => ⟨new, hnew, h⟩
  exact ⟨h.sound, fun _ => h.down (by decide)⟩

theorem rollbackRejected_proceeds (ids : List Nat) :
    Serves cfg .starting (Proceeded .offline g es) (rollbackRejected ids)
      fun _ => Proceeded .offline g es := by
  refine .exists_pre fun new => .assume fun hnew => ?_
  refine .bind ((repair_serves (r := .rollbackRejected ids) (fun w hw h => h.running hw (by decide)
    (by decide)) fun c w => ⟨c.pending, rfl⟩).mono (fun _ _ h => h) (fun _ w _ h => h)
    fun _ w _ h => (⟨h.sound, fun _ => h.down (by decide)⟩ : Failed .starting w)) fun answer => ?_
  refine (repairCall_serves fun w h => ?_).post fun _ _ _ h => ⟨new, hnew, h⟩
  exact ⟨h.sound, fun _ => h.down (by decide)⟩

/-- What a validated status shows so far: no candidate is pending, and no unexpected volume is left
without one. -/
structure Validating (g : Nat) (es : List Event) (status : VolumeStatus) (rejected unresolved : Prop)
    (w : World) : Prop where
  proceeded : Proceeded .starting g es w
  inspected : lastInspected w.log = some status
  pending : ¬ rejected → w.pending = []
  resolved : ¬ rejected → ¬ unresolved → status.unexpectedIds = []

theorem Firm.validating (rejected unresolved : Prop) :
    Firm (Validating g es status rejected unresolved) :=
  fun w w' hm h => ⟨Firm.proceeded w w' hm h.proceeded, Firm.lastInspected _ w w' hm h.inspected,
    fun hr => Firm.pending w w' hm (h.pending hr), h.resolved⟩

theorem validateUpstream_validates :
    Serves cfg .starting (fun w => Proceeded .starting g es w ∧ lastInspected w.log = some status)
      (validateUpstream status) fun rejected => Validating g es status (rejected ≠ []) True := by
  refine .bind (M := fun answer w => (Proceeded .starting g es w ∧ lastInspected w.log = some status) ∧
    ∀ rejected, answer = some rejected → ¬ rejected ≠ [] → w.pending = [])
    (guards_ask (Firm.proceeded.and (Firm.lastInspected _)) (fun _ _ _ => trivial)
      fun c w _ h => ⟨⟨h.1.quiet (r := .validateUpstream status) rfl c, ?_⟩, ?_⟩) fun answer =>
    .orRaise (fun _ w _ h => h.1.1.failed) fun rejected hanswer w _ h =>
      ⟨h.1.1, h.1.2, h.2 rejected hanswer, fun _ hno => absurd trivial hno⟩
  · rw [(quiet_core (r := .validateUpstream status) rfl c w).2]
    exact h.2
  · intro rejected hrejected hnone
    simp only [guardExec] at hrejected ⊢
    cases hok : c.ok with
    | false =>
        rw [hok] at hrejected
        exact absurd hrejected (by simp)
    | true =>
        simp only [hok, ↓reduceIte] at hrejected ⊢
        obtain rfl := Option.some.inj hrejected
        exact Classical.not_not.1 hnone

theorem unresolvedUnexpected_validates {rejected : Prop} :
    Serves cfg .starting (Validating g es status rejected True) (unresolvedUnexpected status)
      fun unresolved => Validating g es status rejected (unresolved ≠ []) := by
  refine .bind (M := fun answer w => Validating g es status rejected True w ∧
    ∀ unresolved, answer = some unresolved → ¬ rejected → ¬ unresolved ≠ [] →
      status.unexpectedIds = [])
    (guards_ask (Firm.validating _ _) (fun _ _ _ => trivial) fun c w _ h => ⟨h, ?_⟩) fun answer =>
    .orRaise (fun _ w _ h => h.1.proceeded.failed) fun unresolved hanswer w _ h =>
      ⟨h.1.proceeded, h.1.inspected, h.1.pending, h.2 unresolved hanswer⟩
  intro unresolved hunresolved hrejected hnone
  simp only [guardExec, h.pending hrejected] at hunresolved
  cases hok : c.ok with
  | false =>
      rw [hok] at hunresolved
      exact absurd hunresolved (by simp)
  | true =>
      simp only [hok, ↓reduceIte] at hunresolved
      obtain rfl := Option.some.inj hunresolved
      simpa using hnone

/-- `_finish_index_validation`: a candidate that is not rejected certifies the indexes; otherwise all
writers are stopped before any rollback. -/
theorem finishIndexValidation_serves :
    Serves cfg .starting (fun w => Proceeded .starting g es w ∧ lastInspected w.log = some status)
      (finishIndexValidation cfg status) fun _ => Proceeded .starting g es := by
  refine .bind validateUpstream_validates fun rejected => ?_
  refine .bind unresolvedUnexpected_validates fun unresolved => ?_
  refine .bind (M := fun _ w => Proceeded .starting g es w ∧ lastInspected w.log = some status ∧
    status.unexpectedIds = [] ∧ w.pending = []) (.when (fun _ => ?_) fun hnone w _ h => ?_) fun _ => ?_
  · refine .bind (stopWriters_proceeds.pre fun _ _ h => h.proceeded) fun _ => ?_
    refine .bind (M := fun _ => Proceeded .offline g es) (.when
      (fun _ => rollbackRejected_proceeds rejected) fun _ _ _ h => h) fun _ => ?_
    refine .raise fun w _ h => ?_
    exact ⟨h.failed.sound, fun _ => h.failed.down (by decide)⟩
  · have hrejected : ¬ rejected ≠ [] := fun hr => hnone (.inl hr)
    have hunresolved : ¬ unresolved ≠ [] := fun hu => hnone (.inr hu)
    exact ⟨h.proceeded, h.inspected, h.resolved hrejected hunresolved, h.pending hrejected⟩
  · refine .bind (M := fun _ => Proceeded .starting g es) ?_ fun _ => canary_proceeds fun w h => h.failed
    rintro w hw ⟨⟨new, hnew, hserving⟩, hlast, hclean, hpending⟩
    have hcertify : Guards cfg (Accepting .starting g (es ++ new) status)
        (certifyIndexesFromResult status) (fun _ => Serving .starting g (es ++ new ++ [.accepted status]))
        fun e w => e = .os ∧ Failed .starting w :=
      certifyIndexesFromResult_serves (by decide) nofun
    refine (hcertify.mono (fun _ _ h => h) (fun _ w _ h => ?_) fun _ _ _ h => h.2) w hw
      ⟨hserving, hlast, hclean, hpending⟩
    exact Proceeded.event hnew rfl h

/-- What is left after an attempt to start SeaweedFS. -/
def Attempted (g : Nat) (es : List Event) (outcome : Except GuardExc Unit) (w : World) : Prop :=
  match outcome with
  | .ok () => Proceeded .starting g es w
  | .error e => Refused .starting g es e w

theorem attemptStart_serves (fuel : Nat) :
    Serves cfg .starting (Serving .offline g es) (startSeaweed cfg fuel).attempt (Attempted g es) :=
  .attempt (startSeaweed_serves fuel)

theorem repairAndRestart_serves (fuel : Nat) (status : VolumeStatus) :
    Serves cfg .starting (Proceeded .starting g es) (repairAndRestart cfg fuel status)
      fun _ => Proceeded .starting g es := by
  refine .bind (M := fun _ => Proceeded .starting g es) ((guards_view Firm.proceeded).post
    fun _ _ _ h => h.2) fun s => ?_
  refine .bind (M := fun _ => Proceeded .starting g es) (.raiseIf (fun _ _ _ h => h.failed)
    fun _ _ _ h => h) fun _ => ?_
  refine .bind (ask_proceeds (r := .setHealth .repairingIndexes false) rfl) fun _ => ?_
  refine .bind stopWriters_proceeds fun _ => ?_
  refine .bind (repairDetected_proceeds status) fun _ => ?_
  refine .exists_pre fun new => .assume fun hnew => ?_
  refine .bind (attemptStart_serves fuel) fun outcome => ?_
  cases outcome with
  | ok _ => exact .raise fun w _ h => h.failed
  | error e =>
      cases e with
      | validationRequired status =>
          refine finishIndexValidation_serves.mono (fun w _ h => h.validation status rfl)
            (fun _ _ _ h => h.extend hnew) fun _ _ _ h => h
      | _ => exact .raise fun w _ h => h.failed

/-- `_start_seaweed_with_index_recovery`. -/
theorem startSeaweedWithIndexRecovery_serves (fuel : Nat) :
    Serves cfg .starting (Serving .offline g es) (startSeaweedWithIndexRecovery cfg fuel)
      fun _ => Proceeded .starting g es := by
  refine .bind (attemptStart_serves fuel) fun outcome => ?_
  cases outcome with
  | ok _ => exact .ret fun _ _ h => h
  | error e =>
      cases e with
      | validationRequired status =>
          exact finishIndexValidation_serves.pre fun w _ h => h.validation status rfl
      | unexpectedReadonly status =>
          exact (repairAndRestart_serves fuel status).pre fun w _ h => h.readonly status rfl
      | _ => exact .raise fun w _ h => h.failed

end StorageNode.Guardian
