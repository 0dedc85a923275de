import StorageNode.Guardian.Seaweed
import StorageNode.Program.Machine

/-!
# Readiness

`stabilizeRecovery_serves`: a stabilization that returns leaves a window of exact rounds in the log.
With the enrolment and the probes before it this is the evidence of readiness, and `ONLINE` is
published under it. `serve_guards` and `mainLoop_guards` put the generations of a run in sequence:
whenever a generation is created, nothing of an earlier one is left.
-/

set_option autoImplicit false

namespace StorageNode.Guardian

open StorageNode.Program StorageNode.FloatingPoint GuardProg

variable {cfg : Config} {stage : Stage} {g : Nat} {es : List Event} {w w' : World}

/-! ## Stabilization -/

/-- The checks of one round, in order. -/
theorem stabilizeRound_serves :
    Serves cfg .starting (Serving .starting g es) (stabilizeRound cfg)
      fun _ w => ∃ check, StatusCheck cfg check ∧
        Serving .starting g (es ++ (probeRound cfg true ++ check ++ canaryCheck cfg)) w := by
  refine .bind (probeTargets_serves true) fun _ => ?_
  refine .bind (checkSeaweedVolumes_serves (by decide) (by decide)) fun _ => ?_
  refine .exists_pre fun check => .assume fun hcheck => .when (fun henabled => ?_)
    fun hdisabled w _ h => ⟨check, hcheck, ?_⟩
  · refine runS3Canary_serves.post fun _ w _ h => ⟨check, hcheck, ?_⟩
    rw [canaryCheck, if_pos henabled]
    simpa [List.append_assoc] using h
  · rw [canaryCheck, if_neg hdisabled]
    simpa [List.append_assoc] using h

/-- A stabilization window that has had some rounds. -/
def Stabilizing (cfg : Config) (g : Nat) (es : List Event) (opened : Float64) (rounds : Nat)
    (w : World) : Prop :=
  ∃ window last, Window cfg opened window rounds last ∧ Serving .starting g (es ++ window) w

/-- A stabilization window that is long enough. -/
structure Stabilized (cfg : Config) (g : Nat) (es : List Event) (w : World) : Prop where
  exists_window : ∃ opened window rounds last, Window cfg opened window rounds last ∧ 0 < rounds ∧
    cfg.recoverySuccessesRequired ≤ rounds ∧
    ((cfg.recoveryStabilitySeconds : ℚ) : Extended) ≤ last - opened ∧
    Serving .starting g (es ++ window) w

/-- The loop of `_stabilize_recovery`: between two rounds nothing is recorded. -/
theorem stabilizeLoop_serves (opened : Float64) : ∀ fuel rounds : Nat,
    Serves cfg .starting (Stabilizing cfg g es opened rounds) (stabilizeLoop cfg opened fuel rounds)
      fun _ => Stabilized cfg g es := by
  intro fuel
  induction fuel with
  | zero =>
      intro rounds
      refine .raise fun w _ h => ?_
      obtain ⟨_, _, _, h⟩ := h
      exact h.failed
  | succ fuel ih =>
      intro rounds
      refine .exists_pre fun window => .exists_pre fun last => .assume fun hwindow => ?_
      refine .bind stopRequested_serves fun stopping => ?_
      refine .bind (M := fun _ => Serving .starting g (es ++ window)) (.raiseIf
        (fun _ _ _ h => h.1) fun hgo _ _ h => h.2.2 (by simpa using hgo)) fun _ => ?_
      refine .bind stabilizeRound_serves fun _ => .exists_pre fun check => .assume fun hcheck => ?_
      refine .bind clock_serves fun now => ?_
      -- the round ends with this reading of the clock
      have hround := hwindow.round now hcheck
      have hlog : es ++ window ++ (probeRound cfg true ++ check ++ canaryCheck cfg) ++ [.clock now] =
          es ++ (window ++ (probeRound cfg true ++ check ++ canaryCheck cfg ++ [.clock now])) := by
        simp [List.append_assoc]
      rw [hlog]
      refine .ite (fun hdone => .ret fun w _ h => ?_) fun _ => ?_
      · exact ⟨opened, _, _, _, hround, Nat.succ_pos _, hdone.1, hdone.2, h⟩
      · refine .bind ((interruptibleSleep_serves fuel).mono (fun _ _ h => h) (fun _ _ _ h => h)
          fun _ _ _ h => h.2.failed) fun _ => ?_
        exact (ih (rounds + 1)).pre fun w _ h => ⟨_, _, hround, h⟩

theorem Stabilized.quiet (h : Stabilized cfg g es w) {r : GuardReq} (hr : r.quiet = true)
    (c : GuardChoice) : Stabilized cfg g es (guardExec r c w).2 := by
  obtain ⟨opened, window, rounds, last, hwindow, hpos, hrounds, htime, h⟩ := h.exists_window
  exact ⟨opened, window, rounds, last, hwindow, hpos, hrounds, htime, h.quiet hr c⟩

theorem Firm.stabilized : Firm (Stabilized cfg g es) := by
  intro w w' hm h
  obtain ⟨opened, window, rounds, last, hwindow, hpos, hrounds, htime, h⟩ := h.exists_window
  exact ⟨opened, window, rounds, last, hwindow, hpos, hrounds, htime, Firm.serving _ _ _ w w' hm h⟩

theorem Stabilized.unheeded (h : Stabilized cfg g es w) : w.heeded = false := by
  obtain ⟨_, _, _, _, _, _, _, _, h⟩ := h.exists_window
  exact h.unheeded

theorem Stabilized.failed (h : Stabilized cfg g es w) : Failed .starting w := by
  obtain ⟨_, _, _, _, _, _, _, _, h⟩ := h.exists_window
  exact h.failed

/-- `_stabilize_recovery`. -/
theorem stabilizeRecovery_serves (fuel : Nat) :
    Serves cfg .starting (Serving .starting g es) (stabilizeRecovery cfg fuel)
      fun _ => Stabilized cfg g es := by
  refine .bind clock_serves fun opened => ?_
  refine .bind (serves_ask (r := .setHealth .verifyingRecovery false) rfl) fun _ => ?_
  refine .bind ((stabilizeLoop_serves opened fuel 0).pre fun w _ h => ⟨_, _, .nil, h⟩) fun _ => ?_
  -- the rest records the success of the transport
  refine (guards_quiet Firm.stabilized (fun _ c _ hr h => h.quiet hr c) ?_).mono (fun _ _ h => h)
    (fun _ _ _ h => h) fun _ _ _ h => h.failed
  refine Prog.Issues.bind ((Prog.issues_ask _).2 rfl) fun s => Prog.Issues.when ?_
  refine Prog.Issues.bind (issues_must _ ((Prog.issues_ask _).2 rfl)) fun _ => ?_
  exact Prog.Issues.bind ((Prog.issues_ask _).2 rfl) fun _ => publishTransport_quiet

/-! ## Evidence -/

theorem StatusCheck.detaches {check : List Event} (h : StatusCheck cfg check) :
    ∀ e ∈ check, e.detaches = false := by
  cases h with
  | disabled => simp
  | accepted status => simp [acceptance, Event.detaches]

theorem canaryCheck_detaches : ∀ e ∈ canaryCheck cfg, e.detaches = false := by
  intro e he
  unfold canaryCheck at he
  split at he
  · exact List.mem_singleton.1 he ▸ rfl
  · exact absurd he (by simp)

theorem probeRound_detaches (full : Bool) : ∀ e ∈ probeRound cfg full, e.detaches = false := by
  intro e he
  obtain ⟨t, -, rfl⟩ := List.mem_map.1 he
  rfl

theorem probeRound_starts (full : Bool) : ∀ e ∈ probeRound cfg full, e.starts = false := by
  intro e he
  obtain ⟨t, -, rfl⟩ := List.mem_map.1 he
  rfl

theorem enrolment_starts : ∀ e ∈ enrolment cfg, e.starts = false := by
  intro e he
  obtain ⟨t, -, he⟩ := List.mem_flatMap.1 he
  rcases List.mem_cons.1 he with rfl | he
  · rfl
  · exact List.mem_singleton.1 he ▸ rfl

/-- Nothing is detached in a window. -/
theorem Window.detaches {opened last : Float64} {rounds : Nat} {window : List Event}
    (h : Window cfg opened window rounds last) : ∀ e ∈ window, e.detaches = false := by
  induction h with
  | nil => simp [Event.detaches]
  | round now _ hcheck ih =>
      intro e he
      rcases List.mem_append.1 he with he | he
      · exact ih e he
      · rcases List.mem_append.1 he with he | he
        · rcases List.mem_append.1 he with he | he
          · rcases List.mem_append.1 he with he | he
            · exact probeRound_detaches true e he
            · exact hcheck.detaches e he
          · exact canaryCheck_detaches e he
        · exact List.mem_singleton.1 he ▸ rfl

/-- A window with a round ends with an accepted status, when the check is enabled. -/
theorem Window.lastAccepted {opened last : Float64} {rounds : Nat} {window : List Event}
    (h : Window cfg opened window rounds last) (hrounds : 0 < rounds)
    (henabled : cfg.volumeHealthEnabled = true) (es : List Event) : LastAccepted (es ++ window) := by
  cases h with
  | nil => exact absurd hrounds (by decide)
  | @round earlier _ _ _ _ h hcheck =>
      cases hcheck with
      | disabled hdisabled => exact absurd (hdisabled.symm.trans henabled) (by decide)
      | accepted status _ hclean =>
          refine ⟨es ++ earlier ++ probeRound cfg true, status, canaryCheck cfg ++ [.clock last],
            by simp [List.append_assoc], hclean, fun e he => ?_⟩
          rcases List.mem_append.1 he with he | he
          · unfold canaryCheck at he
            split at he
            · exact List.mem_singleton.1 he ▸ rfl
            · exact absurd he (by simp)
          · exact List.mem_singleton.1 he ▸ rfl

/-- What a stabilized generation has behind it. -/
theorem Stabilized.ready {before new : List Event} (hbefore : ∀ e ∈ before, e.starts = false)
    (hnew : ∀ e ∈ new, e.detaches = false)
    (h : Stabilized cfg g (before ++ enrolment cfg ++ [.helper .prepareLayout none false] ++
      probeRound cfg true ++ new) w) : Ready cfg w := by
  obtain ⟨opened, window, rounds, last, hwindow, hpos, hrounds, htime, h⟩ := h.exists_window
  refine ⟨g, _, h.since, ⟨before, [.helper .prepareLayout none false], new, [], window, opened, rounds,
    last, by simp, ?_, ?_, hwindow, hrounds, htime⟩, fun henabled => hwindow.lastAccepted hpos henabled _⟩
  · intro e he
    rcases List.mem_append.1 he with he | he
    · rcases List.mem_append.1 he with he | he
      · rcases List.mem_append.1 he with he | he
        · exact hbefore e he
        · exact enrolment_starts e he
      · exact List.mem_singleton.1 he ▸ rfl
    · exact probeRound_starts true e he
  · intro e he
    rw [List.append_nil] at he
    rcases List.mem_append.1 he with he | he
    · rcases List.mem_append.1 he with he | he
      · rcases List.mem_append.1 he with he | he
        · exact List.mem_singleton.1 he ▸ rfl
        · exact probeRound_detaches true e he
      · exact hnew e he
    · exact hwindow.detaches e he

/-! ## Online -/

/-- The appliance is online, in some course of events. -/
def Online (w : World) : Prop :=
  ∃ g es, Serving .online g es w

theorem Online.failed (h : Online w) : Failed .online w := by
  obtain ⟨_, _, h⟩ := h
  exact h.failed

theorem Firm.online : Firm Online := by
  rintro w w' hm ⟨g, es, h⟩
  exact ⟨g, es, Firm.serving _ _ _ w w' hm h⟩

theorem Online.quiet (h : Online w) {r : GuardReq} (hr : r.quiet = true) (c : GuardChoice) :
    Online (guardExec r c w).2 := by
  obtain ⟨g, es, h⟩ := h
  exact ⟨g, es, h.quiet hr c⟩

/-- A contract of the generation in service is one of the online appliance. -/
theorem online_of_serves {α : Type} {p : GuardProg α} {Q : α → World → Prop}
    (h : ∀ g es, Serves cfg .online (Serving .online g es) p Q) : Serves cfg .online Online p Q :=
  .exists_pre fun g => .exists_pre fun es => h g es

theorem online_quiet {α : Type} {p : GuardProg α} (hp : p.Issues fun r => r.quiet = true) :
    Serves cfg .online Online p fun _ => Online :=
  (guards_quiet Firm.online (fun _ c _ hr h => h.quiet hr c) hp).mono (fun _ _ h => h)
    (fun _ _ _ h => h) fun _ _ _ h => h.failed

theorem online_clock : Serves cfg .online Online clock fun _ => Online :=
  online_of_serves fun g _ => clock_serves.post fun _ _ _ h => ⟨g, _, h⟩

theorem Stabilized.online (h : Stabilized cfg g es w) (c : GuardChoice) :
    Online (guardExec (.setHealth .online true) c w).2 := by
  obtain ⟨_, _, _, _, _, _, _, _, h⟩ := h.exists_window
  exact ⟨g, _, h.since.same rfl rfl rfl, h.others, h.sound, h.lingering, h.children, h.processes,
    fun _ => h.synced (by decide), fun ho => absurd rfl ho,
    fun _ _ => h.armed (by decide) (by decide), fun _ ho => absurd rfl ho, h.unheeded⟩

theorem onlineChecks_serves (nextFull : Extended) :
    Serves cfg .online Online (onlineChecks cfg nextFull) fun _ => Online := by
  refine .bind (online_quiet (issues_must _ ((Prog.issues_ask _).2 rfl))) fun _ => ?_
  refine .bind (online_quiet ((Prog.issues_ask _).2 rfl)) fun s => ?_
  refine .bind (M := fun _ => Online) (.forEach (I := fun _ => Online) (fun p _ => online_quiet
    (issues_must _ ((Prog.issues_ask (GuardReq.running p)).2 rfl))) _) fun _ => ?_
  refine .bind online_clock fun now => ?_
  refine .bind (M := fun _ => Online) (online_of_serves fun g es => (probeTargets_serves _).post
    fun _ _ _ h => ⟨g, _, h⟩) fun _ => .ite (fun _ => ?_) fun _ => .ret fun _ _ h => h
  refine .bind (M := fun _ => Online) (online_of_serves fun g es => (checkSeaweedVolumes_serves
    (by decide) (by decide)).post fun _ w _ h => ?_) fun _ => ?_
  · obtain ⟨check, -, h⟩ := h
    exact ⟨g, _, h⟩
  refine .bind (M := fun _ => Online) (.when (fun _ => online_of_serves fun g es =>
    runS3Canary_serves.post fun _ _ _ h => ⟨g, _, h⟩) fun _ _ _ h => h) fun _ => ?_
  exact .bind online_clock fun now => .orRaise (fun _ _ _ h => h.failed) fun _ _ _ _ h => h

/-- Whether the guardian was told to stop. -/
def Stopping (w : World) : Prop :=
  w.self.stopping = true

theorem Firm.stopping : Firm Stopping :=
  fun _ _ hm h => hm.stopping h

/-- The stop check of the online loop. -/
theorem online_stopRequested {E : GuardExc → World → Prop} :
    Guards cfg Online stopRequested (fun stopping w => (stopping = true → Stopping w) ∧
      (stopping = false → Online w)) E :=
  .exists_pre fun g => .exists_pre fun es => stopRequested_serves.post
    fun _ _ _ h => ⟨h.2.1, fun hgo => ⟨g, es, h.2.2 hgo⟩⟩

/-- The online loop returns only when the guardian is told to stop. -/
theorem onlineLoopBase_serves : ∀ (fuel : Nat) (nextFull : Extended),
    Serves cfg .online Online (onlineLoopBase cfg fuel nextFull) fun _ => Stopping := by
  intro fuel
  induction fuel with
  | zero => exact fun _ => .raise fun _ _ h => h.failed
  | succ fuel ih =>
      intro nextFull
      refine .bind online_stopRequested fun stopping => .when (fun hgo => ?_) fun hstop w _ h => ?_
      · refine .bind (M := fun _ => Online) (.catchWith ((onlineChecks_serves nextFull).pre
          fun _ _ h => h.2 (by simpa using hgo)) fun e => .ite (fun _ => ?_) fun _ => .raise fun _ _ h => h) fun next => ?_
        · exact .bind (failed_quiet ((Prog.issues_ask _).2 rfl)) fun _ => .raise fun _ _ h => h
        refine .bind (online_of_serves fun g es => (interruptibleSleep_serves fuel).mono
          (fun _ _ h => h) (fun _ w _ h => (⟨g, es, h⟩ : Online w)) fun _ _ _ h => h.2.failed)
          fun _ => ih next
      · exact h.1 (by simpa using hstop)

theorem onlineLoop_serves (fuel : Nat) :
    Serves cfg .online Online (onlineLoop cfg fuel) fun _ => Stopping := by
  refine .bind (online_quiet ((Prog.issues_ask _).2 rfl)) fun s => ?_
  refine .bind (online_quiet ((Prog.issues_ask _).2 rfl)) fun _ => ?_
  refine .andFinally (M := fun _ => Stopping) (F := fun _ => Failed .online) ?_ (fun _ => ?_)
    fun _ => ?_
  · refine .bind online_clock fun now => .bind (M := fun _ => Online) ?_ fun next => ?_
    · exact .orRaise (fun _ _ _ h => h.failed) fun _ _ _ _ h => h
    · exact onlineLoopBase_serves fuel next
  · refine .bind (M := fun _ => Stopping) ((guards_view Firm.stopping).post fun _ _ _ h => h.2)
      fun s => ?_
    exact guards_ask Firm.stopping (fun _ _ _ => trivial) fun _ _ _ h => h
  · refine failed_quiet ?_
    exact Prog.Issues.bind ((Prog.issues_ask _).2 rfl) fun _ => (Prog.issues_ask _).2 rfl

/-! ## One generation -/

/-- The `try` block of `run`, with nothing of an earlier generation left: it ends with a request to
stop, or with an exception. No fence in service has failed by then. -/
theorem serve_guards (fuel : Nat) :
    Guards cfg Fresh (serve cfg fuel) (fun _ => Stopping) fun _ => Sound := by
  refine .bind (M := fun _ => Fresh) (guards_must (guards_ask Framed.fresh.firm (fun _ _ _ => trivial)
    fun c w _ h => ⟨fun _ => h, fun _ => h.failed⟩)) fun _ => ?_
  refine .bind (beginGeneration_enters.mono (fun _ _ h => h) (fun _ _ _ h => h) fun _ _ _ h => h.sound)
    fun _ => .exists_pre fun g => ?_
  refine .bind ((entering_quiet (p := setHealth .mounting false) ((Prog.issues_ask _).2 rfl)).mono
    (fun _ _ h => h) (fun _ _ _ h => h) fun _ _ _ h => h.sound) fun _ => ?_
  refine .bind (mountAndEnrollTargets_mounts.mono (fun _ _ h => h) (fun _ _ _ h => h)
    fun _ _ _ h => h.sound) fun _ => .exists_pre fun before => .assume fun hbefore => ?_
  refine .bind ((serves_ask (r := .setHealth .verifyingStorage false) rfl).mono (fun _ _ h => h)
    (fun _ _ _ h => h) fun _ _ _ h => h.sound) fun _ => ?_
  refine .bind ((probeTargets_serves true).mono (fun _ _ h => h) (fun _ _ _ h => h)
    fun _ _ _ h => h.sound) fun _ => ?_
  refine .bind (prepareIndexRepairOffline_serves.mono (fun _ _ h => h) (fun _ _ _ h => h)
    fun _ _ _ h => h.sound) fun _ => ?_
  refine .bind ((startSeaweedWithIndexRecovery_serves fuel).mono (fun _ _ h => h) (fun _ _ _ h => h)
    fun _ _ _ h => h.sound) fun _ => .exists_pre fun new => .assume fun hnew => ?_
  refine .bind ((stabilizeRecovery_serves fuel).mono (fun _ _ h => h) (fun _ _ _ h => h)
    fun _ _ _ h => h.sound) fun _ => ?_
  -- readiness is published once it is proven
  refine .bind (M := fun _ => Online) (guards_ask Firm.stabilized
    (fun w _ h _ => ⟨h.ready hbefore hnew, h.unheeded⟩) fun c w _ h => h.online c) fun _ => ?_
  exact (onlineLoop_serves fuel).mono (fun _ _ h => h) (fun _ _ _ h => h) fun _ _ _ h => h.sound

/-! ## All generations -/

/-- The head of the run loop: unless the guardian is told to stop, nothing of an earlier generation is
left. -/
def Between (w : World) : Prop :=
  w.self.stopping = false → Vacant w

theorem Firm.between : Firm Between := by
  intro w w' hm h hgo
  refine (Framed.closed none False).firm w w' hm (h ?_)
  cases hs : w.self.stopping with
  | false => rfl
  | true => exact absurd (hgo.symm.trans (hm.stopping hs)) (by decide)

theorem Stopping.between (h : Stopping w) : Between w :=
  fun hgo => absurd (hgo.symm.trans h) (by decide)

/-- The run loop, by induction on the generations that are left. -/
theorem mainLoop_guards (inner : Nat) : ∀ fuel : Nat,
    Guards cfg Between (mainLoop cfg inner fuel) (fun _ _ => True) Anything := by
  intro fuel
  induction fuel with
  | zero => exact .raise fun _ _ _ => trivial
  | succ fuel ih =>
      refine .bind (M := fun stopping w => stopping = false → Fresh w) (guards_stopRequested Firm.between
        (fun w _ h hgo _ => ⟨(h hgo).heed false, rfl⟩) fun _ _ _ _ => nofun) fun stopping =>
        .when (fun hgo => ?_) fun _ _ _ _ => trivial
      have hgo : stopping = false := by simpa using hgo
      refine .bind (M := fun outcome w => match outcome with
        | .ok _ => Stopping w
        | .error _ => Sound w) (.attempt ((serve_guards inner).pre fun w _ h => h hgo))
        fun outcome => ?_
      cases outcome with
      | ok _ => exact ih.pre fun w _ h => Stopping.between h
      | error e =>
          have hsound : Firm Sound := Firm.log (P := fun l => ¬ FenceFailed l)
          -- an ordinary exception: recovery, and the next generation
          have hrecover : Guards cfg Sound (do
              let again ← recover cfg inner
              Prog.when again (mainLoop cfg inner fuel)) (fun _ _ => True) Anything :=
            .bind (recover_vacant inner) fun again => .when
              (fun hagain => ih.pre fun w _ h _ => h hagain) fun _ _ _ _ => trivial
          have hordinary : ∀ next : GuardProg Unit,
              Guards cfg Sound next (fun _ _ => True) Anything → Guards cfg Sound (do
                let stopping ← stopRequested
                Prog.when (!stopping) next) (fun _ _ => True) Anything := by
            intro next hnext
            refine .bind (M := fun _ => Sound) (guards_ask hsound (fun _ _ _ => trivial)
              fun _ _ _ h => h) fun stopping => ?_
            exact .when (fun _ => hnext) fun _ _ _ _ => trivial
          cases e with
          | cutOff => exact .raise fun _ _ _ => trivial
          | keyboardInterrupt =>
              refine .bind (M := fun _ => Stopping) (guards_ask hsound (fun _ _ _ => trivial)
                fun _ _ _ _ => rfl) fun _ => ?_
              exact ih.pre fun w _ h => Stopping.between h
          | manualIntervention =>
              exact hordinary _ ((parkManualIntervention_guards inner).pre fun _ _ _ => trivial)
          | _ => exact hordinary _ hrecover

/-- A guardian that has just been started: nothing runs, and there is no generation. The history may
be that of an earlier guardian. -/
structure Initial (w : World) : Prop where
  self : w.self = { stopping := w.self.stopping }
  health : w.health = {}
  running : w.running = []
  helpers : w.helpersRunning = []
  log : w.log = []
  routes : w.routes = []
  fenced : ∀ g ∈ w.fenced, g < w.nextSerial

theorem Initial.inv (h : Initial w) : GuardInv cfg w where
  procs p hp := absurd hp (by simp [h.running])
  helpers x hx := absurd hx (by simp [h.helpers])
  generations g hg := absurd hg (by simp [h.log])
  current g hg := by
    rw [h.self] at hg
    exact absurd hg (by simp)
  fresh := h.fenced
  ready hr := by
    rw [h.health] at hr
    exact absurd hr (by decide)
  orphan _ hsafe := by
    rw [h.health] at hsafe
    exact absurd hsafe (by decide)

theorem Initial.vacant (h : Initial w) : Vacant w := by
  refine ⟨⟨?_, ?_, ?_⟩, ?_⟩
  · rw [Down, h.health]
  · rw [h.self]
  · rintro ⟨g, hg⟩
    exact absurd hg (by simp [h.log])
  · rw [h.self]

theorem Vacant.finishActive (h : Vacant w) (clean : Bool) : Vacant (w.finishActive clean) :=
  Closed.finishActive h clean

/-- `run`. -/
theorem run_guards (inner fuel : Nat) :
    Guards cfg Vacant (run cfg inner fuel) (fun _ _ => True) Anything := by
  have hvacant := Framed.closed none False
  refine .bind (M := fun _ => Vacant) (guards_must (guards_ask hvacant.firm (fun _ _ _ => trivial)
    fun c w _ h => ⟨fun _ => h.finishActive false, fun _ => trivial⟩)) fun _ => ?_
  refine .bind (M := fun _ => Vacant) (guards_ask hvacant.firm (fun _ _ _ => trivial)
    fun c w _ h => ⟨⟨h.down, h.generation, h.failed⟩, h.processes⟩) fun _ => ?_
  refine .bind (M := fun _ => Vacant) (guards_must (guards_ask hvacant.firm (fun _ _ _ => trivial)
    fun c w _ h => ⟨fun _ => h, fun _ => trivial⟩)) fun _ => ?_
  refine .bind ((mainLoop_guards inner fuel).pre fun w _ h _ => h) fun _ => ?_
  exact shutDown_guards

/-- The machine of a guardian: `run`, with signals and exits at any time. -/
def guardian (cfg : Config) (inner fuel : Nat) :
    Machine GuardReq GuardReq.Ans GuardExc World GuardChoice where
  exec := guardExec
  start w p := Initial w ∧ p = run cfg inner fuel
  stop _ := False
  meanwhile := Outside
  idle _ _ := False

theorem guardian_follows (inner fuel : Nat) :
    (guardian cfg inner fuel).Follows (guardDiscipline cfg) fun _ => True where
  meanwhile w w' h hstep := ⟨h.moved (moved_of_outside hstep), moved_of_outside hstep⟩
  rest_meanwhile _ _ _ _ _ := trivial
  idle _ _ _ _ h := h.elim
  stop _ _ h := h.elim
  start w p hw _ hp := by
    rw [hp.2]
    exact run_guards inner fuel w hw hp.1.vacant

/-- What holds in every reachable state of a run. -/
theorem guardian_sound {inner fuel : Nat} {x : Running GuardReq GuardReq.Ans GuardExc World}
    (h : Initial w) (hx : (guardian cfg inner fuel).Reachable w x) :
    (guardian cfg inner fuel).Sound (guardDiscipline cfg) (fun _ => True) x :=
  (guardian_follows inner fuel).reachable h.inv trivial hx

end StorageNode.Guardian
