import StorageNode.Guardian.Termination

/-!
# A generation in service

`Serving stage g es w` says where the guardian stands in the `try` block of `run`: generation `g` is
current and not fenced, `es` happened in it so far, every other generation is fenced, no process or
helper of an earlier one is left, and the last stop check saw no stop request. The contracts of the storage programs append their events to
`es` exactly. After an exception `Failed stage` is left of it.
-/

set_option autoImplicit false

namespace StorageNode.Guardian

open StorageNode.Program GuardProg

/-- Where the guardian stands in the `try` block of `run`: it has created a generation; its history is
on record; the repair controller is there and no process has been started; SeaweedFS has been started;
the appliance is online. -/
inductive Stage where
  | creating
  | entering
  | offline
  | starting
  | online
  deriving DecidableEq

/-- Generation `g` is in service and `es` happened in it. -/
structure Serving (stage : Stage) (g : Nat) (es : List Event) (w : World) : Prop where
  since : Since g es w
  others : ∀ g', .created g' ∈ w.log → g' ≠ g → g' ∈ w.fenced
  sound : Sound w
  lingering : w.self.lingeringProcesses = []
  children : w.self.helperChildren = []
  processes : ∀ p ∈ w.self.processes, p.generation = g
  synced : stage ≠ .creating → w.health.indexesCertified = w.history.indexesCertified
  down : stage ≠ .online → Down w
  armed : stage ≠ .creating → stage ≠ .entering → w.self.indexRepair = true
  idle : stage ≠ .starting → stage ≠ .online → w.self.processes = []
  unheeded : w.heeded = false

/-- What is left after an exception. -/
structure Failed (stage : Stage) (w : World) : Prop where
  sound : Sound w
  down : stage ≠ .online → Down w

/-- The contract of a program in the `try` block. -/
abbrev Serves (cfg : Config) (stage : Stage) {α : Type} (P : World → Prop) (p : GuardProg α)
    (Q : α → World → Prop) : Prop :=
  Guards cfg P p Q fun _ => Failed stage

section

variable {cfg : Config} {stage : Stage} {g : Nat} {es : List Event} {w w' : World} {α : Type}

theorem Serving.failed (h : Serving stage g es w) : Failed stage w :=
  ⟨h.sound, h.down⟩

/-- With nothing lingering, only processes of the list run. -/
theorem Serving.mem_processes (h : Serving stage g es w) (hw : GuardInv cfg w) {p : Proc}
    (hp : p ∈ w.running) : p ∈ w.self.processes := by
  rcases hw.procs p hp with hmem | hmem
  · exact hmem
  · exact absurd hmem (by simp [h.lingering])

theorem Serving.helpersRunning (h : Serving stage g es w) (hw : GuardInv cfg w) :
    w.helpersRunning = [] := by
  refine List.eq_nil_iff_forall_not_mem.2 fun x hx => ?_
  exact absurd (hw.helpers x hx) (by simp [h.children])

/-- Before SeaweedFS is started, nothing runs. -/
theorem Serving.running (h : Serving stage g es w) (hw : GuardInv cfg w) (hs : stage ≠ .starting)
    (ho : stage ≠ .online) : w.running = [] := by
  refine List.eq_nil_iff_forall_not_mem.2 fun p hp => ?_
  exact absurd (h.mem_processes hw hp) (by simp [h.idle hs ho])

theorem down_of_sameCore (hs : SameCore w w') (h : Down w) : Down w' := by
  rw [Down, ← Bool.not_eq_true] at h ⊢
  exact fun hr => h (hs.ready hr)

theorem Serving.frame (h : Serving stage g es w) (hs : SameCore w w') (hlog : w'.log = w.log) :
    Serving stage g es w' where
  since := h.since.same hs.generation hs.fenced hlog
  others g' hg hne := by
    rw [hs.fenced]
    exact h.others g' (hlog ▸ hg) hne
  sound hf := h.sound (hlog ▸ hf)
  lingering := hs.lingering.trans h.lingering
  children := hs.helperChildren.trans h.children
  processes := hs.processes ▸ h.processes
  synced hc := by rw [hs.certified, hs.history, h.synced hc]
  down ho := down_of_sameCore hs (h.down ho)
  armed hc he := hs.repair (h.armed hc he)
  idle hst ho := hs.processes.trans (h.idle hst ho)
  unheeded := hs.heeded.trans h.unheeded

/-- One more event of the generation. -/
theorem Serving.event (h : Serving stage g es w) (hs : SameCore w w') {e : Event}
    (hlog : w'.log = e :: w.log) (he : e.turnsOver = false) (hf : ∀ g, e ≠ .fenceFailed g false) :
    Serving stage g (es ++ [e]) w' where
  since := h.since.extend hs.generation hs.fenced hlog he
  others g' hg hne := by
    rw [hs.fenced]
    rw [hlog] at hg
    rcases List.mem_cons.1 hg with rfl | hg
    · exact absurd he (by simp [Event.turnsOver])
    · exact h.others g' hg hne
  sound := by
    rintro ⟨g', hg'⟩
    rw [hlog] at hg'
    rcases List.mem_cons.1 hg' with heq | hg'
    · exact hf g' heq.symm
    · exact h.sound ⟨g', hg'⟩
  lingering := hs.lingering.trans h.lingering
  children := hs.helperChildren.trans h.children
  processes := hs.processes ▸ h.processes
  synced hc := by rw [hs.certified, hs.history, h.synced hc]
  down ho := down_of_sameCore hs (h.down ho)
  armed hc he := hs.repair (h.armed hc he)
  idle hst ho := hs.processes.trans (h.idle hst ho)
  unheeded := hs.heeded.trans h.unheeded

theorem Firm.serving (stage : Stage) (g : Nat) (es : List Event) : Firm (Serving stage g es) :=
  fun _ _ hm h => h.frame hm.sameCore hm.log

theorem Failed.frame (h : Failed stage w) (hs : SameCore w w') (hlog : w'.log = w.log) :
    Failed stage w' :=
  ⟨fun hf => h.sound (hlog ▸ hf), fun ho => down_of_sameCore hs (h.down ho)⟩

theorem Firm.failed (stage : Stage) : Firm (Failed stage) :=
  fun _ _ hm h => h.frame hm.sameCore hm.log

theorem Failed.quiet (h : Failed stage w) {r : GuardReq} (hr : r.quiet = true) (c : GuardChoice) :
    Failed stage (guardExec r c w).2 :=
  h.frame (quiet_core hr c w).1 (quiet_core hr c w).2

theorem Serving.quiet (h : Serving stage g es w) {r : GuardReq} (hr : r.quiet = true)
    (c : GuardChoice) : Serving stage g es (guardExec r c w).2 :=
  h.frame (quiet_core hr c w).1 (quiet_core hr c w).2

/-! ## Quiet programs and single events -/

/-- A program of quiet requests leaves the generation as it is. -/
theorem serves_quiet {p : GuardProg α} (hp : p.Issues fun r => r.quiet = true) :
    Serves cfg stage (Serving stage g es) p fun _ => Serving stage g es :=
  (guards_quiet (Firm.serving stage g es) (fun _ c _ hr h => h.quiet hr c) hp).mono
    (fun _ _ h => h) (fun _ _ _ h => h) fun _ _ _ h => h.failed

theorem serves_ask {r : GuardReq} (hr : r.quiet = true) :
    Serves cfg stage (Serving stage g es) (Prog.ask r) fun _ => Serving stage g es :=
  serves_quiet ((Prog.issues_ask _).2 hr)

theorem serves_view :
    Serves cfg stage (Serving stage g es) view fun s w => Saw s w ∧ Serving stage g es w :=
  guards_view (Firm.serving stage g es)

/-- A stop check: the generation stays in service only if there was no stop request. -/
theorem stopRequested_serves {E : GuardExc → World → Prop} :
    Guards cfg (Serving stage g es) stopRequested (fun stopping w => Failed stage w ∧
      (stopping = true → w.self.stopping = true) ∧ (stopping = false → Serving stage g es w)) E := by
  refine guards_stopRequested (Firm.serving stage g es) (fun w _ h hgo => ?_) fun w _ h hstop => ?_
  · exact ⟨⟨h.sound, h.down⟩, nofun, fun _ => ⟨h.since.same rfl rfl rfl, h.others, h.sound, h.lingering,
      h.children, h.processes, h.synced, h.down, h.armed, h.idle, rfl⟩⟩
  · exact ⟨⟨h.sound, h.down⟩, fun _ => hstop, nofun⟩

theorem clock_serves {E : GuardExc → World → Prop} : Guards cfg (Serving stage g es) clock
    (fun now => Serving stage g (es ++ [.clock now])) E :=
  guards_ask (Firm.serving stage g es) (fun _ _ _ => trivial) fun c w _ h =>
    h.event (reports_core (r := .clock) rfl c w).1 rfl rfl fun _ => by simp

theorem runS3Canary_serves : Serves cfg stage (Serving stage g es) runS3Canary
    fun _ => Serving stage g (es ++ [.canary]) := by
  refine guards_must (guards_ask (Firm.serving stage g es) (fun _ _ _ => trivial) fun c w _ h => ?_)
  have hcore := (reports_core (r := .canary) rfl c w).1
  simp only [guardExec, World.record] at hcore ⊢
  constructor
  · intro hok
    rw [if_pos hok] at hcore ⊢
    exact h.event hcore rfl rfl fun _ => by simp
  · intro hbad
    rw [if_neg (by simp [hbad])]
    exact h.failed

/-- A loop whose body appends its own events appends them all. -/
theorem serves_forEach {β : Type} {body : β → GuardProg Unit} {f : β → List Event}
    (h : ∀ x es, Serves cfg stage (Serving stage g es) (body x) fun _ => Serving stage g (es ++ f x)) :
    ∀ (xs : List β) (es : List Event), Serves cfg stage (Serving stage g es) (Prog.forEach xs body)
      fun _ => Serving stage g (es ++ xs.flatMap f) := by
  intro xs
  induction xs with
  | nil =>
      intro es
      refine .ret fun w _ hw => ?_
      simpa using hw
  | cons x xs ih =>
      intro es
      refine .bind (h x es) fun _ => ?_
      refine (ih (es ++ f x)).post fun _ w _ hw => ?_
      simpa [List.append_assoc] using hw

/-! ## Storage helpers -/

/-- With no child left there is nothing to reap. -/
theorem reapHelperChildren_serves :
    Serves cfg stage (Serving stage g es) reapHelperChildren fun _ => Serving stage g es := by
  refine .bind (M := fun s w => s.helperChildren = [] ∧ Serving stage g es w)
    (serves_view.post fun s w _ h => ⟨?_, h.2⟩) fun s => .assume fun hnone => ?_
  · rw [← h.2.children, h.1.self]
  rw [hnone]
  refine guards_ask (Firm.serving stage g es) (fun w hw h x hx => ?_) fun c w _ h => ?_
  · exact absurd hx (by simp [h.helpersRunning hw])
  · exact h.frame ⟨rfl, rfl, h.children.symm, rfl, id, fun _ h => h, fun _ h => h, rfl, Nat.le_refl _,
      rfl, id, rfl, id, rfl⟩ rfl

theorem ensureNoLingeringProcesses_serves :
    Serves cfg stage (Serving stage g es) ensureNoLingeringProcesses fun _ => Serving stage g es := by
  refine .bind (M := fun s w => s.lingeringProcesses = [] ∧ Serving stage g es w)
    (serves_view.post fun s w _ h => ⟨?_, h.2⟩) fun s => .assume fun hnone => ?_
  · rw [← h.2.lingering, h.1.self]
  rw [hnone]
  refine .bind (M := fun alive w => alive = [] ∧ Serving stage g es w) (.ret fun _ _ h => ⟨rfl, h⟩)
    fun alive => .assume fun halive => ?_
  subst halive
  refine .bind (M := fun _ => Serving stage g es) (guards_ask (Firm.serving stage g es)
    (fun w hw h p hp => Or.inl (h.mem_processes hw hp)) fun c w _ h => ?_) fun _ =>
    .raiseIf (fun hbad => absurd rfl hbad) fun _ _ _ h => h
  exact h.frame ⟨rfl, h.lingering.symm, rfl, rfl, id, fun _ h => h, fun _ h => h, rfl, Nat.le_refl _,
    rfl, id, rfl, id, rfl⟩ rfl

/-- One call of a helper: it succeeds and is recorded, or the generation fails. -/
theorem helper_serves (op : HelperOp) (target : Option Target) (full : Bool)
    (hop : op = .unmount → stage ≠ .online) :
    Serves cfg stage (Serving stage g es) (helper op target full) fun answer w =>
      if answer = .ok then Serving stage g (es ++ [.helper op target full]) w else Failed stage w := by
  refine guards_ask (Firm.serving stage g es) (fun w _ h hu => h.down (hop hu)) fun c w _ h => ?_
  simp only [guardExec, h.since.generation]
  generalize c.helperAnswer op target = answer
  cases answer with
  | ok =>
      rw [if_pos rfl]
      refine h.event ?_ rfl rfl fun _ => by simp
      exact .of_eq rfl id rfl rfl rfl rfl rfl (Nat.le_refl _) rfl
  | _ =>
      rw [if_neg (by decide)]
      exact ⟨h.sound, h.down⟩

theorem runHelperBase_serves (op : HelperOp) (target : Option Target) (full : Bool)
    (hop : op = .unmount → stage ≠ .online) :
    Serves cfg stage (Serving stage g es) (runHelperBase op target full)
      fun _ => Serving stage g (es ++ [.helper op target full]) := by
  refine .bind reapHelperChildren_serves fun _ => ?_
  refine .bind (M := fun _ => Serving stage g es) (serves_view.post fun _ _ _ h => h.2) fun s => ?_
  refine .bind (M := fun _ => Serving stage g es) (.raiseIf (fun _ _ _ h => h.failed)
    fun _ _ _ h => h) fun _ => ?_
  refine .bind (helper_serves op target full hop) fun answer => ?_
  cases answer with
  | ok => exact .ret fun _ _ h => h
  | _ => exact .raise fun _ _ h => h

/-- `_run_helper` appends its event. -/
theorem runHelper_serves (op : HelperOp) (target : Option Target) (full : Bool)
    (hop : op = .unmount → stage ≠ .online) :
    Serves cfg stage (Serving stage g es) (runHelper cfg op target full)
      fun _ => Serving stage g (es ++ [.helper op target full]) := by
  refine .catchWith (runHelperBase_serves op target full hop) fun e => .ite (fun _ => ?_) fun _ => ?_
  · exact (guards_charge (Firm.failed stage) (fun _ c _ hr h => h.quiet hr c) _ e).mono
      (fun _ _ h => h) (fun _ _ _ h => h.elim) fun _ _ _ h => h
  · exact .raise fun _ _ h => h

/-- A round of probes. -/
theorem probeTargets_serves (full : Bool) :
    Serves cfg stage (Serving stage g es) (probeTargets cfg full)
      fun _ => Serving stage g (es ++ probeRound cfg full) := by
  have hprobe : ∀ (t : Target) (es : List Event), Serves cfg stage (Serving stage g es)
      (runHelper cfg .probe (some t) full) fun _ => Serving stage g (es ++ [.helper .probe (some t) full]) :=
    fun t es => runHelper_serves .probe (some t) full nofun
  refine (serves_forEach hprobe cfg.activeTargets es).post fun _ w _ h => ?_
  rwa [probeRound, List.map_eq_flatMap]

end

end StorageNode.Guardian
