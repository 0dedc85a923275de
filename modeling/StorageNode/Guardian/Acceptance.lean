import StorageNode.Guardian.Startup

/-!
# Acceptance of an upstream status

A status is accepted when it shows no unexpected read-only volume and no repair awaits validation; the
indexes are then certified, if they were not (`certifyIndexesFromResult_serves`). A refused status
leaves the generation in service, and the exception carries the status that was read last
(`Refused`).
-/

set_option autoImplicit false

namespace StorageNode.Guardian

open StorageNode.Program GuardProg

variable {cfg : Config} {stage : Stage} {g : Nat} {es : List Event} {w w' : World}
  {status : VolumeStatus}

/-! ## Refusal -/

/-- The generation went on, and detached no target. -/
def Proceeded (stage : Stage) (g : Nat) (es : List Event) (w : World) : Prop :=
  ∃ new, (∀ e ∈ new, e.detaches = false) ∧ Serving stage g (es ++ new) w

theorem Serving.proceeded (h : Serving stage g es w) : Proceeded stage g es w :=
  ⟨[], by simp, by simpa using h⟩

theorem Proceeded.failed (h : Proceeded stage g es w) : Failed stage w := by
  obtain ⟨_, _, h⟩ := h
  exact h.failed

theorem Proceeded.extend {new : List Event} (hnew : ∀ e ∈ new, e.detaches = false)
    (h : Proceeded stage g (es ++ new) w) : Proceeded stage g es w := by
  obtain ⟨newer, hnewer, h⟩ := h
  refine ⟨new ++ newer, fun e he => ?_, by simpa [List.append_assoc] using h⟩
  rcases List.mem_append.1 he with he | he
  · exact hnew e he
  · exact hnewer e he

/-- A single event more. -/
theorem Proceeded.of_event {e : Event} (he : e.detaches = false) (h : Serving stage g (es ++ [e]) w) :
    Proceeded stage g es w :=
  Proceeded.extend (fun _ hx => List.mem_singleton.1 hx ▸ he) h.proceeded

/-- The other exceptions say nothing about a status. -/
def GuardExc.plain : GuardExc → Bool
  | .validationRequired _ => false
  | .unexpectedReadonly _ => false
  | _ => true

/-- After a refusal the generation is still in service. -/
structure Refused (stage : Stage) (g : Nat) (es : List Event) (e : GuardExc) (w : World) : Prop where
  failed : Failed stage w
  validation : ∀ status, e = .validationRequired status →
    Proceeded stage g es w ∧ lastInspected w.log = some status
  readonly : ∀ status, e = .unexpectedReadonly status → Proceeded stage g es w

theorem refused_of_plain {e : GuardExc} (he : e.plain = true) (h : Failed stage w) :
    Refused stage g es e w where
  failed := h
  validation _ heq := by
    rw [heq] at he
    exact absurd he (by simp [GuardExc.plain])
  readonly _ heq := by
    rw [heq] at he
    exact absurd he (by simp [GuardExc.plain])

theorem Refused.extend {e : GuardExc} {new : List Event} (hnew : ∀ e ∈ new, e.detaches = false)
    (h : Refused stage g (es ++ new) e w) : Refused stage g es e w where
  failed := h.failed
  validation s heq := ⟨(h.validation s heq).1.extend hnew, (h.validation s heq).2⟩
  readonly s heq := (h.readonly s heq).extend hnew

theorem Firm.lastInspected (o : Option VolumeStatus) : Firm fun w => lastInspected w.log = o :=
  Firm.log (P := fun l => StorageNode.Guardian.lastInspected l = o)

theorem Firm.pending : Firm fun w => w.pending = [] := by
  intro w w' hm h
  rwa [hm.pending]

/-! ## Certification -/

/-- The state once the history is published. -/
def World.synced (w : World) : World :=
  { w with health := { w.health with indexesCertified := w.history.indexesCertified } }

theorem Moved.synced (h : Moved w w') : Moved w.synced w'.synced where
  self := h.self
  stopping := h.stopping
  ready := h.ready
  certified := by
    simp only [World.synced]
    rw [h.history]
  orphan := h.orphan
  history := h.history
  running := h.running
  helpersRunning := h.helpersRunning
  fenced := h.fenced
  pending := h.pending
  nextSerial := h.nextSerial
  heeded := h.heeded
  log := h.log
  routes := h.routes

/-- Certified indexes, to be published. -/
def Recertified (stage : Stage) (g : Nat) (es : List Event) (w : World) : Prop :=
  Serving stage g es w.synced ∧ w.history.indexesCertified = true

theorem Firm.recertified : Firm (Recertified stage g es) := by
  rintro w w' hm ⟨h, hcertified⟩
  refine ⟨Firm.serving stage g es _ _ hm.synced h, ?_⟩
  rwa [hm.history]

theorem Serving.certify (h : Serving stage g es w) :
    Recertified stage g es { w with history := { w.history with indexesCertified := true } } :=
  ⟨⟨h.since.same rfl rfl rfl, h.others, h.sound, h.lingering, h.children, h.processes, fun _ => rfl,
    h.down, h.armed, h.idle, h.unheeded⟩, rfl⟩

theorem Recertified.failed (h : Recertified stage g es w) : Failed stage w :=
  ⟨h.1.sound, h.1.down⟩

/-- An accepted status of a generation in service, before it is certified and published. -/
structure Accepting (stage : Stage) (g : Nat) (es : List Event) (status : VolumeStatus) (w : World) :
    Prop where
  serving : Serving stage g es w
  inspected : lastInspected w.log = some status
  clean : status.unexpectedIds = []
  pending : w.pending = []

theorem Firm.accepting : Firm (Accepting stage g es status) :=
  fun w w' hm h => ⟨Firm.serving _ _ _ w w' hm h.serving, Firm.lastInspected _ w w' hm h.inspected,
    h.clean, Firm.pending w w' hm h.pending⟩

theorem Firm.history {P : History → Prop} : Firm fun w => P w.history := by
  intro w w' hm h
  rwa [hm.history]

/-- The indexes are certified afterwards, or the call fails with an `OSError`. -/
theorem certifiedIndexes_serves :
    Guards cfg (Accepting stage g es status) certifiedIndexes
      (fun certified w => certified = true ∧ w.history.indexesCertified = true ∧ Serving stage g es w)
      fun e w => e = .os ∧ Failed stage w := by
  refine .bind (M := fun history w => history = w.history ∧ Accepting stage g es status w)
    (guards_ask Firm.accepting (fun _ _ _ => trivial) fun _ _ _ h => ⟨rfl, h⟩) fun history => ?_
  refine .ite (fun hcertified => .ret fun w _ h => ⟨rfl, ?_, h.2.serving⟩) fun _ => ?_
  · rw [← h.1]
    exact hcertified
  refine .bind (M := fun _ => Recertified stage g es) (guards_must (guards_ask
    (Firm.and (Firm.history (P := fun h => history = h)) Firm.accepting)
    (fun w _ h => ⟨⟨status, h.2.inspected, h.2.clean⟩, h.2.pending⟩) fun c w _ h => ?_)) fun _ => ?_
  · exact ⟨fun _ => h.2.serving.certify, fun _ => ⟨rfl, h.2.serving.certify.failed⟩⟩
  refine .bind (M := fun history w => history = w.history ∧ Recertified stage g es w)
    (guards_ask Firm.recertified (fun _ _ _ => trivial) fun _ _ _ h => ⟨rfl, h⟩) fun history => ?_
  refine .bind (M := fun _ w => history = w.history ∧ w.history.indexesCertified = true ∧
    Serving stage g es w) (guards_ask (Firm.and (Firm.history (P := fun h => history = h))
    Firm.recertified) (fun _ _ _ => trivial) fun c w _ h => ⟨h.1, h.2.2, h.2.1⟩) fun _ => ?_
  refine .ret fun w _ h => ⟨?_, h.2.1, h.2.2⟩
  rw [h.1]
  exact h.2.1

/-- Publishing a status appends its event. -/
theorem Serving.publishVolumes (h : Serving stage g es w) (status : VolumeStatus) (safe : Bool) :
    Serving stage g (es ++ [.accepted status])
      (guardExec (.publishVolumes status safe) { ok := true } w).2 := by
  have hcore : SameCore w { w with log := .accepted status :: w.log } :=
    .of_eq rfl id rfl rfl rfl rfl rfl (Nat.le_refl _) rfl
  have hevent := h.event hcore rfl rfl fun _ => by simp
  exact ⟨hevent.since.same rfl rfl rfl, hevent.others, hevent.sound, hevent.lingering,
    hevent.children, hevent.processes, hevent.synced, hevent.down, hevent.armed, hevent.idle,
    hevent.unheeded⟩

/-- `_certify_indexes_from_result`. While online, the status was read and checked just before. -/
theorem certifyIndexesFromResult_serves (hstage : stage ≠ .creating)
    (honline : stage = .online → ∃ older, es = older ++ [.inspected status, .awaiting false]) :
    Guards cfg (Accepting stage g es status) (certifyIndexesFromResult status)
      (fun _ => Serving stage g (es ++ [.accepted status])) fun e w => e = .os ∧ Failed stage w := by
  -- the status is needed again after the certification
  refine .bind (M := fun certified w => status.unexpectedIds = [] ∧ certified = true ∧
    w.history.indexesCertified = true ∧ Serving stage g es w) (fun w hw h => ?_) fun certified => ?_
  · exact (certifiedIndexes_serves.post fun _ _ _ hcertified => ⟨h.clean, hcertified⟩) w hw h
  refine .assume fun hclean => .assume fun _ => guards_ask
    (Firm.and (Firm.history (P := fun h => h.indexesCertified = true)) (Firm.serving _ _ _))
    (fun w _ h => ⟨fun _ => ?_, fun hready => ⟨hclean, ?_⟩⟩) fun c w _ h => h.2.publishVolumes _ _
  · exact ⟨(h.2.synced hstage).trans h.1, h.1⟩
  · have hstage : stage = .online := by
      by_contra hne
      exact absurd (hready.symm.trans (h.2.down hne)) (by decide)
    obtain ⟨older, rfl⟩ := honline hstage
    exact ⟨g, older, h.2.since⟩

/-! ## Acceptance -/

/-- `has_awaiting_validation`: its answer is on record, and nothing is pending if it is negative. -/
theorem hasAwaitingValidation_serves :
    Guards cfg (fun w => Serving stage g es w ∧ lastInspected w.log = some status)
      hasAwaitingValidation
      (fun pending w => (pending = false → w.pending = []) ∧
        Serving stage g (es ++ [.awaiting pending]) w ∧ lastInspected w.log = some status)
      fun e w => e.plain = true ∧ Failed stage w := by
  refine .bind (M := fun answer w => match answer with
    | none => Failed stage w
    | some pending => (pending = false → w.pending = []) ∧
        Serving stage g (es ++ [.awaiting pending]) w ∧ lastInspected w.log = some status)
    (guards_ask ((Firm.serving _ _ _).and (Firm.lastInspected _)) (fun _ _ _ => trivial)
      fun c w _ h => ?_) fun answer => .orRaise (fun hnone w _ h => ?_) fun pending hsome w _ h => ?_
  · have hcore := (reports_core (r := .hasAwaiting) rfl c w).1
    simp only [guardExec] at hcore ⊢
    by_cases hok : c.ok = true
    · simp only [hok, ↓reduceIte] at hcore ⊢
      refine ⟨fun hnone => ?_, h.1.event hcore rfl rfl fun _ => by simp, h.2⟩
      exact Classical.not_not.1 (of_decide_eq_false hnone)
    · simp only [hok, Bool.false_eq_true, ↓reduceIte]
      exact h.1.failed
  · rw [hnone] at h
    exact ⟨rfl, h⟩
  · rwa [hsome] at h

/-- `reconcile_resolved_preinstall` touches no awaiting transaction. -/
theorem reconcile_serves :
    Guards cfg (fun w => Serving stage g es w ∧ lastInspected w.log = some status)
      (reconcileResolvedPreinstall status)
      (fun _ w => Serving stage g es w ∧ lastInspected w.log = some status)
      fun e w => e.plain = true ∧ Failed stage w := by
  refine .bind (M := fun _ w => Serving stage g es w ∧ lastInspected w.log = some status)
    (guards_ask ((Firm.serving _ _ _).and (Firm.lastInspected _)) (fun _ _ _ => trivial)
      fun _ _ _ h => h) fun answer => ?_
  cases answer with
  | ok => exact .ret fun _ _ h => h
  | repairError => exact .raise fun _ _ h => ⟨rfl, h.1.failed⟩
  | manualIntervention => exact .raise fun _ _ h => ⟨rfl, h.1.failed⟩
  | os => exact .raise fun _ _ h => ⟨rfl, h.1.failed⟩

/-- A status with pending repairs is refused for validation. -/
theorem refused_validation {pending : Bool}
    (h : Serving stage g (es ++ [.awaiting pending]) w) (hlast : lastInspected w.log = some status) :
    Refused stage g es (.validationRequired status) w where
  failed := h.failed
  validation s heq := by
    obtain rfl : status = s := by simpa using heq
    exact ⟨.of_event rfl h, hlast⟩
  readonly s heq := absurd heq (by simp)

theorem refused_readonly (h : Proceeded stage g es w) :
    Refused stage g es (.unexpectedReadonly status) w where
  failed := h.failed
  validation s heq := absurd heq (by simp)
  readonly _ _ := h

/-- `_accept_seaweed_volume_status` of a status that was read last. -/
theorem acceptSeaweedVolumeStatus_serves (stage : Stage) (hcreating : stage ≠ .creating)
    (hentering : stage ≠ .entering)
    (honline : stage = .online → ∃ older, es = older ++ [.inspected status]) :
    Guards cfg (fun w => Serving stage g es w ∧ lastInspected w.log = some status)
      (acceptSeaweedVolumeStatus (some status))
      (fun _ w => status.unexpectedIds = [] ∧
        Serving stage g (es ++ [.awaiting false, .accepted status]) w) (Refused stage g es) := by
  have hfirm : Firm fun w => Serving stage g es w ∧ lastInspected w.log = some status :=
    (Firm.serving _ _ _).and (Firm.lastInspected _)
  refine .bind (M := fun s w => s.indexRepair = true ∧ Serving stage g es w ∧
    lastInspected w.log = some status) ((guards_view hfirm).post fun s w _ h => ⟨?_, h.2⟩) fun s =>
    .assume fun hrepair => ?_
  -- past the first two stages index repair is switched on
  · have harmed := h.2.1.armed hcreating hentering
    rwa [h.1.self] at harmed
  rw [hrepair]
  refine .ite (fun _ => ?_) fun hclean => ?_
  · -- an unexpected read-only volume: what is raised depends on pending repairs
    rw [if_pos rfl]
    refine .bind (hasAwaitingValidation_serves.mono (fun _ _ h => h) (fun _ _ _ h => h)
      fun e w _ h => refused_of_plain h.1 h.2) fun pending => .raise fun w _ h => ?_
    split
    · exact refused_validation h.2.1 h.2.2
    · exact refused_readonly (.of_event rfl h.2.1)
  · refine .bind (M := fun _ => Accepting stage g (es ++ [.awaiting false]) status) (.when (fun _ => ?_)
      fun hnone => absurd rfl hnone) fun _ => ?_
    · refine .bind (reconcile_serves.mono (fun _ _ h => h) (fun _ _ _ h => h)
        fun e w _ h => refused_of_plain h.1 h.2) fun _ => ?_
      refine .bind (hasAwaitingValidation_serves.mono (fun _ _ h => h) (fun _ _ _ h => h)
        fun e w _ h => refused_of_plain h.1 h.2) fun pending => .raiseIf ?_ ?_
      · intro _ w _ h
        exact refused_validation h.2.1 h.2.2
      · intro hnone w _ h
        obtain rfl : pending = false := by simpa using hnone
        exact ⟨h.2.1, h.2.2, Classical.not_not.1 hclean, h.1 rfl⟩
    -- online, the status that is certified is the one inspected last
    · refine (certifyIndexesFromResult_serves hcreating ?_).mono (fun _ _ h => h) (fun _ w _ h => ?_)
        fun e w _ h => ?_
      · intro ho
        obtain ⟨older, rfl⟩ := honline ho
        exact ⟨older, by simp⟩
      · exact ⟨Classical.not_not.1 hclean, by simpa [List.append_assoc] using h⟩
      · exact refused_of_plain (h.1 ▸ rfl) h.2

/-- Reading a status. -/
theorem inspect_serves {E : GuardExc → World → Prop} :
    Guards cfg (Serving stage g es) inspect
      (fun answer w => match answer with
        | none => Serving stage g es w
        | some status => Serving stage g (es ++ [.inspected status]) w ∧
            lastInspected w.log = some status) E := by
  refine guards_ask (Firm.serving _ _ _) (fun _ _ _ => trivial) fun c w _ h => ?_
  have hcore := (reports_core (r := .inspect) rfl c w).1
  simp only [guardExec] at hcore ⊢
  cases hstatus : c.status with
  | none => exact h
  | some status =>
      simp only [hstatus] at hcore
      exact ⟨h.event hcore rfl rfl fun _ => by simp, rfl⟩

/-- `_check_seaweed_volumes` appends the events of an accepted status, if the check is enabled. -/
theorem checkSeaweedVolumes_serves (hcreating : stage ≠ .creating) (hentering : stage ≠ .entering) :
    Serves cfg stage (Serving stage g es) (checkSeaweedVolumes cfg)
      fun _ w => ∃ check, StatusCheck cfg check ∧ Serving stage g (es ++ check) w := by
  refine .bind (M := fun result w => match result with
    | none => cfg.volumeHealthEnabled = false ∧ Serving stage g es w
    | some status => cfg.volumeHealthEnabled = true ∧
        Serving stage g (es ++ [.inspected status]) w ∧ lastInspected w.log = some status)
    (.ite (fun henabled => ?_) fun hdisabled => .ret fun _ _ h => ⟨by simpa using hdisabled, h⟩)
    fun result => ?_
  · refine .bind inspect_serves fun answer => ?_
    refine .bind (M := fun status w => Serving stage g (es ++ [.inspected status]) w ∧
      lastInspected w.log = some status) (.orRaise (fun hnone w _ h => ?_) fun status hsome w _ h => ?_)
      fun status => .ret fun w _ h => ⟨henabled, h⟩
    · rw [hnone] at h
      exact h.failed
    · rwa [hsome] at h
  · cases result with
    | none => exact .ret fun w _ h => ⟨[], .disabled h.1, by simpa using h.2⟩
    | some status =>
        refine .assume fun henabled => ?_
        refine (acceptSeaweedVolumeStatus_serves stage hcreating hentering fun _ => ⟨es, rfl⟩).mono
          (fun _ _ h => h) (fun _ w _ h => ?_) fun _ _ _ h => h.failed
        refine ⟨acceptance status, .accepted status henabled h.1, ?_⟩
        simpa [acceptance, List.append_assoc] using h.2

end StorageNode.Guardian
