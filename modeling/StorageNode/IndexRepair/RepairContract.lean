import StorageNode.IndexRepair.AdmitContract
import StorageNode.IndexHelper.TailSafety

/-!
# The contract of a repair

`repairOne_obeys` follows one `_repair_one` call through its branches. `Ready` is what permits a full
build, `Holding` and `Standing` are carried over it, and a successful tail recovery leads back to
`Standing` for the second call, now with identical candidates accepted. The recursion is an induction
on the fuel.
-/

set_option autoImplicit false

namespace StorageNode.IndexRepair

open StorageNode.Program StorageNode.IndexHelper RepairProg

variable {D : Type} [DecidableEq D] {sha256 : Bytes → D} {clean tidy : Prop} {allow : Bool}
  {w w' : World D} {F : SourceFingerprint D} {same : List (Transaction D)} {authorized : Bool}

/-! ## Before the build -/

/-- A transaction of the source `F` whose candidate may be built. -/
structure Ready (clean : Prop) (F : SourceFingerprint D) (t : Transaction D) (w : World D) : Prop where
  saved : t ∈ w.journal
  unverified : ∀ u ∈ w.journal, u.sourceFingerprint = F → u.phase ≠ .verified
  credit : (∃ u ∈ w.journal, u.sourceFingerprint = F ∧ u.phase = .manualInterventionRequired) →
    lateBuilds F w.log + 1 ≤ (consumed F w.log).length
  first : clean → ∀ G, t.id ∉ builds G w.log

/-- The fields and phase of a transaction before its build. -/
structure Unbuilt (F : SourceFingerprint D) (oldIdx : Artifact D) (t : Transaction D) : Prop where
  source : t.sourceFingerprint = F
  oldIdx : t.oldIdx = some oldIdx
  phase : t.phase.unbuilt = true ∨ t.phase = .candidateBuilding

omit [DecidableEq D] in
theorem Unbuilt.not_terminal {oldIdx : Artifact D} {t : Transaction D} (h : Unbuilt F oldIdx t) :
    t.phase.terminal = false := by
  rcases h.phase with hp | hp
  · revert hp
    cases t.phase <;> simp [Phase.unbuilt, Phase.terminal]
  · rw [hp]
    rfl

theorem Ready.fileFree {t : Transaction D} (ht : t.phase.terminal = false) :
    FileFree (Ready clean F t) where
  steady :=
    { stable := by
        intro w w' hi h
        refine ⟨(hi.kept t (ne_manual_of_open ht)).2 h.saved, fun u hu hF => ?_, ?_, fun hc G => ?_⟩
        · obtain ⟨x, hx, hcore⟩ := hi.back u hu
          obtain ⟨-, hp, hsource, -⟩ := core_eq hcore
          rw [← hp]
          exact h.unverified x hx (hsource.trans hF)
        · rintro ⟨u, hu, hF, hphase⟩
          obtain ⟨x, hx, hcore⟩ := hi.back u hu
          obtain ⟨-, hp, hsource, -⟩ := core_eq hcore
          rw [hi.sameCounts.late, hi.sameCounts.consumed]
          exact h.credit ⟨x, hx, hsource.trans hF, hp.trans hphase⟩
        · rw [hi.sameCounts.builds]
          exact h.first hc G
      clock := fun _ _ h => ⟨h.1, h.2, h.3, h.4⟩ }
  setFile := fun _ _ _ h => ⟨h.1, h.2, h.3, h.4⟩
  serial := fun _ _ h => ⟨h.1, h.2, h.3, h.4⟩

/-- A resumed transaction of an admitted source is ready. -/
theorem Admitted.ready (h : Admitted F same authorized w) (hw : RepairInv sha256 clean tidy w)
    (hs : Standing sha256 clean tidy allow (fun _ => False) w) {t : Transaction D} (ht : t ∈ same)
    (hopen : t.phase.terminal = false)
    (hphase : t.phase.unbuilt = true ∨ t.phase = .candidateBuilding) : Ready clean F t w where
  saved := h.kept t ht hopen
  unverified u hu hF := (h.record hu hF).1
  credit := by
    rintro ⟨u, hu, hF, hblocked⟩
    cases hauth : authorized with
    | true => exact (h.credit hauth).1
    | false => exact absurd hblocked ((h.record hu hF).2.1 hauth)
  first hc := by
    have hmem := h.kept t ht hopen
    have hunbuilt := hphase.resolve_right (hs.others hc t hmem id)
    exact hw.attempt.unbuilt hc t hmem hunbuilt

/-- A new transaction of an admitted source is ready. -/
theorem Admitted.ready_create (h : Admitted F same authorized w)
    (hw : RepairInv sha256 clean tidy w) {t : Transaction D} (hf : Fresh t.id w)
    (hphase : t.phase = .detected) : Ready clean F t (w.saveRecord (.create authorized) t) where
  saved := by simp [World.saveRecord]
  unverified u hu hF := by
    simp only [World.saveRecord, mem_saveTransaction] at hu
    rcases hu with ⟨hu, -⟩ | rfl
    · exact (h.record hu hF).1
    · simp [hphase]
  credit := by
    rintro ⟨u, hu, hF, hblocked⟩
    simp only [World.saveRecord, mem_saveTransaction] at hu
    rcases hu with ⟨hu, -⟩ | rfl
    · cases hauth : authorized with
      | true => simpa [World.saveRecord] using (h.credit hauth).1
      | false => exact absurd hblocked ((h.record hu hF).2.1 hauth)
    · rw [hphase] at hblocked
      exact absurd hblocked (by simp)
  first hc G := by
    simpa [World.saveRecord] using hf.not_built hw G

/-- One of the transitions before the build. It may write the staging directory down. -/
theorem advance_obeys {oldIdx : Artifact D} {t : Transaction D} (ht : Unbuilt F oldIdx t)
    (dir : Option StagingDir) (hdir : PathsOk t → PathsOk { t with stagingDir := dir })
    {phase : Phase} (hphase : phase.unbuilt = true ∨ phase = .candidateBuilding) :
    Obeys sha256 clean tidy
      (fun w => Ready clean F t w ∧ Standing sha256 clean tidy allow (fun id => id = t.id) w)
      (transition { t with stagingDir := dir } phase) fun t' w =>
        (t'.id = t.id ∧ t'.phase = phase ∧ Unbuilt F oldIdx t') ∧
        Ready clean F t' w ∧ Standing sha256 clean tidy allow (fun id => id = t'.id) w := by
  -- neither phase is one that needs a proof or a backup
  have hnot : phase.proven = false ∧ phase.backed = false ∧ phase ≠ .verified ∧
      phase ≠ .manualInterventionRequired ∧ phase ≠ .candidateBuilt := by
    rcases hphase with hp | rfl
    · revert hp
      cases phase <;> simp [Phase.unbuilt, Phase.proven, Phase.backed]
    · simp [Phase.proven, Phase.backed]
  -- so the save is permitted by what the record already had
  have hpermit : ∀ w at_, RepairInv sha256 clean tidy w → Ready clean F t w →
      Permit sha256 clean tidy (.save .transition { t with
        stagingDir := dir, phase := phase, updatedAt := at_ }) w := by
    intro w at_ hw h
    refine permit_transition hw h.saved ht.not_terminal ⟨rfl, rfl, rfl, rfl, rfl, rfl⟩
      (hw.records.proven t h.saved) ?_ ?_ (hdir (hw.records.paths t h.saved))
      (fun hc _ => h.first hc) ?_
    · exact fun hp => absurd hp (by simp [hnot.1])
    · exact fun hp => absurd hp (by simp [hnot.2.1])
    · exact fun _ hp => absurd hp hnot.2.2.2.2
  -- and the record stays ready under its new phase
  refine transition_obeys ((Ready.fileFree ht.not_terminal).steady.and Standing.fileFree.steady)
    (fun w at_ hw h => hpermit w at_ hw h.1) fun w at_ hw h => ?_
  refine ⟨⟨rfl, rfl, ht.source, ht.oldIdx, hphase⟩, ⟨?_, fun u hu hF => ?_, ?_, fun hc G => ?_⟩,
    h.2.save (hpermit w at_ hw h.1).1 fun _ => rfl⟩
  · simp [World.saveRecord]
  · simp only [World.saveRecord, mem_saveTransaction] at hu
    rcases hu with ⟨hu, -⟩ | rfl
    · exact h.1.unverified u hu hF
    · exact hnot.2.2.1
  · rintro ⟨u, hu, hF, hblocked⟩
    simp only [World.saveRecord, mem_saveTransaction] at hu
    rcases hu with ⟨hu, -⟩ | rfl
    · simpa [World.saveRecord] using h.1.credit ⟨u, hu, hF, hblocked⟩
    · exact absurd hblocked hnot.2.2.2.1
  · simpa [World.saveRecord] using h.1.first hc G

/-- What is known when a build is needed. -/
def Prepared (sha256 : Bytes → D) (clean tidy : Prop) (allow : Bool) (F : SourceFingerprint D)
    (oldIdx : Artifact D) (next : Option (Transaction D)) (w : World D) : Prop :=
  ∀ t, next = some t → Unbuilt F oldIdx t ∧ Ready clean F t w ∧
    Standing sha256 clean tidy allow (fun id => id = t.id) w

omit [DecidableEq D] in
theorem Standing.narrow {current current' : TxId → Prop}
    (h : Standing sha256 clean tidy allow current w) (hsub : ∀ id, current id → current' id) :
    Standing sha256 clean tidy allow current' w :=
  ⟨h.recorded, h.calm, fun hc t ht hcur => h.others hc t ht fun hid => hcur (hsub _ hid)⟩

theorem resume_obeys {t : Transaction D} (ht : t ∈ same) (hpre : t.phase.preinstall = true)
    (hfailed : t.phase ≠ .failedPreinstall) (oldIdx : Artifact D) (oldSdx : Option (Artifact D)) :
    Obeys sha256 clean tidy (fun w => Admitted F same authorized w ∧
        Standing sha256 clean tidy allow (fun _ => False) w) (resume t oldIdx oldSdx)
      (Prepared sha256 clean tidy allow F oldIdx) := by
  have hopen : t.phase.terminal = false := by
    revert hpre
    cases t.phase <;> simp [Phase.preinstall, Phase.terminal]
  have hsteady : Steady fun w => Admitted F same authorized w ∧
      Standing sha256 clean tidy allow (fun _ => False) w :=
    Admitted.fileFree.steady.and Standing.fileFree.steady
  have hdone : ∀ w, Prepared sha256 clean tidy allow F oldIdx none w :=
    fun w t ht => absurd ht (by simp)
  unfold resume
  simp only [Prog.bind_eq, Prog.pure_eq]
  refine Obeys.bind (M := fun _ w => t.oldIdx = some oldIdx ∧ Admitted F same authorized w ∧
      Standing sha256 clean tidy allow (fun _ => False) w) (Obeys.when (fun _ => ?_)
    fun hsame w _ h => ⟨?_, h⟩) fun _ => Obeys.assume fun hold => ?_
  -- the live index is not the one on record: an operator has to look
  · exact manual_raise_obeys hopen fun w h hw => holding_of_mem hw (h.1.kept t ht hopen)
  · by_contra hne
    exact hsame (.inl hne)
  refine Obeys.ite (fun hphase => ?_) fun hbackup => Obeys.ite (fun hphase => ?_) fun hbuilt => ?_
  -- the backups exist: the installation goes on
  · refine Obeys.bind (Obeys.pre (installCandidate_obeys (Carried.trivial _) (by rw [hphase]; rfl))
      fun w _ h => ⟨h.1.kept t ht hopen, trivial⟩) fun _ => Obeys.ret fun w _ _ => hdone w
  -- the candidate is built: backups first
  · refine Obeys.bind (Obeys.pre (createBackups_obeys hphase) fun w _ h => h.1.kept t ht hopen)
      fun t' => Obeys.assume fun hphase' => ?_
    refine Obeys.bind (Obeys.pre (installCandidate_obeys (Carried.trivial _) (by rw [hphase']; rfl))
      fun w _ h => ⟨h, trivial⟩) fun _ => Obeys.ret fun w _ _ => hdone w
  -- an unfinished build starts over, and what it staged goes
  · have hphase : t.phase.unbuilt = true ∨ t.phase = .candidateBuilding := by
      revert hpre hfailed hbackup hbuilt
      cases t.phase <;> simp [Phase.preinstall, Phase.unbuilt]
    refine Obeys.bind (unlink_obeys (Q := fun w => Admitted F same authorized w ∧
      Standing sha256 clean tidy allow (fun _ => False) w) hsteady
      (fun w _ => writeOk_of_not_backup fun _ => rfl)
      fun w h => ⟨Admitted.fileFree.setFile w _ _ h.1, Standing.fileFree.setFile w _ _ h.2⟩)
      fun _ => Obeys.ret fun w hw h u hu => ?_
    obtain rfl := Option.some.inj hu
    exact ⟨⟨h.1.source _ ht, hold, hphase⟩, h.1.ready hw h.2 ht hopen hphase,
      h.2.narrow fun _ hfalse => hfalse.elim⟩

theorem resumeOrCreate_obeys (base : Base) (identity : SourceIdentity) (oldIdx : Artifact D)
    (oldSdx : Option (Artifact D)) :
    Obeys sha256 clean tidy (fun w => Admitted F same authorized w ∧
        Standing sha256 clean tidy allow (fun _ => False) w)
      (resumeOrCreate base identity F same oldIdx oldSdx authorized)
      (Prepared sha256 clean tidy allow F oldIdx) := by
  have hfree : FileFree fun w => Admitted F same authorized w ∧
      Standing sha256 clean tidy allow (fun _ => False) w :=
    ⟨Admitted.fileFree.steady.and Standing.fileFree.steady,
      fun w p n h => ⟨Admitted.fileFree.setFile w p n h.1, Standing.fileFree.setFile w p n h.2⟩,
      fun w n h => ⟨Admitted.fileFree.serial w n h.1, Standing.fileFree.serial w n h.2⟩⟩
  unfold resumeOrCreate
  simp only [Prog.bind_eq, Prog.pure_eq]
  split
  · next t hresumable =>
      obtain ⟨hmem, hphase⟩ := List.mem_filter.1 (latestOf_mem hresumable)
      have hphase : t.phase.preinstall = true ∧ t.phase ≠ .failedPreinstall := by simpa using hphase
      exact resume_obeys hmem hphase.1 hphase.2 oldIdx oldSdx
  · refine Obeys.bind (M := fun t w => Unbuilt F oldIdx t ∧ Ready clean F t w ∧
      Standing sha256 clean tidy allow (fun id => id = t.id) w)
      (create_obeys hfree base (fun w id at_ hw hf h => ?_) fun w id at_ hw hf h hs => ?_)
      fun t => Obeys.ret fun w _ h u hu => Option.some.inj hu ▸ h
    · exact h.1.permit_create hw hf ⟨rfl, rfl, rfl, rfl, rfl, rfl, rfl⟩ rfl rfl
    · exact ⟨⟨rfl, rfl, .inl rfl⟩, h.1.ready_create hw hf rfl,
        (h.2.narrow fun _ hfalse => hfalse.elim).save hs fun _ => rfl⟩

/-! ## The build -/

/-- A transaction during and after its build, before the next transition. -/
structure Building (F : SourceFingerprint D) (oldIdx : Artifact D) (t : Transaction D) : Prop where
  source : t.sourceFingerprint = F
  oldIdx : t.oldIdx = some oldIdx
  phase : t.phase = .candidateBuilding

omit [DecidableEq D] in
theorem Building.not_terminal {oldIdx : Artifact D} {t : Transaction D} (h : Building F oldIdx t) :
    t.phase.terminal = false := by
  rw [h.phase]
  rfl

omit [DecidableEq D] in
/-- Events of a build are no removals. -/
theorem Standing.log {current : TxId → Prop} (h : Standing sha256 clean tidy allow current w)
    (hjournal : w'.journal = w.journal) (htail : interrupted w'.log = interrupted w.log)
    (hlog : ∀ id offset tail, Event.truncated id offset tail ∈ w'.log →
      Event.truncated id offset tail ∈ w.log) : Standing sha256 clean tidy allow current w' where
  recorded ht id offset tail hmem := by
    rw [TailRecord, hjournal]
    exact h.recorded ht id offset tail (hlog id offset tail hmem)
  calm ht ha := htail.trans (h.calm ht ha)
  others := by
    rw [hjournal]
    exact h.others

/-- What a build request leaves behind. -/
theorem build_standing {id : TxId} {current : TxId → Prop}
    (h : Standing sha256 clean tidy allow current w) (c : RepairChoice D) :
    Standing sha256 clean tidy allow current (repairExec sha256 (.build id F) c w).2 ∧
      (repairExec sha256 (.build id F) c w).2.journal = w.journal ∧
      ∀ returncode payload, (repairExec sha256 (.build id F) c w).1 = .output returncode payload →
        Event.built id payload ∈ (repairExec sha256 (.build id F) c w).2.log := by
  simp only [repairExec]
  cases hhelper : c.helper with
  | output returncode payload =>
      refine ⟨h.log rfl rfl fun _ _ _ hm => by simpa [World.setFile] using hm, rfl, ?_⟩
      rintro _ _ heq
      obtain ⟨-, rfl⟩ := HelperProcess.output.inj heq
      simp
  | _ =>
      refine ⟨h.log rfl rfl fun _ _ _ hm => by simpa [World.setFile] using hm, rfl, ?_⟩
      exact fun _ _ heq => absurd heq (by simp)

theorem runBuild_triple {oldIdx : Artifact D} {t : Transaction D} (hF : F.isKnown = true)
    (ht : Building F oldIdx t) :
    (repairDiscipline sha256 clean tidy).Triple
      (fun w => Ready clean F t w ∧ Standing sha256 clean tidy allow (fun id => id = t.id) w)
      (runBuild t.id F)
      (fun payload w => (t ∈ w.journal ∧ Standing sha256 clean tidy allow (fun id => id = t.id) w) ∧
        Event.built t.id payload ∈ w.log ∧ payload.success = true)
      fun _ w => t ∈ w.journal ∧ Standing sha256 clean tidy allow (fun id => id = t.id) w := by
  have hsteady : Steady fun w => Ready clean F t w ∧
      Standing sha256 clean tidy allow (fun id => id = t.id) w :=
    (Ready.fileFree ht.not_terminal).steady.and Standing.fileFree.steady
  unfold runBuild
  simp only [Prog.bind_eq]
  refine Discipline.Triple.bind (M := fun process w => (t ∈ w.journal ∧
    Standing sha256 clean tidy allow (fun id => id = t.id) w) ∧ ∀ returncode payload,
      process = HelperProcess.output returncode payload → Event.built t.id payload ∈ w.log) ?_
    fun process => ?_
  · refine Discipline.Triple.ask (fun w w' _ _ hi h => hsteady.stable w w' hi h) (fun w _ h => ?_)
      fun c w _ h _ => ?_
    · exact ⟨hF, ⟨t, h.1.saved, rfl, ht.source, ht.phase⟩, h.1.unverified, h.1.credit, h.1.first⟩
    · obtain ⟨hstanding, hjournal, hevent⟩ := build_standing (F := F) h.2 c
      exact ⟨⟨hjournal ▸ h.1.saved, hstanding⟩, hevent⟩
  · refine (helperPayload_triple process).mono (fun w _ h => h) (fun payload w _ h => ?_)
      fun _ w _ h => h.1
    obtain ⟨hw, returncode, hprocess, hsuccess⟩ := h
    exact ⟨hw.1, hw.2 returncode payload hprocess, hsuccess⟩

/-- The transaction and the state after a build, whatever came of it. -/
structure Judged (sha256 : Bytes → D) (clean tidy : Prop) (allow : Bool) (t : Transaction D)
    (w : World D) : Prop where
  holding : Holding t w
  standing : Standing sha256 clean tidy allow (fun id => id = t.id) w

theorem Judged.steady {t : Transaction D} (ht : t.phase.terminal = false) :
    Steady (Judged sha256 clean tidy allow t) :=
  ⟨fun w w' hi h => ⟨(Steady.holding (ne_manual_of_open ht)).stable w w' hi h.1, h.2.stable hi⟩,
    fun w n h => ⟨(Steady.holding (ne_manual_of_open ht)).clock w n h.1,
      Standing.fileFree.steady.clock w n h.2⟩⟩

omit [DecidableEq D] in
/-- A held transaction with a candidate that the helper result proves. -/
theorem Holding.prove {t t' : Transaction D} (h : Holding t w) (hphase : t'.phase = t.phase)
    (hkeep : KeepsRecord t t')
    (hproven : ∀ d, t'.candidateIdx = some d → t.candidateIdx = some d ∨
      ProvenBy w.log t'.id t'.sourceFingerprint d) (hpaths : PathsOk t') : Holding t' w := by
  obtain ⟨u, hu, hup, hk⟩ := h.record
  refine ⟨⟨u, hu, hup.trans hphase.symm, hkeep.id.trans hk.id, hkeep.source.trans hk.source,
    hkeep.count.trans hk.count, hkeep.requestedAt.trans hk.requestedAt,
    hkeep.consumed.trans hk.consumed, hkeep.identical.trans hk.identical⟩, fun d hd => ?_, hpaths⟩
  rcases hproven d hd with hold | hnew
  · rw [hkeep.id, hkeep.source]
    exact h.proven d hold
  · exact hnew

theorem discardCandidate_obeys {t : Transaction D} (ht : t.phase.terminal = false)
    (built : HelperPayload D) :
    Obeys sha256 clean tidy (Judged sha256 clean tidy allow t) (discardCandidate t.id built)
      fun _ => Judged sha256 clean tidy allow t := by
  unfold discardCandidate
  refine Obeys.ite (fun _ => ?_) fun _ => Obeys.ret fun w _ h => h
  refine Obeys.ask (Judged.steady ht) (fun w _ _ => writeOk_of_not_backup fun _ => rfl) fun c w _ h => ?_
  simp only [repairExec, attempted]
  cases c.fault with
  | none => exact ⟨⟨h.1.1, h.1.2, h.1.3⟩, Standing.fileFree.setFile w _ _ h.2⟩
  | before => exact h
  | after => exact ⟨⟨h.1.1, h.1.2, h.1.3⟩, Standing.fileFree.setFile w _ _ h.2⟩

/-- An accepted helper result proves the recorded candidate. -/
theorem acceptBuild_obeys (identity : SourceIdentity) {oldIdx : Artifact D} {t : Transaction D}
    (ht : Building F oldIdx t) (built : HelperPayload D) :
    Obeys sha256 clean tidy (fun w => Judged sha256 clean tidy allow t w ∧
        Event.built t.id built ∈ w.log ∧ built.success = true) (acceptBuild identity t F built)
      fun result w => (Building F oldIdx result.1 ∧
        (result.2 = none → result.1.candidatePath = some (.candidate result.1.id) ∧
          ∃ d, result.1.candidateIdx = some d)) ∧ Judged sha256 clean tidy allow result.1 w := by
  have hsame : ∀ t' : Transaction D, t'.phase = t.phase → KeepsRecord t t' → t'.oldIdx = t.oldIdx →
      Building F oldIdx t' := fun t' hp hk ho =>
    ⟨hk.source.trans ht.source, ho.trans ht.oldIdx, hp.trans ht.phase⟩
  unfold acceptBuild
  simp only [Prog.bind_eq, Prog.pure_eq]
  split
  · exact Obeys.ret fun w _ h => ⟨⟨ht, by simp⟩, h.1⟩
  · next raw hraw =>
      refine Obeys.ite (fun _ => ?_) fun hfingerprint => ?_
      · refine Obeys.bind (Obeys.pre (discardCandidate_obeys ht.not_terminal built) fun w _ h => h.1)
          fun removed => Obeys.ret fun w _ h => ⟨⟨ht, by simp⟩, h⟩
      · have hF : enrichFingerprint identity raw = F := by
          by_contra hne
          exact hfingerprint hne
        have hkeep : ∀ (w : World D) (t' : Transaction D), Judged sha256 clean tidy allow t w →
            t'.phase = t.phase → KeepsRecord t t' → t'.candidateIdx = t.candidateIdx →
            PathsOk t' → Judged sha256 clean tidy allow t' w := by
          intro w t' h hp hk hc hpaths
          exact ⟨h.1.prove hp hk (fun d hd => .inl (hc.symm.trans hd)) hpaths, hk.id ▸ h.2⟩
        refine Obeys.ite (fun _ => ?_) fun hproof => Obeys.ite (fun _ => ?_) fun _ => ?_
        · refine Obeys.ret fun w _ h => ⟨⟨hsame _ rfl ⟨rfl, rfl, rfl, rfl, rfl, rfl⟩ rfl, by simp⟩, ?_⟩
          exact hkeep w _ h.1 rfl ⟨rfl, rfl, rfl, rfl, rfl, rfl⟩ rfl h.1.1.paths
        · refine Obeys.ret fun w _ h => ⟨⟨hsame _ rfl ⟨rfl, rfl, rfl, rfl, rfl, rfl⟩ rfl, by simp⟩, ?_⟩
          exact hkeep w _ h.1 rfl ⟨rfl, rfl, rfl, rfl, rfl, rfl⟩ rfl h.1.1.paths
        · have hpaths : ∀ w : World D, Judged sha256 clean tidy allow t w →
              ∀ t' : Transaction D, t'.id = t.id → t'.installTempPath = t.installTempPath →
              t'.stagingDir = t.stagingDir → t'.candidatePath = some (.candidate t.id) → PathsOk t' := by
            intro w h t' hid hi hs hc
            refine ⟨fun p hp => ?_, fun p hp => ?_, fun d hd => ?_⟩
            · rw [hc] at hp
              rw [hid]
              exact (Option.some.inj hp).symm
            · rw [hid]
              exact h.1.paths.2.1 p (hi ▸ hp)
            · rw [hid]
              exact h.1.paths.2.2 d (hs ▸ hd)
          split
          · next size digest hsize hdigest =>
              refine Obeys.ret fun w _ h => ⟨⟨hsame _ rfl ⟨rfl, rfl, rfl, rfl, rfl, rfl⟩ rfl,
                fun _ => ⟨rfl, _, rfl⟩⟩, h.1.1.prove rfl ⟨rfl, rfl, rfl, rfl, rfl, rfl⟩ (fun d hd => ?_)
                (hpaths w h.1 _ rfl rfl rfl rfl), h.1.2⟩
              -- the helper result is the proof of the candidate
              refine .inr ⟨built, h.2.1, h.2.2, ?_, ?_, ⟨identity, raw, hraw, hF.trans ht.source.symm⟩,
                ?_, ?_⟩
              · by_contra hne
                exact hproof (.inl (by simpa using hne))
              · by_contra hne
                exact hproof (.inr (by simpa using hne))
              · rw [hsize, ← Option.some.inj hd]
              · rw [hdigest, ← Option.some.inj hd]
          · refine Obeys.ret fun w _ h => ⟨⟨hsame _ rfl ⟨rfl, rfl, rfl, rfl, rfl, rfl⟩ rfl, by simp⟩, ?_⟩
            exact hkeep w _ h.1 rfl ⟨rfl, rfl, rfl, rfl, rfl, rfl⟩ rfl (hpaths w h.1 _ rfl rfl rfl rfl)

theorem proveBuild_obeys (identity : SourceIdentity) {oldIdx : Artifact D} {t : Transaction D}
    (hF : F.isKnown = true) (ht : Building F oldIdx t) :
    Obeys sha256 clean tidy
      (fun w => Ready clean F t w ∧ Standing sha256 clean tidy allow (fun id => id = t.id) w)
      (proveBuild identity t F) fun result w => (Building F oldIdx result.1 ∧
        (result.2 = none → result.1.candidatePath = some (.candidate result.1.id) ∧
          ∃ d, result.1.candidateIdx = some d)) ∧ Judged sha256 clean tidy allow result.1 w := by
  unfold proveBuild
  simp only [Prog.bind_eq, Prog.pure_eq]
  refine Obeys.bind (M := fun outcome w => Judged sha256 clean tidy allow t w ∧
    ∀ built, outcome = .ok built → Event.built t.id built ∈ w.log ∧ built.success = true) ?_
    fun outcome => ?_
  · refine Discipline.Triple.attempt ((runBuild_triple hF ht).mono (fun w _ h => h)
      (fun built w hw h => ⟨⟨holding_of_mem hw h.1.1, h.1.2⟩, ?_⟩)
      fun e w hw h => ⟨⟨holding_of_mem hw h.1, h.2⟩, by simp⟩)
    rintro _ heq
    obtain rfl := Except.ok.inj heq
    exact h.2
  · cases outcome with
    | ok built =>
        exact Obeys.pre (acceptBuild_obeys identity ht built) fun w _ h => ⟨h.1, h.2 built rfl⟩
    | error e => exact Obeys.ret fun w _ h => ⟨⟨ht, by simp⟩, h.1⟩

/-! ## After the build -/

theorem backUpAndInstall_obeys {t : Transaction D} (hphase : t.phase = .candidateBuilding)
    (hdiffers : Differs t) :
    Obeys sha256 clean tidy (Judged sha256 clean tidy allow t) (backUpAndInstall t)
      fun _ _ => True := by
  have hopen : t.phase.terminal = false := by
    rw [hphase]
    rfl
  unfold backUpAndInstall
  simp only [Prog.bind_eq]
  refine Obeys.bind (M := fun t' w => t'.phase = .candidateBuilt ∧ t' ∈ w.journal)
    (transition_obeys (Judged.steady hopen) (fun w at_ hw h => ?_)
      fun w at_ _ _ => ⟨rfl, by simp [World.saveRecord]⟩) fun t' => Obeys.assume fun hphase' => ?_
  · obtain ⟨u, hu, hup, hkeep⟩ := h.1.record
    refine permit_transition hw hu (by rw [hup]; exact hopen)
      ⟨hkeep.1, hkeep.2, hkeep.3, hkeep.4, hkeep.5, hkeep.6⟩ h.1.proven (fun _ => hdiffers) ?_ h.1.paths
      ?_ fun ht _ => h.2.recorded ht
    · exact fun hfalse => absurd hfalse (by simp [Phase.backed])
    · exact fun _ hfalse => absurd hfalse (by simp [Phase.unbuilt])
  · refine (createBackups_obeys hphase').bind fun t'' => Obeys.assume fun hphase'' => ?_
    exact Obeys.pre (installCandidate_obeys (Carried.trivial _) (by rw [hphase'']; rfl))
      fun w _ h => ⟨h, trivial⟩

/-- A candidate is refused for being identical only when no removed tail is pending. -/
theorem refuseIdentical_obeys {t : Transaction D} (hphase : t.phase = .candidateBuilding)
    {reason : String} {Q : Unit → World D → Prop} :
    Obeys sha256 clean tidy (Judged sha256 clean tidy false t)
      ((manual { t with candidateIdenticalToLiveIndex := true } reason).bind fun _ =>
        (Prog.raise (.manual reason) : RepairProg D Unit)) Q := by
  have hopen : t.phase.terminal = false := by
    rw [hphase]
    rfl
  refine Obeys.bind (M := fun _ _ => True) ?_ fun _ => Obeys.raise
  unfold manual
  simp only [Prog.bind_eq, Prog.pure_eq]
  refine Obeys.bind (M := fun _ _ => True) (transition_obeys (Judged.steady hopen) (fun w at_ hw h => ?_)
    fun _ _ _ _ => trivial) fun _ => Obeys.ret fun _ _ _ => trivial
  obtain ⟨u, hu, hup, hkeep⟩ := h.1.record
  have huopen : u.phase.terminal = false := by
    rw [hup]
    exact hopen
  -- the same save without the mark is an ordinary transition
  obtain ⟨hs, hr, -⟩ := permit_close (t := { t with
    failureReason := reason
    phase := .manualInterventionRequired
    updatedAt := at_ }) hw hu huopen
    ⟨hkeep.1, hkeep.2, hkeep.3, hkeep.4, hkeep.5, hkeep.6⟩ h.1.proven h.1.paths ⟨rfl, rfl⟩
  refine ⟨⟨hs.1, fun o ho hid => ?_, hs.3, ?_, ?_, hs.6, hs.7, hs.8, hs.9, hs.10, hs.11, ?_,
    fun _ => rfl⟩, ⟨hr.1, hr.2, hr.3⟩, fun ht _ => ⟨by simp, fun _ => h.2.calm ht rfl⟩⟩
  · obtain ⟨x, hx, hxid, hxphase, -⟩ := hw.records.operator_record ho
    obtain rfl := hw.records.unique x hx u hu (hxid.trans (hid.trans hkeep.id))
    exact absurd hxphase (ne_manual_of_open huopen)
  · exact fun hfalse => absurd hfalse (by simp [Phase.proven, Phase.backed])
  · exact fun hfalse => absurd hfalse (by simp [Phase.backed])
  · exact fun _ hfalse => absurd hfalse (by simp [Phase.unbuilt])

theorem finishBuild_obeys {oldIdx : Artifact D} {t : Transaction D} (ht : Building F oldIdx t)
    {d : Digest D} (hd : t.candidateIdx = some d) :
    Obeys sha256 clean tidy (Judged sha256 clean tidy allow t) (finishBuild t oldIdx allow)
      fun _ _ => True := by
  unfold finishBuild
  simp only [Prog.bind_eq]
  refine (sameArtifact_obeys (Judged.steady ht.not_terminal) _ _).bind fun same => ?_
  refine Obeys.bind (M := fun _ => Judged sha256 clean tidy allow t) (Obeys.when (fun _ => ?_)
    fun _ w _ h => h.1) fun _ => ?_
  · exact Obeys.bind (Obeys.pre (recordPreinstallFailure_obeys ht.not_terminal _) fun w _ h => h.1.1)
      fun _ => Obeys.raise
  refine Obeys.ite (fun hidentical => ?_) fun hne => ?_
  · refine Obeys.ite (fun _ => ?_) fun hallow => ?_
    · refine Obeys.pre (backUpAndInstall_obeys ht.phase ⟨d, oldIdx, hd, ht.oldIdx, .inr rfl⟩)
        fun w _ h => ⟨h.1.prove rfl ⟨rfl, rfl, rfl, rfl, rfl, rfl⟩ (fun _ hd => .inl hd) h.1.paths, h.2⟩
    · have hallow : allow = false := by simpa using hallow
      subst hallow
      exact refuseIdentical_obeys ht.phase
  · refine backUpAndInstall_obeys ht.phase ⟨d, oldIdx, hd, ht.oldIdx, .inl fun heq => hne ?_⟩
    rw [hd, heq]

/-! ## Tail recovery -/

/-- A reported recovery is the result of a helper that was not cut off, and the world is the one that
this helper left. -/
theorem recoverTail_returned {id : TxId} {expected : Option (RawFingerprint D)} {limit : Int}
    {c : RepairChoice D} {offset tailSize needleId : Nat} {tailSha256 : D} {after : RawFingerprint D}
    (h : (repairExec sha256 (.recoverTail id expected limit) c w).1 =
      .recovered offset tailSize tailSha256 needleId after) :
    ∃ source mode state, (w.files (.dat id.base)).bind Node.read = some (source, mode) ∧
      CutDone sha256 (tailStart w c id source) limit offset state ∧
      tailSize = source.length - offset ∧ tailSha256 = sha256 (source.drop offset) ∧
      (repairExec sha256 (.recoverTail id expected limit) c w).2 =
        tailEnd w id mode (tailStart w c id source) state := by
  cases hfile : (w.files (.dat id.base)).bind Node.read with
  | none => cases hfault : c.tailFault <;> simp [repairExec, hfault, hfile] at h
  | some file =>
      cases hfault : c.tailFault with
      | spawnFailed => simp [repairExec, hfault, hfile] at h
      | lost => simp [repairExec, hfault, hfile] at h
      | none =>
          simp only [repairExec, hfault, hfile] at h ⊢
          have hsafe := (recoverIncompleteTail_safe sha256 (tailStart w c id file.1)
            ⟨expected, limit⟩).run_outcome (fun _ => rfl) c.tailChoices
          generalize (recoverIncompleteTail sha256 ⟨expected, limit⟩).run (helperExec sha256)
            c.tailChoices (tailStart w c id file.1) = finish at h hsafe ⊢
          obtain ⟨outcome, state⟩ := finish
          -- only a helper that returns reports a recovery
          have hout : outcome = .ok (.recovered offset tailSize tailSha256 needleId after) := by
            cases outcome with
            | raised e => simp [tailAnswer] at h
            | crashed => simp [tailAnswer] at h
            | ok result =>
                cases result with
                | failed error => simp [tailAnswer] at h
                | recovered o size digest needle after' =>
                    have heq : TailProcess.recovered o size digest needle after' =
                      .recovered offset tailSize tailSha256 needleId after := h
                    simpa using heq
          subst hout
          obtain ⟨hcut, hsize, hsha⟩ := hsafe.2 _ _ _ _ _ rfl
          exact ⟨file.1, file.2, state, rfl, hcut, hsize, hsha, rfl⟩

/-- A reported recovery has removed the reported tail, and nothing else happened to the journal. -/
theorem recoverTail_truncated {id : TxId} {expected : Option (RawFingerprint D)} {limit : Int}
    {c : RepairChoice D} {offset tailSize needleId : Nat} {tailSha256 : D} {after : RawFingerprint D}
    (h : (repairExec sha256 (.recoverTail id expected limit) c w).1 =
      .recovered offset tailSize tailSha256 needleId after) :
    (repairExec sha256 (.recoverTail id expected limit) c w).2.journal = w.journal ∧
      ∃ tail, (repairExec sha256 (.recoverTail id expected limit) c w).2.log =
        .truncated id offset tail :: w.log ∧ tail.length = tailSize ∧ sha256 tail = tailSha256 := by
  obtain ⟨source, mode, state, -, hdone, hsize, hsha, hend⟩ := recoverTail_returned h
  obtain ⟨candidate, live, before, hcut, hsource, -⟩ := hdone
  obtain ⟨b, v, hproven⟩ := hcut.candidateProof
  obtain ⟨-, hinside, -⟩ := hproven.range
  have hstart : (tailStart w c id source).source = source := rfl
  rw [hstart] at hinside hsource
  -- the cut shortens the file, so the world logs it
  have hlen : state.source.length = offset := by
    rw [hsource, List.length_take]
    omega
  have hne : state.source ≠ source := by
    intro heq
    rw [heq] at hlen
    omega
  rw [hend]
  refine ⟨(sameRecords_tailEnd w id _ _ state).journal, source.drop offset, ?_, ?_, hsha.symm⟩
  · simp only [tailEnd, hstart, hne, if_false, hlen]
    split <;> rfl
  · rw [hsize, List.length_drop]

/-- The state between a reported removal and its journal record. -/
structure TailCut (sha256 : Bytes → D) (clean tidy : Prop) (t : Transaction D)
    (offset tailSize : Nat) (tailSha256 : D) (w : World D) : Prop where
  holding : Holding t w
  recorded : tidy → ∀ id o tail, Event.truncated id o tail ∈ w.log →
    TailRecord sha256 w id o tail ∨
      (id = t.id ∧ o = offset ∧ tail.length = tailSize ∧ sha256 tail = tailSha256)
  others : clean → ∀ u ∈ w.journal, u.id ≠ t.id → u.phase ≠ .candidateBuilding

theorem TailCut.steady {t : Transaction D} (ht : t.phase.terminal = false) {offset tailSize : Nat}
    {tailSha256 : D} : Steady (TailCut sha256 clean tidy t offset tailSize tailSha256) where
  stable := by
    intro w w' hi h
    refine ⟨(Steady.holding (ne_manual_of_open ht)).stable w w' hi h.holding, ?_, ?_⟩
    · intro htidy id o tail hmem
      rcases h.recorded htidy id o tail ((hi.sameCounts.truncated _ _ _).1 hmem) with hrec | hnew
      · obtain ⟨x, hx, hid, hphase, hrecord⟩ := hrec
        exact .inl ⟨x, (hi.kept x (by simp [hphase])).2 hx, hid, hphase, hrecord⟩
      · exact .inr hnew
    · intro hc u hu hne
      obtain ⟨x, hx, hcore⟩ := hi.back u hu
      obtain ⟨hid, hp, -⟩ := core_eq hcore
      rw [← hp]
      exact h.others hc x hx (hid ▸ hne)
  clock := fun w n h => ⟨(Steady.holding (ne_manual_of_open ht)).clock w n h.holding, h.2, h.3⟩

theorem spawnTailRecovery_obeys {t : Transaction D} (ht : t.phase.terminal = false)
    (expected : Option (RawFingerprint D)) (limit : Int) :
    Obeys sha256 clean tidy (Judged sha256 clean tidy allow t)
      (spawnTailRecovery t.id expected limit) fun process w =>
        ∀ offset tailSize tailSha256 needleId after,
          process = .recovered offset tailSize tailSha256 needleId after →
            TailCut sha256 clean tidy t offset tailSize tailSha256 w := by
  refine Obeys.ask (Judged.steady ht) (fun _ _ _ => trivial) fun c w _ h => ?_
  intro offset tailSize tailSha256 needleId after hanswer
  obtain ⟨hjournal, tail, hlog, hsize, hsha⟩ := recoverTail_truncated hanswer
  obtain ⟨u, hu, hup, hkeep⟩ := h.1.record
  refine ⟨⟨⟨u, hjournal ▸ hu, hup, hkeep⟩, fun d hd => ?_, h.1.paths⟩, fun htidy id o tl hmem => ?_, ?_⟩
  · exact (h.1.proven d hd).mono fun e he => by
      rw [hlog]
      exact List.mem_cons_of_mem _ he
  · rw [hlog] at hmem
    rcases List.mem_cons.1 hmem with heq | hmem
    · obtain ⟨rfl, rfl, rfl⟩ := Event.truncated.inj heq
      exact .inr ⟨rfl, rfl, hsize, hsha⟩
    · left
      rw [TailRecord, hjournal]
      exact h.2.recorded htidy id o tl hmem
  · rw [hjournal]
    exact fun hc x hx hne => h.2.others hc x hx hne

/-- A recovered tail is journaled before the repair starts over. -/
theorem recordTail_obeys {t : Transaction D} (ht : t.phase.terminal = false)
    {offset tailSize needleId : Nat} {tailSha256 : D} (recovered : Option (SourceFingerprint D)) :
    Obeys sha256 clean tidy (TailCut sha256 clean tidy t offset tailSize tailSha256)
      (transition { t with
        incompleteTail := some ⟨offset, tailSize, tailSha256, .incompleteTail t.id, needleId⟩
        recoveredSourceFingerprint := recovered } .tailRecovered) fun _ =>
      Standing sha256 clean tidy true fun _ => False := by
  have hpermit : ∀ w at_, RepairInv sha256 clean tidy w →
      TailCut sha256 clean tidy t offset tailSize tailSha256 w →
      Permit sha256 clean tidy (.save .transition { t with
        incompleteTail := some ⟨offset, tailSize, tailSha256, .incompleteTail t.id, needleId⟩
        recoveredSourceFingerprint := recovered
        phase := .tailRecovered
        updatedAt := at_ }) w := by
    intro w at_ hw h
    obtain ⟨u, hu, hup, hkeep⟩ := h.holding.record
    exact permit_close hw hu (by rw [hup]; exact ht)
      ⟨hkeep.1, hkeep.2, hkeep.3, hkeep.4, hkeep.5, hkeep.6⟩ h.holding.proven h.holding.paths ⟨rfl, rfl⟩
  refine transition_obeys (TailCut.steady ht) hpermit fun w at_ hw h => ⟨?_, by simp, ?_⟩
  · intro htidy id o tail hmem
    have hmem' : Event.truncated id o tail ∈ w.log := by
      simpa [World.saveRecord] using hmem
    -- a truncation was recorded before, or it is the one this record describes
    rcases h.recorded htidy id o tail hmem' with hrec | ⟨rfl, rfl, rfl, rfl⟩
    · exact (hpermit w at_ hw h).1.keeps_tailRecord hrec
    · exact ⟨_, mem_saveTransaction.2 (.inr rfl), rfl, rfl, needleId, rfl⟩
  · intro hc x hx _
    simp only [World.saveRecord, mem_saveTransaction] at hx
    rcases hx with ⟨hx, hne⟩ | rfl
    · exact h.others hc x hx hne
    · simp

theorem recoverIncompleteTail_obeys (cfg : Config) {t : Transaction D}
    (ht : t.phase.terminal = false) (payload : HelperPayload D) :
    Obeys sha256 clean tidy (Judged sha256 clean tidy allow t)
      (RepairProg.recoverIncompleteTail cfg t F payload) fun recovered w =>
        (recovered = true → Standing sha256 clean tidy true (fun _ => False) w) ∧
          (recovered = false → Judged sha256 clean tidy allow t w) := by
  unfold RepairProg.recoverIncompleteTail
  simp only [Prog.bind_eq, Prog.pure_eq]
  split
  · exact Obeys.ret fun w _ h => ⟨by simp, fun _ => h⟩
  · next violation hgate =>
      refine (fsyncDirectory_obeys (Judged.steady ht)).bind fun _ => ?_
      refine (spawnTailRecovery_obeys ht _ _).bind fun process => ?_
      cases process with
      | recovered offset tailSize tailSha256 needleId after =>
          simp only [tailPayload, Prog.pure_eq, Prog.ret_bind]
          refine Obeys.bind (M := fun _ w => (offset = violation.offset ∧
              tailSize = tailSizeOf payload violation) ∧
              TailCut sha256 clean tidy t offset tailSize tailSha256 w)
            (Obeys.raiseIf fun hsame w _ h => ⟨by tauto, h _ _ _ _ _ rfl⟩)
            fun _ => Obeys.assume fun hboundary => ?_
          obtain ⟨rfl, rfl⟩ := hboundary
          refine Obeys.bind (M := fun _ => TailCut sha256 clean tidy t violation.offset
            (tailSizeOf payload violation) tailSha256) (Obeys.raiseIf fun _ w _ h => h) fun _ => ?_
          exact (recordTail_obeys ht _).bind fun _ => Obeys.ret fun w _ h => ⟨fun _ => h, by simp⟩
      | _ => exact Obeys.raise

/-! ## The whole repair -/

section

variable {again : RepairProg D Unit}
  (hagain : Obeys sha256 clean tidy (Standing sha256 clean tidy true fun _ => False) again
    fun _ _ => True)

include hagain in
theorem failBuild_obeys (cfg : Config) {oldIdx : Artifact D} {t : Transaction D}
    (ht : Building F oldIdx t) (e : RepairExc D) :
    Obeys sha256 clean tidy (Judged sha256 clean tidy allow t) (failBuild cfg t F again e)
      fun _ _ => True := by
  have hrecord : ∀ reason, Obeys sha256 clean tidy (Judged sha256 clean tidy allow t)
      ((recordPreinstallFailure t reason).bind fun _ =>
        (Prog.raise (.repair reason) : RepairProg D Unit)) fun _ _ => True := fun reason =>
    Obeys.bind (Obeys.pre (recordPreinstallFailure_obeys ht.not_terminal reason) fun w _ h => h.1)
      fun _ => Obeys.raise
  cases e with
  | unsafeCandidate message payload =>
      simp only [failBuild, Prog.bind_eq]
      refine (recoverIncompleteTail_obeys cfg ht.not_terminal payload).bind fun recovered => ?_
      refine Obeys.ite (fun hrecovered => Obeys.pre hagain fun w _ h => h.1 hrecovered) fun hfailed => ?_
      exact manual_raise_obeys ht.not_terminal fun w h _ => (h.2 (by simpa using hfailed)).1
  | manual message => exact manual_raise_obeys ht.not_terminal fun w h _ => h.1
  | recursion => exact Obeys.raise
  | os => exact hrecord _
  | lookup => exact hrecord _
  | repair message => exact hrecord _
  | journal message => exact hrecord _

include hagain in
theorem buildAndInstall_obeys (cfg : Config) (identity : SourceIdentity) (hF : F.isKnown = true)
    {oldIdx : Artifact D} {t : Transaction D} (ht : Unbuilt F oldIdx t) :
    Obeys sha256 clean tidy
      (fun w => Ready clean F t w ∧ Standing sha256 clean tidy allow (fun id => id = t.id) w)
      (buildAndInstall cfg identity t F oldIdx allow again) fun _ _ => True := by
  unfold buildAndInstall
  simp only [Prog.bind_eq]
  refine (advance_obeys ht t.stagingDir id (.inl rfl)).bind fun t₁ => Obeys.assume fun ht₁ => ?_
  refine (advance_obeys ht₁.2.2 _ PathsOk.staged (.inl rfl)).bind fun t₂ => Obeys.assume fun ht₂ => ?_
  refine (advance_obeys ht₂.2.2 t₂.stagingDir id (.inr rfl)).bind fun t₃ => Obeys.assume fun ht₃ => ?_
  have hbuilding : Building F oldIdx t₃ := ⟨ht₃.2.2.source, ht₃.2.2.oldIdx, ht₃.2.1⟩
  refine (proveBuild_obeys identity hF hbuilding).bind fun result => Obeys.assume fun hresult => ?_
  obtain ⟨t₄, failure⟩ := result
  cases failure with
  | some e => exact failBuild_obeys hagain cfg hresult.1 e
  | none =>
      obtain ⟨-, d, hd⟩ := hresult.2 rfl
      exact finishBuild_obeys hresult.1 hd

end

/-- `_repair_one`: every request of every branch is permitted. -/
theorem repairOne_obeys (cfg : Config) (args : RepairArgs) :
    ∀ (fuel : Nat) (allow : Bool), Obeys sha256 clean tidy
      (Standing sha256 clean tidy allow fun _ => False) (repairOne cfg args fuel allow : RepairProg D Unit)
      fun _ _ => True := by
  intro fuel
  induction fuel with
  | zero => exact fun _ => Obeys.raise
  | succ fuel ih =>
      intro allow
      have hsteady : Steady (Standing sha256 clean tidy allow fun _ => False) := Standing.fileFree.steady
      unfold repairOne
      simp only [Prog.bind_eq, Prog.pure_eq]
      refine Obeys.bind (M := fun _ => Standing sha256 clean tidy allow fun _ => False)
        (Obeys.orRaise fun _ _ w _ h => h) fun base => ?_
      refine (authorizeUnfingerprintedRetry_obeys _).bind fun retry => ?_
      refine (preflightFingerprint_obeys hsteady (fun w h => h.recorded) base _ retry).bind fun F => Obeys.assume fun hF => ?_
      refine (admitSource_obeys hF).bind fun admitted => ?_
      obtain ⟨same, authorized⟩ := admitted
      refine (closeStale_obeys _).bind fun _ => ?_
      refine (liveArtifacts_obeys base _).bind fun live => ?_
      obtain ⟨oldIdx, oldSdx⟩ := live
      refine (resumeOrCreate_obeys base _ oldIdx oldSdx).bind fun next => ?_
      cases next with
      | none => exact Obeys.ret fun _ _ _ => trivial
      | some t =>
          refine Obeys.derive (φ := Unbuilt F oldIdx t) (fun w _ h => (h t rfl).1) fun ht => ?_
          exact Obeys.pre (buildAndInstall_obeys (ih true) cfg _ hF ht) fun w _ h => (h t rfl).2

end StorageNode.IndexRepair
