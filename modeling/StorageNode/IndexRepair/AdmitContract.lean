import StorageNode.IndexRepair.InstallContract
import StorageNode.IndexRepair.Repair

/-!
# Contracts of admission

What `_repair_one` knows before it builds. `Standing` is carried from its start: removed tails are
journaled and no other transaction is being built. `Admitted` is what the checks against the journal
establish for a source: it is not verified, and either it is not blocked and has attempts left, or an
authorization was used for it that no build and no transaction has taken up yet.
-/

set_option autoImplicit false

namespace StorageNode.IndexRepair

open StorageNode.Program StorageNode.IndexHelper RepairProg

variable {D : Type} [DecidableEq D]

/-! ## Requests in the log -/

/-- What `request_retry` events leave alone. -/
structure SameCounts (log log' : List (Event D)) : Prop where
  consumed : ∀ F, consumed F log' = IndexRepair.consumed F log
  authorized : ∀ F, authorizedCreations F log' = authorizedCreations F log
  builds : ∀ F, builds F log' = IndexRepair.builds F log
  late : ∀ F, lateBuilds F log' = lateBuilds F log
  tail : interrupted log' = interrupted log
  truncated : ∀ id offset tail, Event.truncated id offset tail ∈ log' ↔
    Event.truncated id offset tail ∈ log
  requested : ∀ F id, (requested F log).count id ≤ (IndexRepair.requested F log').count id

theorem SameCounts.retry (t : Transaction D) {log log' : List (Event D)} (h : SameCounts log log') :
    SameCounts log (.saved .retry t :: log') where
  consumed F := by simpa using h.consumed F
  authorized F := by simpa using h.authorized F
  builds F := by simpa using h.builds F
  late F := by simpa using h.late F
  tail := h.tail
  truncated id offset tail := by simpa using h.truncated id offset tail
  requested F id := by
    refine Nat.le_trans (h.requested F id) ?_
    rw [requested_saved]
    split
    · exact List.count_le_count_cons
    · exact Nat.le_refl _

theorem Interference.sameCounts {w w' : World D} (h : Interference w w') :
    SameCounts w.log w'.log := by
  obtain ⟨requests, hlog, hall⟩ := h.log
  rw [hlog]
  clear hlog
  induction requests with
  | nil => exact ⟨fun _ => rfl, fun _ => rfl, fun _ => rfl, fun _ => rfl, rfl, fun _ _ _ => Iff.rfl,
      fun _ _ => Nat.le_refl _⟩
  | cons e requests ih =>
      obtain ⟨t, rfl⟩ := hall e List.mem_cons_self
      exact (ih fun e he => hall e (List.mem_cons_of_mem _ he)).retry t

omit [DecidableEq D] in
/-- A saved record starts no interruption. -/
theorem interrupted_saved {kind : SaveKind} {t : Transaction D} {log : List (Event D)}
    (h : interrupted log = false) : interrupted (.saved kind t :: log) = false := by
  cases kind with
  | transition =>
      simp only [interrupted]
      split
      · rfl
      · exact h
  | _ => exact h

/-! ## What a repair carries along -/

/-- Removed tails are journaled, and none is pending unless identical candidates are accepted; no
transaction outside `current` is being built. -/
structure Standing (sha256 : Bytes → D) (clean tidy : Prop) (allowIdentical : Bool)
    (current : TxId → Prop) (w : World D) : Prop where
  recorded : tidy → Recorded sha256 w
  calm : tidy → allowIdentical = false → interrupted w.log = false
  others : clean → ∀ t ∈ w.journal, ¬ current t.id → t.phase ≠ .candidateBuilding

section

variable {sha256 : Bytes → D} {clean tidy : Prop} {allow : Bool} {current : TxId → Prop}
  {w w' : World D}

theorem Standing.stable (h : Standing sha256 clean tidy allow current w) (hi : Interference w w') :
    Standing sha256 clean tidy allow current w' where
  recorded ht id offset tail hmem := by
    obtain ⟨t, hjournal, hid, hphase, hrecord⟩ :=
      h.recorded ht id offset tail ((hi.sameCounts.truncated _ _ _).1 hmem)
    exact ⟨t, (hi.kept t (by simp [hphase])).2 hjournal, hid, hphase, hrecord⟩
  calm ht ha := by
    rw [hi.sameCounts.tail]
    exact h.calm ht ha
  others hc t ht hcur hphase := by
    obtain ⟨u, hu, hcore⟩ := hi.back t ht
    obtain ⟨hid, hp, -⟩ := core_eq hcore
    exact h.others hc u hu (hid ▸ hcur) (hp.trans hphase)

theorem Standing.fileFree : FileFree (Standing sha256 clean tidy allow current) :=
  ⟨⟨fun _ _ hi h => h.stable hi, fun _ _ h => ⟨h.1, h.2, h.3⟩⟩, fun _ _ _ h => ⟨h.1, h.2, h.3⟩,
    fun _ _ h => ⟨h.1, h.2, h.3⟩⟩

theorem Standing.save {kind : SaveKind} {t : Transaction D}
    (h : Standing sha256 clean tidy allow current w) (hs : SaveOk sha256 clean kind t w)
    (hcurrent : t.phase = .candidateBuilding → current t.id) :
    Standing sha256 clean tidy allow current (w.saveRecord kind t) where
  recorded ht := hs.keeps_recorded (h.recorded ht)
  calm ht ha := interrupted_saved (h.calm ht ha)
  others hc x hx hcur hphase := by
    simp only [World.saveRecord, mem_saveTransaction] at hx
    rcases hx with ⟨hx, -⟩ | rfl
    · exact h.others hc x hx hcur hphase
    · exact hcur (hcurrent hphase)

/-! ## Authorizations -/

/-- A loaded record is still in the journal, up to the operator's fields, and a request that it carries
has not been used. -/
structure Flagged (t : Transaction D) (w : World D) : Prop where
  record : ∃ u ∈ w.journal, u.core = t.core
  unused : t.retryAuthorized = true → (consumed t.sourceFingerprint w.log).count t.id + 1 ≤
    (requested t.sourceFingerprint w.log).count t.id

theorem flagged_of_mem (h : RepairInv sha256 clean tidy w) {t : Transaction D}
    (ht : t ∈ w.journal) : Flagged t w :=
  ⟨⟨t, ht, rfl⟩, h.retry.flagged t ht⟩

theorem Steady.flagged (t : Transaction D) : Steady (Flagged t) where
  stable := by
    intro w w' hi h
    obtain ⟨u, hu, hcore⟩ := h.record
    obtain ⟨x, hx, hxcore⟩ := hi.forth u hu
    refine ⟨⟨x, hx, hxcore.trans hcore⟩, fun hflag => ?_⟩
    rw [hi.sameCounts.consumed]
    exact Nat.le_trans (h.unused hflag) (hi.sameCounts.requested _ _)
  clock := fun _ _ h => ⟨h.1, h.2⟩

/-- An authorization is used only when the loaded record carries an unused request. -/
theorem consumeRetry_obeys {K Q : World D → Prop} (hK : Steady K) {t : Transaction D}
    (hphase : t.phase = .manualInterventionRequired) {refusal : String}
    (hQ : ∀ w, RepairInv sha256 clean tidy w → Flagged t w →
      SaveOk sha256 clean .consume { t with operatorRetryConsumed := true } w → K w →
      Q (w.saveRecord .consume { t with operatorRetryConsumed := true })) :
    Obeys sha256 clean tidy (fun w => Flagged t w ∧ K w) (consumeRetry t refusal) fun _ => Q := by
  have hsave : ∀ w, RepairInv sha256 clean tidy w → Flagged t w →
      SaveOk sha256 clean .consume { t with operatorRetryConsumed := true } w := by
    intro w hw hflag
    obtain ⟨u, hu, hcore⟩ := hflag.record
    exact hw.saveOk_of_core (by simp) hu hcore hphase
  unfold consumeRetry
  simp only [Prog.bind_eq]
  refine Obeys.bind (M := fun _ w => t.retryAuthorized = true ∧ Flagged t w ∧ K w)
    (Obeys.raiseIf fun hok w _ h => ⟨by simpa using hok, h⟩) fun _ => Obeys.assume fun hauthorized => ?_
  refine Obeys.must (Obeys.ask ((Steady.flagged t).and hK) (fun w hw h => ?_) fun c w hw h hok => ?_)
  · refine ⟨hsave w hw h.1, ⟨by simp, fun hfalse => ?_, fun _ => ⟨?_, h.1.unused hauthorized⟩⟩, ?_⟩
    · simp [Transaction.retryAuthorized] at hfalse
    · simp [Transaction.retryAuthorized]
    · exact fun _ hk => absurd hk (by simp)
  · rw [show (repairExec sha256 (.save .consume _) c w).2 = w.saveRecord .consume _ from
      attempted_of_true hok]
    exact hQ w hw h.1 (hsave w hw h.1) h.2

/-- The choice of a blocked record and the use of its request. `none` means that nothing is blocked. -/
theorem authorizeUnfingerprintedRetry_obeys (identity : SourceIdentity) :
    Obeys sha256 clean tidy (Standing sha256 clean tidy allow current)
      (authorizeUnfingerprintedRetry identity) fun _ => Standing sha256 clean tidy allow current := by
  have hsteady : Steady (Standing sha256 clean tidy allow current) := Standing.fileFree.steady
  unfold authorizeUnfingerprintedRetry
  simp only [Prog.bind_eq, Prog.pure_eq]
  refine (transactions_obeys hsteady).bind fun ts => ?_
  split
  · exact Obeys.ret fun w _ h => h.1
  · next latest hlatest =>
      obtain ⟨hmem, hphase⟩ := List.mem_filter.1 (latestOf_mem hlatest)
      have hphase : latest.phase = .manualInterventionRequired := by simpa using hphase
      have hts : latest ∈ ts := List.mem_of_mem_filter hmem
      refine Obeys.bind (Obeys.pre (consumeRetry_obeys hsteady hphase fun w _ _ hs h => h.save hs ?_)
        fun w hw h => ⟨flagged_of_mem hw (h.2 ▸ hts), h.1⟩) fun _ => Obeys.ret fun w _ h => h
      exact fun hbuilding => absurd (hphase.symm.trans hbuilding) (by simp)

/-! ## New transactions -/

/-- An id that no record has. -/
structure Fresh (id : TxId) (w : World D) : Prop where
  serial : id.serial < w.nextSerial
  unused : ∀ t ∈ w.journal, t.id ≠ id

omit [DecidableEq D] in
theorem Steady.fresh (id : TxId) : Steady (D := D) (Fresh id) where
  stable := by
    intro w w' hi h
    refine ⟨hi.nextSerial ▸ h.serial, fun t ht => ?_⟩
    obtain ⟨u, hu, hcore⟩ := hi.back t ht
    rw [← (core_eq hcore).1]
    exact h.unused u hu
  clock := fun _ _ h => ⟨h.1, h.2⟩

theorem Fresh.not_built {id : TxId} (h : Fresh id w) (hw : RepairInv sha256 clean tidy w)
    (F : SourceFingerprint D) : id ∉ builds F w.log := by
  intro hid
  obtain ⟨-, t, ht, htid, -⟩ := hw.attempt.charged F id hid
  exact h.unused t ht htid

/-- A record as `create` makes it. -/
structure NewRecord (t : Transaction D) : Prop where
  phase : t.phase = .detected
  candidateIdx : t.candidateIdx = none
  candidatePath : t.candidatePath = none
  installTempPath : t.installTempPath = none
  stagingDir : t.stagingDir = none
  identical : t.candidateIdenticalToLiveIndex = false
  requestedAt : t.operatorRetryRequestedAt = none

theorem permit_create (h : RepairInv sha256 clean tidy w) {t : Transaction D} (hf : Fresh t.id w)
    (hn : NewRecord t) {authorized : Bool}
    (hcredit : authorized = true → t.sourceFingerprint.isKnown = true →
      (authorizedCreations t.sourceFingerprint w.log).length + 1 ≤
        (consumed t.sourceFingerprint w.log).length)
    (hcreated : t.sourceFingerprint.isKnown = true → authorized = true ∨
      (1 ≤ t.attemptCount ∧ t.attemptCount ≤ preinstallRetryLimit))
    (hdistinct : t.sourceFingerprint.isKnown = true → ∀ u ∈ w.journal,
      u.sourceFingerprint = t.sourceFingerprint → u.phase ≠ .resolvedWithoutInstall →
        u.attemptCount ≠ t.attemptCount) :
    Permit sha256 clean tidy (.save (.create authorized) t) w := by
  -- the identifier is new, so no clause about an earlier record of it applies
  have hno : ∀ u ∈ w.journal, u.id = t.id → False := fun u hu hid => hf.unused u hu hid
  refine ⟨⟨hf.serial, ?_, ?_, ?_, ?_, ?_, ?_, ?_, ?_, ?_, ?_, ?_, ?_⟩, ⟨by simp, ?_, by simp⟩,
    fun _ hk => absurd hk (by simp)⟩
  · intro o ho hoid
    obtain ⟨x, hx, hxid, -⟩ := h.records.operator_record ho
    exact absurd (hxid.trans hoid) (hf.unused x hx)
  · simp [hn.candidateIdx]
  · simp [hn.phase, Phase.proven, Phase.backed]
  · simp [hn.phase, Phase.backed]
  · exact ⟨by simp [hn.candidatePath], by simp [hn.installTempPath], by simp [hn.stagingDir]⟩
  · exact fun u hu hid => absurd (hno u hu hid) id
  · exact fun u hu hid => absurd (hno u hu hid) id
  · exact fun hk => hcredit (SaveKind.create.inj hk)
  · intro hknown
    rcases hcreated hknown with rfl | hcount
    · exact .inl rfl
    · exact .inr (.inr hcount)
  · exact fun hknown _ u hu _ => hdistinct hknown u hu
  · exact fun _ _ F => hf.not_built h F
  · simp [hn.identical]
  · simp [Transaction.retryAuthorized, hn.requestedAt]

theorem create_obeys {K : World D → Prop} {Q : Transaction D → World D → Prop} (hK : FileFree K)
    {authorized : Bool} (base : Base) {payload : TxId → Nat → Transaction D}
    (hok : ∀ w id at_, RepairInv sha256 clean tidy w → Fresh id w → K w →
      Permit sha256 clean tidy (.save (.create authorized) (payload id at_)) w)
    (hQ : ∀ w id at_, RepairInv sha256 clean tidy w → Fresh id w → K w →
      SaveOk sha256 clean (.create authorized) (payload id at_) w →
      Q (payload id at_) (w.saveRecord (.create authorized) (payload id at_))) :
    Obeys sha256 clean tidy K (create authorized base payload) Q := by
  unfold create
  simp only [Prog.bind_eq, Prog.pure_eq]
  refine Obeys.bind (M := fun _ => K) (Obeys.ask hK.steady (fun _ _ _ => trivial)
    fun _ w _ h => hK.steady.clock w _ h) fun at_ => ?_
  refine Obeys.bind (M := fun id w => Fresh id w ∧ K w) (Obeys.ask hK.steady (fun _ _ _ => trivial)
    fun _ w hw h => ⟨⟨Nat.lt_succ_self _, fun t ht heq => ?_⟩, hK.serial w _ h⟩) fun id => ?_
  · have hlt := hw.records.serial t ht
    rw [heq] at hlt
    exact absurd hlt (Nat.lt_irrefl _)
  refine Obeys.bind (M := fun _ => Q (payload id at_)) (Obeys.must (Obeys.ask
    ((Steady.fresh id).and hK.steady) (fun w hw h => hok w id at_ hw h.1 h.2) fun c w hw h hsaved => ?_))
    fun _ => Obeys.ret fun w _ h => h
  rw [show (repairExec sha256 (.save (.create authorized) _) c w).2 =
    w.saveRecord (.create authorized) _ from attempted_of_true hsaved]
  exact hQ w id at_ hw h.1 h.2 (hok w id at_ hw h.1 h.2).1

/-- `_record_preinstall_failure` on the held transaction. -/
theorem recordPreinstallFailure_obeys {t : Transaction D} (hopen : t.phase.terminal = false)
    (reason : String) :
    Obeys sha256 clean tidy (Holding t) (recordPreinstallFailure t reason) fun _ _ => True := by
  unfold recordPreinstallFailure
  simp only [Prog.bind_eq]
  have hphase : Phase.failedPreinstall.proven = false ∧ Phase.failedPreinstall.unbuilt = false :=
    ⟨rfl, rfl⟩
  refine Obeys.bind (Obeys.pre (close_obeys (K := fun _ => True) (Steady.const True)
    (t := { t with failureReason := reason }) hphase hopen
    fun _ _ _ h => h) fun w _ h => ⟨?_, trivial⟩) fun t' => Obeys.assume fun hfacts => ?_
  · obtain ⟨⟨u, hu, hup, hkeep⟩, hproven, hpaths⟩ := h
    exact ⟨⟨u, hu, hup, hkeep.1, hkeep.2, hkeep.3, hkeep.4, hkeep.5, hkeep.6⟩, hproven, hpaths⟩
  · exact Obeys.when (fun _ => manualRecord_obeys (Carried.trivial _) (by rw [hfacts.2.1]; rfl))
      fun _ _ _ _ => trivial

theorem recordUnfingerprintedFailure_obeys (base : Base) (identity : SourceIdentity)
    (reason : String) (retryAuthorized : Bool) :
    Obeys sha256 clean tidy (fun _ => True)
      (recordUnfingerprintedFailure base identity reason retryAuthorized : RepairProg D Unit)
      fun _ _ => True := by
  unfold recordUnfingerprintedFailure
  simp only [Prog.bind_eq]
  refine (transactions_obeys (Steady.const True)).bind fun ts => ?_
  refine Obeys.bind (M := fun _ _ => True) (Obeys.raiseIf fun _ _ _ _ => trivial) fun _ => ?_
  refine Obeys.bind (M := fun t w => t.phase.terminal = false ∧ t ∈ w.journal)
    (create_obeys (FileFree.const True) base (fun w id at_ hw hf _ => ?_)
      fun w id at_ _ _ _ _ => ⟨rfl, by simp [World.saveRecord]⟩) fun t => Obeys.assume fun hopen => ?_
  · refine permit_create hw hf ⟨rfl, rfl, rfl, rfl, rfl, rfl, rfl⟩ ?_ ?_ ?_
    · exact fun _ hfalse => absurd hfalse (by simp [SourceFingerprint.isKnown])
    · exact fun hfalse => absurd hfalse (by simp [SourceFingerprint.isKnown])
    · exact fun hfalse => absurd hfalse (by simp [SourceFingerprint.isKnown])
  · exact Obeys.pre (recordPreinstallFailure_obeys hopen reason) fun w hw h => holding_of_mem hw h

/-! ## Preflight -/

/-- A helper result is interpreted without touching the state. -/
theorem helperPayload_triple {P : World D → Prop} (process : HelperProcess D) :
    (repairDiscipline sha256 clean tidy).Triple P (helperPayload process)
      (fun payload w => P w ∧ ∃ returncode, process = .output returncode payload ∧
        payload.success = true) fun _ => P := by
  unfold helperPayload
  split
  · exact Discipline.Triple.raise fun _ _ h => h
  · exact Discipline.Triple.raise fun _ _ h => h
  · exact Discipline.Triple.raise fun _ _ h => h
  · next returncode payload =>
      refine Discipline.Triple.ite (fun _ => ?_) fun hok => ?_
      · exact Discipline.Triple.ite (fun _ => Discipline.Triple.raise fun _ _ h => h)
          fun _ => Discipline.Triple.raise fun _ _ h => h
      · refine Discipline.Triple.ret fun w _ h => ⟨h, returncode, rfl, ?_⟩
        by_contra hfalse
        exact hok (.inr (by simpa using hfalse))

theorem preflightFingerprint_obeys {P : World D → Prop} (hP : Steady P)
    (hrecorded : ∀ w, P w → tidy → Recorded sha256 w) (base : Base) (identity : SourceIdentity)
    (retryAuthorized : Bool) :
    Obeys sha256 clean tidy P (preflightFingerprint base identity retryAuthorized)
      fun F w => F.isKnown = true ∧ P w := by
  unfold preflightFingerprint
  simp only [Prog.bind_eq, Prog.pure_eq]
  refine Obeys.bind (M := fun _ => P) ?_ fun outcome => ?_
  · refine Discipline.Triple.attempt ?_
    unfold runPreflight
    simp only [Prog.bind_eq]
    refine Discipline.Triple.bind (M := fun _ => P) (Discipline.Triple.bind (M := fun _ => P)
      (Discipline.Triple.ask (fun w w' _ _ hi h => hP.stable w w' hi h)
        (fun w _ h => hrecorded w h) fun _ _ _ h _ => h) fun process => ?_) fun payload => ?_
    · exact (helperPayload_triple process).post fun _ _ _ h => h.1
    · exact Discipline.Triple.orRaise (fun _ _ _ h => h) fun _ _ _ _ h => h
  · cases outcome with
    | ok raw => exact Obeys.ret fun w _ h => ⟨rfl, h⟩
    | error e =>
        -- a failure that has no fingerprint is recorded and raised again, whatever the reason
        have hrecord : ∀ reason, Obeys sha256 clean tidy P
            ((recordUnfingerprintedFailure base identity reason retryAuthorized).bind fun _ =>
              (Prog.raise (.repair reason) : RepairProg D (SourceFingerprint D)))
            fun F w => F.isKnown = true ∧ P w := fun reason =>
          Obeys.bind (Obeys.pre (recordUnfingerprintedFailure_obeys base identity reason _)
            fun _ _ _ => trivial) fun _ => Obeys.raise
        cases e with
        | os => exact Obeys.raise
        | recursion => exact Obeys.raise
        | lookup => exact hrecord _
        | repair message => exact hrecord _
        | journal message => exact hrecord _
        | manual message => exact hrecord _
        | unsafeCandidate message payload => exact hrecord _

/-! ## The journal checks -/

/-- `same` are the loaded transactions of the source `F`. -/
structure Loaded (F : SourceFingerprint D) (same : List (Transaction D)) (w : World D) : Prop where
  source : ∀ t ∈ same, t.sourceFingerprint = F
  covered : ∀ t ∈ w.journal, t.sourceFingerprint = F → ∃ u ∈ same, u.core = t.core
  kept : ∀ t ∈ same, t.phase.terminal = false → t ∈ w.journal

/-- What the checks establish for the source `F`. -/
structure Admitted (F : SourceFingerprint D) (same : List (Transaction D)) (authorized : Bool)
    (w : World D) : Prop extends Loaded F same w where
  unverified : ∀ t ∈ same, t.phase ≠ .verified
  credit : authorized = true → lateBuilds F w.log + 1 ≤ (consumed F w.log).length ∧
    (authorizedCreations F w.log).length + 1 ≤ (consumed F w.log).length
  free : authorized = false → (∀ t ∈ same, t.phase ≠ .manualInterventionRequired) ∧
    attemptsOf same < preinstallRetryLimit

variable {F : SourceFingerprint D} {same : List (Transaction D)} {authorized : Bool}

omit [DecidableEq D] in
theorem Loaded.steady : Steady (Loaded F same) where
  stable := by
    intro w w' hi h
    refine ⟨h.source, fun t ht hF => ?_, fun t ht hopen => ?_⟩
    · obtain ⟨u, hu, hcore⟩ := hi.back t ht
      obtain ⟨-, -, hsource, -⟩ := core_eq hcore
      obtain ⟨x, hx, hxcore⟩ := h.covered u hu (hsource.trans hF)
      exact ⟨x, hx, hxcore.trans hcore⟩
    · exact (hi.kept t (ne_manual_of_open hopen)).2 (h.kept t ht hopen)
  clock := fun _ _ h => ⟨h.1, h.2, h.3⟩

theorem Admitted.fileFree : FileFree (Admitted F same authorized) where
  steady :=
    { stable := by
        intro w w' hi h
        refine ⟨Loaded.steady.stable w w' hi h.toLoaded, h.unverified, fun ha => ?_, h.free⟩
        rw [hi.sameCounts.late, hi.sameCounts.consumed, hi.sameCounts.authorized]
        exact h.credit ha
      clock := fun _ _ h => ⟨⟨h.1.1, h.1.2, h.1.3⟩, h.2, h.3, h.4⟩ }
  setFile := fun _ _ _ h => ⟨⟨h.1.1, h.1.2, h.1.3⟩, h.2, h.3, h.4⟩
  serial := fun _ _ h => ⟨⟨h.1.1, h.1.2, h.1.3⟩, h.2, h.3, h.4⟩

/-- Facts about the records of the source in the journal. -/
theorem Admitted.record (h : Admitted F same authorized w) {t : Transaction D} (ht : t ∈ w.journal)
    (hF : t.sourceFingerprint = F) :
    t.phase ≠ .verified ∧ (authorized = false → t.phase ≠ .manualInterventionRequired) ∧
      (t.phase ≠ .resolvedWithoutInstall → t.attemptCount ≤ attemptsOf same) := by
  obtain ⟨u, hu, hcore⟩ := h.covered t ht hF
  obtain ⟨-, hphase, -, hcount, -⟩ := core_eq hcore
  rw [← hphase, ← hcount]
  refine ⟨h.unverified u hu, fun ha => (h.free ha).1 u hu, fun hr => ?_⟩
  exact le_maxAttempts (List.mem_filter.2 ⟨hu, by simpa using hr⟩)

/-- The use of an authorization changes the operator's fields of a blocked record only. -/
theorem Loaded.consume (h : Loaded F same w) (hw : RepairInv sha256 clean tidy w)
    {t : Transaction D} (ht : t ∈ same) (hphase : t.phase = .manualInterventionRequired)
    (hflag : Flagged t w) :
    Loaded F same (w.saveRecord .consume { t with operatorRetryConsumed := true }) := by
  refine ⟨h.source, fun x hx hF => ?_, fun x hx hopen => ?_⟩
  · simp only [World.saveRecord, mem_saveTransaction] at hx
    rcases hx with ⟨hx, -⟩ | rfl
    · exact h.covered x hx hF
    · exact ⟨t, ht, rfl⟩
  · obtain ⟨u, hu, hcore⟩ := hflag.record
    obtain ⟨hid, hp, -⟩ := core_eq hcore
    have hne : x.id ≠ t.id := by
      intro heq
      obtain rfl := hw.records.unique x (h.kept x hx hopen) u hu (heq.trans hid.symm)
      exact ne_manual_of_open hopen (hp.trans hphase)
    simp [World.saveRecord, h.kept x hx hopen, hne]

/-- A saved record of another source. -/
theorem Admitted.save_other (h : Admitted F same authorized w) {t : Transaction D}
    (hs : SaveOk sha256 clean .transition t w) (hF : t.sourceFingerprint ≠ F) :
    Admitted F same authorized (w.saveRecord .transition t) := by
  refine ⟨⟨h.source, fun x hx hsource => ?_, fun x hx hopen => ?_⟩, h.unverified, fun ha => ?_, h.free⟩
  · simp only [World.saveRecord, mem_saveTransaction] at hx
    rcases hx with ⟨hx, -⟩ | rfl
    · exact h.covered x hx hsource
    · exact absurd hsource hF
  · have hmem := h.kept x hx hopen
    have hne : x.id ≠ t.id := by
      intro heq
      exact hF ((hs.source x hmem heq).symm.trans (h.source x hx))
    simp [World.saveRecord, hmem, hne]
  · simpa [World.saveRecord] using h.credit ha

/-- The authorization check: afterwards nothing of the source is blocked, or an authorization was
used. -/
theorem authorizeRetry_obeys (hF : F.isKnown = true) :
    Obeys sha256 clean tidy (fun w => (Loaded F same w ∧ ∀ t ∈ same, Flagged t w) ∧
        Standing sha256 clean tidy allow current w) (authorizeRetry same) fun authorized w =>
      (Loaded F same w ∧
        (authorized = true → lateBuilds F w.log + 1 ≤ (consumed F w.log).length ∧
          (authorizedCreations F w.log).length + 1 ≤ (consumed F w.log).length) ∧
        (authorized = false → ∀ t ∈ same, t.phase ≠ .manualInterventionRequired)) ∧
      Standing sha256 clean tidy allow current w := by
  unfold authorizeRetry
  simp only [Prog.bind_eq, Prog.pure_eq]
  split
  · next hnone =>
      refine Obeys.ret fun w _ h => ⟨⟨h.1.1, by simp, fun _ t ht hphase => ?_⟩, h.2⟩
      -- no record of this source waits for an operator
      have hmem : t ∈ same.filter fun t => t.phase = .manualInterventionRequired :=
        List.mem_filter.2 ⟨ht, by simpa using hphase⟩
      rw [latestOf_eq_none.1 hnone] at hmem
      exact absurd hmem List.not_mem_nil
  · next latest hlatest =>
      obtain ⟨hmem, hphase⟩ := List.mem_filter.1 (latestOf_mem hlatest)
      have hphase : latest.phase = .manualInterventionRequired := by simpa using hphase
      refine Obeys.bind (Obeys.pre (consumeRetry_obeys (Loaded.steady.and Standing.fileFree.steady)
        hphase fun w hw hflag hs h => ?_) fun w _ h => ⟨h.1.2 latest hmem, h.1.1, h.2⟩)
        fun _ => Obeys.ret fun w _ h => h
      refine ⟨⟨h.1.consume hw hmem hphase hflag, fun _ => ?_, by simp⟩, h.2.save hs ?_⟩
      · have hsource := h.1.source latest hmem
        -- the retry that is consumed pays for one more build
        have hlate := hw.retry.late F
        have hcredit := hw.attempt.credit F hF
        simp [World.saveRecord, hsource]
        omega
      · exact fun hbuilding => absurd (hphase.symm.trans hbuilding) (by simp)

theorem refuseExhausted_obeys {Q : Unit → World D → Prop} :
    Obeys sha256 clean tidy (Loaded F same) (refuseExhausted same) Q := by
  unfold refuseExhausted
  simp only [Prog.bind_eq]
  refine Obeys.bind (M := fun _ _ => True) ?_ fun _ => Obeys.raise
  cases hlatest : latestOf (same.filter fun t => t.phase = .failedPreinstall) with
  | none => exact Obeys.ret fun _ _ _ => trivial
  | some latest =>
      obtain ⟨hmem, hphase⟩ := List.mem_filter.1 (latestOf_mem hlatest)
      have hopen : latest.phase.terminal = false := by
        rw [show latest.phase = .failedPreinstall by simpa using hphase]
        rfl
      refine Obeys.bind (M := fun _ _ => True) (Obeys.pre (manualRecord_obeys (Carried.trivial _) hopen)
        fun w _ h => ⟨h.kept latest hmem hopen, trivial⟩) fun _ => Obeys.ret fun _ _ _ => trivial

theorem admitSource_obeys (hF : F.isKnown = true) :
    Obeys sha256 clean tidy (Standing sha256 clean tidy allow current) (admitSource F) fun result w =>
      Admitted F result.1 result.2 w ∧ Standing sha256 clean tidy allow current w := by
  have hsteady : Steady (Standing sha256 clean tidy allow current) := Standing.fileFree.steady
  unfold admitSource
  simp only [Prog.bind_eq, Prog.pure_eq]
  refine Obeys.bind (M := fun ts w => (Loaded F (sameSource F ts) w ∧
    ∀ t ∈ sameSource F ts, Flagged t w) ∧ Standing sha256 clean tidy allow current w)
    (Obeys.post (transactions_obeys hsteady) fun ts w hw h => ⟨⟨⟨?_, ?_, ?_⟩, ?_⟩, h.1⟩) fun ts => ?_
  · exact fun t ht => by simpa using (List.mem_filter.1 ht).2
  · exact fun t ht hsource => ⟨t, List.mem_filter.2 ⟨h.2 ▸ ht, by simpa using hsource⟩, rfl⟩
  · exact fun t ht _ => h.2 ▸ List.mem_of_mem_filter ht
  · exact fun t ht => flagged_of_mem hw (h.2 ▸ List.mem_of_mem_filter ht)
  generalize sameSource F ts = same
  refine Obeys.bind (M := fun _ w => (∀ t ∈ same, t.phase ≠ .verified) ∧ (Loaded F same w ∧
    ∀ t ∈ same, Flagged t w) ∧ Standing sha256 clean tidy allow current w)
    (Obeys.raiseIf fun hnone w _ h => ⟨fun t ht hp => hnone ⟨t, ht, hp⟩, h⟩)
    fun _ => Obeys.assume fun hunverified => ?_
  refine (authorizeRetry_obeys hF).bind fun authorized => ?_
  refine Obeys.bind (M := fun _ w => Admitted F same authorized w ∧
    Standing sha256 clean tidy allow current w) (Obeys.when (fun _ => ?_) fun hlimit w _ h => ?_)
    fun _ => Obeys.ret fun w _ h => h
  · exact Obeys.pre refuseExhausted_obeys fun w _ h => h.1.1
  · refine ⟨⟨h.1.1, hunverified, h.1.2.1, fun ha => ⟨h.1.2.2 ha, ?_⟩⟩, h.2⟩
    by_contra hge
    exact hlimit ⟨by omega, ha⟩

/-! ## Stale transactions and the live index -/

theorem closeStale_obeys (volumeId : Int) :
    Obeys sha256 clean tidy (fun w => Admitted F same authorized w ∧
        Standing sha256 clean tidy allow current w) (closeStale volumeId F) fun _ w =>
      Admitted F same authorized w ∧ Standing sha256 clean tidy allow current w := by
  have hsteady : Steady fun w => Admitted F same authorized w ∧
      Standing sha256 clean tidy allow current w :=
    Admitted.fileFree.steady.and Standing.fileFree.steady
  unfold closeStale
  simp only [Prog.bind_eq]
  refine (transactions_obeys hsteady).bind fun ts => ?_
  refine Obeys.pre (forEach_obeys ts fun t _ K hK => ?_)
    fun w hw h => ⟨unvisited_of_journal hw (by rw [h.2]), h.1⟩
  refine Obeys.when (fun hstale => ?_) fun _ w _ h => h.2
  obtain ⟨-, hF, hopen, -⟩ := hstale
  refine Obeys.pre (manual_obeys (hK.steady.and hsteady) hopen fun w t' hid hphase hsource hs h => ?_)
    fun w hw h => ⟨holding_of_mem hw (h.1 hopen), h.2⟩
  refine ⟨hK.save w _ t' hid h.1, h.2.1.save_other hs (hsource ▸ hF), h.2.2.save hs fun hbuilding => ?_⟩
  exact absurd (hphase.symm.trans hbuilding) (by simp)

/-- A new transaction of an admitted source. -/
theorem Admitted.permit_create (h : Admitted F same authorized w)
    (hw : RepairInv sha256 clean tidy w) {t : Transaction D} (hf : Fresh t.id w) (hn : NewRecord t)
    (hF : t.sourceFingerprint = F) (hcount : t.attemptCount = attemptsOf same + 1) :
    Permit sha256 clean tidy (.save (.create authorized) t) w := by
  subst hF
  refine IndexRepair.permit_create hw hf hn (fun ha _ => (h.credit ha).2) (fun _ => ?_) fun _ u hu hsource hr => ?_
  · cases authorized with
    | true => exact .inl rfl
    | false =>
        have hlt := (h.free rfl).2
        exact .inr ⟨by omega, by omega⟩
  · have hle := (h.record hu hsource).2.2 hr
    omega

theorem recordStructuralFailure_obeys (base : Base) (identity : SourceIdentity) (reason : String) :
    Obeys sha256 clean tidy (Admitted F same authorized)
      (recordStructuralFailure base identity F (attemptsOf same + 1) authorized reason)
      fun _ _ => True := by
  unfold recordStructuralFailure
  simp only [Prog.bind_eq]
  refine Obeys.bind (M := fun t w => t.phase.terminal = false ∧ t ∈ w.journal)
    (create_obeys Admitted.fileFree base (fun w id at_ hw hf h => ?_)
      fun w id at_ _ _ _ _ => ⟨rfl, by simp [World.saveRecord]⟩) fun t => Obeys.assume fun hopen => ?_
  · exact h.permit_create hw hf ⟨rfl, rfl, rfl, rfl, rfl, rfl, rfl⟩ rfl rfl
  · exact Obeys.pre (manualRecord_obeys (Carried.trivial _) hopen) fun w _ h => ⟨h, trivial⟩

theorem hashOrRaise_obeys {P : World D → Prop} (hP : Steady P) (p : Path) :
    Obeys sha256 clean tidy P (hashOrRaise p) fun _ => P := by
  unfold hashOrRaise
  simp only [Prog.bind_eq]
  exact (hashFile_obeys hP p).bind fun found => Obeys.orRaise fun _ _ w _ h => h.1

theorem liveArtifacts_obeys (base : Base) (identity : SourceIdentity) :
    Obeys sha256 clean tidy (fun w => Admitted F same authorized w ∧
        Standing sha256 clean tidy allow current w)
      (liveArtifacts base identity F (attemptsOf same + 1) authorized) fun _ w =>
      Admitted F same authorized w ∧ Standing sha256 clean tidy allow current w := by
  have hsteady : Steady fun w => Admitted F same authorized w ∧
      Standing sha256 clean tidy allow current w :=
    Admitted.fileFree.steady.and Standing.fileFree.steady
  have hfail : ∀ reason, Obeys sha256 clean tidy (fun w => Admitted F same authorized w ∧
      Standing sha256 clean tidy allow current w)
      ((recordStructuralFailure base identity F (attemptsOf same + 1) authorized reason).bind fun _ =>
        (Prog.raise (.manual reason) : RepairProg D Unit)) fun _ w => Admitted F same authorized w ∧
          Standing sha256 clean tidy allow current w := fun reason =>
    Obeys.bind (Obeys.pre (recordStructuralFailure_obeys base identity reason) fun w _ h => h.1)
      fun _ => Obeys.raise
  unfold liveArtifacts
  simp only [Prog.bind_eq, Prog.pure_eq]
  refine Obeys.bind (Obeys.post (node_obeys hsteady _) fun _ w _ h => h.1) fun idx => ?_
  refine Obeys.bind (Obeys.when (fun _ => hfail _) fun _ w _ h => h) fun _ => ?_
  refine Obeys.bind (Obeys.post (node_obeys hsteady _) fun _ w _ h => h.1) fun sdx => ?_
  refine Obeys.bind (Obeys.when (fun _ => hfail _) fun _ w _ h => h) fun _ => ?_
  refine (hashOrRaise_obeys hsteady _).bind fun oldIdx => ?_
  refine Obeys.bind (Obeys.post (node_obeys hsteady _) fun _ w _ h => h.1) fun sdx => ?_
  refine Obeys.bind (M := fun _ w => Admitted F same authorized w ∧
    Standing sha256 clean tidy allow current w) ?_ fun oldSdx => Obeys.ret fun w _ h => h
  unfold sortedArtifact
  refine Obeys.ite (fun _ => ?_) fun _ => Obeys.ret fun w _ h => h
  exact (hashOrRaise_obeys hsteady _).bind fun _ => Obeys.ret fun w _ h => h

end

end StorageNode.IndexRepair
