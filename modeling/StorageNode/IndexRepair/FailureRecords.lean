import StorageNode.IndexRepair.Finality
import StorageNode.IndexRepair.Watch

/-!
# Records of failed repairs

`_repair_one` ends a failed attempt with `_manual` or `_record_preinstall_failure` before it raises.
Four ends do not: a backup check and the read-back of the installed index raise outside the handlers,
an exception of `_recover_incomplete_tail` leaves through the handler that calls it, and after a
recovered tail the record stays in `tail_recovered` when the second repair fails. `unrecorded` names
the outcomes that lead there, and `failures_recorded_iff` says that there are no others.

A repair is split where it has a transaction in hand (`openRepair`, `continueRepair`). Before that
point every new record is closed at once (`NoneMissed`). After it, `OneRecord` follows the record of
the transaction through the journal.
-/

set_option autoImplicit false

namespace StorageNode.IndexRepair

open StorageNode.Program StorageNode.IndexHelper RepairProg

variable {D : Type}

/-- The transaction that a repair has created or resumed, with what was read before. -/
structure Opened (D : Type) where
  t : Transaction D
  resumed : Bool
  identity : SourceIdentity
  fingerprint : SourceFingerprint D
  oldIdx : Artifact D
  oldSdx : Option (Artifact D)

/-- The reasons that are journaled for an exception: its text, or what the checks of a resumed
transaction and of its candidate note. -/
def journaledReasons (e : RepairExc D) : List String :=
  [e.text, "live derived state changed while a repair transaction was pending",
    "candidate artifact no longer matches its journaled hash"]

/-- The record tells of the failure. -/
def NotesFailure (e : RepairExc D) (t : Transaction D) : Prop :=
  (t.phase = .failedPreinstall ∨ t.phase = .manualInterventionRequired) ∧
    t.failureReason ∈ journaledReasons e

/-- The tail helper is started. -/
def tailStarted : RepairReq D → RepairChoice D → Bool
  | .recoverTail _ _ _, c => decide (c.tailFault ≠ .spawnFailed)
  | _, _ => false

/-! ## One record -/

/-- The transaction was in the journal at the start of the repair. -/
def Old (w₀ : World D) (id : TxId) : Prop :=
  ∃ u ∈ w₀.journal, u.id = id

/-- No record has been created. -/
structure NoneCreated (w₀ w : World D) : Prop where
  old : ∀ t ∈ w.journal, Old w₀ t.id
  serial : ∀ u ∈ w₀.journal, u.id.serial < w.nextSerial

/-- The record of a transaction satisfies `φ`, and the other records are old ones. -/
structure OneRecord (w₀ : World D) (id : TxId) (φ : Transaction D → Prop) (w : World D) : Prop where
  record : ∃ u ∈ w.journal, u.id = id
  sat : ∀ u ∈ w.journal, u.id = id → φ u
  others : ∀ u ∈ w.journal, u.id ≠ id → Old w₀ u.id

section

variable {w₀ w : World D} {id : TxId} {φ ψ : Transaction D → Prop} {t : Transaction D}

theorem OneRecord.onJournal : OnJournal (OneRecord w₀ id φ) := by
  rintro w w' heq ⟨hrecord, hsat, hothers⟩
  rw [← heq] at hrecord hsat hothers
  exact ⟨hrecord, hsat, hothers⟩

theorem OneRecord.mono (h : OneRecord w₀ id φ w) (hφ : ∀ u, φ u → ψ u) : OneRecord w₀ id ψ w :=
  ⟨h.record, fun u hu hid => hφ u (h.sat u hu hid), h.others⟩

theorem OneRecord.save (h : OneRecord w₀ id φ w) (hid : t.id = id) {kind : SaveKind} {clock : Nat} :
    OneRecord w₀ id (fun u => u = t) (World.saveRecord { w with clock := clock } kind t) where
  record := ⟨t, mem_saveTransaction.2 (.inr rfl), hid⟩
  sat u hu huid := by
    rcases mem_saveTransaction.1 hu with ⟨-, hne⟩ | rfl
    · exact absurd (huid.trans hid.symm) hne
    · rfl
  others u hu huid := by
    rcases mem_saveTransaction.1 hu with ⟨hu, -⟩ | rfl
    · exact h.others u hu huid
    · exact absurd hid huid

theorem NoneCreated.save (h : NoneCreated w₀ w) (hold : Old w₀ id) (hid : t.id = id)
    {kind : SaveKind} {clock : Nat} :
    NoneCreated w₀ (World.saveRecord { w with clock := clock } kind t) where
  old u hu := by
    rcases mem_saveTransaction.1 hu with ⟨hu, -⟩ | rfl
    · exact h.old u hu
    · exact hid ▸ hold
  serial := h.serial

end

/-! ## Outcomes without a record -/

variable [DecidableEq D]

/-- A check does not find the old file of a transaction in its backup. -/
def backupFails (sha256 : Bytes → D) : RepairReq D → RepairChoice D → World D → Bool
  | .hash (.backupIdx id), c, w => w.journal.any fun t => decide (t.id = id ∧ ¬ (c.fault = .none ∧
      fileDigest sha256 w (.backupIdx id) = t.oldIdx.map Artifact.toDigest))
  | .hash (.backupSdx id), c, w => w.journal.any fun t => decide (t.id = id ∧ ¬ (c.fault = .none ∧
      fileDigest sha256 w (.backupSdx id) = t.oldSdx.map Artifact.toDigest))
  | _, _, _ => false

/-- The outcomes after which a repair fails without a record. -/
def unrecorded (sha256 : Bytes → D) (r : RepairReq D) (c : RepairChoice D) (w : World D) : Bool :=
  readBackFails r c w || backupFails sha256 r c w || tailStarted r c

/-- The failed attempt is journaled: it counts against the limit of its source, and once it is blocked
an operator can authorize a retry. -/
structure FailureRecorded (e : RepairExc D) (w : World D) (t : Transaction D) : Prop where
  notes : NotesFailure e t
  counted : t.attemptCount ≤ attemptsOf (sameSource t.sourceFingerprint w.journal)
  countedPreflight : t.fingerprintUnavailable = true →
    t.attemptCount ≤ maxAttempts (unfingerprinted t.identity w.journal)
  retry : t.phase = .manualInterventionRequired → (requestRetry w).isSome = true

theorem FailureRecorded.of_mem {e : RepairExc D} {w : World D} {t : Transaction D}
    (ht : t ∈ w.journal) (h : NotesFailure e t) : FailureRecorded e w t where
  notes := h
  counted := by
    refine le_maxAttempts (List.mem_filter.2 ⟨List.mem_filter.2 ⟨ht, by simp⟩, ?_⟩)
    rcases h.1 with hphase | hphase <;> simp [hphase]
  countedPreflight hnone := le_maxAttempts (List.mem_filter.2 ⟨ht, by simp [hnone]⟩)
  retry hphase := by
    rw [requestRetry, Option.isSome_map]
    cases hlatest : latestOf (w.journal.filter fun x => x.phase = .manualInterventionRequired) with
    | some u => rfl
    | none =>
        rw [latestOf_eq_none, List.filter_eq_nil_iff] at hlatest
        exact absurd (decide_eq_true hphase) (hlatest t ht)

/-! ## The two halves of a repair -/

/-- `_repair_one` up to the point where it has a transaction. -/
def openRepair (cfg : Config) (args : RepairArgs) : RepairProg D (Opened D) := do
  let base ← Prog.orRaise (.repair "unsafe collection-derived volume filename")
    (safeBaseName args.collection args.volumeId)
  let identity := sourceIdentity cfg args.activeTransport base
  let unfingerprintedRetry ← authorizeUnfingerprintedRetry identity
  let fingerprint ← preflightFingerprint base identity unfingerprintedRetry
  let (same, authorized) ← admitSource fingerprint
  closeStale args.volumeId fingerprint
  let (oldIdx, oldSdx) ← liveArtifacts base identity fingerprint (attemptsOf same + 1) authorized
  match resumable same with
  | some t => pure ⟨t, true, identity, fingerprint, oldIdx, oldSdx⟩
  | none => do
    let t ← create authorized base fun id at_ =>
      { id := id, identity := identity, sourceFingerprint := fingerprint, oldIdx := some oldIdx,
        oldSdx := oldSdx, attemptCount := attemptsOf same + 1, updatedAt := at_ }
    pure ⟨t, false, identity, fingerprint, oldIdx, oldSdx⟩

/-- The resume branch, for a transaction that is resumed. -/
def resumeOpened (o : Opened D) : RepairProg D (Option (Transaction D)) :=
  if o.resumed then resume o.t o.oldIdx o.oldSdx else pure (some o.t)

/-- The rest of `_repair_one`. -/
def continueRepair (cfg : Config) (args : RepairArgs) (fuel : Nat) (allowIdentical : Bool)
    (o : Opened D) : RepairProg D Unit := do
  let next ← resumeOpened o
  match next with
  | none => pure ()
  | some t =>
    buildAndInstall cfg o.identity t o.fingerprint o.oldIdx allowIdentical
      (repairOne cfg args fuel true)

theorem repairOne_succ (cfg : Config) (args : RepairArgs) (fuel : Nat) (allowIdentical : Bool) :
    (repairOne cfg args (fuel + 1) allowIdentical : RepairProg D Unit) =
      (openRepair cfg args).bind (continueRepair cfg args fuel allowIdentical) := by
  unfold repairOne openRepair
  simp only [Prog.bind_eq, Prog.bind_assoc]
  refine congrArg _ (funext fun base => congrArg _ (funext fun retry => ?_))
  refine congrArg _ (funext fun fingerprint => congrArg _ (funext fun admitted => ?_))
  refine congrArg _ (funext fun _ => congrArg _ (funext fun live => ?_))
  unfold resumeOrCreate
  cases resumable admitted.1 with
  | some t => rfl
  | none =>
      simp only [Prog.bind_eq, Prog.bind_assoc]
      rfl

/-- After an `IndexRepairError` before the transaction is in hand, every new record tells of it. -/
def NoneMissed (w₀ : World D) (e : RepairExc D) (s : World D × Bool) : Prop :=
  e.isRepairError = true → s.2 = false ∧ ∀ t ∈ s.1.journal, ¬ Old w₀ t.id → NotesFailure e t

theorem unrecorded_watching (sha256 : Bytes → D) {E : RepairExc D → World D × Bool → Prop}
    (hE : ∀ e s, e.isRepairError = false → E e s) : Watching (unrecorded sha256) E where
  checks r c w hr := by
    cases r with
    | hash p =>
        cases p with
        | liveIdx base => exact absurd hr (by simp [RepairReq.checks])
        | backupIdx tx => exact absurd hr (by simp [RepairReq.checks])
        | backupSdx tx => exact absurd hr (by simp [RepairReq.checks])
        | _ => rfl
    | recoverTail tx expected maximumTailBytes => exact absurd hr (by simp [RepairReq.checks])
    | _ => rfl
  reads base c w := by
    simp only [unrecorded, backupFails, tailStarted, Bool.or_false]
  lenient := hE

/-! ## Before the transaction is in hand -/

section

variable {sha256 : Bytes → D} {w₀ : World D} {α : Type}

omit [DecidableEq D] in
theorem NoneCreated.noneMissed {w : World D} (h : NoneCreated w₀ w) (e : RepairExc D) :
    NoneMissed w₀ e (w, false) :=
  fun _ => ⟨rfl, fun t ht hnew => absurd (h.old t ht) hnew⟩

omit [DecidableEq D] in
theorem noneMissed_of_other {e : RepairExc D} (he : e.isRepairError = false) (s : World D × Bool) :
    NoneMissed w₀ e s := by
  intro h
  rw [he] at h
  exact absurd h (by simp)

theorem noneMissed_watching : Watching (unrecorded sha256) (NoneMissed w₀) :=
  unrecorded_watching sha256 fun _ s he => noneMissed_of_other he s

/-- A contract of the first half. -/
abbrev Opens (sha256 : Bytes → D) (w₀ : World D) {α : Type} (P : World D → Prop)
    (p : RepairProg D α) (Q : α → World D → Prop) : Prop :=
  Watched sha256 (unrecorded sha256) (NoneMissed w₀) P p Q

theorem refuseIf_opens {condition : Prop} [Decidable condition] (e : RepairExc D) :
    Opens sha256 w₀ (NoneCreated w₀) (Prog.raiseIf condition e) fun _ => NoneCreated w₀ :=
  Unflagged.raiseIf (fun _ _ hw => hw.noneMissed _) fun _ _ hw => hw

theorem transactions_opens : Opens sha256 w₀ (NoneCreated w₀) transactions fun ts w =>
    (∀ t ∈ ts, Old w₀ t.id) ∧ NoneCreated w₀ w := by
  refine Unflagged.bind (M := fun answer w => (∀ ts, answer = some ts → ∀ t ∈ ts, Old w₀ t.id) ∧
    NoneCreated w₀ w) (noneMissed_watching.ask rfl fun c w hw => ⟨fun ts hts t ht => ?_, hw⟩)
    fun answer => Unflagged.post (Unflagged.orRaise fun _ w hw => hw.2.noneMissed _)
      fun ts w hw => ⟨hw.2.1 ts hw.1, hw.2.2⟩
  rw [repairExec_load hts] at ht
  exact hw.old t ht

theorem saveOld_opens {kind : SaveKind} {t : Transaction D} (ht : Old w₀ t.id) :
    Opens sha256 w₀ (NoneCreated w₀) (must (trySave kind t)) fun _ => NoneCreated w₀ :=
  noneMissed_watching.save fun _ hw => hw.save ht rfl

theorem manualOld_opens {t : Transaction D} (ht : Old w₀ t.id) (reason : String) :
    Opens sha256 w₀ (NoneCreated w₀) (manual t reason) fun _ => NoneCreated w₀ :=
  Unflagged.bind (noneMissed_watching.transition fun _ _ hw => hw.save ht (by rfl)) fun _ =>
    Unflagged.ret fun _ hw => hw

theorem consumeRetry_opens {t : Transaction D} (ht : Old w₀ t.id) (refusal : String) :
    Opens sha256 w₀ (NoneCreated w₀) (consumeRetry t refusal) fun _ => NoneCreated w₀ :=
  Unflagged.bind (refuseIf_opens _) fun _ => saveOld_opens ht

/-- Both checks for a blocked source. -/
theorem authorize_opens {ts : List (Transaction D)} (hts : ∀ t ∈ ts, Old w₀ t.id)
    (refusal : String) :
    Opens sha256 w₀ (NoneCreated w₀)
      (match latestOf ts with
        | none => pure false
        | some latest => do
          consumeRetry latest refusal
          pure true)
      fun _ => NoneCreated w₀ := by
  cases hlatest : latestOf ts with
  | none => exact Unflagged.ret fun _ hw => hw
  | some latest =>
      refine Unflagged.bind (consumeRetry_opens (hts _ (latestOf_mem hlatest)) refusal) fun _ => ?_
      exact Unflagged.ret fun _ hw => hw

theorem authorizeUnfingerprintedRetry_opens (identity : SourceIdentity) :
    Opens sha256 w₀ (NoneCreated w₀) (authorizeUnfingerprintedRetry identity)
      fun _ => NoneCreated w₀ := by
  refine Unflagged.bind transactions_opens fun ts => Unflagged.assume fun hts => ?_
  refine authorize_opens (fun t ht => ?_) _
  exact hts t (List.mem_filter.1 (List.mem_filter.1 ht).1).1

/-- A new record is the only one. -/
theorem create_opens (authorized : Bool) (base : Base) {payload : TxId → Nat → Transaction D}
    (hid : ∀ id at_, (payload id at_).id = id) :
    Opens sha256 w₀ (NoneCreated w₀) (create authorized base payload) fun t w =>
      (∃ id at_, t = payload id at_) ∧ ¬ Old w₀ t.id ∧ OneRecord w₀ t.id (fun u => u = t) w := by
  refine Unflagged.bind (M := fun _ => NoneCreated w₀)
    (noneMissed_watching.ask rfl fun _ _ hw => ⟨hw.old, hw.serial⟩) fun at_ => ?_
  refine Unflagged.bind (M := fun (id : TxId) w => ¬ Old w₀ id ∧ ∀ t ∈ w.journal, Old w₀ t.id)
    (noneMissed_watching.ask rfl fun c w hw => ⟨?_, hw.old⟩) fun id => ?_
  · rintro ⟨u, hu, heq⟩
    have hlt := hw.serial u hu
    rw [heq] at hlt
    exact absurd hlt (Nat.lt_irrefl _)
  · refine Unflagged.bind (noneMissed_watching.save (Q := fun w => ¬ Old w₀ id ∧
      OneRecord w₀ id (fun u => u = payload id at_) w) fun w hw => ⟨hw.1, ?_⟩) fun _ =>
        Unflagged.ret fun w hw => ?_
    · refine ⟨⟨_, mem_saveTransaction.2 (.inr rfl), hid id at_⟩, fun u hu huid => ?_, fun u hu huid => ?_⟩
      · rcases mem_saveTransaction.1 hu with ⟨hu, -⟩ | rfl
        · exact absurd (huid ▸ hw.2 u hu) hw.1
        · rfl
      · rcases mem_saveTransaction.1 hu with ⟨hu, -⟩ | rfl
        · exact hw.2 u hu
        · exact absurd (hid id at_) huid
    · rw [hid id at_]
      exact ⟨⟨id, at_, rfl⟩, hw⟩

/-- The two ways in which a failed attempt is recorded. -/
theorem manualNew_watched {E : RepairExc D → World D × Bool → Prop}
    (h : Watching (unrecorded sha256) E) {t : Transaction D} {id : TxId}
    {φ : Transaction D → Prop} (hid : t.id = id) (reason : String) :
    Watched sha256 (unrecorded sha256) E (OneRecord w₀ id φ) (manual t reason) fun _ =>
      OneRecord w₀ id fun u => u.phase = .manualInterventionRequired ∧ u.failureReason = reason := by
  refine Unflagged.bind (M := fun u w => (u.phase = .manualInterventionRequired ∧
    u.failureReason = reason) ∧ OneRecord w₀ id (fun v => v = u) w)
    (h.transition fun _ _ hw => ⟨⟨rfl, rfl⟩, hw.save (by exact hid)⟩) fun u => ?_
  refine Unflagged.ret fun w hw => hw.2.mono ?_
  rintro v rfl
  exact hw.1

theorem recordPreinstallFailure_watched {E : RepairExc D → World D × Bool → Prop}
    (h : Watching (unrecorded sha256) E) {t : Transaction D} {id : TxId}
    {φ : Transaction D → Prop} (hid : t.id = id) (reason : String) :
    Watched sha256 (unrecorded sha256) E (OneRecord w₀ id φ) (recordPreinstallFailure t reason)
      fun _ => OneRecord w₀ id fun u => (u.phase = .failedPreinstall ∨
        u.phase = .manualInterventionRequired) ∧ u.failureReason = reason := by
  refine Unflagged.bind (M := fun u w => (u.id = id ∧ u.phase = .failedPreinstall ∧
    u.failureReason = reason) ∧ OneRecord w₀ id (fun v => v = u) w)
    (h.transition fun _ _ hw => ⟨⟨hid, rfl, rfl⟩, hw.save (by exact hid)⟩) fun u => ?_
  refine Unflagged.assume fun hu => Unflagged.when (fun _ => ?_) fun _ w hw => hw.mono ?_
  · exact Unflagged.post (manualNew_watched h hu.1 reason) fun _ w hw =>
      hw.mono fun v hv => ⟨.inr hv.1, hv.2⟩
  · rintro v rfl
    exact ⟨.inl hu.2.1, hu.2.2⟩

omit [DecidableEq D] in
theorem OneRecord.noneMissed {w : World D} {id : TxId} {φ : Transaction D → Prop}
    {e : RepairExc D} (h : OneRecord w₀ id φ w) (hφ : ∀ u, φ u → NotesFailure e u) :
    NoneMissed w₀ e (w, false) := by
  refine fun _ => ⟨rfl, fun t ht hnew => ?_⟩
  by_cases hid : t.id = id
  · exact hφ t (h.sat t ht hid)
  · exact absurd (h.others t ht hid) hnew

/-- A source without a fingerprint. -/
theorem recordUnfingerprintedFailure_opens (base : Base) (identity : SourceIdentity)
    (reason : String) (retryAuthorized : Bool) {Q : α → World D → Prop} :
    Opens sha256 w₀ (NoneCreated w₀)
      ((recordUnfingerprintedFailure base identity reason retryAuthorized).bind fun _ =>
        (Prog.raise (.repair reason) : RepairProg D α)) Q := by
  refine Unflagged.bind (M := fun _ w => ∃ id, OneRecord w₀ id (fun u => (u.phase =
    .failedPreinstall ∨ u.phase = .manualInterventionRequired) ∧ u.failureReason = reason) w) ?_
    fun _ => Unflagged.raise ?_
  · refine Unflagged.bind transactions_opens fun ts => Unflagged.assume fun _ => ?_
    refine Unflagged.bind (refuseIf_opens _) fun _ => ?_
    refine Unflagged.bind (create_opens _ _ fun _ _ => rfl) fun t => Unflagged.assume fun _ =>
      Unflagged.assume fun _ => ?_
    exact Unflagged.post (recordPreinstallFailure_watched noneMissed_watching rfl reason)
      fun _ w hw => ⟨t.id, hw⟩
  · rintro w ⟨id, hw⟩
    exact hw.noneMissed fun u hu => ⟨hu.1, by simp [journaledReasons, RepairExc.text, hu.2]⟩

theorem preflightFingerprint_opens (base : Base) (identity : SourceIdentity)
    (retryAuthorized : Bool) :
    Opens sha256 w₀ (NoneCreated w₀) (preflightFingerprint base identity retryAuthorized)
      fun _ => NoneCreated w₀ := by
  have hfail : ∀ reason : String, Opens sha256 w₀ (NoneCreated w₀)
      ((recordUnfingerprintedFailure base identity reason retryAuthorized).bind fun _ =>
        (Prog.raise (.repair reason) : RepairProg D (SourceFingerprint D))) fun _ => NoneCreated w₀ :=
    fun reason => recordUnfingerprintedFailure_opens base identity reason _
  have hpreflight : (do
      let payload ← runPreflight
      Prog.orRaise .lookup payload.sourceFingerprintBefore : RepairProg D (RawFingerprint D)).Issues
        fun r => r = .preflight := by
    refine Prog.Issues.bind ?_ fun payload => Prog.issues_orRaise _ _
    exact Prog.Issues.bind ((Prog.issues_ask _).2 rfl) fun process => helperPayload_issues process
  refine Unflagged.bind (M := fun _ => NoneCreated w₀) (Unflagged.attempt
    (Unflagged.of_issues ?_ hpreflight)) fun outcome => ?_
  · rintro _ c w rfl hw
    exact ⟨rfl, hw.old, hw.serial⟩
  cases outcome with
  | ok raw => exact Unflagged.ret fun _ hw => hw
  | error e =>
      cases e with
      | os => exact Unflagged.raise fun _ hw => hw.noneMissed _
      | recursion => exact Unflagged.raise fun _ hw => hw.noneMissed _
      | lookup => exact hfail _
      | repair message => exact hfail _
      | journal message => exact hfail _
      | manual message => exact hfail _
      | unsafeCandidate message payload => exact hfail _

theorem admitSource_opens (fingerprint : SourceFingerprint D) :
    Opens sha256 w₀ (NoneCreated w₀) (admitSource fingerprint) fun admitted w =>
      (∀ t ∈ admitted.1, Old w₀ t.id) ∧ NoneCreated w₀ w := by
  refine Unflagged.bind transactions_opens fun ts => Unflagged.assume fun hts => ?_
  have hsame : ∀ t ∈ sameSource fingerprint ts, Old w₀ t.id :=
    fun t ht => hts t (List.mem_filter.1 ht).1
  refine Unflagged.bind (refuseIf_opens _) fun _ => ?_
  refine Unflagged.bind (authorize_opens (fun t ht => hsame t (List.mem_filter.1 ht).1) _)
    fun authorized => ?_
  refine Unflagged.bind (M := fun _ => NoneCreated w₀) (Unflagged.when (fun _ => ?_)
    fun _ _ hw => hw) fun _ => Unflagged.ret fun _ hw => ⟨hsame, hw⟩
  refine Unflagged.bind (M := fun _ => NoneCreated w₀) (Unflagged.forEach fun latest hlatest => ?_)
    fun _ => Unflagged.raise fun _ hw => hw.noneMissed _
  have hmem := latestOf_mem (Option.mem_toList.1 hlatest)
  exact manualOld_opens (hsame _ (List.mem_filter.1 hmem).1) _

theorem closeStale_opens (volumeId : Int) (fingerprint : SourceFingerprint D) :
    Opens sha256 w₀ (NoneCreated w₀) (closeStale volumeId fingerprint) fun _ => NoneCreated w₀ := by
  refine Unflagged.bind transactions_opens fun ts => Unflagged.assume fun hts => ?_
  exact Unflagged.forEach fun t ht => Unflagged.when (fun _ => manualOld_opens (hts t ht) _)
    fun _ _ hw => hw

theorem refuseStructure_opens (condition : Prop) [Decidable condition] (base : Base)
    (identity : SourceIdentity) (fingerprint : SourceFingerprint D) (attemptCount : Nat)
    (authorized : Bool) (reason : String) :
    Opens sha256 w₀ (NoneCreated w₀)
      (Prog.when condition ((recordStructuralFailure base identity fingerprint attemptCount authorized
        reason).bind fun _ => Prog.raise (.manual reason))) fun _ => NoneCreated w₀ := by
  refine Unflagged.when (fun _ => ?_) fun _ _ hw => hw
  refine Unflagged.bind (M := fun _ w => ∃ id, OneRecord w₀ id (fun u => u.phase =
    .manualInterventionRequired ∧ u.failureReason = reason) w) ?_ fun _ => Unflagged.raise ?_
  · refine Unflagged.bind (create_opens _ _ fun _ _ => rfl) fun t => Unflagged.assume fun _ =>
      Unflagged.assume fun _ => ?_
    exact Unflagged.post (manualNew_watched noneMissed_watching rfl reason) fun _ w hw => ⟨t.id, hw⟩
  · rintro w ⟨id, hw⟩
    exact hw.noneMissed fun u hu => ⟨.inr hu.1, by simp [journaledReasons, RepairExc.text, hu.2]⟩

/-- A live file that cannot be read ends the repair with an `OSError`. -/
theorem hashOrRaise_opens (p : Path) (hp : ∀ tx, p ≠ .backupIdx tx ∧ p ≠ .backupSdx tx) :
    Opens sha256 w₀ (NoneCreated w₀) (hashOrRaise p) fun _ => NoneCreated w₀ := by
  refine Discipline.Triple.bind (M := fun answer s => (answer ≠ none → s.2 = false) ∧
    NoneCreated w₀ s.1) (Hoare.ask fun c s hs => ⟨fun hanswer => ?_, hs.2.old, hs.2.serial⟩)
    fun answer => Discipline.Triple.orRaise (fun _ s _ _ => ?_) fun a ha s _ hs => ⟨?_, hs.2⟩
  · have hfault : c.fault = .none := by
      by_contra hne
      exact hanswer (if_neg hne)
    have hbad : unrecorded sha256 (.hash p) c s.1 = false := by
      cases p with
      | liveIdx base => simp [unrecorded, readBackFails, backupFails, tailStarted, hfault]
      | backupIdx tx => exact absurd rfl (hp tx).1
      | backupSdx tx => exact absurd rfl (hp tx).2
      | _ => rfl
    simp only [flagged, hs.1, hbad, Bool.or_self]
  · exact noneMissed_of_other rfl s
  · exact hs.1 (by rw [ha]; simp)

theorem liveArtifacts_opens (base : Base) (identity : SourceIdentity)
    (fingerprint : SourceFingerprint D) (attemptCount : Nat) (authorized : Bool) :
    Opens sha256 w₀ (NoneCreated w₀)
      (liveArtifacts base identity fingerprint attemptCount authorized) fun _ => NoneCreated w₀ := by
  have hnode : ∀ p : Path, Opens sha256 w₀ (NoneCreated w₀) (node p) fun _ => NoneCreated w₀ :=
    fun p => noneMissed_watching.ask rfl fun _ _ hw => hw
  refine Unflagged.bind (hnode _) fun idx => ?_
  refine Unflagged.bind (refuseStructure_opens _ _ _ _ _ _ _) fun _ => ?_
  refine Unflagged.bind (hnode _) fun sdx => ?_
  refine Unflagged.bind (refuseStructure_opens _ _ _ _ _ _ _) fun _ => ?_
  refine Unflagged.bind (hashOrRaise_opens _ (by simp)) fun oldIdx => ?_
  refine Unflagged.bind (hnode _) fun sdx => ?_
  refine Unflagged.bind (M := fun _ => NoneCreated w₀) ?_ fun oldSdx => Unflagged.ret fun _ hw => hw
  unfold sortedArtifact
  split
  · exact Unflagged.bind (hashOrRaise_opens _ (by simp)) fun _ => Unflagged.ret fun _ hw => hw
  · exact Unflagged.ret fun _ hw => hw

/-- What is known of the transaction in hand. -/
structure InHand (w₀ : World D) (o : Opened D) (w : World D) : Prop where
  resumed : o.resumed = true → Old w₀ o.t.id ∧ NoneCreated w₀ w
  created : o.resumed = false → ¬ Old w₀ o.t.id ∧ OneRecord w₀ o.t.id (fun u => u = o.t) w ∧
    o.t.oldIdx = some o.oldIdx ∧ o.t.oldSdx = o.oldSdx ∧ o.t.candidatePath = none

theorem openRepair_opens (cfg : Config) (args : RepairArgs) :
    Opens sha256 w₀ (NoneCreated w₀) (openRepair cfg args) (InHand w₀) := by
  refine Unflagged.bind (M := fun _ => NoneCreated w₀) (Unflagged.post
    (Unflagged.orRaise fun _ _ hw => hw.noneMissed _) fun _ _ hw => hw.2) fun base => ?_
  refine Unflagged.bind (authorizeUnfingerprintedRetry_opens _) fun retry => ?_
  refine Unflagged.bind (preflightFingerprint_opens _ _ _) fun fingerprint => ?_
  refine Unflagged.bind (admitSource_opens _) ?_
  rintro ⟨same, authorized⟩
  refine Unflagged.assume fun hsame => ?_
  refine Unflagged.bind (closeStale_opens _ _) fun _ => ?_
  refine Unflagged.bind (liveArtifacts_opens _ _ _ _ _) ?_
  rintro ⟨oldIdx, oldSdx⟩
  dsimp only
  split
  · next t ht =>
      refine Unflagged.ret fun w hw => ⟨fun _ => ⟨?_, hw⟩, fun hfalse => absurd hfalse (by simp)⟩
      exact hsame t (List.mem_filter.1 (latestOf_mem ht)).1
  · refine Unflagged.bind (create_opens _ _ fun _ _ => rfl) fun t => Unflagged.assume ?_
    rintro ⟨id, at_, rfl⟩
    exact Unflagged.ret fun w hw => ⟨fun hfalse => absurd hfalse (by simp), fun _ =>
      ⟨hw.1, hw.2, rfl, rfl, rfl⟩⟩

end

/-! ## With the transaction in hand -/

/-- A removed tail of the transaction was journaled. -/
def TailJournaled (id : TxId) (w : World D) : Prop :=
  ∃ t, Event.saved .transition t ∈ w.log ∧ t.id = id ∧ t.phase = .tailRecovered

/-- The record does not tell of a failure. -/
def Missed (id : TxId) (w : World D) : Prop :=
  (∃ t ∈ w.journal, t.id = id ∧ t.phase ≠ .failedPreinstall ∧
    t.phase ≠ .manualInterventionRequired) ∨ TailJournaled id w

/-- After an `IndexRepairError` the record tells of it, or the flag is raised. -/
def Noted (w₀ : World D) (id : TxId) (e : RepairExc D) (s : World D × Bool) : Prop :=
  e.isRepairError = true →
    s.2 = false ∧ OneRecord w₀ id (NotesFailure e) s.1 ∨ s.2 = true ∧ Missed id s.1

/-- A version of the transaction in hand. -/
structure Version (id : TxId) (oldIdx : Artifact D) (oldSdx : Option (Artifact D))
    (t : Transaction D) : Prop where
  id : t.id = id
  oldIdx : t.oldIdx = some oldIdx
  oldSdx : t.oldSdx = oldSdx
  path : ∀ p, t.candidatePath = some p → p = .candidate t.id

/-- The phase of the record, and the old files that it names. -/
def Stands (w₀ : World D) (id : TxId) (oldIdx : Artifact D) (oldSdx : Option (Artifact D))
    (phase : Phase) : World D → Prop :=
  OneRecord w₀ id fun u => u.phase = phase ∧ u.oldIdx = some oldIdx ∧ u.oldSdx = oldSdx

section

variable {sha256 : Bytes → D} {w₀ : World D} {id : TxId} {oldIdx : Artifact D}
  {oldSdx : Option (Artifact D)} {t : Transaction D} {φ : Transaction D → Prop} {phase : Phase}
  {α : Type}

omit [DecidableEq D] in
theorem OneRecord.noted {w : World D} {e : RepairExc D} (h : OneRecord w₀ id φ w)
    (hφ : ∀ u, φ u → NotesFailure e u) : Noted w₀ id e (w, false) :=
  fun _ => .inl ⟨rfl, h.mono hφ⟩

omit [DecidableEq D] in
theorem OneRecord.missed {w : World D} (h : OneRecord w₀ id φ w)
    (hφ : ∀ u, φ u → u.phase ≠ .failedPreinstall ∧ u.phase ≠ .manualInterventionRequired) :
    Missed id w := by
  obtain ⟨u, hu, hid⟩ := h.record
  exact .inl ⟨u, hu, hid, hφ u (h.sat u hu hid)⟩

omit [DecidableEq D] in
theorem noted_of_other {e : RepairExc D} (he : e.isRepairError = false) (s : World D × Bool) :
    Noted w₀ id e s := by
  intro h
  rw [he] at h
  exact absurd h (by simp)

theorem noted_watching : Watching (unrecorded sha256) (Noted w₀ id) :=
  unrecorded_watching sha256 fun _ s he => noted_of_other he s

/-- A contract of the second half. -/
abbrev Works (sha256 : Bytes → D) (w₀ : World D) (id : TxId) {α : Type} (P : World D → Prop)
    (p : RepairProg D α) (Q : α → World D → Prop) : Prop :=
  Watched sha256 (unrecorded sha256) (Noted w₀ id) P p Q

theorem transition_works (ht : Version id oldIdx oldSdx t) (phase : Phase) :
    Works sha256 w₀ id (OneRecord w₀ id φ) (transition t phase) fun u w =>
      Version id oldIdx oldSdx u ∧ Stands w₀ id oldIdx oldSdx phase w := by
  refine noted_watching.transition fun w at_ hw => ⟨⟨ht.id, ht.oldIdx, ht.oldSdx, ht.path⟩, ?_⟩
  refine OneRecord.mono (OneRecord.save hw (by exact ht.id)) ?_
  rintro u rfl
  exact ⟨rfl, ht.oldIdx, ht.oldSdx⟩

theorem block_works (hid : t.id = id) {reason : String} {e : RepairExc D}
    (hreason : reason ∈ journaledReasons e) {Q : α → World D → Prop} :
    Works sha256 w₀ id (OneRecord w₀ id φ)
      ((manual t reason).bind fun _ => (Prog.raise e : RepairProg D α)) Q :=
  Unflagged.bind (manualNew_watched noted_watching hid reason) fun _ =>
    Unflagged.raise fun _ hw => hw.noted fun _ hu => ⟨.inr hu.1, hu.2 ▸ hreason⟩

theorem fail_works (hid : t.id = id) {reason : String} {e : RepairExc D}
    (hreason : reason ∈ journaledReasons e) {Q : α → World D → Prop} :
    Works sha256 w₀ id (OneRecord w₀ id φ)
      ((recordPreinstallFailure t reason).bind fun _ => (Prog.raise e : RepairProg D α)) Q :=
  Unflagged.bind (recordPreinstallFailure_watched noted_watching hid reason) fun _ =>
    Unflagged.raise fun _ hw => hw.noted fun _ hu => ⟨hu.1, hu.2 ▸ hreason⟩

/-! ### Backups -/

omit [DecidableEq D] in
theorem OneRecord.any_eq {w : World D} (h : OneRecord w₀ id φ w) {p : Transaction D → Prop}
    {q : Prop} [DecidablePred p] [Decidable q] (hpq : ∀ u, φ u → (p u ↔ q)) :
    (w.journal.any fun u => decide (u.id = id ∧ p u)) = decide q := by
  obtain ⟨u, hu, hid⟩ := h.record
  rw [Bool.eq_iff_iff, List.any_eq_true, decide_eq_true_iff]
  constructor
  · rintro ⟨v, hv, hcheck⟩
    obtain ⟨hvid, hp⟩ := of_decide_eq_true hcheck
    exact (hpq v (h.sat v hv hvid)).1 hp
  · exact fun hq => ⟨u, hu, decide_eq_true ⟨hid, (hpq u (h.sat u hu hid)).2 hq⟩⟩

/-- A check of a backup raises the flag exactly when it fails. -/
def ChecksBackup (sha256 : Bytes → D) (P : World D → Prop) (destination : Path)
    (digest : Digest D) : Prop :=
  ∀ c w, P w → unrecorded sha256 (.hash destination) c w =
    decide (¬ (c.fault = .none ∧ fileDigest sha256 w destination = some digest))

theorem checksBackup_idx : ChecksBackup sha256 (Stands w₀ id oldIdx oldSdx phase) (.backupIdx id)
    oldIdx.toDigest := by
  intro c w hw
  simp only [unrecorded, readBackFails, tailStarted, backupFails, Bool.false_or, Bool.or_false]
  refine hw.any_eq fun u hu => ?_
  rw [hu.2.1]
  rfl

theorem checksBackup_sdx {old : Artifact D} :
    ChecksBackup sha256 (Stands w₀ id oldIdx (some old) phase) (.backupSdx id) old.toDigest := by
  intro c w hw
  simp only [unrecorded, readBackFails, tailStarted, backupFails, Bool.false_or, Bool.or_false]
  refine hw.any_eq fun u hu => ?_
  rw [hu.2.2]
  rfl

theorem verifyBackup_works {destination : Path} {digest : Digest D}
    (hcheck : ChecksBackup sha256 (Stands w₀ id oldIdx oldSdx .candidateBuilt) destination digest)
    (message : String) :
    Works sha256 w₀ id (Stands w₀ id oldIdx oldSdx .candidateBuilt)
      ((sameArtifact destination (some digest)).bind fun same =>
        Prog.raiseIf (!same) (.repair message))
      fun _ => Stands w₀ id oldIdx oldSdx .candidateBuilt := by
  refine Discipline.Triple.bind (M := fun same s => (s.2 = !same) ∧
    Stands w₀ id oldIdx oldSdx .candidateBuilt s.1) ?_ fun same => Discipline.Triple.raiseIf ?_ ?_
  · refine Discipline.Triple.bind (M := fun answer s => (s.2 = true ↔ ¬ ∃ a, answer = some a ∧
      a.toDigest = digest) ∧ Stands w₀ id oldIdx oldSdx .candidateBuilt s.1)
      (Hoare.ask fun c s hs => ⟨?_, hs.2⟩) fun answer => ?_
    -- the read of the backup gives its digest exactly when it does not fail and the file has it
    · have hanswer : (∃ a, (repairExec sha256 (.hash destination) c s.1).1 = some a ∧
          a.toDigest = digest) ↔
          c.fault = .none ∧ fileDigest sha256 s.1 destination = some digest := by
        constructor
        · rintro ⟨a, ha, rfl⟩
          refine ⟨?_, (repairExec_hash destination).1 a ha⟩
          by_contra hne
          exact absurd ((if_neg hne).symm.trans ha) (by simp)
        · exact fun h => (repairExec_hash destination).2 h.1 digest h.2
      simp only [flagged, hs.1, hcheck c s.1 hs.2, Bool.false_or, decide_eq_true_iff]
      exact not_congr hanswer.symm
    · cases answer with
      | none => exact Discipline.Triple.ret fun s _ hs => ⟨by simpa using hs.1, hs.2⟩
      | some a =>
          refine Discipline.Triple.ret fun s _ hs => ⟨?_, hs.2⟩
          have hflag : s.2 = true ↔ ¬ a.toDigest = digest := by simpa using hs.1
          rw [Bool.eq_iff_iff, hflag]
          simp
  · intro hbad s _ hs _
    refine .inr ⟨by rw [hs.1]; exact hbad, hs.2.missed fun u hu => ?_⟩
    rw [hu.1]
    simp
  · intro hgood s _ hs
    exact ⟨by rw [hs.1]; simpa using hgood, hs.2⟩

omit [DecidableEq D] in
theorem Stands.onJournal : OnJournal (Stands w₀ id oldIdx oldSdx phase) :=
  OneRecord.onJournal

theorem copyBackup_works (source destination : Path) :
    Works sha256 w₀ id (Stands w₀ id oldIdx oldSdx phase) (copyBackup source destination)
      fun _ => Stands w₀ id oldIdx oldSdx phase := by
  have hquiet : ∀ r : RepairReq D, r.checks = false → r.saves = none →
      Works sha256 w₀ id (Stands w₀ id oldIdx oldSdx phase) (Prog.ask r)
        fun _ => Stands w₀ id oldIdx oldSdx phase :=
    fun r hr hs => noted_watching.quiet Stands.onJournal hr hs
  refine Unflagged.bind (hquiet (.scratchName _) rfl rfl) fun name => ?_
  refine Unflagged.bind (noted_watching.must (Unflagged.post (hquiet (.copy _ _ _) rfl rfl)
    fun _ _ hw _ => hw)) fun _ => ?_
  refine Unflagged.bind noted_watching.fsyncDirectory fun _ => ?_
  exact noted_watching.must (Unflagged.post (hquiet (.replace _ _) rfl rfl) fun _ _ hw _ => hw)

theorem backupOne_works (source : Path) {destination : Path} {digest : Digest D}
    (hcheck : ChecksBackup sha256 (Stands w₀ id oldIdx oldSdx .candidateBuilt) destination digest) :
    Works sha256 w₀ id (Stands w₀ id oldIdx oldSdx .candidateBuilt)
      (backupOne source destination (some digest))
      fun _ => Stands w₀ id oldIdx oldSdx .candidateBuilt := by
  refine Unflagged.bind noted_watching.fsyncDirectory fun _ => ?_
  refine Unflagged.bind (noted_watching.quiet Stands.onJournal (r := .node _) rfl rfl) fun found => ?_
  dsimp only
  split
  · exact verifyBackup_works hcheck _
  · refine Unflagged.bind (noted_watching.quiet Stands.onJournal (r := .link _ _) rfl rfl)
      fun linked => ?_
    refine Unflagged.bind (M := fun _ => Stands w₀ id oldIdx oldSdx .candidateBuilt)
      (Unflagged.when (fun _ => copyBackup_works _ _) fun _ _ hw => hw) fun _ => ?_
    have hverify := verifyBackup_works hcheck "repair backup verification failed"
    have hsync : Works sha256 w₀ id (Stands w₀ id oldIdx oldSdx .candidateBuilt) fsyncDirectory
        fun _ => Stands w₀ id oldIdx oldSdx .candidateBuilt := noted_watching.fsyncDirectory
    have hboth := Unflagged.bind hverify fun _ => hsync
    rw [Prog.bind_assoc] at hboth
    exact hboth

theorem backupSdx_works (ht : Version id oldIdx oldSdx t) :
    Works sha256 w₀ id (Stands w₀ id oldIdx oldSdx .candidateBuilt) (backupSdx t) fun u w =>
      Version id oldIdx oldSdx u ∧ Stands w₀ id oldIdx oldSdx .candidateBuilt w := by
  unfold backupSdx
  split
  · exact Unflagged.ret fun _ hw => ⟨ht, hw⟩
  · next old hold =>
      obtain rfl : oldSdx = some old := ht.oldSdx.symm.trans hold
      have hcheck : ChecksBackup sha256 (Stands w₀ id oldIdx (some old) .candidateBuilt)
          (.backupSdx t.id) old.toDigest := by
        rw [ht.id]
        exact checksBackup_sdx
      refine Unflagged.bind (backupOne_works _ hcheck) fun _ => ?_
      exact Unflagged.ret fun _ hw => ⟨⟨ht.id, ht.oldIdx, ht.oldSdx, ht.path⟩, hw⟩

theorem createBackups_works (ht : Version id oldIdx oldSdx t) :
    Works sha256 w₀ id (Stands w₀ id oldIdx oldSdx .candidateBuilt) (createBackups t) fun u w =>
      Version id oldIdx oldSdx u ∧ Stands w₀ id oldIdx oldSdx .backupCreated w := by
  have hidx : t.oldIdx.map Artifact.toDigest = some oldIdx.toDigest := by
    rw [ht.oldIdx]
    rfl
  have hcheck : ChecksBackup sha256 (Stands w₀ id oldIdx oldSdx .candidateBuilt) (.backupIdx t.id)
      oldIdx.toDigest := by
    rw [ht.id]
    exact checksBackup_idx
  refine Unflagged.bind noted_watching.fsyncDirectory fun _ => ?_
  refine Unflagged.bind (M := fun _ => Stands w₀ id oldIdx oldSdx .candidateBuilt) ?_ fun _ => ?_
  · rw [hidx]
    exact backupOne_works _ hcheck
  refine Unflagged.bind (backupSdx_works ⟨ht.id, ht.oldIdx, ht.oldSdx, ht.path⟩) fun u =>
    Unflagged.assume fun hu => ?_
  exact Unflagged.bind noted_watching.fsyncDirectory fun _ => transition_works hu _

/-! ### Installation -/

theorem installCandidate_works (ht : Version id oldIdx oldSdx t) :
    Works sha256 w₀ id (OneRecord w₀ id φ) (installCandidate t) fun _ _ => True := by
  obtain ⟨rfl, hidx, rfl, hpath⟩ := ht
  refine Unflagged.bind (noted_watching.orRaise rfl) fun candidate => Unflagged.assume fun hcandidate => ?_
  obtain rfl := hpath candidate hcandidate
  refine Unflagged.bind (noted_watching.orRaise rfl) fun digest => Unflagged.assume fun _ => ?_
  refine Unflagged.bind (Watching.sameArtifact (fun _ _ _ => rfl) digest) fun intact => ?_
  refine Unflagged.bind (M := fun _ w => fileDigest sha256 w (.candidate t.id) = some digest ∧
    OneRecord w₀ t.id φ w) ?_ fun _ => ?_
  · cases intact with
    | true => exact Unflagged.ret fun _ hw => ⟨hw.1 rfl, hw.2⟩
    | false => exact Unflagged.pre (block_works rfl (by simp [journaledReasons])) fun _ hw => hw.2
  refine Unflagged.bind (noted_watching.stageTemporary fun w node hw =>
    OneRecord.onJournal w _ rfl hw) fun _ => ?_
  refine Unflagged.bind (M := fun u w => (u.id = t.id ∧ u.phase = .installingCandidate) ∧
    fileDigest sha256 w (.installing t.id) = some digest ∧ OneRecord w₀ t.id (fun v => v = u) w)
    (noted_watching.transition fun w at_ hw => ⟨⟨rfl, rfl⟩, hw.1, hw.2.save (by rfl)⟩) fun u =>
      Unflagged.assume fun hu => ?_
  rw [← hu.1]
  refine Unflagged.bind (noted_watching.replaceLive OneRecord.onJournal) fun _ => ?_
  refine Unflagged.bind (noted_watching.removeStaleSdx OneRecord.onJournal) fun _ => ?_
  refine Unflagged.bind noted_watching.fsyncDirectory fun _ => ?_
  have hopen : ∀ w, OneRecord w₀ u.id (fun v => v = u) w →
      u ∈ w.journal ∧ u.phase = .installingCandidate := by
    intro w hw
    obtain ⟨v, hv, hid⟩ := hw.record
    exact ⟨hw.sat v hv hid ▸ hv, hu.2⟩
  refine Discipline.Triple.bind (noted_watching.readBack hopen
    (G := fun w => w.files u.liveSdx = none)) fun installed => ?_
  refine Discipline.Triple.bind (M := fun _ (s : World D × Bool) => s.2 = false ∧
    OneRecord w₀ u.id (fun v => v = u) s.1) (Discipline.Triple.raiseIf ?_ ?_) fun _ => ?_
  · intro hbad s _ hs _
    refine .inr ⟨by rw [hs.1]; exact hbad, hs.2.2.missed ?_⟩
    rintro v rfl
    rw [hu.2]
    simp
  · intro hgood s _ hs
    exact ⟨by rw [hs.1]; simpa using hgood, hs.2.2⟩
  -- the two last transitions fail with an `OSError` only
  have hlast : ∀ (P : World D → Prop) (v : Transaction D) (phase : Phase),
      Works sha256 w₀ u.id P (transition v phase) fun _ _ => True :=
    fun P v phase => noted_watching.transition fun _ _ _ => trivial
  have hrecorded : Works sha256 w₀ u.id (OneRecord w₀ u.id fun v => v = u) (recordInstalled u)
      fun _ _ => True :=
    Unflagged.bind (hlast _ u _) fun v => Unflagged.bind (hlast _ v _) fun _ =>
      Unflagged.ret fun _ _ => trivial
  exact hrecorded

theorem resume_works (hid : t.id = id) (hpath : ∀ p, t.candidatePath = some p → p = .candidate t.id)
    (oldIdx : Artifact D) (oldSdx : Option (Artifact D)) :
    Works sha256 w₀ id (OneRecord w₀ id fun u => u = t) (resume t oldIdx oldSdx) fun next w =>
      ∀ u, next = some u → Version id oldIdx oldSdx u ∧ OneRecord w₀ id (fun v => v = t) w := by
  refine Unflagged.bind (M := fun _ w => Version id oldIdx oldSdx t ∧
    OneRecord w₀ id (fun v => v = t) w) (Unflagged.when (fun _ => ?_) fun hsame w hw => ⟨?_, hw⟩)
    fun _ => Unflagged.assume fun ht => ?_
  · exact block_works hid (by simp [journaledReasons])
  · rw [not_or, not_not, not_not] at hsame
    exact ⟨hid, hsame.1, hsame.2, hpath⟩
  -- both phases that can be installed at once end without a next transaction
  have hinstalled : ∀ {u : Transaction D} {ψ : Transaction D → Prop}, Version id oldIdx oldSdx u →
      Works sha256 w₀ id (OneRecord w₀ id ψ) ((installCandidate u).bind fun _ => pure none)
        fun next w => ∀ v, next = some v → Version id oldIdx oldSdx v ∧
          OneRecord w₀ id (fun x => x = t) w := by
    intro u ψ hu
    refine Unflagged.bind (installCandidate_works hu) fun _ => Unflagged.ret fun _ _ v hv => ?_
    exact absurd hv (by simp)
  -- the phase of the record decides where the repair goes on
  by_cases hbacked : t.phase = .backupCreated
  · rw [if_pos hbacked]
    exact hinstalled ht
  rw [if_neg hbacked]
  by_cases hbuilt : t.phase = .candidateBuilt
  · rw [if_pos hbuilt]
    refine Unflagged.bind (Unflagged.pre (createBackups_works ht) fun w hw => hw.mono ?_) fun u =>
      Unflagged.assume fun hu => hinstalled hu
    rintro v rfl
    exact ⟨hbuilt, ht.oldIdx, ht.oldSdx⟩
  rw [if_neg hbuilt]
  refine Unflagged.bind (noted_watching.unlink fun w hw => OneRecord.onJournal w _ rfl hw) fun _ => ?_
  refine Unflagged.ret fun w hw u hu => ?_
  obtain rfl := Option.some.inj hu
  exact ⟨ht, hw⟩

/-! ### The build -/

theorem discardCandidate_works (built : HelperPayload D) :
    Works sha256 w₀ id (Stands w₀ id oldIdx oldSdx phase) (discardCandidate t.id built)
      fun _ => Stands w₀ id oldIdx oldSdx phase := by
  unfold discardCandidate
  split
  · exact noted_watching.quiet Stands.onJournal (r := .unlink _) rfl rfl
  · exact Unflagged.ret fun _ hw => hw

theorem acceptBuild_works (identity : SourceIdentity) (ht : Version id oldIdx oldSdx t)
    (fingerprint : SourceFingerprint D) (built : HelperPayload D) :
    Works sha256 w₀ id (Stands w₀ id oldIdx oldSdx phase)
      (acceptBuild identity t fingerprint built) fun result w =>
        Version id oldIdx oldSdx result.1 ∧ Stands w₀ id oldIdx oldSdx phase w := by
  -- the marks of a build leave the origin of the record as it is
  have hmarked : ∀ readonlyMountVerified writeRejected candidateIdx, Version id oldIdx oldSdx
      { t with
        readonlyMountVerified := readonlyMountVerified
        writeRejected := writeRejected
        candidatePath := some (.candidate t.id)
        candidateIdx := candidateIdx } :=
    fun _ _ _ => ⟨ht.id, ht.oldIdx, ht.oldSdx, fun p hp => (Option.some.inj hp).symm⟩
  have hsame : ∀ readonlyMountVerified writeRejected, Version id oldIdx oldSdx
      { t with readonlyMountVerified := readonlyMountVerified, writeRejected := writeRejected } :=
    fun _ _ => ⟨ht.id, ht.oldIdx, ht.oldSdx, ht.path⟩
  unfold acceptBuild
  cases built.sourceFingerprintAfter with
  | none => exact Unflagged.ret fun _ hw => ⟨ht, hw⟩
  | some raw =>
      dsimp only
      split
      · exact Unflagged.bind (discardCandidate_works built) fun removed =>
          Unflagged.ret fun _ hw => ⟨ht, hw⟩
      · split
        · exact Unflagged.ret fun _ hw => ⟨hsame _ _, hw⟩
        · split
          · exact Unflagged.ret fun _ hw => ⟨hsame _ _, hw⟩
          · split
            · exact Unflagged.ret fun _ hw => ⟨hmarked _ _ _, hw⟩
            · exact Unflagged.ret fun _ hw => ⟨hmarked _ _ _, hw⟩

theorem proveBuild_works (identity : SourceIdentity) (ht : Version id oldIdx oldSdx t)
    (fingerprint : SourceFingerprint D) :
    Works sha256 w₀ id (Stands w₀ id oldIdx oldSdx phase) (proveBuild identity t fingerprint)
      fun result w => Version id oldIdx oldSdx result.1 ∧ Stands w₀ id oldIdx oldSdx phase w := by
  have hbuild : (runBuild t.id fingerprint).Issues fun r => r = .build t.id fingerprint :=
    Prog.Issues.bind ((Prog.issues_ask _).2 rfl) fun process => helperPayload_issues process
  refine Unflagged.bind (M := fun _ => Stands w₀ id oldIdx oldSdx phase) (Unflagged.attempt
    (Unflagged.of_issues ?_ hbuild)) fun outcome => ?_
  · rintro _ c w rfl hw
    refine ⟨rfl, Stands.onJournal w _ ?_ hw⟩
    rcases repairExec_journal sha256 (.build t.id fingerprint) c w with heq | ⟨u, hu, -⟩
    · exact heq
    · exact absurd hu (by simp [RepairReq.saves])
  cases outcome with
  | ok built => exact acceptBuild_works identity ht fingerprint built
  | error e => exact Unflagged.ret fun _ hw => ⟨ht, hw⟩

theorem backUpAndInstall_works (ht : Version id oldIdx oldSdx t) :
    Works sha256 w₀ id (OneRecord w₀ id φ) (backUpAndInstall t) fun _ _ => True := by
  refine Unflagged.bind (transition_works ht _) fun u => Unflagged.assume fun hu => ?_
  refine Unflagged.bind (createBackups_works hu) fun v => Unflagged.assume fun hv => ?_
  exact installCandidate_works hv

theorem finishBuild_works (ht : Version id oldIdx oldSdx t) (liveIdx : Artifact D)
    (allowIdentical : Bool) :
    Works sha256 w₀ id (OneRecord w₀ id φ) (finishBuild t liveIdx allowIdentical)
      fun _ _ => True := by
  have hsame : Works sha256 w₀ id (OneRecord w₀ id φ) (sameArtifact (.candidate t.id) t.candidateIdx)
      fun _ => OneRecord w₀ id φ := by
    cases t.candidateIdx with
    | some digest =>
        have hdigest : Works sha256 w₀ id (OneRecord w₀ id φ) (sameArtifact (.candidate t.id)
          (some digest)) _ := Watching.sameArtifact (fun _ _ _ => rfl) digest
        exact Unflagged.post hdigest fun _ _ hw => hw.2
    | none =>
        refine Unflagged.bind (noted_watching.quiet OneRecord.onJournal (r := .node _) rfl rfl)
          fun _ => ?_
        exact Unflagged.ret fun _ hw => hw
  refine Unflagged.bind hsame fun same => ?_
  refine Unflagged.bind (M := fun _ => OneRecord w₀ id φ) (Unflagged.when (fun _ => ?_)
    fun _ _ hw => hw) fun _ => ?_
  · exact fail_works ht.id (by simp [journaledReasons, RepairExc.text])
  split
  · split
    · exact backUpAndInstall_works ⟨ht.id, ht.oldIdx, ht.oldSdx, ht.path⟩
    · refine block_works ?_ ?_
      · exact ht.id
      · simp [journaledReasons, RepairExc.text]
  · exact backUpAndInstall_works ht

/-! ### Tail recovery -/

theorem TailJournaled.exec {w : World D} (h : TailJournaled id w) (r : RepairReq D)
    (c : RepairChoice D) : TailJournaled id (repairExec sha256 r c w).2 := by
  obtain ⟨t, ht, hid, hphase⟩ := h
  refine ⟨t, ?_, hid, hphase⟩
  rcases repairExec_saves sha256 r c w with hs | ⟨kind, v, rfl, heq⟩
  · exact (hs.saved _ _).2 ht
  · rw [heq]
    exact List.mem_cons_of_mem _ ht

theorem flag_stays (r : RepairReq D) (c : RepairChoice D) {s : World D × Bool} (hs : s.2 = true) :
    (flagged (repairExec sha256) (unrecorded sha256) r c s).2.2 = true := by
  simp only [flagged, hs, Bool.true_or]

/-- Nothing takes a journaled tail back, and the flag stays up. -/
theorem after_tail (p : RepairProg D Unit) :
    Hoare (flagged (repairExec sha256) (unrecorded sha256))
      (fun s => s.2 = true ∧ TailJournaled id s.1) p (fun _ s => s.2 = true ∧ TailJournaled id s.1)
      (Noted w₀ id) := by
  refine Discipline.Triple.mono (Discipline.Triple.of_issues (K := fun _ => True)
    (fun _ _ _ _ heq h => heq ▸ h) (fun r s _ _ hs => ⟨trivial, fun c => ⟨?_, hs.2.exec r c⟩⟩)
    (Prog.issues_true p)) (fun _ _ hs => hs) (fun _ _ _ hs => hs) fun _ s _ hs _ => ?_
  · exact .inr ⟨hs.1, .inr hs.2⟩
  · exact flag_stays r c hs.1

/-- The record of a removed tail is saved, or the repair fails with an `OSError`. -/
theorem saveTail_works (hid : t.id = id) (hphase : t.phase = .tailRecovered) :
    Hoare (flagged (repairExec sha256) (unrecorded sha256)) (fun s => s.2 = true)
      (must (trySave .transition t)) (fun _ s => s.2 = true ∧ TailJournaled id s.1)
      (Noted w₀ id) := by
  refine Discipline.Triple.bind (M := fun (done : Bool) s => s.2 = true ∧
    (done = true → TailJournaled id s.1)) (Hoare.ask fun c s hs => ⟨flag_stays _ c hs, ?_⟩)
    fun done => Discipline.Triple.raiseIf (fun _ s _ _ => noted_of_other rfl s) fun hdone s _ hs =>
      ⟨hs.1, hs.2 (by simpa using hdone)⟩
  intro hdone
  have heq : (repairExec sha256 (.save .transition t) c s.1).2 = s.1.saveRecord .transition t :=
    attempted_of_true hdone
  refine ⟨t, ?_, hid, hphase⟩
  simp only [flagged, heq]
  exact List.mem_cons_self

theorem journalTail_works (hid : t.id = id) :
    Hoare (flagged (repairExec sha256) (unrecorded sha256)) (fun s => s.2 = true)
      ((transition t .tailRecovered).bind fun _ => (Prog.ret true : RepairProg D Bool))
      (fun recovered s => recovered = true ∧ s.2 = true ∧ TailJournaled id s.1) (Noted w₀ id) := by
  refine Discipline.Triple.bind (M := fun _ s => s.2 = true ∧ TailJournaled id s.1) ?_ fun _ =>
    Discipline.Triple.ret fun s _ hs => ⟨rfl, hs⟩
  refine Discipline.Triple.bind (M := fun _ s => s.2 = true)
    (Hoare.ask fun c s hs => flag_stays _ c hs) fun at_ => ?_
  refine Discipline.Triple.bind (saveTail_works ?_ rfl) fun _ =>
    Discipline.Triple.ret fun s _ hs => hs
  exact hid

theorem recoverIncompleteTail_works (cfg : Config) (hid : t.id = id)
    (fingerprint : SourceFingerprint D) (payload : HelperPayload D) :
    Hoare (flagged (repairExec sha256) (unrecorded sha256))
      (fun s => s.2 = false ∧ Stands w₀ id oldIdx oldSdx .candidateBuilding s.1)
      (RepairProg.recoverIncompleteTail cfg t fingerprint payload)
      (fun recovered s => (recovered = false → s.2 = false ∧
          Stands w₀ id oldIdx oldSdx .candidateBuilding s.1) ∧
        (recovered = true → s.2 = true ∧ TailJournaled id s.1))
      (Noted w₀ id) := by
  unfold RepairProg.recoverIncompleteTail
  cases tailGate cfg payload with
  | none => exact Discipline.Triple.ret fun s _ hs => ⟨fun _ => hs, fun h => absurd h (by simp)⟩
  | some violation =>
      refine Discipline.Triple.bind (noted_watching.fsyncDirectory
        (P := Stands w₀ id oldIdx oldSdx .candidateBuilding)) fun _ => ?_
      -- once the helper has been started, the flag is up
      refine Discipline.Triple.bind (M := fun process s => (process ≠ .spawnFailed → s.2 = true) ∧
        Stands w₀ id oldIdx oldSdx .candidateBuilding s.1) (Hoare.ask fun c s hs => ⟨?_, ?_⟩)
        fun process => ?_
      · intro hstarted
        have hfault : c.tailFault ≠ .spawnFailed := by
          intro hfault
          exact hstarted (by simp only [flagged, repairExec, hfault])
        simp [flagged, unrecorded, tailStarted, hfault]
      · refine Stands.onJournal s.1 _ ?_ hs.2
        rcases repairExec_journal sha256 (.recoverTail t.id (SourceFingerprint.raw fingerprint)
          cfg.autoTailRecoveryMaxBytes) c s.1 with heq | ⟨u, hu, -⟩
        · exact heq
        · exact absurd hu (by simp [RepairReq.saves])
      have hmissed : ∀ (e : RepairExc D) (s : World D × Bool), s.2 = true →
          Stands w₀ id oldIdx oldSdx .candidateBuilding s.1 → Noted w₀ id e s := by
        intro e s hflag hs _
        refine .inr ⟨hflag, hs.missed fun u hu => ?_⟩
        rw [hu.1]
        simp
      cases process with
      | spawnFailed =>
          exact Discipline.Triple.raise fun s _ _ => noted_of_other rfl s
      | timeout => exact Discipline.Triple.raise fun s _ hs => hmissed _ s (hs.1 (by simp)) hs.2
      | invalid => exact Discipline.Triple.raise fun s _ hs => hmissed _ s (hs.1 (by simp)) hs.2
      | failed error => exact Discipline.Triple.raise fun s _ hs => hmissed _ s (hs.1 (by simp)) hs.2
      | recovered offset tailSize tailSha256 needleId after =>
          have hcheck : ∀ (bad : Prop) [Decidable bad] (message : String),
              Hoare (flagged (repairExec sha256) (unrecorded sha256))
                (fun s => s.2 = true ∧ Stands w₀ id oldIdx oldSdx .candidateBuilding s.1)
                (Prog.raiseIf bad (.manual message))
                (fun _ s => s.2 = true ∧ Stands w₀ id oldIdx oldSdx .candidateBuilding s.1)
                (Noted w₀ id) :=
            fun bad _ message => Discipline.Triple.raiseIf (fun _ s _ hs => hmissed _ s hs.1 hs.2)
              fun _ _ _ hs => hs
          simp only [tailPayload, Prog.bind_eq, Prog.pure_eq, Prog.ret_bind]
          refine Discipline.Triple.pre (Discipline.Triple.bind (hcheck _ _) fun _ =>
            Discipline.Triple.bind (hcheck _ _) fun _ => ?_) fun s _ hs => ⟨hs.1 (by simp), hs.2⟩
          refine Discipline.Triple.mono (journalTail_works ?_) (fun s _ hs => hs.1)
            (fun recovered s _ hs => ⟨fun hfalse => ?_, fun _ => hs.2⟩) fun _ _ _ hs => hs
          · exact hid
          · exact absurd (hs.1.symm.trans hfalse) (by simp)

/-! ### The rest of the repair -/

/-- How the second half fails. A normal return may come with the flag up, after a recovered tail. -/
abbrev Fails (sha256 : Bytes → D) (w₀ : World D) (id : TxId) (P : World D → Prop)
    (p : RepairProg D Unit) : Prop :=
  Hoare (flagged (repairExec sha256) (unrecorded sha256)) (fun s => s.2 = false ∧ P s.1) p
    (fun _ _ => True) (Noted w₀ id)

theorem Fails.of_works {P : World D → Prop} {p : RepairProg D Unit} {Q : Unit → World D → Prop}
    (h : Works sha256 w₀ id P p Q) : Fails sha256 w₀ id P p :=
  Discipline.Triple.post h fun _ _ _ _ => trivial

theorem Fails.bind {P : World D → Prop} {M : α → World D → Prop} {p : RepairProg D α}
    {f : α → RepairProg D Unit} (hp : Works sha256 w₀ id P p M)
    (hf : ∀ a, Fails sha256 w₀ id (M a) (f a)) : Fails sha256 w₀ id P (p.bind f) :=
  Discipline.Triple.bind hp hf

theorem Fails.assume {φ : Prop} {P : World D → Prop} {p : RepairProg D Unit}
    (h : φ → Fails sha256 w₀ id P p) : Fails sha256 w₀ id (fun w => φ ∧ P w) p :=
  fun s hs hp => h hp.2.1 s hs ⟨hp.1, hp.2.2⟩

theorem failBuild_fails (cfg : Config) (ht : Version id oldIdx oldSdx t)
    (fingerprint : SourceFingerprint D) (again : RepairProg D Unit) (e : RepairExc D) :
    Fails sha256 w₀ id (Stands w₀ id oldIdx oldSdx .candidateBuilding)
      (failBuild cfg t fingerprint again e) := by
  have hfail : ∀ reason : String, Fails sha256 w₀ id (Stands w₀ id oldIdx oldSdx .candidateBuilding)
      ((recordPreinstallFailure t reason).bind fun _ => Prog.raise (.repair reason)) :=
    fun reason => Fails.of_works (Q := fun _ _ => True)
      (fail_works ht.id (by simp [journaledReasons, RepairExc.text]))
  have hblock : ∀ (e : RepairExc D) (reason : String), e.text = reason →
      Fails sha256 w₀ id (Stands w₀ id oldIdx oldSdx .candidateBuilding)
        ((manual t reason).bind fun _ => Prog.raise e) :=
    fun e reason he => Fails.of_works (Q := fun _ _ => True)
      (block_works ht.id (by simp [journaledReasons, he]))
  cases e with
  | unsafeCandidate message payload =>
      refine Discipline.Triple.bind (recoverIncompleteTail_works cfg ht.id fingerprint payload)
        fun recovered => ?_
      cases recovered with
      | true =>
          rw [if_pos rfl]
          exact Discipline.Triple.mono (after_tail again) (fun s _ hs => hs.2 rfl)
            (fun _ _ _ _ => trivial) fun _ _ _ hs => hs
      | false => exact Discipline.Triple.pre (hblock _ _ rfl) fun s _ hs => hs.1 rfl
  | manual message => exact hblock _ _ rfl
  | recursion => exact Discipline.Triple.raise fun s _ _ => noted_of_other rfl s
  | os => exact hfail _
  | lookup => exact hfail _
  | repair message => exact hfail _
  | journal message => exact hfail _

theorem buildAndInstall_fails (cfg : Config) (identity : SourceIdentity)
    (ht : Version id oldIdx oldSdx t) (fingerprint : SourceFingerprint D) (liveIdx : Artifact D)
    (allowIdentical : Bool) (again : RepairProg D Unit) :
    Fails sha256 w₀ id (OneRecord w₀ id φ)
      (buildAndInstall cfg identity t fingerprint liveIdx allowIdentical again) := by
  refine Fails.bind (transition_works ht _) fun u => Fails.assume fun hu => ?_
  have hstaged : Version id oldIdx oldSdx { u with stagingDir := some u.staging } :=
    ⟨hu.id, hu.oldIdx, hu.oldSdx, hu.path⟩
  refine Fails.bind (transition_works hstaged _) fun v => Fails.assume fun hv => ?_
  refine Fails.bind (transition_works hv _) fun x => Fails.assume fun hx => ?_
  refine Fails.bind (proveBuild_works identity hx fingerprint) fun result =>
    Fails.assume fun hresult => ?_
  rcases result with ⟨y, _ | e⟩
  · exact Fails.of_works (finishBuild_works hresult liveIdx allowIdentical)
  · exact failBuild_fails cfg hresult fingerprint again e

theorem continueRepair_fails (cfg : Config) (args : RepairArgs) (fuel : Nat) (allowIdentical : Bool)
    {o : Opened D} (hpath : ∀ p, o.t.candidatePath = some p → p = .candidate o.t.id)
    (hcreated : o.resumed = false → o.t.oldIdx = some o.oldIdx ∧ o.t.oldSdx = o.oldSdx) :
    Fails sha256 w₀ o.t.id (OneRecord w₀ o.t.id fun u => u = o.t)
      (continueRepair cfg args fuel allowIdentical o) := by
  refine Fails.bind (M := fun (next : Option (Transaction D)) w => ∀ u, next = some u →
    Version o.t.id o.oldIdx o.oldSdx u ∧ OneRecord w₀ o.t.id (fun v => v = o.t) w) ?_ fun next => ?_
  · unfold resumeOpened
    cases hresumed : o.resumed with
    | true => exact resume_works rfl hpath o.oldIdx o.oldSdx
    | false =>
        refine Unflagged.ret fun w hw u hu => ?_
        obtain rfl := Option.some.inj hu
        exact ⟨⟨rfl, (hcreated hresumed).1, (hcreated hresumed).2, hpath⟩, hw⟩
  · cases next with
    | none => exact Discipline.Triple.ret fun _ _ _ => trivial
    | some u =>
        have hbuild : Fails sha256 w₀ o.t.id (fun w => Version o.t.id o.oldIdx o.oldSdx u ∧
            OneRecord w₀ o.t.id (fun v => v = o.t) w) (buildAndInstall cfg o.identity u o.fingerprint
              o.oldIdx allowIdentical (repairOne cfg args fuel true)) :=
          Fails.assume fun hu => buildAndInstall_fails cfg _ hu _ _ allowIdentical _
        exact Discipline.Triple.pre hbuild fun s _ hs => ⟨hs.1, hs.2 u rfl⟩

/-- A resumed transaction has its own record, and a created one is the only new record. -/
theorem InHand.oneRecord {clean tidy : Prop} {o : Opened D} {w : World D} (h : InHand w₀ o w)
    (hw : RepairInv sha256 clean tidy w) (hmem : o.resumed = true → o.t ∈ w.journal) :
    OneRecord w₀ o.t.id (fun u => u = o.t) w := by
  cases hresumed : o.resumed with
  | true =>
      refine ⟨⟨o.t, hmem hresumed, rfl⟩, fun u hu hid => ?_, fun u hu _ => ?_⟩
      · exact hw.records.unique u hu o.t (hmem hresumed) hid
      · exact (h.resumed hresumed).2.old u hu
  | false => exact (h.created hresumed).2.1

theorem InHand.path {clean tidy : Prop} {o : Opened D} {w : World D} (h : InHand w₀ o w)
    (hw : RepairInv sha256 clean tidy w) (hmem : o.resumed = true → o.t ∈ w.journal) :
    ∀ p, o.t.candidatePath = some p → p = .candidate o.t.id := by
  cases hresumed : o.resumed with
  | true => exact (hw.records.paths o.t (hmem hresumed)).1
  | false =>
      intro p hp
      rw [(h.created hresumed).2.2.2.2] at hp
      exact absurd hp (by simp)

/-- A resumed transaction is in the journal. -/
theorem openRepair_obeys {clean tidy : Prop} {allow : Bool} (cfg : Config) (args : RepairArgs) :
    Obeys sha256 clean tidy (Standing sha256 clean tidy allow fun _ => False)
      (openRepair cfg args) fun o w => o.resumed = true → o.t ∈ w.journal := by
  have hsteady : Steady (Standing sha256 clean tidy allow fun _ => False) := Standing.fileFree.steady
  refine Obeys.bind (M := fun _ => Standing sha256 clean tidy allow fun _ => False)
    (Obeys.orRaise fun _ _ w _ h => h) fun base => ?_
  refine (authorizeUnfingerprintedRetry_obeys _).bind fun retry => ?_
  refine (preflightFingerprint_obeys hsteady (fun w h => h.recorded) base _ retry).bind fun F =>
    Obeys.assume fun hF => ?_
  refine (admitSource_obeys hF).bind fun admitted => ?_
  obtain ⟨same, authorized⟩ := admitted
  refine (closeStale_obeys _).bind fun _ => ?_
  refine (liveArtifacts_obeys base _).bind fun live => ?_
  obtain ⟨oldIdx, oldSdx⟩ := live
  have hfree : FileFree fun w => Admitted F same authorized w ∧
      Standing sha256 clean tidy allow (fun _ => False) w :=
    ⟨Admitted.fileFree.steady.and Standing.fileFree.steady,
      fun w p n h => ⟨Admitted.fileFree.setFile w p n h.1, Standing.fileFree.setFile w p n h.2⟩,
      fun w n h => ⟨Admitted.fileFree.serial w n h.1, Standing.fileFree.serial w n h.2⟩⟩
  dsimp only
  split
  -- a resumed record was loaded, and closing the stale ones left it in the journal
  · next t hresumable =>
      obtain ⟨hmem, hphase⟩ := List.mem_filter.1 (latestOf_mem hresumable)
      have hopen : t.phase.terminal = false := by
        revert hphase
        cases t.phase <;> simp [Phase.preinstall, Phase.terminal]
      exact Obeys.ret fun w _ h _ => h.1.kept t hmem hopen
  · refine Obeys.bind (M := fun _ _ => True) (create_obeys hfree base (fun w id at_ hw hf h => ?_)
      fun _ _ _ _ _ _ _ => trivial) fun t => Obeys.ret fun w _ _ hfalse => absurd hfalse (by simp)
    exact h.1.permit_create hw hf ⟨rfl, rfl, rfl, rfl, rfl, rfl, rfl⟩ rfl rfl

end

/-! ## Every failed attempt -/

/-- The transactions that a call creates or resumes. -/
def Engaged (sha256 : Bytes → D) (cfg : Config) (args : RepairArgs) (cs : List (RepairChoice D))
    (w : World D) (id : TxId) : Prop :=
  ¬ Old w id ∨ ∃ o w', (openRepair cfg args).run (repairExec sha256) cs w = (.ok o, w') ∧ o.t.id = id

section

variable {sha256 : Bytes → D} {cfg : Config} {args : RepairArgs} {cs : List (RepairChoice D)}
  {w w' : World D} {e : RepairExc D}

/-- A repair that fails before it has a transaction in hand. -/
theorem failures_of_noneMissed {w₁ : World D}
    (hopen : (openRepair cfg args).run (repairExec sha256) cs w = (.raised e, w₁))
    (h : ∀ t ∈ w'.journal, ¬ Old w t.id → NotesFailure e t) :
    ∀ t ∈ w'.journal, Engaged sha256 cfg args cs w t.id → FailureRecorded e w' t := by
  intro t ht hengaged
  rcases hengaged with hnew | ⟨o, w₂, hrun, -⟩
  · exact .of_mem ht (h t ht hnew)
  · exact absurd ((congrArg Prod.fst hrun).symm.trans (congrArg Prod.fst hopen)) (by simp)

/-- A repair whose record tells of the failure. -/
theorem failures_of_oneRecord {w₁ : World D} {o : Opened D}
    (hopen : (openRepair cfg args).run (repairExec sha256) cs w = (.ok o, w₁))
    (h : OneRecord w o.t.id (NotesFailure e) w') :
    ∀ t ∈ w'.journal, Engaged sha256 cfg args cs w t.id → FailureRecorded e w' t := by
  intro t ht hengaged
  have hid : t.id = o.t.id := by
    rcases hengaged with hnew | ⟨o', w₂, hrun, hid⟩
    · by_contra hne
      exact hnew (h.others t ht hne)
    · obtain rfl : o = o' :=
        Outcome.ok.inj ((congrArg Prod.fst hopen).symm.trans (congrArg Prod.fst hrun))
      exact hid.symm
  exact .of_mem ht (h.sat t ht hid)

/-- A repair whose record does not tell of the failure. -/
theorem not_failures_of_missed {w₁ : World D} {o : Opened D}
    (hopen : (openRepair cfg args).run (repairExec sha256) cs w = (.ok o, w₁))
    (hfinal : Concluded w') (h : Missed o.t.id w') :
    ¬ ∀ t ∈ w'.journal, Engaged sha256 cfg args cs w t.id → FailureRecorded e w' t := by
  have hrecord : ∃ t ∈ w'.journal, t.id = o.t.id ∧ t.phase ≠ .failedPreinstall ∧
      t.phase ≠ .manualInterventionRequired := by
    rcases h with hrecord | ⟨t, ht, hid, hphase⟩
    · exact hrecord
    · -- the record of the removed tail is final, whatever the second repair did
      obtain ⟨u, hu, huid, huphase⟩ := hfinal .transition t (by simp) ht (by rw [hphase]; rfl)
      refine ⟨u, hu, huid.trans hid, ?_⟩
      rw [huphase, hphase]
      simp
  obtain ⟨t, ht, hid, hfailed, hmanual⟩ := hrecord
  intro hall
  rcases (hall t ht (.inr ⟨o, w₁, hopen, hid.symm⟩)).notes.1 with hphase | hphase
  · exact hfailed hphase
  · exact hmanual hphase

end

/-- When a repair raises an `IndexRepairError`, every transaction that it has created or resumed is
journaled as a failure, exactly when no backup check and no read-back of the installed index failed
and no tail helper was started. -/
theorem failures_recorded_iff (sha256 : Bytes → D) (files : Int → Path → Option Node)
    (x : Int → Running (RepairReq D) RepairReq.Ans (RepairExc D) (World D))
    (hx : ControllerReachable sha256 False False files x) (volumeId : Int) (cfg : Config)
    (args : RepairArgs) (fuel : Nat) (allowIdentical : Bool) (cs : List (RepairChoice D))
    (e : RepairExc D) (w' : World D)
    (hrun : (repairOne cfg args fuel allowIdentical).run (repairExec sha256) cs
      (x volumeId).state = (.raised e, w'))
    (he : e.isRepairError = true) :
    (∀ t ∈ w'.journal, Engaged sha256 cfg args cs (x volumeId).state t.id →
        FailureRecorded e w' t) ↔
      ∀ y ∈ (repairOne cfg args fuel allowIdentical).served (repairExec sha256) cs
        (x volumeId).state, unrecorded sha256 y.1 y.2.1 y.2.2 = false := by
  have hinv : RepairInv sha256 False False (x volumeId).state := (hx.sound volumeId).inv
  have hstanding : Standing sha256 False False allowIdentical (fun _ => False)
      (x volumeId).state := ⟨False.elim, False.elim, False.elim⟩
  have hfinal : Concluded w' := (repairOne_obeys cfg args fuel allowIdentical).concluded hinv
    hstanding (concluded_of_reachable (Family.component hx volumeId)) hrun
  have hwatched := run_flagged (repairExec sha256) (unrecorded sha256) cs
    (repairOne cfg args fuel allowIdentical) (x volumeId).state false
  rw [hrun, Bool.false_or] at hwatched
  have hflag : ((repairOne cfg args fuel allowIdentical).served (repairExec sha256) cs
      (x volumeId).state).any (fun y => unrecorded sha256 y.1 y.2.1 y.2.2) = false ↔
      ∀ y ∈ (repairOne cfg args fuel allowIdentical).served (repairExec sha256) cs
        (x volumeId).state, unrecorded sha256 y.1 y.2.1 y.2.2 = false := by
    simp [List.any_eq_false]
  rw [← hflag]
  generalize ((repairOne cfg args fuel allowIdentical).served (repairExec sha256) cs
    (x volumeId).state).any (fun y => unrecorded sha256 y.1 y.2.1 y.2.2) = flag at hwatched ⊢
  generalize (x volumeId).state = w at *
  have hstart : NoneCreated w w := ⟨fun t ht => ⟨t, ht, rfl⟩, hinv.records.serial⟩
  cases fuel with
  | zero =>
      obtain ⟨he', -⟩ := Prod.mk.inj hrun
      rw [← Outcome.raised.inj he'] at he
      exact absurd he (by simp [RepairExc.isRepairError])
  | succ fuel =>
      rw [repairOne_succ] at hwatched
      -- without its flag, the watched run is the run
      have hplain : ∀ {outcome : Outcome (RepairExc D) (Opened D)} {s : World D × Bool},
          (openRepair cfg args).run (flagged (repairExec sha256) (unrecorded sha256)) cs (w, false) =
            (outcome, s) →
          (openRepair cfg args).run (repairExec sha256) cs w = (outcome, s.1) := by
        intro outcome s hopen
        have hopened := run_flagged (repairExec sha256) (unrecorded sha256) cs
          (openRepair cfg args : RepairProg D (Opened D)) w false
        rw [hopen] at hopened
        obtain ⟨h₁, h₂⟩ := Prod.mk.inj hopened
        exact Prod.ext h₁.symm (congrArg Prod.fst h₂).symm
      rcases Prog.run_bind (flagged (repairExec sha256) (unrecorded sha256))
        (continueRepair cfg args fuel allowIdentical) (openRepair cfg args) cs (w, false) with
        ⟨o, s, rest, hopen, hcontinue⟩ | ⟨e', s, hopen, hcontinue⟩ | ⟨s, -, hcontinue⟩
      · -- the repair was opened: a failure after that is recorded, or the flag says why not
        have hplain := hplain hopen
        obtain ⟨hdown, hhand⟩ := Hoare.of_ok (openRepair_opens cfg args) ⟨rfl, hstart⟩ hopen
        obtain ⟨hinv₁, hmem⟩ := Hoare.of_ok (openRepair_obeys cfg args).hoare ⟨hinv, hstanding⟩ hplain
        rw [hcontinue] at hwatched
        have hnoted := Hoare.of_raised (continueRepair_fails cfg args fuel allowIdentical
          (hhand.path hinv₁ hmem) fun hnew => (hhand.created hnew).2.2.imp_right And.left)
          ⟨hdown, hhand.oneRecord hinv₁ hmem⟩ hwatched he
        rcases hnoted with ⟨rfl, hrecord⟩ | ⟨rfl, hmissed⟩
        · exact iff_of_true (failures_of_oneRecord hplain hrecord) rfl
        · exact iff_of_false (not_failures_of_missed hplain hfinal hmissed) (by simp)
      · rw [hcontinue] at hwatched
        obtain ⟨he', rfl⟩ := Prod.mk.inj hwatched
        obtain rfl := Outcome.raised.inj he'
        obtain ⟨rfl, hnew⟩ := Hoare.of_raised (openRepair_opens cfg args) ⟨rfl, hstart⟩ hopen he
        -- it failed before there was a transaction to record it in
        exact iff_of_true (failures_of_noneMissed (hplain hopen) hnew) rfl
      · -- a run that is cut off raises nothing
        rw [hcontinue] at hwatched
        exact absurd (congrArg Prod.fst hwatched) (by simp)

/-! Two repairs of the sample volume that fail: one cannot read its fresh backup, the other one gets no
answer from the build helper. -/

namespace FailureSample

def world : World Bytes := { files := Sample.files }

/-- The twenty-sixth request checks the backup. -/
def unreadableBackup : List (RepairChoice Bytes) :=
  List.replicate 25 Sample.choice ++ [{ Sample.choice with fault := .before }]

/-- The eighteenth request builds the candidate. -/
def silentBuild : List (RepairChoice Bytes) :=
  List.replicate 17 Sample.choice ++ [{ Sample.choice with helper := .timeout },
    Sample.choice, Sample.choice]

theorem reachable : ControllerReachable id False False (fun _ => Sample.files)
    (Sample.controller Sample.files ⟨world, none⟩) :=
  Sample.controller_reachable .refl

/-- The outcome is an `IndexRepairError`. -/
def failed : Outcome (RepairExc Bytes) Unit → Bool
  | .raised e => e.isRepairError
  | _ => false

theorem exists_error {r : Outcome (RepairExc Bytes) Unit × World Bytes} (h : failed r.1 = true) :
    ∃ e w, r = (.raised e, w) ∧ e.isRepairError = true := by
  obtain ⟨o, w⟩ := r
  cases o with
  | raised e => exact ⟨e, w, rfl, h⟩
  | ok a => exact absurd h (by simp [failed])
  | crashed => exact absurd h (by simp [failed])

end FailureSample

/-- The repair fails with an `IndexRepairError` and leaves its transaction in `candidate_built`. -/
theorem backup_failure_unrecorded :
    ∃ e w, Sample.repair.run (repairExec id) FailureSample.unreadableBackup FailureSample.world =
        (.raised e, w) ∧ e.isRepairError = true ∧
      ∃ t ∈ w.journal, Engaged id Sample.config ⟨"", 1, ""⟩ FailureSample.unreadableBackup
        FailureSample.world t.id ∧ t.phase = .candidateBuilt ∧ t.failureReason = "" ∧
        ¬ FailureRecorded e w t := by
  obtain ⟨e, w, hrun, he⟩ := FailureSample.exists_error (r := Sample.repair.run (repairExec id)
    FailureSample.unreadableBackup FailureSample.world) (by decide +kernel)
  have hopen : ∃ t ∈ (Sample.repair.run (repairExec id) FailureSample.unreadableBackup
      FailureSample.world).2.journal, t.phase = .candidateBuilt ∧ t.failureReason = "" := by
    decide +kernel
  rw [hrun] at hopen
  obtain ⟨t, ht, hphase, hreason⟩ := hopen
  refine ⟨e, w, hrun, he, t, ht, .inl ?_, hphase, hreason, fun h => ?_⟩
  · rintro ⟨u, hu, -⟩
    exact absurd hu List.not_mem_nil
  · rcases h.notes.1 with hfailed | hmanual
    · exact absurd (hphase.symm.trans hfailed) (by simp)
    · exact absurd (hphase.symm.trans hmanual) (by simp)

/-- A build that times out is recorded. -/
theorem failures_recorded_timeout :
    ∃ e w, Sample.repair.run (repairExec id) FailureSample.silentBuild FailureSample.world =
        (.raised e, w) ∧ e.isRepairError = true ∧
      ∀ t ∈ w.journal, Engaged id Sample.config ⟨"", 1, ""⟩ FailureSample.silentBuild
        FailureSample.world t.id → FailureRecorded e w t := by
  obtain ⟨e, w, hrun, he⟩ := FailureSample.exists_error (r := Sample.repair.run (repairExec id)
    FailureSample.silentBuild FailureSample.world) (by decide +kernel)
  refine ⟨e, w, hrun, he, ?_⟩
  have hserved : ∀ y ∈ Sample.repair.served (repairExec id) FailureSample.silentBuild
      FailureSample.world, unrecorded id y.1 y.2.1 y.2.2 = false := by decide +kernel
  exact (failures_recorded_iff id _ _ FailureSample.reachable 1 Sample.config ⟨"", 1, ""⟩ 2 false
    FailureSample.silentBuild e w hrun he).2 hserved

end StorageNode.IndexRepair
