import StorageNode.IndexRepair.Records

/-!
# Transactions in flight

A transaction is under way while its phase is neither terminal nor failed and it has recorded the index
that it will replace. `soleDiscipline` keeps at most one such transaction of a volume. Saves of other
records are always permitted (`Harmless`); a record that is under way may be saved only if no other one
is.

Two operations save such records. `prepareOffline` works on the one that it finds. `repairOne` resumes
the one that it finds, or creates one after it has closed those of other sources. Both need to know that
nothing is installed already: `prepareOffline_sole` leaves no installation open, and `repairOne_sole`
asks for this.

Records of failed attempts carry no old index. They are created in `detected`, like all others, and
closed by the next save.
-/

set_option autoImplicit false

namespace StorageNode.IndexRepair

open StorageNode.Program StorageNode.IndexHelper RepairProg

variable {D : Type}

/-- The phases of a transaction in flight. -/
def Phase.inFlight : Phase → Bool
  | .detected | .writersStopped | .sourceMountedReadonly | .candidateBuilding | .candidateBuilt
  | .backupCreated | .installingCandidate | .candidateInstalled | .awaitingUpstreamValidation => true
  | _ => false

/-- A transaction that is under way: in flight, with the index that it replaces. -/
def Underway (t : Transaction D) : Prop :=
  t.phase.inFlight = true ∧ t.oldIdx ≠ none

/-- Every transaction under way satisfies `φ`. -/
def EachUnderway (φ : Transaction D → Prop) (w : World D) : Prop :=
  ∀ t ∈ w.journal, Underway t → φ t

theorem EachUnderway.mono {φ ψ : Transaction D → Prop} {w : World D} (h : EachUnderway φ w)
    (hφ : ∀ t, φ t → ψ t) : EachUnderway ψ w :=
  fun t ht hunder => hφ t (h t ht hunder)

/-- A record in flight without an old index has just been created. -/
def EarlyOk (t : Transaction D) : Prop :=
  t.phase.inFlight = true → t.oldIdx = none → t.phase = .detected

/-- At most one transaction of the volume is under way. -/
structure SoleInv (v : Int) (w : World D) : Prop where
  nodup : (w.journal.map Transaction.id).Nodup
  operators : ∀ o ∈ w.operators, o.phase = .manualInterventionRequired
  sole : ∃ i : TxId, i.base.volumeId = v ∧ EachUnderway (fun t => t.id = i) w
  early : ∀ t ∈ w.journal, EarlyOk t

/-- Nothing new is under way. -/
def NoneAdded (w w' : World D) : Prop :=
  ∀ t ∈ w'.journal, Underway t → t ∈ w.journal

/-- The facts under which a record may be saved. -/
structure Enters (v : Int) (t : Transaction D) (w : World D) : Prop where
  sole : Underway t → t.id.base.volumeId = v ∧ EachUnderway (fun u => u.id = t.id) w
  early : EarlyOk t

section

variable {v : Int} {w : World D} {t : Transaction D} {φ : Transaction D → Prop}

theorem EachUnderway.save (h : EachUnderway φ w) (ht : Underway t → φ t) {w' : World D}
    (hw' : w'.journal = saveTransaction w.journal t) : EachUnderway φ w' := by
  intro u hu hunder
  rw [hw'] at hu
  rcases mem_saveTransaction.1 hu with ⟨hu, -⟩ | rfl
  · exact h u hu hunder
  · exact ht hunder

/-- After a save, other records with the id of `t` are gone. -/
theorem EachUnderway.saved (h : EachUnderway φ w) {w' : World D}
    (hw' : w'.journal = saveTransaction w.journal t) :
    EachUnderway (fun u => u = t ∨ φ u ∧ u.id ≠ t.id) w' := by
  intro u hu hunder
  rw [hw'] at hu
  rcases mem_saveTransaction.1 hu with ⟨hu, hne⟩ | rfl
  · exact .inr ⟨h u hu hunder, hne⟩
  · exact .inl rfl

/-- A record that is not in flight may always be saved. -/
theorem Enters.closed (h : t.phase.inFlight = false) : Enters v t w where
  sole hunder := absurd hunder.1 (by simp [h])
  early hflight := absurd hflight (by simp [h])

theorem SoleInv.save (h : SoleInv v w) (ht : Enters v t w) {w' : World D}
    (hw' : w'.journal = saveTransaction w.journal t) (hoperators : w'.operators = w.operators) :
    SoleInv v w' where
  nodup := by
    rw [hw']
    exact nodup_saveTransaction h.nodup
  operators := by
    rw [hoperators]
    exact h.operators
  sole := by
    by_cases hunder : Underway t
    · exact ⟨t.id, (ht.sole hunder).1, (ht.sole hunder).2.save (fun _ => rfl) hw'⟩
    · obtain ⟨i, hi, hsole⟩ := h.sole
      exact ⟨i, hi, hsole.save (fun h => absurd h hunder) hw'⟩
  early u hu := by
    rw [hw'] at hu
    rcases mem_saveTransaction.1 hu with ⟨hu, -⟩ | rfl
    · exact h.early u hu
    · exact ht.early

theorem SoleInv.congr (h : SoleInv v w) {w' : World D} (hjournal : w'.journal = w.journal)
    (hoperators : w'.operators = w.operators) : SoleInv v w' := by
  obtain ⟨i, hi, hsole⟩ := h.sole
  refine ⟨hjournal ▸ h.nodup, hoperators ▸ h.operators, ⟨i, hi, fun t ht => ?_⟩, hjournal ▸ h.early⟩
  exact hsole t (hjournal ▸ ht)

/-- A `request_retry` call saves a blocked record. -/
theorem SoleInv.operator (h : SoleInv v w) {w' : World D} (hstep : OperatorStep w w') :
    SoleInv v w' ∧ NoneAdded w w' := by
  cases hstep with
  | load t ht =>
      obtain ⟨i, hi, hsole⟩ := h.sole
      refine ⟨⟨h.nodup, fun o ho => ?_, ⟨i, hi, hsole⟩, h.early⟩, fun _ hu _ => hu⟩
      rcases List.mem_cons.1 ho with rfl | ho
      · simpa using (List.mem_filter.1 (latestOf_mem ht)).2
      · exact h.operators o ho
  | save t elapsed others later hcopies =>
      have hblocked : t.phase = .manualInterventionRequired := h.operators t (by simp [hcopies])
      obtain ⟨i, hi, hsole⟩ := h.sole
      have hrest : SoleInv v { w with
          clock := w.clock + 1 + elapsed, operators := others ++ later } := by
        refine ⟨h.nodup, fun o ho => h.operators o ?_, ⟨i, hi, hsole⟩, h.early⟩
        rw [hcopies]
        rcases List.mem_append.1 ho with ho | ho
        · exact List.mem_append_left _ ho
        · exact List.mem_append_right _ (List.mem_cons_of_mem _ ho)
      refine ⟨hrest.save (.closed (by simp [hblocked, Phase.inFlight])) rfl rfl, fun u hu hunder => ?_⟩
      rcases mem_saveTransaction.1 hu with ⟨hu, -⟩ | rfl
      · exact hu
      · exact absurd hunder.1 (by simp [hblocked, Phase.inFlight])

end

/-! ## The discipline -/

variable [DecidableEq D]

/-- The controller does not touch the operators' copies. -/
theorem repairExec_operators (sha256 : Bytes → D) (r : RepairReq D) (c : RepairChoice D)
    (w : World D) : (repairExec sha256 r c w).2.operators = w.operators := by
  have heffect := repairExec_effect sha256 r c w
  generalize (repairExec sha256 r c w).2 = w' at heffect ⊢
  cases heffect <;> rfl

/-- At most one transaction of the volume is under way. -/
def soleDiscipline (sha256 : Bytes → D) (v : Int) : Discipline (repairExec sha256) where
  inv := SoleInv v
  disturb := NoneAdded
  allow r w := ∀ t, r.saves = some t → Enters v t w
  refl _ _ ht _ := ht
  trans _ _ _ hab hbc t ht hunder := hab t (hbc t ht hunder) hunder
  keeps r c w hw hr := by
    rcases repairExec_journal sha256 r c w with heq | ⟨t, ht, heq⟩
    · exact hw.congr heq (repairExec_operators sha256 r c w)
    · exact hw.save (hr t ht) heq (repairExec_operators sha256 r c w)

section

variable {sha256 : Bytes → D} {v : Int} {φ : Transaction D → Prop} {t : Transaction D} {α : Type}

/-- Contracts of the volume; exceptions may come at any time. -/
abbrev SoleTriple (sha256 : Bytes → D) (v : Int) {α : Type} (P : World D → Prop)
    (p : RepairProg D α) (Q : α → World D → Prop) : Prop :=
  (soleDiscipline sha256 v).Triple P p Q fun _ _ => True

theorem EachUnderway.stable : (soleDiscipline sha256 v).Stable (EachUnderway φ) :=
  fun _ _ _ _ hd h t ht hunder => h t (hd t ht hunder) hunder

/-! ### Saves of records that are not under way -/

/-- Requests that save nothing that is under way. -/
def Harmless (r : RepairReq D) : Prop :=
  ∀ t, r.saves = some t → ¬ Underway t ∧ EarlyOk t

omit [DecidableEq D] in
theorem harmless_of_saves {r : RepairReq D} (h : r.saves = none) : Harmless r :=
  fun _ ht => absurd (h.symm.trans ht) (by simp)

omit [DecidableEq D] in
theorem harmless_of_looks (r : RepairReq D) (h : r.looks = true) : Harmless r :=
  harmless_of_saves (RepairReq.saves_of_looks h)

omit [DecidableEq D] in
theorem harmless_closed {kind : SaveKind} (h : t.phase.inFlight = false) : Harmless (.save kind t) := by
  rintro u ⟨rfl⟩
  exact ⟨fun hunder => by simp [Underway, h] at hunder, fun hflight => by simp [h] at hflight⟩

/-- A program that saves nothing under way keeps every fact about what is. -/
theorem SoleTriple.harmless {p : RepairProg D α} (hp : p.Issues Harmless) :
    SoleTriple sha256 v (EachUnderway φ) p fun _ => EachUnderway φ := by
  refine Discipline.Triple.mono (Discipline.Triple.of_issues EachUnderway.stable ?_ hp)
    (fun _ _ h => h) (fun _ _ _ h => h) fun _ _ _ _ => trivial
  intro r w hr hw hφ
  refine ⟨fun t ht => ⟨fun h => absurd h (hr t ht).1, (hr t ht).2⟩, fun c => ?_⟩
  rcases repairExec_journal sha256 r c w with heq | ⟨t, ht, heq⟩
  · exact fun u hu => hφ u (heq ▸ hu)
  · exact hφ.save (fun h => absurd h (hr t ht).1) heq

omit [DecidableEq D] in
theorem transition_harmless {phase : Phase} (h : phase.inFlight = false) :
    (transition t phase).Issues Harmless := by
  refine ⟨harmless_of_looks _ rfl, fun at_ => ⟨harmless_closed h, fun saved => ?_⟩⟩
  cases saved <;> trivial

omit [DecidableEq D] in
theorem manual_harmless (reason : String) : (manual t reason).Issues Harmless :=
  (transition_harmless rfl).bind fun _ => trivial

omit [DecidableEq D] in
theorem recordPreinstallFailure_harmless (reason : String) :
    (recordPreinstallFailure t reason).Issues Harmless :=
  (transition_harmless rfl).bind fun _ => (manual_harmless reason).when

omit [DecidableEq D] in
/-- A new record without an old index. -/
theorem create_harmless {authorized : Bool} {base : Base} {payload : TxId → Nat → Transaction D}
    (hpayload : ∀ id at_, (payload id at_).oldIdx = none ∧ (payload id at_).phase = .detected) :
    (create authorized base payload).Issues Harmless := by
  refine ⟨harmless_of_looks _ rfl, fun at_ => ⟨harmless_of_looks _ rfl, fun id => ⟨?_, fun saved => ?_⟩⟩⟩
  · rintro u ⟨rfl⟩
    obtain ⟨hold, hphase⟩ := hpayload id at_
    exact ⟨fun hunder => hunder.2 hold, fun _ _ => hphase⟩
  · cases saved <;> trivial

omit [DecidableEq D] in
theorem consumeRetry_harmless (ht : t.phase = .manualInterventionRequired) (refusal : String) :
    (consumeRetry t refusal).Issues Harmless :=
  (Prog.issues_raiseIf _ _).bind fun _ => issues_must ((Prog.issues_ask _).2
    (harmless_closed (t := { t with operatorRetryConsumed := true }) (by simp [ht, Phase.inFlight])))

omit [DecidableEq D] in
theorem consumeLatest_harmless (ts : List (Transaction D)) (refusal : String) :
    (match latestOf (ts.filter fun t => t.phase = .manualInterventionRequired) with
      | none => pure false
      | some latest => do
        consumeRetry latest refusal
        pure true : RepairProg D Bool).Issues Harmless := by
  cases hlatest : latestOf (ts.filter fun t => t.phase = .manualInterventionRequired) with
  | none => trivial
  | some latest =>
      have hphase : latest.phase = .manualInterventionRequired := by
        simpa using (List.mem_filter.1 (latestOf_mem hlatest)).2
      exact (consumeRetry_harmless hphase refusal).bind fun _ => trivial

omit [DecidableEq D] in
theorem transactions_harmless : (transactions : RepairProg D (List (Transaction D))).Issues Harmless :=
  Prog.Issues.bind ((Prog.issues_ask _).2 (harmless_of_looks _ rfl)) fun _ => Prog.issues_orRaise _ _

omit [DecidableEq D] in
theorem authorizeUnfingerprintedRetry_harmless (identity : SourceIdentity) :
    (authorizeUnfingerprintedRetry identity : RepairProg D Bool).Issues Harmless :=
  transactions_harmless.bind fun _ => consumeLatest_harmless _ _

omit [DecidableEq D] in
theorem recordUnfingerprintedFailure_harmless (base : Base) (identity : SourceIdentity)
    (reason : String) (retryAuthorized : Bool) :
    (recordUnfingerprintedFailure base identity reason retryAuthorized : RepairProg D Unit).Issues
      Harmless := by
  refine transactions_harmless.bind fun ts => (Prog.issues_raiseIf _ _).bind fun _ => ?_
  exact (create_harmless fun _ _ => ⟨rfl, rfl⟩).bind fun t => recordPreinstallFailure_harmless reason

omit [DecidableEq D] in
theorem preflightFingerprint_harmless (base : Base) (identity : SourceIdentity)
    (retryAuthorized : Bool) :
    (preflightFingerprint base identity retryAuthorized : RepairProg D _).Issues Harmless := by
  have hpreflight : (do
      let payload ← runPreflight
      Prog.orRaise .lookup payload.sourceFingerprintBefore : RepairProg D (RawFingerprint D)).Issues
        Harmless := by
    refine Prog.Issues.bind ?_ fun payload => Prog.issues_orRaise _ _
    exact Prog.Issues.bind ((Prog.issues_ask _).2 (harmless_of_looks _ rfl)) fun process =>
      helperPayload_issues process
  refine hpreflight.attempt.bind fun outcome => ?_
  have hfail : ∀ e : RepairExc D, ((recordUnfingerprintedFailure base identity
      ("source preflight failed: " ++ e.text) retryAuthorized).bind fun _ =>
        (Prog.raise (.repair ("source preflight failed: " ++ e.text)) :
          RepairProg D (SourceFingerprint D))).Issues Harmless :=
    fun e => (recordUnfingerprintedFailure_harmless _ _ _ _).bind fun _ => trivial
  cases outcome with
  | ok raw => trivial
  | error e =>
      cases e with
      | os => trivial
      | recursion => trivial
      | lookup => exact hfail _
      | repair message => exact hfail _
      | journal message => exact hfail _
      | manual message => exact hfail _
      | unsafeCandidate message payload => exact hfail _

omit [DecidableEq D] in
theorem refuseExhausted_harmless (same : List (Transaction D)) :
    (refuseExhausted same).Issues Harmless :=
  Prog.Issues.bind (Prog.Issues.forEach (fun _ => manual_harmless _) _) fun _ => trivial

omit [DecidableEq D] in
theorem recordStructuralFailure_harmless (base : Base) (identity : SourceIdentity)
    (fingerprint : SourceFingerprint D) (attemptCount : Nat) (authorized : Bool) (reason : String) :
    (recordStructuralFailure base identity fingerprint attemptCount authorized reason).Issues
      Harmless :=
  (create_harmless fun _ _ => ⟨rfl, rfl⟩).bind fun _ => manual_harmless reason

omit [DecidableEq D] in
theorem liveArtifacts_harmless (base : Base) (identity : SourceIdentity)
    (fingerprint : SourceFingerprint D) (attemptCount : Nat) (authorized : Bool) :
    (liveArtifacts base identity fingerprint attemptCount authorized).Issues Harmless := by
  have hnode : ∀ p : Path, (node p : RepairProg D _).Issues Harmless := fun p =>
    (Prog.issues_ask _).2 (harmless_of_looks _ rfl)
  have hhash : ∀ p : Path, (hashOrRaise p : RepairProg D _).Issues Harmless := fun p =>
    Prog.Issues.bind ((Prog.issues_ask _).2 (harmless_of_looks _ rfl)) fun _ => Prog.issues_orRaise _ _
  refine (hnode _).bind fun idx => ?_
  refine Prog.Issues.bind (issues_refuse (recordStructuralFailure_harmless _ _ _ _ _ _)) fun _ => ?_
  refine (hnode _).bind fun sdx => ?_
  refine Prog.Issues.bind (issues_refuse (recordStructuralFailure_harmless _ _ _ _ _ _)) fun _ => ?_
  refine (hhash _).bind fun oldIdx => (hnode _).bind fun found => Prog.Issues.bind ?_ fun _ => trivial
  unfold sortedArtifact
  split
  · exact (hhash _).bind fun _ => trivial
  · trivial

/-! ### Validation, rollback and reconciliation -/

omit [DecidableEq D] in
theorem awaiting_harmless : (awaiting : RepairProg D (List (Transaction D))).Issues Harmless :=
  transactions_harmless.bind fun _ => trivial

omit [DecidableEq D] in
theorem validateUpstream_harmless (readonly : Int → Option Bool) :
    (validateUpstream readonly : RepairProg D Unit).Issues Harmless := by
  refine awaiting_harmless.bind fun ts => Prog.Issues.forEach (fun t => ?_) ts
  unfold validateOne
  split
  · exact (transition_harmless rfl).bind fun _ => trivial
  · trivial

theorem rollback_harmless (reason : String) : (rollback reason t).Issues Harmless := by
  have hrestore : ∀ (backup destination : Path) (expected : Artifact D),
      (restoreOne backup destination expected).Issues Harmless := fun backup destination expected =>
    restoreOne_issues harmless_of_looks backup (fun _ _ => harmless_of_saves rfl)
      (fun _ => harmless_of_saves rfl) expected
  refine (Prog.issues_orRaise _ _).bind fun backup => (Prog.issues_orRaise _ _).bind fun old => ?_
  refine (hrestore _ _ _).bind fun _ => Prog.Issues.bind ?_ fun _ => ?_
  · unfold restoreSdx
    split
    · exact (Prog.issues_orRaise _ _).bind fun _ => hrestore _ _ _
    · exact issues_unlink (harmless_of_saves rfl)
  · refine (issues_fsync (harmless_of_looks _ rfl)).bind fun _ => ?_
    exact (transition_harmless rfl).bind fun _ => manual_harmless reason

theorem rollbackRejected_harmless (volumeIds : List Int) (reason : String) :
    (rollbackRejected volumeIds reason : RepairProg D Unit).Issues Harmless :=
  awaiting_harmless.bind fun _ => Prog.Issues.forEach (fun _ => rollback_harmless reason) _

omit [DecidableEq D] in
theorem reconcileResolvedPreinstall_harmless (resolved : Int → Bool) :
    (reconcileResolvedPreinstall resolved : RepairProg D Unit).Issues Harmless := by
  refine transactions_harmless.bind fun ts => Prog.Issues.forEach (fun t => Prog.Issues.when ?_) ts
  exact (transition_harmless rfl).bind fun _ =>
    Prog.Issues.when ((Prog.issues_ask _).2 (harmless_of_saves rfl))

end

end StorageNode.IndexRepair
