import StorageNode.IndexRepair.Keeps
import StorageNode.IndexRepair.Programs

/-!
# Contracts of the journal and file operations

`Obeys P p Q` is the contract of a controller program under `repairDiscipline`, with no promise about
exceptions. This module has the contracts of single requests, of `sameArtifact`, and of journal
transitions, and the facts that permit a transition of the transaction at hand (`permit_transition`).
-/

set_option autoImplicit false

namespace StorageNode.IndexRepair

open StorageNode.Program StorageNode.IndexHelper RepairProg

variable {D : Type}

/-- A condition that `request_retry` calls and the clock leave alone. -/
structure Steady (P : World D → Prop) : Prop where
  stable : ∀ w w', Interference w w' → P w → P w'
  clock : ∀ w n, P w → P { w with clock := n }

theorem Steady.and {P P' : World D → Prop} (h : Steady P) (h' : Steady P') :
    Steady fun w => P w ∧ P' w :=
  ⟨fun w w' hi hp => ⟨h.stable w w' hi hp.1, h'.stable w w' hi hp.2⟩,
    fun w n hp => ⟨h.clock w n hp.1, h'.clock w n hp.2⟩⟩

theorem Steady.const (φ : Prop) : Steady fun _ : World D => φ :=
  ⟨fun _ _ _ h => h, fun _ _ h => h⟩

/-- A record that is not blocked stays as it is. -/
theorem Steady.saved {t : Transaction D} (ht : t.phase ≠ .manualInterventionRequired) :
    Steady fun w => t ∈ w.journal :=
  ⟨fun _ _ hi hm => (hi.kept t ht).2 hm, fun _ _ h => h⟩

theorem Steady.fileDigest {sha256 : Bytes → D} {p : Path} {d : Digest D} :
    Steady fun w => fileDigest sha256 w p = some d :=
  ⟨fun w w' hi h => by simpa only [IndexRepair.fileDigest, World.contents, hi.files] using h,
    fun _ _ h => h⟩

/-- A condition that speaks about no file. -/
structure FileFree (K : World D → Prop) : Prop where
  steady : Steady K
  setFile : ∀ w p node, K w → K (w.setFile p node)
  serial : ∀ w n, K w → K { w with nextSerial := n }

theorem FileFree.const (φ : Prop) : FileFree fun _ : World D => φ :=
  ⟨Steady.const φ, fun _ _ _ h => h, fun _ _ h => h⟩

theorem FileFree.saved {K : World D → Prop} (hK : FileFree K) {t : Transaction D}
    (ht : t.phase ≠ .manualInterventionRequired) : FileFree fun w => t ∈ w.journal ∧ K w :=
  ⟨(Steady.saved ht).and hK.steady, fun w p node h => ⟨h.1, hK.setFile w p node h.2⟩,
    fun w n h => ⟨h.1, hK.serial w n h.2⟩⟩

/-- What a save of the transaction with the given id and a change of a file leave alone. -/
structure Carried (id : TxId) (K : World D → Prop) : Prop extends FileFree K where
  save : ∀ w kind t, t.id = id → K w → K (w.saveRecord kind t)

theorem Carried.and {id : TxId} {K K' : World D → Prop} (h : Carried id K) (h' : Carried id K') :
    Carried id fun w => K w ∧ K' w :=
  ⟨⟨h.steady.and h'.steady, fun w p n hk => ⟨h.setFile w p n hk.1, h'.setFile w p n hk.2⟩,
    fun w n hk => ⟨h.serial w n hk.1, h'.serial w n hk.2⟩⟩,
    fun w kind t hid hk => ⟨h.save w kind t hid hk.1, h'.save w kind t hid hk.2⟩⟩

theorem Carried.trivial (id : TxId) : Carried id fun _ : World D => True :=
  ⟨FileFree.const True, fun _ _ _ _ h => h⟩

variable [DecidableEq D]

/-- The contract of a controller program. -/
def Obeys (sha256 : Bytes → D) (clean tidy : Prop) {α : Type} (P : World D → Prop)
    (p : RepairProg D α) (Q : α → World D → Prop) : Prop :=
  (repairDiscipline sha256 clean tidy).Triple P p Q fun _ _ => True

section

variable {sha256 : Bytes → D} {clean tidy : Prop} {α β : Type} {P P' : World D → Prop}
  {Q Q' : α → World D → Prop}

namespace Obeys

theorem bind {M : α → World D → Prop} {Q : β → World D → Prop} {p : RepairProg D α}
    {f : α → RepairProg D β} (hp : Obeys sha256 clean tidy P p M)
    (hf : ∀ a, Obeys sha256 clean tidy (M a) (f a) Q) : Obeys sha256 clean tidy P (p.bind f) Q :=
  Discipline.Triple.bind hp hf

theorem ret {a : α} (h : ∀ w, RepairInv sha256 clean tidy w → P w → Q a w) :
    Obeys sha256 clean tidy P (.ret a) Q :=
  Discipline.Triple.ret h

theorem raise {e : RepairExc D} : Obeys sha256 clean tidy P (.raise e : RepairProg D α) Q :=
  Discipline.Triple.raise fun _ _ _ => trivial

theorem pre {p : RepairProg D α} (h : Obeys sha256 clean tidy P p Q)
    (hP : ∀ w, RepairInv sha256 clean tidy w → P' w → P w) : Obeys sha256 clean tidy P' p Q :=
  Discipline.Triple.pre h hP

theorem post {p : RepairProg D α} (h : Obeys sha256 clean tidy P p Q)
    (hQ : ∀ a w, RepairInv sha256 clean tidy w → Q a w → Q' a w) :
    Obeys sha256 clean tidy P p Q' :=
  Discipline.Triple.post h hQ

theorem raiseIf {Q : Unit → World D → Prop} {bad : Prop} [Decidable bad] {e : RepairExc D}
    (hQ : ¬ bad → ∀ w, RepairInv sha256 clean tidy w → P w → Q () w) :
    Obeys sha256 clean tidy P (Prog.raiseIf bad e) Q :=
  Discipline.Triple.raiseIf (fun _ _ _ _ => trivial) hQ

theorem when {Q : Unit → World D → Prop} {condition : Prop} [Decidable condition]
    {p : RepairProg D Unit} (hp : condition → Obeys sha256 clean tidy P p Q)
    (hQ : ¬ condition → ∀ w, RepairInv sha256 clean tidy w → P w → Q () w) :
    Obeys sha256 clean tidy P (Prog.when condition p) Q :=
  Discipline.Triple.when hp hQ

theorem orRaise {e : RepairExc D} {o : Option α}
    (hQ : ∀ a, o = some a → ∀ w, RepairInv sha256 clean tidy w → P w → Q a w) :
    Obeys sha256 clean tidy P (Prog.orRaise e o) Q :=
  Discipline.Triple.orRaise (fun _ _ _ _ => trivial) hQ

theorem ite {condition : Prop} [Decidable condition] {p q : RepairProg D α}
    (hp : condition → Obeys sha256 clean tidy P p Q)
    (hq : ¬ condition → Obeys sha256 clean tidy P q Q) :
    Obeys sha256 clean tidy P (if condition then p else q) Q :=
  Discipline.Triple.ite hp hq

/-- A fact that does not depend on the state moves into the context. -/
theorem assume {φ : Prop} {p : RepairProg D α} (h : φ → Obeys sha256 clean tidy P p Q) :
    Obeys sha256 clean tidy (fun w => φ ∧ P w) p Q :=
  Discipline.Triple.assume h

/-- A fact that the invariant gives moves into the context. -/
theorem derive {φ : Prop} {p : RepairProg D α}
    (hφ : ∀ w, RepairInv sha256 clean tidy w → P w → φ)
    (h : φ → Obeys sha256 clean tidy P p Q) : Obeys sha256 clean tidy P p Q :=
  fun w hw hp => h (hφ w hw hp) w hw hp

theorem must {Q : Unit → World D → Prop} {p : RepairProg D Bool}
    (h : Obeys sha256 clean tidy P p fun ok w => ok = true → Q () w) :
    Obeys sha256 clean tidy P (RepairProg.must p) Q := by
  unfold RepairProg.must
  exact h.bind fun ok => raiseIf fun hok w _ hq => hq (by simpa using hok)

/-- One request. -/
theorem ask {r : RepairReq D} {Q : r.Ans → World D → Prop} (hP : Steady P)
    (hA : ∀ w, RepairInv sha256 clean tidy w → P w → Permit sha256 clean tidy r w)
    (hQ : ∀ c w, RepairInv sha256 clean tidy w → P w →
      Q (repairExec sha256 r c w).1 (repairExec sha256 r c w).2) :
    Obeys sha256 clean tidy P (Prog.ask r) Q :=
  Discipline.Triple.ask (fun w w' _ _ hi hp => hP.stable w w' hi hp) hA
    fun c w hw hp _ => hQ c w hw hp

end Obeys

/-! ## Reads -/

theorem node_obeys (hP : Steady P) (p : Path) :
    Obeys sha256 clean tidy P (node p) fun found w => P w ∧ w.files p = found :=
  Obeys.ask hP (fun _ _ _ => trivial) fun _ _ _ hp => ⟨hp, rfl⟩

theorem fsyncDirectory_obeys (hP : Steady P) :
    Obeys sha256 clean tidy P (fsyncDirectory : RepairProg D Unit) fun _ => P := by
  refine Obeys.must ?_
  exact Obeys.ask hP (fun _ _ _ => trivial) fun _ _ _ hp _ => hp

theorem hashFile_obeys (hP : Steady P) (p : Path) :
    Obeys sha256 clean tidy P (hashFile p) fun found w => P w ∧
      ∀ artifact, found = some artifact → fileDigest sha256 w p = some artifact.toDigest := by
  refine Obeys.ask hP (fun _ _ _ => trivial) fun c w _ hp => ⟨hp, fun artifact h => ?_⟩
  have hread : ((w.files p).bind Node.read).map
      (fun x => (⟨digestOf sha256 x.1, x.2⟩ : Artifact D)) = some artifact := by
    by_cases hc : c.fault = .none
    · simpa [repairExec, hc] using h
    · simp [repairExec, hc] at h
  obtain ⟨x, hx, rfl⟩ := Option.map_eq_some_iff.1 hread
  change (((w.files p).bind Node.read).map Prod.fst).map (digestOf sha256) = _
  rw [hx]
  rfl

theorem sameArtifact_obeys (hP : Steady P) (p : Path) (expected : Option (Digest D)) :
    Obeys sha256 clean tidy P (sameArtifact p expected) fun same w => P w ∧
      ∀ d, expected = some d → same = true → fileDigest sha256 w p = some d := by
  unfold sameArtifact
  simp only [Prog.bind_eq, Prog.pure_eq]
  cases expected with
  | none =>
      refine (node_obeys hP p).bind fun found => Obeys.ret fun w _ h => ⟨h.1, fun d hd => ?_⟩
      exact absurd hd (by simp)
  | some digest =>
      refine (hashFile_obeys hP p).bind fun found => ?_
      cases found with
      | none => exact Obeys.ret fun w _ h => ⟨h.1, fun d _ hfalse => absurd hfalse (by simp)⟩
      | some actual =>
          refine Obeys.ret fun w _ h => ⟨h.1, fun d hd hsame => ?_⟩
          rw [h.2 actual rfl, of_decide_eq_true hsame, Option.some.inj hd]

theorem transactions_obeys (hP : Steady P) :
    Obeys sha256 clean tidy P (transactions : RepairProg D (List (Transaction D)))
      fun ts w => P w ∧ w.journal = ts := by
  unfold transactions
  simp only [Prog.bind_eq]
  refine Obeys.bind (M := fun found w => P w ∧ ∀ ts, found = some ts → w.journal = ts)
    (Obeys.ask hP (fun _ _ _ => trivial) fun c w _ hp => ⟨hp, fun ts h => ?_⟩)
    fun found => Obeys.orRaise fun ts hts w _ h => ⟨h.1, h.2 ts hts⟩
  by_cases hc : c.fault = .none
  · simpa [repairExec, hc] using h
  · simp [repairExec, hc] at h

theorem awaiting_obeys (hP : Steady P) :
    Obeys sha256 clean tidy P (awaiting : RepairProg D (List (Transaction D)))
      fun ts w => P w ∧ ts = w.journal.filter fun t => t.phase.pendingValidation := by
  unfold awaiting
  simp only [Prog.bind_eq, Prog.pure_eq]
  refine (transactions_obeys hP).bind fun ts => Obeys.ret fun w _ h => ⟨h.1, ?_⟩
  rw [h.2]

/-! ## Writes -/

omit [DecidableEq D] in
/-- An attempted change that reports success has happened. -/
theorem attempted_of_true {c : RepairChoice D} {w w' : World D} (h : (attempted c w w').1 = true) :
    (attempted c w w').2 = w' := by
  unfold attempted at h ⊢
  cases hf : c.fault with
  | none => rfl
  | before => simp [hf] at h
  | after => simp [hf] at h

theorem unlink_obeys (hP : Steady P) {Q : World D → Prop} {p : Path}
    (hp : ∀ w, P w → WriteOk p w) (hQ : ∀ w, P w → Q (w.setFile p none)) :
    Obeys sha256 clean tidy P (must (tryUnlink p)) fun _ => Q := by
  refine Obeys.must (Obeys.ask hP (fun w _ h => hp w h) fun c w _ h hok => ?_)
  rw [show (repairExec sha256 (.unlink p) c w).2 = w.setFile p none from attempted_of_true hok]
  exact hQ w h

theorem transition_obeys (hP : Steady P) {Q : Transaction D → World D → Prop} {t : Transaction D}
    {phase : Phase}
    (hok : ∀ w at_, RepairInv sha256 clean tidy w → P w →
      Permit sha256 clean tidy (.save .transition { t with phase := phase, updatedAt := at_ }) w)
    (hQ : ∀ w at_, RepairInv sha256 clean tidy w → P w →
      Q { t with phase := phase, updatedAt := at_ }
        (w.saveRecord .transition { t with phase := phase, updatedAt := at_ })) :
    Obeys sha256 clean tidy P (transition t phase) Q := by
  unfold transition
  simp only [Prog.bind_eq, Prog.pure_eq]
  refine Obeys.bind (M := fun _ => P)
    (Obeys.ask hP (fun _ _ _ => trivial) fun c w _ hp => hP.clock w _ hp) fun at_ => ?_
  refine Obeys.bind (M := fun _ => Q { t with phase := phase, updatedAt := at_ })
    (Obeys.must (Obeys.ask hP (fun w hw hp => hok w at_ hw hp) fun c w hw hp hsaved => ?_))
    fun _ => Obeys.ret fun w _ h => h
  rw [show (repairExec sha256 (.save .transition _) c w).2 = w.saveRecord .transition _ from
    attempted_of_true hsaved]
  exact hQ w at_ hw hp

end

/-! ## Transitions of the transaction at hand -/

/-- The fields that no transition changes. -/
structure KeepsRecord (u t : Transaction D) : Prop where
  id : t.id = u.id
  source : t.sourceFingerprint = u.sourceFingerprint
  count : t.attemptCount = u.attemptCount
  requestedAt : t.operatorRetryRequestedAt = u.operatorRetryRequestedAt
  consumed : t.operatorRetryConsumed = u.operatorRetryConsumed
  identical : t.candidateIdenticalToLiveIndex = u.candidateIdenticalToLiveIndex

/-- A transition of a journaled transaction that is not final, with the facts that the new phase
needs. -/
theorem permit_transition {sha256 : Bytes → D} {clean tidy : Prop} {w : World D}
    (h : RepairInv sha256 clean tidy w) {u t : Transaction D} (hu : u ∈ w.journal)
    (hopen : u.phase.terminal = false) (hkeep : KeepsRecord u t)
    (hproven : ∀ d, t.candidateIdx = some d → ProvenBy w.log t.id t.sourceFingerprint d)
    (hdiffers : t.phase.proven = true → Differs t)
    (hbacked : t.phase.backed = true → Backed sha256 w t) (hpaths : PathsOk t)
    (hunbuilt : clean → t.phase.unbuilt = true → ∀ F, t.id ∉ builds F w.log)
    (hbuilt : tidy → t.phase = .candidateBuilt → Recorded sha256 w) :
    Permit sha256 clean tidy (.save .transition t) w := by
  -- the journal holds one record of the transaction, and it is not final
  have hsame : ∀ x ∈ w.journal, x.id = t.id → x = u :=
    fun x hx hxid => h.records.unique x hx u hu (hxid.trans hkeep.id)
  have hnotResolved : u.phase ≠ .resolvedWithoutInstall := by
    intro hp
    rw [hp] at hopen
    exact absurd hopen (by decide)
  have hnotRefused : t.candidateIdenticalToLiveIndex = true → False := by
    intro hflag
    have hphase := h.records.refused u hu (hkeep.identical ▸ hflag)
    rw [hphase] at hopen
    exact absurd hopen (by decide)
  refine ⟨⟨hkeep.id ▸ h.records.serial u hu, ?_, hproven, hdiffers, hbacked, hpaths, ?_, ?_, ?_, ?_,
    ?_, hunbuilt, fun hflag => absurd (hnotRefused hflag) id⟩, ⟨by simp, ?_, by simp⟩,
    fun ht _ => ⟨hbuilt ht, fun hflag => absurd (hnotRefused hflag) id⟩⟩
  · -- an operator's copy is of a blocked record, which this is not
    intro o ho hoid
    obtain ⟨x, hx, hxid, hphase, -⟩ := h.records.operator_record ho
    obtain rfl := hsame x hx (hxid.trans hoid)
    rw [hphase] at hopen
    exact absurd hopen (by decide)
  · intro x hx hxid
    rw [hsame x hx hxid, hkeep.source]
  · intro x hx hxid hterm
    rw [hsame x hx hxid, hopen] at hterm
    exact absurd hterm (by simp)
  · exact fun hk => absurd hk (by simp)
  · intro hknown
    rw [hkeep.source] at hknown ⊢
    rw [hkeep.id, hkeep.count]
    exact .inr (h.attempt.created u hu hknown)
  · -- the attempt count is that of the old record, which the invariant keeps apart
    intro hknown _ x hx hxid hxF hxr hxcount
    rw [hkeep.source] at hknown hxF
    rw [hkeep.count] at hxcount
    exact hxid ((h.attempt.distinct x hx u hu (hxF ▸ hknown) hxF hxr hnotResolved hxcount).trans
      hkeep.id.symm)
  · intro hflag
    rw [hkeep.source, hkeep.id]
    refine h.retry.flagged u hu ?_
    simpa only [Transaction.retryAuthorized, hkeep.requestedAt, hkeep.consumed] using hflag

/-- A transition to a phase without a candidate of its own. -/
theorem permit_close {sha256 : Bytes → D} {clean tidy : Prop} {w : World D}
    (h : RepairInv sha256 clean tidy w) {u t : Transaction D} (hu : u ∈ w.journal)
    (hopen : u.phase.terminal = false) (hkeep : KeepsRecord u t)
    (hproven : ∀ d, t.candidateIdx = some d → ProvenBy w.log t.id t.sourceFingerprint d) (hpaths : PathsOk t)
    (hphase : t.phase.proven = false ∧ t.phase.unbuilt = false) :
    Permit sha256 clean tidy (.save .transition t) w := by
  have hnot : t.phase.backed = false ∧ t.phase ≠ .candidateBuilt := by
    have := hphase.1
    simp only [Phase.proven, Bool.or_eq_false_iff, decide_eq_false_iff_not] at this
    exact ⟨this.2, this.1⟩
  refine permit_transition h hu hopen hkeep hproven ?_ ?_ hpaths ?_ fun _ hp => absurd hp hnot.2
  · exact fun hp => absurd hp (by simp [hphase.1])
  · exact fun hp => absurd hp (by simp [hnot.1])
  · exact fun _ hp => absurd hp (by simp [hphase.2])

/-- The controller holds `t`, whose journal record is in the same phase. Fields that are not saved yet
may differ. -/
structure Holding (t : Transaction D) (w : World D) : Prop where
  record : ∃ u ∈ w.journal, u.phase = t.phase ∧ KeepsRecord u t
  proven : ∀ d, t.candidateIdx = some d → ProvenBy w.log t.id t.sourceFingerprint d
  paths : PathsOk t

section

variable {sha256 : Bytes → D} {clean tidy : Prop} {w : World D}

theorem holding_of_mem (h : RepairInv sha256 clean tidy w) {t : Transaction D}
    (ht : t ∈ w.journal) : Holding t w :=
  ⟨⟨t, ht, rfl, rfl, rfl, rfl, rfl, rfl, rfl⟩, h.records.proven t ht, h.records.paths t ht⟩

omit [DecidableEq D] in
theorem Steady.holding {t : Transaction D} (ht : t.phase ≠ .manualInterventionRequired) :
    Steady (Holding t) where
  stable := by
    intro w w' hi h
    obtain ⟨u, hu, hphase, hkeep⟩ := h.record
    obtain ⟨requests, hlog, -⟩ := hi.log
    refine ⟨⟨u, (hi.kept u (by rw [hphase]; exact ht)).2 hu, hphase, hkeep⟩, fun d hd => ?_, h.paths⟩
    exact (h.proven d hd).mono fun e he => by rw [hlog]; exact List.mem_append_right _ he
  clock := fun _ _ h => ⟨h.record, h.proven, h.paths⟩

/-- A transition of the held transaction to a phase without a candidate of its own. -/
theorem close_obeys {K : World D → Prop} (hK : Steady K) {t : Transaction D} {phase : Phase}
    (hphase : phase.proven = false ∧ phase.unbuilt = false) (hopen : t.phase.terminal = false)
    (hsave : ∀ w at_, SaveOk sha256 clean .transition { t with phase := phase, updatedAt := at_ } w →
      K w → K (w.saveRecord .transition { t with phase := phase, updatedAt := at_ })) :
    Obeys sha256 clean tidy (fun w => Holding t w ∧ K w) (transition t phase) fun t' w =>
      (t'.id = t.id ∧ t'.phase = phase ∧ t'.attemptCount = t.attemptCount) ∧
        t' ∈ w.journal ∧ K w := by
  have hmanual : t.phase ≠ .manualInterventionRequired := by
    intro hp
    rw [hp] at hopen
    exact absurd hopen (by decide)
  have hpermit : ∀ w at_, RepairInv sha256 clean tidy w → Holding t w ∧ K w →
      Permit sha256 clean tidy (.save .transition { t with phase := phase, updatedAt := at_ }) w := by
    rintro w at_ hw ⟨hold, -⟩
    obtain ⟨u, hu, hup, hkeep⟩ := hold.record
    exact permit_close hw hu (by rw [hup]; exact hopen) ⟨hkeep.1, hkeep.2, hkeep.3, hkeep.4, hkeep.5, hkeep.6⟩
      hold.proven hold.paths hphase
  refine transition_obeys ((Steady.holding hmanual).and hK) hpermit fun w at_ hw hp => ?_
  exact ⟨⟨rfl, rfl, rfl⟩, by simp [World.saveRecord], hsave w at_ (hpermit w at_ hw hp).1 hp.2⟩

/-- `_manual` on the held transaction. -/
theorem manual_obeys {K : World D → Prop} (hK : Steady K) {t : Transaction D} {reason : String}
    (hopen : t.phase.terminal = false)
    (hsave : ∀ w t', t'.id = t.id → t'.phase = .manualInterventionRequired →
      t'.sourceFingerprint = t.sourceFingerprint → SaveOk sha256 clean .transition t' w →
      K w → K (w.saveRecord .transition t')) :
    Obeys sha256 clean tidy (fun w => Holding t w ∧ K w) (manual t reason) fun _ => K := by
  unfold manual
  simp only [Prog.bind_eq, Prog.pure_eq]
  refine Obeys.bind (Obeys.pre (close_obeys hK (t := { t with failureReason := reason }) ⟨rfl, rfl⟩ hopen
    fun w at_ hs => hsave w _ rfl rfl rfl hs) fun w _ h => ?_) fun t' => Obeys.ret fun w _ h => h.2.2
  obtain ⟨⟨u, hu, hup, hkeep⟩, hproven, hpaths⟩ := h.1
  exact ⟨⟨⟨u, hu, hup, hkeep.1, hkeep.2, hkeep.3, hkeep.4, hkeep.5, hkeep.6⟩, hproven, hpaths⟩, h.2⟩

/-- `_manual` before an exception. -/
theorem manual_raise_obeys {α : Type} {K : World D → Prop} {Q : α → World D → Prop}
    {t : Transaction D} {reason : String} {e : RepairExc D} (hopen : t.phase.terminal = false)
    (hK : ∀ w, K w → RepairInv sha256 clean tidy w → Holding t w) :
    Obeys sha256 clean tidy K ((manual t reason).bind fun _ => (Prog.raise e : RepairProg D α)) Q :=
  Obeys.bind (Obeys.pre (manual_obeys (Steady.const True) hopen fun _ _ _ _ _ _ h => h)
    fun w hw h => ⟨hK w h hw, trivial⟩) fun _ => Obeys.raise

end

end StorageNode.IndexRepair
