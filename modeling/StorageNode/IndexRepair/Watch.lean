import StorageNode.IndexRepair.InstallContract
import StorageNode.IndexRepair.Requests
import StorageNode.Program.Sequential

/-!
# Watched repairs

Some checks of a repair end it with an `IndexRepairError` that no record tells of. A flag in the state
records whether such a check has failed; `RepairReq.checks` lists the requests that may raise it.
`Watching` collects what the rules need: other requests leave the flag alone, a read-back that fails
raises it, and nothing is asked of an `OSError`. Under these rules the candidate becomes the live index
(`Watching.replaceLive`), whatever else is known of the journal.
-/

set_option autoImplicit false

namespace StorageNode.IndexRepair

open StorageNode.Program StorageNode.IndexHelper RepairProg

variable {D : Type}

/-- Whether the exception is an `IndexRepairError`. -/
def RepairExc.isRepairError : RepairExc D → Bool
  | .os | .lookup | .recursion => false
  | .repair _ | .journal _ | .manual _ | .unsafeCandidate _ _ => true

/-- A live index cannot be read while a transaction is being installed on it. -/
def readBackFails : RepairReq D → RepairChoice D → World D → Bool
  | .hash (.liveIdx base), c, w => decide (c.fault ≠ .none) &&
      w.journal.any fun t => decide (t.phase = .installingCandidate ∧ t.id.base = base)
  | _, _, _ => false

theorem readBackFails_eq_false {r : RepairReq D} {c : RepairChoice D} {w : World D}
    (h : ∀ t ∈ w.journal, t.phase ≠ .installingCandidate) : readBackFails r c w = false := by
  unfold readBackFails
  split
  · next base =>
      have hnone : (w.journal.any fun t => decide (t.phase = .installingCandidate ∧
          t.id.base = base)) = false := by
        rw [List.any_eq_false]
        intro t ht
        simp [h t ht]
      rw [hnone, Bool.and_false]
  · rfl

/-- Requests that a flag may watch. -/
def RepairReq.checks : RepairReq D → Bool
  | .hash (.liveIdx _) | .hash (.backupIdx _) | .hash (.backupSdx _) | .recoverTail _ _ _ => true
  | _ => false

/-- The record of `t` is the only one in `installing_candidate`. -/
structure OpenInstall (t : Transaction D) (w : World D) : Prop where
  mem : t ∈ w.journal
  phase : t.phase = .installingCandidate
  others : ∀ u ∈ w.journal, u.id ≠ t.id → u.phase ≠ .installingCandidate

/-- A condition that only speaks about the journal. -/
def OnJournal (J : World D → Prop) : Prop :=
  ∀ w w' : World D, w'.journal = w.journal → J w → J w'

/-- The flags and exceptions of a watched repair. -/
structure Watching (bad : RepairReq D → RepairChoice D → World D → Bool)
    (E : RepairExc D → World D × Bool → Prop) : Prop where
  checks : ∀ r c w, r.checks = false → bad r c w = false
  reads : ∀ base c w, bad (.hash (.liveIdx base)) c w = readBackFails (.hash (.liveIdx base)) c w
  lenient : ∀ e s, e.isRepairError = false → E e s

variable [DecidableEq D]

/-- A contract of a watched repair. -/
abbrev Watched (sha256 : Bytes → D) (bad : RepairReq D → RepairChoice D → World D → Bool)
    (E : RepairExc D → World D × Bool → Prop) {α : Type} (P : World D → Prop) (p : RepairProg D α)
    (Q : α → World D → Prop) : Prop :=
  Unflagged (repairExec sha256) bad P p Q E

namespace Watching

variable {sha256 : Bytes → D} {bad : RepairReq D → RepairChoice D → World D → Bool}
  {E : RepairExc D → World D × Bool → Prop} {P : World D → Prop} {α : Type}

theorem ask (h : Watching bad E) {r : RepairReq D} (hr : r.checks = false)
    {Q : r.Ans → World D → Prop}
    (hQ : ∀ c w, P w → Q (repairExec sha256 r c w).1 (repairExec sha256 r c w).2) :
    Watched sha256 bad E P (Prog.ask r) Q :=
  Unflagged.ask (fun c w _ => h.checks r c w hr) hQ

/-- A request that neither saves nor checks. -/
theorem quiet (h : Watching bad E) (hP : OnJournal P) {r : RepairReq D} (hr : r.checks = false)
    (hs : r.saves = none) : Watched sha256 bad E P (Prog.ask r) fun _ => P := by
  refine h.ask hr fun c w hw => hP w _ ?_ hw
  rcases repairExec_journal sha256 r c w with heq | ⟨t, ht, -⟩
  · exact heq
  · exact absurd (hs.symm.trans ht) (by simp)

theorem orRaise (h : Watching bad E) {e : RepairExc D} (he : e.isRepairError = false)
    {o : Option α} : Watched sha256 bad E P (Prog.orRaise e o) fun a w => o = some a ∧ P w :=
  Unflagged.orRaise fun _ _ _ => h.lenient e _ he

/-- A failure of `must` is an `OSError`. -/
theorem must (h : Watching bad E) {p : RepairProg D Bool} {Q : World D → Prop}
    (hp : Watched sha256 bad E P p fun done w => done = true → Q w) :
    Watched sha256 bad E P (RepairProg.must p) fun _ => Q := by
  refine Unflagged.bind hp fun done => Unflagged.raiseIf (fun _ _ _ => h.lenient _ _ rfl) ?_
  exact fun hdone w hw => hw (by simpa using hdone)

theorem save (h : Watching bad E) {kind : SaveKind} {t : Transaction D} {Q : World D → Prop}
    (hQ : ∀ w, P w → Q (w.saveRecord kind t)) :
    Watched sha256 bad E P (RepairProg.must (trySave kind t)) fun _ => Q := by
  refine h.must (h.ask rfl fun c w hw hdone => ?_)
  have heq : (repairExec sha256 (.save kind t) c w).2 = w.saveRecord kind t := attempted_of_true hdone
  rw [heq]
  exact hQ w hw

theorem transition (h : Watching bad E) {t : Transaction D} {phase : Phase}
    {Q : Transaction D → World D → Prop}
    (hQ : ∀ w at_, P w → Q { t with phase := phase, updatedAt := at_ }
      (World.saveRecord { w with clock := at_ } .transition
        { t with phase := phase, updatedAt := at_ })) :
    Watched sha256 bad E P (RepairProg.transition t phase) Q := by
  refine Unflagged.bind (M := fun at_ w => ∃ w', P w' ∧ w = { w' with clock := at_ })
    (h.ask rfl fun c w hw => ⟨w, hw, rfl⟩) fun at_ => ?_
  refine Unflagged.bind (h.save (Q := Q { t with phase := phase, updatedAt := at_ }) ?_) fun _ =>
    Unflagged.ret fun _ hq => hq
  rintro _ ⟨w', hw', rfl⟩
  exact hQ w' at_ hw'

theorem fsyncDirectory (h : Watching bad E) :
    Watched sha256 bad E P RepairProg.fsyncDirectory fun _ => P :=
  h.must (h.ask rfl fun _ _ hw _ => hw)

theorem unlink (h : Watching bad E) {p : Path} {Q : World D → Prop}
    (hQ : ∀ w, P w → Q (w.setFile p none)) :
    Watched sha256 bad E P (RepairProg.must (tryUnlink p)) fun _ => Q := by
  refine h.must (h.ask rfl fun c w hw hdone => ?_)
  have heq : (repairExec sha256 (.unlink p) c w).2 = w.setFile p none := attempted_of_true hdone
  rw [heq]
  exact hQ w hw

/-- A file that is found to be the same has the digest. -/
theorem sameArtifact {p : Path}
    (hr : ∀ c w, P w → bad (.hash p : RepairReq D) c w = false) (digest : Digest D) :
    Watched sha256 bad E P (RepairProg.sameArtifact p (some digest)) fun same w =>
      (same = true → fileDigest sha256 w p = some digest) ∧ P w := by
  refine Unflagged.bind (M := fun answer w => (∀ a, answer = some a →
    fileDigest sha256 w p = some a.toDigest) ∧ P w)
    (Unflagged.ask hr fun c w hw => ⟨fun a ha => ?_, hw⟩) fun answer => ?_
  · exact (repairExec_hash p).1 a ha
  cases answer with
  | none => exact Unflagged.ret fun w hw => ⟨fun h => absurd h (by simp), hw.2⟩
  | some a =>
      refine Unflagged.ret fun w hw => ⟨fun h => ?_, hw.2⟩
      rw [hw.1 a rfl, of_decide_eq_true h]

/-! ## Installation -/

/-- A usable temporary file holds the candidate, or there is none. -/
theorem usableTemporary (h : Watching bad E) (id : TxId) (digest : Digest D) :
    Watched sha256 bad E P (RepairProg.usableTemporary (.installing id) (some digest) true)
      fun usable w => (usable = true → fileDigest sha256 w (.installing id) = some digest ∨
        Node.isFile (w.files (.installing id)) = false) ∧ P w := by
  refine Unflagged.bind (M := fun found w => found = w.files (.installing id) ∧ P w)
    (h.ask rfl fun _ _ hw => ⟨rfl, hw⟩) fun found => ?_
  by_cases hfile : Node.isFile found = true
  · rw [if_pos hfile]
    refine Unflagged.pre (Unflagged.post (sameArtifact (fun c w _ => h.checks _ c w rfl) digest)
      fun usable w hw => ?_) fun w hw => hw.2
    exact ⟨fun husable => .inl (hw.1 husable), hw.2⟩
  · rw [if_neg hfile]
    refine Unflagged.ret fun w hw => ⟨fun _ => .inr ?_, hw.2⟩
    rw [← hw.1]
    simpa using hfile

/-- The temporary file ends up with the candidate, wherever the candidate was. -/
theorem stageTemporary (h : Watching bad E) {t : Transaction D} {candidate : Path}
    {digest : Digest D} (hP : ∀ w node, P w → P (w.setFile (.installing t.id) node)) :
    Watched sha256 bad E (fun w => fileDigest sha256 w candidate = some digest ∧ P w)
      (RepairProg.stageTemporary t candidate digest)
      fun _ w => fileDigest sha256 w (.installing t.id) = some digest ∧ P w := by
  refine Unflagged.bind (h.usableTemporary t.id digest) fun usable => ?_
  -- a file that is not usable is gone, and with it a candidate that stood there
  refine Unflagged.bind (M := fun _ w => (fileDigest sha256 w (.installing t.id) = some digest ∨
      Node.isFile (w.files (.installing t.id)) = false) ∧
    (fileDigest sha256 w candidate = some digest ∨ w.files candidate = none) ∧ P w) ?_ fun _ => ?_
  · cases usable with
    | true => exact Unflagged.ret fun w hw => ⟨hw.1 rfl, .inl hw.2.1, hw.2.2⟩
    | false =>
        refine h.unlink fun w hw => ⟨.inr ?_, ?_, hP w none hw.2.2⟩
        · simp [World.setFile, Node.isFile]
        · by_cases hsame : candidate = .installing t.id
          · exact .inr (by simp [hsame, World.setFile])
          · rw [fileDigest_setFile hsame]
            exact .inl hw.2.1
  · refine Unflagged.bind (M := fun found w => found = w.files (.installing t.id) ∧
      (fileDigest sha256 w (.installing t.id) = some digest ∨
        Node.isFile (w.files (.installing t.id)) = false) ∧
      (fileDigest sha256 w candidate = some digest ∨ w.files candidate = none) ∧ P w)
      (h.ask rfl fun _ _ hw => ⟨rfl, hw⟩) fun found => ?_
    dsimp only
    cases hpresent : Node.isFile found with
    | true =>
        refine Unflagged.ret fun w hw => ⟨hw.2.1.resolve_right ?_, hw.2.2.2⟩
        rw [← hw.1, hpresent]
        simp
    | false =>
        refine Unflagged.bind (h.orRaise rfl) fun old => Unflagged.assume fun _ => ?_
        refine h.must (h.ask rfl fun c w hw hdone => ?_)
        rcases hw.2.2.1 with hcandidate | hnone
        · obtain ⟨node, heq, hdigest⟩ := copied_of_true hcandidate hdone
          simp only [repairExec, heq]
          exact ⟨hdigest, hP w _ hw.2.2.2⟩
        · simp [repairExec, copied, hnone] at hdone

/-- The candidate becomes the live index. -/
theorem replaceLive (h : Watching bad E) (hP : OnJournal P) {t : Transaction D} {digest : Digest D} :
    Watched sha256 bad E (fun w => fileDigest sha256 w (.installing t.id) = some digest ∧ P w)
      (RepairProg.must (tryReplace (.installing t.id) t.liveIdx))
      fun _ w => fileDigest sha256 w t.liveIdx = some digest ∧ P w := by
  refine h.must (h.ask rfl fun c w hw hdone => ?_)
  cases hsource : w.files (.installing t.id) with
  | none => simp [repairExec, hsource] at hdone
  | some node =>
      simp only [repairExec, hsource] at hdone ⊢
      rw [attempted_of_true hdone]
      refine ⟨?_, hP w _ rfl hw.2⟩
      have hdigest := hw.1
      simp only [fileDigest, World.contents, hsource] at hdigest
      simpa [fileDigest, World.contents, World.setFile, Transaction.liveIdx] using hdigest

theorem removeStaleSdx (h : Watching bad E) (hP : OnJournal P) {t : Transaction D}
    {digest : Digest D} :
    Watched sha256 bad E (fun w => fileDigest sha256 w t.liveIdx = some digest ∧ P w)
      (RepairProg.removeStaleSdx t) fun _ w => (fileDigest sha256 w t.liveIdx = some digest ∧
        w.files t.liveSdx = none) ∧ P w := by
  refine Unflagged.bind (h.unlink fun w hw => ⟨⟨?_, ?_⟩, hP w _ rfl hw.2⟩) fun _ => h.fsyncDirectory
  · rw [fileDigest_setFile (by simp [Transaction.liveIdx, Transaction.liveSdx])]
    exact hw.1
  · simp [World.setFile]

/-- The read-back finds the candidate, unless it fails, and then the flag is raised. -/
theorem readBack (h : Watching bad E) {t : Transaction D} {digest : Digest D} {F : World D → Prop}
    (hopen : ∀ w, F w → t ∈ w.journal ∧ t.phase = .installingCandidate)
    {G : World D → Prop} :
    Hoare (flagged (repairExec sha256) bad)
      (fun s => s.2 = false ∧ (fileDigest sha256 s.1 t.liveIdx = some digest ∧ G s.1) ∧ F s.1)
      (RepairProg.sameArtifact t.liveIdx (some digest))
      (fun installed s => (s.2 = !installed) ∧ (fileDigest sha256 s.1 t.liveIdx = some digest ∧
        G s.1) ∧ F s.1) E := by
  refine Discipline.Triple.bind (M := fun answer s =>
    ((∃ a, answer = some a ∧ a.toDigest = digest ∧ s.2 = false) ∨ answer = none ∧ s.2 = true) ∧
    (fileDigest sha256 s.1 t.liveIdx = some digest ∧ G s.1) ∧ F s.1) ?_ fun answer => ?_
  · refine Hoare.ask fun c s hs => ⟨?_, hs.2⟩
    obtain ⟨hmem, hphase⟩ := hopen s.1 hs.2.2
    -- a transaction of this volume is open, so a failing read-back sets the flag
    have hany : (s.1.journal.any fun u => decide (u.phase = .installingCandidate ∧
        u.id.base = t.id.base)) = true :=
      List.any_eq_true.2 ⟨t, hmem, by simp [hphase]⟩
    have hbad : bad (.hash t.liveIdx) c s.1 = decide (c.fault ≠ .none) := by
      rw [Transaction.liveIdx, h.reads, readBackFails, hany, Bool.and_true]
    -- the read answers with the digest that is on disk, unless it fails and sets the flag
    by_cases hfault : c.fault = .none
    · obtain ⟨a, ha, hdigest⟩ := (repairExec_hash t.liveIdx).2 hfault digest hs.2.1.1
      refine .inl ⟨a, ha, hdigest, ?_⟩
      simp only [flagged, hs.1, hbad]
      simp [hfault]
    · refine .inr ⟨?_, ?_⟩
      · simp only [flagged, repairExec]
        exact if_neg hfault
      · simp only [flagged, hs.1, hbad]
        simp [hfault]
  · cases answer with
    | none =>
        refine Discipline.Triple.ret fun s _ hs => ⟨?_, hs.2⟩
        rcases hs.1 with ⟨a, ha, -⟩ | ⟨-, hflag⟩
        · exact absurd ha (by simp)
        · exact hflag
    | some a =>
        refine Discipline.Triple.ret fun s _ hs => ⟨?_, hs.2⟩
        rcases hs.1 with ⟨b, hb, hdigest, hflag⟩ | ⟨hnone, -⟩
        · obtain rfl := Option.some.inj hb
          simp [hdigest, hflag]
        · exact absurd hnone (by simp)

end Watching

end StorageNode.IndexRepair
