import StorageNode.IndexRepair.Stamps
import StorageNode.Program.Sequential

/-!
# Terminal phases are final

A permitted save of a record in a terminal phase keeps the phase (`SaveOk.final`). Over a run this says
that a record which was ever saved in a terminal phase is still in it (`Concluded`).
-/

set_option autoImplicit false

namespace StorageNode.IndexRepair

open StorageNode.Program StorageNode.IndexHelper RepairProg

variable {D : Type}

/-- Records that the controller saved in a terminal phase are in that phase. -/
def Concluded (w : World D) : Prop :=
  ∀ kind t, kind ≠ .retry → Event.saved kind t ∈ w.log → t.phase.terminal = true →
    ∃ u ∈ w.journal, u.id = t.id ∧ u.phase = t.phase

theorem Concluded.congr {w w' : World D} (h : Concluded w) (hs : SavesNothing w w') : Concluded w' := by
  intro kind t hkind ht hterminal
  rw [hs.journal]
  exact h kind t hkind ((hs.saved kind t).1 ht) hterminal

theorem Concluded.interference {w w' : World D} (h : Concluded w) (hi : Interference w w') :
    Concluded w' := by
  intro kind t hkind ht hterminal
  obtain ⟨requests, hlog, hall⟩ := hi.log
  rw [hlog] at ht
  rcases List.mem_append.1 ht with hnew | hold
  · obtain ⟨u, hu⟩ := hall _ hnew
    exact absurd (Event.saved.inj hu).1 hkind
  · obtain ⟨u, hu, hid, hphase⟩ := h kind t hkind hold hterminal
    obtain ⟨v, hv, hcore⟩ := hi.forth u hu
    obtain ⟨hvid, hvphase, -⟩ := core_eq hcore
    exact ⟨v, hv, hvid.trans hid, hvphase.trans hphase⟩

variable [DecidableEq D] {sha256 : Bytes → D} {clean tidy : Prop}

theorem Concluded.save {w : World D} {kind : SaveKind} {t : Transaction D} (h : Concluded w)
    (hs : SaveOk sha256 clean kind t w) : Concluded (w.saveRecord kind t) := by
  intro k u hk hu hterminal
  rcases List.mem_cons.1 hu with hu | hu
  · obtain ⟨rfl, rfl⟩ := Event.saved.inj hu
    exact ⟨u, mem_saveTransaction.2 (.inr rfl), rfl, rfl⟩
  · obtain ⟨v, hv, hid, hphase⟩ := h k u hk hu hterminal
    by_cases hsame : v.id = t.id
    · -- the save keeps the phase of a record that is in a terminal one
      have hfinal := (hs.final v hv hsame (by rw [hphase]; exact hterminal)).1
      exact ⟨t, mem_saveTransaction.2 (.inr rfl), hsame.symm.trans hid, hfinal.trans hphase⟩
    · exact ⟨v, mem_saveTransaction.2 (.inl ⟨hv, hsame⟩), hid, hphase⟩

theorem concluded_exec (r : RepairReq D) (c : RepairChoice D) (w : World D)
    (hr : Permit sha256 clean tidy r w) (h : Concluded w) : Concluded (repairExec sha256 r c w).2 := by
  rcases repairExec_saves sha256 r c w with hs | ⟨kind, t, rfl, heq⟩
  · exact h.congr hs
  · rw [heq]
    exact h.save hr.1

theorem concluded_of_reachable {volumeId : Int} {files : Path → Option Node}
    {x : Running (RepairReq D) RepairReq.Ans (RepairExc D) (World D)}
    (hx : (volumeMachine sha256 clean tidy volumeId).Reachable { files := files } x) :
    Concluded x.state := by
  have hstart : (volumeMachine sha256 clean tidy volumeId).Sound
      (repairDiscipline sha256 clean tidy) (fun w => tidy → interrupted w.log = false)
      ⟨{ files := files }, none⟩ :=
    ⟨repairInv_initial files, fun _ _ => rfl, fun p hp => absurd hp (by simp)⟩
  refine ((volumeMachine_follows volumeId).keeps (fun r c w _ => concluded_exec r c w)
    (fun w w' hw hstep h => h.interference (operatorStep_keeps hw hstep).2)
    (fun w w' _ hstep h => h.congr (savesNothing_of_write hstep)) hstart hx ?_).2
  exact fun kind t _ ht => absurd ht (by simp)

/-- The record of a transaction is in some phase. -/
def InPhase (id : TxId) (phase : Phase) (w : World D) : Prop :=
  ∃ u ∈ w.journal, u.id = id ∧ u.phase = phase

/-- A record in a terminal phase stays in it. -/
theorem inPhase_of_steps {volumeId : Int} {files : Path → Option Node}
    {x y : Running (RepairReq D) RepairReq.Ans (RepairExc D) (World D)}
    (hx : (volumeMachine sha256 clean tidy volumeId).Reachable { files := files } x)
    (hsteps : Relation.ReflTransGen (volumeMachine sha256 clean tidy volumeId).Step x y) {id : TxId}
    {phase : Phase} (hterminal : phase.terminal = true) (h : InPhase id phase x.state) :
    InPhase id phase y.state := by
  have hsound := (volumeMachine_follows volumeId).reachable (repairInv_initial files)
    (fun _ => rfl) hx
  refine ((volumeMachine_follows volumeId).keeps (F := InPhase id phase) (fun r c w _ hr h => ?_)
    (fun w w' hw hstep h => ?_) (fun w w' _ hstep h => ?_) hsound hsteps h).2
  · obtain ⟨u, hu, hid, hphase⟩ := h
    rcases repairExec_saves sha256 r c w with hs | ⟨kind, s, rfl, heq⟩
    · exact ⟨u, hs.journal ▸ hu, hid, hphase⟩
    · rw [InPhase, show (volumeMachine sha256 clean tidy volumeId).exec = repairExec sha256 from rfl,
        heq]
      by_cases hsame : u.id = s.id
      · -- a save keeps the phase of a record that is in a terminal one
        have hfinal := (hr.1.final u hu hsame (hphase ▸ hterminal)).1
        exact ⟨s, mem_saveTransaction.2 (.inr rfl), hsame.symm.trans hid, hfinal.trans hphase⟩
      · exact ⟨u, mem_saveTransaction.2 (.inl ⟨hu, hsame⟩), hid, hphase⟩
  · obtain ⟨u, hu, hid, hphase⟩ := h
    obtain ⟨v, hv, hcore⟩ := (operatorStep_keeps hw hstep).2.forth u hu
    obtain ⟨hvid, hvphase, -⟩ := core_eq hcore
    exact ⟨v, hv, hvid.trans hid, hvphase.trans hphase⟩
  · rw [InPhase, (savesNothing_of_write hstep).journal]
    exact h

/-- An operation that follows the discipline of the volume keeps concluded records. -/
theorem Obeys.concluded {P : World D → Prop} {α : Type} {p : RepairProg D α}
    {Q : α → World D → Prop} (h : Obeys sha256 clean tidy P p Q) {w w' : World D}
    (hw : RepairInv sha256 clean tidy w) (hP : P w) (hconcluded : Concluded w)
    {cs : List (RepairChoice D)} {e : RepairExc D}
    (hrun : p.run (repairExec sha256) cs w = (.raised e, w')) : Concluded w' := by
  have hframe := Discipline.Triple.frame (K := fun _ => True) (F := Concluded)
    (fun _ _ _ _ hi hs => hs.interference hi) (fun r c s _ _ hr hs => concluded_exec r c s hr hs) h
    (Prog.issues_true p)
  exact (Hoare.of_raised hframe.hoare ⟨hw, hP, hconcluded⟩ hrun).2.2

end StorageNode.IndexRepair
