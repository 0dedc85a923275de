import Mathlib.Data.Option.Basic
import StorageNode.IndexRepair.Controller

/-!
# Tail recovery and the journal

Two defects of tail recovery, each with the condition under which it does not show. A cut takes
deletion records along when they lie behind the incomplete record (`cut_spares_deletions_iff`), and a
removed tail is known to the next repair only when the operation that removed it went on to a proven
candidate (`removed_tails_are_journaled`).
-/

set_option autoImplicit false

namespace StorageNode.IndexRepair

open StorageNode.Program StorageNode.IndexHelper RepairProg

variable {D : Type} [DecidableEq D]

/-! ## What lies behind the boundary -/

omit [DecidableEq D] in
/-- A payload that passes the gate of the controller proves the boundary. -/
theorem tailGate_proven {cfg : Config} {payload : HelperPayload D} {b : Bounds} {v : Violation}
    {candidate source : Bytes} (hbounds : payload.candidateBounds = some b)
    (hinspected : inspectIndexBounds candidate source = .ok b) (hgate : tailGate cfg payload = some v) :
    TailProven candidate source cfg.autoTailRecoveryMaxBytes v.offset b v := by
  simp only [tailGate, hbounds, Option.bind_eq_bind, Option.bind_some] at hgate
  obtain ⟨_, _, hgate⟩ := Option.bind_eq_some_iff.1 hgate
  obtain ⟨violation, hsole, hgate⟩ := Option.bind_eq_some_iff.1 hgate
  obtain ⟨_, hbounded, hv⟩ := Option.bind_eq_some_iff.1 hgate
  obtain rfl := Option.some.inj hv
  refine ⟨hinspected, hsole, ?_, rfl⟩
  by_contra hne
  simp [guard, hne] at hbounded

/-- The helper truncates, and the controller lets it, at an offset behind which nothing but the
incomplete record lies exactly when every deletion and every empty entry of both indexes precedes
some live entry of the candidate. -/
theorem cut_spares_deletions_iff (sha256 : Bytes → D) :
    (∀ (args : TailArgs D) (h h' : HelperState D) (choices : List (HelperChoice D)) (offset : Nat),
      (HelperReq.truncate offset, h') ∈
          (IndexHelper.recoverIncompleteTail sha256 args).issued (helperExec sha256) choices h →
        ∃ candidate live, h'.rebuilt = some candidate ∧ h.liveIndex = some live ∧
          (CutsOnlyViolation h.source candidate live offset ↔
            DeletionsPrecede candidate candidate ∧ DeletionsPrecede candidate live)) ∧
    ∀ (cfg : Config) (payload : HelperPayload D) (b : Bounds) (v : Violation)
      (source candidate live : Bytes), payload.candidateBounds = some b →
        inspectIndexBounds candidate source = .ok b → tailGate cfg payload = some v →
        (∀ e ∈ entries live, e.counted = true → e.endOffset b.version ≤ v.offset) →
          (CutsOnlyViolation source candidate live v.offset ↔
            DeletionsPrecede candidate candidate ∧ DeletionsPrecede candidate live) := by
  constructor
  · intro args h h' choices offset hissued
    -- the helper issues a cut only after it has proven the boundary
    obtain ⟨candidate, live, hcut⟩ := Safe.issued (fun _ => rfl) choices
      (recoverIncompleteTail_safe sha256 h args) _ hissued
    exact ⟨candidate, live, hcut.rebuilt, hcut.liveIndex₀, hcut.cutsOnlyViolation_iff⟩
  · intro cfg payload b v source candidate live hbounds hinspected hgate hlive
    exact (tailGate_proven hbounds hinspected hgate).cutsOnlyViolation_iff hlive

namespace Sample

/-- A data file of twenty-four bytes. Its last sixteen belong to a record that overruns the end. -/
def tornSource : Bytes := 3 :: List.replicate 23 0

/-- The index entry of the overrunning record, at offset eight. -/
def tornEntry : Bytes := [0, 0, 0, 0, 0, 0, 0, 1, 0, 0, 0, 1, 0, 0, 0, 1]

/-- A deletion at offset sixteen. -/
def tombstone : Bytes := [0, 0, 0, 0, 0, 0, 0, 2, 0, 0, 0, 2, 255, 255, 255, 255]

def tornState (live : Bytes) : HelperState Bytes where
  source := tornSource
  liveIndex := some live

def tornArgs : TailArgs Bytes where
  expected := some (fingerprintOf id tornSource 0)
  maximumTailBytes := 16

/-- The environment of a recovery that succeeds: the builder leaves `candidate`, and the attempt to
write to the exposed source is refused. -/
def tornChoices (candidate : Bytes) : List (HelperChoice Bytes) :=
  List.replicate 22 { candidate := some candidate } ++
    { command := { returncode := 1 } } :: List.replicate 60 { candidate := some candidate }

def issuesCut (candidate : Bytes) (x : HelperReq Bytes × HelperState Bytes) : Bool :=
  match x.1 with
  | .truncate offset => offset = 8 && x.2.rebuilt = some candidate
  | _ => false

theorem issues_cut (candidate live : Bytes)
    (h : ((IndexHelper.recoverIncompleteTail id tornArgs).issued (helperExec id)
      (tornChoices candidate) (tornState live)).any (issuesCut candidate) = true) :
    ∃ h', (HelperReq.truncate 8, h') ∈ (IndexHelper.recoverIncompleteTail id tornArgs).issued
      (helperExec id) (tornChoices candidate) (tornState live) ∧ h'.rebuilt = some candidate := by
  obtain ⟨⟨r, h'⟩, hmem, hcut⟩ := List.any_eq_true.1 h
  unfold issuesCut at hcut
  split at hcut
  · next offset heq =>
      simp only [Bool.and_eq_true, decide_eq_true_eq] at hcut
      refine ⟨h', ?_, hcut.2⟩
      rw [← hcut.1, ← heq]
      exact hmem
  · exact absurd hcut (by simp)

end Sample

theorem cut_spares_deletions_small :
    ∃ h', (HelperReq.truncate 8, h') ∈ (IndexHelper.recoverIncompleteTail id Sample.tornArgs).issued
        (helperExec id) (Sample.tornChoices Sample.tornEntry) (Sample.tornState []) ∧
      CutsOnlyViolation Sample.tornSource Sample.tornEntry [] 8 := by
  obtain ⟨h', hissued, hrebuilt⟩ :=
    Sample.issues_cut Sample.tornEntry [] (by decide +kernel)
  refine ⟨h', hissued, ?_⟩
  obtain ⟨candidate, live, hcandidate, hlive, hiff⟩ :=
    (cut_spares_deletions_iff id).1 _ _ _ _ _ hissued
  obtain rfl := Option.some.inj (hrebuilt.symm.trans hcandidate)
  obtain rfl : [] = live := Option.some.inj hlive
  refine hiff.2 ⟨?_, ?_⟩
  · unfold DeletionsPrecede
    decide
  · unfold DeletionsPrecede
    decide

/-- The helper cuts off a deletion at offset sixteen together with the incomplete record at offset
eight. -/
theorem cut_removes_deletion :
    ∃ h', (HelperReq.truncate 8, h') ∈ (IndexHelper.recoverIncompleteTail id Sample.tornArgs).issued
        (helperExec id) (Sample.tornChoices (Sample.tornEntry ++ Sample.tombstone))
        (Sample.tornState Sample.tombstone) ∧
      h'.rebuilt = some (Sample.tornEntry ++ Sample.tombstone) ∧
      ¬ CutsOnlyViolation Sample.tornSource (Sample.tornEntry ++ Sample.tombstone)
        Sample.tombstone 8 := by
  obtain ⟨h', hissued, hrebuilt⟩ := Sample.issues_cut (Sample.tornEntry ++ Sample.tombstone)
    Sample.tombstone (by decide +kernel)
  refine ⟨h', hissued, hrebuilt, ?_⟩
  rintro ⟨version, pre, e, post, -, -, -, -, hothers⟩
  have hdeletion : (⟨2, 16, -1⟩ : Entry) ∈ entries Sample.tombstone := by decide
  rcases hothers _ (List.mem_append_right _ hdeletion) with hzero | hbelow
  · exact absurd hzero (by decide)
  · exact absurd hbelow (by decide)

/-! ## What the next repair knows -/

/-- In a tidy run, whenever a repair starts its preflight, be it the first or the one after a tail
recovery, every removed tail is journaled with its offset, size, digest and backup path; and a
candidate is refused for being identical to the live index only when no removed tail is pending. -/
theorem removed_tails_are_journaled (sha256 : Bytes → D) (files : Int → Path → Option Node)
    (x : Int → Running (RepairReq D) RepairReq.Ans (RepairExc D) (World D))
    (hx : ControllerReachable sha256 False True files x) (volumeId : Int) :
    (∀ k, (x volumeId).thread = some (.call .preflight k) → Recorded sha256 (x volumeId).state) ∧
      ∀ t k, (x volumeId).thread = some (.call (.save .transition t) k) →
        t.candidateIdenticalToLiveIndex = true → interrupted (x volumeId).state.log = false := by
  have hsound := hx.sound volumeId
  -- a tidy controller asks for a preflight or closes a record with every cut on record
  refine ⟨fun k hk => hsound.permitted hk trivial, fun t k hk hrefused => ?_⟩
  exact ((hsound.permitted hk).2.2 trivial rfl).refused hrefused

omit [DecidableEq D] in
/-- A removed tail without any record of one. -/
theorem not_recorded {sha256 : Bytes → D} {w : World D}
    (hremoved : w.log.any (fun e => match e with | .truncated _ _ _ => true | _ => false) = true)
    (hnone : ∀ t ∈ w.journal, t.phase ≠ .tailRecovered) : ¬ Recorded sha256 w := by
  intro hrecorded
  obtain ⟨e, he, htruncated⟩ := List.any_eq_true.1 hremoved
  cases e with
  | truncated id offset tail =>
      obtain ⟨t, ht, -, hphase, -⟩ := hrecorded id offset tail he
      exact hnone t ht hphase
  | _ => exact absurd htruncated (by simp)

namespace Sample

/-- The files of the volume with the torn record. -/
def tornFiles (p : Path) : Option Node :=
  if p = .dat base then some (.file tornSource 0o644)
  else if p = .liveIdx base then some (.file [] 0o644)
  else none

/-- The environment of a repair of this volume whose candidate is rejected and whose tail is
removed. -/
def tornChoice : RepairChoice Bytes where
  helper := .output 0 { sourceFingerprintBefore := some (fingerprintOf id tornSource 0) }

def rejectedTail : RepairChoice Bytes where
  helper := .output 1
    { success := false
      manualInterventionRequired := true
      candidateBounds := (inspectIndexBounds tornEntry tornSource).toOption }

def removedTail : RepairChoice Bytes where
  tailChoices := tornChoices tornEntry

/-- The steps of a repair up to the removal. -/
def untilRemoval : List (RepairChoice Bytes) :=
  List.replicate 17 tornChoice ++ [rejectedTail, tornChoice, removedTail]

/-- A repair that is cut off right after the removal. -/
def tornWorld : World Bytes :=
  repair.after (repairExec id) untilRemoval { files := tornFiles }

end Sample

/-- The second preflight of a repair that has removed a tail. -/
theorem removed_tails_are_journaled_second_preflight :
    ∃ x k, ControllerReachable id False True (fun _ => Sample.tornFiles) x ∧
      (x 1).thread = some (.call .preflight k) ∧ interrupted (x 1).state.log = true ∧
      Recorded id (x 1).state := by
  have hreach : (volumeMachine id False True 1).Reachable { files := Sample.tornFiles } _ :=
    Sample.starts .refl (by simp) (Sample.untilRemoval ++ List.replicate 3 Sample.tornChoice)
  have hnext : (Sample.repair.rest (repairExec id)
      (Sample.untilRemoval ++ List.replicate 3 Sample.tornChoice) { files := Sample.tornFiles }).next =
      some .preflight := by
    decide +kernel
  have hpending : interrupted (Sample.repair.after (repairExec id)
      (Sample.untilRemoval ++ List.replicate 3 Sample.tornChoice)
      { files := Sample.tornFiles }).log = true := by
    decide +kernel
  obtain ⟨k, hk⟩ := Prog.eq_call_of_next hnext
  rw [hk] at hreach
  refine ⟨_, k, Sample.controller_reachable hreach, rfl, hpending, ?_⟩
  exact (removed_tails_are_journaled id (fun _ => Sample.tornFiles) _
    (Sample.controller_reachable hreach) 1).1 k rfl

/-- A controller that is killed after the removal of a tail starts the next repair without a journal
record of it. -/
theorem removed_tail_is_forgotten :
    ∃ x k, ControllerReachable id False False (fun _ => Sample.tornFiles) x ∧
      (x 1).thread = some (.call .preflight k) ∧ ¬ Recorded id (x 1).state := by
  have hcut : (volumeMachine id False False 1).Reachable { files := Sample.tornFiles }
      ⟨Sample.tornWorld, none⟩ := Sample.cut_off .refl (by simp) _
  have hreach := Sample.starts hcut (by simp) [Sample.tornChoice]
  have hnext : (Sample.repair.rest (repairExec id) [Sample.tornChoice] Sample.tornWorld).next =
      some .preflight := by
    decide +kernel
  obtain ⟨k, hk⟩ := Prog.eq_call_of_next hnext
  rw [hk] at hreach
  refine ⟨_, k, Sample.controller_reachable hreach, rfl, ?_⟩
  refine not_recorded (w := Sample.repair.after (repairExec id) [Sample.tornChoice] Sample.tornWorld)
    ?_ ?_
  · decide +kernel
  · decide +kernel

end StorageNode.IndexRepair
