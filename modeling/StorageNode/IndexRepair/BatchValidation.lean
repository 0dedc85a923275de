import StorageNode.IndexRepair.Alone

/-!
# Validation and rollback of a batch

`validate_upstream` followed by `rollback_rejected`, on any number of awaiting transactions. The world
here is that of the whole controller: a journal and files of many volumes. The first pass marks the
transactions that the status shows as writable, and the second reads the journal again and restores
the old files of the others.

`validation_and_rollback_exact` is the result of both passes, with the frame for all other files.
-/

set_option autoImplicit false

namespace StorageNode.IndexRepair

open StorageNode.Program StorageNode.IndexHelper RepairProg

variable {D : Type}

/-! ## The operations with their results -/

/-- The fields of a volume in the upstream status that validation reads. -/
structure UpstreamVolume where
  id : Int
  readonly : Bool
  deriving DecidableEq

/-- `details.get(volume_id)`: in a dictionary built from a list, the last entry of an id counts. -/
def readonlyOf (details : List UpstreamVolume) (volumeId : Int) : Option Bool :=
  (details.reverse.find? fun v => v.id = volumeId).map UpstreamVolume.readonly

/-- The volume of a transaction. -/
def Transaction.volumeId (t : Transaction D) : Int := t.id.base.volumeId

/-- The transactions that `awaiting` returns. -/
def World.awaiting (w : World D) : List (Transaction D) :=
  w.journal.filter fun t => t.phase.pendingValidation

namespace RepairProg

/-- The loop of `validate_upstream`, with its two lists. -/
def validateEach (readonly : Int → Option Bool) :
    List (Transaction D) → List Int → List Int → RepairProg D (List Int × List Int)
  | [], verified, rejected => pure (verified, rejected)
  | t :: ts, verified, rejected =>
    match readonly t.volumeId with
    | some false => do
      let _ ← transition t .verified
      validateEach readonly ts (verified ++ [t.volumeId]) rejected
    | _ => validateEach readonly ts verified (rejected ++ [t.volumeId])

/-- `validate_upstream`, with the volume ids it returns. -/
def validateUpstreamResult (details : List UpstreamVolume) : RepairProg D (List Int × List Int) := do
  let ts ← awaiting
  validateEach (readonlyOf details) ts [] []

/-- Validation followed by the rollback of what was rejected. -/
def validateAndRollBack [DecidableEq D] (details : List UpstreamVolume) (reason : String) :
    RepairProg D (List Int × List Int) := do
  let (verified, rejected) ← validateUpstreamResult details
  rollbackRejected rejected reason
  pure (verified, rejected)

theorem validateEach_forget (readonly : Int → Option Bool) :
    ∀ (ts : List (Transaction D)) (verified rejected : List Int),
      (validateEach readonly ts verified rejected).bind (fun _ => Prog.ret ()) =
        Prog.forEach ts (validateOne readonly) := by
  intro ts
  induction ts with
  | nil => exact fun _ _ => rfl
  | cons t ts ih =>
      intro verified rejected
      simp only [validateEach, Prog.forEach, validateOne, Transaction.volumeId]
      rcases readonly t.id.base.volumeId with _ | _ | _
      · exact ih _ _
      · simp only [Prog.bind_eq, Prog.pure_eq, Prog.bind_assoc, Prog.ret_bind]
        exact congrArg _ (funext fun _ => ih _ _)
      · exact ih _ _

/-- Without its result, this is the operation that `volumeMachine` runs. -/
theorem validateUpstreamResult_forget (details : List UpstreamVolume) :
    (validateUpstreamResult details : RepairProg D _).bind (fun _ => Prog.ret ()) =
      validateUpstream (readonlyOf details) := by
  simp only [validateUpstreamResult, validateUpstream, Prog.bind_eq, Prog.bind_assoc]
  exact congrArg _ (funext fun ts => validateEach_forget _ ts [] [])

end RepairProg

/-- With distinct ids, the dictionary lists exactly the entries of the status. -/
theorem readonlyOf_eq_some {details : List UpstreamVolume} (h : (details.map UpstreamVolume.id).Nodup)
    {volumeId : Int} {readonly : Bool} :
    readonlyOf details volumeId = some readonly ↔
      ∃ v ∈ details, v.id = volumeId ∧ v.readonly = readonly := by
  rw [readonlyOf, Option.map_eq_some_iff]
  constructor
  · rintro ⟨v, hv, rfl⟩
    exact ⟨v, List.mem_reverse.1 (List.mem_of_find?_eq_some hv),
      by simpa using List.find?_some hv, rfl⟩
  · rintro ⟨v, hv, rfl, rfl⟩
    cases hfind : details.reverse.find? fun u => u.id = v.id with
    | none =>
        exact absurd (decide_eq_true rfl) (List.find?_eq_none.1 hfind v (List.mem_reverse.2 hv))
    | some u =>
        have hu : u ∈ details := List.mem_reverse.1 (List.mem_of_find?_eq_some hfind)
        have hid : u.id = v.id := by simpa using List.find?_some hfind
        rw [List.inj_on_of_nodup_map h hu hv hid]
        exact ⟨v, rfl, rfl⟩

/-! ## States -/

/-- The old files of `t`, as the journal describes them, are in its backups. -/
structure BackupsIntact (sha256 : Bytes → D) (w : World D) (t : Transaction D) : Prop where
  idx : t.backupIdxPath = some (.backupIdx t.id)
  sdx : ∀ old, t.oldSdx = some old → t.backupSdxPath = some (.backupSdx t.id)
  backed : Backed sha256 w t

/-- A file has the contents of a backup and the mode of the journal. -/
def RestoredFrom (w w' : World D) (backup live : Path) (old : Artifact D) : Prop :=
  ∃ contents, w.contents backup = some contents ∧ w'.files live = some (.file contents old.mode)

/-- The old index and the old sorted index of `t` are back; where there was no sorted index, there is
none. -/
structure OldFilesBack (w w' : World D) (t : Transaction D) : Prop where
  idx : ∃ old, t.oldIdx = some old ∧ RestoredFrom w w' (.backupIdx t.id) t.liveIdx old
  sdx : ∀ old, t.oldSdx = some old → RestoredFrom w w' (.backupSdx t.id) t.liveSdx old
  none : t.oldSdx = none → w'.files t.liveSdx = none

/-- Awaiting transactions on distinct volumes with intact backups. -/
structure AwaitingBatch (sha256 : Bytes → D) (w : World D) : Prop where
  nodup : (w.journal.map Transaction.id).Nodup
  distinct : (w.awaiting.map Transaction.volumeId).Nodup
  backups : ∀ t ∈ w.awaiting, BackupsIntact sha256 w t

/-- The installed candidate is the one that the journal describes. -/
def CandidateLive (sha256 : Bytes → D) (w : World D) (t : Transaction D) : Prop :=
  fileDigest sha256 w t.liveIdx = t.candidateIdx

/-- What validation and rollback of a batch achieve. -/
structure BatchOutcome (sha256 : Bytes → D) (details : List UpstreamVolume) (w w' : World D)
    (verified rejected : List Int) : Prop where
  partition : (verified ++ rejected).Perm (w.awaiting.map Transaction.volumeId)
  disjoint : List.Disjoint verified rejected
  verified_iff : ∀ t ∈ w.awaiting, t.volumeId ∈ verified ↔
    ∃ v ∈ details, v.id = t.volumeId ∧ v.readonly = false
  nodup : (w'.journal.map Transaction.id).Nodup
  kept : ∀ t ∈ w.awaiting, t.volumeId ∈ verified →
    (∃ u ∈ w'.journal, u.id = t.id ∧ u.phase = .verified ∧ u.candidateIdx = t.candidateIdx) ∧
    (CandidateLive sha256 w t → CandidateLive sha256 w' t)
  restored : ∀ t ∈ w.awaiting, t.volumeId ∈ rejected →
    (∃ u ∈ w'.journal, u.id = t.id ∧ u.phase = .manualInterventionRequired ∧ u.rolledBack = true) ∧
    OldFilesBack w w' t
  frame : ∀ p, (∀ t ∈ w.awaiting, t.volumeId ∈ rejected → p ≠ t.liveIdx ∧ p ≠ t.liveSdx) →
    w'.files p = w.files p
  others : ∀ t ∈ w.journal, t.phase.pendingValidation = false → t ∈ w'.journal

/-- The old files of a volume stay back while its backups and live files do not change. -/
theorem OldFilesBack.congr {v v' s s' : World D} {t : Transaction D} (h : OldFilesBack v s t)
    (hidx : v'.contents (.backupIdx t.id) = v.contents (.backupIdx t.id))
    (hsdx : v'.contents (.backupSdx t.id) = v.contents (.backupSdx t.id))
    (hlive : s'.files t.liveIdx = s.files t.liveIdx)
    (hsorted : s'.files t.liveSdx = s.files t.liveSdx) : OldFilesBack v' s' t := by
  obtain ⟨old, hold, contents, hcontents, hfile⟩ := h.idx
  refine ⟨⟨old, hold, contents, hidx.trans hcontents, hlive.trans hfile⟩, fun sorted hsome => ?_, ?_⟩
  · obtain ⟨found, hfound, hnode⟩ := h.sdx sorted hsome
    exact ⟨found, hsdx.trans hfound, hsorted.trans hnode⟩
  · exact fun hnone => hsorted.trans (h.none hnone)

variable [DecidableEq D]

/-! ## Validation -/

/-- The first pass after the transactions `done`: those that the status shows as writable are marked,
and everything else is as it was. -/
structure Validated (readonly : Int → Option Bool) (w : World D) (done : List (Transaction D))
    (s : World D) : Prop where
  files : s.files = w.files
  nextSerial : s.nextSerial = w.nextSerial
  nodup : (s.journal.map Transaction.id).Nodup
  marked : ∀ t ∈ done, readonly t.volumeId = some false →
    ∃ u ∈ s.journal, u.id = t.id ∧ u.phase = .verified ∧ u.candidateIdx = t.candidateIdx
  kept : ∀ u ∈ w.journal, (∀ t ∈ done, readonly t.volumeId = some false → u.id ≠ t.id) →
    u ∈ s.journal
  back : ∀ u ∈ s.journal, u ∈ w.journal ∨ u.phase = .verified

section

variable {sha256 : Bytes → D} {reliable : Bool} {readonly : Int → Option Bool} {w s : World D}
  {done : List (Transaction D)} {t : Transaction D}

omit [DecidableEq D] in
/-- A transaction that is not writable is left alone. -/
theorem Validated.skip (h : Validated readonly w done s) (ht : readonly t.volumeId ≠ some false) :
    Validated readonly w (done ++ [t]) s where
  files := h.files
  nextSerial := h.nextSerial
  nodup := h.nodup
  marked x hx hok := by
    rcases List.mem_append.1 hx with hx | hx
    · exact h.marked x hx hok
    · obtain rfl := List.mem_singleton.1 hx
      exact absurd hok ht
  kept u hu hne := h.kept u hu fun x hx => hne x (List.mem_append_left _ hx)
  back := h.back

omit [DecidableEq D] in
/-- A writable transaction is marked as verified. -/
theorem Validated.mark (h : Validated readonly w done s) (ht : t.id ∉ done.map Transaction.id)
    (hok : readonly t.volumeId = some false) (at_ : Nat) :
    Validated readonly w (done ++ [t]) (World.saveRecord { s with clock := at_ } .transition
      { t with phase := .verified, updatedAt := at_ }) where
  files := h.files
  nextSerial := h.nextSerial
  nodup := nodup_saveTransaction h.nodup
  marked x hx hx' := by
    rcases List.mem_append.1 hx with hx | hx
    · obtain ⟨u, hu, hid, hphase, hcandidate⟩ := h.marked x hx hx'
      have hne : u.id ≠ t.id := fun heq => ht (heq ▸ hid ▸ List.mem_map_of_mem hx)
      exact ⟨u, mem_saveTransaction.2 (.inl ⟨hu, hne⟩), hid, hphase, hcandidate⟩
    · obtain rfl := List.mem_singleton.1 hx
      exact ⟨_, mem_saveTransaction.2 (.inr rfl), rfl, rfl, rfl⟩
  kept u hu hne := by
    refine mem_saveTransaction.2 (.inl ⟨h.kept u hu fun x hx => hne x (List.mem_append_left _ hx), ?_⟩)
    exact hne t (List.mem_append_right _ List.mem_cons_self) hok
  back u hu := by
    rcases mem_saveTransaction.1 hu with ⟨hu, -⟩ | rfl
    · exact h.back u hu
    · exact .inr rfl

/-- The loop of the first pass, by induction on the transactions that are left. -/
theorem validateEach_exact : ∀ (ts done : List (Transaction D)) (verified rejected : List Int),
    ((done ++ ts).map Transaction.id).Nodup →
    Exact sha256 reliable (Validated readonly w done) (validateEach readonly ts verified rejected)
      fun result s => Validated readonly w (done ++ ts) s ∧
        result.1 = verified ++
          (ts.filter fun t => readonly t.volumeId = some false).map Transaction.volumeId ∧
        result.2 = rejected ++
          (ts.filter fun t => ¬ readonly t.volumeId = some false).map Transaction.volumeId := by
  intro ts
  induction ts with
  | nil =>
      intro done verified rejected _
      exact Discipline.Triple.ret fun s _ h => by simpa using h
  | cons t ts ih =>
      intro done verified rejected hnodup
      -- the transaction moves from the list that is left to the one that is done
      have hsplit : done ++ t :: ts = (done ++ [t]) ++ ts := by simp
      have hrest := ih (done ++ [t])
      rw [← hsplit] at hrest
      by_cases hok : readonly t.volumeId = some false
      · have hfresh : t.id ∉ done.map Transaction.id := by
          rw [List.map_append, List.nodup_append] at hnodup
          exact fun hmem => hnodup.2.2 _ hmem _ (by simp) rfl
        simp only [validateEach, hok, Prog.bind_eq]
        refine Discipline.Triple.bind (M := fun _ => Validated readonly w (done ++ [t]))
          (transition_exact fun s hs at_ => hs.mark hfresh hok at_) fun _ => ?_
        refine Discipline.Triple.post (hrest _ _ hnodup) fun result s _ h => ⟨h.1, ?_, ?_⟩
        · rw [h.2.1]
          simp [hok]
        · rw [h.2.2]
          simp [hok]
      -- a volume that is not writable only joins the rejected ones
      · have hbody : validateEach readonly (t :: ts) verified rejected =
            validateEach readonly ts verified (rejected ++ [t.volumeId]) := by
          rw [validateEach]
          split
          · next hfalse => exact absurd hfalse hok
          · rfl
        rw [hbody]
        refine Discipline.Triple.mono (hrest _ _ hnodup) (fun s _ h => h.skip hok)
          (fun result s _ h => ⟨h.1, ?_, ?_⟩) fun _ _ _ h => h
        · rw [h.2.1]
          simp [hok]
        · rw [h.2.2]
          simp [hok]

end

/-! ## Rollback -/

/-- One file is replaced and one temporary name is used up. -/
def World.withFile (w : World D) (p : Path) (node : Option Node) : World D :=
  { w.setFile p node with nextSerial := w.nextSerial + 1 }

/-- Names of temporary files are new. -/
def World.ScratchFree (w : World D) : Prop :=
  ∀ name : TxId, w.nextSerial ≤ name.serial → w.files (.scratch name) = none

/-- The rollback of `t` from the world `w`. -/
structure RolledBack (w : World D) (t : Transaction D) (s : World D) : Prop where
  files : ∀ p, p ≠ t.liveIdx → p ≠ t.liveSdx → s.files p = w.files p
  old : OldFilesBack w s t
  serial : w.nextSerial ≤ s.nextSerial
  record : ∃ u ∈ s.journal, u.id = t.id ∧ u.phase = .manualInterventionRequired ∧ u.rolledBack = true
  nodup : (w.journal.map Transaction.id).Nodup → (s.journal.map Transaction.id).Nodup
  others : ∀ u, u.id ≠ t.id → u ∈ w.journal → u ∈ s.journal

section

variable {sha256 : Bytes → D} {reliable : Bool} {w s : World D} {t : Transaction D}

/-- A verified backup replaces a live file, and leaves no temporary file. -/
theorem restoreOne_exact {backup destination : Path} {old : Artifact D} {contents : Bytes}
    (hcontents : w.contents backup = some contents) (hdigest : digestOf sha256 contents = old.toDigest)
    (hdestination : ∀ name, destination ≠ .scratch name)
    (hfree : reliable = true → w.ScratchFree) :
    Exact sha256 reliable (fun s => s = w) (restoreOne backup destination old) fun _ s =>
      s = w.withFile destination (some (.file contents old.mode)) := by
  have hsame : ∀ s, s = w → fileDigest sha256 s backup = some old.toDigest := by
    rintro s rfl
    rw [fileDigest, hcontents, Option.map_some, hdigest]
  -- the backup has its recorded digest, so the check passes
  refine Discipline.Triple.bind (sameArtifact_exact hsame) fun same => ?_
  refine Discipline.Triple.bind (M := fun _ s => s = w) ?_ fun _ => ?_
  · exact Discipline.Triple.raiseIf (fun hfalse s _ h => h.2 (by simpa using hfalse))
      fun _ s _ h => h.1
  refine Discipline.Triple.bind (M := fun name s => name = ⟨destination.base, w.nextSerial⟩ ∧
    s = { w with nextSerial := w.nextSerial + 1 }) ?_ fun name => ?_
  · refine Hoare.ask ?_
    rintro c _ rfl
    exact ⟨rfl, rfl⟩
  refine Discipline.Triple.assume ?_
  rintro rfl
  refine Discipline.Triple.bind (M := fun _ s => w.files (.scratch ⟨destination.base, w.nextSerial⟩) = none ∧
    s = w.withFile (.scratch ⟨destination.base, w.nextSerial⟩) (some (.file contents old.mode))) (copy_exact ?_) fun _ => ?_
  · rintro _ rfl
    exact ⟨fun hr => hfree hr _ (Nat.le_refl _), contents, hcontents, fun hnone => ⟨hnone, rfl⟩⟩
  · refine replace_exact ?_
    rintro _ ⟨hnone, rfl⟩
    refine ⟨.file contents old.mode, by simp [World.withFile, World.setFile], ?_⟩
    simp only [World.withFile, World.setFile, World.mk.injEq, and_true, true_and]
    -- the scratch name is free again after the rename
    funext q
    by_cases hq : q = .scratch ⟨destination.base, w.nextSerial⟩
    · simp [hq, hnone, (hdestination _).symm]
    · simp [hq]

omit [DecidableEq D] in
theorem World.ScratchFree.withFile (h : w.ScratchFree) {p : Path} (hp : ∀ name, p ≠ .scratch name)
    (node : Option Node) : (w.withFile p node).ScratchFree := by
  intro serial hserial
  rw [← h serial (Nat.le_of_succ_le hserial)]
  simp [World.withFile, World.setFile, (hp serial).symm]

/-- The sorted-index half of a rollback. -/
theorem restoreSdx_exact (hw : BackupsIntact sha256 w t) (hfree : reliable = true → w.ScratchFree) :
    Exact sha256 reliable (fun s => s = w) (restoreSdx t) fun _ s =>
      (∃ node, s.files = (w.setFile t.liveSdx node).files) ∧ s.journal = w.journal ∧
      w.nextSerial ≤ s.nextSerial ∧
      (∀ old, t.oldSdx = some old → RestoredFrom w s (.backupSdx t.id) t.liveSdx old) ∧
      (t.oldSdx = none → s.files t.liveSdx = none) := by
  unfold restoreSdx
  cases hold : t.oldSdx with
  | none =>
      refine unlink_exact ?_
      rintro _ rfl
      exact ⟨⟨none, rfl⟩, rfl, Nat.le_refl _, by simp, fun _ => by simp [World.setFile]⟩
  | some old =>
      obtain ⟨-, -, -, hsorted⟩ := hw.backed
      obtain ⟨contents, hcontents, hdigest⟩ := Option.map_eq_some_iff.1 (hsorted old hold)
      refine orRaise_exact (hw.sdx old hold) ?_
      refine Discipline.Triple.post (restoreOne_exact hcontents hdigest (by simp [Transaction.liveSdx])
        hfree) ?_
      rintro _ _ - rfl
      refine ⟨⟨_, rfl⟩, rfl, Nat.le_succ _, ?_, by simp⟩
      rintro _ ⟨rfl⟩
      exact ⟨contents, hcontents, by simp [World.withFile, World.setFile]⟩

omit [DecidableEq D] in
theorem contents_withFile {p q : Path} (h : q ≠ p) (node : Option Node) :
    (w.withFile p node).contents q = w.contents q := by
  simp [World.contents, World.withFile, World.setFile, h]

omit [DecidableEq D] in
/-- Restoring the live index leaves the backups as they are. -/
theorem BackupsIntact.withLive (hw : BackupsIntact sha256 w t) (node : Option Node) :
    BackupsIntact sha256 (w.withFile t.liveIdx node) t := by
  have hne : ∀ p : Path, p = .backupIdx t.id ∨ p = .backupSdx t.id → p ≠ t.liveIdx := by
    rintro p (rfl | rfl) <;> simp [Transaction.liveIdx]
  obtain ⟨old, hold, hidx, hsdx⟩ := hw.backed
  refine ⟨hw.idx, hw.sdx, old, hold, ?_, fun sorted hsorted => ?_⟩
  · rw [fileDigest, contents_withFile (hne _ (.inl rfl))]
    exact hidx
  · rw [fileDigest, contents_withFile (hne _ (.inr rfl))]
    exact hsdx sorted hsorted

/-- The two transitions that end a rollback. -/
theorem recordRollback_exact (reason : String) :
    Exact sha256 reliable (fun s => s = w)
      ((transition { t with rolledBack := true, failureReason := reason } .rolledBack).bind fun t =>
        manual t reason)
      fun _ s => s.files = w.files ∧ w.nextSerial ≤ s.nextSerial ∧
        (∃ u ∈ s.journal, u.id = t.id ∧ u.phase = .manualInterventionRequired ∧ u.rolledBack = true) ∧
        ((w.journal.map Transaction.id).Nodup → (s.journal.map Transaction.id).Nodup) ∧
        ∀ u, u.id ≠ t.id → u ∈ w.journal → u ∈ s.journal := by
  refine Discipline.Triple.bind (M := fun t' s => ∃ at_, t' = { t with
      rolledBack := true, failureReason := reason, phase := .rolledBack, updatedAt := at_ } ∧
    s = World.saveRecord { w with clock := at_ } .transition t') (transition_exact ?_) fun t' => ?_
  · rintro _ rfl at_
    exact ⟨at_, rfl, rfl⟩
  · refine Discipline.Triple.bind (transition_exact
      (Q := fun _ s => s.files = w.files ∧ w.nextSerial ≤ s.nextSerial ∧ _) ?_) fun _ =>
        Discipline.Triple.ret fun _ _ h => h
    rintro _ ⟨at_, rfl, rfl⟩ at_'
    refine ⟨rfl, Nat.le_refl _, ⟨_, mem_saveTransaction.2 (.inr rfl), rfl, rfl, rfl⟩, ?_, ?_⟩
    · exact fun hnodup => nodup_saveTransaction (nodup_saveTransaction hnodup)
    · exact fun u hne hu => mem_saveTransaction.2
        (.inl ⟨mem_saveTransaction.2 (.inl ⟨hu, hne⟩), hne⟩)

/-- The part of `_rollback` that writes files. -/
def restoreFiles (t : Transaction D) : RepairProg D Unit := do
  let backupIdx ← Prog.orRaise .lookup t.backupIdxPath
  let oldIdx ← Prog.orRaise .lookup t.oldIdx
  restoreOne backupIdx t.liveIdx oldIdx
  restoreSdx t
  fsyncDirectory

theorem rollback_eq (reason : String) (t : Transaction D) :
    rollback reason t = (restoreFiles t).bind fun _ =>
      (transition { t with rolledBack := true, failureReason := reason } .rolledBack).bind fun t =>
        manual t reason := by
  simp only [rollback, restoreFiles, Prog.bind_eq, Prog.bind_assoc]

/-- The files of `t` are restored and the journal is not written yet. -/
structure FilesRestored (w : World D) (t : Transaction D) (s : World D) : Prop where
  files : ∀ p, p ≠ t.liveIdx → p ≠ t.liveSdx → s.files p = w.files p
  old : OldFilesBack w s t
  serial : w.nextSerial ≤ s.nextSerial
  journal : s.journal = w.journal

theorem restoreFiles_exact (hw : BackupsIntact sha256 w t) (hfree : reliable = true → w.ScratchFree) :
    Exact sha256 reliable (fun s => s = w) (restoreFiles t) fun _ => FilesRestored w t := by
  obtain ⟨old, hold, hidx, -⟩ := hw.backed
  obtain ⟨contents, hcontents, hdigest⟩ := Option.map_eq_some_iff.1 hidx
  have hscratch : ∀ name, t.liveIdx ≠ .scratch name := by simp [Transaction.liveIdx]
  refine orRaise_exact hw.idx (orRaise_exact hold ?_)
  refine Discipline.Triple.bind (restoreOne_exact hcontents hdigest hscratch hfree) fun _ => ?_
  refine Discipline.Triple.bind (restoreSdx_exact (hw.withLive _)
    fun hr => (hfree hr).withFile hscratch _) fun _ => ?_
  refine Discipline.Triple.post fsync_exact ?_
  rintro _ s - ⟨⟨node, hfiles⟩, hjournal, hserial, hsdx, hnone⟩
  refine ⟨fun p hidx hsdx => ?_, ⟨⟨old, hold, contents, hcontents, ?_⟩, fun sorted hsorted => ?_, hnone⟩,
    Nat.le_trans (Nat.le_succ _) hserial, hjournal⟩
  · rw [hfiles]
    simp [World.withFile, World.setFile, hidx, hsdx]
  · rw [hfiles]
    simp [World.withFile, World.setFile, Transaction.liveIdx, Transaction.liveSdx]
  · obtain ⟨found, hfound, hlive⟩ := hsdx sorted hsorted
    refine ⟨found, ?_, hlive⟩
    rw [← hfound, contents_withFile (by simp [Transaction.liveIdx])]

/-- `_rollback` of one transaction with intact backups. -/
theorem rollback_exact (hw : BackupsIntact sha256 w t) (hfree : reliable = true → w.ScratchFree)
    (reason : String) :
    Exact sha256 reliable (fun s => s = w) (rollback reason t) fun _ => RolledBack w t := by
  rw [rollback_eq]
  refine Discipline.Triple.bind (restoreFiles_exact hw hfree) fun _ => Hoare.of_start ?_
  intro s₀ h
  refine Discipline.Triple.post (recordRollback_exact reason) ?_
  rintro _ s - ⟨hs, hserial, hrecord, hnodup, hothers⟩
  rw [h.journal] at hnodup hothers
  refine ⟨fun p hidx hsdx => ?_, h.old.congr rfl rfl ?_ ?_, Nat.le_trans h.serial hserial, hrecord,
    hnodup, hothers⟩
  · rw [hs]
    exact h.files p hidx hsdx
  · rw [hs]
  · rw [hs]

end

/-! ## Both passes -/

/-- The second pass from `w`, after the transactions `done`. -/
structure Restoring (w : World D) (done : List (Transaction D)) (s : World D) : Prop where
  files : ∀ p, (∀ t ∈ done, p ≠ t.liveIdx ∧ p ≠ t.liveSdx) → s.files p = w.files p
  serial : w.nextSerial ≤ s.nextSerial
  nodup : (s.journal.map Transaction.id).Nodup
  finished : ∀ t ∈ done, (∃ u ∈ s.journal, u.id = t.id ∧ u.phase = .manualInterventionRequired ∧
    u.rolledBack = true) ∧ OldFilesBack w s t
  others : ∀ u ∈ w.journal, (∀ t ∈ done, u.id ≠ t.id) → u ∈ s.journal

section

variable {sha256 : Bytes → D} {reliable : Bool} {w s s' : World D} {done : List (Transaction D)}
  {t : Transaction D}

omit [DecidableEq D] in
theorem Restoring.start (h : (w.journal.map Transaction.id).Nodup) : Restoring w [] w :=
  ⟨fun _ _ => rfl, Nat.le_refl _, h, by simp, fun _ hu _ => hu⟩

omit [DecidableEq D] in
/-- Files that no rollback writes are those of the start. -/
theorem Restoring.file (h : Restoring w done s) {p : Path}
    (hp : ∀ base, p ≠ .liveIdx base ∧ p ≠ .liveSdx base) : s.files p = w.files p :=
  h.files p fun _ _ => hp _

omit [DecidableEq D] in
/-- Backups that are intact at one point of the second pass are intact at every other. -/
theorem Restoring.backups_iff (h : Restoring w done s) :
    BackupsIntact sha256 s t ↔ BackupsIntact sha256 w t := by
  have hdigest : ∀ p : Path, (∀ base, p ≠ .liveIdx base ∧ p ≠ .liveSdx base) →
      fileDigest sha256 s p = fileDigest sha256 w p := fun p hp => by
    rw [fileDigest, fileDigest, World.contents, World.contents, h.file hp]
  have hbacked : Backed sha256 s t ↔ Backed sha256 w t := by
    simp only [Backed, hdigest (.backupIdx t.id) (by simp), hdigest (.backupSdx t.id) (by simp)]
  exact ⟨fun hs => ⟨hs.idx, hs.sdx, hbacked.1 hs.backed⟩,
    fun hs => ⟨hs.idx, hs.sdx, hbacked.2 hs.backed⟩⟩

omit [DecidableEq D] in
theorem Restoring.scratchFree (h : Restoring w done s) (hw : w.ScratchFree) : s.ScratchFree := by
  intro serial hserial
  rw [h.file (by simp)]
  exact hw serial (Nat.le_trans h.serial hserial)

omit [DecidableEq D] in
/-- One more transaction, of a volume that is not among the earlier ones. -/
theorem Restoring.step (h : Restoring w done s)
    (hne : ∀ x ∈ done, x.id.base ≠ t.id.base) (hs : RolledBack s t s') :
    Restoring w (done ++ [t]) s' := by
  refine ⟨fun p hp => ?_, Nat.le_trans h.serial hs.serial, hs.nodup h.nodup, fun x hx => ?_,
    fun u hu hall => ?_⟩
  · obtain ⟨hidx, hsdx⟩ := hp t (List.mem_append_right _ List.mem_cons_self)
    rw [hs.files p hidx hsdx]
    exact h.files p fun x hx => hp x (List.mem_append_left _ hx)
  · rcases List.mem_append.1 hx with hx | hx
    · obtain ⟨⟨u, hu, huid, hmarks⟩, hold⟩ := h.finished x hx
      refine ⟨⟨u, hs.others u ?_ hu, huid, hmarks⟩, hold.congr rfl rfl ?_ ?_⟩
      · exact fun heq => hne x hx (congrArg TxId.base (huid.symm.trans heq))
      · exact hs.files _ (by simpa [Transaction.liveIdx] using hne x hx)
          (by simp [Transaction.liveIdx, Transaction.liveSdx])
      · exact hs.files _ (by simp [Transaction.liveIdx, Transaction.liveSdx])
          (by simpa [Transaction.liveSdx] using hne x hx)
    · obtain rfl := List.mem_singleton.1 hx
      refine ⟨hs.record, hs.old.congr ?_ ?_ rfl rfl⟩
      · rw [World.contents, World.contents, h.file (by simp)]
      · rw [World.contents, World.contents, h.file (by simp)]
  · refine hs.others u (hall t (List.mem_append_right _ List.mem_cons_self)) ?_
    exact h.others u hu fun x hx => hall x (List.mem_append_left _ hx)

/-- The loop of the second pass. -/
theorem rollbackEach_exact {targets : List (Transaction D)}
    (hnodup : (w.journal.map Transaction.id).Nodup)
    (hdistinct : (targets.map fun t => t.id.base).Nodup)
    (hbackups : ∀ t ∈ targets, BackupsIntact sha256 w t) (hfree : reliable = true → w.ScratchFree)
    (reason : String) :
    Exact sha256 reliable (fun s => s = w) (Prog.forEach targets (rollback reason)) fun _ =>
      Restoring w targets := by
  have hstep : ∀ t rest, Exact sha256 reliable
      (fun s => ∃ done, done ++ t :: rest = targets ∧ Restoring w done s) (rollback reason t)
      fun _ s => ∃ done, done ++ rest = targets ∧ Restoring w done s := by
    intro t rest
    refine Hoare.of_start ?_
    rintro s₀ ⟨done, rfl, h⟩
    have hfresh : ∀ x ∈ done, x.id.base ≠ t.id.base := by
      rw [List.map_append, List.nodup_append] at hdistinct
      exact fun x hx => hdistinct.2.2 _ (List.mem_map_of_mem hx) _ (by simp)
    refine Discipline.Triple.post (rollback_exact (h.backups_iff.2 (hbackups t (by simp)))
      (fun hr => h.scratchFree (hfree hr)) reason) fun _ s _ hs => ?_
    exact ⟨done ++ [t], by simp, h.step hfresh hs⟩
  refine Discipline.Triple.mono (Discipline.Triple.forEach
    (I := fun rest s => ∃ done, done ++ rest = targets ∧ Restoring w done s) hstep targets)
    ?_ ?_ fun _ _ _ h => h
  · rintro s - rfl
    exact ⟨[], rfl, Restoring.start hnodup⟩
  · rintro _ s - ⟨done, hdone, h⟩
    rw [List.append_nil] at hdone
    exact hdone ▸ h

end

section

variable {sha256 : Bytes → D} {reliable : Bool} {details : List UpstreamVolume} {w : World D}

/-- Whether the status shows a transaction's volume as writable. -/
def Writable (details : List UpstreamVolume) (t : Transaction D) : Prop :=
  readonlyOf details t.volumeId = some false

instance (details : List UpstreamVolume) (t : Transaction D) : Decidable (Writable details t) :=
  inferInstanceAs (Decidable (_ = _))

omit [DecidableEq D] in
/-- After the first pass, the transactions that still await validation are those not writable. -/
theorem Validated.mem_awaiting {s : World D} (h : Validated (readonlyOf details) w w.awaiting s)
    (hw : (w.journal.map Transaction.id).Nodup) (t : Transaction D) :
    t ∈ s.awaiting ↔ t ∈ w.awaiting ∧ ¬ Writable details t := by
  simp only [World.awaiting, List.mem_filter]
  constructor
  · rintro ⟨ht, hphase⟩
    have hmem : t ∈ w.journal := by
      rcases h.back t ht with hmem | hverified
      · exact hmem
      · rw [hverified] at hphase
        exact absurd hphase (by decide)
    refine ⟨⟨hmem, hphase⟩, fun hok => ?_⟩
    obtain ⟨u, hu, hid, hverified, -⟩ := h.marked t (List.mem_filter.2 ⟨hmem, hphase⟩) hok
    obtain rfl := List.inj_on_of_nodup_map h.nodup hu ht hid
    rw [hverified] at hphase
    exact absurd hphase (by decide)
  · rintro ⟨⟨ht, hphase⟩, hok⟩
    refine ⟨h.kept t ht fun x hx hx' heq => hok ?_, hphase⟩
    obtain rfl := List.inj_on_of_nodup_map hw ht (List.mem_filter.1 hx).1 heq
    exact hx'

omit [DecidableEq D] in
/-- The volumes of the transactions with a property of their volume. -/
theorem volumeId_mem {ts : List (Transaction D)} {t : Transaction D} (ok : Int → Bool)
    (ht : t ∈ ts) :
    t.volumeId ∈ (ts.filter fun x => ok x.volumeId).map Transaction.volumeId ↔
      ok t.volumeId = true := by
  constructor
  · intro h
    obtain ⟨u, hu, heq⟩ := List.mem_map.1 h
    rw [← heq]
    exact (List.mem_filter.1 hu).2
  · exact fun h => List.mem_map_of_mem (List.mem_filter.2 ⟨ht, h⟩)

/-- The lists that the first pass returns. -/
def verifiedIds (details : List UpstreamVolume) (w : World D) : List Int :=
  (w.awaiting.filter fun t => readonlyOf details t.volumeId = some false).map Transaction.volumeId

def rejectedIds (details : List UpstreamVolume) (w : World D) : List Int :=
  (w.awaiting.filter fun t => ¬ readonlyOf details t.volumeId = some false).map Transaction.volumeId

omit [DecidableEq D] in
theorem mem_verifiedIds {t : Transaction D} (ht : t ∈ w.awaiting) :
    t.volumeId ∈ verifiedIds details w ↔ Writable details t := by
  rw [verifiedIds, volumeId_mem (fun v => readonlyOf details v = some false) ht, decide_eq_true_iff]
  exact Iff.rfl

omit [DecidableEq D] in
theorem mem_rejectedIds {t : Transaction D} (ht : t ∈ w.awaiting) :
    t.volumeId ∈ rejectedIds details w ↔ ¬ Writable details t := by
  rw [rejectedIds, volumeId_mem (fun v => ¬ readonlyOf details v = some false) ht,
    decide_eq_true_iff]
  exact Iff.rfl

omit [DecidableEq D] in
/-- What the state after both passes means for the batch. -/
theorem batchOutcome_of_passes {s₁ s₂ : World D} {targets : List (Transaction D)}
    (hw : AwaitingBatch sha256 w) (hdetails : (details.map UpstreamVolume.id).Nodup)
    (h₁ : Validated (readonlyOf details) w w.awaiting s₁)
    (htargets : ∀ t, t ∈ targets ↔ t ∈ w.awaiting ∧ ¬ Writable details t)
    (h₂ : Restoring s₁ targets s₂) :
    BatchOutcome sha256 details w s₂ (verifiedIds details w) (rejectedIds details w) := by
  have hapart : ∀ t u : Transaction D, Writable details t → ¬ Writable details u →
      t.id.base ≠ u.id.base := fun t u ht hu heq =>
    hu (by rw [Writable, Transaction.volumeId, ← heq]; exact ht)
  refine
    { partition := ?_, disjoint := ?_, verified_iff := ?_, nodup := h₂.nodup, kept := ?_,
      restored := ?_, frame := ?_, others := ?_ }
  · -- the status splits the transactions that await validation
    rw [verifiedIds, rejectedIds, ← List.map_append]
    refine List.Perm.map _ ?_
    have hperm := List.filter_append_perm (fun t => decide (readonlyOf details t.volumeId = some false))
      w.awaiting
    simpa only [decide_not] using hperm
  · intro volumeId hverified hrejected
    obtain ⟨t, ht, rfl⟩ := List.mem_map.1 hverified
    have hmem := (List.mem_filter.1 ht).1
    exact (mem_rejectedIds hmem).1 hrejected ((mem_verifiedIds hmem).1 hverified)
  · exact fun t ht => (mem_verifiedIds ht).trans (readonlyOf_eq_some hdetails)
  · -- a verified volume is marked in the first pass, and the rollback of others leaves it alone
    intro t ht hverified
    have hok := (mem_verifiedIds ht).1 hverified
    obtain ⟨u, hu, hid, hphase, hcandidate⟩ := h₁.marked t ht hok
    refine ⟨⟨u, h₂.others u hu fun x hx heq => ?_, hid, hphase, hcandidate⟩, fun hlive => ?_⟩
    · exact hapart t x hok ((htargets x).1 hx).2 (congrArg TxId.base (hid.symm.trans heq))
    · have hsame : s₂.files t.liveIdx = w.files t.liveIdx := by
        rw [h₂.files t.liveIdx fun x hx => ?_, h₁.files]
        have hbase := hapart t x hok ((htargets x).1 hx).2
        exact ⟨by simpa [Transaction.liveIdx] using hbase,
          by simp [Transaction.liveIdx, Transaction.liveSdx]⟩
      rw [CandidateLive, fileDigest, World.contents, hsame]
      exact hlive
  · -- a rejected volume is not touched by the first pass and restored by the second
    intro t ht hrejected
    obtain ⟨hrecord, hold⟩ := h₂.finished t ((htargets t).2 ⟨ht, (mem_rejectedIds ht).1 hrejected⟩)
    refine ⟨hrecord, hold.congr ?_ ?_ rfl rfl⟩
    · rw [World.contents, World.contents, h₁.files]
    · rw [World.contents, World.contents, h₁.files]
  · intro p hp
    rw [h₂.files p fun t ht => ?_, h₁.files]
    obtain ⟨hmem, hok⟩ := (htargets t).1 ht
    exact hp t hmem ((mem_rejectedIds hmem).2 hok)
  · -- a record that did not await validation is in no pass
    intro t ht hphase
    have hne : ∀ x ∈ w.awaiting, t.id ≠ x.id := by
      intro x hx heq
      obtain rfl := List.inj_on_of_nodup_map hw.nodup ht (List.mem_filter.1 hx).1 heq
      exact absurd ((List.mem_filter.1 hx).2.symm.trans hphase) (by simp)
    exact h₂.others t (h₁.kept t ht fun x hx _ => hne x hx) fun x hx =>
      hne x ((htargets x).1 hx).1

/-- The first pass marks what the status shows as writable. -/
theorem validateUpstreamResult_exact (hw : (w.journal.map Transaction.id).Nodup) :
    Exact sha256 reliable (fun s => s = w) (validateUpstreamResult details)
      fun result s => result = (verifiedIds details w, rejectedIds details w) ∧
        Validated (readonlyOf details) w w.awaiting s := by
  have hawaiting : (w.awaiting.map Transaction.id).Nodup :=
    hw.sublist (List.filter_sublist.map _)
  refine Discipline.Triple.bind awaiting_exact fun ts => ?_
  refine Hoare.of_start ?_
  rintro s₀ ⟨rfl, rfl⟩
  have hstart : Validated (readonlyOf details) s₀ [] s₀ :=
    ⟨rfl, rfl, hw, by simp, fun _ hu _ => hu, fun _ hu => .inl hu⟩
  refine Discipline.Triple.mono (validateEach_exact (w := s₀) s₀.awaiting [] [] [] hawaiting) ?_ ?_
    fun _ _ _ h => h
  · rintro s - rfl
    exact hstart
  · rintro ⟨verified, rejected⟩ s - ⟨h, hverified, hrejected⟩
    exact ⟨Prod.ext hverified hrejected, h⟩

theorem validateAndRollBack_exact (hw : AwaitingBatch sha256 w)
    (hdetails : (details.map UpstreamVolume.id).Nodup) (hfree : reliable = true → w.ScratchFree)
    (reason : String) :
    Exact sha256 reliable (fun s => s = w) (validateAndRollBack details reason) fun result s =>
      BatchOutcome sha256 details w s result.1 result.2 := by
  refine Discipline.Triple.bind (validateUpstreamResult_exact hw.nodup) fun result =>
    Discipline.Triple.assume ?_
  rintro rfl
  refine Discipline.Triple.bind (M := fun _ s => BatchOutcome sha256 details w s _ _) ?_ fun _ =>
    Discipline.Triple.ret fun _ _ h => h
  refine Discipline.Triple.bind awaiting_exact fun ts => Hoare.of_start ?_
  rintro s₁ ⟨h₁, rfl⟩
  -- the second pass is over the transactions whose volume is not writable
  have htargets : ∀ t, t ∈ (s₁.awaiting.filter fun t => t.id.base.volumeId ∈ rejectedIds details w) ↔
      t ∈ w.awaiting ∧ ¬ Writable details t := by
    intro t
    rw [List.mem_filter, h₁.mem_awaiting hw.nodup, decide_eq_true_iff]
    exact ⟨fun h => h.1, fun h => ⟨h, (mem_rejectedIds h.1).2 h.2⟩⟩
  refine Discipline.Triple.post (rollbackEach_exact h₁.nodup ?_ ?_ ?_ reason) fun _ s _ h₂ =>
    batchOutcome_of_passes hw hdetails h₁ htargets h₂
  · -- the targets are distinct records, and records of one volume are equal
    refine List.Nodup.map_on (fun t ht u hu heq => ?_) ?_
    · exact List.inj_on_of_nodup_map hw.distinct ((htargets t).1 ht).1 ((htargets u).1 hu).1
        (congrArg Base.volumeId heq)
    · exact (List.Nodup.of_map _ h₁.nodup).sublist (List.filter_sublist.trans List.filter_sublist)
  · intro t ht
    obtain ⟨hidx, hsdx, hbacked⟩ := hw.backups t ((htargets t).1 ht).1
    refine ⟨hidx, hsdx, ?_⟩
    simp only [Backed, fileDigest, World.contents, h₁.files]
    exact hbacked
  · intro hr serial hserial
    rw [h₁.files]
    exact hfree hr serial (h₁.nextSerial ▸ hserial)

end

/-- Whenever both passes return, whatever fails on the way, the batch is settled exactly; and without
failures they return. -/
theorem validation_and_rollback_exact (sha256 : Bytes → D) (w : World D)
    (hw : AwaitingBatch sha256 w) (details : List UpstreamVolume)
    (hdetails : (details.map UpstreamVolume.id).Nodup) (reason : String) :
    (∀ cs verified rejected w', (validateAndRollBack details reason).run (repairExec sha256) cs w =
      (.ok (verified, rejected), w') → BatchOutcome sha256 details w w' verified rejected) ∧
    (w.ScratchFree → ∀ f : Nat → RepairChoice D, (∀ n, (f n).fault = .none) →
      ∃ n result w', (validateAndRollBack details reason).run (repairExec sha256)
        ((List.range n).map f) w = (.ok result, w')) := by
  constructor
  · intro cs verified rejected w' hrun
    exact (validateAndRollBack_exact hw hdetails (by simp) reason).of_ok rfl hrun
  · intro hfree f hf
    -- without faults every request is answered, and the program ends
    exact (validateAndRollBack_exact hw hdetails (fun _ => hfree) reason).exists_ok rfl f hf

/-! Two volumes that await validation. The digest of a file is the file itself. -/

namespace BatchSample

def base (volumeId : Int) : Base := ⟨"", volumeId⟩

def transaction (volumeId : Int) (oldSdx : Option (Artifact Bytes)) (backupSdxPath : Option Path) :
    Transaction Bytes where
  id := ⟨base volumeId, volumeId.toNat⟩
  identity := ⟨"", "", "", volumeId⟩
  sourceFingerprint := .unavailable ⟨"", "", "", volumeId⟩
  oldIdx := some ⟨⟨1, [1]⟩, 0o644⟩
  oldSdx := oldSdx
  attemptCount := 1
  phase := .awaitingUpstreamValidation
  updatedAt := 0
  candidateIdx := some ⟨1, [2]⟩
  backupIdxPath := some (.backupIdx ⟨base volumeId, volumeId.toNat⟩)
  backupSdxPath := backupSdxPath

def files : Path → Option Node
  | .liveIdx _ => some (.file [2] 0o644)
  | .backupIdx _ => some (.file [1] 0o644)
  | .backupSdx _ => some (.file [3] 0o600)
  | _ => none

/-- Volume 1 had no sorted index, volume 2 had one. -/
def world : World Bytes where
  journal := [transaction 1 none none,
    transaction 2 (some ⟨⟨1, [3]⟩, 0o600⟩) (some (.backupSdx ⟨base 2, 2⟩))]
  files := files

/-- The status lists volume 1 as writable and volume 2 as read-only. -/
def details : List UpstreamVolume := [⟨1, false⟩, ⟨2, true⟩]

theorem batch : AwaitingBatch id world where
  nodup := by decide
  distinct := by decide
  backups t ht := by
    have hmem : t ∈ world.journal := (List.mem_filter.1 ht).1
    simp only [world, List.mem_cons, List.not_mem_nil, or_false] at hmem
    rcases hmem with rfl | rfl
    · exact ⟨rfl, fun old hold => absurd hold (by simp [transaction]), _, rfl, rfl,
        fun old hold => absurd hold (by simp [transaction])⟩
    · refine ⟨rfl, fun _ _ => rfl, _, rfl, rfl, ?_⟩
      rintro _ ⟨rfl⟩
      rfl

end BatchSample

/-- Volume 1 is verified, and volume 2 gets its old files back. -/
theorem validation_and_rollback_exact_two_volumes :
    ∃ n w', (validateAndRollBack BatchSample.details "").run (repairExec id)
        (List.replicate n ({} : RepairChoice Bytes)) BatchSample.world = (.ok ([1], [2]), w') ∧
      w'.files (.liveIdx (BatchSample.base 1)) = some (.file [2] 0o644) ∧
      w'.files (.liveSdx (BatchSample.base 2)) = some (.file [3] 0o600) ∧
      BatchOutcome id BatchSample.details BatchSample.world w' [1] [2] := by
  have hvalue : ((validateAndRollBack BatchSample.details "").run (repairExec id)
      (List.replicate 19 ({} : RepairChoice Bytes)) BatchSample.world).1.value = some ([1], [2]) := by
    decide +kernel
  obtain ⟨w', hw'⟩ := exists_state_of_value hvalue
  have houtcome := (validation_and_rollback_exact id BatchSample.world BatchSample.batch
    BatchSample.details (by decide) "").1 _ _ _ _ hw'
  refine ⟨19, w', hw', ?_, ?_, houtcome⟩
  · rw [houtcome.frame _ fun t ht hrejected => ?_]
    · rfl
    · have hmem : t ∈ BatchSample.world.journal := (List.mem_filter.1 ht).1
      simp only [BatchSample.world, List.mem_cons, List.not_mem_nil, or_false] at hmem
      rcases hmem with rfl | rfl
      · exact absurd hrejected (by decide)
      · decide
  · obtain ⟨-, hold⟩ := houtcome.restored (BatchSample.transaction 2 (some ⟨⟨1, [3]⟩, 0o600⟩)
      (some (.backupSdx ⟨BatchSample.base 2, 2⟩))) (by decide) (by decide)
    obtain ⟨contents, hcontents, hlive⟩ := hold.sdx _ rfl
    obtain rfl : [3] = contents := Option.some.inj hcontents
    exact hlive

end StorageNode.IndexRepair
