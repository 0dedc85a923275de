import StorageNode.IndexRepair.CrashContract

/-!
# Recovery of an installation

The contracts of the operations on the transaction of the incident. Each of them keeps `InstallInv` at
every request; `installCandidate` and `recoverInterruptedInstall` end with the candidate installed and
journaled as awaiting validation, and `rollback` ends with the old files restored.
-/

set_option autoImplicit false

namespace StorageNode.IndexRepair

open StorageNode.Program StorageNode.IndexHelper RepairProg

variable {D : Type}

/-- A copy of the incident's record, and other transactions that a loop has still to visit. -/
structure Mine (sha256 : Bytes → D) (i : Incident) (xs : List (Transaction D)) (t : Transaction D) :
    Prop where
  id_eq : t.id = i.id
  ours : Ours sha256 i t
  unresolved : t.phase ≠ .resolvedWithoutInstall
  others : ∀ x ∈ xs, x.id ≠ i.id

/-- They are all journaled as they are at hand. -/
structure AtHand (xs : List (Transaction D)) (t : Transaction D) (s : InstallState D) : Prop where
  mine : t ∈ s.world.journal
  rest : ∀ x ∈ xs, x ∈ s.world.journal

/-- The incident is journaled as awaiting validation. -/
structure Settled (i : Incident) (xs : List (Transaction D)) (s : InstallState D) : Prop where
  found : ∃ t ∈ s.world.journal, t.id = i.id ∧ t.phase = .awaitingUpstreamValidation
  rest : ∀ x ∈ xs, x ∈ s.world.journal

section

variable {sha256 : Bytes → D} {i : Incident} {xs : List (Transaction D)} {t : Transaction D}
  {s s' : InstallState D}

theorem Mine.moved (h : Mine sha256 i xs t) {phase : Phase} (hne : phase ≠ .installingCandidate)
    (hopen : phase ≠ .resolvedWithoutInstall) (at_ : Nat) :
    Mine sha256 i xs { t with phase := phase, updatedAt := at_ } :=
  ⟨h.id_eq, ⟨h.ours.1, h.ours.2, h.ours.3, h.ours.4, h.ours.5, h.ours.6, fun hp => absurd hp hne⟩,
    hopen, h.others⟩

theorem AtHand.save (h : AtHand xs t s) {kind : SaveKind} {u : Transaction D}
    (hu : Mine sha256 i xs u) : AtHand xs u (s.save kind u) :=
  ⟨mem_saveTransaction.2 (.inr rfl), fun x hx =>
    mem_saveTransaction.2 (.inl ⟨h.rest x hx, hu.id_eq ▸ hu.others x hx⟩)⟩

theorem InstallInv.phase_of (h : InstallInv sha256 i s) (ht : Mine sha256 i xs t)
    (hold : AtHand xs t s) : PhaseOk i s t.phase :=
  h.phase t hold.mine ht.id_eq

theorem InstallInv.candidate_of (h : InstallInv sha256 i s) (ht : Mine sha256 i xs t)
    (hold : AtHand xs t s) : s.world.contents (.candidate i.id) = some i.candidate :=
  h.staged t hold.mine ht.id_eq ht.unresolved

/-- A change of the live files that fits the phase of the record at hand. -/
theorem InstallInv.setLive (h : InstallInv sha256 i s) (ht : Mine sha256 i xs t)
    (hold : AtHand xs t s) (hjournal : s'.world.journal = s.world.journal)
    (hfiles : ∀ p, i.owns p = true → p ≠ .liveIdx i.id.base → p ≠ .liveSdx i.id.base →
      s'.world.files p = s.world.files p)
    (hlive : s'.live i = some i.old ∨ s'.live i = some i.candidate)
    (hphase : PhaseOk i s' t.phase) : InstallInv sha256 i s' := by
  refine h.refile hjournal ?_ ?_ ?_ hlive fun u hu huid => ?_
  · exact hfiles _ (by simp [Incident.owns]) (by simp) (by simp)
  · exact hfiles _ (by simp [Incident.owns]) (by simp) (by simp)
  · exact hfiles _ (by simp [Incident.owns]) (by simp) (by simp)
  · obtain rfl := h.unique hu hold.mine (huid.trans ht.id_eq.symm)
    exact hphase

/-- The phases from which a rollback starts allow every later state of a restored volume. -/
theorem phaseOk_of_restored {phase : Phase} (hphase : phase.pendingValidation = true)
    (h : s.restored = true) : PhaseOk i s phase := by
  revert hphase
  cases phase <;> simp [Phase.pendingValidation, PhaseOk, h]

/-- A change of files of a restored volume that leaves the live index as it is or puts the old one
back. -/
theorem InstallInv.setRestored (h : InstallInv sha256 i s) (ht : Mine sha256 i xs t)
    (hold : AtHand xs t s) (hphase : t.phase.pendingValidation = true)
    (hjournal : s'.world.journal = s.world.journal)
    (hfiles : ∀ p, i.owns p = true → p ≠ .liveIdx i.id.base → p ≠ .liveSdx i.id.base →
      s'.world.files p = s.world.files p)
    (hlive : s'.world.files (.liveIdx i.id.base) = s.world.files (.liveIdx i.id.base) ∨
      s'.live i = some i.old)
    (hrestored : s'.restored = true) : InstallInv sha256 i s' := by
  refine h.setLive ht hold hjournal hfiles ?_ (phaseOk_of_restored hphase hrestored)
  rcases hlive with hsame | hold
  · rw [InstallState.live, World.contents_congr hsame]
    exact h.live
  · exact .inl hold

variable [DecidableEq D]

/-- A transition of the incident's record. -/
theorem move_survives {u : Transaction D} {phase : Phase} {R : InstallState D → Prop}
    (ht : Mine sha256 i xs t)
    (hu : ∀ at_, Mine sha256 i xs { u with phase := phase, updatedAt := at_ })
    (hR : ∀ s clock serial t', R s → R ((s.tick clock serial).save .transition t'))
    (hphase : ∀ s at_, InstallInv sha256 i s → AtHand xs t s → R s →
      PhaseOk i (s.save .transition { u with phase := phase, updatedAt := at_ }) phase) :
    Survives sha256 i (fun s => AtHand xs t s ∧ R s) (transition u phase) fun t' s =>
      (Mine sha256 i xs t' ∧ t'.phase = phase) ∧ AtHand xs t' s ∧ R s := by
  refine transition_survives ?_
  rintro s at_ hs ⟨hold, hr⟩
  refine ⟨hs.save (hu at_).id_eq (hu at_).ours (hphase s at_ hs hold hr) (hs.candidate_of ht hold), ?_⟩
  intro clock serial
  have hticked : AtHand xs t (s.tick clock serial) := ⟨hold.mine, hold.rest⟩
  exact ⟨⟨hu at_, rfl⟩, hticked.save (hu at_), hR s clock serial _ hr⟩

/-! ## Installation -/

theorem removeStaleSdx_survives (ht : Mine sha256 i xs t) (hphase : t.phase = .installingCandidate) :
    Survives sha256 i (fun s => AtHand xs t s ∧ s.live i = some i.candidate) (removeStaleSdx t)
      fun _ s => AtHand xs t s ∧ s.restored = false ∧ Replaced i s := by
  refine Discipline.Triple.bind (unlink_survives ?_) fun _ => fsync_survives
  rintro s hs ⟨hold, hlive⟩
  have hrestored : s.restored = false := by
    simpa [PhaseOk, hphase] using hs.phase_of ht hold
  have hlive' : (s.setFile t.liveSdx none).live i = some i.candidate := by
    rw [← hlive]
    exact World.contents_congr (by simp [InstallState.setFile, World.setFile, Transaction.liveSdx])
  have hsorted : (s.setFile t.liveSdx none).world.files (.liveSdx i.id.base) = none := by
    simp [InstallState.setFile, World.setFile, Transaction.liveSdx, ht.id_eq]
  refine ⟨hs.setLive ht hold rfl ?_ (.inr hlive') ?_, ⟨hold.mine, hold.rest⟩, hrestored, hlive', hsorted⟩
  · intro p _ _ hp
    simp [InstallState.setFile, World.setFile, Transaction.liveSdx, ht.id_eq, hp]
  · rw [hphase]
    exact hrestored

theorem recordInstalled_survives (ht : Mine sha256 i xs t) :
    Survives sha256 i (fun s => AtHand xs t s ∧ s.restored = false ∧ Replaced i s) (recordInstalled t)
      fun _ s => Settled i xs s := by
  refine Discipline.Triple.bind (move_survives ht (fun at_ => ht.moved (by simp) (by simp) at_)
    (fun _ _ _ _ h => ⟨h.1, h.2.1, h.2.2⟩) fun s at_ _ _ hr _ => ⟨hr.2.1, hr.2.2⟩) fun t' => ?_
  refine Discipline.Triple.assume fun ht' => ?_
  refine Discipline.Triple.bind (move_survives ht'.1 (fun at_ => ht'.1.moved (by simp) (by simp) at_)
    (fun _ _ _ _ h => ⟨h.1, h.2.1, h.2.2⟩) fun s at_ _ _ hr _ => ⟨hr.2.1, hr.2.2⟩) fun t'' => ?_
  exact Discipline.Triple.ret fun s _ h => ⟨⟨t'', h.2.1.mine, h.1.1.id_eq, h.1.2⟩, h.2.1.rest⟩

/-- The temporary file replaces the live index. -/
theorem replaceLive_survives (ht : Mine sha256 i xs t) (hphase : t.phase = .installingCandidate) :
    Survives sha256 i
      (fun s => AtHand xs t s ∧ s.world.contents (.installing i.id) = some i.candidate)
      (must (tryReplace (.installing i.id) t.liveIdx))
      fun _ s => AtHand xs t s ∧ s.live i = some i.candidate := by
  refine replace_survives ?_
  rintro s node hs ⟨hold, hcontents⟩ hnode
  have hrestored : s.restored = false := by
    simpa [PhaseOk, hphase] using hs.phase_of ht hold
  have hlive : (s.moveFile i (.installing i.id) t.liveIdx node).live i = some i.candidate := by
    rw [← hcontents]
    simp [InstallState.live, InstallState.moveFile, World.contents, World.setFile, Transaction.liveIdx,
      ht.id_eq, hnode]
  refine ⟨hs.setLive ht hold rfl ?_ (.inr hlive) ?_, ⟨hold.mine, hold.rest⟩, hlive⟩
  · intro p hp hidx _
    have hne : p ≠ .installing i.id := by
      rintro rfl
      exact absurd hp (by simp [Incident.owns])
    simp [InstallState.moveFile, World.setFile, Transaction.liveIdx, ht.id_eq, hidx, hne]
  · rw [hphase]
    exact hrestored

variable (hsha : Function.Injective sha256)

include hsha

theorem usableTemporary_survives {P : InstallState D → Prop} (p : Path) (contents : Bytes)
    (absent : Bool) :
    Survives sha256 i P (usableTemporary p (some (digestOf sha256 contents)) absent) fun usable s =>
      P s ∧ (usable = true → s.world.contents p = some contents ∨
        absent = true ∧ Node.isFile (s.world.files p) = false) := by
  refine Discipline.Triple.bind (node_survives p) fun found => Discipline.Triple.ite (fun _ => ?_)
    fun habsent => ?_
  · refine Discipline.Triple.mono (sameArtifact_survives hsha p contents)
      (fun s _ h => h.1) (fun usable s _ h => ⟨h.1, fun hu => .inl (h.2.1 hu)⟩) fun _ _ _ h => h
  · refine Discipline.Triple.ret fun s _ h => ⟨h.1, fun hu => .inr ⟨hu, ?_⟩⟩
    rw [← h.2]
    simpa using habsent

/-- After staging, the temporary file holds the candidate. -/
theorem stageTemporary_survives (ht : Mine sha256 i xs t) :
    Survives sha256 i (fun s => AtHand xs t s)
      (stageTemporary t (.candidate i.id) (digestOf sha256 i.candidate))
      fun _ s => AtHand xs t s ∧ s.world.contents (.installing i.id) = some i.candidate := by
  have hfree : i.owns (.installing i.id) = false := rfl
  -- a temporary copy that is not the candidate is removed, so that one that is left is
  have hunlink : ∀ usable, Survives sha256 i
      (fun s => AtHand xs t s ∧ (usable = true →
        s.world.contents (.installing i.id) = some i.candidate ∨
          true = true ∧ Node.isFile (s.world.files (.installing i.id)) = false))
      (Prog.when (!usable) (must (tryUnlink (.installing i.id))))
      fun _ s => AtHand xs t s ∧ (Node.isFile (s.world.files (.installing i.id)) = true →
        s.world.contents (.installing i.id) = some i.candidate) := by
    intro usable
    refine Discipline.Triple.when (fun _ => unlink_survives ?_) ?_
    · rintro s hs ⟨hold, -⟩
      refine ⟨hs.setFile hfree none, ⟨hold.mine, hold.rest⟩, fun hfile => absurd hfile ?_⟩
      simp [InstallState.setFile, World.setFile, Node.isFile]
    · rintro husable s - ⟨hold, h⟩
      refine ⟨hold, fun hfile => ?_⟩
      rcases h (by simpa using husable) with hcontents | ⟨-, habsent⟩
      · exact hcontents
      · exact absurd (hfile.symm.trans habsent) (by simp)
  unfold stageTemporary
  rw [ht.id_eq]
  refine Discipline.Triple.bind (usableTemporary_survives hsha _ _ _) fun usable => ?_
  refine Discipline.Triple.bind (hunlink usable) fun _ => ?_
  refine Discipline.Triple.bind (node_survives _) fun found => ?_
  refine Discipline.Triple.when (fun _ => ?_) ?_
  · refine Discipline.Triple.bind (M := fun _ s => AtHand xs t s) ?_ fun old => ?_
    · exact Discipline.Triple.orRaise (fun _ _ _ _ => trivial) fun _ _ _ _ h => h.1.1
    -- the copy is taken from the staged candidate
    · refine copy_survives (fun s node hs _ => hs.setFile hfree _) ?_
      intro s contents hs hold hcontents m
      refine ⟨⟨hold.mine, hold.rest⟩, ?_⟩
      rw [← hs.candidate_of ht hold, hcontents]
      simp [InstallState.setFile, World.contents, World.setFile, Node.read]
  · rintro hpresent s - ⟨⟨hold, h⟩, rfl⟩
    exact ⟨hold, h (by simpa using hpresent)⟩

theorem installCandidate_survives (ht : Mine sha256 i xs t)
    (hphase : t.phase = .backupCreated ∨ t.phase = .installingCandidate) :
    Survives sha256 i (fun s => AtHand xs t s) (installCandidate t) fun _ s => Settled i xs s := by
  -- the record that is written keeps everything that recovery needs
  have hmoved : ∀ at_, Mine sha256 i xs { t with
      installTempPath := some (.installing t.id), phase := .installingCandidate, updatedAt := at_ } := by
    intro at_
    refine ⟨ht.id_eq, ?_, by simp, ht.others⟩
    exact ⟨ht.ours.1, ht.ours.2, ht.ours.3, ht.ours.4, ht.ours.5, ht.ours.6, fun _ => by rw [ht.id_eq]⟩
  refine orRaise_survives ht.ours.candidatePath (orRaise_survives ht.ours.candidateIdx ?_)
  refine Discipline.Triple.bind (sameArtifact_survives hsha _ _) fun intact => ?_
  refine Discipline.Triple.bind (M := fun _ s => AtHand xs t s) ?_ fun _ => ?_
  · -- the candidate is never found changed
    refine Discipline.Triple.when (fun hchanged s hs h => absurd hchanged ?_) fun _ s _ h => h.1
    simpa using h.2.2 (hs.candidate_of ht h.1)
  refine Discipline.Triple.bind (stageTemporary_survives hsha ht) fun _ => ?_
  refine Discipline.Triple.bind (move_survives ht hmoved (fun _ _ _ _ h => h) ?_) fun t' => ?_
  · intro s at_ hs hold _
    have hok := hs.phase_of ht hold
    rcases hphase with hp | hp
    · rw [hp] at hok
      exact hok.restored
    · rw [hp] at hok
      exact hok
  -- from here on the phase is recorded, and a crash is recovered from the record
  refine Discipline.Triple.assume fun ⟨ht', hphase'⟩ => ?_
  rw [ht'.id_eq]
  refine Discipline.Triple.bind (replaceLive_survives ht' hphase') fun _ => ?_
  refine Discipline.Triple.bind (removeStaleSdx_survives ht' hphase') fun _ => ?_
  refine Discipline.Triple.bind fsync_survives fun _ => ?_
  refine Discipline.Triple.bind (sameArtifact_survives hsha _ _) fun installed => ?_
  refine Discipline.Triple.bind (M := fun _ s => AtHand xs t' s ∧ s.restored = false ∧ Replaced i s)
    ?_ fun _ => recordInstalled_survives ht'
  exact Discipline.Triple.raiseIf (fun _ _ _ _ => trivial) fun _ s _ h => h.1

theorem resumeInstall_survives (ht : Mine sha256 i xs t) (hphase : t.phase = .installingCandidate) :
    Survives sha256 i (fun s => AtHand xs t s) (resumeInstall t (.installing i.id))
      fun _ s => Settled i xs s := by
  unfold resumeInstall
  rw [ht.ours.candidateIdx]
  refine Discipline.Triple.bind (usableTemporary_survives hsha _ _ _) fun usable => ?_
  refine Discipline.Triple.ite (fun husable => ?_) fun _ => ?_
  · refine Discipline.Triple.bind (Discipline.Triple.pre (replaceLive_survives ht hphase) ?_) fun _ => ?_
    · rintro s - ⟨hold, h⟩
      rcases h husable with hcontents | ⟨hfalse, -⟩
      · exact ⟨hold, hcontents⟩
      · exact absurd hfalse (by simp)
    · refine Discipline.Triple.bind (removeStaleSdx_survives ht hphase) fun _ => ?_
      exact Discipline.Triple.bind fsync_survives fun _ => recordInstalled_survives ht
  · refine Discipline.Triple.bind (unlink_survives ?_) fun _ =>
      installCandidate_survives hsha ht (.inr hphase)
    rintro s hs ⟨hold, -⟩
    exact ⟨hs.setFile (p := .installing i.id) rfl none, hold.mine, hold.rest⟩

/-- Recovery from every crash point of an installation. -/
theorem recoverInterruptedInstall_survives (ht : Mine sha256 i xs t)
    (hphase : t.phase = .installingCandidate) :
    Survives sha256 i (fun s => AtHand xs t s) (recoverInterruptedInstall t)
      fun _ s => Settled i xs s := by
  unfold recoverInterruptedInstall
  rw [ht.ours.candidateIdx, ht.ours.oldIdx, ht.ours.installTempPath hphase]
  have hlive : t.liveIdx = .liveIdx i.id.base := by rw [Transaction.liveIdx, ht.id_eq]
  rw [hlive]
  refine Discipline.Triple.bind (sameArtifact_survives hsha _ _) fun isCandidate => ?_
  refine Discipline.Triple.ite (fun hcandidate => ?_) fun hother => ?_
  · refine Discipline.Triple.bind (Discipline.Triple.pre (removeStaleSdx_survives ht hphase) ?_)
      fun _ => recordInstalled_survives ht
    exact fun s _ h => ⟨h.1, h.2.1 hcandidate⟩
  · refine Discipline.Triple.bind (sameArtifact_survives hsha _ _) fun isOld => ?_
    refine Discipline.Triple.ite (fun _ => ?_) fun hneither s hs h => ?_
    · exact Discipline.Triple.pre (resumeInstall_survives hsha ht hphase) fun s _ h => h.1.1
    · -- the live index is always one of the two
      rcases hs.live with hold | hcandidate
      · exact absurd (h.2.2 hold) hneither
      · exact absurd (h.1.2.2 hcandidate) hother

omit hsha in
/-- Giving up on a transaction whose old files are back. -/
theorem manual_survives (ht : Mine sha256 i xs t) (reason : String) :
    Survives sha256 i (fun s => AtHand xs t s ∧ s.restored = true) (manual t reason)
      fun _ s => s.restored = true ∧ ∀ x ∈ xs, x ∈ s.world.journal := by
  have hmine : Mine sha256 i xs { t with failureReason := reason } :=
    ⟨ht.id_eq, ⟨ht.ours.1, ht.ours.2, ht.ours.3, ht.ours.4, ht.ours.5, ht.ours.6, ht.ours.7⟩,
      ht.unresolved, ht.others⟩
  refine Discipline.Triple.bind (move_survives ht (fun at_ => hmine.moved (by simp) (by simp) at_)
    (fun _ _ _ _ h => h) fun _ _ _ _ h => h) fun t' => ?_
  exact Discipline.Triple.ret fun s _ h => ⟨h.2.2, h.2.1.rest⟩

/-- Unless a rollback has begun, the checks on an installed candidate pass. -/
theorem validateInstalledArtifacts_survives (ht : Mine sha256 i xs t)
    (hphase : t.phase.pendingValidation = true) :
    Survives sha256 i (fun s => AtHand xs t s) (validateInstalledArtifacts t)
      fun _ s => Settled i xs s := by
  -- without a rollback, the files are those of the candidate
  have hok : ∀ s, InstallInv sha256 i s → AtHand xs t s → s.restored = false → Replaced i s := by
    intro s hs hold
    have := hs.phase_of ht hold
    revert this hphase
    cases t.phase <;> simp [Phase.pendingValidation, PhaseOk]
  -- each check may refuse only after a rollback, and a refusal keeps the record at hand
  have hrefuse : ∀ reason e, Survives sha256 i (fun s => AtHand xs t s ∧ s.restored = true)
      ((manual t reason).bind fun _ => (Prog.raise e : RepairProg D Unit))
      fun _ s => AtHand xs t s := fun reason e =>
    Discipline.Triple.bind (manual_survives ht reason) fun _ =>
      Discipline.Triple.raise fun _ _ _ => trivial
  have hlive : t.liveIdx = .liveIdx i.id.base := by rw [Transaction.liveIdx, ht.id_eq]
  have hsorted : t.liveSdx = .liveSdx i.id.base := by rw [Transaction.liveSdx, ht.id_eq]
  unfold validateInstalledArtifacts
  rw [hlive, hsorted, ht.ours.candidateIdx]
  refine Discipline.Triple.bind (sameArtifact_survives hsha _ _) fun isCandidate => ?_
  refine Discipline.Triple.bind (M := fun _ s => AtHand xs t s) ?_ fun _ => ?_
  · refine Discipline.Triple.when (fun hother => Discipline.Triple.pre (hrefuse _ _) ?_)
      fun _ s _ h => h.1
    intro s hs h
    refine ⟨h.1, Bool.not_eq_false _ ▸ fun hrestored => ?_⟩
    exact absurd (h.2.2 (hok s hs h.1 hrestored).live) (by simpa using hother)
  refine Discipline.Triple.bind (node_survives _) fun sdx => ?_
  refine Discipline.Triple.bind (M := fun _ s => AtHand xs t s) ?_ fun _ => ?_
  · refine Discipline.Triple.when (fun hfile => Discipline.Triple.pre (hrefuse _ _) ?_)
      fun _ s _ h => h.1
    rintro s hs ⟨hold, rfl⟩
    refine ⟨hold, Bool.not_eq_false _ ▸ fun hrestored => ?_⟩
    rw [(hok s hs hold hrestored).sorted] at hfile
    exact absurd hfile (by simp [Node.isFile])
  refine Discipline.Triple.when (fun _ => ?_) fun hawaiting s _ hold => ?_
  · refine Discipline.Triple.bind (Discipline.Triple.pre (move_survives (R := fun s =>
      s.restored = false → Replaced i s) ht (fun at_ => ht.moved (by simp) (by simp) at_)
      (fun _ _ _ _ h hr => ⟨(h hr).1, (h hr).2⟩) fun _ _ _ _ h hr => ⟨(h hr).1, (h hr).2⟩) ?_)
      fun t' => ?_
    · exact fun s hs hold => ⟨hold, hok s hs hold⟩
    · exact Discipline.Triple.ret fun s _ h => ⟨⟨t', h.2.1.mine, h.1.1.id_eq, h.1.2⟩, h.2.1.rest⟩
  · exact ⟨⟨t, hold.mine, ht.id_eq, by simpa using hawaiting⟩, hold.rest⟩

/-! ## Rollback -/

/-- A verified backup is copied to a scratch file, which replaces the destination. -/
theorem restoreOne_survives {P Q : InstallState D → Prop} {backup destination : Path}
    {contents : Bytes} {mode : Nat} (htick : ∀ s clock serial, P s → P (s.tick clock serial))
    (hwrite : ∀ s serial node, P s → P (s.setFile (.scratch serial) node))
    (hbackup : ∀ s, InstallInv sha256 i s → P s → s.world.contents backup = some contents)
    (hreplace : ∀ s serial m, InstallInv sha256 i s → P s →
      s.world.files (.scratch serial) = some (.file contents m) →
      InstallInv sha256 i (s.moveFile i (.scratch serial) destination (.file contents m)) ∧
        Q (s.moveFile i (.scratch serial) destination (.file contents m))) :
    Survives sha256 i P (restoreOne backup destination ⟨digestOf sha256 contents, mode⟩)
      fun _ => Q := by
  refine Discipline.Triple.bind (sameArtifact_survives hsha backup contents) fun same => ?_
  refine Discipline.Triple.bind (M := fun _ => P) ?_ fun _ => ?_
  · exact Discipline.Triple.raiseIf (fun _ _ _ _ => trivial) fun _ s _ h => h.1
  refine Discipline.Triple.bind (M := fun _ => P) ?_ fun serial => ?_
  · exact ask_survives fun _ s hs hp => ⟨hs.tick _ _, htick s _ _ hp⟩
  refine Discipline.Triple.bind (M := fun _ s => P s ∧
    ∃ m, s.world.files (.scratch serial) = some (.file contents m)) (copy_survives ?_ ?_) fun _ => ?_
  · exact fun s node hs _ => hs.setFile (p := .scratch serial) rfl _
  · intro s found hs hp hfound m
    obtain rfl := Option.some.inj (hfound.symm.trans (hbackup s hs hp))
    exact ⟨hwrite s serial _ hp, m, by simp [InstallState.setFile, World.setFile]⟩
  · refine replace_survives ?_
    rintro s node hs ⟨hp, m, hfile⟩ hnode
    obtain rfl := Option.some.inj (hnode.symm.trans hfile)
    exact hreplace s serial m hs hp hfile

theorem restoreSdx_survives (ht : Mine sha256 i xs t) (hphase : t.phase.pendingValidation = true) :
    Survives sha256 i (fun s => AtHand xs t s ∧ s.restored = true) (restoreSdx t)
      fun _ s => AtHand xs t s ∧ s.restored = true := by
  have hsorted : t.liveSdx = .liveSdx i.id.base := by rw [Transaction.liveSdx, ht.id_eq]
  unfold restoreSdx
  rw [ht.ours.oldSdx, ht.ours.backupSdxPath, hsorted]
  cases hsome : i.sorted with
  -- without an old sorted index the live one is removed
  | none =>
      refine unlink_survives ?_
      rintro s hs ⟨hold, hrestored⟩
      refine ⟨hs.setRestored ht hold hphase rfl ?_ (.inl ?_) hrestored, ⟨hold.mine, hold.rest⟩, hrestored⟩
      · intro p _ _ hp
        simp [InstallState.setFile, World.setFile, hp]
      · simp [InstallState.setFile, World.setFile]
  -- with one, its backup is copied beside it and renamed
  | some x =>
      refine orRaise_survives rfl (restoreOne_survives hsha ?_ ?_ ?_ ?_)
      · exact fun s _ _ h => ⟨⟨h.1.mine, h.1.rest⟩, h.2⟩
      · exact fun s _ _ h => ⟨⟨h.1.mine, h.1.rest⟩, h.2⟩
      · exact fun s hs _ => hs.backupSdx x hsome
      · rintro s serial m hs ⟨hold, hrestored⟩ -
        have hrestored' : (s.moveFile i (.scratch serial) (.liveSdx i.id.base)
            (.file x.1 m)).restored = true := by
          simp [InstallState.moveFile, hrestored]
        refine ⟨hs.setRestored ht hold hphase rfl ?_ (.inl ?_) hrestored', ⟨hold.mine, hold.rest⟩,
          hrestored'⟩
        · intro p howns _ hp
          have hne : p ≠ .scratch serial := by
            rintro rfl
            exact absurd howns (by simp [Incident.owns])
          simp [InstallState.moveFile, World.setFile, hp, hne]
        · simp [InstallState.moveFile, World.setFile]

theorem rollback_survives (ht : Mine sha256 i xs t) (hphase : t.phase.pendingValidation = true)
    (reason : String) :
    Survives sha256 i (fun s => AtHand xs t s) (rollback reason t)
      fun _ s => ∀ x ∈ xs, x ∈ s.world.journal := by
  have hmine : Mine sha256 i xs { t with rolledBack := true, failureReason := reason } :=
    ⟨ht.id_eq, ⟨ht.ours.1, ht.ours.2, ht.ours.3, ht.ours.4, ht.ours.5, ht.ours.6, ht.ours.7⟩,
      ht.unresolved, ht.others⟩
  refine orRaise_survives ht.ours.backupIdxPath (orRaise_survives ht.ours.oldIdx ?_)
  refine Discipline.Triple.bind (M := fun _ s => AtHand xs t s ∧ s.restored = true)
    (restoreOne_survives hsha ?_ ?_ ?_ ?_) fun _ => ?_
  · exact fun s _ _ h => ⟨h.mine, h.rest⟩
  · exact fun s _ _ h => ⟨h.mine, h.rest⟩
  · exact fun s hs _ => hs.backupIdx
  · intro s serial m hs hold hfile
    have hlive : t.liveIdx = .liveIdx i.id.base := by rw [Transaction.liveIdx, ht.id_eq]
    rw [hlive]
    -- the rename of the scratch copy is the moment of the restore
    have hrestored : (s.moveFile i (.scratch serial) (.liveIdx i.id.base)
        (.file i.old m)).restored = true := by
      simp [InstallState.moveFile, RepairReq.restores, hfile]
    refine ⟨hs.setRestored ht hold hphase rfl ?_ (.inr ?_) hrestored, ⟨hold.mine, hold.rest⟩, hrestored⟩
    · intro p howns hp _
      have hne : p ≠ .scratch serial := by
        rintro rfl
        exact absurd howns (by simp [Incident.owns])
      simp [InstallState.moveFile, World.setFile, hp, hne]
    · simp [InstallState.live, InstallState.moveFile, World.contents, World.setFile, Node.read]
  refine Discipline.Triple.bind (restoreSdx_survives hsha ht hphase) fun _ => ?_
  refine Discipline.Triple.bind fsync_survives fun _ => ?_
  refine Discipline.Triple.bind (move_survives ht (fun at_ => hmine.moved (by simp) (by simp) at_)
    (fun _ _ _ _ h => h) fun _ _ _ _ h => h) fun t' => ?_
  refine Discipline.Triple.assume fun ht' => ?_
  exact Discipline.Triple.post (manual_survives ht'.1 reason) fun _ s _ h => h.2

end

end StorageNode.IndexRepair
