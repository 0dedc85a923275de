import StorageNode.IndexRepair.CrashRecovery
import StorageNode.Program.Machine

/-!
# Crash-safe installation

`installMachine` runs the operations that touch a transaction between `backup_created` and its
validation: the installation itself, `prepare_offline`, rollbacks and the reconciliation of resolved
work, in any order, each cut off at any of its requests. Validation hands the index over to SeaweedFS
and ends the installation.

`installation_survives_crashes` is the main result: the live index is always the old one or the
candidate, and whenever `prepare_offline` returns, an installation that had begun and was not rolled
back is complete.
-/

set_option autoImplicit false

namespace StorageNode.IndexRepair

open StorageNode.Program StorageNode.IndexHelper RepairProg

variable {D : Type} [DecidableEq D]

/-! ## Loops over the journal -/

/-- A loop over journaled transactions that satisfy `K`. Once the incident is not among those that
are left, `G` holds. -/
structure Pending (i : Incident) (K : Transaction D → Prop) (G : InstallState D → Prop)
    (xs : List (Transaction D)) (s : InstallState D) : Prop where
  rest : ∀ x ∈ xs, x ∈ s.world.journal
  nodup : (xs.map Transaction.id).Nodup
  all : ∀ x ∈ xs, K x
  done : (∀ x ∈ xs, x.id ≠ i.id) → G s

section

variable {sha256 : Bytes → D} {i : Incident} {K : Transaction D → Prop} {G : InstallState D → Prop}
  {body : Transaction D → RepairProg D Unit}

omit [DecidableEq D] in
/-- Requests for another transaction keep a loop on its way. -/
theorem Pending.elsewhere {x : Transaction D} {xs : List (Transaction D)} {s s' : InstallState D}
    (hG : ∀ id s s', id ≠ i.id → Elsewhere sha256 i id s s' → G s → G s') (hne : x.id ≠ i.id)
    (hx : x.id ∉ xs.map Transaction.id) (h : Pending i K G xs s)
    (hs : Elsewhere sha256 i x.id s s') : Pending i K G xs s' where
  rest y hy := hs.kept y (h.rest y hy) fun heq => hx (heq ▸ List.mem_map_of_mem hy)
  nodup := h.nodup
  all := h.all
  done hall := hG x.id s s' hne hs (h.done hall)

/-- One iteration of a loop. -/
theorem iteration_survives
    (hG : ∀ id s s', id ≠ i.id → Elsewhere sha256 i id s s' → G s → G s')
    (hours : ∀ t xs, K t → t.id = i.id → (∀ x ∈ xs, x.id ≠ i.id) →
      Survives sha256 i (AtHand xs t) (body t) fun _ s => G s ∧ ∀ x ∈ xs, x ∈ s.world.journal)
    (htheirs : ∀ t, K t → Theirs i t → (body t).Issues (Foreign i t.id))
    (x : Transaction D) (xs : List (Transaction D)) :
    Survives sha256 i (Pending i K G (x :: xs)) (body x) fun _ => Pending i K G xs := by
  intro s hs h
  obtain ⟨hx, hnodup⟩ := List.nodup_cons.1 h.nodup
  have hall : ∀ y ∈ xs, K y := fun y hy => h.all y (List.mem_cons_of_mem _ hy)
  have hrest : ∀ y ∈ xs, y ∈ s.world.journal := fun y hy => h.rest y (List.mem_cons_of_mem _ hy)
  by_cases hid : x.id = i.id
  -- this is the incident's own record; the rest of the list belongs to others
  · have hothers : ∀ y ∈ xs, y.id ≠ i.id := fun y hy heq =>
      hx (List.mem_map.2 ⟨y, hy, heq.trans hid.symm⟩)
    have hbody := Discipline.Triple.post (hours x xs (h.all x List.mem_cons_self) hid hothers)
      fun _ s _ hpost => (⟨hpost.2, hnodup, hall, fun _ => hpost.1⟩ : Pending i K G xs s)
    exact hbody s hs ⟨h.rest x List.mem_cons_self, hrest⟩
  -- a record of another incident, whose requests do not touch this one
  · have ht := hs.theirs x (h.rest x List.mem_cons_self) hid
    have hkeep : ∀ r s, Foreign i x.id r → InstallInv sha256 i s → Pending i K G xs s →
        (∀ c, InstallInv sha256 i (crashExec sha256 i r c s).2) ∧
          ∀ c, Pending i K G xs (crashExec sha256 i r c s).2 := fun r s hr hs hp =>
      ⟨fun c => (hs.foreign hr c).inv, fun c => hp.elsewhere hG hid hx (hs.foreign hr c)⟩
    have hbody := Discipline.Triple.of_issues (d := crashDiscipline sha256 i) (crash_stable _) hkeep
      (htheirs x (h.all x List.mem_cons_self) ht)
    have hpending : Pending i K G xs s := by
      refine ⟨hrest, hnodup, hall, fun hothers => h.done fun y hy => ?_⟩
      rcases List.mem_cons.1 hy with rfl | hy
      · exact hid
      · exact hothers y hy
    exact Discipline.Triple.mono hbody (fun _ _ h => h) (fun _ _ _ h => h) (fun _ _ _ _ => trivial)
      s hs hpending

theorem loop_survives
    (hG : ∀ id s s', id ≠ i.id → Elsewhere sha256 i id s s' → G s → G s')
    (hours : ∀ t xs, K t → t.id = i.id → (∀ x ∈ xs, x.id ≠ i.id) →
      Survives sha256 i (AtHand xs t) (body t) fun _ s => G s ∧ ∀ x ∈ xs, x ∈ s.world.journal)
    (htheirs : ∀ t, K t → Theirs i t → (body t).Issues (Foreign i t.id)) (xs : List (Transaction D)) :
    Survives sha256 i (Pending i K G xs) (Prog.forEach xs body) fun _ => G :=
  Discipline.Triple.post (Discipline.Triple.forEach (iteration_survives hG hours htheirs) xs)
    fun _ _ _ h => h.done fun _ hx => absurd hx List.not_mem_nil

end

/-! ## The operations -/

section

variable {sha256 : Bytes → D} {i : Incident}

/-- What `prepare_offline` achieves. -/
def Complete (i : Incident) (s : InstallState D) : Prop :=
  s.restored = false → Reached i s.world.log →
    ∃ t ∈ s.world.journal, t.id = i.id ∧ t.phase = .awaitingUpstreamValidation

omit [DecidableEq D] in
theorem Complete.elsewhere {id : TxId} {s s' : InstallState D} (hid : id ≠ i.id)
    (hs : Elsewhere sha256 i id s s') (h : Complete i s) : Complete i s' := by
  intro hrestored hreached
  obtain ⟨t, ht, htid, hphase⟩ := h (hs.restored ▸ hrestored) (hs.reached hreached)
  exact ⟨t, hs.kept t ht (htid ▸ hid.symm), htid, hphase⟩

omit [DecidableEq D] in
theorem Settled.complete {xs : List (Transaction D)} {s : InstallState D} (h : Settled i xs s) :
    Complete i s ∧ ∀ x ∈ xs, x ∈ s.world.journal :=
  ⟨fun _ _ => h.found, h.rest⟩

theorem prepareOne_survives (hsha : Function.Injective sha256) (t : Transaction D)
    (xs : List (Transaction D)) (hid : t.id = i.id) (hothers : ∀ x ∈ xs, x.id ≠ i.id) :
    Survives sha256 i (AtHand xs t) (prepareOne t) fun _ s =>
      Complete i s ∧ ∀ x ∈ xs, x ∈ s.world.journal := by
  intro s hs hold
  have hok := hs.phase t hold.mine hid
  have hmine : t.phase ≠ .resolvedWithoutInstall → Mine sha256 i xs t := fun hne =>
    ⟨hid, hs.ours t hold.mine hid, hne, hothers⟩
  -- where nothing was reached or the old index is back, there is nothing to complete
  have huntouched : Untouched i s → Complete i s := fun h _ hreached => absurd hreached h.unreached
  have hrestored : ∀ s : InstallState D, s.restored = true → Complete i s := fun s h hfalse =>
    absurd (h.symm.trans hfalse) (by simp)
  -- the phase of the record says where the crash cut the installation off
  unfold prepareOne
  cases hphase : t.phase <;> rw [hphase] at hok
  case installingCandidate =>
    exact Discipline.Triple.post (recoverInterruptedInstall_survives hsha
      (hmine (by simp [hphase])) hphase) (fun _ _ _ h => h.complete) s hs hold
  case candidateInstalled =>
    exact Discipline.Triple.post (validateInstalledArtifacts_survives hsha
      (hmine (by simp [hphase])) (by simp [hphase, Phase.pendingValidation]))
      (fun _ _ _ h => h.complete) s hs hold
  case awaitingUpstreamValidation =>
    exact Discipline.Triple.post (validateInstalledArtifacts_survives hsha
      (hmine (by simp [hphase])) (by simp [hphase, Phase.pendingValidation]))
      (fun _ _ _ h => h.complete) s hs hold
  case rolledBack =>
    have ht := hmine (by simp [hphase])
    have hmoved : ∀ at_, Mine sha256 i xs
        { t with phase := .manualInterventionRequired, updatedAt := at_ } :=
      fun at_ => ht.moved (by simp) (by simp) at_
    have hmove := move_survives (R := fun s => s.restored = true) ht hmoved (fun _ _ _ _ h => h)
      fun _ _ _ _ h => h
    exact Discipline.Triple.bind hmove (fun t' => Discipline.Triple.ret fun s _ h =>
      ⟨hrestored s h.2.2, h.2.1.rest⟩) s hs ⟨hold, hok⟩
  case backupCreated => exact ⟨hs, huntouched hok, hold.rest⟩
  case resolvedWithoutInstall => exact ⟨hs, huntouched hok, hold.rest⟩
  case manualInterventionRequired => exact ⟨hs, hrestored s hok, hold.rest⟩
  all_goals exact absurd hok id

/-- Whatever state a crash left, `prepare_offline` completes the installation. -/
theorem prepareOffline_survives (hsha : Function.Injective sha256) :
    Survives sha256 i (fun _ => True) prepareOffline fun _ => Complete i := by
  refine Discipline.Triple.bind fsync_survives fun _ => ?_
  refine Discipline.Triple.bind transactions_survives fun ts => ?_
  have hloop := loop_survives (i := i) (K := fun _ => True) (G := Complete i)
    (fun _ _ _ => Complete.elsewhere) (fun t xs _ => prepareOne_survives hsha t xs)
    (fun t _ ht => ht.prepareOne_issues) ts
  refine Discipline.Triple.bind (Discipline.Triple.pre hloop ?_) fun _ => ?_
  · rintro s hs ⟨-, rfl⟩
    refine ⟨fun _ hx => hx, hs.nodup, fun _ _ => trivial, fun hnone => ?_⟩
    obtain ⟨t, ht, hid⟩ := hs.present
    exact absurd hid (hnone t ht)
  · exact Discipline.Triple.bind awaiting_survives fun _ => Discipline.Triple.ret fun _ _ h => h.1

theorem rollbackRejected_survives (hsha : Function.Injective sha256) (volumeIds : List Int)
    (reason : String) :
    Survives sha256 i (fun _ => True) (rollbackRejected volumeIds reason) fun _ _ => True := by
  refine Discipline.Triple.bind awaiting_survives fun ts => ?_
  have hours : ∀ (t : Transaction D) xs, t.phase.pendingValidation = true → t.id = i.id →
      (∀ x ∈ xs, x.id ≠ i.id) → Survives sha256 i (AtHand xs t) (rollback reason t)
        fun _ s => True ∧ ∀ x ∈ xs, x ∈ s.world.journal := by
    intro t xs hphase hid hothers s hs hold
    have hopen : t.phase ≠ .resolvedWithoutInstall := by
      intro hp
      rw [hp] at hphase
      exact absurd hphase (by decide)
    exact Discipline.Triple.post (rollback_survives hsha ⟨hid, hs.ours t hold.mine hid, hopen, hothers⟩
      hphase reason) (fun _ _ _ h => ⟨trivial, h⟩) s hs hold
  have htheirs : ∀ t : Transaction D, t.phase.pendingValidation = true → Theirs i t →
      (rollback reason t).Issues (Foreign i t.id) := by
    intro t hphase ht
    have hmid : t.phase.midInstall = true := by
      revert hphase
      cases t.phase <;> simp [Phase.pendingValidation, Phase.midInstall]
    exact (⟨ht.id_ne, ht.paths, ht.apart hmid⟩ : Apart i t).rollback_issues reason
  refine Discipline.Triple.pre (loop_survives (G := fun _ => True) (fun _ _ _ _ _ h => h) hours htheirs _) ?_
  rintro s hs ⟨-, rfl⟩
  refine ⟨fun x hx => ?_, ?_, fun x hx => ?_, fun _ => trivial⟩
  · exact (List.mem_filter.1 (List.mem_filter.1 hx).1).1
  · exact hs.nodup.sublist ((List.filter_sublist.trans List.filter_sublist).map _)
  · simpa using (List.mem_filter.1 (List.mem_filter.1 hx).1).2

omit [DecidableEq D] in
/-- Closing a transaction that was not installed leaves the live index untouched. -/
theorem Untouched.save {s : InstallState D} (h : Untouched i s) (kind : SaveKind) {t : Transaction D}
    (hphase : t.phase.midInstall = false) : Untouched i (s.save kind t) := by
  refine ⟨h.live, h.restored, ?_⟩
  rintro ⟨k, u, hu, hid, hmid⟩
  rcases List.mem_cons.1 hu with heq | hu
  · cases heq
    exact absurd (hmid.symm.trans hphase) (by simp)
  · exact h.unreached ⟨k, u, hu, hid, hmid⟩

omit [DecidableEq D] in
/-- The staging directory of a closed transaction may go. -/
theorem InstallInv.dropStaging {s : InstallState D} (h : InstallInv sha256 i s) {t : Transaction D}
    (ht : t ∈ s.world.journal) (hid : t.id = i.id) (hphase : t.phase = .resolvedWithoutInstall) :
    InstallInv sha256 i (s.setFile (.candidate i.id) none) where
  nodup := h.nodup
  present := h.present
  ours := h.ours
  theirs := h.theirs
  phase u hu huid := (h.phase u hu huid).congr rfl (by simp [InstallState.setFile, World.setFile])
    (by simp [InstallState.setFile, World.setFile]) fun h => h
  staged u hu huid hopen := by
    obtain rfl := h.unique hu ht (huid.trans hid.symm)
    exact absurd hphase hopen
  live := by
    have hsame : (s.setFile (.candidate i.id) none).live i = s.live i :=
      World.contents_congr (by simp [InstallState.setFile, World.setFile])
    rw [hsame]
    exact h.live
  backupIdx := (World.contents_congr (by simp [InstallState.setFile, World.setFile])).trans h.backupIdx
  backupSdx x hx := (World.contents_congr (by simp [InstallState.setFile, World.setFile])).trans
    (h.backupSdx x hx)

theorem closeResolved_survives {xs : List (Transaction D)} {t : Transaction D}
    (ht : Mine sha256 i xs t) (hphase : t.phase = .backupCreated) :
    Survives sha256 i (AtHand xs t)
      ((transition t .resolvedWithoutInstall).bind fun t =>
        Prog.when (t.staging = .of t.id) (removeStaging t.id))
      fun _ s => True ∧ ∀ x ∈ xs, x ∈ s.world.journal := by
  refine Discipline.Triple.bind (M := fun t' s => (t'.id = i.id ∧ t'.phase = .resolvedWithoutInstall) ∧
    t' ∈ s.world.journal ∧ ∀ x ∈ xs, x ∈ s.world.journal) (transition_survives ?_) fun t' => ?_
  · intro s at_ hs hold
    have huntouched : Untouched i s := by
      have hok := hs.phase_of ht hold
      rw [hphase] at hok
      exact hok
    have hours : Ours sha256 i { t with phase := .resolvedWithoutInstall, updatedAt := at_ } :=
      ⟨ht.ours.1, ht.ours.2, ht.ours.3, ht.ours.4, ht.ours.5, ht.ours.6, fun hp => absurd hp (by simp)⟩
    refine ⟨hs.save ht.id_eq hours (huntouched.save _ rfl) (hs.candidate_of ht hold), ?_⟩
    refine fun clock serial => ⟨⟨ht.id_eq, rfl⟩, mem_saveTransaction.2 (.inr rfl), fun x hx => ?_⟩
    exact mem_saveTransaction.2 (.inl ⟨hold.rest x hx, ht.id_eq ▸ ht.others x hx⟩)
  · refine Discipline.Triple.assume fun ⟨hid, hresolved⟩ => ?_
    rw [hid]
    refine Discipline.Triple.when (fun _ => ?_) fun _ _ _ h => ⟨trivial, h.2⟩
    exact ask_survives fun _ s hs h => ⟨hs.dropStaging h.1 hid hresolved, trivial, h.2⟩

theorem reconcileResolvedPreinstall_survives (resolved : Int → Bool) :
    Survives sha256 i (fun _ => True) (reconcileResolvedPreinstall resolved) fun _ _ => True := by
  refine Discipline.Triple.bind transactions_survives fun ts => ?_
  refine Discipline.Triple.pre (loop_survives (K := fun _ => True) (G := fun _ => True)
    (fun _ _ _ _ _ h => h) ?_ ?_ ts) ?_
  · intro t xs _ hid hothers s hs hold
    refine Discipline.Triple.when ?_ (fun _ _ _ h => ⟨trivial, h.rest⟩) s hs hold
    rintro ⟨hpreinstall, -⟩
    have hphase : t.phase = .backupCreated := by
      have hok := hs.phase t hold.mine hid
      revert hpreinstall hok
      cases t.phase <;> simp [Phase.preinstall, PhaseOk]
    have hmine : Mine sha256 i xs t := ⟨hid, hs.ours t hold.mine hid, by simp [hphase], hothers⟩
    exact closeResolved_survives hmine hphase
  · intro t _ ht
    refine Prog.Issues.when (issues_transition_bind ?_ fun at_ =>
      Prog.Issues.when ((Prog.issues_ask _).2 ht.id_ne))
    exact fun at_ => ⟨ht.id_ne, ht.paths, fun hp => absurd hp Bool.false_ne_true⟩
  · rintro s hs ⟨-, rfl⟩
    exact ⟨fun _ hx => hx, hs.nodup, fun _ _ => trivial, fun _ => trivial⟩

end

/-! ## Runs -/

/-- A transaction that has just been journaled as `backup_created`: the live index is the old one, the
candidate is staged, and the backups are made. -/
structure BackedUp (sha256 : Bytes → D) (i : Incident) (s : InstallState D) : Prop where
  nodup : (s.world.journal.map Transaction.id).Nodup
  record : ∃ t ∈ s.world.journal, t.id = i.id ∧ t.phase = .backupCreated ∧ Ours sha256 i t
  theirs : ∀ t ∈ s.world.journal, t.id ≠ i.id → Theirs i t
  untouched : Untouched i s
  candidate : s.world.contents (.candidate i.id) = some i.candidate
  backupIdx : s.world.contents (.backupIdx i.id) = some i.old
  backupSdx : ∀ x, i.sorted = some x → s.world.contents (.backupSdx i.id) = some x.1

/-- The operations on the transaction. An installation starts from a journaled `backup_created`, in the
repair that made the backups or in a later one. -/
inductive InstallOperation (i : Incident) (s : InstallState D) : RepairProg D Unit → Prop
  | installCandidate (t : Transaction D) (ht : t ∈ s.world.journal) (hid : t.id = i.id)
      (hphase : t.phase = .backupCreated) : InstallOperation i s (installCandidate t)
  | prepareOffline : InstallOperation i s prepareOffline
  | rollbackRejected (volumeIds : List Int) (reason : String) :
      InstallOperation i s (rollbackRejected volumeIds reason)
  | reconcile (resolved : Int → Bool) : InstallOperation i s (reconcileResolvedPreinstall resolved)

/-- Operations follow each other, and each may end anywhere. -/
def installMachine (sha256 : Bytes → D) (i : Incident) :
    Machine (RepairReq D) RepairReq.Ans (RepairExc D) (InstallState D) (RepairChoice D) where
  exec := crashExec sha256 i
  start := InstallOperation i
  stop _ := True
  meanwhile _ _ := False
  idle _ _ := False

/-- A complete installation: the candidate is live without a sorted index, it is journaled as awaiting
validation, and the backups are the old files. -/
structure Installed (sha256 : Bytes → D) (i : Incident) (s : InstallState D) : Prop where
  replaced : Replaced i s
  awaiting : ∃ t ∈ s.world.journal, t.id = i.id ∧ t.phase = .awaitingUpstreamValidation ∧
    t.candidateIdx = some (digestOf sha256 i.candidate) ∧ Backed sha256 s.world t
  backupIdx : s.world.contents (.backupIdx i.id) = some i.old
  backupSdx : ∀ x, i.sorted = some x → s.world.contents (.backupSdx i.id) = some x.1

section

variable {sha256 : Bytes → D} {i : Incident} {s : InstallState D}

omit [DecidableEq D] in
theorem BackedUp.inv (h : BackedUp sha256 i s) : InstallInv sha256 i s := by
  obtain ⟨t, ht, hid, hphase, hours⟩ := h.record
  have hunique : ∀ u ∈ s.world.journal, u.id = i.id → u = t := fun u hu huid =>
    List.inj_on_of_nodup_map h.nodup hu ht (huid.trans hid.symm)
  refine ⟨h.nodup, ⟨t, ht, hid⟩, ?_, h.theirs, ?_, fun _ _ _ _ => h.candidate, .inl h.untouched.live,
    h.backupIdx, h.backupSdx⟩
  · exact fun u hu huid => hunique u hu huid ▸ hours
  · intro u hu huid
    rw [hunique u hu huid, hphase]
    exact h.untouched

omit [DecidableEq D] in
theorem InstallInv.installed (h : InstallInv sha256 i s) (hcomplete : Complete i s)
    (hrestored : s.restored = false) (hreached : Reached i s.world.log) : Installed sha256 i s := by
  obtain ⟨t, ht, hid, hphase⟩ := hcomplete hrestored hreached
  have hok := h.phase t ht hid
  have hours := h.ours t ht hid
  rw [hphase] at hok
  refine ⟨hok hrestored, ⟨t, ht, hid, hphase, hours.candidateIdx, ?_⟩, h.backupIdx, h.backupSdx⟩
  refine ⟨_, hours.oldIdx, by simp [fileDigest, hid, h.backupIdx], fun sorted hsorted => ?_⟩
  rw [hours.oldSdx] at hsorted
  obtain ⟨x, hx, rfl⟩ := Option.map_eq_some_iff.1 hsorted
  simp [fileDigest, hid, h.backupSdx x hx]

theorem installMachine_follows (hsha : Function.Injective sha256) :
    (installMachine sha256 i).Follows (crashDiscipline sha256 i) fun _ => True where
  meanwhile _ _ _ := False.elim
  rest_meanwhile _ _ _ _ := False.elim
  idle _ _ _ _ := False.elim
  stop _ _ _ := trivial
  start s p hs _ hp := by
    cases hp with
    | installCandidate t ht hid hphase =>
        have hmine : Mine sha256 i [] t :=
          ⟨hid, hs.ours t ht hid, by simp [hphase], fun _ hx => absurd hx List.not_mem_nil⟩
        exact Discipline.Triple.post (installCandidate_survives hsha hmine (.inl hphase))
          (fun _ _ _ _ => trivial) s hs ⟨ht, fun _ hx => absurd hx List.not_mem_nil⟩
    | prepareOffline =>
        exact Discipline.Triple.post (prepareOffline_survives hsha) (fun _ _ _ _ => trivial) s hs trivial
    | rollbackRejected volumeIds reason =>
        exact rollbackRejected_survives hsha volumeIds reason s hs trivial
    | reconcile resolved => exact reconcileResolvedPreinstall_survives resolved s hs trivial

end

/-- From `backup_created` on and across any number of crashes, the live index is the old index or the
candidate; and whenever `prepare_offline` returns, an installation that had begun and was not rolled
back is complete. -/
theorem installation_survives_crashes (sha256 : Bytes → D) (hsha : Function.Injective sha256)
    (i : Incident) (start : InstallState D) (hstart : BackedUp sha256 i start) :
    (∀ x, (installMachine sha256 i).Reachable start x →
      x.state.live i = some i.old ∨ x.state.live i = some i.candidate) ∧
    ∀ s, (installMachine sha256 i).Reachable start ⟨s, none⟩ →
      ∀ cs s', prepareOffline.run (crashExec sha256 i) cs s = (.ok (), s') →
        Reached i s'.world.log → s'.restored = false → Installed sha256 i s' := by
  -- every step of the machine keeps the invariant of the installation
  have hsound : ∀ x, (installMachine sha256 i).Reachable start x → InstallInv sha256 i x.state :=
    fun x hx => ((installMachine_follows hsha).reachable hstart.inv trivial hx).inv
  refine ⟨fun x hx => (hsound x hx).live, fun s hs cs s' hrun hreached hrestored => ?_⟩
  -- the next preparation finishes what it finds, whatever a crash left behind
  have hsafe := prepareOffline_survives (i := i) hsha s (hsound _ hs) trivial
  have hend := Safe.run_outcome (fun s => (crashDiscipline sha256 i).disturbs_refl s) cs hsafe
  rw [hrun] at hend
  exact hend.1.installed hend.2 hrestored hreached

/-! A volume with one-byte files on which a crash can be run. The digest of a file is the file itself. -/

namespace CrashSample

def incident : Incident := ⟨⟨⟨"", 1⟩, 0⟩, [1], 0o644, some ([3], 0o644), [2]⟩

def record : Transaction Bytes where
  id := incident.id
  identity := ⟨"", "", "", 1⟩
  sourceFingerprint := .unavailable ⟨"", "", "", 1⟩
  attemptCount := 1
  updatedAt := 0
  phase := .backupCreated
  oldIdx := some ⟨⟨1, [1]⟩, 0o644⟩
  oldSdx := some ⟨⟨1, [3]⟩, 0o644⟩
  candidatePath := some (.candidate incident.id)
  candidateIdx := some ⟨1, [2]⟩
  backupIdxPath := some (.backupIdx incident.id)
  backupSdxPath := some (.backupSdx incident.id)

def files : Path → Option Node
  | .liveIdx _ => some (.file [1] 0o644)
  | .liveSdx _ => some (.file [3] 0o644)
  | .candidate _ => some (.file [2] 0o644)
  | .backupIdx _ => some (.file [1] 0o644)
  | .backupSdx _ => some (.file [3] 0o644)
  | _ => none

def start : InstallState Bytes := ⟨{ journal := [record], files := files }, false⟩

/-- The installation is killed after it has replaced the live index. -/
def killed : InstallState Bytes :=
  (installCandidate record).after (crashExec id incident) (List.replicate 7 {}) start

/-- The next `prepare_offline` then runs to its end. -/
def recovered : Outcome (RepairExc Bytes) Unit × InstallState Bytes :=
  prepareOffline.run (crashExec id incident) (List.replicate 20 {}) killed

/-- A record of the incident in a phase of the installation. -/
def isMidInstall : Event Bytes → Bool
  | .saved _ t => t.id = incident.id && t.phase.midInstall
  | _ => false

end CrashSample

/-- A kill between the replacement of the index and the removal of the sorted index. -/
theorem installation_survives_crashes_after_replacement :
    (installMachine id CrashSample.incident).Reachable CrashSample.start ⟨CrashSample.killed, none⟩ ∧
      Node.isFile (CrashSample.killed.world.files (.liveSdx ⟨"", 1⟩)) = true ∧
      Installed id CrashSample.incident CrashSample.recovered.2 := by
  have hstart : BackedUp id CrashSample.incident CrashSample.start := by
    refine ⟨by simp [CrashSample.start], ⟨CrashSample.record, by simp [CrashSample.start], rfl, rfl, ?_⟩,
      ?_, ⟨rfl, rfl, ?_⟩, rfl, rfl, ?_⟩
    · exact ⟨rfl, rfl, rfl, rfl, rfl, rfl, fun h => absurd h (by decide)⟩
    · intro t ht hne
      obtain rfl := List.mem_singleton.1 ht
      exact absurd rfl hne
    · rintro ⟨kind, t, ht, -⟩
      exact absurd ht List.not_mem_nil
    · intro x hx
      obtain rfl := Option.some.inj hx
      rfl
  -- the thread starts and is killed after seven requests
  have hbegun : (installMachine id CrashSample.incident).Reachable CrashSample.start
      ⟨CrashSample.start, some (installCandidate CrashSample.record)⟩ :=
    .single (.start _ _ (.installCandidate _ (List.mem_singleton.2 rfl) rfl rfl))
  have hkilled : (installMachine id CrashSample.incident).Reachable CrashSample.start
      ⟨CrashSample.killed, none⟩ :=
    (Machine.Reachable.run (List.replicate 7 {}) hbegun).tail (.stop _ _ trivial)
  have hrun : CrashSample.recovered = (.ok (), CrashSample.recovered.2) := rfl
  -- the second run passed the installing phase: its log is evaluated
  have hreached : Reached CrashSample.incident CrashSample.recovered.2.world.log := by
    have hsaved : CrashSample.recovered.2.world.log.any CrashSample.isMidInstall = true := by
      decide +kernel
    obtain ⟨e, he, hmatch⟩ := List.any_eq_true.1 hsaved
    cases e with
    | saved kind t =>
        simp only [CrashSample.isMidInstall, Bool.and_eq_true, decide_eq_true_eq] at hmatch
        exact ⟨kind, t, he, hmatch.1, hmatch.2⟩
    | _ => exact absurd hmatch (by simp [CrashSample.isMidInstall])
  refine ⟨hkilled, rfl, ?_⟩
  exact (installation_survives_crashes id Function.injective_id CrashSample.incident CrashSample.start
    hstart).2 _ hkilled _ _ hrun hreached rfl

end StorageNode.IndexRepair
