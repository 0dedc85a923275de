import StorageNode.IndexRepair.JournalContract

/-!
# Contracts of installation, backup and rollback

The contracts of the programs that move files: `installCandidate` and `recoverInterruptedInstall`
replace the live index only under `InstallOk`, and `createBackups` reaches `backup_created` only with
verified backups on disk. `prepareOffline`, `rollbackRejected`, `validateUpstream` and
`reconcileResolvedPreinstall` follow, by a loop over the transactions that are left.
-/

set_option autoImplicit false

namespace StorageNode.IndexRepair

open StorageNode.Program StorageNode.IndexHelper RepairProg

variable {D : Type} [DecidableEq D] {sha256 : Bytes → D} {clean tidy : Prop}

omit [DecidableEq D] in
theorem ne_manual_of_open {t : Transaction D} (h : t.phase.terminal = false) :
    t.phase ≠ .manualInterventionRequired := by
  intro hp
  rw [hp] at h
  exact absurd h (by decide)

omit [DecidableEq D] in
theorem open_of_backed {phase : Phase} (h : phase.backed = true) : phase.terminal = false := by
  revert h
  cases phase <;> simp [Phase.backed, Phase.terminal]

/-! ## Installation -/

/-- A transition between two phases with verified backups. -/
theorem backed_transition_obeys {K : World D → Prop} {t u : Transaction D} (hK : Carried u.id K)
    (hu : u.phase.backed = true) (hkeep : KeepsRecord u t) (hcandidate : t.candidateIdx = u.candidateIdx)
    (hidentical : t.candidateIdenticalAfterTailRecovery = u.candidateIdenticalAfterTailRecovery) (hold : t.oldIdx = u.oldIdx)
    (hsorted : t.oldSdx = u.oldSdx) (hpaths : PathsOk u → PathsOk t) {phase : Phase}
    (hphase : phase.backed = true) {R : World D → Prop} (hR : Steady R)
    (hRsave : ∀ w t', R w → R (w.saveRecord .transition t')) :
    Obeys sha256 clean tidy (fun w => u ∈ w.journal ∧ R w ∧ K w) (transition t phase)
      fun t' w => (t'.id = t.id ∧ t'.phase = phase ∧ t'.candidateIdx = t.candidateIdx) ∧
        t' ∈ w.journal ∧ R w ∧ K w := by
  have hopen : u.phase.terminal = false := by
    revert hu
    cases u.phase <;> simp [Phase.backed, Phase.terminal]
  have hnotUnbuilt : phase.unbuilt = false ∧ phase ≠ .candidateBuilt := by
    revert hphase
    cases phase <;> simp [Phase.backed, Phase.unbuilt]
  -- the save is permitted field by field from the record as it was
  refine transition_obeys ((Steady.saved (ne_manual_of_open hopen)).and (hR.and hK.steady)) ?_ ?_
  · rintro w at_ hw ⟨hmem, -, -⟩
    refine permit_transition hw hmem hopen ⟨hkeep.1, hkeep.2, hkeep.3, hkeep.4, hkeep.5, hkeep.6⟩ ?_ ?_ ?_
      (hpaths (hw.records.paths u hmem)) ?_ ?_
    · intro d hd
      have := hw.records.proven u hmem d (hcandidate ▸ hd)
      rwa [← hkeep.id, ← hkeep.source] at this
    · intro _
      obtain ⟨d, o, hd, ho, hne⟩ := hw.records.differs u hmem (by simp [Phase.proven, hu])
      exact ⟨d, o, hcandidate.trans hd, hold.trans ho, by rwa [← hidentical] at hne⟩
    · intro _
      obtain ⟨o, ho, hidx, hsdx⟩ := hw.records.backed u hmem hu
      refine ⟨o, hold.trans ho, ?_, fun s hs => ?_⟩
      · rw [← hidx, ← hkeep.id]
      · rw [← hsdx s (hsorted ▸ hs), ← hkeep.id]
    · exact fun _ hp => absurd hp (by simp [hnotUnbuilt.1])
    · exact fun _ hp => absurd hp hnotUnbuilt.2
  · rintro w at_ - ⟨-, hr, hk⟩
    exact ⟨⟨rfl, rfl, rfl⟩, by simp [World.saveRecord], hRsave w _ hr, hK.save w _ _ hkeep.id hk⟩

theorem removeStaleSdx_obeys {K : World D → Prop} {t : Transaction D} (hK : FileFree K) :
    Obeys sha256 clean tidy K (removeStaleSdx t) fun _ => K := by
  unfold removeStaleSdx
  simp only [Prog.bind_eq]
  refine Obeys.bind (unlink_obeys hK.steady (fun w _ => writeOk_of_not_backup fun _ => rfl)
    fun w hk => hK.setFile w _ _ hk) fun _ => fsyncDirectory_obeys hK.steady

theorem recordInstalled_obeys {K : World D → Prop} {t : Transaction D} (hK : Carried t.id K)
    (hphase : t.phase.backed = true) :
    Obeys sha256 clean tidy (fun w => t ∈ w.journal ∧ K w) (recordInstalled t) fun _ => K := by
  unfold recordInstalled
  simp only [Prog.bind_eq, Prog.pure_eq]
  refine Obeys.bind (Obeys.pre (backed_transition_obeys hK hphase ⟨rfl, rfl, rfl, rfl, rfl, rfl⟩ rfl rfl rfl
    rfl id rfl (Steady.const True) fun _ _ h => h) fun w _ h => ⟨h.1, trivial, h.2⟩) fun t' => ?_
  refine Obeys.assume fun hfacts => ?_
  have hK' : Carried t'.id K := hfacts.1 ▸ hK
  have hphase' : t'.phase.backed = true := by
    rw [hfacts.2.1]
    rfl
  refine Obeys.bind (backed_transition_obeys hK' hphase' ⟨rfl, rfl, rfl, rfl, rfl, rfl⟩ rfl rfl rfl rfl id
    rfl (Steady.const True) fun _ _ h => h) fun _ => Obeys.ret fun w _ h => h.2.2.2

/-- A temporary file that is found usable has the expected digest. -/
theorem usableTemporary_obeys {P : World D → Prop} (hP : Steady P) (p : Path) (digest : Digest D)
    (absent : Bool) :
    Obeys sha256 clean tidy P (usableTemporary p (some digest) absent) fun usable w => P w ∧
      (usable = true → fileDigest sha256 w p = some digest ∨
        absent = true ∧ Node.isFile (w.files p) = false) := by
  unfold usableTemporary
  simp only [Prog.bind_eq, Prog.pure_eq]
  refine (node_obeys hP p).bind fun found => Obeys.ite (fun _ => ?_) fun habsent => ?_
  · refine Obeys.pre (Obeys.post (sameArtifact_obeys hP p _) fun usable w _ h => ?_) fun w _ h => h.1
    exact ⟨h.1, fun husable => .inl (h.2 digest rfl husable)⟩
  · refine Obeys.ret fun w _ h => ⟨h.1, fun husable => .inr ⟨husable, ?_⟩⟩
    rw [h.2]
    simpa using habsent

omit [DecidableEq D] in
/-- A change of another file keeps a digest. -/
theorem fileDigest_setFile {w : World D} {p q : Path} {node : Option Node} (h : p ≠ q) :
    fileDigest sha256 (w.setFile q node) p = fileDigest sha256 w p := by
  simp [fileDigest, World.contents, World.setFile, h]

omit [DecidableEq D] in
/-- A copy that reports success has the contents of its source. -/
theorem copied_of_true {c : RepairChoice D} {w : World D} {p q : Path} {mode : Option Nat}
    {d : Digest D} (hd : fileDigest sha256 w p = some d) (h : (copied c w p q mode).1 = true) :
    ∃ node, (copied c w p q mode).2 = w.setFile q (some node) ∧
      fileDigest sha256 (w.setFile q (some node)) q = some d := by
  simp only [fileDigest, World.contents, Option.map_map] at hd
  obtain ⟨x, hx, hdigest⟩ := Option.map_eq_some_iff.1 hd
  cases hq : w.files q with
  | some node => simp [copied, hx, hq] at h
  | none =>
      cases hfault : c.fault with
      | before => simp [copied, hx, hq, hfault] at h
      | after => simp [copied, hx, hq, hfault] at h
      | none =>
          refine ⟨.file x.1 (mode.getD x.2), by simp [copied, hx, hq, hfault], ?_⟩
          simpa [fileDigest, World.contents, World.setFile, Node.read] using hdigest

/-- After `stageTemporary` the temporary file has the digest of the candidate. -/
theorem stageTemporary_obeys {K : World D → Prop} {t : Transaction D} (hK : FileFree K)
    {digest : Digest D} :
    Obeys sha256 clean tidy
      (fun w => fileDigest sha256 w (.candidate t.id) = some digest ∧ K w)
      (stageTemporary t (.candidate t.id) digest)
      fun _ w => fileDigest sha256 w (.installing t.id) = some digest ∧ K w := by
  have hP : Steady fun w => fileDigest sha256 w (.candidate t.id) = some digest ∧ K w :=
    Steady.fileDigest.and hK.steady
  -- a temporary file that is present is either verified or removed
  have hready : Steady fun w => fileDigest sha256 w (.installing t.id) = some digest ∨
      Node.isFile (w.files (.installing t.id)) = false :=
    ⟨fun w w' hi h => by simpa only [fileDigest, World.contents, hi.files] using h, fun _ _ h => h⟩
  unfold stageTemporary
  simp only [Prog.bind_eq]
  refine (usableTemporary_obeys hP _ digest true).bind fun usable => ?_
  refine Obeys.bind (M := fun _ w => (fileDigest sha256 w (.candidate t.id) = some digest ∧ K w) ∧
    (fileDigest sha256 w (.installing t.id) = some digest ∨
      Node.isFile (w.files (.installing t.id)) = false)) ?_ fun _ => ?_
  · refine Obeys.when (fun _ => ?_) fun husable w _ h => ⟨h.1, ?_⟩
    · refine Obeys.pre (unlink_obeys hP (fun w _ => writeOk_of_not_backup fun _ => rfl)
        fun w h => ⟨⟨?_, hK.setFile w _ _ h.2⟩, .inr ?_⟩) fun w _ h => h.1
      · rw [fileDigest_setFile (by simp)]
        exact h.1
      · simp [World.setFile, Node.isFile]
    · exact (h.2 (by simpa using husable)).imp_right And.right
  refine (node_obeys (hP.and hready) _).bind fun found => ?_
  refine Obeys.when (fun _ => ?_) fun hpresent w _ h => ⟨?_, h.1.1.2⟩
  · refine Obeys.bind (M := fun _ w => fileDigest sha256 w (.candidate t.id) = some digest ∧ K w)
      (Obeys.orRaise fun old _ w _ h => h.1.1) fun old => ?_
    refine Obeys.must (Obeys.ask hP (fun w _ _ => writeOk_of_not_backup fun _ => rfl)
      fun c w _ h hok => ?_)
    obtain ⟨node, hw, hdigest⟩ := copied_of_true h.1 hok
    rw [show (repairExec sha256 (.copy (.candidate t.id) (.installing t.id) (some old.mode)) c w).2 =
      w.setFile (.installing t.id) (some node) from hw]
    exact ⟨hdigest, hK.setFile w _ _ h.2⟩
  · refine h.1.2.resolve_right fun habsent => ?_
    rw [h.2] at habsent
    simp [habsent] at hpresent

/-- The replacement of the live index by a verified temporary file. -/
theorem replaceLive_obeys {K : World D → Prop} {t : Transaction D} (hK : FileFree K)
    (hphase : t.phase = .installingCandidate) {digest : Digest D} (hdigest : t.candidateIdx = some digest) :
    Obeys sha256 clean tidy
      (fun w => t ∈ w.journal ∧ fileDigest sha256 w (.installing t.id) = some digest ∧ K w)
      (must (tryReplace (.installing t.id) t.liveIdx)) fun _ w => t ∈ w.journal ∧ K w := by
  have hP : Steady fun w : World D =>
      t ∈ w.journal ∧ fileDigest sha256 w (.installing t.id) = some digest ∧ K w :=
    (Steady.saved (by simp [hphase])).and (Steady.fileDigest.and hK.steady)
  refine Obeys.must (Obeys.ask hP (fun w _ h => ⟨?_, ?_, ?_⟩) fun c w _ h hok => ?_)
  · exact writeOk_of_not_backup fun _ => rfl
  · exact writeOk_of_not_backup fun _ => rfl
  · intro base hdestination
    exact .inr ⟨t.id, rfl, (Path.liveIdx.inj hdestination).symm, t, h.1, rfl, hphase, digest, hdigest,
      h.2.1⟩
  · cases hfile : w.files (.installing t.id) with
    | none => simp [repairExec, hfile] at hok
    | some node =>
        simp only [repairExec, hfile] at hok ⊢
        rw [attempted_of_true hok]
        exact ⟨h.1, hK.setFile _ _ _ (hK.setFile _ _ _ h.2.2)⟩

theorem installCandidate_obeys {K : World D → Prop} {t : Transaction D} (hK : Carried t.id K)
    (hphase : t.phase.backed = true) :
    Obeys sha256 clean tidy (fun w => t ∈ w.journal ∧ K w) (installCandidate t) fun _ => K := by
  have hopen := open_of_backed hphase
  have hP := hK.toFileFree.saved (ne_manual_of_open hopen)
  unfold installCandidate
  simp only [Prog.bind_eq]
  refine Obeys.bind (M := fun candidate w => candidate = .candidate t.id ∧ t ∈ w.journal ∧ K w)
    (Obeys.orRaise fun p hp w hw h => ⟨(hw.records.paths t h.1).1 p hp, h⟩) fun candidate => ?_
  refine Obeys.assume fun hcandidate => ?_
  subst hcandidate
  refine Obeys.bind (M := fun digest w => t.candidateIdx = some digest ∧ t ∈ w.journal ∧ K w)
    (Obeys.orRaise fun digest hd w _ h => ⟨hd, h⟩) fun digest => Obeys.assume fun hdigest => ?_
  -- the staged candidate is read again before it is used
  refine (sameArtifact_obeys hP.steady _ _).bind fun intact => ?_
  refine Obeys.bind (M := fun _ w => fileDigest sha256 w (.candidate t.id) = some digest ∧
    t ∈ w.journal ∧ K w) (Obeys.when (fun _ => manual_raise_obeys hopen fun w h hw =>
      holding_of_mem hw h.1.1) fun hintact w _ h => ⟨h.2 digest rfl (by simpa using hintact), h.1⟩)
    fun _ => ?_
  -- the journal names the temporary copy before the rename onto the live index
  refine (stageTemporary_obeys hP).bind fun _ => ?_
  refine Obeys.bind (Obeys.pre (backed_transition_obeys
    (t := { t with installTempPath := some (.installing t.id) }) hK hphase
    ⟨rfl, rfl, rfl, rfl, rfl, rfl⟩ rfl rfl rfl rfl
    (fun h => ⟨h.1, fun p hp => (Option.some.inj hp).symm, h.2.2⟩)
    rfl (Steady.fileDigest (p := .installing t.id) (d := digest)) fun _ _ h => h)
    fun w _ h => ⟨h.2.1, h.1, h.2.2⟩) fun t' => Obeys.assume fun hfacts => ?_
  obtain ⟨hid, hphase', hcandidate⟩ := hfacts
  have hid : t'.id = t.id := hid
  have hK' : Carried t'.id K := hid ▸ hK
  have hbacked : t'.phase.backed = true := by
    rw [hphase']
    rfl
  have hP' := hK'.toFileFree.saved (ne_manual_of_open (open_of_backed hbacked))
  rw [← hid]
  refine (replaceLive_obeys hK'.toFileFree hphase' (hcandidate.trans hdigest)).bind fun _ => ?_
  refine (removeStaleSdx_obeys hP').bind fun _ => ?_
  refine (fsyncDirectory_obeys hP'.steady).bind fun _ => ?_
  -- what was installed is read back
  refine (sameArtifact_obeys hP'.steady _ _).bind fun installed => ?_
  exact Obeys.bind (M := fun _ w => t' ∈ w.journal ∧ K w) (Obeys.raiseIf fun _ w _ h => h.1)
    fun _ => recordInstalled_obeys hK' hbacked

theorem resumeInstall_obeys {K : World D → Prop} {t : Transaction D} (hK : Carried t.id K)
    (hphase : t.phase = .installingCandidate) {digest : Digest D}
    (hdigest : t.candidateIdx = some digest) :
    Obeys sha256 clean tidy (fun w => t ∈ w.journal ∧ K w) (resumeInstall t (.installing t.id))
      fun _ => K := by
  have hbacked : t.phase.backed = true := by
    rw [hphase]
    rfl
  have hP := hK.toFileFree.saved (ne_manual_of_open (open_of_backed hbacked))
  unfold resumeInstall
  simp only [Prog.bind_eq, hdigest]
  refine (usableTemporary_obeys hP.steady _ digest false).bind fun usable => ?_
  refine Obeys.ite (fun husable => ?_) fun _ => ?_
  · refine Obeys.bind (Obeys.pre (replaceLive_obeys hK.toFileFree hphase hdigest) fun w _ h => ?_)
      fun _ => ?_
    · exact ⟨h.1.1, (h.2 husable).resolve_right (by simp), h.1.2⟩
    · refine (removeStaleSdx_obeys hP).bind fun _ => ?_
      refine (fsyncDirectory_obeys hP.steady).bind fun _ => recordInstalled_obeys hK hbacked
  · refine Obeys.bind (Obeys.pre (unlink_obeys hP.steady (fun w _ => writeOk_of_not_backup fun _ => rfl)
      fun w h => hP.setFile w _ _ h) fun w _ h => h.1) fun _ => installCandidate_obeys hK hbacked

theorem recoverInterruptedInstall_obeys {K : World D → Prop} {t : Transaction D}
    (hK : Carried t.id K) (hphase : t.phase = .installingCandidate) :
    Obeys sha256 clean tidy (fun w => t ∈ w.journal ∧ K w) (recoverInterruptedInstall t)
      fun _ => K := by
  have hbacked : t.phase.backed = true := by
    rw [hphase]
    rfl
  have hopen := open_of_backed hbacked
  have hP := hK.toFileFree.saved (ne_manual_of_open hopen)
  unfold recoverInterruptedInstall
  simp only [Prog.bind_eq]
  refine (sameArtifact_obeys hP.steady _ _).bind fun isCandidate => Obeys.ite (fun _ => ?_) fun _ => ?_
  · refine Obeys.pre ((removeStaleSdx_obeys hP).bind fun _ => recordInstalled_obeys hK hbacked)
      fun w _ h => h.1
  refine Obeys.pre ((sameArtifact_obeys hP.steady _ _).bind fun isOld => Obeys.ite (fun _ => ?_)
    fun _ => manual_raise_obeys hopen fun w h hw => holding_of_mem hw h.1.1) fun w _ h => h.1
  refine Obeys.bind (M := fun temporary w => (temporary = .installing t.id ∧
    ∃ d, t.candidateIdx = some d) ∧ t ∈ w.journal ∧ K w)
    (Obeys.orRaise fun p hp w hw h => ⟨⟨(hw.records.paths t h.1.1).2.1 p hp, ?_⟩, h.1⟩)
    fun temporary => Obeys.assume fun hfacts => ?_
  · obtain ⟨d, -, hd, -⟩ := hw.records.differs t h.1.1 (by simp [Phase.proven, hbacked])
    exact ⟨d, hd⟩
  · obtain ⟨rfl, d, hd⟩ := hfacts
    exact resumeInstall_obeys hK hphase hd

theorem validateInstalledArtifacts_obeys {K : World D → Prop} {t : Transaction D}
    (hK : Carried t.id K) (hphase : t.phase.backed = true) :
    Obeys sha256 clean tidy (fun w => t ∈ w.journal ∧ K w) (validateInstalledArtifacts t)
      fun _ => K := by
  have hopen := open_of_backed hphase
  have hP := hK.toFileFree.saved (ne_manual_of_open hopen)
  unfold validateInstalledArtifacts
  simp only [Prog.bind_eq, Prog.pure_eq]
  refine (sameArtifact_obeys hP.steady _ _).bind fun isCandidate => ?_
  refine Obeys.bind (M := fun _ w => t ∈ w.journal ∧ K w) (Obeys.when (fun _ =>
    manual_raise_obeys hopen fun w h hw => holding_of_mem hw h.1.1) fun _ w _ h => h.1) fun _ => ?_
  refine (node_obeys hP.steady _).bind fun sdx => ?_
  refine Obeys.bind (M := fun _ w => t ∈ w.journal ∧ K w) (Obeys.when (fun _ =>
    manual_raise_obeys hopen fun w h hw => holding_of_mem hw h.1.1) fun _ w _ h => h.1) fun _ => ?_
  refine Obeys.when (fun _ => ?_) fun _ w _ h => h.2
  refine Obeys.bind (Obeys.pre (backed_transition_obeys hK hphase ⟨rfl, rfl, rfl, rfl, rfl, rfl⟩ rfl rfl rfl
    rfl id rfl (Steady.const True) fun _ _ h => h) fun w _ h => ⟨h.1, trivial, h.2⟩)
    fun _ => Obeys.ret fun w _ h => h.2.2.2

/-! ## Loops over transactions -/

/-- The transactions that a loop still has to visit: their records are as loaded, except that final
ones may have changed. -/
def Unvisited (ts : List (Transaction D)) (w : World D) : Prop :=
  (ts.map Transaction.id).Nodup ∧ ∀ t ∈ ts, t.phase.terminal = false → t ∈ w.journal

theorem unvisited_of_journal {w : World D} (h : RepairInv sha256 clean tidy w)
    {ts : List (Transaction D)} (hts : ts.Sublist w.journal) : Unvisited ts w :=
  ⟨h.records.nodup.sublist (hts.map _), fun _ ht _ => hts.subset ht⟩

omit [DecidableEq D] in
theorem carried_unvisited {t : Transaction D} {ts : List (Transaction D)}
    (hnodup : ((t :: ts).map Transaction.id).Nodup) : Carried t.id (Unvisited ts) := by
  obtain ⟨hnew, hrest⟩ := List.nodup_cons.1 hnodup
  refine ⟨⟨⟨fun w w' hi h => ⟨h.1, fun x hx hopen => ?_⟩, fun w n h => h⟩, fun w p node h => h,
    fun w n h => h⟩, fun w kind u hid h => ⟨h.1, fun x hx hopen => ?_⟩⟩
  · exact (hi.kept x (ne_manual_of_open hopen)).2 (h.2 x hx hopen)
  · have hne : x.id ≠ u.id := by
      intro heq
      exact hnew (List.mem_map.2 ⟨x, hx, heq.trans hid⟩)
    simp [World.saveRecord, h.2 x hx hopen, hne]

/-- A loop whose body leaves alone what the later iterations need. -/
theorem forEach_obeys {J : World D → Prop} {body : Transaction D → RepairProg D Unit}
    (ts : List (Transaction D))
    (hbody : ∀ t ∈ ts, ∀ K, Carried t.id K → Obeys sha256 clean tidy
      (fun w => (t.phase.terminal = false → t ∈ w.journal) ∧ K w ∧ J w) (body t)
      fun _ w => K w ∧ J w) :
    Obeys sha256 clean tidy (fun w => Unvisited ts w ∧ J w) (Prog.forEach ts body) fun _ => J := by
  refine Obeys.pre (Obeys.post (Discipline.Triple.forEach
    (I := fun xs w => (∀ x ∈ xs, x ∈ ts) ∧ Unvisited xs w ∧ J w) ?_ ts) fun _ w _ h => h.2.2)
    fun w _ h => ⟨fun _ hx => hx, h⟩
  intro t rest
  refine Obeys.assume fun hmem => ?_
  refine Obeys.derive (φ := ((t :: rest).map Transaction.id).Nodup) (fun w _ h => h.1.1)
    fun hnodup => ?_
  refine Obeys.post (Obeys.pre (hbody t (hmem t List.mem_cons_self) (Unvisited rest)
    (carried_unvisited hnodup)) fun w _ h => ⟨?_, ⟨?_, ?_⟩, h.2⟩) fun _ w _ h => ⟨?_, h⟩
  · exact h.1.2 t List.mem_cons_self
  · exact (List.nodup_cons.1 hnodup).2
  · exact fun x hx => h.1.2 x (List.mem_cons_of_mem _ hx)
  · exact fun x hx => hmem x (List.mem_cons_of_mem _ hx)

/-- A transition of a journaled transaction to a phase without a candidate of its own. -/
theorem closeRecord_obeys {K : World D → Prop} {t : Transaction D} (hK : Carried t.id K)
    (hopen : t.phase.terminal = false) {phase : Phase}
    (hphase : phase.proven = false ∧ phase.unbuilt = false) :
    Obeys sha256 clean tidy (fun w => t ∈ w.journal ∧ K w) (transition t phase) fun t' w =>
      (t'.id = t.id ∧ t'.phase = phase ∧ t'.attemptCount = t.attemptCount) ∧
        t' ∈ w.journal ∧ K w :=
  Obeys.pre (close_obeys hK.steady hphase hopen fun w _ _ h => hK.save w _ _ rfl h)
    fun _ hw h => ⟨holding_of_mem hw h.1, h.2⟩

theorem manualRecord_obeys {K : World D → Prop} {t : Transaction D} (hK : Carried t.id K)
    (hopen : t.phase.terminal = false) {reason : String} :
    Obeys sha256 clean tidy (fun w => t ∈ w.journal ∧ K w) (manual t reason) fun _ => K :=
  Obeys.pre (manual_obeys hK.steady hopen fun w t' hid _ _ _ h => hK.save w _ t' hid h)
    fun _ hw h => ⟨holding_of_mem hw h.1, h.2⟩

theorem prepareOne_obeys {K : World D → Prop} {t : Transaction D} (hK : Carried t.id K) :
    Obeys sha256 clean tidy (fun w => (t.phase.terminal = false → t ∈ w.journal) ∧ K w)
      (prepareOne t) fun _ => K := by
  unfold prepareOne
  simp only [Prog.bind_eq, Prog.pure_eq]
  cases hphase : t.phase with
  | installingCandidate =>
      exact Obeys.pre (recoverInterruptedInstall_obeys hK hphase) fun w _ h => ⟨h.1 rfl, h.2⟩
  | candidateInstalled =>
      exact Obeys.pre (validateInstalledArtifacts_obeys hK (by rw [hphase]; rfl))
        fun w _ h => ⟨h.1 rfl, h.2⟩
  | awaitingUpstreamValidation =>
      exact Obeys.pre (validateInstalledArtifacts_obeys hK (by rw [hphase]; rfl))
        fun w _ h => ⟨h.1 rfl, h.2⟩
  | rolledBack =>
      exact Obeys.pre ((closeRecord_obeys hK (by rw [hphase]; rfl) ⟨rfl, rfl⟩).bind fun _ =>
        Obeys.ret fun w _ h => h.2.2) fun w _ h => ⟨h.1 rfl, h.2⟩
  | unknown name =>
      exact Obeys.pre (manualRecord_obeys hK (by rw [hphase]; rfl)) fun w _ h => ⟨h.1 rfl, h.2⟩
  | _ => exact Obeys.ret fun w _ h => h.2

theorem prepareOffline_obeys :
    Obeys sha256 clean tidy (fun _ => True) (prepareOffline : RepairProg D Unit) fun _ _ => True := by
  unfold prepareOffline
  simp only [Prog.bind_eq, Prog.pure_eq]
  refine (fsyncDirectory_obeys (Steady.const True)).bind fun _ => ?_
  refine (transactions_obeys (Steady.const True)).bind fun ts => ?_
  refine Obeys.bind (Obeys.pre (forEach_obeys (J := fun _ => True) ts fun t _ K hK => ?_)
    fun w hw h => ⟨unvisited_of_journal hw (by rw [h.2]), trivial⟩) fun _ => ?_
  · exact prepareOne_obeys (hK.and (Carried.trivial _))
  · exact (awaiting_obeys (Steady.const True)).bind fun _ => Obeys.ret fun _ _ _ => trivial

/-! ## Backups -/

omit [DecidableEq D] in
theorem writeOk_backup {w : World D} {id : TxId} {p : Path} (hp : p.isBackupOf id = true)
    (h : BackingUp id w) : WriteOk p w := by
  intro tx htx
  have heq : tx = id := by
    cases p <;> simp_all [Path.isBackupOf]
  exact heq ▸ h

/-- What a backup step may rely on: the transaction is in `candidate_built`, and the condition does
not speak about the file that is written. -/
structure BackupFrame (id : TxId) (destination : Path) (R : World D → Prop) : Prop where
  steady : Steady R
  backing : ∀ w, R w → BackingUp id w
  setFile : ∀ w node, R w → R (w.setFile destination node)
  scratch : ∀ w n node, R w → R (w.setFile (.scratch n) node)
  serial : ∀ w n, R w → R { w with nextSerial := n }

theorem replaceBackup_obeys {id : TxId} {p : Path} {R : World D → Prop} (hR : BackupFrame id p R)
    (hp : p.isBackupOf id = true) (n : TxId) :
    Obeys sha256 clean tidy R (must (tryReplace (.scratch n) p)) fun _ => R := by
  refine Obeys.must (Obeys.ask hR.steady (fun w _ h => ⟨?_, ?_, ?_⟩) fun c w _ h hok => ?_)
  · exact writeOk_of_not_backup fun _ => rfl
  · exact writeOk_backup hp (hR.backing w h)
  · exact fun _ _ => .inl ⟨n, rfl⟩
  · cases hfile : w.files (.scratch n) with
    | none => simp [repairExec, hfile] at hok
    | some node =>
        simp only [repairExec, hfile] at hok ⊢
        rw [attempted_of_true hok]
        exact hR.scratch _ n _ (hR.setFile w _ h)

theorem copyScratch_obeys {R : World D → Prop} (hR : Steady R)
    (hscratch : ∀ w n node, R w → R (w.setFile (.scratch n) node)) (p : Path) (n : TxId)
    (mode : Option Nat) :
    Obeys sha256 clean tidy R (must (tryCopy p (.scratch n) mode)) fun _ => R := by
  refine Obeys.must (Obeys.ask hR (fun w _ _ => writeOk_of_not_backup fun _ => rfl)
    fun c w _ h _ => ?_)
  simp only [repairExec, copied]
  split
  · cases c.fault with
    | none => exact hscratch w n _ h
    | before => exact hscratch w n _ h
    | after => exact hscratch w n _ h
  · exact h

theorem scratchName_obeys {R : World D → Prop} (hR : Steady R)
    (hserial : ∀ w n, R w → R { w with nextSerial := n }) (base : Base) :
    Obeys sha256 clean tidy R (scratchName base : RepairProg D TxId) fun _ => R :=
  Obeys.ask hR (fun _ _ _ => trivial) fun _ w _ h => hserial w _ h

theorem copyBackup_obeys {id : TxId} {q : Path} {R : World D → Prop} (hR : BackupFrame id q R)
    (hq : q.isBackupOf id = true) (p : Path) :
    Obeys sha256 clean tidy R (copyBackup p q) fun _ => R := by
  unfold copyBackup
  simp only [Prog.bind_eq]
  refine (scratchName_obeys hR.steady hR.serial _).bind fun n => ?_
  refine (copyScratch_obeys hR.steady hR.scratch p n none).bind fun _ => ?_
  exact (fsyncDirectory_obeys hR.steady).bind fun _ => replaceBackup_obeys hR hq n

/-- After `backupOne` the backup has the expected digest. -/
theorem backupOne_obeys {id : TxId} {q : Path} {R : World D → Prop} (hR : BackupFrame id q R)
    (hq : q.isBackupOf id = true) (p : Path) (d : Digest D) :
    Obeys sha256 clean tidy R (backupOne p q (some d)) fun _ w =>
      R w ∧ fileDigest sha256 w q = some d := by
  unfold backupOne
  simp only [Prog.bind_eq]
  refine (fsyncDirectory_obeys hR.steady).bind fun _ => (node_obeys hR.steady q).bind fun found => ?_
  refine Obeys.ite (fun _ => ?_) fun _ => ?_
  -- a backup that is there must have the digest already
  · refine Obeys.bind (Obeys.pre (sameArtifact_obeys hR.steady q _) fun w _ h => h.1) fun same => ?_
    exact Obeys.raiseIf fun hsame w _ h => ⟨h.1, h.2 d rfl (by simpa using hsame)⟩
  -- else it is linked, or copied when the link fails, and read back
  · refine Obeys.bind (M := fun _ => R) (Obeys.pre (Obeys.ask hR.steady
      (fun w _ h => writeOk_backup hq (hR.backing w h)) fun c w _ h => ?_) fun w _ h => h.1)
      fun linked => ?_
    · cases hp : w.files p with
      | none => simpa [repairExec, hp] using h
      | some node =>
          cases hfree : w.files q with
          | some existing => simpa [repairExec, hp, hfree] using h
          | none =>
              simp only [repairExec, hp, hfree, attempted]
              cases c.fault with
              | none => exact hR.setFile w _ h
              | before => exact h
              | after => exact hR.setFile w _ h
    · refine Obeys.bind (M := fun _ => R) (Obeys.when (fun _ => copyBackup_obeys hR hq p)
        fun _ w _ h => h) fun _ => ?_
      refine (sameArtifact_obeys hR.steady q _).bind fun same => ?_
      refine Obeys.bind (M := fun _ w => R w ∧ fileDigest sha256 w q = some d)
        (Obeys.raiseIf fun hsame w _ h => ⟨h.1, h.2 d rfl (by simpa using hsame)⟩)
        fun _ => fsyncDirectory_obeys (hR.steady.and Steady.fileDigest)

omit [DecidableEq D] in
theorem backingUp_of_mem {w : World D} {t : Transaction D} (ht : t ∈ w.journal)
    (hphase : t.phase = .candidateBuilt) : BackingUp t.id w :=
  ⟨t, ht, rfl, hphase⟩

omit [DecidableEq D] in
/-- The frame of the first backup. -/
theorem backupFrame_idx {t : Transaction D} (hphase : t.phase = .candidateBuilt) (p : Path) :
    BackupFrame t.id p fun w => t ∈ w.journal where
  steady := Steady.saved (by simp [hphase])
  backing _ h := backingUp_of_mem h hphase
  setFile _ _ h := h
  scratch _ _ _ h := h
  serial _ _ h := h

omit [DecidableEq D] in
/-- The frame of the second backup: the first one is on disk. -/
theorem backupFrame_sdx {t : Transaction D} (hphase : t.phase = .candidateBuilt) {d : Digest D} :
    BackupFrame t.id (.backupSdx t.id) fun w =>
      t ∈ w.journal ∧ fileDigest sha256 w (.backupIdx t.id) = some d where
  steady := (Steady.saved (by simp [hphase])).and Steady.fileDigest
  backing _ h := backingUp_of_mem h.1 hphase
  setFile _ _ h := ⟨h.1, by rw [fileDigest_setFile (by simp)]; exact h.2⟩
  scratch _ _ _ h := ⟨h.1, by rw [fileDigest_setFile (by simp)]; exact h.2⟩
  serial _ _ h := h

theorem backupSdx_obeys {t u : Transaction D} (hphase : t.phase = .candidateBuilt) {d : Digest D}
    (hu : u = { t with backupIdxPath := some (.backupIdx t.id) }) :
    Obeys sha256 clean tidy
      (fun w => t ∈ w.journal ∧ fileDigest sha256 w (.backupIdx t.id) = some d) (backupSdx u)
      fun t' w => (∃ p, t' = { u with backupSdxPath := p }) ∧
        (t ∈ w.journal ∧ fileDigest sha256 w (.backupIdx t.id) = some d) ∧
        ∀ sorted, t.oldSdx = some sorted →
          fileDigest sha256 w (.backupSdx t.id) = some sorted.toDigest := by
  subst hu
  unfold backupSdx
  simp only [Prog.bind_eq, Prog.pure_eq]
  cases hsorted : t.oldSdx with
  | none => exact Obeys.ret fun w _ h => ⟨⟨t.backupSdxPath, rfl⟩, h, fun s hs => absurd hs (by simp)⟩
  | some sorted =>
      refine (backupOne_obeys (backupFrame_sdx hphase) (by simp [Path.isBackupOf]) _
        sorted.toDigest).bind fun _ => Obeys.ret fun w _ h => ⟨⟨_, rfl⟩, h.1, fun s hs => ?_⟩
      obtain rfl := Option.some.inj hs
      exact h.2

/-- `_create_backups` reaches `backup_created` with both backups on disk. -/
theorem createBackups_obeys {t : Transaction D} (hphase : t.phase = .candidateBuilt) :
    Obeys sha256 clean tidy (fun w => t ∈ w.journal) (createBackups t) fun t' w =>
      t'.phase = .backupCreated ∧ t' ∈ w.journal := by
  have hsaved : Steady fun w : World D => t ∈ w.journal := Steady.saved (by simp [hphase])
  -- the candidate differs from the old index: this is known from the saved record
  refine Obeys.derive (φ := Differs t) (fun w hw h => hw.records.differs t h (by simp [Phase.proven, hphase]))
    fun hdiffers => ?_
  obtain ⟨candidate, old, hcandidate, hold, hne⟩ := hdiffers
  have hdigest : t.oldIdx.map Artifact.toDigest = some old.toDigest := by
    rw [hold]
    rfl
  unfold createBackups
  simp only [Prog.bind_eq, hdigest]
  refine (fsyncDirectory_obeys hsaved).bind fun _ => ?_
  refine (backupOne_obeys (backupFrame_idx hphase _) (by simp [Path.isBackupOf]) _ old.toDigest).bind
    fun _ => ?_
  refine (backupSdx_obeys hphase rfl).bind fun t' => Obeys.assume fun ht' => ?_
  obtain ⟨path, rfl⟩ := ht'
  -- both backups have their digests, and no other step of this volume writes them
  have hP : Steady fun w : World D => (t ∈ w.journal ∧
      fileDigest sha256 w (.backupIdx t.id) = some old.toDigest) ∧
      ∀ sorted, t.oldSdx = some sorted →
        fileDigest sha256 w (.backupSdx t.id) = some sorted.toDigest :=
    (hsaved.and Steady.fileDigest).and ⟨fun w w' hi h sorted hs =>
      Steady.fileDigest.stable w w' hi (h sorted hs), fun _ _ h => h⟩
  refine (fsyncDirectory_obeys hP).bind fun _ => ?_
  refine transition_obeys hP (fun w at_ hw h => ?_) fun w at_ _ h => ⟨rfl, by simp [World.saveRecord]⟩
  refine permit_transition hw h.1.1 (by rw [hphase]; rfl) ⟨rfl, rfl, rfl, rfl, rfl, rfl⟩ ?_ ?_ ?_ ?_ ?_ ?_
  · exact hw.records.proven t h.1.1
  · exact fun _ => ⟨candidate, old, hcandidate, hold, hne⟩
  · exact fun _ => ⟨old, hold, h.1.2, h.2⟩
  · exact hw.records.paths t h.1.1
  · exact fun _ hfalse => absurd hfalse (by simp [Phase.unbuilt])
  · exact fun _ hfalse => absurd hfalse (by simp)

/-! ## Rollback and upstream validation -/

theorem restoreOne_obeys {K : World D → Prop} (hK : FileFree K) (p : Path) {q : Path}
    (hq : ∀ id, q.isBackupOf id = false) (expected : Artifact D) :
    Obeys sha256 clean tidy K (restoreOne p q expected) fun _ => K := by
  unfold restoreOne
  simp only [Prog.bind_eq]
  refine (sameArtifact_obeys hK.steady p _).bind fun same => ?_
  refine Obeys.bind (M := fun _ => K) (Obeys.raiseIf fun _ w _ h => h.1) fun _ => ?_
  refine (scratchName_obeys hK.steady hK.serial _).bind fun n => ?_
  refine (copyScratch_obeys hK.steady (fun w n node => hK.setFile w _ node) p n _).bind fun _ => ?_
  refine Obeys.must (Obeys.ask hK.steady (fun w _ h => ⟨?_, ?_, ?_⟩) fun c w _ h hok => ?_)
  · exact writeOk_of_not_backup fun _ => rfl
  · exact writeOk_of_not_backup hq
  · exact fun _ _ => .inl ⟨n, rfl⟩
  · cases hfile : w.files (.scratch n) with
    | none => simp [repairExec, hfile] at hok
    | some node =>
        simp only [repairExec, hfile] at hok ⊢
        rw [attempted_of_true hok]
        exact hK.setFile _ _ _ (hK.setFile _ _ _ h)

theorem restoreSdx_obeys {K : World D → Prop} (hK : FileFree K) (t : Transaction D) :
    Obeys sha256 clean tidy K (restoreSdx t) fun _ => K := by
  unfold restoreSdx
  simp only [Prog.bind_eq]
  split
  · refine Obeys.bind (M := fun _ => K) (Obeys.orRaise fun p _ w _ h => h) fun p => ?_
    exact restoreOne_obeys hK p (fun _ => rfl) _
  · exact unlink_obeys hK.steady (fun w _ => writeOk_of_not_backup fun _ => rfl)
      fun w h => hK.setFile w _ _ h

theorem rollback_obeys {K : World D → Prop} {t : Transaction D} (hK : Carried t.id K)
    (hopen : t.phase.terminal = false) (reason : String) :
    Obeys sha256 clean tidy (fun w => t ∈ w.journal ∧ K w) (rollback reason t) fun _ => K := by
  have hP := hK.toFileFree.saved (ne_manual_of_open hopen)
  unfold rollback
  simp only [Prog.bind_eq]
  refine Obeys.bind (M := fun _ w => t ∈ w.journal ∧ K w) (Obeys.orRaise fun p _ w _ h => h)
    fun backup => ?_
  refine Obeys.bind (M := fun _ w => t ∈ w.journal ∧ K w) (Obeys.orRaise fun p _ w _ h => h)
    fun old => ?_
  refine (restoreOne_obeys hP backup (fun _ => rfl) old).bind fun _ => ?_
  refine (restoreSdx_obeys hP t).bind fun _ => (fsyncDirectory_obeys hP.steady).bind fun _ => ?_
  have hclose : Obeys sha256 clean tidy (fun w => Holding t w ∧ K w)
      (transition { t with rolledBack := true, failureReason := reason } .rolledBack) fun t' w =>
        (t'.id = t.id ∧ t'.phase = .rolledBack) ∧ t' ∈ w.journal ∧ K w := by
    refine Obeys.post (Obeys.pre (close_obeys hK.steady
      (t := { t with rolledBack := true, failureReason := reason }) ⟨rfl, rfl⟩ hopen
      fun w _ _ h => hK.save w _ _ rfl h) fun w _ h => ⟨?_, h.2⟩)
      fun t' w _ h => ⟨⟨h.1.1, h.1.2.1⟩, h.2⟩
    obtain ⟨⟨u, hu, hup, hkeep⟩, hproven, hpaths⟩ := h.1
    exact ⟨⟨u, hu, hup, hkeep.1, hkeep.2, hkeep.3, hkeep.4, hkeep.5, hkeep.6⟩, hproven, hpaths⟩
  refine Obeys.bind (Obeys.pre hclose fun w hw h => ⟨holding_of_mem hw h.1, h.2⟩) fun t' => ?_
  refine Obeys.assume fun hfacts => ?_
  have hK' : Carried t'.id K := hfacts.1 ▸ hK
  exact manualRecord_obeys hK' (by rw [hfacts.2]; rfl)

/-- A loop over the transactions that await upstream validation. -/
theorem forEach_awaiting_obeys {body : Transaction D → RepairProg D Unit} (keep : Transaction D → Bool)
    (hbody : ∀ t : Transaction D, t.phase.terminal = false → ∀ K, Carried t.id K →
      Obeys sha256 clean tidy (fun w => t ∈ w.journal ∧ K w) (body t) fun _ => K) :
    Obeys sha256 clean tidy (fun _ => True)
      (awaiting.bind fun ts => Prog.forEach (ts.filter keep) body) fun _ _ => True := by
  refine Obeys.bind (M := fun ts w => (∀ t ∈ ts, t.phase.terminal = false) ∧
    Unvisited (ts.filter keep) w ∧ True)
    (Obeys.post (awaiting_obeys (Steady.const True)) fun ts w hw h => ?_)
    fun ts => Obeys.assume fun hopen => forEach_obeys _ fun t ht K hK => ?_
  · rw [h.2]
    refine ⟨fun t ht => ?_, unvisited_of_journal hw ?_, trivial⟩
    · have hpending := (List.mem_filter.1 ht).2
      revert hpending
      cases t.phase <;> simp [Phase.pendingValidation, Phase.terminal]
    · exact List.filter_sublist.trans List.filter_sublist
  · have ht' := hopen t (List.mem_of_mem_filter ht)
    exact Obeys.pre (hbody t ht' _ (hK.and (Carried.trivial _))) fun w _ h => ⟨h.1 ht', h.2⟩

theorem rollbackRejected_obeys (volumeIds : List Int) (reason : String) :
    Obeys sha256 clean tidy (fun _ => True) (rollbackRejected volumeIds reason : RepairProg D Unit)
      fun _ _ => True :=
  forEach_awaiting_obeys _ fun _ ht _ hK => rollback_obeys hK ht reason

theorem validateUpstream_obeys (readonly : Int → Option Bool) :
    Obeys sha256 clean tidy (fun _ => True) (validateUpstream readonly : RepairProg D Unit)
      fun _ _ => True := by
  have hloop : Obeys sha256 clean tidy (fun _ => True) (awaiting.bind fun ts =>
      Prog.forEach (ts.filter fun _ => true) (validateOne readonly) : RepairProg D Unit)
      fun _ _ => True := by
    refine forEach_awaiting_obeys _ fun t ht K hK => ?_
    unfold validateOne
    simp only [Prog.bind_eq, Prog.pure_eq]
    split
    · exact (closeRecord_obeys hK ht ⟨rfl, rfl⟩).bind fun _ => Obeys.ret fun w _ h => h.2.2
    · exact Obeys.ret fun w _ h => h.2
  simpa only [List.filter_true, validateUpstream, Prog.bind_eq] using hloop

theorem reconcileResolvedPreinstall_obeys (resolved : Int → Bool) :
    Obeys sha256 clean tidy (fun _ => True)
      (reconcileResolvedPreinstall resolved : RepairProg D Unit) fun _ _ => True := by
  unfold reconcileResolvedPreinstall
  simp only [Prog.bind_eq]
  refine (transactions_obeys (Steady.const True)).bind fun ts => ?_
  refine Obeys.pre (forEach_obeys (J := fun _ => True) ts fun t _ K hK => ?_)
    fun w hw h => ⟨unvisited_of_journal hw (by rw [h.2]), trivial⟩
  refine Obeys.when (fun hcond => ?_) fun _ w _ h => h.2
  have hopen : t.phase.terminal = false := by
    have hpre := hcond.1
    revert hpre
    cases t.phase <;> simp [Phase.preinstall, Phase.terminal]
  have hK' := hK.and (Carried.trivial t.id)
  refine Obeys.bind (Obeys.pre (closeRecord_obeys hK' hopen ⟨rfl, rfl⟩) fun w _ h => ⟨h.1 hopen, h.2⟩)
    fun t' => Obeys.when (fun _ => Obeys.pre (P := fun w => K w ∧ True) (Obeys.ask hK'.steady
      (fun _ _ _ => trivial) fun c w _ h => ?_) fun w _ h => h.2.2) fun _ w _ h => h.2.2
  simp only [repairExec]
  split
  · exact hK'.setFile w _ _ h
  · exact h

end StorageNode.IndexRepair
