import StorageNode.IndexRepair.BatchValidation

/-!
# A rollback that fails

`rollback_rejected` restores the old files of the rejected volumes one after another, in the order of
the journal, and the first missing or changed backup ends it. `repair_detected` collects the error of
one volume and goes on with the next; this loop does not.

`rollback_isolated_iff` is the exact extent of the damage: the volumes with intact backups are all
rolled back if and only if none of them comes after a volume whose backups are missing or changed. The
only failures here are those of the backups: every request is served.
-/

set_option autoImplicit false

namespace StorageNode.IndexRepair

open StorageNode.Program StorageNode.IndexHelper RepairProg

variable {D : Type}

/-- The transactions that `rollback_rejected` works on. -/
def World.rejected (w : World D) (volumeIds : List Int) : List (Transaction D) :=
  w.awaiting.filter fun t => t.id.base.volumeId ∈ volumeIds

/-- Rejected transactions of distinct volumes. A backup that a transaction records is its own. -/
structure RejectedBatch (w : World D) (volumeIds : List Int) : Prop where
  nodup : (w.journal.map Transaction.id).Nodup
  distinct : ((w.rejected volumeIds).map fun t => t.id.base).Nodup
  backupIdx : ∀ t ∈ w.rejected volumeIds, ∀ p, t.backupIdxPath = some p → p = .backupIdx t.id
  backupSdx : ∀ t ∈ w.rejected volumeIds, ∀ p, t.backupSdxPath = some p → p = .backupSdx t.id

/-- The old files of `t` are back, and its record says so. -/
def RolledBackAndRecorded (w w' : World D) (t : Transaction D) : Prop :=
  (∃ u ∈ w'.journal, u.id = t.id ∧ u.phase = .manualInterventionRequired ∧ u.rolledBack = true) ∧
    OldFilesBack w w' t

/-- Every rejected transaction with intact backups is rolled back and journaled as such. -/
def IntactRolledBack (sha256 : Bytes → D) (volumeIds : List Int) (w w' : World D) : Prop :=
  ∀ t ∈ w.rejected volumeIds, BackupsIntact sha256 w t → RolledBackAndRecorded w w' t

/-- No transaction whose backups are missing or changed comes before one with intact backups. -/
def IntactFirst (sha256 : Bytes → D) (w : World D) (targets : List (Transaction D)) : Prop :=
  ∀ earlier t later, targets = earlier ++ t :: later → ¬ BackupsIntact sha256 w t →
    ∀ u ∈ later, ¬ BackupsIntact sha256 w u

/-- Where the loop from `w` has stopped: the transactions before the stop are rolled back, and the one
at the stop has lost its backups. -/
structure Stopped (sha256 : Bytes → D) (w : World D) (targets : List (Transaction D)) (s : World D)
    (done rest : List (Transaction D)) : Prop where
  split : done ++ rest = targets
  intact : ∀ t ∈ done, BackupsIntact sha256 w t
  damaged : ∀ t later, rest = t :: later → ¬ BackupsIntact sha256 w t
  nodup : (s.journal.map Transaction.id).Nodup
  finished : ∀ t ∈ done, RolledBackAndRecorded w s t
  others : ∀ u ∈ w.journal, (∀ t ∈ done, u.id ≠ t.id) → u ∈ s.journal

/-- What is before the stop is exactly what is achieved. -/
theorem Stopped.intact_iff {sha256 : Bytes → D} {w s : World D} {volumeIds : List Int}
    {done rest : List (Transaction D)} (hw : RejectedBatch w volumeIds)
    (h : Stopped sha256 w (w.rejected volumeIds) s done rest) :
    IntactRolledBack sha256 volumeIds w s ↔ IntactFirst sha256 w (w.rejected volumeIds) := by
  constructor
  · intro hall earlier t later hsplit hdamaged u hu hintact
    have htarget : u ∈ w.rejected volumeIds := by
      rw [hsplit]
      exact List.mem_append_right _ (List.mem_cons_of_mem _ hu)
    obtain ⟨hawaiting, -⟩ := List.mem_filter.1 htarget
    obtain ⟨hjournal, hphase⟩ := List.mem_filter.1 hawaiting
    -- `t` is not before the stop, and `u` comes after `t`
    have hafter : u ∉ done := by
      have hnodup : (w.rejected volumeIds).Nodup := List.Nodup.of_map _ hw.distinct
      have hparts : done ++ rest = earlier ++ t :: later := h.split.trans hsplit
      rcases List.append_eq_append_iff.1 hparts with ⟨mid, hmid, -⟩ | ⟨mid, hmid, hrest⟩
      · intro hdone
        rw [hsplit, List.nodup_append] at hnodup
        refine hnodup.2.2 u ?_ u (List.mem_cons_of_mem _ hu) rfl
        rw [hmid]
        exact List.mem_append_left _ hdone
      · cases mid with
        | nil =>
            intro hdone
            rw [hsplit, List.nodup_append] at hnodup
            rw [List.append_nil] at hmid
            exact hnodup.2.2 u (hmid ▸ hdone) u (List.mem_cons_of_mem _ hu) rfl
        | cons x mid =>
            obtain ⟨rfl, -⟩ := List.cons.inj hrest
            refine absurd (h.intact t ?_) hdamaged
            rw [hmid]
            simp
    have hkept : u ∈ s.journal := by
      refine h.others u hjournal fun x hx heq => hafter ?_
      have hmem : x ∈ w.rejected volumeIds := h.split ▸ List.mem_append_left _ hx
      have hx' : x ∈ w.journal := (List.mem_filter.1 (List.mem_filter.1 hmem).1).1
      exact List.inj_on_of_nodup_map hw.nodup hjournal hx' heq ▸ hx
    obtain ⟨⟨v, hv, hid, hmanual, -⟩, -⟩ := hall u htarget hintact
    obtain rfl := List.inj_on_of_nodup_map h.nodup hv hkept hid
    rw [hmanual] at hphase
    exact absurd hphase (by decide)
  · intro hfirst t ht hintact
    rw [← h.split] at ht
    rcases List.mem_append.1 ht with ht | ht
    · exact h.finished t ht
    · cases hrest : rest with
      | nil =>
          rw [hrest] at ht
          exact absurd ht List.not_mem_nil
      | cons x later =>
          have hdamaged := h.damaged x later hrest
          rw [hrest] at ht
          rcases List.mem_cons.1 ht with rfl | ht
          · exact absurd hintact hdamaged
          · refine absurd hintact (hfirst done x later ?_ hdamaged t ht)
            rw [← hrest]
            exact h.split.symm

variable [DecidableEq D]

section

variable {sha256 : Bytes → D} {w : World D} {t : Transaction D} {P : World D → Prop}

/-- An environment that serves every request. -/
abbrev servedExec (sha256 : Bytes → D) := aloneExec sha256 true

/-- Without read errors the comparison decides whether the file has the digest. -/
theorem sameArtifact_decides {p : Path} (digest : Digest D) :
    Hoare (servedExec sha256) P (sameArtifact p (some digest))
      (fun same s => P s ∧ (same = true ↔ fileDigest sha256 s p = some digest))
      (fun _ _ => False) := by
  refine Discipline.Triple.bind (M := fun answer s => P s ∧
    answer.map Artifact.toDigest = fileDigest sha256 s p) (Hoare.ask fun c s hs => ⟨hs, ?_⟩)
    fun answer => ?_
  · simp only [servedExec, aloneExec, repairExec, reliably, cond_true, fileDigest,
      World.contents]
    cases (s.files p).bind Node.read <;> rfl
  · cases answer with
    | none =>
        refine Discipline.Triple.ret fun s _ hs => ⟨hs.1, ?_⟩
        simp [← hs.2]
    | some actual =>
        refine Discipline.Triple.ret fun s _ hs => ⟨hs.1, ?_⟩
        simp [← hs.2]

/-- A file that does not match its digest is not restored. -/
theorem restoreOne_refuses {backup destination : Path} {old : Artifact D}
    (h : fileDigest sha256 w backup ≠ some old.toDigest) :
    Hoare (servedExec sha256) (fun s => s = w) (restoreOne backup destination old)
      (fun _ _ => False) fun _ s => s = w := by
  refine Discipline.Triple.bind (Discipline.Triple.mono (sameArtifact_decides old.toDigest)
    (fun _ _ h => h) (fun _ _ _ h => h) fun _ _ _ hfalse => absurd hfalse id) fun same => ?_
  refine Discipline.Triple.bind (M := fun _ _ => False) (Discipline.Triple.raiseIf ?_ ?_)
    fun _ _ _ hfalse => absurd hfalse id
  · exact fun _ s _ hs => hs.1
  · rintro hsame s - ⟨rfl, hiff⟩
    exact h (hiff.1 (by simpa using hsame))

/-- The state in which the rollback of `t` gives up: at most its live index is written. -/
structure GaveUp (w : World D) (t : Transaction D) (s : World D) : Prop where
  journal : s.journal = w.journal
  files : ∀ p, p ≠ t.liveIdx → s.files p = w.files p

theorem restoreSdx_gives_up (hrecorded : ∀ p, t.backupSdxPath = some p → p = .backupSdx t.id)
    {sorted : Artifact D} (hsorted : t.oldSdx = some sorted)
    (hdamaged : t.backupSdxPath = some (.backupSdx t.id) →
      fileDigest sha256 w (.backupSdx t.id) ≠ some sorted.toDigest) :
    Hoare (servedExec sha256) (fun s => s = w) (restoreSdx t) (fun _ _ => False)
      fun _ s => s = w := by
  unfold restoreSdx
  rw [hsorted]
  refine Discipline.Triple.bind (M := fun p s => t.backupSdxPath = some p ∧ s = w)
    (Discipline.Triple.orRaise (fun _ _ _ hs => hs) fun p hp _ _ hs => ⟨hp, hs⟩) fun p => ?_
  refine Discipline.Triple.assume fun hp => ?_
  obtain rfl := hrecorded p hp
  exact restoreOne_refuses (hdamaged hp)

/-- `_rollback` of a transaction whose backups are missing or changed raises. -/
theorem rollback_gives_up (hidx : ∀ p, t.backupIdxPath = some p → p = .backupIdx t.id)
    (hsdx : ∀ p, t.backupSdxPath = some p → p = .backupSdx t.id) (hfree : w.ScratchFree)
    (hdamaged : ¬ BackupsIntact sha256 w t) (reason : String) :
    Hoare (servedExec sha256) (fun s => s = w) (rollback reason t) (fun _ _ => False)
      fun _ => GaveUp w t := by
  -- a check that fails before the first restore leaves everything as it was
  have hunchanged : GaveUp w t w := ⟨rfl, fun _ _ => rfl⟩
  refine Discipline.Triple.bind (M := fun p s => t.backupIdxPath = some p ∧ s = w)
    (Discipline.Triple.orRaise (fun _ _ _ hs => hs ▸ hunchanged) fun p hp _ _ hs => ⟨hp, hs⟩)
    fun p => Discipline.Triple.assume fun hp => ?_
  obtain rfl := hidx p hp
  refine Discipline.Triple.bind (M := fun old s => t.oldIdx = some old ∧ s = w)
    (Discipline.Triple.orRaise (fun _ _ _ hs => hs ▸ hunchanged) fun old ho _ _ hs => ⟨ho, hs⟩)
    fun old => Discipline.Triple.assume fun hold => ?_
  by_cases hbacked : fileDigest sha256 w (.backupIdx t.id) = some old.toDigest
  · -- the index comes back, so that the sorted index is what is damaged
    obtain ⟨contents, hcontents, hdigest⟩ := Option.map_eq_some_iff.1 hbacked
    obtain ⟨sorted, hsorted, hlost⟩ : ∃ sorted, t.oldSdx = some sorted ∧
        (t.backupSdxPath = some (.backupSdx t.id) →
          fileDigest sha256 w (.backupSdx t.id) ≠ some sorted.toDigest) := by
      by_contra hall
      refine hdamaged ⟨hp, fun sorted hsorted => ?_, old, hold, hbacked, fun sorted hsorted => ?_⟩
      · by_contra hpath
        exact hall ⟨sorted, hsorted, fun h => absurd h hpath⟩
      · by_contra hdigest
        exact hall ⟨sorted, hsorted, fun _ => hdigest⟩
    have hscratch : ∀ name, t.liveIdx ≠ .scratch name := by simp [Transaction.liveIdx]
    refine Discipline.Triple.bind (M := fun _ s => s = w.withFile t.liveIdx
      (some (.file contents old.mode))) (Discipline.Triple.mono
        (restoreOne_exact hcontents hdigest hscratch fun _ => hfree) (fun _ _ h => h)
        (fun _ _ _ h => h) fun _ _ _ hfalse => absurd hfalse (by simp)) fun _ => ?_
    refine Discipline.Triple.bind (M := fun _ _ => False) (Discipline.Triple.mono
      (restoreSdx_gives_up hsdx hsorted ?_) (fun _ _ h => h) (fun _ _ _ h => h) ?_)
      fun _ _ _ hfalse => absurd hfalse id
    · intro hpath
      rw [fileDigest, contents_withFile (by simp [Transaction.liveIdx])]
      exact hlost hpath
    · rintro _ s - rfl
      exact ⟨rfl, fun p hp => by simp [World.withFile, World.setFile, hp]⟩
  -- the index itself is damaged: nothing is restored
  · refine Discipline.Triple.bind (M := fun _ _ => False) (Discipline.Triple.mono
      (restoreOne_refuses hbacked) (fun _ _ h => h) (fun _ _ _ h => h) ?_)
      fun _ _ _ hfalse => absurd hfalse id
    rintro _ s - rfl
    exact hunchanged

/-! ## The loop -/

variable {volumeIds : List Int} {targets done rest : List (Transaction D)} {s s' : World D}

omit [DecidableEq D] in
/-- The loop ends without a failure. -/
theorem Restoring.stopped (h : Restoring w done s) (hintact : ∀ t ∈ done, BackupsIntact sha256 w t) :
    Stopped sha256 w done s done [] where
  split := List.append_nil _
  intact := hintact
  damaged _ _ hrest := absurd hrest (by simp)
  nodup := h.nodup
  finished := h.finished
  others := h.others

omit [DecidableEq D] in
/-- The rollback of `t` gives up, and with it the loop. -/
theorem Restoring.gaveUp (h : Restoring w done s) (hintact : ∀ x ∈ done, BackupsIntact sha256 w x)
    (hdamaged : ¬ BackupsIntact sha256 w t) (hne : ∀ x ∈ done, x.id.base ≠ t.id.base)
    (hs : GaveUp s t s') : Stopped sha256 w (done ++ t :: rest) s' done (t :: rest) where
  split := rfl
  intact := hintact
  damaged x later hrest := (List.cons.inj hrest).1 ▸ hdamaged
  nodup := by
    rw [hs.journal]
    exact h.nodup
  finished x hx := by
    obtain ⟨hrecord, hold⟩ := h.finished x hx
    refine ⟨hs.journal.symm ▸ hrecord, hold.congr rfl rfl ?_ ?_⟩
    · exact hs.files _ (by simpa [Transaction.liveIdx] using hne x hx)
    · exact hs.files _ (by simp [Transaction.liveIdx, Transaction.liveSdx])
  others u hu hall := by
    rw [hs.journal]
    exact h.others u hu hall

/-- The loop of `rollback_rejected`, by induction on the transactions that are left. -/
theorem rollbackEach_stops (hw : RejectedBatch w volumeIds) (hfree : w.ScratchFree)
    (reason : String) :
    Hoare (servedExec sha256) (fun s => s = w)
      (Prog.forEach (w.rejected volumeIds) (rollback reason))
      (fun _ s => ∃ done rest, Stopped sha256 w (w.rejected volumeIds) s done rest)
      fun _ s => ∃ done rest, Stopped sha256 w (w.rejected volumeIds) s done rest := by
  -- one rollback: it restores its volume, or it gives up and the loop stops there
  have hstep : ∀ t rest, Hoare (servedExec sha256)
      (fun s => ∃ done, done ++ t :: rest = w.rejected volumeIds ∧
        (∀ x ∈ done, BackupsIntact sha256 w x) ∧ Restoring w done s) (rollback reason t)
      (fun _ s => ∃ done, done ++ rest = w.rejected volumeIds ∧
        (∀ x ∈ done, BackupsIntact sha256 w x) ∧ Restoring w done s)
      fun _ s => ∃ done rest, Stopped sha256 w (w.rejected volumeIds) s done rest := by
    intro t rest
    refine Hoare.of_start ?_
    rintro s₀ ⟨done, htargets, hintact, h⟩
    have ht : t ∈ w.rejected volumeIds := by
      rw [← htargets]
      simp
    have hne : ∀ x ∈ done, x.id.base ≠ t.id.base := by
      have hdistinct := hw.distinct
      rw [← htargets, List.map_append, List.nodup_append] at hdistinct
      exact fun x hx => hdistinct.2.2 _ (List.mem_map_of_mem hx) _ (by simp)
    have hfree' : s₀.ScratchFree := h.scratchFree hfree
    by_cases hgood : BackupsIntact sha256 w t
    · refine Discipline.Triple.mono (rollback_exact (h.backups_iff.2 hgood) (fun _ => hfree') reason)
        (fun _ _ h => h) (fun _ s _ hs => ?_) fun _ _ _ hfalse => absurd hfalse (by simp)
      refine ⟨done ++ [t], by simpa using htargets, fun x hx => ?_, h.step hne hs⟩
      rcases List.mem_append.1 hx with hx | hx
      · exact hintact x hx
      · exact List.mem_singleton.1 hx ▸ hgood
    · -- a backup that is damaged now was damaged at the start
      have hbad : ¬ BackupsIntact sha256 s₀ t := fun hnow => hgood (h.backups_iff.1 hnow)
      refine Discipline.Triple.mono (rollback_gives_up (hw.backupIdx t ht) (hw.backupSdx t ht) hfree'
        hbad reason) (fun _ _ h => h) (fun _ _ _ hfalse => absurd hfalse id) fun _ s _ hs => ?_
      exact ⟨done, t :: rest, htargets ▸ h.gaveUp hintact hgood hne hs⟩
  -- the loop: what was restored so far, followed by what is left
  refine Discipline.Triple.mono (Discipline.Triple.forEach
    (I := fun rest s => ∃ done, done ++ rest = w.rejected volumeIds ∧
      (∀ x ∈ done, BackupsIntact sha256 w x) ∧ Restoring w done s) hstep (w.rejected volumeIds))
    ?_ ?_ fun _ _ _ h => h
  · rintro s - rfl
    exact ⟨[], rfl, by simp, Restoring.start hw.nodup⟩
  · rintro _ s - ⟨done, hdone, hintact, h⟩
    rw [List.append_nil] at hdone
    exact ⟨done, [], hdone ▸ h.stopped hintact⟩

theorem rollbackRejected_stops (sha256 : Bytes → D) (hw : RejectedBatch w volumeIds) (hfree : w.ScratchFree)
    (reason : String) :
    Hoare (servedExec sha256) (fun s => s = w) (rollbackRejected volumeIds reason)
      (fun _ s => ∃ done rest, Stopped sha256 w (w.rejected volumeIds) s done rest)
      fun _ s => ∃ done rest, Stopped sha256 w (w.rejected volumeIds) s done rest := by
  refine Discipline.Triple.bind (Discipline.Triple.mono (awaiting_exact (P := fun s => s = w))
    (fun _ _ h => h) (fun _ _ _ h => h) fun _ _ _ hfalse => absurd hfalse (by simp)) fun ts => ?_
  refine Hoare.of_start ?_
  rintro _ ⟨rfl, rfl⟩
  exact rollbackEach_stops hw hfree reason

end

/-- When every request is served, `rollback_rejected` returns or raises, and it has then rolled back
every rejected volume with intact backups if and only if none of them comes, in the order of the
journal, after one whose backups are missing or changed. -/
theorem rollback_isolated_iff (sha256 : Bytes → D) (w : World D) (volumeIds : List Int)
    (hw : RejectedBatch w volumeIds) (hfree : w.ScratchFree) (reason : String) :
    (∀ cs : List (RepairChoice D), (∀ c ∈ cs, c.fault = .none) → ∀ outcome w',
      (rollbackRejected volumeIds reason).run (repairExec sha256) cs w = (outcome, w') →
      outcome ≠ .crashed →
      (IntactRolledBack sha256 volumeIds w w' ↔ IntactFirst sha256 w (w.rejected volumeIds))) ∧
    ∀ f : Nat → RepairChoice D, ∃ n, ((rollbackRejected volumeIds reason).run (repairExec sha256)
      ((List.range n).map f) w).1 ≠ .crashed := by
  refine ⟨fun cs hcs outcome w' hrun hend => ?_, fun f => Prog.exists_run _ _ f w⟩
  -- without faults the run is one of the reliable execution
  rw [← run_reliably cs _ w hcs] at hrun
  have hstops := rollbackRejected_stops sha256 hw hfree reason
  obtain ⟨done, rest, hstopped⟩ : ∃ done rest,
      Stopped sha256 w (w.rejected volumeIds) w' done rest := by
    cases outcome with
    | ok a => exact hstops.of_ok rfl hrun
    | raised e => exact hstops.of_raised rfl hrun
    | crashed => exact absurd rfl hend
  exact hstopped.intact_iff hw

/-! Two volumes that await validation. The backups of one of them are gone. -/

namespace IsolationSample

def files (lost : Int) : Path → Option Node
  | .liveIdx _ => some (.file [2] 0o644)
  | .backupIdx tx => if tx.base.volumeId = lost then none else some (.file [1] 0o644)
  | _ => none

def world (lost : Int) : World Bytes where
  journal := [BatchSample.transaction 1 none none, BatchSample.transaction 2 none none]
  files := files lost

theorem batch (lost : Int) : RejectedBatch (world lost) [1, 2] where
  nodup := by
    change ([BatchSample.transaction 1 none none, BatchSample.transaction 2 none none].map
      Transaction.id).Nodup
    decide
  distinct := by
    change ([BatchSample.transaction 1 none none, BatchSample.transaction 2 none none].map
      fun t => t.id.base).Nodup
    decide
  backupIdx t ht p hp := by
    have hmem : t ∈ (world lost).journal := (List.mem_filter.1 (List.mem_filter.1 ht).1).1
    simp only [world, List.mem_cons, List.not_mem_nil, or_false] at hmem
    rcases hmem with rfl | rfl <;> exact (Option.some.inj hp).symm
  backupSdx t ht p hp := by
    have hmem : t ∈ (world lost).journal := (List.mem_filter.1 (List.mem_filter.1 ht).1).1
    simp only [world, List.mem_cons, List.not_mem_nil, or_false] at hmem
    rcases hmem with rfl | rfl <;> exact absurd hp (by simp [BatchSample.transaction])

theorem intact_first : BackupsIntact id (world 2) (BatchSample.transaction 1 none none) :=
  ⟨rfl, fun _ h => absurd h (by simp [BatchSample.transaction]), _, rfl, rfl,
    fun _ h => absurd h (by simp [BatchSample.transaction])⟩

theorem intact_second : BackupsIntact id (world 1) (BatchSample.transaction 2 none none) :=
  ⟨rfl, fun _ h => absurd h (by simp [BatchSample.transaction]), _, rfl, rfl,
    fun _ h => absurd h (by simp [BatchSample.transaction])⟩

end IsolationSample

/-- The damaged volume is the last one, and the intact one is rolled back. -/
theorem rollback_isolated_of_last_damaged :
    ∃ n w', (rollbackRejected [1, 2] "").run (repairExec id)
        (List.replicate n ({} : RepairChoice Bytes)) (IsolationSample.world 2) =
          (.raised (.manual "repair backup is missing or changed"), w') ∧
      IntactRolledBack id [1, 2] (IsolationSample.world 2) w' := by
  have hrun : (rollbackRejected [1, 2] "").run (repairExec id)
      (List.replicate 12 ({} : RepairChoice Bytes)) (IsolationSample.world 2) =
        (.raised (.manual "repair backup is missing or changed"), _) := rfl
  refine ⟨12, _, hrun, ?_⟩
  refine ((rollback_isolated_iff id (IsolationSample.world 2) [1, 2] (IsolationSample.batch 2)
    (fun _ _ => rfl) "").1 _ ?_ _ _ hrun (by simp)).2 ?_
  · intro c hc
    rw [List.eq_of_mem_replicate hc]
  · intro earlier t later hsplit hdamaged u hu
    have htargets : (IsolationSample.world 2).rejected [1, 2] =
        [BatchSample.transaction 1 none none, BatchSample.transaction 2 none none] := by decide
    rw [htargets] at hsplit
    -- the first transaction is intact, and nothing follows the second one
    match earlier with
    | [] =>
        obtain ⟨rfl, -⟩ := List.cons.inj hsplit
        exact absurd IsolationSample.intact_first hdamaged
    | [_] =>
        obtain ⟨-, hrest⟩ := List.cons.inj hsplit
        obtain ⟨-, rfl⟩ := List.cons.inj hrest
        exact absurd hu List.not_mem_nil
    | _ :: _ :: _ =>
        simp at hsplit

/-- The damaged volume is the first one, and the intact one is not rolled back. -/
theorem first_damaged_blocks_rollback :
    ∃ n w', (rollbackRejected [1, 2] "").run (repairExec id)
        (List.replicate n ({} : RepairChoice Bytes)) (IsolationSample.world 1) =
          (.raised (.manual "repair backup is missing or changed"), w') ∧
      ¬ IntactRolledBack id [1, 2] (IsolationSample.world 1) w' := by
  refine ⟨2, IsolationSample.world 1, rfl, fun hall => ?_⟩
  obtain ⟨⟨u, hu, -, hmanual, -⟩, -⟩ := hall (BatchSample.transaction 2 none none) (by decide)
    IsolationSample.intact_second
  have hphase : ∀ x ∈ (IsolationSample.world 1).journal, x.phase = .awaitingUpstreamValidation := by
    decide
  rw [hphase u hu] at hmanual
  exact absurd hmanual (by decide)

end StorageNode.IndexRepair
