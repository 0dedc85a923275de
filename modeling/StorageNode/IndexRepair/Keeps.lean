import StorageNode.IndexRepair.Guard

/-!
# Permitted requests keep the invariant

One lemma for each way in which a request changes the state: a saved record, a started build, a
removed tail, and changes that touch neither the journal nor the log. `repairDiscipline` is the
result, and `operatorStep_keeps` adds the interference of `request_retry`.
-/

set_option autoImplicit false

namespace StorageNode.IndexRepair

open StorageNode.Program StorageNode.IndexHelper

variable {D : Type}

theorem ProvenBy.mono {log log' : List (Event D)} {id : TxId} {F : SourceFingerprint D}
    {d : Digest D} (h : ProvenBy log id F d) (hsub : ∀ e ∈ log, e ∈ log') :
    ProvenBy log' id F d := by
  obtain ⟨payload, hmem, hproof⟩ := h
  exact ⟨payload, hsub _ hmem, hproof⟩

theorem Backed.of_files {sha256 : Bytes → D} {w w' : World D} {t : Transaction D}
    (h : Backed sha256 w t) (hidx : w'.files (.backupIdx t.id) = w.files (.backupIdx t.id))
    (hsdx : w'.files (.backupSdx t.id) = w.files (.backupSdx t.id)) : Backed sha256 w' t := by
  obtain ⟨old, hold, hdigest, hsorted⟩ := h
  refine ⟨old, hold, ?_, fun sorted hs => ?_⟩
  · simpa only [fileDigest, World.contents, hidx] using hdigest
  · simpa only [fileDigest, World.contents, hsdx] using hsorted sorted hs

variable [DecidableEq D] {sha256 : Bytes → D} {clean tidy : Prop} {w w' : World D}

/-! ## Saved records -/

omit [DecidableEq D] in
/-- What holds of every record, and of the one that is saved, holds of every record afterwards. -/
theorem forall_saveRecord {kind : SaveKind} {t : Transaction D} {P : Transaction D → Prop}
    (hold : ∀ x ∈ w.journal, P x) (hnew : P t) : ∀ x ∈ (w.saveRecord kind t).journal, P x := by
  intro x hx
  rcases mem_saveTransaction.1 hx with ⟨hx, -⟩ | rfl
  · exact hold x hx
  · exact hnew

theorem RecordsInv.save {kind : SaveKind} {t : Transaction D} (h : RecordsInv sha256 w)
    (hs : SaveOk sha256 clean kind t w) : RecordsInv sha256 (w.saveRecord kind t) where
  nodup := nodup_saveTransaction h.nodup
  serial := forall_saveRecord h.serial hs.serial
  operators := by
    intro o ho
    obtain ⟨hphase, x, hx, hcore⟩ := h.operators o ho
    refine ⟨hphase, ?_⟩
    -- an operator's copy is of the saved record or of one that stays
    by_cases hid : x.id = t.id
    · exact ⟨t, by simp [World.saveRecord], hs.operators o ho (((core_eq hcore).1).symm.trans hid)⟩
    · exact ⟨x, by simp [World.saveRecord, hx, hid], hcore⟩
  proven := by
    apply forall_saveRecord
    · exact fun x hx d hd => (h.proven x hx d hd).mono fun e he => List.mem_cons_of_mem _ he
    · exact fun d hd => (hs.proven d hd).mono fun e he => List.mem_cons_of_mem _ he
  differs := forall_saveRecord h.differs hs.differs
  backed := by
    apply forall_saveRecord
    · exact fun x hx hp => (h.backed x hx hp).of_files rfl rfl
    · exact fun hp => (hs.backed hp).of_files rfl rfl
  paths := forall_saveRecord h.paths hs.paths
  refused := forall_saveRecord h.refused hs.refused

/-- A saved record of a source keeps a final phase that the source has reached. -/
theorem SaveOk.keeps_final {kind : SaveKind} {t : Transaction D}
    (hs : SaveOk sha256 clean kind t w) {F : SourceFingerprint D} {phase : Phase}
    (hphase : phase.terminal = true)
    (h : EverIn F phase w.log → ∃ x ∈ w.journal, x.sourceFingerprint = F ∧ x.phase = phase)
    (hever : EverIn F phase (w.saveRecord kind t).log) :
    ∃ x ∈ (w.saveRecord kind t).journal, x.sourceFingerprint = F ∧ x.phase = phase := by
  rcases everIn_cons.1 hever with hnew | hold
  · simp only [Event.isIn, decide_eq_true_eq] at hnew
    exact ⟨t, by simp [World.saveRecord], hnew.1, hnew.2⟩
  · obtain ⟨x, hx, hF, hp⟩ := h hold
    by_cases hid : x.id = t.id
    · refine ⟨t, by simp [World.saveRecord], (hs.source x hx hid).symm.trans hF, ?_⟩
      exact (hs.final x hx hid (hp ▸ hphase)).1.trans hp
    · exact ⟨x, by simp [World.saveRecord, hx, hid], hF, hp⟩

theorem RetryInv.save {kind : SaveKind} {t : Transaction D} (h : RetryInv w)
    (hs : SaveOk sha256 clean kind t w) (hr : RetryOk kind t w) :
    RetryInv (w.saveRecord kind t) where
  consumed_le := by
    intro F id
    have hle := h.consumed_le F id
    simp only [World.saveRecord, requested_saved, consumed_saved, hr.kind_ne, false_and, if_false]
    split
    · next hk =>
        obtain ⟨-, hcount⟩ := hr.consume hk.1
        rw [hk.2] at hcount
        by_cases hid : t.id = id
        · subst hid
          rw [List.count_cons_self]
          exact hcount
        · rw [List.count_cons_of_ne hid]
          exact hle
    · exact hle
  flagged := by
    intro x hx hflag
    simp only [World.saveRecord, mem_saveTransaction] at hx
    simp only [World.saveRecord, requested_saved, consumed_saved, hr.kind_ne, false_and, if_false]
    -- the other flags keep their request; the saved record has lost its flag if it consumed one
    rcases hx with ⟨hx, hid⟩ | rfl
    · have hle := h.flagged x hx hflag
      split
      · rw [List.count_cons_of_ne (Ne.symm hid)]
        exact hle
      · exact hle
    · split
      · next hk => exact absurd hflag (by simp [(hr.consume hk.1).1])
      · exact hr.flagged hflag
  blocked F := hs.keeps_final rfl (h.blocked F)
  verified F := hs.keeps_final rfl (h.verified F)
  late := by
    intro F
    have hle := h.late F
    simp only [World.saveRecord, lateBuilds_saved, consumed_saved]
    split
    · rw [List.length_cons]
      omega
    · exact hle
  matched := by
    intro F old hold
    -- a suffix of the new log is the whole of it or one of the old log
    rcases List.suffix_cons_iff.1 hold with rfl | hold
    · have hle := h.matched F w.log (List.suffix_refl _)
      simpa only [lateBuilds_saved, requested_saved, hr.kind_ne, false_and, if_false] using hle
    · exact h.matched F old hold
  final := by
    intro F id old hold
    rcases List.suffix_cons_iff.1 hold with heq | hold
    · exact absurd heq (by simp)
    · exact h.final F id old hold

theorem AttemptInv.save {kind : SaveKind} {t : Transaction D} (h : AttemptInv clean w)
    (hs : SaveOk sha256 clean kind t w) : AttemptInv clean (w.saveRecord kind t) where
  credit := by
    intro F hF
    have hle := h.credit F hF
    have hmono : (consumed F w.log).length ≤ (consumed F (w.saveRecord kind t).log).length := by
      simp only [World.saveRecord, consumed_saved]
      split <;> simp
    -- what is consumed never shrinks, so only a creation with an authorization needs the credit
    refine Nat.le_trans ?_ hmono
    simp only [World.saveRecord, authorizedCreations_saved]
    split
    · next hk =>
        obtain ⟨hk, rfl⟩ := hk
        exact hs.credit hk hF
    · exact hle
  created := by
    intro x hx hF
    have hmono : ∀ G id, id ∈ authorizedCreations G w.log →
        id ∈ authorizedCreations G (w.saveRecord kind t).log := by
      intro G id hid
      simp only [World.saveRecord, authorizedCreations_saved]
      split
      · exact List.mem_cons_of_mem _ hid
      · exact hid
    simp only [World.saveRecord, mem_saveTransaction] at hx
    rcases hx with ⟨hx, -⟩ | rfl
    · exact (h.created x hx hF).imp_left (hmono _ _)
    · rcases hs.created hF with hk | hid | hcount
      · exact .inl (by simp [World.saveRecord, hk])
      · exact .inl (hmono _ _ hid)
      · exact .inr hcount
  distinct := by
    intro x hx y hy hF hsame hxr hyr hcount
    simp only [World.saveRecord, mem_saveTransaction] at hx hy
    -- two records with one count: both old, one of them new, or the same
    rcases hx with ⟨hx, hxt⟩ | rfl <;> rcases hy with ⟨hy, hyt⟩ | rfl
    · exact h.distinct x hx y hy hF hsame hxr hyr hcount
    · exact absurd hcount (hs.distinct (hsame ▸ hF) hyr x hx hxt hsame hxr)
    · exact absurd hcount.symm (hs.distinct hF hxr y hy hyt hsame.symm hyr)
    · rfl
  charged := by
    intro F id hid
    simp only [World.saveRecord, builds_saved] at hid
    obtain ⟨hF, x, hx, hxid, hxF⟩ := h.charged F id hid
    refine ⟨hF, ?_⟩
    -- the record of a build keeps its source when it is saved again
    by_cases heq : x.id = t.id
    · exact ⟨t, by simp [World.saveRecord], heq.symm.trans hxid,
        (hs.source x hx heq).symm.trans hxF⟩
    · exact ⟨x, by simp [World.saveRecord, hx, heq], hxid, hxF⟩
  once hc F := h.once hc F
  unbuilt := by
    intro hc x hx hp F
    simp only [World.saveRecord, mem_saveTransaction] at hx
    simp only [World.saveRecord, builds_saved]
    rcases hx with ⟨hx, -⟩ | rfl
    · exact h.unbuilt hc x hx hp F
    · exact hs.unbuilt hc hp F

/-- A removed tail stays recorded, because a record in a final phase keeps its phase and its tail. -/
theorem SaveOk.keeps_tailRecord {kind : SaveKind} {t : Transaction D}
    (hs : SaveOk sha256 clean kind t w) {id : TxId} {offset : Nat} {tail : Bytes}
    (h : TailRecord sha256 w id offset tail) :
    TailRecord sha256 (w.saveRecord kind t) id offset tail := by
  obtain ⟨x, hx, hid, hphase, needleId, htail⟩ := h
  by_cases hxt : x.id = t.id
  · obtain ⟨hp, hin⟩ := hs.final x hx hxt (by rw [hphase]; rfl)
    exact ⟨t, by simp [World.saveRecord], hxt.symm.trans hid, hp.trans hphase, needleId,
      hin.trans htail⟩
  · exact ⟨x, by simp [World.saveRecord, hx, hxt], hid, hphase, needleId, htail⟩

theorem SaveOk.keeps_recorded {kind : SaveKind} {t : Transaction D}
    (hs : SaveOk sha256 clean kind t w) (h : Recorded sha256 w) :
    Recorded sha256 (w.saveRecord kind t) := by
  intro id offset tail hmem
  have hmem' : Event.truncated id offset tail ∈ w.log := by
    simpa [World.saveRecord] using hmem
  exact hs.keeps_tailRecord (h id offset tail hmem')

theorem RepairInv.save {kind : SaveKind} {t : Transaction D} (h : RepairInv sha256 clean tidy w)
    (hs : SaveOk sha256 clean kind t w) (hr : RetryOk kind t w)
    (htidy : tidy → kind = .transition → TailOk sha256 t w) :
    RepairInv sha256 clean tidy (w.saveRecord kind t) := by
  refine ⟨h.records.save hs, h.retry.save hs hr, h.attempt.save hs, fun ht hclosed => ?_⟩
  by_cases hbuilt : kind = .transition ∧ t.phase = .candidateBuilt
  · exact hs.keeps_recorded ((htidy ht hbuilt.1).built hbuilt.2)
  · refine hs.keeps_recorded (h.tail ht ?_)
    rw [← hclosed]
    cases kind with
    | transition =>
        have : t.phase ≠ .candidateBuilt := fun hp => hbuilt ⟨rfl, hp⟩
        simp [World.saveRecord, interrupted, this]
    | _ => rfl

/-! ## Changes outside the journal -/

/-- The journal and the promised backups are as before; serial numbers only grow. -/
structure SameRecords (w w' : World D) : Prop where
  journal : w'.journal = w.journal
  operators : w'.operators = w.operators
  nextSerial : w.nextSerial ≤ w'.nextSerial
  backups : ∀ t ∈ w.journal, t.phase.backed = true →
    w'.files (.backupIdx t.id) = w.files (.backupIdx t.id) ∧
      w'.files (.backupSdx t.id) = w.files (.backupSdx t.id)

omit [DecidableEq D] in
theorem SameRecords.refl (w : World D) : SameRecords w w :=
  ⟨rfl, rfl, Nat.le_refl _, fun _ _ _ => ⟨rfl, rfl⟩⟩

omit [DecidableEq D] in
/-- A permitted change of a file touches no promised backup. -/
theorem RecordsInv.backup_untouched (h : RecordsInv sha256 w) {p : Path} (hp : WriteOk p w)
    {t : Transaction D} (ht : t ∈ w.journal) (hphase : t.phase.backed = true) :
    p.isBackupOf t.id = false := by
  by_contra hne
  obtain ⟨u, hu, hid, hbuilt⟩ := hp t.id (by simpa using hne)
  obtain rfl := h.unique u hu t ht hid
  rw [hbuilt] at hphase
  exact absurd hphase (by decide)

omit [DecidableEq D] in
theorem RecordsInv.sameRecords_setFile (h : RecordsInv sha256 w) {p : Path} (hp : WriteOk p w)
    (node : Option Node) : SameRecords w (w.setFile p node) := by
  refine ⟨rfl, rfl, Nat.le_refl _, fun t ht hphase => ?_⟩
  have hfalse := h.backup_untouched hp ht hphase
  constructor
  · have : Path.backupIdx t.id ≠ p := by
      rintro rfl
      simp [Path.isBackupOf] at hfalse
    simp [World.setFile, this]
  · have : Path.backupSdx t.id ≠ p := by
      rintro rfl
      simp [Path.isBackupOf] at hfalse
    simp [World.setFile, this]

omit [DecidableEq D] in
theorem RecordsInv.frame (h : RecordsInv sha256 w) (hs : SameRecords w w')
    (hlog : ∀ e ∈ w.log, e ∈ w'.log) : RecordsInv sha256 w' where
  nodup := by
    rw [hs.journal]
    exact h.nodup
  serial := by
    rw [hs.journal]
    exact fun t ht => Nat.lt_of_lt_of_le (h.serial t ht) hs.nextSerial
  operators := by
    rw [hs.journal, hs.operators]
    exact h.operators
  proven := by
    rw [hs.journal]
    exact fun t ht d hd => (h.proven t ht d hd).mono hlog
  differs := by
    rw [hs.journal]
    exact h.differs
  backed := by
    rw [hs.journal]
    exact fun t ht hp => (h.backed t ht hp).of_files (hs.backups t ht hp).1 (hs.backups t ht hp).2
  paths := by
    rw [hs.journal]
    exact h.paths
  refused := by
    rw [hs.journal]
    exact h.refused

/-- A change that leaves the log alone keeps the invariant. -/
theorem RepairInv.frame (h : RepairInv sha256 clean tidy w) (hs : SameRecords w w')
    (hlog : w'.log = w.log) : RepairInv sha256 clean tidy w' := by
  refine ⟨h.records.frame hs (by simp [hlog]), ?_, ?_, ?_⟩
  · obtain ⟨h1, h2, h3, h4, h5, h6, h7⟩ := h.retry
    constructor <;> simpa only [hlog, hs.journal]
  · obtain ⟨h1, h2, h3, h4, h5, h6⟩ := h.attempt
    constructor <;> simpa only [hlog, hs.journal]
  · simpa only [Recorded, TailRecord, hlog, hs.journal] using h.tail

/-- An event that is no save and no build changes no count. -/
structure Event.Silent (e : Event D) : Prop where
  requested : ∀ F log, requested F (e :: log) = IndexRepair.requested F log
  consumed : ∀ F log, consumed F (e :: log) = IndexRepair.consumed F log
  authorized : ∀ F log, authorizedCreations F (e :: log) = authorizedCreations F log
  builds : ∀ F log, builds F (e :: log) = IndexRepair.builds F log
  late : ∀ F log, lateBuilds F (e :: log) = lateBuilds F log
  isIn : ∀ F phase, e.isIn F phase = false
  tail : ∀ log, interrupted (e :: log) = true ∨
    (interrupted (e :: log) = interrupted log ∧ ∀ id offset tail, e ≠ .truncated id offset tail)
  not_build : ∀ id F, e ≠ .build id F

theorem silent_built (id : TxId) (payload : HelperPayload D) : (Event.built id payload).Silent :=
  ⟨fun _ _ => rfl, fun _ _ => rfl, fun _ _ => rfl, fun _ _ => rfl, 
    fun F log => lateBuilds_built F log id payload, fun _ _ => rfl,
    fun _ => .inr ⟨rfl, fun _ _ _ => by simp⟩, fun _ _ => by simp⟩

theorem silent_truncated (id : TxId) (offset : Nat) (tail : Bytes) :
    (Event.truncated id offset tail : Event D).Silent :=
  ⟨fun _ _ => rfl, fun _ _ => rfl, fun _ _ => rfl, fun _ _ => rfl,
    fun F log => lateBuilds_truncated F log id offset tail, fun _ _ => rfl, fun _ => .inl rfl,
    fun _ _ => by simp⟩

theorem RepairInv.silent {e : Event D} (he : e.Silent) (h : RepairInv sha256 clean tidy w)
    (hs : SameRecords w w') (hlog : w'.log = e :: w.log) : RepairInv sha256 clean tidy w' := by
  have hever : ∀ F phase, EverIn F phase w'.log ↔ EverIn F phase w.log := by
    intro F phase
    rw [hlog, everIn_cons, he.isIn]
    simp
  refine ⟨h.records.frame hs (fun x hx => hlog ▸ List.mem_cons_of_mem _ hx), ?_, ?_, ?_⟩
  · obtain ⟨h1, h2, h3, h4, h5, h6, h7⟩ := h.retry
    refine ⟨?_, ?_, ?_, ?_, ?_, ?_, ?_⟩
    · simpa only [hlog, he.consumed, he.requested]
    · simpa only [hlog, he.consumed, he.requested, hs.journal]
    · simpa only [hever, hs.journal]
    · simpa only [hever, hs.journal]
    · simpa only [hlog, he.late, he.consumed]
    · intro F old hold
      rw [hlog] at hold
      rcases List.suffix_cons_iff.1 hold with rfl | hold
      · rw [he.late, he.requested]
        exact h6 F w.log (List.suffix_refl _)
      · exact h6 F old hold
    · intro F id old hold
      rw [hlog] at hold
      rcases List.suffix_cons_iff.1 hold with heq | hold
      · exact absurd (List.cons.inj heq).1.symm (he.not_build id F)
      · exact h7 F id old hold
  · obtain ⟨h1, h2, h3, h4, h5, h6⟩ := h.attempt
    constructor <;> simpa only [hlog, he.authorized, he.consumed, he.builds, hs.journal]
  · intro ht hclosed id offset tail hmem
    rw [hlog] at hclosed hmem
    -- a silent event either opens an interruption or leaves all cut tails as they were
    rcases he.tail w.log with hopen | ⟨hsame, hne⟩
    · exact absurd hclosed (by simp [hopen])
    · rw [TailRecord, hs.journal]
      refine h.tail ht (hsame ▸ hclosed) id offset tail ?_
      rcases List.mem_cons.1 hmem with heq | hmem
      · exact absurd heq.symm (hne id offset tail)
      · exact hmem

/-! ## Builds -/

theorem RepairInv.build {id : TxId} {F : SourceFingerprint D} (h : RepairInv sha256 clean tidy w)
    (hb : BuildOk clean id F w) (hs : SameRecords w w') (hlog : w'.log = .build id F :: w.log) :
    RepairInv sha256 clean tidy w' := by
  have hever : ∀ G phase, EverIn G phase w'.log ↔ EverIn G phase w.log := by
    intro G phase
    rw [hlog, everIn_cons]
    simp [Event.isIn]
  -- a build behind a block uses an authorization, since the permit of the build asks for one
  have hlate : ∀ G, lateBuilds G w'.log ≤ (consumed G w.log).length := by
    intro G
    have hle := h.retry.late G
    rw [hlog, lateBuilds]
    split
    · next hG =>
        obtain ⟨hid, hblocked⟩ := hG
        have hFG : F = G := by
          by_contra hne
          simp [Event.buildId, hne] at hid
        subst hFG
        exact hb.authorized (h.retry.blocked F hblocked)
    · exact hle
  have hrequested : ∀ G, (consumed G w.log).length ≤ (requested G w.log).length := by
    intro G
    exact (List.subperm_ext_iff.2 fun x _ => h.retry.consumed_le G x).length_le
  refine ⟨h.records.frame hs (fun x hx => hlog ▸ List.mem_cons_of_mem _ hx), ?_, ?_, ?_⟩
  · obtain ⟨h1, h2, h3, h4, h5, h6, h7⟩ := h.retry
    refine ⟨?_, ?_, ?_, ?_, ?_, ?_, ?_⟩
    · simpa only [hlog, consumed_build, requested_build]
    · simpa only [hlog, consumed_build, requested_build, hs.journal]
    · simpa only [hever, hs.journal]
    · simpa only [hever, hs.journal]
    · intro G
      simpa only [hlog, consumed_build] using hlate G
    · intro G old hold
      rw [hlog] at hold
      rcases List.suffix_cons_iff.1 hold with rfl | hold
      · rw [requested_build, ← hlog]
        -- used authorizations were requested before, each at most once
        exact Nat.le_trans (hlate G) (hrequested G)
      · exact h6 G old hold
    · intro G x old hold
      rw [hlog] at hold
      rcases List.suffix_cons_iff.1 hold with heq | hold
      · -- the new build: no transaction of the source is verified
        obtain ⟨hev, rfl⟩ := List.cons.inj heq
        obtain ⟨-, rfl⟩ := Event.build.inj hev
        intro hver
        obtain ⟨t, ht, hF, hphase⟩ := h4 _ hver
        exact hb.unverified t ht hF hphase
      · exact h7 G x old hold
  · obtain ⟨h1, h2, h3, h4, h5, h6⟩ := h.attempt
    refine ⟨?_, ?_, ?_, ?_, ?_, ?_⟩
    · simpa only [hlog, consumed_build, authorizedCreations_build]
    · simpa only [hlog, authorizedCreations_build, hs.journal]
    · simpa only [hs.journal]
    · intro G x hx
      rw [hs.journal]
      rw [hlog, builds_build] at hx
      split at hx
      · next hFG =>
          subst hFG
          rcases List.mem_cons.1 hx with rfl | hx
          · obtain ⟨t, ht, hid, hF, -⟩ := hb.current
            -- the new build belongs to the transaction in hand
            exact ⟨hb.known, t, ht, hid, hF⟩
          · exact h4 F x hx
      · exact h4 G x hx
    · intro hc G
      rw [hlog, builds_build]
      split
      · exact List.nodup_cons.2 ⟨hb.first hc G, h5 hc G⟩
      · exact h5 hc G
    · intro hc t ht hphase G
      rw [hs.journal] at ht
      rw [hlog, builds_build]
      have hnot := h6 hc t ht hphase G
      split
      · intro hmem
        rcases List.mem_cons.1 hmem with heq | hmem
        -- no other transaction has the id of the one that builds
        · obtain ⟨u, hu, hid, -, hbuilding⟩ := hb.current
          obtain rfl := h.records.unique u hu t ht (hid.trans heq.symm)
          rw [hbuilding] at hphase
          exact absurd hphase (by decide)
        · exact hnot hmem
      · exact hnot
  · intro ht hclosed x offset tail hmem
    rw [hlog] at hclosed hmem
    rw [TailRecord, hs.journal]
    refine h.tail ht hclosed x offset tail ?_
    simpa using hmem

/-! ## The discipline -/

theorem RepairInv.setFile (h : RepairInv sha256 clean tidy w) {p : Path} (hp : WriteOk p w)
    (node : Option Node) : RepairInv sha256 clean tidy (w.setFile p node) :=
  h.frame (h.records.sameRecords_setFile hp node) rfl

theorem RepairInv.attempted (h : RepairInv sha256 clean tidy w) (h' : RepairInv sha256 clean tidy w')
    (c : RepairChoice D) : RepairInv sha256 clean tidy (attempted c w w').2 := by
  unfold IndexRepair.attempted
  cases c.fault with
  | none => exact h'
  | before => exact h
  | after => exact h'

omit [DecidableEq D] in
theorem WriteOk.setFile {p q : Path} (hp : WriteOk p w) (node : Option Node) :
    WriteOk p (w.setFile q node) :=
  hp

omit [DecidableEq D] in
/-- Paths that are no backup of any transaction. -/
theorem writeOk_of_not_backup {p : Path} (hp : ∀ id, p.isBackupOf id = false) : WriteOk p w := by
  intro id hid
  rw [hp id] at hid
  exact absurd hid (by simp)

omit [DecidableEq D] in
/-- The tail helper touches the data file, the tail backup and the staged candidate. -/
theorem sameRecords_tailEnd (w : World D) (id : TxId) (mode : Nat) (before after : HelperState D) :
    SameRecords w (tailEnd w id mode before after) := by
  have hfiles : ∀ tx, (tailEnd w id mode before after).files (.backupIdx tx) = w.files (.backupIdx tx) ∧
      (tailEnd w id mode before after).files (.backupSdx tx) = w.files (.backupSdx tx) := by
    intro tx
    unfold tailEnd
    split <;> split <;> simp [World.setFile]
  have hrest : (tailEnd w id mode before after).journal = w.journal ∧
      (tailEnd w id mode before after).operators = w.operators ∧
      (tailEnd w id mode before after).nextSerial = w.nextSerial := by
    unfold tailEnd
    split <;> split <;> simp [World.setFile]
  exact ⟨hrest.1, hrest.2.1, hrest.2.2 ▸ Nat.le_refl _, fun t _ _ => hfiles t.id⟩

omit [DecidableEq D] in
theorem tailEnd_log (w : World D) (id : TxId) (mode : Nat) (before after : HelperState D) :
    (tailEnd w id mode before after).log = w.log ∨
      (tailEnd w id mode before after).log = .truncated id after.source.length
        (before.source.drop after.source.length) :: w.log := by
  unfold tailEnd
  by_cases h : after.source = before.source
  · left
    simp only [h, if_true]
    split <;> rfl
  · right
    simp only [h, if_false]
    split <;> rfl

theorem RepairInv.exec (r : RepairReq D) (c : RepairChoice D) (h : RepairInv sha256 clean tidy w)
    (hp : Permit sha256 clean tidy r w) : RepairInv sha256 clean tidy (repairExec sha256 r c w).2 := by
  cases r with
  | now => exact h.frame ⟨rfl, rfl, Nat.le_refl _, fun _ _ _ => ⟨rfl, rfl⟩⟩ rfl
  | uuid base => exact h.frame ⟨rfl, rfl, Nat.le_succ _, fun _ _ _ => ⟨rfl, rfl⟩⟩ rfl
  | scratchName _ => exact h.frame ⟨rfl, rfl, Nat.le_succ _, fun _ _ _ => ⟨rfl, rfl⟩⟩ rfl
  | load => exact h
  | node p => exact h
  | hash p => exact h
  | sync => exact h
  | preflight => exact h
  | save kind t => exact h.attempted (h.save hp.1 hp.2.1 hp.2.2) c
  | unlink p => exact h.attempted (h.setFile hp none) c
  | copy source destination mode =>
      simp only [repairExec, copied]
      split
      · cases c.fault with
        | none => exact h.setFile hp _
        | before => exact h.setFile hp _
        | after => exact h.setFile hp _
      · exact h
  | link source destination =>
      cases hsource : w.files source with
      | none => simpa [repairExec, hsource] using h
      | some node =>
          cases hdestination : w.files destination with
          | none => simpa [repairExec, hsource, hdestination] using h.attempted (h.setFile hp _) c
          | some existing => simpa [repairExec, hsource, hdestination] using h
  | replace source destination =>
      simp only [repairExec]
      split
      · exact h.attempted ((h.setFile hp.2.1 _).setFile (hp.1.setFile _) none) c
      · exact h
  | removeStaging id =>
      simp only [repairExec]
      split
      · exact h.setFile (writeOk_of_not_backup fun _ => rfl) none
      · exact h
  | build id F =>
      have hstaged : SameRecords w (w.setFile (.candidate id) c.staged) :=
        h.records.sameRecords_setFile (writeOk_of_not_backup fun _ => rfl) _
      -- the candidate is staged before the helper answers, and whatever it answers
      have hbuild : RepairInv sha256 clean tidy { w.setFile (.candidate id) c.staged with
          log := .build id F :: w.log } :=
        h.build hp ⟨hstaged.1, hstaged.2, hstaged.3, hstaged.4⟩ rfl
      simp only [repairExec]
      split
      · next payload _ =>
          exact hbuild.silent (silent_built id payload) ⟨rfl, rfl, Nat.le_refl _, fun _ _ _ => ⟨rfl, rfl⟩⟩ rfl
      · exact hbuild
  | recoverTail id expected limit =>
      simp only [repairExec]
      split
      · exact h
      · exact h
      · generalize (recoverIncompleteTail sha256 _).run _ _ _ = finish
        rcases tailEnd_log w id _ _ finish.2 with hlog | hlog
        · exact h.frame (sameRecords_tailEnd w id _ _ finish.2) hlog
        · exact h.silent (silent_truncated _ _ _) (sameRecords_tailEnd w id _ _ finish.2) hlog

/-- The rules that every program of the controller follows. -/
def repairDiscipline (sha256 : Bytes → D) (clean tidy : Prop) : Discipline (repairExec sha256) where
  inv := RepairInv sha256 clean tidy
  disturb := Interference
  allow := Permit sha256 clean tidy
  refl := Interference.refl
  trans := Interference.trans
  keeps r c _ h hp := h.exec r c hp

/-! ## Operator steps -/

omit [DecidableEq D] in
/-- The record of a transaction whose copy an operator holds. -/
theorem RecordsInv.operator_record (h : RecordsInv sha256 w) {o : Transaction D}
    (ho : o ∈ w.operators) :
    ∃ t ∈ w.journal, t.id = o.id ∧ t.phase = .manualInterventionRequired ∧ t.core = o.core := by
  obtain ⟨hphase, t, ht, hcore⟩ := h.operators o ho
  exact ⟨t, ht, (core_eq hcore).1, (core_eq hcore).2.1.trans hphase, hcore⟩

/-- Saving a record that differs from the journaled one in the operator's fields only. -/
theorem RepairInv.saveOk_of_core (h : RepairInv sha256 clean tidy w) {kind : SaveKind}
    (hkind : ∀ a, kind ≠ .create a) {t u : Transaction D} (hu : u ∈ w.journal)
    (hcore : u.core = t.core) (hphase : t.phase = .manualInterventionRequired) :
    SaveOk sha256 clean kind t w := by
  obtain ⟨hid, hp, hF, hcount, -, hcandidate, -, -, -, htail, -, hpathc, hpatht,
    hstaging⟩ := core_eq hcore
  -- ids are unique, so the record to be replaced is the one with the same core
  have hsame : ∀ x ∈ w.journal, x.id = t.id → x = u :=
    fun x hx hxid => h.records.unique x hx u hu (hxid.trans hid.symm)
  refine ⟨hid ▸ h.records.serial u hu, ?_, ?_, ?_, ?_, ?_, ?_, ?_, ?_, ?_, ?_, ?_, fun _ => hphase⟩
  · intro o ho hoid
    -- a copy that an operator holds has the core of its record
    obtain ⟨x, hx, hxid, -, hxcore⟩ := h.records.operator_record ho
    obtain rfl := hsame x hx (hxid.trans hoid)
    exact hcore.symm.trans hxcore
  · intro d hd
    rw [← hid, ← hF]
    exact h.records.proven u hu d (hcandidate.trans hd)
  · rw [hphase]
    exact fun hfalse => absurd hfalse (by decide)
  · rw [hphase]
    exact fun hfalse => absurd hfalse (by decide)
  · obtain ⟨hpc, hpt, hst⟩ := h.records.paths u hu
    rw [hid] at hpc hpt hst
    exact ⟨by rwa [hpathc] at hpc, by rwa [hpatht] at hpt, by rwa [hstaging] at hst⟩
  · intro x hx hxid
    rw [hsame x hx hxid, hF]
  · intro x hx hxid _
    rw [hsame x hx hxid]
    exact ⟨hp.symm, htail.symm⟩
  · exact fun hk => absurd hk (hkind true)
  · intro hknown
    have := h.attempt.created u hu (hF ▸ hknown)
    rw [hid, hF, hcount] at this
    exact .inr this
  · intro hknown _ x hx hxid hxF hxr hxcount
    refine hxid ((h.attempt.distinct x hx u hu (hxF ▸ hknown) (hxF.trans hF.symm) hxr ?_ ?_).trans hid)
    · rw [hp, hphase]
      decide
    · rw [hxcount, hcount]
  · rw [hphase]
    exact fun _ hfalse => absurd hfalse (by decide)

theorem RetryInv.retry {t : Transaction D} (h : RetryInv w) (hs : SaveOk sha256 clean .retry t w) :
    RetryInv (w.saveRecord .retry t) where
  -- a retry adds one to what was requested, so that the inequality can only get wider
  consumed_le := by
    intro F id
    have hle := h.consumed_le F id
    simp only [World.saveRecord, requested_saved, consumed_saved, reduceCtorEq, false_and, if_false,
      true_and]
    split
    · exact Nat.le_trans hle (List.count_le_count_cons)
    · exact hle
  flagged := by
    intro x hx hflag
    simp only [World.saveRecord, mem_saveTransaction] at hx
    simp only [World.saveRecord, requested_saved, consumed_saved, reduceCtorEq, false_and, if_false,
      true_and]
    rcases hx with ⟨hx, hid⟩ | rfl
    · have hle := h.flagged x hx hflag
      split
      · exact Nat.le_trans hle (List.count_le_count_cons)
      · exact hle
    · have hle := h.consumed_le x.sourceFingerprint x.id
      rw [if_pos rfl, List.count_cons_self]
      omega
  blocked F := hs.keeps_final rfl (h.blocked F)
  verified F := hs.keeps_final rfl (h.verified F)
  late := by
    intro F
    simpa [World.saveRecord] using h.late F
  -- a suffix of the log is the whole log after the save, or one from before it
  matched := by
    intro F old hold
    rcases List.suffix_cons_iff.1 hold with rfl | hold
    · have hle := h.matched F w.log (List.suffix_refl _)
      simp only [lateBuilds_saved, requested_saved, true_and]
      split
      · rw [List.length_cons]
        omega
      · exact hle
    · exact h.matched F old hold
  final := by
    intro F id old hold
    rcases List.suffix_cons_iff.1 hold with heq | hold
    · exact absurd heq (by simp)
    · exact h.final F id old hold

/-- A `request_retry` call keeps the invariant and disturbs the controller only as `Interference`
says. -/
theorem operatorStep_keeps (h : RepairInv sha256 clean tidy w) (hstep : OperatorStep w w') :
    RepairInv sha256 clean tidy w' ∧ Interference w w' := by
  cases hstep with
  | load t hlatest =>
      obtain ⟨ht, hphase⟩ := List.mem_filter.1 (latestOf_mem hlatest)
      refine ⟨⟨⟨h.records.nodup, h.records.serial, ?_, h.records.proven, h.records.differs,
        h.records.backed, h.records.paths, h.records.refused⟩, ⟨h.retry.1, h.retry.2, h.retry.3, h.retry.4, h.retry.5, h.retry.6,
          h.retry.7⟩, ⟨h.attempt.1, h.attempt.2, h.attempt.3, h.attempt.4, h.attempt.5,
          h.attempt.6⟩, h.tail⟩, ⟨rfl, rfl, fun _ _ => Iff.rfl, fun u hu => ⟨u, hu, rfl⟩,
          fun u hu => ⟨u, hu, rfl⟩, [], rfl, fun _ he => absurd he List.not_mem_nil⟩⟩
      intro o ho
      rcases List.mem_cons.1 ho with rfl | ho
      · exact ⟨by simpa using hphase, o, ht, rfl⟩
      · exact h.records.operators o ho
  | save t elapsed others later hops =>
      have hmem : t ∈ w.operators := by simp [hops]
      have hsub : ∀ o, o ∈ others ++ later → o ∈ w.operators := by
        intro o ho
        rw [hops]
        simp only [List.mem_append, List.mem_cons] at ho ⊢
        tauto
      obtain ⟨hphase, u, hu, hcore⟩ := h.records.operators t hmem
      -- the world with the operator's copy taken out and the clock advanced
      have h' : RepairInv sha256 clean tidy
          { w with clock := w.clock + 1 + elapsed, operators := others ++ later } :=
        ⟨⟨h.records.nodup, h.records.serial, fun o ho => h.records.operators o (hsub o ho),
          h.records.proven, h.records.differs, h.records.backed, h.records.paths, h.records.refused⟩,
          ⟨h.retry.1, h.retry.2, h.retry.3, h.retry.4, h.retry.5, h.retry.6, h.retry.7⟩,
          ⟨h.attempt.1, h.attempt.2, h.attempt.3, h.attempt.4, h.attempt.5, h.attempt.6⟩, h.tail⟩
      have hcore' : u.core = Transaction.core { t with
          operatorRetryRequestedAt := some (w.clock + 1 + elapsed), operatorRetryConsumed := false } :=
        hcore
      have hs : SaveOk sha256 clean .retry _ _ := h'.saveOk_of_core (by simp) hu hcore' hphase
      refine ⟨⟨h'.records.save hs, h'.retry.retry hs, h'.attempt.save hs,
        fun ht hclosed => hs.keeps_recorded (h'.tail ht hclosed)⟩, ⟨rfl, rfl, ?_, ?_, ?_,
        [_], rfl, fun e he => ⟨_, List.mem_singleton.1 he⟩⟩⟩
      · intro x hx
        simp only [World.saveRecord, mem_saveTransaction]
        constructor
        · rintro (⟨hx', -⟩ | rfl)
          · exact hx'
          · exact absurd hphase hx
        · intro hx'
          refine .inl ⟨hx', fun hid => hx ?_⟩
          obtain rfl := h.records.unique x hx' u hu (hid.trans (core_eq hcore).1.symm)
          exact (core_eq hcore).2.1.trans hphase
      · intro x hx
        simp only [World.saveRecord, mem_saveTransaction] at hx
        rcases hx with ⟨hx, -⟩ | rfl
        · exact ⟨x, hx, rfl⟩
        · exact ⟨u, hu, hcore'⟩
      · intro x hx
        simp only [World.saveRecord, mem_saveTransaction]
        by_cases hid : x.id = t.id
        · obtain rfl := h.records.unique x hx u hu (hid.trans (core_eq hcore).1.symm)
          exact ⟨_, .inr rfl, hcore'.symm⟩
        · exact ⟨x, .inl ⟨hx, hid⟩, rfl⟩

end StorageNode.IndexRepair
