import StorageNode.IndexRepair.BatchValidation
import StorageNode.IndexRepair.Requests
import StorageNode.IndexRepair.InstallCrash

/-!
# Rollback under crashes

A rollback restores two files and journals `rolled_back` after that. `rollback_recovered_iff` says
which crash points `prepare_offline` recovers from: those after this save. Before it nothing in the
journal says that a rollback has begun, so a restart reads the files under the rules of an installed
candidate and never completes it (`half_rolled_back`).

Restarts may themselves fail or be cut off, any number of times; the last one returns.
-/

set_option autoImplicit false

namespace StorageNode.IndexRepair

open StorageNode.Program StorageNode.IndexHelper RepairProg

variable {D : Type}

/-! ## Statement -/

/-- `t` awaits validation with intact backups, and no other transaction of its volume is being
installed. -/
structure AwaitingRollback (sha256 : Bytes → D) (w : World D) (t : Transaction D) : Prop where
  nodup : (w.journal.map Transaction.id).Nodup
  mem : t ∈ w.journal
  awaiting : t.phase.pendingValidation = true
  unmarked : t.rolledBack = false
  backups : BackupsIntact sha256 w t
  paths : ∀ u ∈ w.journal, PathsOk u
  apart : ∀ u ∈ w.journal, u.id ≠ t.id → u.phase.midInstall = true → u.id.base ≠ t.id.base
  scratch : w.ScratchFree

/-- The number of requests of `_rollback` up to the save of `rolled_back`. A sorted index takes four
requests to restore, and one to remove. -/
def rollbackSaved (t : Transaction D) : Nat :=
  if t.oldSdx.isSome then 11 else 8

/-- A crash during a copy leaves anything in a temporary file. -/
structure CrashState (s s' : World D) : Prop where
  journal : s'.journal = s.journal
  files : ∀ p, (∀ name, p ≠ .scratch name) → s'.files p = s.files p

/-- The old files are back, and the journal says so and asks for an operator. -/
structure RollbackComplete (w s : World D) (t : Transaction D) : Prop where
  files : OldFilesBack w s t
  record : ∃ u ∈ s.journal, u.id = t.id ∧ u.phase = .manualInterventionRequired ∧ u.rolledBack = true

variable [DecidableEq D]

/-- A restart that ends anywhere in `prepare_offline`. -/
def Restart (sha256 : Bytes → D) (s s' : World D) : Prop :=
  ∃ cs, s' = prepareOffline.after (repairExec sha256) cs s

/-! ## `prepare_offline` with an invariant -/

section

variable {sha256 : Bytes → D} {I P : World D → Prop}

/-- The contract of a program that may be cut off at any request. -/
def KeepsAt (sha256 : Bytes → D) (I : World D → Prop) {α : Type} (P : World D → Prop)
    (p : RepairProg D α) (Q : α → World D → Prop) : Prop :=
  (Discipline.keeping (repairExec sha256) I).Triple P p Q fun _ _ => True

theorem KeepsAt.of_issues {α : Type} {K : RepairReq D → Prop} {p : RepairProg D α} (hp : p.Issues K)
    (hK : ∀ r c s, K r → I s → P s → I (repairExec sha256 r c s).2 ∧ P (repairExec sha256 r c s).2) :
    KeepsAt sha256 I P p fun _ => P :=
  Discipline.Triple.mono (Discipline.Triple.of_issues (d := Discipline.keeping (repairExec sha256) I)
    (Discipline.keeping.stable P)
    (fun r s hr hs hp => ⟨fun c => (hK r c s hr hs hp).1, fun c => (hK r c s hr hs hp).2⟩) hp)
    (fun _ _ h => h) (fun _ _ _ h => h) fun _ _ _ _ => trivial

theorem transactions_keepsAt :
    KeepsAt sha256 I P transactions fun ts s => P s ∧ ts = s.journal := by
  refine Discipline.Triple.bind (M := fun answer s => P s ∧ ∀ ts, answer = some ts → ts = s.journal)
    (Discipline.keeping.ask fun c s hs hp => ⟨hs, hp, ?_⟩) fun answer => ?_
  · intro ts hts
    by_cases hfault : c.fault = .none
    · exact Option.some.inj (hts.symm.trans (if_pos hfault))
    · exact absurd (hts.symm.trans (if_neg hfault)) (by simp)
  · exact Discipline.Triple.orRaise (fun _ _ _ _ => trivial) fun ts hts s _ h => ⟨h.1, h.2 ts hts⟩

/-- `prepare_offline` keeps what each of its iterations keeps, and ends with what the loop
establishes. -/
theorem prepareOffline_keepsAt {L : List (Transaction D) → World D → Prop} {G : World D → Prop}
    (hstart : ∀ s, I s → P s → L s.journal s)
    (hbody : ∀ t ts, KeepsAt sha256 I (L (t :: ts)) (prepareOne t) fun _ => L ts)
    (hend : ∀ s, I s → L [] s → G s) :
    KeepsAt sha256 I P prepareOffline fun _ => G := by
  have hsync : KeepsAt sha256 I P fsyncDirectory fun _ => P :=
    KeepsAt.of_issues (K := fun r => r = .sync) (issues_fsync rfl)
      (by rintro _ c s rfl hs hp; exact ⟨hs, hp⟩)
  refine Discipline.Triple.bind hsync fun _ => ?_
  refine Discipline.Triple.bind transactions_keepsAt fun ts => ?_
  have hloop := Discipline.Triple.forEach (d := Discipline.keeping (repairExec sha256) I)
    (E := fun _ _ => True) hbody ts
  refine Discipline.Triple.bind (Discipline.Triple.pre hloop ?_) fun _ => ?_
  · rintro s hs ⟨hp, rfl⟩
    exact hstart s hs hp
  · refine Discipline.Triple.bind (M := fun _ => L []) ?_ fun _ =>
      Discipline.Triple.ret fun s hs h => hend s hs h
    refine Discipline.Triple.bind transactions_keepsAt fun ts => ?_
    exact Discipline.Triple.ret fun _ _ h => h.1

end

/-! ## Before the save -/

/-- No record of the transaction is marked as rolled back. -/
structure Unmarked (id : TxId) (s : World D) : Prop where
  marks : ∀ u ∈ s.journal, u.id = id → u.rolledBack = false
  paths : ∀ u ∈ s.journal, PathsOk u

/-- Requests that mark no record. -/
def MarksNone (id : TxId) (r : RepairReq D) : Prop :=
  ∀ u, r.saves = some u → (u.id = id → u.rolledBack = false) ∧ PathsOk u

section

variable {sha256 : Bytes → D} {id : TxId} {s : World D}

theorem Unmarked.step (h : Unmarked id s) {r : RepairReq D} (hr : MarksNone id r)
    (c : RepairChoice D) : Unmarked id (repairExec sha256 r c s).2 := by
  have hmem : ∀ v ∈ (repairExec sha256 r c s).2.journal, v ∈ s.journal ∨ r.saves = some v := by
    intro v hv
    rcases repairExec_journal sha256 r c s with heq | ⟨u, hu, heq⟩
    · exact .inl (heq ▸ hv)
    · rw [heq] at hv
      rcases mem_saveTransaction.1 hv with ⟨hv, -⟩ | rfl
      · exact .inl hv
      · exact .inr hu
  refine ⟨fun v hv hid => ?_, fun v hv => ?_⟩
  · rcases hmem v hv with hv | hsaved
    · exact h.marks v hv hid
    · exact (hr v hsaved).1 hid
  · rcases hmem v hv with hv | hsaved
    · exact h.paths v hv
    · exact (hr v hsaved).2

omit [DecidableEq D] in
theorem marksNone_handles {t : Transaction D} (hmark : t.id = id → t.rolledBack = false)
    (hpaths : PathsOk t) : Handles (MarksNone id) t where
  looks r hr u hu := absurd (hu.symm.trans (RepairReq.saves_of_looks hr)) (by simp)
  paths := hpaths
  save u hu v hv := by
    obtain rfl := Option.some.inj hv
    exact ⟨fun hid => hu.rolledBack.trans (hmark (hu.id.symm.trans hid)), hu.paths⟩
  unlinkSdx u hu := absurd hu (by simp [RepairReq.saves])
  unlinkTemporary u hu := absurd hu (by simp [RepairReq.saves])
  copy _ _ u hu := absurd hu (by simp [RepairReq.saves])
  install u hu := absurd hu (by simp [RepairReq.saves])

/-- `prepare_offline` never marks a record as rolled back. -/
theorem prepareOffline_unmarked :
    KeepsAt sha256 (Unmarked id) (fun _ => True) prepareOffline fun _ _ => True := by
  refine prepareOffline_keepsAt
    (L := fun ts _ => ∀ t ∈ ts, (t.id = id → t.rolledBack = false) ∧ PathsOk t) ?_ ?_ fun _ _ _ => trivial
  · exact fun s hs _ t ht => ⟨hs.marks t ht, hs.paths t ht⟩
  · intro t ts s hs hts
    obtain ⟨hmark, hpaths⟩ := hts t List.mem_cons_self
    have hbody : KeepsAt sha256 (Unmarked id) (fun _ => True) (prepareOne t) fun _ _ => True :=
      KeepsAt.of_issues (prepareOne_issues (marksNone_handles hmark hpaths).looks hpaths
        (fun _ => marksNone_handles hmark hpaths) fun u hu _ => (marksNone_handles hmark hpaths).save u hu)
        fun r c s hr hs _ => ⟨hs.step hr c, trivial⟩
    exact Discipline.Triple.post hbody
      (fun _ _ _ _ u hu => hts u (List.mem_cons_of_mem _ hu)) s hs trivial

theorem Unmarked.restarts (h : Unmarked id s) {s' : World D}
    (hs : Relation.ReflTransGen (Restart sha256) s s') : Unmarked id s' := by
  induction hs with
  | refl => exact h
  | tail _ hstep ih =>
      obtain ⟨cs, rfl⟩ := hstep
      exact Discipline.keeping.after prepareOffline_unmarked ih trivial cs

end

/-! ## After the save -/

/-- The old files of `t` are back and its record is marked. -/
structure Undone (w : World D) (t : Transaction D) (s : World D) : Prop where
  old : OldFilesBack w s t
  nodup : (s.journal.map Transaction.id).Nodup
  found : ∃ u ∈ s.journal, u.id = t.id
  marks : ∀ u ∈ s.journal, u.id = t.id → u.rolledBack = true ∧
    (u.phase = .rolledBack ∨ u.phase = .manualInterventionRequired)
  paths : ∀ u ∈ s.journal, PathsOk u
  apart : ∀ u ∈ s.journal, u.id ≠ t.id → u.phase.midInstall = true → u.id.base ≠ t.id.base

/-- A record that may be saved beside that of `t`. -/
structure Beside (t u : Transaction D) : Prop where
  id_ne : u.id ≠ t.id
  paths : PathsOk u
  apart : u.phase.midInstall = true → u.id.base ≠ t.id.base

/-- Requests that touch neither the record of `t` nor its live files. -/
structure Spares (t : Transaction D) (r : RepairReq D) : Prop where
  save : ∀ u, r.saves = some u → Beside t u
  idx : ¬ r.Writes t.liveIdx
  sdx : ¬ r.Writes t.liveSdx

section

variable {sha256 : Bytes → D} {w s : World D} {t x : Transaction D}

omit [DecidableEq D] in
theorem Spares.of_looks (r : RepairReq D) (h : r.looks = true) : Spares t r :=
  ⟨fun u hu => absurd (hu.symm.trans (RepairReq.saves_of_looks h)) (by simp),
    RepairReq.not_writes_of_looks h _, RepairReq.not_writes_of_looks h _⟩

omit [DecidableEq D] in
theorem Beside.spares_save {u : Transaction D} (h : Beside t u) (kind : SaveKind) :
    Spares t (.save kind u) :=
  ⟨fun _ hv => Option.some.inj hv ▸ h, id, id⟩

omit [DecidableEq D] in
theorem Beside.handles (h : Beside t x) (hmid : x.phase.midInstall = true) :
    Handles (Spares t) x := by
  have hbase := h.apart hmid
  have hnone : ∀ r : RepairReq D, r.saves = none → ∀ u, r.saves = some u → Beside t u :=
    fun r hr u hu => absurd (hu.symm.trans hr) (by simp)
  refine ⟨Spares.of_looks, h.paths, fun u hu => ?_, ⟨hnone _ rfl, ?_, ?_⟩, ⟨hnone _ rfl, ?_, ?_⟩,
    fun source mode => ⟨hnone _ rfl, ?_, ?_⟩, ⟨hnone _ rfl, ?_, ?_⟩⟩
  · exact Beside.spares_save ⟨hu.id ▸ h.id_ne, hu.paths, fun _ => hu.id ▸ hbase⟩ _
  all_goals simp [RepairReq.Writes, Transaction.liveIdx, Transaction.liveSdx, Ne.symm hbase]

theorem Beside.prepareOne_issues (h : Beside t x) : (prepareOne x).Issues (Spares t) := by
  refine IndexRepair.prepareOne_issues Spares.of_looks h.paths h.handles fun u hu hphase => ?_
  refine Beside.spares_save ⟨hu.id ▸ h.id_ne, hu.paths, fun hmid => ?_⟩ _
  rw [hphase] at hmid
  exact absurd hmid (by decide)

omit [DecidableEq D] in
/-- A record beside that of `t` is saved. -/
theorem Undone.saved (h : Undone w t s) {u : Transaction D} (hu : Beside t u) {s' : World D}
    (hidx : s'.files t.liveIdx = s.files t.liveIdx) (hsdx : s'.files t.liveSdx = s.files t.liveSdx)
    (hjournal : s'.journal = saveTransaction s.journal u) : Undone w t s' := by
  have hmem : ∀ v ∈ s'.journal, v ∈ s.journal ∨ v = u := by
    intro v hv
    rw [hjournal] at hv
    rcases mem_saveTransaction.1 hv with ⟨hv, -⟩ | rfl
    · exact .inl hv
    · exact .inr rfl
  refine ⟨h.old.congr rfl rfl hidx hsdx, hjournal ▸ nodup_saveTransaction h.nodup, ?_,
    fun v hv hid => ?_, fun v hv => ?_, fun v hv hid hmid => ?_⟩
  · obtain ⟨v, hv, hid⟩ := h.found
    exact ⟨v, hjournal ▸ mem_saveTransaction.2 (.inl ⟨hv, hid ▸ hu.id_ne.symm⟩), hid⟩
  · rcases hmem v hv with hv | rfl
    · exact h.marks v hv hid
    · exact absurd hid hu.id_ne
  · rcases hmem v hv with hv | rfl
    · exact h.paths v hv
    · exact hu.paths
  · rcases hmem v hv with hv | rfl
    · exact h.apart v hv hid hmid
    · exact hu.apart hmid

omit [DecidableEq D] in
theorem Undone.congr (h : Undone w t s) {s' : World D}
    (hidx : s'.files t.liveIdx = s.files t.liveIdx) (hsdx : s'.files t.liveSdx = s.files t.liveSdx)
    (hjournal : s'.journal = s.journal) : Undone w t s' :=
  ⟨h.old.congr rfl rfl hidx hsdx, hjournal ▸ h.nodup, hjournal ▸ h.found, hjournal ▸ h.marks,
    hjournal ▸ h.paths, hjournal ▸ h.apart⟩

/-- The iterations that are left, and what holds once `t` is not among them. -/
structure Visiting (t : Transaction D) (xs : List (Transaction D)) (s : World D) : Prop where
  nodup : (xs.map Transaction.id).Nodup
  beside : ∀ x ∈ xs, x.id ≠ t.id → Beside t x
  current : ∀ x ∈ xs, x.id = t.id → x ∈ s.journal
  done : (∀ x ∈ xs, x.id ≠ t.id) → ∀ u ∈ s.journal, u.id = t.id →
    u.phase = .manualInterventionRequired

/-- A request for another transaction. -/
theorem Undone.spared (h : Undone w t s) {xs : List (Transaction D)} (hxs : Visiting t xs s)
    {r : RepairReq D} (hr : Spares t r) (c : RepairChoice D) :
    Undone w t (repairExec sha256 r c s).2 ∧ Visiting t xs (repairExec sha256 r c s).2 := by
  have hidx := repairExec_files sha256 c s hr.idx
  have hsdx := repairExec_files sha256 c s hr.sdx
  rcases repairExec_journal sha256 r c s with heq | ⟨u, hu, heq⟩
  · exact ⟨h.congr hidx hsdx heq, hxs.nodup, hxs.beside, heq ▸ hxs.current, heq ▸ hxs.done⟩
  · have hbeside := hr.save u hu
    refine ⟨h.saved hbeside hidx hsdx heq, hxs.nodup, hxs.beside, fun x hx hid => ?_,
      fun hall v hv hid => ?_⟩
    · exact heq ▸ mem_saveTransaction.2 (.inl ⟨hxs.current x hx hid, hid ▸ hbeside.id_ne.symm⟩)
    · rw [heq] at hv
      rcases mem_saveTransaction.1 hv with ⟨hv, -⟩ | rfl
      · exact hxs.done hall v hv hid
      · exact absurd hid hbeside.id_ne

omit [DecidableEq D] in
/-- The record of `t` is saved as blocked. -/
theorem Undone.park (h : Undone w t s) {u : Transaction D} (hid : u.id = t.id)
    (hmark : u.rolledBack = true) (hphase : u.phase = .manualInterventionRequired)
    (hpaths : PathsOk u) {s' : World D} (hfiles : s'.files = s.files)
    (hjournal : s'.journal = saveTransaction s.journal u) :
    Undone w t s' ∧ ∀ v ∈ s'.journal, v.id = t.id → v.phase = .manualInterventionRequired := by
  have hours : ∀ v ∈ s'.journal, v.id = t.id → v = u := by
    intro v hv hvid
    rw [hjournal] at hv
    rcases mem_saveTransaction.1 hv with ⟨-, hne⟩ | rfl
    · exact absurd (hvid.trans hid.symm) hne
    · rfl
  have hmem : ∀ v ∈ s'.journal, v.id ≠ t.id → v ∈ s.journal := by
    intro v hv hvid
    rw [hjournal] at hv
    rcases mem_saveTransaction.1 hv with ⟨hv, -⟩ | rfl
    · exact hv
    · exact absurd hid hvid
  refine ⟨⟨h.old.congr rfl rfl (by rw [hfiles]) (by rw [hfiles]),
    hjournal ▸ nodup_saveTransaction h.nodup, ⟨u, hjournal ▸ mem_saveTransaction.2 (.inr rfl), hid⟩,
    fun v hv hvid => ?_, fun v hv => ?_, fun v hv hvid => h.apart v (hmem v hv hvid) hvid⟩, ?_⟩
  · rw [hours v hv hvid]
    exact ⟨hmark, .inr hphase⟩
  · by_cases hvid : v.id = t.id
    · rw [hours v hv hvid]
      exact hpaths
    · exact h.paths v (hmem v hv hvid)
  · exact fun v hv hvid => hours v hv hvid ▸ hphase

/-- The transition that blocks the record of `t`. -/
theorem park_undone (hid : x.id = t.id) (hmark : x.rolledBack = true) (hpaths : PathsOk x) :
    KeepsAt sha256 (Undone w t) (fun _ => True) (transition x .manualInterventionRequired) fun _ s =>
      ∀ v ∈ s.journal, v.id = t.id → v.phase = .manualInterventionRequired := by
  refine Discipline.Triple.bind (M := fun _ _ => True)
    (Discipline.keeping.ask fun c s hs _ => ⟨hs.congr rfl rfl rfl, trivial⟩) fun at_ => ?_
  refine Discipline.Triple.bind (M := fun _ s => ∀ v ∈ s.journal, v.id = t.id →
    v.phase = .manualInterventionRequired) ?_ fun _ => Discipline.Triple.ret fun _ _ h => h
  refine Discipline.Triple.bind (M := fun done s => done = true → ∀ v ∈ s.journal, v.id = t.id →
    v.phase = .manualInterventionRequired) (Discipline.keeping.ask fun c s hs _ => ?_) fun done =>
      Discipline.Triple.raiseIf (fun _ _ _ _ => trivial) fun hdone s _ h => h (by simpa using hdone)
  let parked : Transaction D := { x with phase := .manualInterventionRequired, updatedAt := at_ }
  let s' := s.saveRecord .transition parked
  have hpark : Undone w t s' ∧ ∀ v ∈ s'.journal, v.id = t.id → v.phase = .manualInterventionRequired :=
    hs.park (u := parked) hid hmark rfl hpaths rfl rfl
  simp only [repairExec, attempted]
  cases c.fault with
  | none => exact ⟨hpark.1, fun _ => hpark.2⟩
  | before => exact ⟨hs, fun h => absurd h (by simp)⟩
  | after => exact ⟨hpark.1, fun _ => hpark.2⟩

/-- The iteration that visits the record of `t`. -/
theorem prepareOne_undone {xs : List (Transaction D)} (hid : x.id = t.id) :
    KeepsAt sha256 (Undone w t) (Visiting t (x :: xs)) (prepareOne x) fun _ => Visiting t xs := by
  intro s hs hxs
  obtain ⟨hx, hnodup⟩ := List.nodup_cons.1 hxs.nodup
  have hcurrent := hxs.current x List.mem_cons_self hid
  have hothers : ∀ y ∈ xs, y.id ≠ t.id := fun y hy heq =>
    hx (List.mem_map.2 ⟨y, hy, heq.trans hid.symm⟩)
  have hvisiting : ∀ s : World D, (∀ v ∈ s.journal, v.id = t.id →
      v.phase = .manualInterventionRequired) → Visiting t xs s := fun s hdone =>
    ⟨hnodup, fun y hy => hxs.beside y (List.mem_cons_of_mem _ hy),
      fun y hy heq => absurd heq (hothers y hy), fun _ => hdone⟩
  obtain ⟨hmark, hphase | hphase⟩ := hs.marks x hcurrent hid
  · have hprogram : KeepsAt sha256 (Undone w t) (fun _ => True) (prepareOne x)
        fun _ => Visiting t xs := by
      simp only [prepareOne, hphase, Prog.bind_eq]
      exact Discipline.Triple.bind (park_undone hid hmark (hs.paths x hcurrent)) fun _ =>
        Discipline.Triple.ret fun s _ h => hvisiting s h
    exact hprogram s hs trivial
  · simp only [prepareOne, hphase]
    refine ⟨hs, hvisiting s fun v hv hvid => ?_⟩
    rw [List.inj_on_of_nodup_map hs.nodup hv hcurrent (hvid.trans hid.symm)]
    exact hphase

/-- `prepare_offline` leaves a completed rollback alone and asks for an operator. -/
theorem prepareOffline_undone :
    KeepsAt sha256 (Undone w t) (fun _ => True) prepareOffline fun _ s =>
      ∀ u ∈ s.journal, u.id = t.id → u.phase = .manualInterventionRequired := by
  refine prepareOffline_keepsAt (L := Visiting t) ?_ ?_ fun s _ h => h.done (by simp)
  · intro s hs _
    refine ⟨hs.nodup, fun x hx hid => ⟨hid, hs.paths x hx, hs.apart x hx hid⟩, fun _ hx _ => hx, ?_⟩
    intro hall
    obtain ⟨u, hu, hid⟩ := hs.found
    exact absurd hid (hall u hu)
  · intro x xs
    by_cases hid : x.id = t.id
    · exact prepareOne_undone hid
    · intro s hs hxs
      have hrest : Visiting t xs s := by
        obtain ⟨-, hnodup⟩ := List.nodup_cons.1 hxs.nodup
        refine ⟨hnodup, fun y hy => hxs.beside y (List.mem_cons_of_mem _ hy),
          fun y hy => hxs.current y (List.mem_cons_of_mem _ hy), fun hall => hxs.done fun y hy => ?_⟩
        rcases List.mem_cons.1 hy with rfl | hy
        · exact hid
        · exact hall y hy
      exact KeepsAt.of_issues (hxs.beside x List.mem_cons_self hid).prepareOne_issues
        (fun r c s hr hs hxs => hs.spared hxs hr c) s hs hrest

theorem Undone.restarts (h : Undone w t s) {s' : World D}
    (hs : Relation.ReflTransGen (Restart sha256) s s') : Undone w t s' := by
  induction hs with
  | refl => exact h
  | tail _ hstep ih =>
      obtain ⟨cs, rfl⟩ := hstep
      exact Discipline.keeping.after prepareOffline_undone ih trivial cs

end

/-! ## Counting requests -/

/-- Requests that save no record. -/
def SavesNone (r : RepairReq D) : Prop := r.saves = none

section

variable {t : Transaction D}

omit [DecidableEq D] in
theorem must_spends {K : RepairReq D → Prop} {p : RepairProg D Bool} (h : p.Spends K 1) :
    (must p).Spends K 1 :=
  h.bind fun _ => Prog.Spends.raiseIf _ _

omit [DecidableEq D] in
theorem ask_spends {r : RepairReq D} (h : r.saves = none) :
    (Prog.ask r : RepairProg D r.Ans).Spends SavesNone 1 :=
  Prog.Spends.ask h

theorem restoreOne_spends (backup destination : Path) (expected : Artifact D) :
    (restoreOne backup destination expected).Spends SavesNone 4 := by
  have hsame : (sameArtifact backup (some expected.toDigest)).Spends SavesNone 1 := by
    refine Prog.Spends.bind (n := 0) (ask_spends (r := .hash backup) rfl) fun answer => ?_
    cases answer <;> rfl
  have hcopy : ∀ serial, ((must (tryCopy backup (.scratch serial) (some expected.mode))).bind fun _ =>
      must (tryReplace (.scratch serial) destination)).Spends (SavesNone (D := D)) (1 + 1) :=
    fun serial => (must_spends (ask_spends (r := .copy _ _ _) rfl)).bind fun _ =>
      must_spends (ask_spends (r := .replace _ _) rfl)
  have hrest : ∀ same : Bool, ((Prog.raiseIf (!same) (.manual "repair backup is missing or changed")).bind
      fun _ => (scratchName destination.base : RepairProg D TxId).bind fun serial =>
        (must (tryCopy backup (.scratch serial) (some expected.mode))).bind fun _ =>
          must (tryReplace (.scratch serial) destination)).Spends SavesNone (0 + (1 + (1 + 1))) :=
    fun same => (Prog.Spends.raiseIf _ _).bind fun _ => (ask_spends (r := .scratchName destination.base) rfl).bind hcopy
  exact hsame.bind hrest

/-- The requests of `_rollback` before the journal is written. -/
theorem restoreFiles_spends :
    (restoreFiles t).Spends SavesNone (if t.oldSdx.isSome then 9 else 6) := by
  have hsync : (fsyncDirectory : RepairProg D Unit).Spends SavesNone 1 :=
    must_spends (ask_spends (r := .sync) rfl)
  refine Prog.Spends.orRaise_bind fun backup _ => Prog.Spends.orRaise_bind fun old _ => ?_
  have hidx := restoreOne_spends backup t.liveIdx old
  unfold restoreSdx
  cases t.oldSdx with
  | none =>
      have hunlink : (must (tryUnlink t.liveSdx)).Spends (SavesNone (D := D)) 1 :=
        must_spends (ask_spends (r := .unlink _) rfl)
      exact hidx.bind fun _ => hunlink.bind fun _ => hsync
  | some sorted =>
      have hsdx : ((Prog.orRaise RepairExc.lookup t.backupSdxPath).bind fun backupSdx =>
          restoreOne backupSdx t.liveSdx sorted).Spends SavesNone 4 :=
        Prog.Spends.orRaise_bind fun backupSdx _ => restoreOne_spends backupSdx t.liveSdx sorted
      exact hidx.bind fun _ => hsdx.bind fun _ => hsync

omit [DecidableEq D] in
theorem rollbackSaved_eq : rollbackSaved t = (if t.oldSdx.isSome then 9 else 6) + 2 := by
  unfold rollbackSaved
  split <;> rfl

end

section

variable {sha256 : Bytes → D} {w : World D} {t : Transaction D} {cs : List (RepairChoice D)}

/-- Before the save, a rollback has not touched the journal. -/
theorem rollback_unsaved (sha256 : Bytes → D) (w : World D) (reason : String) (hcs : cs.length < rollbackSaved t) :
    ((rollback reason t).after (repairExec sha256) cs w).journal = w.journal := by
  have hspends : ((restoreFiles t).bind fun _ => now).Spends SavesNone
      ((if t.oldSdx.isSome then 9 else 6) + 1) :=
    restoreFiles_spends.bind fun _ => ask_spends (r := .now) rfl
  have heq : rollback reason t = ((restoreFiles t).bind fun _ => now).bind fun at_ =>
      ((must (trySave .transition { t with
        rolledBack := true, failureReason := reason, phase := .rolledBack, updatedAt := at_ })).bind
        fun _ => Prog.ret { t with
          rolledBack := true, failureReason := reason, phase := .rolledBack, updatedAt := at_ }).bind
        fun t => manual t reason := by
    rw [rollback_eq, Prog.bind_assoc]
    rfl
  rw [heq]
  refine Prog.Spends.after_le (J := fun s : World D => s.journal = w.journal) ?_ _ hspends ?_ rfl
  · intro r c s hr hs
    rcases repairExec_journal sha256 r c s with hsame | ⟨u, hu, -⟩
    · exact hsame.trans hs
    · exact absurd (hu.symm.trans hr) (by simp)
  · rw [rollbackSaved_eq] at hcs
    omega

/-- `_rollback` up to the save of `rolled_back`. -/
def beginRollback (reason : String) (t : Transaction D) : RepairProg D (Transaction D) :=
  (restoreFiles t).bind fun _ =>
    transition { t with rolledBack := true, failureReason := reason } .rolledBack

theorem beginRollback_spends (reason : String) :
    (beginRollback reason t).Spends (fun _ => True) (rollbackSaved t) := by
  have htransition : ∀ u : Transaction D, (transition u .rolledBack).Spends (fun _ => True) (1 + (1 + 0)) :=
    fun u => (Prog.Spends.ask (r := RepairReq.now) trivial).bind fun at_ =>
      (must_spends (Prog.Spends.ask (r := RepairReq.save _ _) trivial)).bind fun _ => rfl
  rw [rollbackSaved_eq]
  exact (restoreFiles_spends.mono fun _ _ => trivial).bind fun _ => htransition _

/-- The state in which a faultless rollback journals `rolled_back`. -/
theorem beginRollback_exact (h : AwaitingRollback sha256 w t) (reason : String) :
    Exact sha256 true (fun s => s = w) (beginRollback reason t) fun u s =>
      u.id = t.id ∧ u.rolledBack = true ∧ PathsOk u ∧ Undone w t s := by
  refine Discipline.Triple.bind (restoreFiles_exact h.backups fun _ => h.scratch) fun _ => ?_
  refine transition_exact fun s hs at_ => ⟨rfl, rfl, h.paths t h.mem, ?_⟩
  have hmem : ∀ v ∈ saveTransaction s.journal { t with
      rolledBack := true, failureReason := reason, phase := .rolledBack, updatedAt := at_ },
      (v ∈ w.journal ∧ v.id ≠ t.id) ∨ v = { t with
        rolledBack := true, failureReason := reason, phase := .rolledBack, updatedAt := at_ } := by
    rw [hs.journal]
    exact fun v hv => mem_saveTransaction.1 hv
  refine ⟨hs.old.congr rfl rfl rfl rfl, nodup_saveTransaction (hs.journal ▸ h.nodup),
    ⟨_, mem_saveTransaction.2 (.inr rfl), rfl⟩, fun v hv hid => ?_, fun v hv => ?_, fun v hv hid => ?_⟩
  · rcases hmem v hv with ⟨-, hne⟩ | rfl
    · exact absurd hid hne
    · exact ⟨rfl, .inl rfl⟩
  · rcases hmem v hv with ⟨hv, -⟩ | rfl
    · exact h.paths v hv
    · exact h.paths t h.mem
  · rcases hmem v hv with ⟨hv, -⟩ | rfl
    · exact h.apart v hv hid
    · exact absurd rfl hid

/-- After the save, the old files are back and the record is marked. -/
theorem rollback_saved (h : AwaitingRollback sha256 w t) (reason : String)
    (hfaults : ∀ c ∈ cs, c.fault = .none) (hcs : rollbackSaved t ≤ cs.length) :
    Undone w t ((rollback reason t).after (repairExec sha256) cs w) := by
  have heq : rollback reason t = (beginRollback reason t).bind fun t => manual t reason := by
    rw [rollback_eq, beginRollback, Prog.bind_assoc]
  rw [heq]
  rcases Prog.Spends.run (repairExec sha256) (fun t => manual t reason) (s := w)
    (beginRollback_spends reason) hcs with ⟨u, s, hrun, hafter⟩ | ⟨e, s, hrun⟩
  · obtain ⟨hid, hmark, hpaths, hundone⟩ := (beginRollback_exact h reason).of_run rfl hfaults hrun
    have hmanual : KeepsAt sha256 (Undone w t) (fun _ => True) (manual u reason) fun _ _ => True :=
      Discipline.Triple.bind (park_undone (x := { u with failureReason := reason }) hid hmark hpaths)
        fun _ => Discipline.Triple.ret fun _ _ _ => trivial
    rw [hafter]
    exact Discipline.keeping.after hmanual hundone trivial (cs.drop (rollbackSaved t))
  · exact absurd hrun ((beginRollback_exact h reason).not_raised rfl hfaults)

end

/-- After a crash anywhere in a rollback and any number of restarts, the last of which returns, the
rollback is complete exactly when the crash came after the save of `rolled_back`. -/
theorem rollback_recovered_iff (sha256 : Bytes → D) (w : World D) (t : Transaction D)
    (h : AwaitingRollback sha256 w t) (reason : String) (cs : List (RepairChoice D))
    (hcs : ∀ c ∈ cs, c.fault = .none) (w₀ w₁ w₂ : World D)
    (hcrash : CrashState ((rollback reason t).after (repairExec sha256) cs w) w₀)
    (hrestarts : Relation.ReflTransGen (Restart sha256) w₀ w₁) (ds : List (RepairChoice D))
    (hlast : prepareOffline.run (repairExec sha256) ds w₁ = (.ok (), w₂)) :
    RollbackComplete w w₂ t ↔ rollbackSaved t ≤ cs.length := by
  have hlive : ∀ name, t.liveIdx ≠ .scratch name := by simp [Transaction.liveIdx]
  have hsorted : ∀ name, t.liveSdx ≠ .scratch name := by simp [Transaction.liveSdx]
  constructor
  · intro hcomplete
    by_contra hcs'
    -- nothing was journaled, and restarts mark no record
    have hjournal := rollback_unsaved sha256 w reason (Nat.lt_of_not_le hcs')
    have hunmarked : Unmarked t.id w₀ := by
      refine ⟨fun u hu hid => ?_, fun u hu => h.paths u (hjournal ▸ hcrash.journal ▸ hu)⟩
      have hu' : u ∈ w.journal := hjournal ▸ hcrash.journal ▸ hu
      rw [List.inj_on_of_nodup_map h.nodup hu' h.mem hid]
      exact h.unmarked
    obtain ⟨u, hu, hid, -, hmark⟩ := hcomplete.record
    have hlast := (Discipline.keeping.of_ok prepareOffline_unmarked (hunmarked.restarts hrestarts)
      trivial hlast).1
    exact absurd (hmark.symm.trans (hlast.marks u hu hid)) (by simp)
  · intro hcs'
    -- once the record is saved the old files are back, and restarts keep both
    have hundone : Undone w t w₀ := (rollback_saved h reason hcs hcs').congr
      (hcrash.files _ hlive) (hcrash.files _ hsorted) hcrash.journal
    obtain ⟨hlast, hparked⟩ := Discipline.keeping.of_ok prepareOffline_undone
      (hundone.restarts hrestarts) trivial hlast
    obtain ⟨u, hu, hid⟩ := hlast.found
    exact ⟨hlast.old, u, hu, hid, hparked u hu hid, (hlast.marks u hu hid).1⟩

/-! Volume 2 of the two volumes that await validation, with an old sorted index. -/

namespace RollbackSample

def transaction : Transaction Bytes :=
  BatchSample.transaction 2 (some ⟨⟨1, [3]⟩, 0o600⟩) (some (.backupSdx ⟨BatchSample.base 2, 2⟩))

theorem awaiting : AwaitingRollback id BatchSample.world transaction where
  nodup := by decide
  mem := by decide
  awaiting := rfl
  unmarked := rfl
  backups := BatchSample.batch.backups _ (by decide)
  paths u hu := by
    simp only [BatchSample.world, List.mem_cons, List.not_mem_nil, or_false] at hu
    rcases hu with rfl | rfl
    · exact ⟨by simp [BatchSample.transaction], by simp [BatchSample.transaction]⟩
    · exact ⟨by simp [BatchSample.transaction], by simp [BatchSample.transaction]⟩
  apart u hu hid _ := by
    simp only [BatchSample.world, List.mem_cons, List.not_mem_nil, or_false] at hu
    rcases hu with rfl | rfl
    · decide
    · exact absurd rfl hid
  scratch serial _ := rfl

/-- A rollback that is cut off after `n` requests. -/
def crashed (n : Nat) : World Bytes :=
  (rollback "" transaction).after (repairExec id) (List.replicate n {}) BatchSample.world

/-- A restart without faults. -/
def restarted (n : Nat) : World Bytes :=
  prepareOffline.after (repairExec id) (List.replicate 12 {}) (crashed n)

end RollbackSample

/-- A crash right after the save is recovered. -/
theorem rollback_recovered_iff_after_save :
    ∃ w₂, prepareOffline.run (repairExec id) (List.replicate 12 {}) (RollbackSample.crashed 11) =
        (.ok (), w₂) ∧
      RollbackComplete BatchSample.world w₂ RollbackSample.transaction := by
  have hvalue : (prepareOffline.run (repairExec id) (List.replicate 12 {})
      (RollbackSample.crashed 11)).1.value = some () := by
    decide +kernel
  obtain ⟨w₂, hw₂⟩ := exists_state_of_value hvalue
  refine ⟨w₂, hw₂, ?_⟩
  exact (rollback_recovered_iff id BatchSample.world RollbackSample.transaction RollbackSample.awaiting ""
    (List.replicate 11 {}) (by decide) _ _ w₂ ⟨rfl, fun _ _ => rfl⟩ .refl _ hw₂).2 (by decide)

/-- A crash between the two files: a restart finds the old index under the rules of an installed
candidate, and blocks the volume. The sorted index is never restored and the rollback never recorded. -/
theorem half_rolled_back :
    ∃ w₂, Restart id (RollbackSample.crashed 4) (RollbackSample.restarted 4) ∧
      prepareOffline.run (repairExec id) (List.replicate 12 {}) (RollbackSample.restarted 4) =
        (.ok (), w₂) ∧
      AwaitingRollback id BatchSample.world RollbackSample.transaction ∧
      w₂.files (.liveSdx (BatchSample.base 2)) = none ∧
      ¬ RollbackComplete BatchSample.world w₂ RollbackSample.transaction := by
  have hvalue : (prepareOffline.run (repairExec id) (List.replicate 12 {})
      (RollbackSample.restarted 4)).1.value = some () := by
    decide +kernel
  have hsdx : (prepareOffline.run (repairExec id) (List.replicate 12 {})
      (RollbackSample.restarted 4)).2.files (.liveSdx (BatchSample.base 2)) = none := by
    decide +kernel
  obtain ⟨w₂, hw₂⟩ := exists_state_of_value hvalue
  rw [hw₂] at hsdx
  refine ⟨w₂, ⟨_, rfl⟩, hw₂, RollbackSample.awaiting, hsdx, fun hcomplete => ?_⟩
  obtain ⟨contents, -, hlive⟩ := hcomplete.files.sdx _ rfl
  exact absurd (hlive.symm.trans hsdx) (by simp)

end StorageNode.IndexRepair
