import StorageNode.IndexRepair.RepairContract
import StorageNode.Program.Machine

/-!
# Runs of the controller

`volumeMachine` runs the operations of the controller on one volume, with `request_retry` calls at any
time and with writes of SeaweedFS between operations; `ControllerReachable` collects one such machine
per volume. The status of a volume server lists a volume once, so that a batch of repairs, concurrent
or not, runs one operation per volume; operations on different volumes interleave freely. An
operation may be cut off at any of its steps.

`clean` and `tidy` restrict the runs: a clean run starts no repair of a volume while a transaction of
it is journaled in `candidate_building`, and a tidy run cuts off no operation between the removal of a
tail and the next proven candidate. Runs of the source are the ones with both set to `False`.
-/

set_option autoImplicit false

namespace StorageNode.IndexRepair

open StorageNode.Program StorageNode.IndexHelper RepairProg

variable {D : Type} [DecidableEq D]

/-- Operations of the controller on a volume, other than a repair. -/
inductive Upkeep : RepairProg D Unit → Prop
  | prepareOffline : Upkeep prepareOffline
  | validateUpstream (readonly : Int → Option Bool) : Upkeep (validateUpstream readonly)
  | rollbackRejected (volumeIds : List Int) (reason : String) :
      Upkeep (rollbackRejected volumeIds reason)
  | reconcile (resolved : Int → Bool) : Upkeep (reconcileResolvedPreinstall resolved)

/-- Repairs of a volume. The configuration may change between two repairs. -/
inductive Repair (volumeId : Int) : RepairProg D Unit → Prop
  | repairOne (cfg : Config) (args : RepairArgs) (fuel : Nat) (h : args.volumeId = volumeId) :
      Repair volumeId (repairOne cfg args fuel false)

/-- The controller on one volume. -/
def volumeMachine (sha256 : Bytes → D) (clean tidy : Prop) (volumeId : Int) :
    Machine (RepairReq D) RepairReq.Ans (RepairExc D) (World D) (RepairChoice D) where
  exec := repairExec sha256
  start w p := Upkeep p ∨
    Repair volumeId p ∧ (clean → ∀ t ∈ w.journal, t.phase ≠ .candidateBuilding)
  stop w := tidy → interrupted w.log = false
  meanwhile := OperatorStep
  idle := OutsideWrite

/-- The states that the controller reaches from an empty journal and any files. -/
def ControllerReachable (sha256 : Bytes → D) (clean tidy : Prop) (files : Int → Path → Option Node)
    (x : Int → Running (RepairReq D) RepairReq.Ans (RepairExc D) (World D)) : Prop :=
  Family.Reachable (volumeMachine sha256 clean tidy) (fun volumeId => { files := files volumeId }) x

section

variable {sha256 : Bytes → D} {clean tidy : Prop}

/-- An empty journal. -/
theorem repairInv_initial (files : Path → Option Node) :
    RepairInv sha256 clean tidy ({ files := files } : World D) where
  records := ⟨List.nodup_nil, by simp, by simp, by simp, by simp, by simp, by simp, by simp⟩
  retry :=
    { consumed_le := fun _ _ => Nat.le_refl 0
      flagged := by simp
      blocked := by simp [EverIn]
      verified := by simp [EverIn]
      late := fun _ => Nat.le_refl 0
      matched := by
        intro F old hold
        rw [List.suffix_nil.1 hold]
        exact Nat.le_refl 0
      final := by simp }
  attempt := ⟨fun _ _ => Nat.le_refl 0, by simp, by simp, by simp [builds], by simp [builds], by simp⟩
  tail := by simp [Recorded]

omit [DecidableEq D] in
theorem interrupted_operatorStep {w w' : World D} (h : OperatorStep w w') :
    interrupted w'.log = interrupted w.log := by
  cases h <;> rfl

/-- Every operation follows the discipline of the volume. -/
theorem volumeMachine_follows (volumeId : Int) :
    (volumeMachine sha256 clean tidy volumeId).Follows (repairDiscipline sha256 clean tidy)
      fun w => tidy → interrupted w.log = false where
  meanwhile _ _ h hstep := operatorStep_keeps h hstep
  rest_meanwhile w w' _ hrest hstep ht := (interrupted_operatorStep hstep).trans (hrest ht)
  idle w w' h hrest hstep := by
    cases hstep with
    | write p node hp =>
        refine ⟨h.setFile (writeOk_of_not_backup fun id => ?_) node, hrest⟩
        obtain ⟨base, rfl | rfl | rfl⟩ := hp <;> rfl
  stop _ _ hstop := hstop
  start w p h hrest hp := by
    rcases hp with hp | ⟨hp, hclean⟩
    · cases hp with
      | prepareOffline => exact prepareOffline_obeys w h trivial
      | validateUpstream readonly => exact validateUpstream_obeys readonly w h trivial
      | rollbackRejected volumeIds reason => exact rollbackRejected_obeys volumeIds reason w h trivial
      | reconcile resolved => exact reconcileResolvedPreinstall_obeys resolved w h trivial
    · cases hp with
      | repairOne cfg args fuel =>
          refine repairOne_obeys cfg args fuel false w h ⟨fun ht => h.tail ht (hrest ht), ?_, ?_⟩
          · exact fun ht _ => hrest ht
          · exact fun hc t ht _ => hclean hc t ht

/-- The invariant holds in every reachable state, between operations no removed tail is pending, and
the running operation issues permitted requests only. -/
theorem ControllerReachable.sound {files : Int → Path → Option Node}
    {x : Int → Running (RepairReq D) RepairReq.Ans (RepairExc D) (World D)}
    (hx : ControllerReachable sha256 clean tidy files x) (volumeId : Int) :
    (volumeMachine sha256 clean tidy volumeId).Sound (repairDiscipline sha256 clean tidy)
      (fun w => tidy → interrupted w.log = false) (x volumeId) :=
  (volumeMachine_follows volumeId).reachable (repairInv_initial _) (fun _ => rfl)
    (Family.component hx volumeId)

end

/-! ## Installation -/

/-- The temporary file of `t` holds its candidate, which a helper result proves for the source of `t`
and which differs from the old index unless the exception is recorded; verified backups of the old
files are on disk. -/
structure ProvenInstall (sha256 : Bytes → D) (w : World D) (t : Transaction D) (candidate : Digest D) :
    Prop where
  candidateIdx : t.candidateIdx = some candidate
  installed : ∃ contents, w.contents (.installing t.id) = some contents ∧
    digestOf sha256 contents = candidate
  proven : ProvenBy w.log t.id t.sourceFingerprint candidate
  backed : Backed sha256 w t
  differs : ∃ old, t.oldIdx = some old ∧
    (candidate ≠ old.toDigest ∨ t.candidateIdenticalAfterTailRecovery = true)

/-- Whenever an installation is about to replace a live index, in a fresh repair or in the recovery of
an interrupted one, the new file is the proven candidate of a journaled transaction. The only other
replacements of a live index are those of a rollback, from a scratch file. -/
theorem installs_only_proven (sha256 : Bytes → D) (files : Int → Path → Option Node)
    (x : Int → Running (RepairReq D) RepairReq.Ans (RepairExc D) (World D))
    (hx : ControllerReachable sha256 False False files x) (volumeId : Int) (source : Path)
    (base : Base) (k : Bool → RepairProg D Unit)
    (hthread : (x volumeId).thread = some (.call (.replace source (.liveIdx base)) k))
    (hsource : ∀ name, source ≠ .scratch name) :
    ∃ t ∈ (x volumeId).state.journal, source = .installing t.id ∧ base = t.id.base ∧
      ∃ candidate, ProvenInstall sha256 (x volumeId).state t candidate := by
  have hsound := hx.sound volumeId
  have hinv := hsound.inv
  obtain ⟨-, -, hpermit⟩ := hsound.permitted hthread
  -- the permit of a rename onto a live index: a scratch copy, or the proven candidate
  rcases hpermit base rfl with ⟨serial, hscratch⟩ | ⟨id, rfl, rfl, hok⟩
  · exact absurd hscratch (hsource serial)
  obtain ⟨t, ht, rfl, hphase, candidate, hcandidate, hdigest⟩ := hok
  obtain ⟨contents, hcontents, heq⟩ := Option.map_eq_some_iff.1 hdigest
  have hbacked : t.phase.backed = true := by
    rw [hphase]
    rfl
  -- the record of a backed transaction holds a candidate that differs from the old index
  obtain ⟨d, old, hd, hold, hne⟩ := hinv.records.differs t ht (by simp [Phase.proven, hbacked])
  obtain rfl := Option.some.inj (hd.symm.trans hcandidate)
  exact ⟨t, ht, rfl, rfl, d, hcandidate, ⟨contents, hcontents, heq⟩,
    hinv.records.proven t ht d hcandidate, hinv.records.backed t ht hbacked, old, hold, hne⟩

/-! A volume with an index of one byte, on which runs can be evaluated. The digest of a file is the
file itself, every request succeeds, and each build reports the candidate `[2]`. -/

namespace Sample

def base : Base := ⟨"", 1⟩

def files (p : Path) : Option Node :=
  if p = .liveIdx base then some (.file [1] 0o644) else none

def fingerprint : RawFingerprint Bytes := ⟨0, 0, 0, [], 0, 0, []⟩

def payload : HelperPayload Bytes where
  sourceFingerprintBefore := some fingerprint
  sourceFingerprintAfter := some fingerprint
  candidateSize := some 1
  candidateSha256 := some [2]

def choice : RepairChoice Bytes where
  helper := .output 0 payload
  staged := some (.file [2] 0o644)

/-- The source that the preflight of this volume finds. -/
def source : SourceFingerprint Bytes := .known ⟨"", "", "", 1⟩ fingerprint

def config : Config := ⟨"", true, 16⟩

def repair : RepairProg Bytes Unit := repairOne config ⟨"", 1, ""⟩ 2 false

variable {clean tidy : Prop} {start : Path → Option Node} {w : World Bytes}

/-- A repair that starts in an idle state and takes some of its steps. -/
theorem starts (hw : (volumeMachine id clean tidy 1).Reachable { files := start } ⟨w, none⟩)
    (hclean : clean → ∀ t ∈ w.journal, t.phase ≠ .candidateBuilding) (cs : List (RepairChoice Bytes)) :
    (volumeMachine id clean tidy 1).Reachable { files := start }
      ⟨repair.after (repairExec id) cs w, some (repair.rest (repairExec id) cs w)⟩ :=
  Machine.Reachable.run cs (hw.tail (.start w repair (.inr ⟨.repairOne config _ 2 rfl, hclean⟩)))

/-- A repair that is cut off after some of its steps. -/
theorem cut_off (hw : (volumeMachine id clean False 1).Reachable { files := start } ⟨w, none⟩)
    (hclean : clean → ∀ t ∈ w.journal, t.phase ≠ .candidateBuilding) (cs : List (RepairChoice Bytes)) :
    (volumeMachine id clean False 1).Reachable { files := start }
      ⟨repair.after (repairExec id) cs w, none⟩ :=
  (starts hw hclean cs).tail (.stop _ _ False.elim)

/-- The controller with this one volume. -/
def controller (start : Path → Option Node)
    (y : Running (RepairReq Bytes) RepairReq.Ans (RepairExc Bytes) (World Bytes)) :
    Int → Running (RepairReq Bytes) RepairReq.Ans (RepairExc Bytes) (World Bytes) :=
  Function.update (fun _ => ⟨{ files := start }, none⟩) 1 y

theorem controller_reachable
    {y : Running (RepairReq Bytes) RepairReq.Ans (RepairExc Bytes) (World Bytes)}
    (hy : (volumeMachine id clean tidy 1).Reachable { files := start } y) :
    ControllerReachable id clean tidy (fun _ => start) (controller start y) :=
  Family.of_member hy

end Sample

/-- The thirty-seventh request of a repair that meets no failure installs the candidate. -/
theorem installs_only_proven_first_repair :
    ∃ x k, ControllerReachable id False False (fun _ => Sample.files) x ∧
      (x 1).thread = some (.call (.replace (.installing ⟨Sample.base, 0⟩) (.liveIdx Sample.base)) k) ∧
      ∃ t ∈ (x 1).state.journal, ∃ candidate, ProvenInstall id (x 1).state t candidate := by
  have hreach : (volumeMachine id False False 1).Reachable { files := Sample.files } _ :=
    Sample.starts .refl (by simp) (List.replicate 36 Sample.choice)
  have hnext : (Sample.repair.rest (repairExec id) (List.replicate 36 Sample.choice)
      { files := Sample.files }).next =
      some (.replace (.installing ⟨Sample.base, 0⟩) (.liveIdx Sample.base)) := by
    decide +kernel
  obtain ⟨k, hk⟩ := Prog.eq_call_of_next hnext
  rw [hk] at hreach
  refine ⟨_, k, Sample.controller_reachable hreach, rfl, ?_⟩
  obtain ⟨t, ht, -, -, candidate, hproven⟩ := installs_only_proven id (fun _ => Sample.files) _
    (Sample.controller_reachable hreach) 1 _ _ k rfl (by simp)
  exact ⟨t, ht, candidate, hproven⟩

end StorageNode.IndexRepair
