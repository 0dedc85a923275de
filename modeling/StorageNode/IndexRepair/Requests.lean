import StorageNode.IndexRepair.Guard
import StorageNode.IndexRepair.Repair

/-!
# Requests of the controller's parts

For a set `K` of requests: when the parts that the operations share are confined to `K`. A part that
only looks at files and names issues requests with `looks`; the writes of the others are named in the
hypotheses. `Handles K t` collects what `prepare_offline` may write for the transaction `t`.
-/

set_option autoImplicit false

namespace StorageNode.IndexRepair

open StorageNode.Program StorageNode.IndexHelper RepairProg

variable {D : Type} {α : Type}

/-- Requests that change no file and no record. -/
def RepairReq.looks : RepairReq D → Bool
  | .save _ _ | .unlink _ | .copy _ _ _ | .link _ _ | .replace _ _ | .removeStaging _ | .build _ _
  | .recoverTail _ _ _ => false
  | _ => true

/-- The record that a request saves. -/
def RepairReq.saves : RepairReq D → Option (Transaction D)
  | .save _ t => some t
  | _ => none

/-- The files that a request may change. -/
def RepairReq.Writes : RepairReq D → Path → Prop
  | .unlink p, q => q = p
  | .copy _ destination _, q => q = destination
  | .link _ destination, q => q = destination
  | .replace source destination, q => q = source ∨ q = destination
  | .removeStaging id, q => q = .candidate id
  | .build id _, q => q = .candidate id
  | .recoverTail id _ _, q => q = .dat id.base ∨ q = .incompleteTail id ∨ q = .candidate id
  | _, _ => False

theorem RepairReq.saves_of_looks {r : RepairReq D} (h : r.looks = true) : r.saves = none := by
  cases r with
  | save kind t => exact absurd h (by simp [looks])
  | _ => rfl

theorem RepairReq.not_writes_of_looks {r : RepairReq D} (h : r.looks = true) (p : Path) :
    ¬ r.Writes p := by
  cases r with
  | unlink q => exact absurd h (by simp [looks])
  | copy source destination mode => exact absurd h (by simp [looks])
  | link source destination => exact absurd h (by simp [looks])
  | replace source destination => exact absurd h (by simp [looks])
  | removeStaging tx => exact absurd h (by simp [looks])
  | build tx fingerprint => exact absurd h (by simp [looks])
  | recoverTail tx expected maximumTailBytes => exact absurd h (by simp [looks])
  | _ => exact id

theorem World.setFile_of_ne {w : World D} {p q : Path} (h : q ≠ p) (node : Option Node) :
    (w.setFile p node).files q = w.files q :=
  if_neg h

theorem attempted_cases (c : RepairChoice D) (w w' : World D) :
    (attempted c w w').2 = w' ∨ (attempted c w w').2 = w := by
  unfold attempted
  cases c.fault with
  | none => exact .inl rfl
  | before => exact .inr rfl
  | after => exact .inl rfl

section

variable [DecidableEq D] {sha256 : Bytes → D} {r : RepairReq D} {c : RepairChoice D} {w : World D}

/-- All that a request may do to the volume. Where it fails before it acts, nothing happens. -/
inductive Effect (r : RepairReq D) (w : World D) : World D → Prop
  | nothing : Effect r w w
  | time (clock : Nat) (hr : r = .now) (h : w.clock ≤ clock) : Effect r w { w with clock := clock }
  | name (base : Base) (hr : r = .uuid base ∨ r = .scratchName base) :
      Effect r w { w with nextSerial := w.nextSerial + 1 }
  | record (kind : SaveKind) (t : Transaction D) (hr : r = .save kind t) :
      Effect r w (w.saveRecord kind t)
  | write (files : Path → Option Node) (events : List (Event D))
      (hfiles : ∀ p, ¬ r.Writes p → files p = w.files p)
      (hevents : ∀ kind t, Event.saved kind t ∉ events) :
      Effect r w { w with files := files, log := events ++ w.log }

namespace Effect

omit [DecidableEq D] in
theorem setFile {p : Path} (h : r.Writes p) (node : Option Node) : Effect r w (w.setFile p node) := by
  apply Effect.write (w.setFile p node).files []
  · intro q hq
    apply World.setFile_of_ne
    rintro rfl
    exact hq h
  · simp

omit [DecidableEq D] in
theorem attempted {w' : World D} (h : Effect r w w') (c : RepairChoice D) :
    Effect r w (attempted c w w').2 := by
  rcases attempted_cases c w w' with heq | heq
  · rwa [heq]
  · rw [heq]
    exact .nothing

omit [DecidableEq D] in
/-- The end of a tail recovery: a cut goes into the log. -/
theorem tailEnd (w : World D) (id : TxId) (mode : Nat) (before after : HelperState D)
    (expected : Option (RawFingerprint D)) (maximumTailBytes : Int) :
    Effect (.recoverTail id expected maximumTailBytes) w (tailEnd w id mode before after) := by
  have hfiles : ∀ p, ¬ (RepairReq.recoverTail id expected maximumTailBytes).Writes p →
      (IndexRepair.tailEnd w id mode before after).files p = w.files p := by
    intro p hp
    simp only [RepairReq.Writes, not_or] at hp
    unfold IndexRepair.tailEnd
    split <;> split <;> simp [World.setFile, hp]
  obtain ⟨events, hevents, heq⟩ : ∃ events, (∀ kind t, Event.saved kind t ∉ events) ∧
      IndexRepair.tailEnd w id mode before after = { w with
        files := (IndexRepair.tailEnd w id mode before after).files, log := events ++ w.log } := by
    by_cases hcut : after.source = before.source
    · refine ⟨[], by simp, ?_⟩
      simp only [IndexRepair.tailEnd, if_pos hcut]
      split <;> rfl
    · refine ⟨[.truncated id after.source.length (before.source.drop after.source.length)], by simp, ?_⟩
      simp only [IndexRepair.tailEnd, if_neg hcut]
      split <;> rfl
  rw [heq]
  exact .write _ events hfiles hevents

end Effect

/-- What a request does is one of these effects. The invariants of all disciplines follow from them. -/
theorem repairExec_effect (sha256 : Bytes → D) (r : RepairReq D) (c : RepairChoice D) (w : World D) :
    Effect r w (repairExec sha256 r c w).2 := by
  cases r with
  | now => exact .time _ rfl (by omega)
  | uuid base => exact .name base (.inl rfl)
  | scratchName base => exact .name base (.inr rfl)
  | save kind t => exact (Effect.record kind t rfl).attempted c
  | unlink p =>
      apply Effect.attempted
      apply Effect.setFile
      exact rfl
  | copy source destination mode =>
      have hwrites : (RepairReq.copy source destination mode : RepairReq D).Writes destination := rfl
      simp only [repairExec, copied]
      split
      · -- a copy that fails may leave a part of the contents
        cases c.fault <;> exact .setFile hwrites _
      · exact .nothing
  | link source destination =>
      simp only [repairExec]
      cases w.files source with
      | none => exact .nothing
      | some node =>
          cases w.files destination with
          | some _ => exact .nothing
          | none =>
              apply Effect.attempted
              apply Effect.setFile
              exact rfl
  | replace source destination =>
      simp only [repairExec]
      split
      · next node _ =>
          apply Effect.attempted
          apply Effect.write ((w.setFile destination (some node)).setFile source none).files []
          · intro p hp
            -- only the two names of the rename are written
            simp only [RepairReq.Writes, not_or] at hp
            exact (World.setFile_of_ne hp.1 none).trans (World.setFile_of_ne hp.2 _)
          · simp
      · exact .nothing
  | removeStaging id =>
      simp only [repairExec]
      split
      · apply Effect.setFile
        exact rfl
      · exact .nothing
  | build id fingerprint =>
      have hfiles : ∀ p, ¬ (RepairReq.build id fingerprint : RepairReq D).Writes p →
          (w.setFile (.candidate id) c.staged).files p = w.files p :=
        fun p hp => World.setFile_of_ne hp _
      simp only [repairExec]
      split
      · next payload _ =>
          exact .write _ [.built id payload, .build id fingerprint] hfiles (by simp)
      · exact .write _ [.build id fingerprint] hfiles (by simp)
  | recoverTail id expected maximumTailBytes =>
      simp only [repairExec]
      split
      · exact .nothing
      · exact .nothing
      · exact .tailEnd w id _ _ _ expected maximumTailBytes
  -- every other request only answers
  | _ => exact .nothing

/-- A request writes the record it saves, and no other. -/
theorem repairExec_journal (sha256 : Bytes → D) (r : RepairReq D) (c : RepairChoice D) (w : World D) :
    (repairExec sha256 r c w).2.journal = w.journal ∨
      ∃ t, r.saves = some t ∧ (repairExec sha256 r c w).2.journal = saveTransaction w.journal t := by
  have heffect := repairExec_effect sha256 r c w
  generalize (repairExec sha256 r c w).2 = w' at heffect ⊢
  cases heffect with
  | record kind t hr => exact .inr ⟨t, congrArg RepairReq.saves hr, rfl⟩
  | _ => exact .inl rfl

/-- What `load` answers is the journal. -/
theorem repairExec_load {ts : List (Transaction D)} (h : (repairExec sha256 .load c w).1 = some ts) :
    ts = w.journal := by
  by_cases hfault : c.fault = .none
  · simp only [repairExec, hfault] at h
    exact (Option.some.inj h).symm
  · simp [repairExec, hfault] at h

/-- What `hash` answers is the digest of the file; it answers when nothing fails. -/
theorem repairExec_hash (p : Path) :
    (∀ a, (repairExec sha256 (.hash p) c w).1 = some a →
      fileDigest sha256 w p = some a.toDigest) ∧
    (c.fault = .none → ∀ digest, fileDigest sha256 w p = some digest →
      ∃ a, (repairExec sha256 (.hash p) c w).1 = some a ∧ a.toDigest = digest) := by
  by_cases hfault : c.fault = .none
  · constructor
    · intro a ha
      cases hread : (w.files p).bind Node.read with
      | none => simp [repairExec, hfault, hread] at ha
      | some x =>
          simp only [repairExec, hfault, hread] at ha
          obtain rfl := Option.some.inj ha
          simp [fileDigest, World.contents, hread]
    · intro _ digest hdigest
      cases hread : (w.files p).bind Node.read with
      | none => simp [fileDigest, World.contents, hread] at hdigest
      | some x =>
          refine ⟨⟨digestOf sha256 x.1, x.2⟩, ?_, ?_⟩
          · simp only [repairExec, hfault, hread]
            rfl
          · simpa [fileDigest, World.contents, hread] using hdigest
  · constructor
    · intro a ha
      simp [repairExec, hfault] at ha
    · exact fun h => absurd h hfault

/-- Files that a request does not write stay. -/
theorem repairExec_files (sha256 : Bytes → D) {r : RepairReq D} (c : RepairChoice D) (w : World D)
    {p : Path} (h : ¬ r.Writes p) :
    (repairExec sha256 r c w).2.files p = w.files p := by
  have heffect := repairExec_effect sha256 r c w
  generalize (repairExec sha256 r c w).2 = w' at heffect ⊢
  cases heffect with
  | write files events hfiles hevents => exact hfiles p h
  | _ => rfl

end

theorem issues_orRaise_bind {K : RepairReq D → Prop} {β : Type} {e : RepairExc D} {o : Option β}
    {f : β → RepairProg D α} (h : ∀ b, o = some b → (f b).Issues K) :
    ((Prog.orRaise e o).bind f).Issues K := by
  cases o with
  | none => trivial
  | some b => exact h b rfl

theorem issues_must {K : RepairReq D → Prop} {p : RepairProg D Bool} (h : p.Issues K) :
    (must p).Issues K :=
  h.bind fun _ => Prog.issues_raiseIf _ _

theorem issues_unlink {K : RepairReq D → Prop} {p : Path} (h : K (.unlink p)) :
    (must (tryUnlink p)).Issues K :=
  issues_must ((Prog.issues_ask _).2 h)

theorem issues_replace {K : RepairReq D → Prop} {p q : Path} (h : K (.replace p q)) :
    (must (tryReplace p q)).Issues K :=
  issues_must ((Prog.issues_ask _).2 h)

theorem issues_copy {K : RepairReq D → Prop} {p q : Path} {mode : Option Nat}
    (h : K (.copy p q mode)) : (must (tryCopy p q mode)).Issues K :=
  issues_must ((Prog.issues_ask _).2 h)

theorem issues_fsync {K : RepairReq D → Prop} (h : K .sync) : fsyncDirectory.Issues K :=
  issues_must ((Prog.issues_ask _).2 h)

theorem issues_refuse {K : RepairReq D → Prop} {condition : Prop} [Decidable condition]
    {p : RepairProg D Unit} {e : RepairExc D} (h : p.Issues K) :
    (Prog.when condition (p.bind fun _ => Prog.raise e)).Issues K :=
  (Prog.Issues.bind h fun _ => Prog.issues_raise e).when

theorem helperPayload_issues {K : RepairReq D → Prop} (process : HelperProcess D) :
    (helperPayload process).Issues K := by
  cases process with
  | output returncode payload =>
      simp only [helperPayload]
      split
      · split <;> trivial
      · trivial
  | _ => trivial

variable [DecidableEq D] {K : RepairReq D → Prop}

theorem sameArtifact_issues (hK : ∀ r : RepairReq D, r.looks = true → K r) (p : Path)
    (expected : Option (Digest D)) : (sameArtifact p expected).Issues K := by
  unfold sameArtifact
  cases expected with
  | none => exact ⟨hK _ rfl, fun _ => trivial⟩
  | some digest =>
      refine ⟨hK _ rfl, fun answer => ?_⟩
      cases answer <;> trivial

theorem usableTemporary_issues (hK : ∀ r : RepairReq D, r.looks = true → K r) (p : Path)
    (expected : Option (Digest D)) (absent : Bool) : (usableTemporary p expected absent).Issues K := by
  unfold usableTemporary
  refine Prog.Issues.bind ((Prog.issues_ask _).2 (hK _ rfl)) fun found => ?_
  split
  · exact sameArtifact_issues hK p expected
  · trivial

theorem stageTemporary_issues (hK : ∀ r : RepairReq D, r.looks = true → K r) {t : Transaction D}
    (hunlink : K (.unlink (.installing t.id))) {candidate : Path}
    (hcopy : ∀ mode, K (.copy candidate (.installing t.id) mode)) (digest : Digest D) :
    (stageTemporary t candidate digest).Issues K := by
  refine (usableTemporary_issues hK _ _ _).bind fun usable => ?_
  refine Prog.Issues.bind (issues_unlink hunlink).when fun _ => ?_
  refine Prog.Issues.bind ((Prog.issues_ask _).2 (hK _ rfl)) fun found => Prog.Issues.when ?_
  exact issues_orRaise_bind fun old _ => issues_copy (hcopy _)

theorem restoreOne_issues (hK : ∀ r : RepairReq D, r.looks = true → K r) (backup : Path)
    {destination : Path} (hcopy : ∀ serial mode, K (.copy backup (.scratch serial) mode))
    (hreplace : ∀ serial, K (.replace (.scratch serial) destination)) (expected : Artifact D) :
    (restoreOne backup destination expected).Issues K := by
  refine (sameArtifact_issues hK _ _).bind fun same => (Prog.issues_raiseIf _ _).bind fun _ => ?_
  refine Prog.Issues.bind ((Prog.issues_ask _).2 (hK _ rfl)) fun serial => ?_
  exact (issues_copy (hcopy serial _)).bind fun _ => issues_replace (hreplace serial)

theorem backupOne_issues (hK : ∀ r : RepairReq D, r.looks = true → K r) {source destination : Path}
    (hlink : K (.link source destination)) (hcopy : ∀ serial, K (.copy source (.scratch serial) none))
    (hreplace : ∀ serial, K (.replace (.scratch serial) destination)) (expected : Option (Digest D)) :
    (backupOne source destination expected).Issues K := by
  refine (issues_fsync (hK _ rfl)).bind fun _ => ?_
  refine Prog.Issues.bind ((Prog.issues_ask _).2 (hK _ rfl)) fun found => ?_
  dsimp only
  split
  · exact (sameArtifact_issues hK _ _).bind fun _ => Prog.issues_raiseIf _ _
  · refine Prog.Issues.bind ((Prog.issues_ask _).2 hlink) fun linked => ?_
    refine Prog.Issues.bind (Prog.Issues.when ?_) fun _ => ?_
    · refine Prog.Issues.bind ((Prog.issues_ask _).2 (hK _ rfl)) fun serial => ?_
      refine (issues_copy (hcopy serial)).bind fun _ => ?_
      exact (issues_fsync (hK _ rfl)).bind fun _ => issues_replace (hreplace serial)
    · refine (sameArtifact_issues hK _ _).bind fun _ => (Prog.issues_raiseIf _ _).bind fun _ => ?_
      exact issues_fsync (hK _ rfl)

/-! ## Recovery of one transaction -/

/-- `u` is a later version of `t` that is not marked otherwise. -/
structure Continues (t u : Transaction D) : Prop where
  id : u.id = t.id
  rolledBack : u.rolledBack = t.rolledBack
  paths : PathsOk u

/-- What the recovery of `t` writes is in `K`. -/
structure Handles (K : RepairReq D → Prop) (t : Transaction D) : Prop where
  looks : ∀ r : RepairReq D, r.looks = true → K r
  paths : PathsOk t
  save : ∀ u, Continues t u → K (.save .transition u)
  unlinkSdx : K (.unlink t.liveSdx)
  unlinkTemporary : K (.unlink (.installing t.id))
  copy : ∀ source mode, K (.copy source (.installing t.id) mode)
  install : K (.replace (.installing t.id) t.liveIdx)

namespace Handles

variable {t : Transaction D}

omit [DecidableEq D] in
theorem moved (h : Handles K t) {u : Transaction D} (hu : Continues t u) : Handles K u where
  looks := h.looks
  paths := hu.paths
  save v hv := h.save v ⟨hv.id.trans hu.id, hv.rolledBack.trans hu.rolledBack, hv.paths⟩
  unlinkSdx := by
    rw [Transaction.liveSdx, hu.id]
    exact h.unlinkSdx
  unlinkTemporary := by
    rw [hu.id]
    exact h.unlinkTemporary
  copy := by
    rw [hu.id]
    exact h.copy
  install := by
    rw [Transaction.liveIdx, hu.id]
    exact h.install

omit [DecidableEq D] in
/-- A transition, and what follows it. -/
theorem transition_issues (h : Handles K t) {phase : Phase} {f : Transaction D → RepairProg D α}
    (hf : ∀ u, Continues t u → (f u).Issues K) : ((transition t phase).bind f).Issues K := by
  have hu : ∀ at_, Continues t { t with phase := phase, updatedAt := at_ } :=
    fun _ => ⟨rfl, rfl, h.paths⟩
  refine ⟨h.looks _ rfl, fun at_ => ⟨h.save _ (hu at_), fun saved => ?_⟩⟩
  cases saved with
  | true => exact hf _ (hu at_)
  | false => trivial

omit [DecidableEq D] in
theorem manual_issues (h : Handles K t) (reason : String) : (manual t reason).Issues K :=
  transition_issues (h.moved (u := { t with failureReason := reason }) ⟨rfl, rfl, h.paths⟩)
    fun _ _ => trivial

omit [DecidableEq D] in
theorem removeStaleSdx_issues (h : Handles K t) : (removeStaleSdx t).Issues K :=
  (issues_unlink h.unlinkSdx).bind fun _ => issues_fsync (h.looks _ rfl)

omit [DecidableEq D] in
theorem recordInstalled_issues (h : Handles K t) : (recordInstalled t).Issues K :=
  h.transition_issues fun _ hu => (h.moved hu).transition_issues fun _ _ => trivial

theorem installCandidate_issues (h : Handles K t) : (installCandidate t).Issues K := by
  refine issues_orRaise_bind fun candidate _ => issues_orRaise_bind fun digest _ => ?_
  refine (sameArtifact_issues h.looks _ _).bind fun intact => ?_
  refine Prog.Issues.bind (issues_refuse (h.manual_issues _)) fun _ => ?_
  refine (stageTemporary_issues h.looks h.unlinkTemporary (h.copy _) digest).bind fun _ => ?_
  have hstaged : Handles K { t with installTempPath := some (.installing t.id) } :=
    h.moved ⟨rfl, rfl, h.paths.1, fun p hp => (Option.some.inj hp).symm, h.paths.2.2⟩
  refine hstaged.transition_issues fun u hu => ?_
  have hmoved := hstaged.moved hu
  refine (issues_replace hmoved.install).bind fun _ => ?_
  refine hmoved.removeStaleSdx_issues.bind fun _ => ?_
  refine (issues_fsync (h.looks _ rfl)).bind fun _ => ?_
  refine (sameArtifact_issues h.looks _ _).bind fun installed => ?_
  exact (Prog.issues_raiseIf _ _).bind fun _ => hmoved.recordInstalled_issues

theorem resumeInstall_issues (h : Handles K t) :
    (resumeInstall t (.installing t.id)).Issues K := by
  refine (usableTemporary_issues h.looks _ _ _).bind fun usable => ?_
  split
  · refine (issues_replace h.install).bind fun _ => ?_
    refine h.removeStaleSdx_issues.bind fun _ => ?_
    exact (issues_fsync (h.looks _ rfl)).bind fun _ => h.recordInstalled_issues
  · exact (issues_unlink h.unlinkTemporary).bind fun _ => h.installCandidate_issues

theorem recoverInterruptedInstall_issues (h : Handles K t) :
    (recoverInterruptedInstall t).Issues K := by
  refine (sameArtifact_issues h.looks _ _).bind fun isCandidate => ?_
  split
  · exact h.removeStaleSdx_issues.bind fun _ => h.recordInstalled_issues
  · refine (sameArtifact_issues h.looks _ _).bind fun isOld => ?_
    split
    · refine issues_orRaise_bind fun temporary htemporary => ?_
      obtain rfl := h.paths.2.1 temporary htemporary
      exact h.resumeInstall_issues
    · exact (h.manual_issues _).bind fun _ => trivial

theorem validateInstalledArtifacts_issues (h : Handles K t) :
    (validateInstalledArtifacts t).Issues K := by
  refine (sameArtifact_issues h.looks _ _).bind fun isCandidate => ?_
  refine Prog.Issues.bind (issues_refuse (h.manual_issues _)) fun _ => ?_
  refine Prog.Issues.bind ((Prog.issues_ask _).2 (h.looks _ rfl)) fun sdx => ?_
  refine Prog.Issues.bind (issues_refuse (h.manual_issues _)) fun _ => Prog.Issues.when ?_
  exact h.transition_issues fun _ _ => trivial

end Handles

/-- One iteration of `prepare_offline`: it writes files only while `t` is being installed. -/
theorem prepareOne_issues {t : Transaction D} (hlooks : ∀ r : RepairReq D, r.looks = true → K r)
    (hpaths : PathsOk t) (hmid : t.phase.midInstall = true → Handles K t)
    (hpark : ∀ u, Continues t u → u.phase = .manualInterventionRequired → K (.save .transition u)) :
    (prepareOne t).Issues K := by
  have hmanual : ∀ u, Continues t u →
      ((transition u .manualInterventionRequired).bind fun _ => Prog.ret ()).Issues K := by
    intro u hu
    refine ⟨hlooks _ rfl, fun at_ => ⟨hpark _ ⟨hu.id, hu.rolledBack, hu.paths⟩ rfl, fun saved => ?_⟩⟩
    cases saved <;> trivial
  unfold prepareOne
  split
  · next hp => exact (hmid (by rw [hp]; rfl)).recoverInterruptedInstall_issues
  · next hp => exact (hmid (by rw [hp]; rfl)).validateInstalledArtifacts_issues
  · next hp => exact (hmid (by rw [hp]; rfl)).validateInstalledArtifacts_issues
  · exact hmanual t ⟨rfl, rfl, hpaths⟩
  · exact hmanual { t with failureReason := _ } ⟨rfl, rfl, hpaths⟩
  · trivial

end StorageNode.IndexRepair
