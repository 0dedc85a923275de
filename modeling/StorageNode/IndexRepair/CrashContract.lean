import StorageNode.IndexRepair.InstallCrash
import StorageNode.IndexRepair.Requests

/-!
# Contracts of installation under crashes

The requests that `prepareOffline` and the other operations issue for a transaction of the journal:
for another transaction they are `Foreign`; for the transaction of the incident they keep `InstallInv`
at every step, and `recoverInterruptedInstall` ends with the candidate installed.

Hashes are collision free here, so that `sameArtifact` tells contents apart.
-/

set_option autoImplicit false

namespace StorageNode.IndexRepair

open StorageNode.Program StorageNode.IndexHelper RepairProg

variable {D : Type}

/-! ## Other transactions -/

section

variable {i : Incident} {t : Transaction D} {α : Type}

/-- A transition of another transaction, and what follows it. -/
theorem issues_transition_bind {phase : Phase} {f : Transaction D → RepairProg D α}
    (ht : ∀ at_, Theirs i { t with phase := phase, updatedAt := at_ })
    (hf : ∀ at_, (f { t with phase := phase, updatedAt := at_ }).Issues (Foreign i t.id)) :
    ((transition t phase).bind f).Issues (Foreign i t.id) := by
  refine ⟨trivial, fun at_ => ⟨⟨rfl, ht at_⟩, fun saved => ?_⟩⟩
  cases saved with
  | true => exact hf at_
  | false => trivial

theorem Foreign.of_looks {id : TxId} (r : RepairReq D) (h : r.looks = true) : Foreign i id r := by
  cases r with
  | save kind t => exact absurd h (by simp [RepairReq.looks])
  | unlink p => exact absurd h (by simp [RepairReq.looks])
  | copy source destination mode => exact absurd h (by simp [RepairReq.looks])
  | link source destination => exact absurd h (by simp [RepairReq.looks])
  | replace source destination => exact absurd h (by simp [RepairReq.looks])
  | removeStaging tx => exact absurd h (by simp [RepairReq.looks])
  | build tx fingerprint => exact absurd h (by simp [RepairReq.looks])
  | recoverTail tx expected maximumTailBytes => exact absurd h (by simp [RepairReq.looks])
  | _ => trivial

/-- Another transaction whose files are not those of the incident. -/
structure Apart (i : Incident) (t : Transaction D) : Prop where
  id_ne : t.id ≠ i.id
  paths : PathsOk t
  base_ne : t.id.base ≠ i.id.base

theorem Apart.theirs (h : Apart i t) : Theirs i t :=
  ⟨h.id_ne, h.paths, fun _ => h.base_ne⟩

theorem Apart.moved (h : Apart i t) {u : Transaction D} (hid : u.id = t.id) (hpaths : PathsOk u) :
    Apart i u :=
  ⟨hid ▸ h.id_ne, hpaths, hid ▸ h.base_ne⟩

theorem Apart.owns_liveIdx (h : Apart i t) : i.owns t.liveIdx = false :=
  decide_eq_false h.base_ne

theorem Apart.owns_liveSdx (h : Apart i t) : i.owns t.liveSdx = false :=
  decide_eq_false h.base_ne

theorem Apart.handles (h : Apart i t) : Handles (Foreign i t.id) t where
  looks := Foreign.of_looks
  paths := h.paths
  save _ hu := ⟨hu.id, (h.moved hu.id hu.paths).theirs⟩
  unlinkSdx := h.owns_liveSdx
  unlinkTemporary := rfl
  copy _ _ := rfl
  install := ⟨rfl, h.owns_liveIdx⟩

variable [DecidableEq D]

theorem Theirs.prepareOne_issues (h : Theirs i t) : (prepareOne t).Issues (Foreign i t.id) := by
  refine IndexRepair.prepareOne_issues Foreign.of_looks h.paths ?_ fun u hu hphase => ?_
  · exact fun hp => (⟨h.id_ne, h.paths, h.apart hp⟩ : Apart i t).handles
  · refine ⟨hu.id, hu.id ▸ h.id_ne, hu.paths, fun hp => ?_⟩
    rw [hphase] at hp
    exact absurd hp (by decide)

theorem Apart.rollback_issues (h : Apart i t) (reason : String) :
    (rollback reason t).Issues (Foreign i t.id) := by
  refine issues_orRaise_bind fun backup _ => issues_orRaise_bind fun old _ => ?_
  refine (restoreOne_issues Foreign.of_looks backup (fun _ _ => rfl)
    (fun _ => ⟨rfl, h.owns_liveIdx⟩) old).bind fun _ => ?_
  refine Prog.Issues.bind ?_ fun _ => ?_
  · unfold restoreSdx
    split
    · exact issues_orRaise_bind fun sdx _ => restoreOne_issues Foreign.of_looks sdx (fun _ _ => rfl)
        (fun _ => ⟨rfl, h.owns_liveSdx⟩) _
    · exact issues_unlink h.owns_liveSdx
  · refine (issues_fsync trivial).bind fun _ => ?_
    have hmarked : Apart i { t with rolledBack := true, failureReason := reason } :=
      ⟨h.id_ne, h.paths, h.base_ne⟩
    exact hmarked.handles.transition_issues fun u hu => hu.id ▸
      (hmarked.handles.moved hu).manual_issues reason

end

/-! ## Requests under crashes -/

section

variable [DecidableEq D] {sha256 : Bytes → D} {i : Incident}

/-- Every request keeps the invariant; nothing interferes. -/
def crashDiscipline (sha256 : Bytes → D) (i : Incident) : Discipline (crashExec sha256 i) where
  inv := InstallInv sha256 i
  disturb := Eq
  allow r s := ∀ c, InstallInv sha256 i (crashExec sha256 i r c s).2
  refl _ := rfl
  trans _ _ _ := Eq.trans
  keeps _ c _ _ h := h c

/-- The contract of a program that may be cut off at any request. -/
def Survives (sha256 : Bytes → D) (i : Incident) {α : Type} (P : InstallState D → Prop)
    (p : RepairProg D α) (Q : α → InstallState D → Prop) : Prop :=
  (crashDiscipline sha256 i).Triple P p Q fun _ _ => True

theorem crash_stable (P : InstallState D → Prop) : (crashDiscipline sha256 i).Stable P := by
  rintro s _ - - rfl h
  exact h

variable {P : InstallState D → Prop}

theorem ask_survives {r : RepairReq D} {Q : r.Ans → InstallState D → Prop}
    (h : ∀ c s, InstallInv sha256 i s → P s →
      InstallInv sha256 i (crashExec sha256 i r c s).2 ∧
        Q (crashExec sha256 i r c s).1 (crashExec sha256 i r c s).2) :
    Survives sha256 i P (Prog.ask r) Q :=
  Discipline.Triple.ask (crash_stable P) (fun s hs hp c => (h c s hs hp).1)
    fun c s hs hp _ => (h c s hs hp).2

/-- An operation whose failure ends the program. -/
theorem must_survives {p : RepairProg D Bool} {Q : InstallState D → Prop}
    (h : Survives sha256 i P p fun done s => done = true → Q s) :
    Survives sha256 i P (must p) fun _ => Q := by
  refine Discipline.Triple.bind h fun done => Discipline.Triple.raiseIf (fun _ _ _ _ => trivial) ?_
  intro hdone s _ hq
  exact hq (by simpa using hdone)

theorem orRaise_survives {α β : Type} {e : RepairExc D} {o : Option β} {b : β}
    {f : β → RepairProg D α} {Q : α → InstallState D → Prop} (ho : o = some b)
    (hf : Survives sha256 i P (f b) Q) : Survives sha256 i P ((Prog.orRaise e o).bind f) Q := by
  subst ho
  exact hf

theorem node_survives (p : Path) :
    Survives sha256 i P (node p) fun found s => P s ∧ found = s.world.files p :=
  ask_survives fun _ _ hs hp => ⟨hs, hp, rfl⟩

theorem fsync_survives : Survives sha256 i P fsyncDirectory fun _ => P :=
  must_survives (ask_survives fun _ _ hs hp => ⟨hs, fun _ => hp⟩)

theorem transactions_survives :
    Survives sha256 i P transactions fun ts s => P s ∧ ts = s.world.journal := by
  refine Discipline.Triple.bind (M := fun answer s => P s ∧ answer = some s.world.journal) ?_ ?_
  · exact ask_survives fun _ _ hs hp => ⟨hs, hp, rfl⟩
  · exact fun answer => Discipline.Triple.orRaise (fun _ _ _ _ => trivial)
      fun ts hts s _ h => ⟨h.1, Option.some.inj (hts.symm.trans h.2)⟩

theorem awaiting_survives :
    Survives sha256 i P awaiting fun ts s => P s ∧
      ts = s.world.journal.filter fun t => t.phase.pendingValidation :=
  Discipline.Triple.bind transactions_survives fun ts =>
    Discipline.Triple.ret fun _ _ h => ⟨h.1, by rw [h.2]⟩

theorem unlink_survives {p : Path} {Q : InstallState D → Prop}
    (h : ∀ s, InstallInv sha256 i s → P s →
      InstallInv sha256 i (s.setFile p none) ∧ Q (s.setFile p none)) :
    Survives sha256 i P (must (tryUnlink p)) fun _ => Q :=
  must_survives (ask_survives fun _ s hs hp => ⟨(h s hs hp).1, fun _ => (h s hs hp).2⟩)

/-- The state after `os.replace`. -/
def InstallState.moveFile (s : InstallState D) (i : Incident) (p q : Path) (node : Node) :
    InstallState D :=
  ⟨(s.world.setFile q (some node)).setFile p none,
    (RepairReq.replace p q : RepairReq D).restores i.id.base s.world || s.restored⟩

theorem replace_survives {p q : Path} {Q : InstallState D → Prop}
    (h : ∀ s node, InstallInv sha256 i s → P s → s.world.files p = some node →
      InstallInv sha256 i (s.moveFile i p q node) ∧ Q (s.moveFile i p q node)) :
    Survives sha256 i P (must (tryReplace p q)) fun _ => Q := by
  refine must_survives (ask_survives fun c s hs hp => ?_)
  cases hp' : s.world.files p with
  | some node =>
      obtain ⟨hinv, hq⟩ := h s node hs hp hp'
      simp only [crashExec, RepairReq.faultless, repairExec, hp', attempted]
      exact ⟨hinv, fun _ => hq⟩
  | none =>
      have hrestores : (RepairReq.replace p q).restores i.id.base s.world = false := by
        cases p <;> simp [RepairReq.restores, hp']
      simp only [crashExec, repairExec, hp', hrestores]
      exact ⟨hs, fun hfalse => absurd hfalse Bool.false_ne_true⟩

theorem copy_survives {p q : Path} {mode : Option Nat} {Q : InstallState D → Prop}
    (hkeep : ∀ s node, InstallInv sha256 i s → P s → InstallInv sha256 i (s.setFile q (some node)))
    (h : ∀ s contents, InstallInv sha256 i s → P s → s.world.contents p = some contents →
      ∀ m, Q (s.setFile q (some (.file contents m)))) :
    Survives sha256 i P (must (tryCopy p q mode)) fun _ => Q := by
  refine must_survives (ask_survives fun c s hs hp => ?_)
  simp only [crashExec, RepairReq.faultless, RepairReq.restores, Bool.false_or, repairExec, copied]
  cases hread : (s.world.files p).bind Node.read with
  | none => exact ⟨hs, fun hfalse => absurd hfalse Bool.false_ne_true⟩
  | some x =>
      cases hq : s.world.files q with
      | some node => exact ⟨hs, fun hfalse => absurd hfalse Bool.false_ne_true⟩
      | none =>
          have hcontents : s.world.contents p = some x.1 := by simp [World.contents, hread]
          cases c.fault with
          | none => exact ⟨hkeep s _ hs hp, fun _ => h s x.1 hs hp hcontents _⟩
          | before => exact ⟨hkeep s _ hs hp, fun hfalse => absurd hfalse Bool.false_ne_true⟩
          | after => exact ⟨hkeep s _ hs hp, fun hfalse => absurd hfalse Bool.false_ne_true⟩

theorem transition_survives {t : Transaction D} {phase : Phase}
    {Q : Transaction D → InstallState D → Prop}
    (h : ∀ s at_, InstallInv sha256 i s → P s →
      InstallInv sha256 i (s.save .transition { t with phase := phase, updatedAt := at_ }) ∧
        ∀ clock serial, Q { t with phase := phase, updatedAt := at_ }
          ((s.tick clock serial).save .transition { t with phase := phase, updatedAt := at_ })) :
    Survives sha256 i P (transition t phase) Q := by
  refine Discipline.Triple.bind (M := fun _ s => ∃ s₀ clock serial,
    InstallInv sha256 i s₀ ∧ P s₀ ∧ s = s₀.tick clock serial) ?_ fun at_ => ?_
  · exact ask_survives fun c s hs hp => ⟨hs.tick _ _, s, _, _, hs, hp, rfl⟩
  · refine Discipline.Triple.bind (must_survives
      (Q := Q { t with phase := phase, updatedAt := at_ }) (ask_survives ?_)) fun _ =>
        Discipline.Triple.ret fun _ _ hq => hq
    rintro c _ - ⟨s₀, clock, serial, hs₀, hp₀, rfl⟩
    obtain ⟨hinv, hq⟩ := h s₀ at_ hs₀ hp₀
    exact ⟨hinv.tick clock serial, fun _ => hq clock serial⟩

variable (hsha : Function.Injective sha256)

include hsha in
/-- With collision-free hashes, `_same_artifact` compares contents. -/
theorem sameArtifact_survives (p : Path) (contents : Bytes) :
    Survives sha256 i P (sameArtifact p (some (digestOf sha256 contents))) fun same s =>
      P s ∧ (same = true ↔ s.world.contents p = some contents) := by
  refine Discipline.Triple.bind (M := fun answer s => P s ∧ answer =
    ((s.world.files p).bind Node.read).map fun x => ⟨digestOf sha256 x.1, x.2⟩) ?_ fun answer => ?_
  · exact ask_survives fun c s hs hp => ⟨hs, hp, rfl⟩
  · cases answer with
    | none =>
        refine Discipline.Triple.ret fun s _ h => ⟨h.1, ?_⟩
        have hnone := Option.map_eq_none_iff.1 h.2.symm
        simp [World.contents, hnone]
    | some actual =>
        refine Discipline.Triple.ret fun s _ h => ⟨h.1, ?_⟩
        obtain ⟨x, hx, rfl⟩ := Option.map_eq_some_iff.1 h.2.symm
        simp only [World.contents, hx, Option.map_some, Option.some.injEq, decide_eq_true_eq]
        constructor
        · intro heq
          simp only [digestOf, Digest.mk.injEq] at heq
          exact hsha heq.2
        · rintro rfl
          rfl

end

end StorageNode.IndexRepair
