import StorageNode.IndexRepair.Guard
import StorageNode.IndexRepair.Programs

/-!
# Installation of one candidate under crashes

`InstallInv` describes the files and the journal record of one transaction from `backup_created` on:
the staged candidate and the backups stay as they were, the live index is the old one or the
candidate, and each phase says how far the installation has come. Requests succeed here, apart from
copies, which may be cut short; a crash is the end of a program between two requests.

Other transactions of the volume may be journaled and are handled by the same operations. `Foreign`
lists the requests they issue, which touch nothing of this transaction (`InstallInv.foreign`).
-/

set_option autoImplicit false

namespace StorageNode.IndexRepair

open StorageNode.Program StorageNode.IndexHelper RepairProg

variable {D : Type}

/-! ## States -/

/-- The old files of a volume, and the candidate of the transaction that repairs it. -/
structure Incident where
  id : TxId
  old : Bytes
  oldMode : Nat
  sorted : Option (Bytes × Nat)
  candidate : Bytes

/-- A volume, and whether a rollback has put the old index back. -/
structure InstallState (D : Type) where
  world : World D
  restored : Bool := false

/-- The files whose contents matter to an installation. The temporary file is not one of them: it
may hold anything. -/
def Incident.owns (i : Incident) : Path → Bool
  | .liveIdx base => base = i.id.base
  | .liveSdx base => base = i.id.base
  | .candidate tx => tx = i.id
  | .backupIdx tx => tx = i.id
  | .backupSdx tx => tx = i.id
  | _ => false

/-- The live index of the incident's volume. -/
def InstallState.live (s : InstallState D) (i : Incident) : Option Bytes :=
  s.world.contents (.liveIdx i.id.base)

/-- A clock reading or a new name. -/
def InstallState.tick (s : InstallState D) (clock nextSerial : Nat) : InstallState D :=
  { s with world := { s.world with clock := clock, nextSerial := nextSerial } }

def InstallState.setFile (s : InstallState D) (p : Path) (node : Option Node) : InstallState D :=
  { s with world := s.world.setFile p node }

def InstallState.save (s : InstallState D) (kind : SaveKind) (t : Transaction D) : InstallState D :=
  { s with world := s.world.saveRecord kind t }

/-- The request by which a rollback replaces the live index. -/
def RepairReq.restores (base : Base) (w : World D) : RepairReq D → Bool
  | .replace (.scratch serial) destination =>
      decide (destination = .liveIdx base) && (w.files (.scratch serial)).isSome
  | _ => false

/-- Only copies may fail. -/
def RepairReq.faultless : RepairReq D → RepairChoice D → RepairChoice D
  | .copy _ _ _, c => c
  | _, c => { c with fault := .none }

/-- The effect of a request on an installation. -/
def crashExec [DecidableEq D] (sha256 : Bytes → D) (i : Incident) (r : RepairReq D)
    (c : RepairChoice D) (s : InstallState D) : r.Ans × InstallState D :=
  let result := repairExec sha256 r (r.faultless c) s.world
  (result.1, ⟨result.2, r.restores i.id.base s.world || s.restored⟩)

/-! ## The invariant -/

/-- The record of the transaction. -/
structure Ours (sha256 : Bytes → D) (i : Incident) (t : Transaction D) : Prop where
  candidatePath : t.candidatePath = some (.candidate i.id)
  candidateIdx : t.candidateIdx = some (digestOf sha256 i.candidate)
  oldIdx : t.oldIdx = some ⟨digestOf sha256 i.old, i.oldMode⟩
  oldSdx : t.oldSdx = i.sorted.map fun x => ⟨digestOf sha256 x.1, x.2⟩
  backupIdxPath : t.backupIdxPath = some (.backupIdx i.id)
  backupSdxPath : t.backupSdxPath = i.sorted.map fun _ => .backupSdx i.id
  installTempPath : t.phase = .installingCandidate → t.installTempPath = some (.installing i.id)

/-- Another record of the volume's journal. While it is in installation it belongs to other files. -/
structure Theirs (i : Incident) (t : Transaction D) : Prop where
  id_ne : t.id ≠ i.id
  paths : PathsOk t
  apart : t.phase.midInstall = true → t.id.base ≠ i.id.base

/-- A phase of the installation was journaled at some time. -/
def Reached (i : Incident) (log : List (Event D)) : Prop :=
  ∃ kind t, Event.saved kind t ∈ log ∧ t.id = i.id ∧ t.phase.midInstall = true

/-- Nothing was installed. -/
structure Untouched (i : Incident) (s : InstallState D) : Prop where
  live : s.live i = some i.old
  restored : s.restored = false
  unreached : ¬ Reached i s.world.log

/-- The candidate is installed, and no sorted index stands beside it. -/
structure Replaced (i : Incident) (s : InstallState D) : Prop where
  live : s.live i = some i.candidate
  sorted : s.world.files (.liveSdx i.id.base) = none

/-- What each phase says about the installation. -/
def PhaseOk (i : Incident) (s : InstallState D) : Phase → Prop
  | .backupCreated | .resolvedWithoutInstall => Untouched i s
  | .installingCandidate => s.restored = false
  | .candidateInstalled | .awaitingUpstreamValidation => s.restored = false → Replaced i s
  | .rolledBack | .manualInterventionRequired => s.restored = true
  | _ => False

/-- The invariant of an installation. -/
structure InstallInv (sha256 : Bytes → D) (i : Incident) (s : InstallState D) : Prop where
  nodup : (s.world.journal.map Transaction.id).Nodup
  present : ∃ t ∈ s.world.journal, t.id = i.id
  ours : ∀ t ∈ s.world.journal, t.id = i.id → Ours sha256 i t
  theirs : ∀ t ∈ s.world.journal, t.id ≠ i.id → Theirs i t
  phase : ∀ t ∈ s.world.journal, t.id = i.id → PhaseOk i s t.phase
  staged : ∀ t ∈ s.world.journal, t.id = i.id → t.phase ≠ .resolvedWithoutInstall →
    s.world.contents (.candidate i.id) = some i.candidate
  live : s.live i = some i.old ∨ s.live i = some i.candidate
  backupIdx : s.world.contents (.backupIdx i.id) = some i.old
  backupSdx : ∀ x, i.sorted = some x → s.world.contents (.backupSdx i.id) = some x.1

theorem PhaseOk.congr {i : Incident} {s s' : InstallState D} {phase : Phase}
    (h : PhaseOk i s phase) (hr : s'.restored = s.restored)
    (hlive : s'.world.files (.liveIdx i.id.base) = s.world.files (.liveIdx i.id.base))
    (hsorted : s'.world.files (.liveSdx i.id.base) = s.world.files (.liveSdx i.id.base))
    (hreached : Reached i s'.world.log → Reached i s.world.log) : PhaseOk i s' phase := by
  have huntouched : Untouched i s → Untouched i s' := fun h =>
    ⟨(World.contents_congr hlive).trans h.live, hr.trans h.restored, fun hx => h.unreached (hreached hx)⟩
  have hreplaced : Replaced i s → Replaced i s' := fun h =>
    ⟨(World.contents_congr hlive).trans h.live, hsorted.trans h.sorted⟩
  cases phase with
  | backupCreated => exact huntouched h
  | resolvedWithoutInstall => exact huntouched h
  | installingCandidate => exact hr.trans h
  | candidateInstalled => exact fun hs => hreplaced (h (hr.symm.trans hs))
  | awaitingUpstreamValidation => exact fun hs => hreplaced (h (hr.symm.trans hs))
  | rolledBack => exact hr.trans h
  | manualInterventionRequired => exact hr.trans h
  | _ => exact h

section

variable {sha256 : Bytes → D} {i : Incident} {s s' : InstallState D}

theorem InstallInv.unique (h : InstallInv sha256 i s) {t u : Transaction D}
    (ht : t ∈ s.world.journal) (hu : u ∈ s.world.journal) (hid : t.id = u.id) : t = u :=
  List.inj_on_of_nodup_map h.nodup ht hu hid

/-- A change of files that keeps the staged candidate and the backups. -/
theorem InstallInv.refile (h : InstallInv sha256 i s)
    (hjournal : s'.world.journal = s.world.journal)
    (hcandidate : s'.world.files (.candidate i.id) = s.world.files (.candidate i.id))
    (hidx : s'.world.files (.backupIdx i.id) = s.world.files (.backupIdx i.id))
    (hsdx : s'.world.files (.backupSdx i.id) = s.world.files (.backupSdx i.id))
    (hlive : s'.live i = some i.old ∨ s'.live i = some i.candidate)
    (hphase : ∀ t ∈ s.world.journal, t.id = i.id → PhaseOk i s' t.phase) :
    InstallInv sha256 i s' where
  nodup := hjournal ▸ h.nodup
  present := hjournal ▸ h.present
  ours := hjournal ▸ h.ours
  theirs := hjournal ▸ h.theirs
  phase := hjournal ▸ hphase
  staged t ht hid hp := (World.contents_congr hcandidate).trans (h.staged t (hjournal ▸ ht) hid hp)
  live := hlive
  backupIdx := (World.contents_congr hidx).trans h.backupIdx
  backupSdx x hx := (World.contents_congr hsdx).trans (h.backupSdx x hx)

/-- A change that leaves the files, the journal and the log of the incident alone. -/
theorem InstallInv.frame (h : InstallInv sha256 i s)
    (hjournal : s'.world.journal = s.world.journal) (hlog : s'.world.log = s.world.log)
    (hrestored : s'.restored = s.restored)
    (hfiles : ∀ p, i.owns p = true → s'.world.files p = s.world.files p) :
    InstallInv sha256 i s' := by
  have hidx := hfiles (.liveIdx i.id.base) (by simp [Incident.owns])
  refine h.refile hjournal (hfiles _ (by simp [Incident.owns])) (hfiles _ (by simp [Incident.owns]))
    (hfiles _ (by simp [Incident.owns])) ?_ fun t ht hid => ?_
  · rw [InstallState.live, World.contents_congr hidx]
    exact h.live
  · exact (h.phase t ht hid).congr hrestored hidx (hfiles _ (by simp [Incident.owns])) (hlog ▸ id)

theorem InstallInv.tick (h : InstallInv sha256 i s) (clock nextSerial : Nat) :
    InstallInv sha256 i (s.tick clock nextSerial) :=
  h.frame rfl rfl rfl fun _ _ => rfl

theorem InstallInv.setFile (h : InstallInv sha256 i s) {p : Path} (hp : i.owns p = false)
    (node : Option Node) : InstallInv sha256 i (s.setFile p node) := by
  refine h.frame rfl rfl rfl fun q hq => ?_
  have hne : q ≠ p := fun heq => by simp [heq, hp] at hq
  simp [InstallState.setFile, World.setFile, hne]

/-- The transaction moves on to a new phase. -/
theorem InstallInv.save (h : InstallInv sha256 i s) {kind : SaveKind} {t : Transaction D}
    (hid : t.id = i.id) (hours : Ours sha256 i t) (hphase : PhaseOk i (s.save kind t) t.phase)
    (hstaged : s.world.contents (.candidate i.id) = some i.candidate) :
    InstallInv sha256 i (s.save kind t) := by
  have hmem : ∀ u ∈ (s.save kind t).world.journal, u.id = i.id → u = t := by
    intro u hu huid
    rcases mem_saveTransaction.1 hu with ⟨-, hne⟩ | rfl
    · exact absurd (huid.trans hid.symm) hne
    · rfl
  refine ⟨nodup_saveTransaction h.nodup, ⟨t, mem_saveTransaction.2 (.inr rfl), hid⟩, ?_, ?_, ?_, ?_,
    h.live, h.backupIdx, h.backupSdx⟩
  · exact fun u hu huid => hmem u hu huid ▸ hours
  · intro u hu huid
    rcases mem_saveTransaction.1 hu with ⟨hu, -⟩ | rfl
    · exact h.theirs u hu huid
    · exact absurd hid huid
  · exact fun u hu huid => hmem u hu huid ▸ hphase
  · exact fun u hu huid _ => hstaged

end

/-! ## Requests of other transactions -/

/-- Requests that a transaction issues for itself and that touch nothing of the incident. -/
def Foreign (i : Incident) (id : TxId) : RepairReq D → Prop
  | .save _ t => t.id = id ∧ Theirs i t
  | .unlink p => i.owns p = false
  | .copy _ destination _ => i.owns destination = false
  | .link _ destination => i.owns destination = false
  | .replace source destination => i.owns source = false ∧ i.owns destination = false
  | .removeStaging tx => tx ≠ i.id
  | .build _ _ => False
  | .recoverTail _ _ _ => False
  | _ => True

/-- What such a request keeps: the invariant, the records of all other transactions, and what is
known about the progress of the incident. -/
structure Elsewhere (sha256 : Bytes → D) (i : Incident) (id : TxId) (s s' : InstallState D) :
    Prop where
  inv : InstallInv sha256 i s'
  kept : ∀ t ∈ s.world.journal, t.id ≠ id → t ∈ s'.world.journal
  restored : s'.restored = s.restored
  reached : Reached i s'.world.log → Reached i s.world.log

section

variable {sha256 : Bytes → D} {i : Incident} {s s' : InstallState D}

theorem Elsewhere.tick (h : InstallInv sha256 i s) (id : TxId) (clock nextSerial : Nat) :
    Elsewhere sha256 i id s (s.tick clock nextSerial) :=
  ⟨h.tick clock nextSerial, fun _ ht _ => ht, rfl, fun h => h⟩

theorem Elsewhere.refl (h : InstallInv sha256 i s) (id : TxId) : Elsewhere sha256 i id s s :=
  ⟨h, fun _ ht _ => ht, rfl, fun h => h⟩

theorem Elsewhere.trans {s'' : InstallState D} {id : TxId} (h : Elsewhere sha256 i id s s')
    (h' : Elsewhere sha256 i id s' s'') : Elsewhere sha256 i id s s'' :=
  ⟨h'.inv, fun t ht hne => h'.kept t (h.kept t ht hne) hne, h'.restored.trans h.restored,
    fun hx => h.reached (h'.reached hx)⟩

theorem Elsewhere.setFile (h : InstallInv sha256 i s) (id : TxId) {p : Path}
    (hp : i.owns p = false) (node : Option Node) : Elsewhere sha256 i id s (s.setFile p node) :=
  ⟨h.setFile hp node, fun _ ht _ => ht, rfl, fun h => h⟩

theorem Elsewhere.save (h : InstallInv sha256 i s) (kind : SaveKind) {t : Transaction D}
    (ht : Theirs i t) : Elsewhere sha256 i t.id s (s.save kind t) := by
  have hreached : Reached i (s.save kind t).world.log → Reached i s.world.log := by
    rintro ⟨k, u, hu, hid, hphase⟩
    rcases List.mem_cons.1 hu with heq | hu
    · cases heq
      exact absurd hid ht.id_ne
    · exact ⟨k, u, hu, hid, hphase⟩
  have hback : ∀ u ∈ (s.save kind t).world.journal, u.id = i.id → u ∈ s.world.journal := by
    intro u hu huid
    rcases mem_saveTransaction.1 hu with ⟨hu, -⟩ | rfl
    · exact hu
    · exact absurd huid ht.id_ne
  have hkept : ∀ u ∈ s.world.journal, u.id ≠ t.id → u ∈ (s.save kind t).world.journal :=
    fun u hu hne => mem_saveTransaction.2 (.inl ⟨hu, hne⟩)
  refine ⟨⟨nodup_saveTransaction h.nodup, ?_, ?_, ?_, ?_, ?_, h.live, h.backupIdx, h.backupSdx⟩,
    hkept, rfl, hreached⟩
  · obtain ⟨u, hu, huid⟩ := h.present
    exact ⟨u, hkept u hu (huid ▸ ht.id_ne.symm), huid⟩
  · exact fun u hu huid => h.ours u (hback u hu huid) huid
  · intro u hu huid
    rcases mem_saveTransaction.1 hu with ⟨hu, -⟩ | rfl
    · exact h.theirs u hu huid
    · exact ht
  · exact fun u hu huid => (h.phase u (hback u hu huid) huid).congr rfl rfl rfl hreached
  · exact fun u hu huid => h.staged u (hback u hu huid) huid

variable [DecidableEq D]

/-- Requests of other transactions leave the installation as it is. -/
theorem InstallInv.foreign (h : InstallInv sha256 i s) {id : TxId} {r : RepairReq D}
    (hr : Foreign i id r) (c : RepairChoice D) :
    Elsewhere sha256 i id s (crashExec sha256 i r c s).2 := by
  cases r with
  | now => exact Elsewhere.tick h id _ _
  | uuid base => exact Elsewhere.tick h id _ _
  | scratchName _ => exact Elsewhere.tick h id _ _
  | load => exact Elsewhere.refl h id
  | save kind t =>
      obtain ⟨rfl, ht⟩ := hr
      exact Elsewhere.save h kind ht
  | node p => exact Elsewhere.refl h id
  | hash p => exact Elsewhere.refl h id
  | unlink p => exact Elsewhere.setFile h id hr none
  | copy source destination mode =>
      simp only [crashExec, RepairReq.faultless, RepairReq.restores, Bool.false_or, repairExec, copied]
      split
      · split <;> exact Elsewhere.setFile h id hr _
      · exact Elsewhere.refl h id
  | link source destination =>
      simp only [crashExec, RepairReq.faultless, RepairReq.restores, Bool.false_or, repairExec]
      cases s.world.files source with
      | none => exact Elsewhere.refl h id
      | some node =>
          cases s.world.files destination with
          | none => exact Elsewhere.setFile h id hr _
          | some _ => exact Elsewhere.refl h id
  | replace source destination =>
      -- a rename onto the live index would be the restoration, which is not a foreign request
      have hne : destination ≠ .liveIdx i.id.base := by
        rintro rfl
        exact absurd hr.2 (by simp [Incident.owns])
      have hrestores : (RepairReq.replace source destination).restores i.id.base s.world = false := by
        cases source <;> simp [RepairReq.restores, hne]
      simp only [crashExec, RepairReq.faultless, hrestores, Bool.false_or, repairExec]
      split
      · next node _ =>
          -- a rename writes one file and removes another
          have hdestination := Elsewhere.setFile h id hr.2 (some node)
          exact hdestination.trans (Elsewhere.setFile hdestination.inv id hr.1 none)
      · exact Elsewhere.refl h id
  | sync => exact Elsewhere.refl h id
  | removeStaging tx => exact Elsewhere.setFile h id (p := .candidate tx) (decide_eq_false hr) none
  | preflight => exact Elsewhere.refl h id
  | build tx fingerprint => exact hr.elim
  | recoverTail tx expected maximumTailBytes => exact hr.elim

end

end StorageNode.IndexRepair
