import StorageNode.IndexRepair.Records
import StorageNode.IndexRepair.Guard
import StorageNode.Program.Relational
import Mathlib.Data.Nat.Basic
import Mathlib.Order.Monotone.Basic

/-!
# A repair minds its own volume

Every `_repair_one` loads the whole journal, several times, and picks its own records out of it: by
the volume id, by the fingerprint, by the source identity. `repairOne_local` compares two executions
of one repair. In the first one a load returns only the records of the volume; in the second it returns
those, with other times, among records of other volumes. The two executions issue the same requests,
all of them about the volume, and end the same way.

The times of the records matter only through their order, so they may be changed by any increasing
function.
-/

set_option autoImplicit false

namespace StorageNode.IndexRepair

open StorageNode.Program StorageNode.IndexHelper RepairProg

variable {D : Type}

/-! ## Volumes and times -/

/-- The record agrees with itself about its volume and its files. -/
structure WellFormed (t : Transaction D) : Prop where
  origin : OriginOk t
  paths : PathsOk t

/-- The record with another time. -/
def Transaction.shift (φ : Nat → Nat) (t : Transaction D) : Transaction D :=
  { t with updatedAt := φ t.updatedAt }

@[simp] theorem shift_id (φ : Nat → Nat) (t : Transaction D) : (t.shift φ).id = t.id := rfl

@[simp] theorem shift_phase (φ : Nat → Nat) (t : Transaction D) : (t.shift φ).phase = t.phase := rfl

@[simp] theorem shift_updatedAt (φ : Nat → Nat) (t : Transaction D) :
    (t.shift φ).updatedAt = φ t.updatedAt := rfl

/-- The paths that a request reads or writes. -/
def RepairReq.paths : RepairReq D → List Path
  | .node p | .hash p | .unlink p => [p]
  | .copy source destination _ | .link source destination | .replace source destination =>
      [source, destination]
  | .removeStaging id | .build id _ => [.candidate id]
  | .recoverTail id _ _ => [.dat id.base, .liveIdx id.base, .candidate id, .incompleteTail id]
  | .now | .uuid _ | .scratchName _ | .load | .save _ _ | .sync | .preflight => []

/-- The requests that read no clock, touch no journal and ask for no new name. -/
def RepairReq.plain : RepairReq D → Bool
  | .now | .load | .save _ _ | .uuid _ | .scratchName _ => false
  | _ => true

/-- The requests that both executions issue unchanged: they are about files of the volume. -/
def RepairReq.Own (v : Int) (r : RepairReq D) : Prop :=
  r.plain = true ∧ ∀ p ∈ r.paths, p.base.volumeId = v

/-- What a load returns in the two executions. -/
def LoadPair (v : Int) (φ : Nat → Nat) : Option (List (Transaction D)) →
    Option (List (Transaction D)) → Prop
  | none, none => True
  | some ts, some ts' => ts'.filter (fun t => decide (t.id.base.volumeId = v)) =
      ts.map (Transaction.shift φ) ∧ ∀ t ∈ ts', WellFormed t
  | _, _ => False

/-- The pairs of requests that the two executions issue. -/
inductive LocalLink (v : Int) (φ : Nat → Nat) : Links (RepairReq D) RepairReq.Ans
  | now : LocalLink v φ .now .now fun (a a' : Nat) => a' = φ a
  | load : LocalLink v φ .load .load (LoadPair v φ)
  | save (kind : SaveKind) (t : Transaction D) (hv : t.id.base.volumeId = v) (ht : WellFormed t) :
      LocalLink v φ (.save kind t) (.save kind (t.shift φ)) fun (a a' : Bool) => a = a'
  | uuid (base : Base) (hv : base.volumeId = v) :
      LocalLink v φ (.uuid base) (.uuid base) fun (a a' : TxId) => a = a' ∧ a.base = base
  | scratchName (base : Base) (hv : base.volumeId = v) :
      LocalLink v φ (.scratchName base) (.scratchName base) fun (a a' : TxId) =>
        a = a' ∧ a.base = base
  | own (r : RepairReq D) (hr : r.Own v) : LocalLink v φ r r Eq

/-- Two versions of a record of the volume. -/
structure Twin (v : Int) (φ : Nat → Nat) (t t' : Transaction D) : Prop where
  shift : t' = t.shift φ
  volume : t.id.base.volumeId = v
  sound : WellFormed t

/-- The executions in step, with related results. -/
abbrev Local (v : Int) (φ : Nat → Nat) {α β : Type} (R : α → β → Prop) (p : RepairProg D α)
    (q : RepairProg D β) : Prop :=
  Mirrors (LocalLink v φ) R p q

section

variable {v : Int} {φ : Nat → Nat} {t t' : Transaction D}

theorem WellFormed.moved {u : Transaction D} (ht : WellFormed t) (h : SameOrigin t u)
    (hpaths : PathsOk u) : WellFormed u :=
  ⟨ht.origin.moved h, hpaths⟩

theorem WellFormed.shift (ht : WellFormed t) : WellFormed (t.shift φ) :=
  ht.moved ⟨rfl, rfl, rfl, rfl⟩ ht.paths

/-- Two versions of a record after the same change. -/
theorem Twin.change {u u' : Transaction D} (h : Twin v φ t t') (hu : SameOrigin t u)
    (hpaths : PathsOk u) (hshift : u' = u.shift φ) : Twin v φ u u' :=
  ⟨hshift, by rw [hu.id]; exact h.volume, h.sound.moved hu hpaths⟩

/-- A part that reads no clock and no journal runs the same in both executions. -/
theorem Local.same {α : Type} {p : RepairProg D α} (hp : p.Issues (RepairReq.Own v)) :
    Local v φ Eq p p :=
  Mirrors.of_issues (fun r hr => .own r hr) hp

theorem local_must {p q : RepairProg D Bool} (h : Local v φ Eq p q) :
    Local v φ (fun _ _ => True) (must p) (must q) := by
  refine Mirrors.bind h ?_
  rintro done _ rfl
  exact (Mirrors.raiseIf Iff.rfl).mono fun _ _ _ => trivial

theorem local_now : Local v φ (fun a a' => a' = φ a) (now : RepairProg D Nat) now :=
  Mirrors.ask .now

theorem local_save {kind : SaveKind} (h : Twin v φ t t') :
    Local v φ (fun _ _ => True) (must (trySave kind t)) (must (trySave kind t')) := by
  rw [h.shift]
  exact local_must (Mirrors.ask (.save kind t h.volume h.sound))

theorem local_transition (h : Twin v φ t t') (phase : Phase) :
    Local v φ (fun u u' => Twin v φ u u' ∧ SameOrigin t u ∧ u.phase = phase)
      (transition t phase) (transition t' phase) := by
  refine local_now.bind ?_
  rintro at_ _ rfl
  have hmoved : Twin v φ { t with phase := phase, updatedAt := at_ }
      { t' with phase := phase, updatedAt := φ at_ } :=
    h.change ⟨rfl, rfl, rfl, rfl⟩ h.sound.paths (by rw [h.shift]; rfl)
  exact (local_save hmoved).bind fun _ _ _ => Mirrors.ret ⟨hmoved, ⟨rfl, rfl, rfl, rfl⟩, rfl⟩

theorem local_manual (h : Twin v φ t t') (reason : String) :
    Local v φ (fun _ _ => True) (manual t reason) (manual t' reason) := by
  have hreason : Twin v φ { t with failureReason := reason } { t' with failureReason := reason } :=
    h.change ⟨rfl, rfl, rfl, rfl⟩ h.sound.paths (by rw [h.shift]; rfl)
  exact (local_transition hreason _).bind fun _ _ _ => Mirrors.ret trivial

theorem local_recordPreinstallFailure (h : Twin v φ t t') (reason : String) :
    Local v φ (fun _ _ => True) (recordPreinstallFailure t reason)
      (recordPreinstallFailure t' reason) := by
  have hreason : Twin v φ { t with failureReason := reason } { t' with failureReason := reason } :=
    h.change ⟨rfl, rfl, rfl, rfl⟩ h.sound.paths (by rw [h.shift]; rfl)
  refine (local_transition hreason _).bind ?_
  rintro u u' ⟨hu, -, -⟩
  refine Mirrors.when ?_ fun _ => local_manual hu reason
  rw [hu.shift]
  rfl

/-- A failure is recorded, and an exception ends the repair. -/
theorem local_refuse {condition condition' : Prop} [Decidable condition] [Decidable condition']
    (hc : condition ↔ condition') {p q : RepairProg D Unit} {e : RepairExc D}
    (h : Local v φ (fun _ _ => True) p q) :
    Local v φ (fun _ _ => True) (Prog.when condition (p.bind fun _ => Prog.raise e))
      (Prog.when condition' (q.bind fun _ => Prog.raise e)) :=
  Mirrors.when hc fun _ => h.bind fun _ _ _ => Mirrors.raise

/-! ## Loaded records -/

/-- What a load returns: the records of the volume among all records. -/
structure Loads (v : Int) (φ : Nat → Nat) (ts ts' : List (Transaction D)) : Prop where
  own : ts'.filter (fun t => decide (t.id.base.volumeId = v)) = ts.map (Transaction.shift φ)
  sound : ∀ t ∈ ts', WellFormed t

theorem local_transactions : Local v φ (Loads v φ) (transactions : RepairProg D _) transactions := by
  refine Mirrors.bind (Mirrors.ask .load) ?_
  intro answer answer' h
  match answer, answer', h with
  | none, none, _ => exact Mirrors.raise
  | some ts, some ts', h => exact Mirrors.ret ⟨h.1, h.2⟩

/-- The selected records of the volume, in the two executions. -/
structure Selected (v : Int) (φ : Nat → Nat) (ts ts' : List (Transaction D)) : Prop where
  map : ts' = ts.map (Transaction.shift φ)
  volume : ∀ t ∈ ts, t.id.base.volumeId = v
  sound : ∀ t ∈ ts, WellFormed t

theorem Selected.twin {ts ts' : List (Transaction D)} (h : Selected v φ ts ts') (ht : t ∈ ts) :
    Twin v φ t (t.shift φ) :=
  ⟨rfl, h.volume t ht, h.sound t ht⟩

/-- A record of the first execution stands among the records of the second one. -/
theorem Loads.mem {ts ts' : List (Transaction D)} (h : Loads v φ ts ts') (ht : t ∈ ts) :
    t.shift φ ∈ ts' ∧ t.id.base.volumeId = v ∧ WellFormed t := by
  have hmem : t.shift φ ∈ ts'.filter fun t => decide (t.id.base.volumeId = v) := by
    rw [h.own]
    exact List.mem_map_of_mem ht
  obtain ⟨hall, hvolume⟩ := List.mem_filter.1 hmem
  have hsound := h.sound _ hall
  exact ⟨hall, of_decide_eq_true hvolume, hsound.moved ⟨rfl, rfl, rfl, rfl⟩ hsound.paths⟩

/-- A selection that only finds records of the volume finds the same ones. -/
theorem Loads.select {ts ts' : List (Transaction D)} (h : Loads v φ ts ts')
    (keep : Transaction D → Bool) (hkeep : ∀ t, keep (t.shift φ) = keep t)
    (hown : ∀ t ∈ ts', keep t = true → t.id.base.volumeId = v) :
    Selected v φ (ts.filter keep) (ts'.filter keep) where
  map := by
    have hnarrow : ts'.filter keep = (ts'.filter fun t => decide (t.id.base.volumeId = v)).filter
        keep := by
      rw [List.filter_filter]
      refine List.filter_congr fun t ht => ?_
      cases hk : keep t with
      | false => rfl
      | true => simp [hown t ht hk]
    rw [hnarrow, h.own, List.filter_map]
    exact congrArg (List.map _) (List.filter_congr fun t _ => hkeep t)
  volume t ht := (h.mem (List.mem_filter.1 ht).1).2.1
  sound t ht := (h.mem (List.mem_filter.1 ht).1).2.2

theorem Selected.filter {ts ts' : List (Transaction D)} (h : Selected v φ ts ts')
    (keep : Transaction D → Bool) (hkeep : ∀ t, keep (t.shift φ) = keep t) :
    Selected v φ (ts.filter keep) (ts'.filter keep) where
  map := by
    rw [h.map, List.filter_map]
    exact congrArg (List.map _) (List.filter_congr fun t _ => hkeep t)
  volume t ht := h.volume t (List.mem_filter.1 ht).1
  sound t ht := h.sound t (List.mem_filter.1 ht).1

theorem latestOf_map (hφ : StrictMono φ) : ∀ ts : List (Transaction D),
    latestOf (ts.map (Transaction.shift φ)) = (latestOf ts).map (Transaction.shift φ) := by
  intro ts
  induction ts with
  | nil => rfl
  | cons t ts ih =>
      rw [List.map_cons, latestOf, latestOf, ih]
      cases latestOf ts with
      | none => rfl
      | some u =>
          simp only [Option.map_some, shift_updatedAt, gt_iff_lt, hφ.lt_iff_lt]
          by_cases hlater : t.updatedAt < u.updatedAt
          · rw [if_pos hlater, if_pos hlater]
            rfl
          · rw [if_neg hlater, if_neg hlater]
            rfl

theorem maxAttempts_map (ts : List (Transaction D)) :
    maxAttempts (ts.map (Transaction.shift φ)) = maxAttempts ts := by
  rw [maxAttempts, List.foldl_map]
  rfl

/-- The latest selected record, in the two executions. -/
theorem Selected.latest (hφ : StrictMono φ) {ts ts' : List (Transaction D)}
    (h : Selected v φ ts ts') : (latestOf ts = none ∧ latestOf ts' = none) ∨
      ∃ u, latestOf ts = some u ∧ latestOf ts' = some (u.shift φ) ∧ u ∈ ts := by
  have hmap : latestOf ts' = (latestOf ts).map (Transaction.shift φ) := by
    rw [h.map, latestOf_map hφ]
  cases hlatest : latestOf ts with
  | none =>
      rw [hlatest] at hmap
      exact .inl ⟨rfl, hmap⟩
  | some u =>
      rw [hlatest] at hmap
      exact .inr ⟨u, rfl, hmap, latestOf_mem hlatest⟩

/-! ## Parts that are the same in both executions -/

theorem own_fsync : (fsyncDirectory : RepairProg D Unit).Issues (RepairReq.Own v) :=
  issues_fsync ⟨rfl, by simp [RepairReq.paths]⟩

theorem own_unlink {p : Path} (hp : p.base.volumeId = v) :
    (must (tryUnlink p) : RepairProg D Unit).Issues (RepairReq.Own v) :=
  issues_unlink ⟨rfl, by simpa [RepairReq.paths] using hp⟩

theorem own_copy {p q : Path} (hp : p.base.volumeId = v) (hq : q.base.volumeId = v)
    (mode : Option Nat) : (must (tryCopy p q mode) : RepairProg D Unit).Issues (RepairReq.Own v) :=
  issues_copy ⟨rfl, by simpa [RepairReq.paths] using ⟨hp, hq⟩⟩

theorem own_replace {p q : Path} (hp : p.base.volumeId = v) (hq : q.base.volumeId = v) :
    (must (tryReplace p q) : RepairProg D Unit).Issues (RepairReq.Own v) :=
  issues_replace ⟨rfl, by simpa [RepairReq.paths] using ⟨hp, hq⟩⟩

theorem own_node {p : Path} (hp : p.base.volumeId = v) :
    (node p : RepairProg D (Option Node)).Issues (RepairReq.Own v) :=
  (Prog.issues_ask _).2 ⟨rfl, by simpa [RepairReq.paths] using hp⟩

theorem own_hashFile {p : Path} (hp : p.base.volumeId = v) :
    (hashFile p : RepairProg D (Option (Artifact D))).Issues (RepairReq.Own v) :=
  (Prog.issues_ask _).2 ⟨rfl, by simpa [RepairReq.paths] using hp⟩

theorem own_hashOrRaise {p : Path} (hp : p.base.volumeId = v) :
    (hashOrRaise p : RepairProg D (Artifact D)).Issues (RepairReq.Own v) :=
  (own_hashFile hp).bind fun _ => Prog.issues_orRaise _ _

theorem own_sortedArtifact {base : Base} (hbase : base.volumeId = v) (present : Bool) :
    (sortedArtifact base present : RepairProg D _).Issues (RepairReq.Own v) := by
  unfold sortedArtifact
  split
  · exact (own_hashOrRaise (p := .liveSdx base) hbase).bind fun _ => trivial
  · trivial

theorem own_removeStaleSdx (hv : t.id.base.volumeId = v) :
    (removeStaleSdx t).Issues (RepairReq.Own v) :=
  (own_unlink (p := t.liveSdx) hv).bind fun _ => own_fsync

theorem own_discardCandidate {id : TxId} (hv : id.base.volumeId = v) (built : HelperPayload D) :
    (discardCandidate id built).Issues (RepairReq.Own v) := by
  unfold discardCandidate
  split
  · exact (Prog.issues_ask _).2 ⟨rfl, by simpa [RepairReq.paths, Path.base] using hv⟩
  · trivial

variable [DecidableEq D]

theorem own_sameArtifact {p : Path} (hp : p.base.volumeId = v) (expected : Option (Digest D)) :
    (sameArtifact p expected).Issues (RepairReq.Own v) := by
  unfold sameArtifact
  split
  · exact (own_node hp).bind fun _ => trivial
  · refine (own_hashFile hp).bind fun answer => ?_
    split <;> trivial

theorem own_usableTemporary {p : Path} (hp : p.base.volumeId = v) (expected : Option (Digest D))
    (absent : Bool) : (usableTemporary p expected absent).Issues (RepairReq.Own v) := by
  refine (own_node hp).bind fun found => ?_
  split
  · exact own_sameArtifact hp expected
  · trivial

theorem own_stageTemporary (hv : t.id.base.volumeId = v) {candidate : Path}
    (hcandidate : candidate.base.volumeId = v) (digest : Digest D) :
    (stageTemporary t candidate digest).Issues (RepairReq.Own v) := by
  have htemporary : (Path.installing t.id).base.volumeId = v := hv
  refine (own_usableTemporary htemporary _ _).bind fun usable => ?_
  refine Prog.Issues.bind (own_unlink htemporary).when fun _ => ?_
  refine (own_node htemporary).bind fun found => Prog.Issues.when ?_
  exact (Prog.issues_orRaise _ _).bind fun old => own_copy hcandidate htemporary _

/-! ## Backups -/

omit [DecidableEq D] in
theorem local_copyBackup {source destination : Path} (hsource : source.base.volumeId = v)
    (hdestination : destination.base.volumeId = v) :
    Local v φ (fun _ _ => True) (copyBackup source destination : RepairProg D Unit)
      (copyBackup source destination) := by
  refine Mirrors.bind (Mirrors.ask (.scratchName _ hdestination)) ?_
  rintro name _ ⟨rfl, hname⟩
  have hscratch : (Path.scratch name).base.volumeId = v := by
    rw [Path.base, hname]
    exact hdestination
  refine (Local.same ?_).mono fun _ _ _ => trivial
  refine (own_copy hsource hscratch _).bind fun _ => own_fsync.bind fun _ => ?_
  exact own_replace hscratch hdestination

theorem local_backupOne (source destination : Path) (hsource : source.base.volumeId = v)
    (hdestination : destination.base.volumeId = v) (expected : Option (Digest D)) :
    Local v φ (fun _ _ => True) (backupOne source destination expected)
      (backupOne source destination expected) := by
  refine (Local.same own_fsync).bind fun _ _ _ => (Local.same (own_node hdestination)).bind ?_
  rintro found _ rfl
  refine Mirrors.ite Iff.rfl (fun _ => ?_) fun _ => ?_
  · refine (Local.same ?_).mono fun _ _ _ => trivial
    exact (own_sameArtifact hdestination _).bind fun _ => Prog.issues_raiseIf _ _
  · refine Mirrors.bind (R := Eq) (Local.same ((Prog.issues_ask _).2 ⟨rfl, ?_⟩)) ?_
    · simpa [RepairReq.paths] using ⟨hsource, hdestination⟩
    · rintro linked _ rfl
      refine (Mirrors.when Iff.rfl fun _ => local_copyBackup hsource hdestination).bind fun _ _ _ => ?_
      refine (Local.same ?_).mono fun _ _ _ => trivial
      refine (own_sameArtifact hdestination _).bind fun _ => ?_
      exact (Prog.issues_raiseIf _ _).bind fun _ => own_fsync

/-- Two versions of a record, changed in fields that no selection reads. -/
theorem local_backupSdx (h : Twin v φ t t') :
    Local v φ (fun u u' => Twin v φ u u' ∧ SameOrigin t u) (backupSdx t) (backupSdx t') := by
  obtain ⟨rfl, hv, hs⟩ := h
  have h : Twin v φ t (t.shift φ) := ⟨rfl, hv, hs⟩
  unfold backupSdx
  have hold : (t.shift φ).oldSdx = t.oldSdx := rfl
  rw [hold]
  cases t.oldSdx with
  | none => exact Mirrors.ret ⟨h, SameOrigin.refl t⟩
  | some old =>
      refine (local_backupOne t.liveSdx (.backupSdx t.id) hv hv _).bind
        fun _ _ _ => Mirrors.ret ⟨h.change ⟨rfl, rfl, rfl, rfl⟩ hs.paths rfl, ⟨rfl, rfl, rfl, rfl⟩⟩

theorem local_createBackups (h : Twin v φ t t') :
    Local v φ (fun u u' => Twin v φ u u' ∧ SameOrigin t u) (createBackups t) (createBackups t') := by
  obtain ⟨rfl, hv, hs⟩ := h
  have hbacked : Twin v φ { t with backupIdxPath := some (.backupIdx t.id) }
      { t.shift φ with backupIdxPath := some (.backupIdx t.id) } :=
    Twin.change ⟨rfl, hv, hs⟩ ⟨rfl, rfl, rfl, rfl⟩ hs.paths rfl
  refine (Local.same own_fsync).bind fun _ _ _ => ?_
  refine (local_backupOne t.liveIdx (.backupIdx t.id) hv hv _).bind
    fun _ _ _ => (local_backupSdx hbacked).bind ?_
  rintro u u' ⟨hu, horigin⟩
  refine (Local.same own_fsync).bind fun _ _ _ => (local_transition hu _).mono ?_
  exact fun x x' hx => ⟨hx.1, SameOrigin.trans ⟨horigin.id, horigin.identity, horigin.source,
    horigin.unavailable⟩ hx.2.1⟩

/-! ## Installation -/

omit [DecidableEq D] in
theorem local_recordInstalled (h : Twin v φ t t') :
    Local v φ (fun _ _ => True) (recordInstalled t) (recordInstalled t') := by
  refine (local_transition h _).bind fun u u' hu => ?_
  exact (local_transition hu.1 _).bind fun _ _ _ => Mirrors.ret trivial

theorem local_installCandidate (h : Twin v φ t t') :
    Local v φ (fun _ _ => True) (installCandidate t) (installCandidate t') := by
  obtain ⟨rfl, hv, hs⟩ := h
  have h : Twin v φ t (t.shift φ) := ⟨rfl, hv, hs⟩
  -- both runs handle names of this volume only
  have hcandidate : (Path.candidate t.id).base.volumeId = v := hv
  refine Mirrors.bind (R := fun p p' => p = .candidate t.id ∧ p' = .candidate t.id)
    (Mirrors.orRaise Iff.rfl fun p p' hp hp' => ⟨hs.paths.1 p hp, hs.paths.1 p' hp'⟩) ?_
  rintro _ _ ⟨rfl, rfl⟩
  refine Mirrors.bind (R := Eq) (Mirrors.orRaise Iff.rfl fun d d' hd hd' =>
    Option.some.inj (hd.symm.trans hd')) ?_
  rintro digest _ rfl
  refine (Local.same (own_sameArtifact hcandidate _)).bind ?_
  rintro intact _ rfl
  refine (local_refuse Iff.rfl (local_manual h _)).bind fun _ _ _ => ?_
  refine Mirrors.bind (R := Eq) (Local.same (own_stageTemporary hv hcandidate digest))
    fun _ _ _ => ?_
  -- the two records stay twins under the new phase
  have hstaged : Twin v φ { t with installTempPath := some (.installing t.id) }
      { t.shift φ with installTempPath := some (.installing t.id) } := by
    refine h.change ⟨rfl, rfl, rfl, rfl⟩ ⟨hs.paths.1, fun p hp => ?_, hs.paths.2.2⟩ rfl
    exact (Option.some.inj hp).symm
  refine (local_transition hstaged _).bind ?_
  rintro u u' ⟨hu, -, -⟩
  obtain ⟨rfl, huv, hus⟩ := hu
  refine Mirrors.bind (R := Eq) (Local.same (own_replace (p := .installing u.id) (q := u.liveIdx)
    huv huv)) fun _ _ _ => ?_
  refine Mirrors.bind (R := Eq) (Local.same (own_removeStaleSdx huv)) fun _ _ _ => ?_
  refine (Local.same own_fsync).bind fun _ _ _ => ?_
  refine Mirrors.bind (R := Eq) (Local.same (own_sameArtifact (p := u.liveIdx) huv _)) ?_
  rintro installed _ rfl
  exact (Mirrors.raiseIf Iff.rfl).bind fun _ _ _ => local_recordInstalled ⟨rfl, huv, hus⟩

/-! ## Admission -/

omit [DecidableEq D] in
theorem local_consumeRetry (h : Twin v φ t t') (refusal : String) :
    Local v φ (fun _ _ => True) (consumeRetry t refusal) (consumeRetry t' refusal) := by
  obtain ⟨rfl, hv, hs⟩ := h
  refine (Mirrors.raiseIf Iff.rfl).bind fun _ _ _ => local_save ?_
  exact Twin.change ⟨rfl, hv, hs⟩ ⟨rfl, rfl, rfl, rfl⟩ hs.paths rfl

omit [DecidableEq D] in
/-- The latest blocked record among the selected ones is used up or refused. -/
theorem local_consumeLatest (hφ : StrictMono φ) {ts ts' : List (Transaction D)}
    (h : Selected v φ ts ts') (refusal : String) :
    Local v φ Eq
      (match latestOf (ts.filter fun t => t.phase = .manualInterventionRequired) with
        | none => pure false
        | some latest => do
          consumeRetry latest refusal
          pure true : RepairProg D Bool)
      (match latestOf (ts'.filter fun t => t.phase = .manualInterventionRequired) with
        | none => pure false
        | some latest => do
          consumeRetry latest refusal
          pure true : RepairProg D Bool) := by
  have hblocked := h.filter (fun t => decide (t.phase = .manualInterventionRequired)) fun _ => rfl
  rcases hblocked.latest hφ with ⟨hnone, hnone'⟩ | ⟨u, hu, hu', hmem⟩
  · rw [hnone, hnone']
    exact Mirrors.ret rfl
  · rw [hu, hu']
    exact (local_consumeRetry (hblocked.twin hmem) refusal).bind fun _ _ _ => Mirrors.ret rfl

omit [DecidableEq D] in
/-- The unfingerprinted records of an identity belong to its volume. -/
theorem Loads.unfingerprinted {ts ts' : List (Transaction D)} (h : Loads v φ ts ts')
    {identity : SourceIdentity} (hv : identity.volumeId = v) :
    Selected v φ (unfingerprinted identity ts) (unfingerprinted identity ts') := by
  refine h.select _ (fun _ => rfl) fun t ht hkeep => ?_
  have hidentity : t.identity = identity := by
    have := of_decide_eq_true hkeep
    exact this.1
  rw [(h.sound t ht).origin.base, hidentity]
  exact hv

omit [DecidableEq D] in
theorem local_authorizeUnfingerprintedRetry (hφ : StrictMono φ) {identity : SourceIdentity}
    (hv : identity.volumeId = v) :
    Local v φ Eq (authorizeUnfingerprintedRetry identity : RepairProg D Bool)
      (authorizeUnfingerprintedRetry identity) :=
  local_transactions.bind fun _ _ h => local_consumeLatest hφ (h.unfingerprinted hv) _

omit [DecidableEq D] in
/-- A new record of the volume. -/
theorem local_create {base : Base} (hv : base.volumeId = v) (authorized : Bool)
    {payload : TxId → Nat → Transaction D}
    (hpayload : ∀ id at_, id.base = base →
      Twin v φ (payload id at_) (payload id (φ at_))) :
    Local v φ (fun t t' => Twin v φ t t') (create authorized base payload)
      (create authorized base payload) := by
  refine local_now.bind ?_
  rintro at_ _ rfl
  refine Mirrors.bind (Mirrors.ask (.uuid base hv)) ?_
  rintro id _ ⟨rfl, hid⟩
  exact (local_save (hpayload id at_ hid)).bind fun _ _ _ => Mirrors.ret (hpayload id at_ hid)

omit [DecidableEq D] in
/-- A new record is well formed when its origin is. -/
theorem twin_new {t : Transaction D} (hv : t.id.base.volumeId = v) (horigin : OriginOk t)
    (hcandidate : t.candidatePath = none) (htemporary : t.installTempPath = none)
    (hstaging : t.stagingDir = none) {t' : Transaction D} (hshift : t' = t.shift φ) : Twin v φ t t' := by
  refine ⟨hshift, hv, horigin, fun p hp => ?_, fun p hp => ?_, fun d hd => ?_⟩
  · exact absurd (hcandidate.symm.trans hp) (by simp)
  · exact absurd (htemporary.symm.trans hp) (by simp)
  · exact absurd (hstaging.symm.trans hd) (by simp)

omit [DecidableEq D] in
theorem local_recordUnfingerprintedFailure {base : Base} (hv : base.volumeId = v) (cfg : Config)
    (activeTransport : String) (reason : String) (retryAuthorized : Bool) :
    Local v φ (fun _ _ => True)
      (recordUnfingerprintedFailure base (sourceIdentity cfg activeTransport base) reason
        retryAuthorized : RepairProg D Unit)
      (recordUnfingerprintedFailure base (sourceIdentity cfg activeTransport base) reason
        retryAuthorized) := by
  refine local_transactions.bind fun ts ts' hts => ?_
  have hrelated : Selected v φ (unfingerprinted (sourceIdentity cfg activeTransport base) ts)
      (unfingerprinted (sourceIdentity cfg activeTransport base) ts') := hts.unfingerprinted hv
  have hattempts : maxAttempts (unfingerprinted (sourceIdentity cfg activeTransport base) ts') =
      maxAttempts (unfingerprinted (sourceIdentity cfg activeTransport base) ts) := by
    rw [hrelated.map, maxAttempts_map]
  dsimp only
  rw [hattempts]
  refine (Mirrors.raiseIf Iff.rfl).bind fun _ _ _ => ?_
  refine (local_create hv _ fun id at_ hid => ?_).bind fun t t' ht =>
    local_recordPreinstallFailure ht reason
  refine twin_new ?_ ⟨hid, fun _ _ h => absurd h (by simp), fun _ => rfl⟩ rfl rfl rfl rfl
  change id.base.volumeId = v
  rw [hid]
  exact hv

omit [DecidableEq D] in
theorem own_runPreflight : (runPreflight : RepairProg D _).Issues (RepairReq.Own v) := by
  refine Prog.Issues.bind ((Prog.issues_ask _).2 ⟨rfl, ?_⟩) fun process =>
    helperPayload_issues process
  simp [RepairReq.paths]

omit [DecidableEq D] in
theorem local_preflightFingerprint {base : Base} (hv : base.volumeId = v) (cfg : Config)
    (activeTransport : String) (retryAuthorized : Bool) :
    Local v φ (fun F F' => F = F' ∧ ∃ raw, F = .known (sourceIdentity cfg activeTransport base) raw)
      (preflightFingerprint base (sourceIdentity cfg activeTransport base) retryAuthorized :
        RepairProg D (SourceFingerprint D))
      (preflightFingerprint base (sourceIdentity cfg activeTransport base) retryAuthorized) := by
  have hpreflight : (do
      let payload ← runPreflight
      Prog.orRaise .lookup payload.sourceFingerprintBefore : RepairProg D (RawFingerprint D)).Issues
      (RepairReq.Own v) :=
    own_runPreflight.bind fun _ => Prog.issues_orRaise _ _
  refine (Local.same hpreflight.attempt).bind ?_
  rintro outcome _ rfl
  -- a recorded failure writes only names of this volume before it is raised
  have hfail : ∀ e : RepairExc D, Local v φ (fun F F' => F = F' ∧ ∃ raw,
      F = .known (sourceIdentity cfg activeTransport base) raw)
      ((recordUnfingerprintedFailure base (sourceIdentity cfg activeTransport base)
        ("source preflight failed: " ++ e.text) retryAuthorized).bind fun _ =>
          Prog.raise (.repair ("source preflight failed: " ++ e.text)) :
            RepairProg D (SourceFingerprint D)) _ :=
    fun e => (local_recordUnfingerprintedFailure hv cfg activeTransport _ retryAuthorized).bind
      fun _ _ _ => Mirrors.raise
  cases outcome with
  | ok raw => exact Mirrors.ret ⟨rfl, raw, rfl⟩
  | error e =>
      cases e with
      | os => exact Mirrors.raise
      | recursion => exact Mirrors.raise
      | lookup => exact hfail _
      | repair message => exact hfail _
      | journal message => exact hfail _
      | manual message => exact hfail _
      | unsafeCandidate message payload => exact hfail _

omit [DecidableEq D] in
theorem Selected.exists_phase {ts ts' : List (Transaction D)} (h : Selected v φ ts ts')
    (phase : Phase) : (∃ t ∈ ts, t.phase = phase) ↔ ∃ t ∈ ts', t.phase = phase := by
  rw [h.map]
  constructor
  · rintro ⟨t, ht, hphase⟩
    exact ⟨t.shift φ, List.mem_map_of_mem ht, hphase⟩
  · rintro ⟨t', ht', hphase⟩
    obtain ⟨t, ht, rfl⟩ := List.mem_map.1 ht'
    exact ⟨t, ht, hphase⟩

omit [DecidableEq D] in
theorem Selected.attempts {ts ts' : List (Transaction D)} (h : Selected v φ ts ts') :
    attemptsOf ts' = attemptsOf ts := by
  have hopen := h.filter (fun t => decide (t.phase ≠ .resolvedWithoutInstall)) fun _ => rfl
  rw [attemptsOf, attemptsOf, hopen.map, maxAttempts_map]

omit [DecidableEq D] in
theorem local_refuseExhausted (hφ : StrictMono φ) {same same' : List (Transaction D)}
    (h : Selected v φ same same') :
    Local v φ (fun _ _ => True) (refuseExhausted same) (refuseExhausted same') := by
  have hfailed := h.filter (fun t => decide (t.phase = .failedPreinstall)) fun _ => rfl
  refine Mirrors.bind (R := fun _ _ => True) (Mirrors.forEach (R := Twin v φ)
    (fun u u' hu => local_manual hu _) ?_) fun _ _ _ => Mirrors.raise
  rcases hfailed.latest hφ with ⟨hnone, hnone'⟩ | ⟨u, hu, hu', hmem⟩
  · rw [hnone, hnone']
    exact .nil
  · rw [hu, hu']
    exact .cons (hfailed.twin hmem) .nil

theorem local_admitSource (hφ : StrictMono φ) {identity : SourceIdentity}
    (hv : identity.volumeId = v) (raw : RawFingerprint D) :
    Local v φ (fun x x' => Selected v φ x.1 x'.1 ∧ x.2 = x'.2)
      (admitSource (.known identity raw)) (admitSource (.known identity raw)) := by
  refine local_transactions.bind fun ts ts' hts => ?_
  have hsame : Selected v φ (sameSource (.known identity raw) ts)
      (sameSource (.known identity raw) ts') := by
    refine hts.select _ (fun _ => rfl) fun t ht hkeep => ?_
    have hsource : t.sourceFingerprint = .known identity raw := of_decide_eq_true hkeep
    have horigin := (hts.sound t ht).origin
    rw [horigin.base, ← horigin.known identity raw hsource]
    exact hv
  generalize sameSource (.known identity raw) ts = same at hsame
  generalize sameSource (.known identity raw) ts' = same' at hsame
  refine (Mirrors.raiseIf (hsame.exists_phase _)).bind fun _ _ _ => ?_
  refine (local_consumeLatest hφ hsame _).bind ?_
  rintro authorized _ rfl
  refine (Mirrors.when ?_ fun _ => local_refuseExhausted hφ hsame).bind fun _ _ _ =>
    Mirrors.ret ⟨hsame, rfl⟩
  rw [hsame.attempts]

theorem local_closeStale (F : SourceFingerprint D) :
    Local v φ (fun _ _ => True) (closeStale v F) (closeStale v F) := by
  refine local_transactions.bind fun ts ts' hts => ?_
  -- the loop passes over the records of other volumes
  rw [← Prog.forEach_filter (fun t => decide (t.id.base.volumeId = v)) _ ts', hts.own]
  · refine Mirrors.forEach (R := Twin v φ) (fun u u' hu => ?_) ?_
    · obtain ⟨rfl, huv, hus⟩ := hu
      exact Mirrors.when Iff.rfl fun _ => local_manual ⟨rfl, huv, hus⟩ _
    · rw [List.forall₂_map_right_iff, List.forall₂_same]
      exact fun t ht => ⟨rfl, (hts.mem ht).2.1, (hts.mem ht).2.2⟩
  · intro t ht
    exact if_neg fun h => of_decide_eq_false ht h.1

/-! ## Live files -/

omit [DecidableEq D] in
theorem local_recordStructuralFailure {base : Base} (hv : base.volumeId = v) (cfg : Config)
    (activeTransport : String) (raw : RawFingerprint D) (attemptCount : Nat) (authorized : Bool)
    (reason : String) :
    Local v φ (fun _ _ => True)
      (recordStructuralFailure base (sourceIdentity cfg activeTransport base)
        (.known (sourceIdentity cfg activeTransport base) raw) attemptCount authorized reason)
      (recordStructuralFailure base (sourceIdentity cfg activeTransport base)
        (.known (sourceIdentity cfg activeTransport base) raw) attemptCount authorized reason) := by
  refine (local_create hv _ fun id at_ hid => ?_).bind fun t t' ht => local_manual ht reason
  refine twin_new ?_ ⟨hid, ?_, fun h => absurd h (by simp)⟩ rfl rfl rfl rfl
  · change id.base.volumeId = v
    rw [hid]
    exact hv
  · rintro identity raw' ⟨rfl, rfl⟩
    rfl

omit [DecidableEq D] in
theorem local_liveArtifacts {base : Base} (hv : base.volumeId = v) (cfg : Config)
    (activeTransport : String) (raw : RawFingerprint D) (attemptCount : Nat) (authorized : Bool) :
    Local v φ Eq
      (liveArtifacts base (sourceIdentity cfg activeTransport base)
        (.known (sourceIdentity cfg activeTransport base) raw) attemptCount authorized)
      (liveArtifacts base (sourceIdentity cfg activeTransport base)
        (.known (sourceIdentity cfg activeTransport base) raw) attemptCount authorized) := by
  have hidx : (Path.liveIdx base).base.volumeId = v := hv
  have hsdx : (Path.liveSdx base).base.volumeId = v := hv
  refine (Local.same (own_node hidx)).bind ?_
  rintro idx _ rfl
  refine (local_refuse Iff.rfl (local_recordStructuralFailure hv cfg activeTransport raw
    attemptCount authorized _)).bind fun _ _ _ => ?_
  refine (Local.same (own_node hsdx)).bind ?_
  rintro sdx _ rfl
  refine (local_refuse Iff.rfl (local_recordStructuralFailure hv cfg activeTransport raw
    attemptCount authorized _)).bind fun _ _ _ => Local.same ?_
  refine (own_hashOrRaise hidx).bind fun oldIdx => (own_node hsdx).bind fun found => ?_
  exact (own_sortedArtifact hv _).bind fun _ => trivial

/-! ## Building -/

/-- The transaction at hand, in the two executions, or none. -/
def NextPair (v : Int) (φ : Nat → Nat) : Option (Transaction D) → Option (Transaction D) → Prop
  | none, none => True
  | some t, some t' => Twin v φ t t'
  | _, _ => False

theorem local_resume (h : Twin v φ t t') (oldIdx : Artifact D) (oldSdx : Option (Artifact D)) :
    Local v φ (NextPair v φ) (resume t oldIdx oldSdx) (resume t' oldIdx oldSdx) := by
  obtain ⟨rfl, hv, hs⟩ := h
  have h : Twin v φ t (t.shift φ) := ⟨rfl, hv, hs⟩
  refine (local_refuse Iff.rfl (local_manual h _)).bind fun _ _ _ => ?_
  refine Mirrors.ite Iff.rfl (fun _ => ?_) fun _ => Mirrors.ite Iff.rfl (fun _ => ?_) fun _ => ?_
  · exact (local_installCandidate h).bind fun _ _ _ => Mirrors.ret trivial
  · refine (local_createBackups h).bind fun u u' hu => ?_
    exact (local_installCandidate hu.1).bind fun _ _ _ => Mirrors.ret trivial
  · exact Mirrors.bind (R := Eq) (Local.same (own_unlink (p := .candidate t.id) hv)) fun _ _ _ =>
      Mirrors.ret h

theorem local_resumeOrCreate (hφ : StrictMono φ) {base : Base} (hv : base.volumeId = v)
    (cfg : Config) (activeTransport : String) (raw : RawFingerprint D)
    {same same' : List (Transaction D)} (hsame : Selected v φ same same') (oldIdx : Artifact D)
    (oldSdx : Option (Artifact D)) (authorized : Bool) :
    Local v φ (NextPair v φ)
      (resumeOrCreate base (sourceIdentity cfg activeTransport base)
        (.known (sourceIdentity cfg activeTransport base) raw) same oldIdx oldSdx authorized)
      (resumeOrCreate base (sourceIdentity cfg activeTransport base)
        (.known (sourceIdentity cfg activeTransport base) raw) same' oldIdx oldSdx authorized) := by
  have hopen := hsame.filter (fun t => decide (t.phase.preinstall = true ∧
    t.phase ≠ .failedPreinstall)) fun _ => rfl
  unfold resumeOrCreate resumable
  rcases hopen.latest hφ with ⟨hnone, hnone'⟩ | ⟨u, hu, hu', hmem⟩
  · rw [hnone, hnone', hsame.attempts]
    refine (local_create hv _ fun id at_ hid => ?_).bind fun t t' ht => Mirrors.ret ht
    refine twin_new ?_ ⟨hid, ?_, fun h => absurd h (by simp)⟩ rfl rfl rfl rfl
    · change id.base.volumeId = v
      rw [hid]
      exact hv
    · rintro identity raw' ⟨rfl, rfl⟩
      rfl
  · rw [hu, hu']
    exact local_resume (hopen.twin hmem) oldIdx oldSdx

/-- The judged transaction and the exception, in the two executions. -/
def BuildPair (v : Int) (φ : Nat → Nat) (x x' : Transaction D × Option (RepairExc D)) : Prop :=
  Twin v φ x.1 x'.1 ∧ x.2 = x'.2

theorem local_acceptBuild (h : Twin v φ t t') (identity : SourceIdentity)
    (F : SourceFingerprint D) (built : HelperPayload D) :
    Local v φ (BuildPair v φ) (acceptBuild identity t F built) (acceptBuild identity t' F built) := by
  obtain ⟨rfl, hv, hs⟩ := h
  have h : Twin v φ t (t.shift φ) := ⟨rfl, hv, hs⟩
  unfold acceptBuild
  cases built.sourceFingerprintAfter with
  | none => exact Mirrors.ret ⟨h, rfl⟩
  | some raw =>
      refine Mirrors.ite Iff.rfl (fun _ => ?_) fun _ => Mirrors.ite Iff.rfl (fun _ => ?_) fun _ =>
        Mirrors.ite Iff.rfl (fun _ => ?_) fun _ => ?_
      · refine Mirrors.bind (R := Eq) (Local.same (own_discardCandidate hv built)) ?_
        rintro removed _ rfl
        exact Mirrors.ret ⟨h, rfl⟩
      · exact Mirrors.ret ⟨h.change ⟨rfl, rfl, rfl, rfl⟩ hs.paths rfl, rfl⟩
      · exact Mirrors.ret ⟨h.change ⟨rfl, rfl, rfl, rfl⟩ hs.paths rfl, rfl⟩
      · have hpath : ∀ p, some (Path.candidate t.id) = some p → p = .candidate t.id :=
          fun p hp => (Option.some.inj hp).symm
        cases built.candidateSize with
        | none => exact Mirrors.ret ⟨h.change ⟨rfl, rfl, rfl, rfl⟩ ⟨hpath, hs.paths.2⟩ rfl, rfl⟩
        | some size =>
            cases built.candidateSha256 with
            | none => exact Mirrors.ret ⟨h.change ⟨rfl, rfl, rfl, rfl⟩ ⟨hpath, hs.paths.2⟩ rfl, rfl⟩
            | some sha256 =>
                exact Mirrors.ret ⟨h.change ⟨rfl, rfl, rfl, rfl⟩ ⟨hpath, hs.paths.2⟩ rfl, rfl⟩

theorem local_proveBuild (h : Twin v φ t t') (identity : SourceIdentity)
    (F : SourceFingerprint D) :
    Local v φ (BuildPair v φ) (proveBuild identity t F) (proveBuild identity t' F) := by
  have hid : t'.id = t.id := by
    rw [h.shift]
    rfl
  have hbuild : (runBuild t.id F).Issues (RepairReq.Own v) := by
    refine Prog.Issues.bind ((Prog.issues_ask _).2 ⟨rfl, ?_⟩) fun process =>
      helperPayload_issues process
    simpa [RepairReq.paths, Path.base] using h.volume
  unfold proveBuild
  rw [hid]
  refine (Local.same hbuild.attempt).bind ?_
  rintro outcome _ rfl
  cases outcome with
  | ok built => exact local_acceptBuild h identity F built
  | error e => exact Mirrors.ret ⟨h, rfl⟩

theorem local_backUpAndInstall (h : Twin v φ t t') :
    Local v φ (fun _ _ => True) (backUpAndInstall t) (backUpAndInstall t') := by
  refine (local_transition h _).bind fun u u' hu => ?_
  exact (local_createBackups hu.1).bind fun x x' hx => local_installCandidate hx.1

theorem local_finishBuild (h : Twin v φ t t') (oldIdx : Artifact D) (allowIdentical : Bool) :
    Local v φ (fun _ _ => True) (finishBuild t oldIdx allowIdentical)
      (finishBuild t' oldIdx allowIdentical) := by
  obtain ⟨rfl, hv, hs⟩ := h
  have h : Twin v φ t (t.shift φ) := ⟨rfl, hv, hs⟩
  refine Mirrors.bind (R := Eq) (Local.same (own_sameArtifact (p := .candidate t.id) hv _)) ?_
  rintro same _ rfl
  refine (local_refuse Iff.rfl (local_recordPreinstallFailure h _)).bind fun _ _ _ => ?_
  refine Mirrors.ite Iff.rfl (fun _ => Mirrors.ite Iff.rfl (fun _ => ?_) fun _ => ?_) fun _ =>
    local_backUpAndInstall h
  · exact local_backUpAndInstall (h.change ⟨rfl, rfl, rfl, rfl⟩ hs.paths rfl)
  · refine (local_manual ?_ _).bind fun _ _ _ => Mirrors.raise
    exact h.change ⟨rfl, rfl, rfl, rfl⟩ hs.paths rfl

omit [DecidableEq D] in
theorem local_recoverIncompleteTail (cfg : Config) (h : Twin v φ t t') (F : SourceFingerprint D)
    (payload : HelperPayload D) :
    Local v φ Eq (recoverIncompleteTail cfg t F payload) (recoverIncompleteTail cfg t' F payload) := by
  obtain ⟨rfl, hv, hs⟩ := h
  have h : Twin v φ t (t.shift φ) := ⟨rfl, hv, hs⟩
  unfold RepairProg.recoverIncompleteTail
  cases tailGate cfg payload with
  | none => exact Mirrors.ret rfl
  | some violation =>
      refine (Local.same own_fsync).bind fun _ _ _ => ?_
      refine Mirrors.bind (R := Eq) (Local.same ((Prog.issues_ask _).2 ⟨rfl, ?_⟩)) ?_
      · simpa [RepairReq.paths, Path.base] using hv
      · rintro process _ rfl
        have hreport : (tailPayload process).Issues (RepairReq.Own v) := by
          cases process <;> trivial
        refine (Local.same hreport).bind ?_
        rintro ⟨reportedOffset, reportedSize, tailHash, needleId, after⟩ _ rfl
        refine (Mirrors.raiseIf Iff.rfl).bind fun _ _ _ =>
          (Mirrors.raiseIf Iff.rfl).bind fun _ _ _ => ?_
        refine (local_transition ?_ _).bind fun _ _ _ => Mirrors.ret rfl
        exact h.change ⟨rfl, rfl, rfl, rfl⟩ hs.paths rfl

omit [DecidableEq D] in
theorem local_failBuild (cfg : Config) (h : Twin v φ t t') (F : SourceFingerprint D)
    {again : RepairProg D Unit} (hagain : Local v φ (fun _ _ => True) again again)
    (e : RepairExc D) :
    Local v φ (fun _ _ => True) (failBuild cfg t F again e) (failBuild cfg t' F again e) := by
  have hfail : ∀ e : RepairExc D, Local v φ (fun _ _ => True)
      ((recordPreinstallFailure t e.text).bind fun _ => Prog.raise (.repair e.text) :
        RepairProg D Unit) ((recordPreinstallFailure t' e.text).bind fun _ =>
          Prog.raise (.repair e.text) : RepairProg D Unit) :=
    fun e => (local_recordPreinstallFailure h _).bind fun _ _ _ => Mirrors.raise
  cases e with
  | unsafeCandidate message payload =>
      refine (local_recoverIncompleteTail cfg h F payload).bind ?_
      rintro recovered _ rfl
      exact Mirrors.ite Iff.rfl (fun _ => hagain) fun _ =>
        (local_manual h _).bind fun _ _ _ => Mirrors.raise
  | manual message => exact (local_manual h _).bind fun _ _ _ => Mirrors.raise
  | recursion => exact Mirrors.raise
  | os => exact hfail _
  | lookup => exact hfail _
  | repair message => exact hfail _
  | journal message => exact hfail _

theorem local_buildAndInstall (cfg : Config) (identity : SourceIdentity) (h : Twin v φ t t')
    (F : SourceFingerprint D) (oldIdx : Artifact D) (allowIdentical : Bool)
    {again : RepairProg D Unit} (hagain : Local v φ (fun _ _ => True) again again) :
    Local v φ (fun _ _ => True) (buildAndInstall cfg identity t F oldIdx allowIdentical again)
      (buildAndInstall cfg identity t' F oldIdx allowIdentical again) := by
  refine (local_transition h _).bind fun u u' hu => ?_
  have hstaged : Twin v φ { u with stagingDir := some u.staging }
      { u' with stagingDir := some u'.staging } :=
    hu.1.change (.staged u) hu.1.sound.paths.staged (by rw [hu.1.shift]; rfl)
  refine (local_transition hstaged _).bind fun x x' hx => ?_
  refine (local_transition hx.1 _).bind fun y y' hy => ?_
  refine (local_proveBuild hy.1 identity F).bind ?_
  rintro ⟨z, failure⟩ ⟨z', _⟩ ⟨hz, rfl⟩
  cases failure with
  | none => exact local_finishBuild hz oldIdx allowIdentical
  | some e => exact local_failBuild cfg hz F hagain e

omit [DecidableEq D] in
theorem safeBaseName_volume {collection : String} {volumeId : Int} {base : Base}
    (h : safeBaseName collection volumeId = some base) : base.volumeId = volumeId := by
  rw [safeBaseName_eq h]

/-- `_repair_one` behaves the same with the records of its own volume and with those of all volumes,
and its requests are about its own volume. -/
theorem repairOne_local (hφ : StrictMono φ) (cfg : Config) (args : RepairArgs)
    (hargs : args.volumeId = v) (fuel : Nat) : ∀ allowIdentical : Bool,
    Local v φ (fun _ _ => True) (repairOne cfg args fuel allowIdentical : RepairProg D Unit)
      (repairOne cfg args fuel allowIdentical) := by
  subst hargs
  -- part by part: both sides issue the same requests about the volume and read the same answers
  induction fuel with
  | zero => exact fun _ => Mirrors.raise
  | succ fuel ih =>
      intro allowIdentical
      rw [repairOne]
      refine Mirrors.bind (R := fun b b' => b = b' ∧ b.volumeId = args.volumeId)
        (Mirrors.orRaise Iff.rfl fun b b' hb hb' => ?_) ?_
      · exact ⟨Option.some.inj (hb.symm.trans hb'), safeBaseName_volume hb⟩
      rintro base _ ⟨rfl, hv⟩
      refine (local_authorizeUnfingerprintedRetry hφ hv).bind ?_
      rintro retry _ rfl
      refine (local_preflightFingerprint hv cfg args.activeTransport retry).bind ?_
      rintro _ _ ⟨rfl, raw, rfl⟩
      refine (local_admitSource hφ hv raw).bind ?_
      rintro ⟨same, authorized⟩ ⟨same', _⟩ ⟨hsame, rfl⟩
      refine (local_closeStale _).bind fun _ _ _ => ?_
      dsimp only
      rw [hsame.attempts]
      refine (local_liveArtifacts hv cfg args.activeTransport raw _ authorized).bind ?_
      rintro ⟨oldIdx, oldSdx⟩ _ rfl
      refine (local_resumeOrCreate hφ hv cfg args.activeTransport raw hsame oldIdx oldSdx
        authorized).bind ?_
      intro next next' hnext
      cases next with
      | none =>
          cases next' with
          | none => exact Mirrors.ret trivial
          | some t' => exact hnext.elim
      | some t =>
          cases next' with
          | none => exact hnext.elim
          | some t' => exact local_buildAndInstall cfg _ hnext _ oldIdx allowIdentical (ih true)

end

end StorageNode.IndexRepair
