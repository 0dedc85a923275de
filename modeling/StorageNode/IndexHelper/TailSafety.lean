import StorageNode.IndexHelper.BuildFrame

/-!
# Removing an incomplete tail

`recoverIncompleteTail` is the only code that shortens a data file. `recoverIncompleteTail_safe`
says under which facts it issues the truncation (`Cut`) and that the original data file equals the
current one followed by nothing or by the tail backup at every step (`Kept`). A backup that an earlier
attempt has left is taken as it is: the bytes that were cut off are durable exactly if it was. From it
follow what a successful recovery removed and which records it can reach.
-/

set_option autoImplicit false

namespace StorageNode.IndexHelper

open StorageNode.Program HelperProg

variable {D : Type}

/-- No byte of the original data file is lost, whatever happens to the machine: what is missing from the
data file is exactly the durable tail backup. -/
def Preserved (original : Bytes) (h : HelperState D) : Prop :=
  original = h.source ∨ ∃ tail, h.tailBackup = some (.file tail) ∧ h.durableBackup = some tail ∧
    original = h.source ++ tail

/-- A backup file left by an earlier attempt is durable. -/
def BackupDurable (h : HelperState D) : Prop :=
  ∀ existing, h.tailBackup = some (.file existing) → h.durableBackup = some existing

/-- A backup file left by an earlier attempt does not collide with a suffix of the data file. -/
def NoTailCollision (sha256 : Bytes → D) (h : HelperState D) : Prop :=
  ∀ existing, h.tailBackup = some (.file existing) → ∀ tail, tail <:+ h.source →
    existing.length = tail.length → sha256 existing = sha256 tail → existing = tail

/-- When no such collision exists, what is missing from the data file is exactly the tail backup. It is
durable if and only if the backup that was there before, if any, was. -/
def Kept (sha256 : Bytes → D) (h₀ h : HelperState D) : Prop :=
  NoTailCollision sha256 h₀ → h.source = h₀.source ∨ ∃ tail, h.tailBackup = some (.file tail) ∧
    (h.durableBackup = some tail ↔ BackupDurable h₀) ∧ h₀.source = h.source ++ tail

/-- The candidate inspection that permits a truncation at `offset`. -/
structure TailProven (candidate source : Bytes) (limit : Int) (offset : Nat) (b : Bounds)
    (v : Violation) : Prop where
  inspected : inspectIndexBounds candidate source = .ok b
  sole : soleViolation b = some v
  bounded : boundedTail b v limit = true
  offset_eq : v.offset = offset

/-- The facts under which the helper truncates the data file of `h₀` at `offset`. -/
structure Cut (sha256 : Bytes → D) (h₀ : HelperState D) (limit : Int) (offset : Nat)
    (candidate live : Bytes) (h : HelperState D) : Prop where
  source : h.source = h₀.source
  rebuilt : h.rebuilt = some candidate
  liveIndex : h.liveIndex = some live
  liveIndex₀ : h₀.liveIndex = some live
  candidateProof : ∃ b v, TailProven candidate h₀.source limit offset b v
  liveProof : ∃ b, inspectIndexBounds live h₀.source = .ok b ∧ b.valid = true ∧
    b.maximumNeedleEnd ≤ offset
  backup : ∃ kept, h.tailBackup = some (.file kept) ∧
    (h.durableBackup = some kept ↔ BackupDurable h₀) ∧
    (NoTailCollision sha256 h₀ → kept = h₀.source.drop offset)

/-! ## What the proven boundary says about the indexes -/

theorem boundedTail_iff (b : Bounds) (v : Violation) (limit : Int) :
    boundedTail b v limit = true ↔ 0 < v.offset ∧ v.offset < b.sourceSize ∧
      (b.sourceSize : Int) - v.offset ≤ limit ∧ b.maximumEntryOffset = v.offset ∧
      b.maximumValidNeedleEnd ≤ v.offset := by
  simp only [boundedTail, Bool.not_eq_true', Bool.or_eq_false_iff, decide_eq_false_iff_not]
  constructor
  · rintro ⟨⟨⟨⟨h1, h2⟩, h3⟩, h4⟩, h5⟩
    omega
  · rintro ⟨h1, h2, h3, h4, h5⟩
    omega

theorem soleViolation_eq {b : Bounds} {v : Violation} (h : soleViolation b = some v) :
    b.violations = [v] := by
  unfold soleViolation at h
  split at h
  · next w hw => rw [hw, Option.some.inj h]
  · exact absurd h (by simp)

/-- The violating entry of a candidate, with every other counted entry below its offset. -/
structure SplitAt (candidate source : Bytes) (version offset : Nat) (pre : List Entry) (e : Entry)
    (post : List Entry) : Prop where
  entries_eq : entries candidate = pre ++ e :: post
  overruns : e.overruns version source.length = true
  offset_eq : e.offset = offset
  others : ∀ x ∈ pre ++ post, x.counted = true → x.endOffset version ≤ offset

theorem TailProven.split {candidate source : Bytes} {limit : Int} {offset : Nat} {b : Bounds}
    {v : Violation} (h : TailProven candidate source limit offset b v) :
    source.head?.map UInt8.toNat = some b.version ∧
      ∃ pre e post, SplitAt candidate source b.version offset pre e post := by
  have hins := inspectIndexBounds_ok h.inspected
  obtain ⟨pre, post, e, hsplit, hover, hv, hothers⟩ := hins.others_contained (soleViolation_eq h.sole)
  obtain ⟨-, -, -, -, hvalid⟩ := (boundedTail_iff b v limit).1 h.bounded
  have hoffset : e.offset = offset := by
    rw [← h.offset_eq, hv]
    rfl
  refine ⟨hins.version, pre, e, post, hsplit, hover, hoffset, fun x hx hc => ?_⟩
  have hle := (hothers x hx hc).2
  have heq := h.offset_eq
  omega

theorem TailProven.range {candidate source : Bytes} {limit : Int} {offset : Nat} {b : Bounds}
    {v : Violation} (h : TailProven candidate source limit offset b v) :
    0 < offset ∧ offset < source.length ∧ ((source.length - offset : Nat) : Int) ≤ limit := by
  have hsize := (inspectIndexBounds_ok h.inspected).sourceSize
  obtain ⟨h1, h2, h3, -, -⟩ := (boundedTail_iff b v limit).1 h.bounded
  have heq := h.offset_eq
  omega

/-- Every counted entry of the candidate starts at or before the boundary. -/
theorem TailProven.offset_le {candidate source : Bytes} {limit : Int} {offset : Nat} {b : Bounds}
    {v : Violation} (h : TailProven candidate source limit offset b v) :
    ∀ x ∈ entries candidate, x.counted = true → x.offset ≤ offset := by
  intro x hx hc
  have hle := (inspectIndexBounds_ok h.inspected).offset_le x hx hc
  obtain ⟨-, -, -, hmax, -⟩ := (boundedTail_iff b v limit).1 h.bounded
  have heq := h.offset_eq
  omega

/-! ## The program -/

/-- What the helper may do in each state: the truncation needs the facts of a cut, every other
request only a state in which nothing is lost. -/
def Permitted (sha256 : Bytes → D) (h₀ : HelperState D) (limit : Int) :
    HelperReq D → HelperState D → Prop
  | .truncate offset, h => ∃ candidate live, Cut sha256 h₀ limit offset candidate live h
  | _, h => Kept sha256 h₀ h

/-- The state after a truncation. -/
def CutDone (sha256 : Bytes → D) (h₀ : HelperState D) (limit : Int) (offset : Nat)
    (h : HelperState D) : Prop :=
  ∃ candidate live before, Cut sha256 h₀ limit offset candidate live before ∧
    h.source = h₀.source.take offset ∧ h.tailBackup = before.tailBackup ∧
    h.durableBackup = before.durableBackup ∧ h.rebuilt = some candidate ∧ h.liveIndex = some live

section

variable {sha256 : Bytes → D} {h₀ h h' : HelperState D} {limit : Int} {offset : Nat}

theorem kept_of_source (hs : h.source = h₀.source) : Kept sha256 h₀ h :=
  fun _ => .inl hs

theorem Kept.preserved (hk : Kept sha256 h₀ h) (hash : NoTailCollision sha256 h₀)
    (hdurable : BackupDurable h₀) : Preserved h₀.source h := by
  rcases hk hash with hs | ⟨tail, htail, hiff, hsource⟩
  · exact .inl hs.symm
  · exact .inr ⟨tail, htail, hiff.2 hdurable, hsource⟩

/-- Once the data file has been cut, its bytes are safe only if the earlier backup was durable. -/
theorem Kept.durable (hk : Kept sha256 h₀ h) (hash : NoTailCollision sha256 h₀)
    (hcut : h.source ≠ h₀.source) (hpreserved : Preserved h₀.source h) : BackupDurable h₀ := by
  obtain ⟨tail, htail, hiff, -⟩ := (hk hash).resolve_left hcut
  obtain ⟨kept, hkept, hdurable, -⟩ := hpreserved.resolve_left fun hs => hcut hs.symm
  obtain rfl : tail = kept := by simpa using htail.symm.trans hkept
  exact hiff.1 hdurable

theorem CutDone.kept (hd : CutDone sha256 h₀ limit offset h) : Kept sha256 h₀ h := by
  obtain ⟨candidate, live, before, hcut, hsource, hbackup, hdurable, -, -⟩ := hd
  obtain ⟨kept, hkept, hiff, heq⟩ := hcut.backup
  intro hash
  refine .inr ⟨kept, hbackup.trans hkept, hdurable ▸ hiff, ?_⟩
  rw [hsource, heq hash, List.take_append_drop]

theorem CutDone.framed (hd : CutDone sha256 h₀ limit offset h) (hf : Framed h h') :
    CutDone sha256 h₀ limit offset h' := by
  obtain ⟨candidate, live, before, hcut, hsource, hbackup, hdurable, hrebuilt, hlive⟩ := hd
  exact ⟨candidate, live, before, hcut, hf.source.trans hsource, hf.tailBackup.trans hbackup,
    hf.durableBackup.trans hdurable, hf.rebuilt.trans hrebuilt, hf.liveIndex.trans hlive⟩

theorem permitted_of_quiet {r : HelperReq D} (hr : r.Quiet) (hp : Kept sha256 h₀ h) :
    Permitted sha256 h₀ limit r h := by
  cases r with
  | truncate offset => exact absurd hr id
  | _ => exact hp

end

/-- The files of the volume are untouched and the builder's index is fixed. -/
structure Untouched (h₀ : HelperState D) (rebuilt : Option Bytes) (h : HelperState D) : Prop where
  source : h.source = h₀.source
  tailBackup : h.tailBackup = h₀.tailBackup
  durableBackup : h.durableBackup = h₀.durableBackup
  liveIndex : h.liveIndex = h₀.liveIndex
  rebuilt_eq : h.rebuilt = rebuilt

theorem Untouched.kept {sha256 : Bytes → D} {h₀ h : HelperState D} {rebuilt : Option Bytes}
    (hu : Untouched h₀ rebuilt h) : Kept sha256 h₀ h :=
  kept_of_source hu.source

theorem Untouched.framed {h₀ h h' : HelperState D} {rebuilt : Option Bytes}
    (hu : Untouched h₀ rebuilt h) (hf : Framed h h') : Untouched h₀ rebuilt h' :=
  ⟨hf.source.trans hu.source, hf.tailBackup.trans hu.tailBackup,
    hf.durableBackup.trans hu.durableBackup, hf.liveIndex.trans hu.liveIndex,
    hf.rebuilt.trans hu.rebuilt_eq⟩

/-- The tail is stored and the data file is still whole. -/
structure Stored (sha256 : Bytes → D) (h₀ : HelperState D) (rebuilt : Option Bytes) (tail : Bytes)
    (h : HelperState D) : Prop where
  source : h.source = h₀.source
  liveIndex : h.liveIndex = h₀.liveIndex
  rebuilt_eq : h.rebuilt = rebuilt
  backup : ∃ kept, h.tailBackup = some (.file kept) ∧
    (h.durableBackup = some kept ↔ BackupDurable h₀) ∧ (NoTailCollision sha256 h₀ → kept = tail)

theorem Stored.framed {sha256 : Bytes → D} {h₀ h h' : HelperState D} {rebuilt : Option Bytes}
    {tail : Bytes} (hs : Stored sha256 h₀ rebuilt tail h) (hf : Framed h h') :
    Stored sha256 h₀ rebuilt tail h' := by
  obtain ⟨kept, hkept, hiff, heq⟩ := hs.backup
  exact ⟨hf.source.trans hs.source, hf.liveIndex.trans hs.liveIndex, hf.rebuilt.trans hs.rebuilt_eq,
    kept, hf.tailBackup.trans hkept, hf.durableBackup ▸ hiff, heq⟩

/-- The tail is written to a new file. -/
structure Written (h₀ : HelperState D) (rebuilt : Option Bytes) (tail : Bytes) (h : HelperState D) :
    Prop where
  source : h.source = h₀.source
  liveIndex : h.liveIndex = h₀.liveIndex
  rebuilt_eq : h.rebuilt = rebuilt
  backup : h.tailBackup = some (.file tail)

section

variable {sha256 : Bytes → D} {h₀ : HelperState D} {limit : Int} {rebuilt : Option Bytes}

/-- A program of quiet requests keeps an invariant that implies `Preserved`. -/
theorem quiet_permitted {α : Type} {I : HelperState D → Prop}
    (hI : ∀ h h', I h → Framed h h' → I h') (hpres : ∀ h, I h → Kept sha256 h₀ h)
    {p : HelperProg D α} (hp : p.Issues HelperReq.Quiet) {h : HelperState D} (hh : I h) :
    Safe (helperExec sha256) Eq (Permitted sha256 h₀ limit) (fun _ => I) (fun _ => Kept sha256 h₀)
      p h :=
  (quiet_safe hI (fun _ h hr hi => permitted_of_quiet hr (hpres h hi)) hp hh).mono_post
    (fun _ _ h => h) fun _ h hi => hpres h hi

/-- The truncation itself. -/
theorem truncate_safe {offset : Nat} {candidate live : Bytes} {h : HelperState D}
    (hcut : Cut sha256 h₀ limit offset candidate live h) :
    Safe (helperExec sha256) Eq (Permitted sha256 h₀ limit) (fun _ => CutDone sha256 h₀ limit offset)
      (fun _ => Kept sha256 h₀) (must (truncate offset)) h := by
  unfold must
  simp only [Prog.bind_eq]
  refine Safe.bind (M := fun ok h => Kept sha256 h₀ h ∧ (ok = true → CutDone sha256 h₀ limit offset h))
    ?_ fun ok h hs => ?_
  · rintro s rfl
    refine ⟨⟨candidate, live, hcut⟩, fun c => ?_⟩
    cases hfault : c.fault with
    | true =>
        have hexec : helperExec sha256 (.truncate offset) c h = (false, h) := by
          simp only [helperExec, hfault]
          rfl
        rw [hexec]
        exact ⟨kept_of_source hcut.source, fun hok => absurd hok (by simp)⟩
    | false =>
        have hexec : helperExec sha256 (.truncate offset) c h =
            (true, { h with source := h.source.take offset, mtimeNs := c.mtimeNs }) := by
          simp only [helperExec, hfault]
          rfl
        rw [hexec]
        have hdone : CutDone sha256 h₀ limit offset
            { h with source := h.source.take offset, mtimeNs := c.mtimeNs } :=
          ⟨candidate, live, h, hcut, by rw [← hcut.source], rfl, rfl, hcut.rebuilt, hcut.liveIndex⟩
        exact ⟨hdone.kept, fun _ => hdone⟩
  · rw [Safe.raiseIf_iff]
    exact ⟨fun _ => hs.1, fun hok => hs.2 (by simpa using hok)⟩

/-- An exclusive create. On failure the data file is whole, whatever was written. -/
theorem writeTail_safe {tail : Bytes} {h : HelperState D} (hu : Untouched h₀ rebuilt h)
    (hnone : h₀.tailBackup = none) :
    Safe (helperExec sha256) Eq (Permitted sha256 h₀ limit) (fun _ => Written h₀ rebuilt tail)
      (fun _ => Kept sha256 h₀) (must (writeTailBackup tail)) h := by
  unfold must
  simp only [Prog.bind_eq]
  refine Safe.bind (M := fun ok h => h.source = h₀.source ∧ (ok = true → Written h₀ rebuilt tail h))
    ?_ fun ok h hs => ?_
  · rintro s rfl
    refine ⟨hu.kept, fun c => ?_⟩
    have hfree := hu.tailBackup.trans hnone
    cases htorn : c.torn with
    | none =>
        have hexec : helperExec sha256 (.writeTailBackup tail) c h =
            (true, { h with tailBackup := some (.file tail) }) := by
          simp only [helperExec, hfree, htorn]
          rfl
        rw [hexec]
        exact ⟨hu.source, fun _ => ⟨hu.source, hu.liveIndex, hu.rebuilt_eq, rfl⟩⟩
    | some n =>
        -- a part of the tail may stay behind, which no later step of this attempt relies on
        have hexec : helperExec sha256 (.writeTailBackup tail) c h =
            (false, { h with tailBackup := some (.file (tail.take n)) }) := by
          simp only [helperExec, hfree, htorn]
          rfl
        rw [hexec]
        exact ⟨hu.source, fun hok => absurd hok (by simp)⟩
  · rw [Safe.raiseIf_iff]
    exact ⟨fun _ => kept_of_source hs.1, fun hok => hs.2 (by simpa using hok)⟩

/-- The `fsync` of a new backup makes it durable. -/
theorem syncBackup_safe {tail : Bytes} {h : HelperState D} (hnone : h₀.tailBackup = none)
    (hw : Written h₀ rebuilt tail h) :
    Safe (helperExec sha256) Eq (Permitted sha256 h₀ limit) (fun _ => Stored sha256 h₀ rebuilt tail)
      (fun _ => Kept sha256 h₀) (must (tryFs .syncBackup)) h := by
  unfold must
  simp only [Prog.bind_eq]
  refine Safe.bind (M := fun ok h => h.source = h₀.source ∧
    (ok = true → Stored sha256 h₀ rebuilt tail h)) ?_ fun ok h hs => ?_
  · rintro s rfl
    refine ⟨kept_of_source hw.source, fun c => ?_⟩
    cases hfault : c.fault with
    | true =>
        have hexec : helperExec sha256 (.fs .syncBackup) c h = (false, h) := by
          simp only [helperExec, hfault]
          rfl
        rw [hexec]
        exact ⟨hw.source, fun hok => absurd hok (by simp)⟩
    | false =>
        have hexec : helperExec sha256 (.fs .syncBackup) c h =
            (true, { h with durableBackup := some tail }) := by
          simp only [helperExec, hfault, hw.backup]
          rfl
        rw [hexec]
        -- there was no backup to reuse, so the condition on one holds
        have hdurable : BackupDurable h₀ := fun existing h => absurd (hnone.symm.trans h) (by simp)
        exact ⟨hw.source, fun _ => ⟨hw.source, hw.liveIndex, hw.rebuilt_eq, tail, hw.backup,
          ⟨fun _ => hdurable, fun _ => rfl⟩, fun _ => rfl⟩⟩
  · rw [Safe.raiseIf_iff]
    exact ⟨fun _ => kept_of_source hs.1, fun hok => hs.2 (by simpa using hok)⟩

variable [DecidableEq D]

theorem storeTail_safe {tail : Bytes}
    (htail : tail <:+ h₀.source) {h : HelperState D} (hu : Untouched h₀ rebuilt h) :
    Safe (helperExec sha256) Eq (Permitted sha256 h₀ limit) (fun _ => Stored sha256 h₀ rebuilt tail)
      (fun _ => Kept sha256 h₀) (storeTail sha256 tail) h := by
  unfold storeTail orOs
  simp only [Prog.bind_eq]
  refine Safe.bind (M := fun answer h => Untouched h₀ rebuilt h ∧
    ∀ found, answer = some found → h₀.tailBackup = found) ?_ fun answer h hu => ?_
  · rintro s rfl
    refine ⟨hu.kept, fun c => ⟨hu, fun found hfound => ?_⟩⟩
    rw [← hu.tailBackup]
    exact Option.some.inj (some_of_read hfound)
  rw [Safe.bind_iff, Safe.orRaise_iff]
  refine ⟨fun _ => hu.1.kept, fun found hfound => ?_⟩
  have hbackup := hu.2 found hfound
  replace hu := hu.1
  cases found with
  | none =>
      refine (writeTail_safe hu hbackup).bind fun _ h hw => syncBackup_safe hbackup hw
  -- an earlier recovery has left a backup: it must be this tail, by length and by hash
  | some node =>
      cases node with
      | symlink => exact hu.kept
      | special => exact hu.kept
      | file existing =>
          rw [Safe.raiseIf_iff]
          refine ⟨fun _ => hu.kept, fun hsame => ?_⟩
          have hlen : existing.length = tail.length := by
            by_contra hne
            exact hsame (.inl hne)
          have hhash : sha256 existing = sha256 tail := by
            by_contra hne
            exact hsame (.inr hne)
          -- it is not synchronised again
          have hdurable : h.durableBackup = some existing ↔ BackupDurable h₀ := by
            rw [hu.durableBackup, BackupDurable, hbackup]
            simp
          exact ⟨hu.source, hu.liveIndex, hu.rebuilt_eq, existing, hu.tailBackup.trans hbackup, hdurable,
            fun hash => hash existing hbackup tail htail hlen hhash⟩

theorem verifyTail_quiet (tail : Bytes) :
    (verifyTail sha256 tail).Issues HelperReq.Quiet := by
  unfold verifyTail orOs
  simp only [Prog.bind_eq]
  refine Prog.Issues.bind ((Prog.issues_ask _).2 trivial) fun answer => ?_
  refine Prog.Issues.bind (Prog.issues_orRaise _ _) fun found => ?_
  split
  · exact Prog.issues_raiseIf _ _
  · trivial

theorem requireFingerprint_quiet (expected : RawFingerprint D) (message : String) :
    (requireFingerprint expected message).Issues HelperReq.Quiet := by
  unfold requireFingerprint
  simp only [Prog.bind_eq]
  refine Prog.Issues.bind ((Prog.issues_ask _).2 trivial) fun answer => ?_
  exact (orRaise_quiet answer).bind fun current => Prog.issues_raiseIf _ _

/-- The postcondition of a recovery: nothing is lost, and success means that the data file was cut
at the reported offset, with the size and digest of the removed tail reported. -/
def Recovered (sha256 : Bytes → D) (h₀ : HelperState D) (limit : Int) (result : TailResult D)
    (h : HelperState D) : Prop :=
  Kept sha256 h₀ h ∧ ∀ offset tailSize tailSha256 needleId after,
    result = .recovered offset tailSize tailSha256 needleId after →
      CutDone sha256 h₀ limit offset h ∧ tailSize = h₀.source.length - offset ∧
        tailSha256 = sha256 (h₀.source.drop offset)

theorem truncateTail_safe (args : TailArgs D)
    (result : BuildResult D) (hresult : ∀ b, result.candidateBounds = some b →
      ∃ contents, rebuilt = some contents ∧ inspectIndexBounds contents h₀.source = .ok b)
    {h : HelperState D} (hu : Untouched h₀ rebuilt h) :
    Safe (helperExec sha256) Eq (Permitted sha256 h₀ args.maximumTailBytes)
      (Recovered sha256 h₀ args.maximumTailBytes) (fun _ => Kept sha256 h₀)
      (truncateTail sha256 args result) h := by
  unfold truncateTail orOs
  simp only [Prog.bind_eq]
  rw [Safe.bind_iff, Safe.orRaise_iff]
  refine ⟨fun _ => hu.kept, fun expected _ => ?_⟩
  rw [Safe.bind_iff, Safe.raiseIf_iff]
  refine ⟨fun _ => hu.kept, fun _ => ?_⟩
  rw [Safe.bind_iff, Safe.orRaise_iff]
  refine ⟨fun _ => hu.kept, fun bounds hbounds => ?_⟩
  obtain ⟨candidate, hcandidate, hinspected⟩ := hresult bounds hbounds
  rw [Safe.bind_iff, Safe.orRaise_iff]
  refine ⟨fun _ => hu.kept, fun violation hsole => ?_⟩
  rw [Safe.bind_iff, Safe.raiseIf_iff]
  refine ⟨fun _ => hu.kept, fun hbounded => ?_⟩
  have hproven : TailProven candidate h₀.source args.maximumTailBytes violation.offset bounds
      violation := ⟨hinspected, hsole, by simpa using hbounded, rfl⟩
  have hsize : bounds.sourceSize = h₀.source.length := (inspectIndexBounds_ok hinspected).sourceSize
  -- the live index
  refine Safe.bind (M := fun read h => Untouched h₀ rebuilt h ∧
    ∀ contents, read = some contents → h₀.liveIndex = some contents) ?_ fun read h hu => ?_
  · rintro s rfl
    refine ⟨hu.kept, fun c => ⟨hu, fun contents hc => ?_⟩⟩
    rw [← hu.liveIndex]
    exact some_of_read hc
  have hread' := hu.2
  have hlive := inspect_safe (A := Permitted sha256 h₀ args.maximumTailBytes) sha256 h₀.source
    (I := Untouched h₀ rebuilt) (fun _ _ => Untouched.framed)
    (fun r s hr hs => permitted_of_quiet hr hs.kept) (fun s hs => hs.source) read hu.1
  refine (hlive.mono_post (fun _ _ h => h) fun _ _ h => h.kept).bind
    fun liveBounds h hliveBounds => ?_
  obtain ⟨hu, live, hliveRead, hliveInspected⟩ := hliveBounds
  rw [Safe.bind_iff, Safe.raiseIf_iff]
  refine ⟨fun _ => hu.kept, fun hok => ?_⟩
  have hvalid : liveBounds.valid = true := by
    by_contra hne
    exact hok (.inl (by simpa using hne))
  have hmax : liveBounds.maximumNeedleEnd ≤ violation.offset := by
    by_contra hne
    exact hok (.inr (by omega))
  -- the tail
  refine (quiet_permitted (fun _ _ => Untouched.framed) (fun _ hs => hs.kept)
    (requireFingerprint_quiet _ _) hu).bind fun _ h hu => ?_
  refine Safe.bind (M := fun read h => Untouched h₀ rebuilt h ∧ ∀ contents, read = some contents →
    ∃ n, contents = ((h₀.source.drop violation.offset).take
      (bounds.sourceSize - violation.offset + 1)).take n) ?_ fun read h hread => ?_
  · rintro s rfl
    refine ⟨hu.kept, fun c => ⟨hu, fun contents hc => ?_⟩⟩
    have hcontents := Option.some.inj (some_of_read (x := some _) hc)
    rw [← hu.source, ← hcontents]
    cases c.torn with
    | none => exact ⟨_, (List.take_of_length_le (Nat.le_refl _)).symm⟩
    | some n => exact ⟨n, rfl⟩
  obtain ⟨hu, hread⟩ := hread
  rw [Safe.bind_iff, Safe.orRaise_iff]
  refine ⟨fun _ => hu.kept, fun tail htail => ?_⟩
  rw [Safe.bind_iff, Safe.raiseIf_iff]
  refine ⟨fun _ => hu.kept, fun hlen => ?_⟩
  have htailEq : tail = h₀.source.drop violation.offset := by
    obtain ⟨n, hn⟩ := hread tail htail
    have hlen' : tail.length = bounds.sourceSize - violation.offset := by
      by_contra hne
      exact hlen hne
    have hdrop : (h₀.source.drop violation.offset).length = bounds.sourceSize - violation.offset := by
      rw [List.length_drop, hsize]
    rw [List.take_take] at hn
    have hle : (h₀.source.drop violation.offset).length ≤
        min n (bounds.sourceSize - violation.offset + 1) := by
      have := congrArg List.length hn
      rw [List.length_take] at this
      omega
    rw [hn, List.take_of_length_le hle]
  refine (quiet_permitted (fun _ _ => Untouched.framed) (fun _ hs => hs.kept) ?_ hu).bind
    fun _ h hu => ?_
  · exact must_quiet ((Prog.issues_ask _).2 trivial)
  have hsuffix : tail <:+ h₀.source := by
    rw [htailEq]
    exact List.drop_suffix _ _
  refine (storeTail_safe hsuffix hu).bind fun _ h hs => ?_
  refine (quiet_permitted (fun _ _ => Stored.framed) (fun _ hs => kept_of_source hs.source)
    (verifyTail_quiet tail) hs).bind fun _ h hs => ?_
  refine (quiet_permitted (fun _ _ => Stored.framed) (fun _ hs => kept_of_source hs.source)
    (requireFingerprint_quiet _ _) hs).bind fun _ h hs => ?_
  -- the cut
  have hcut : Cut sha256 h₀ args.maximumTailBytes violation.offset candidate live h :=
    ⟨hs.source, hs.rebuilt_eq.trans hcandidate, hs.liveIndex.trans (hread' live hliveRead),
      hread' live hliveRead, ⟨bounds, violation, hproven⟩, ⟨liveBounds, hliveInspected, hvalid, hmax⟩,
      by rw [← htailEq]; exact hs.backup⟩
  refine (truncate_safe hcut).bind fun _ h hd => ?_
  refine (quiet_permitted (fun _ _ => CutDone.framed) (fun _ hs => hs.kept) ?_ hd).bind
    fun _ h hd => ?_
  · exact must_quiet ((Prog.issues_ask _).2 trivial)
  refine (quiet_permitted (fun _ _ => CutDone.framed) (fun _ hs => hs.kept) ?_ hd).bind
    fun answer h hd => ?_
  · exact (Prog.issues_ask _).2 trivial
  refine (quiet_permitted (fun _ _ => CutDone.framed) (fun _ hs => hs.kept)
    (orRaise_quiet answer) hd).bind fun after h hd => ?_
  rw [Safe.bind_iff, Safe.raiseIf_iff]
  refine ⟨fun _ => hd.kept, fun _ => ⟨hd.kept, ?_⟩⟩
  intro offset tailSize tailSha256 needleId fingerprint heq
  simp only [TailResult.recovered.injEq] at heq
  obtain ⟨rfl, rfl, rfl, -⟩ := heq
  exact ⟨hd, by rw [hsize], by rw [htailEq]⟩

/-- The whole recovery: it issues the truncation only as a proven cut, and it keeps every byte of
the original data file at every step. -/
theorem recoverIncompleteTail_safe (sha256 : Bytes → D) (h₀ : HelperState D) (args : TailArgs D) :
    Safe (helperExec sha256) Eq (Permitted sha256 h₀ args.maximumTailBytes)
      (Recovered sha256 h₀ args.maximumTailBytes) (fun _ => Kept sha256 h₀)
      (recoverIncompleteTail sha256 args) h₀ := by
  have hbuild : PermitsBuild (Permitted sha256 h₀ args.maximumTailBytes) h₀ := by
    intro r h hr hb
    rcases hr with hr | rfl | ⟨f, rfl⟩
    · exact permitted_of_quiet hr (kept_of_source hb.source)
    · exact kept_of_source hb.source
    · exact kept_of_source hb.source
  unfold recoverIncompleteTail
  simp only [Prog.bind_eq]
  have hbuilt := buildCandidate_safe sha256 hbuild false (fun f => kept_of_source rfl)
  refine (hbuilt.mono_post (fun _ _ h => h) fun _ h hb => kept_of_source hb.source).bind
    fun result h hb => ?_
  obtain ⟨hb, rfl⟩ := hb
  refine Safe.catchWith (F := fun _ => Kept sha256 h₀) ?_ fun e s hs => ?_
  · exact truncateTail_safe args _ hb.bounds ⟨hb.source, hb.tailBackup, hb.durableBackup, hb.liveIndex, rfl⟩
  · have hfailed : ∀ message : String, Recovered sha256 h₀ args.maximumTailBytes (.failed message) s :=
      fun message => ⟨hs, by simp⟩
    cases e with
    | os => exact hfailed _
    | helper message => exact hfailed _
    | lookup => exact hfailed _

end

/-! ## Which records lie behind the boundary -/

/-- A cut at `offset` reaches one record only: of all entries of the candidate and of the live index,
with deletions and empty entries included, the violating one alone lies at or behind the offset. -/
def CutsOnlyViolation (source candidate live : Bytes) (offset : Nat) : Prop :=
  ∃ version pre e post, source.head?.map UInt8.toNat = some version ∧
    entries candidate = pre ++ e :: post ∧ e.overruns version source.length = true ∧
    e.offset = offset ∧ ∀ x ∈ pre ++ post ++ entries live, x.offset = 0 ∨ x.offset < offset

/-- Every deletion or empty entry of `index` lies before some counted entry of `candidate`. -/
def DeletionsPrecede (candidate index : Bytes) : Prop :=
  ∀ d ∈ entries index, d.size ≤ 0 → d.offset = 0 ∨
    ∃ e ∈ entries candidate, e.counted = true ∧ d.offset < e.offset

/-- Behind a proven boundary there can be deletions and empty entries, and nothing else. -/
theorem TailProven.cutsOnlyViolation_iff {candidate source live : Bytes} {limit : Int} {offset : Nat}
    {b : Bounds} {v : Violation} (h : TailProven candidate source limit offset b v)
    (hlive : ∀ x ∈ entries live, x.counted = true → x.endOffset b.version ≤ offset) :
    CutsOnlyViolation source candidate live offset ↔
      DeletionsPrecede candidate candidate ∧ DeletionsPrecede candidate live := by
  constructor
  · rintro ⟨version, pre, e, post, -, hsplit, hover, rfl, hothers⟩
    have hcounted := ((overruns_iff _ _ _).1 hover).1
    have hmem : e ∈ entries candidate := by simp [hsplit]
    have hbelow : ∀ d ∈ pre ++ post ++ entries live, d.offset = 0 ∨
        ∃ e ∈ entries candidate, e.counted = true ∧ d.offset < e.offset :=
      fun d hd => (hothers d hd).imp_right fun hlt => ⟨e, hmem, hcounted, hlt⟩
    refine ⟨fun d hd hsize => hbelow d ?_, fun d hd _ => hbelow d (List.mem_append_right _ hd)⟩
    have hne : d ≠ e := by
      rintro rfl
      have := ((counted_iff d).1 hcounted).2
      omega
    simp only [hsplit, List.mem_append, List.mem_cons] at hd ⊢
    tauto
  · rintro ⟨hcandidate, hliveDeletions⟩
    obtain ⟨hversion, pre, e, post, hsplit⟩ := h.split
    refine ⟨b.version, pre, e, post, hversion, hsplit.entries_eq, hsplit.overruns, hsplit.offset_eq, ?_⟩
    -- a counted entry ends before the boundary, an uncounted one precedes a counted one
    have hkey : ∀ x, DeletionsPrecede candidate candidate ∧ x ∈ entries candidate ∨
        DeletionsPrecede candidate live ∧ x ∈ entries live →
        (x.counted = true → x.endOffset b.version ≤ offset) → x.offset = 0 ∨ x.offset < offset := by
      intro x hx hend
      by_cases hc : x.counted = true
      · have := x.offset_lt_endOffset b.version
        have := hend hc
        omega
      · by_cases hzero : x.offset = 0
        · exact .inl hzero
        · have hsize : x.size ≤ 0 := by
            by_contra hpos
            exact hc ((counted_iff x).2 ⟨hzero, by omega⟩)
          have hprec : x.offset = 0 ∨ ∃ e ∈ entries candidate, e.counted = true ∧
              x.offset < e.offset := by
            rcases hx with ⟨hd, hx⟩ | ⟨hd, hx⟩
            · exact hd x hx hsize
            · exact hd x hx hsize
          refine hprec.imp_right ?_
          rintro ⟨e', he', hc', hlt⟩
          have := h.offset_le e' he' hc'
          omega
    intro x hx
    rcases List.mem_append.1 hx with hx | hx
    · refine hkey x (.inl ⟨hcandidate, ?_⟩) (hsplit.others x hx)
      rw [hsplit.entries_eq]
      simp only [List.mem_append, List.mem_cons] at hx ⊢
      tauto
    · exact hkey x (.inr ⟨hliveDeletions, hx⟩) (hlive x hx)

theorem Cut.live_below {sha256 : Bytes → D} {h₀ h : HelperState D} {limit : Int} {offset version : Nat}
    {candidate live : Bytes} (hcut : Cut sha256 h₀ limit offset candidate live h)
    (hversion : h₀.source.head?.map UInt8.toNat = some version) :
    ∀ x ∈ entries live, x.counted = true → x.endOffset version ≤ offset := by
  obtain ⟨b, hinspected, -, hmax⟩ := hcut.liveProof
  have hins := inspectIndexBounds_ok hinspected
  obtain rfl : b.version = version := Option.some.inj (hins.version.symm.trans hversion)
  exact hins.all_below hmax

theorem Cut.cutsOnlyViolation_iff {sha256 : Bytes → D} {h₀ h : HelperState D} {limit : Int}
    {offset : Nat} {candidate live : Bytes} (hcut : Cut sha256 h₀ limit offset candidate live h) :
    CutsOnlyViolation h₀.source candidate live offset ↔
      DeletionsPrecede candidate candidate ∧ DeletionsPrecede candidate live := by
  obtain ⟨b, v, hproven⟩ := hcut.candidateProof
  exact hproven.cutsOnlyViolation_iff (hcut.live_below hproven.split.1)

/-! ## What a recovery removes -/

/-- The result of a successful recovery that took the data file of `h` to that of `h'`. -/
structure TailRemoved (h h' : HelperState D) (limit : Int) (version : Nat) (tail candidate live : Bytes)
    (pre : List Entry) (e : Entry) (post : List Entry) : Prop where
  version_eq : h.source.head?.map UInt8.toNat = some version
  source_eq : h.source = h'.source ++ tail
  tail_ne_nil : tail ≠ []
  tail_le : (tail.length : Int) ≤ limit
  rebuilt : h'.rebuilt = some candidate
  entries_eq : entries candidate = pre ++ e :: post
  violating : h.source.length < e.endOffset version ∧ e.offset ≠ 0 ∧ 0 < e.size
  size_eq : h'.source.length = e.offset
  others_below : ∀ x ∈ pre ++ post, x.offset ≠ 0 → 0 < x.size →
    x.endOffset version ≤ h'.source.length
  liveIndex : h.liveIndex = some live
  live_below : ∀ x ∈ entries live, x.offset ≠ 0 → 0 < x.size → x.endOffset version ≤ h'.source.length

/-- A completed cut removes a non-empty, bounded tail, and every counted entry of both indexes other
than the violating one ends before it. -/
theorem CutDone.removed {sha256 : Bytes → D} {h₀ h : HelperState D} {limit : Int} {offset : Nat}
    (hd : CutDone sha256 h₀ limit offset h) :
    ∃ version tail candidate live pre e post,
      TailRemoved h₀ h limit version tail candidate live pre e post := by
  obtain ⟨candidate, live, before, hcut, hsource, -, -, hrebuilt, -⟩ := hd
  obtain ⟨b, v, hproven⟩ := hcut.candidateProof
  obtain ⟨hversion, pre, e, post, hsplit⟩ := hproven.split
  obtain ⟨hpos, hinside, hlimit⟩ := hproven.range
  obtain ⟨hcounted, hover⟩ := (overruns_iff _ _ _).1 hsplit.overruns
  have hlen : h.source.length = offset := by
    rw [hsource, List.length_take]
    omega
  refine ⟨b.version, h₀.source.drop offset, candidate, live, pre, e, post, hversion, ?_, ?_, ?_,
    hrebuilt, hsplit.entries_eq, ⟨hover, (counted_iff e).1 hcounted⟩, hlen.trans hsplit.offset_eq.symm,
    ?_, hcut.liveIndex₀, ?_⟩
  · rw [hsource, List.take_append_drop]
  · intro hnil
    have hzero := congrArg List.length hnil
    rw [List.length_drop, List.length_nil] at hzero
    omega
  · rw [List.length_drop]
    exact hlimit
  · intro x hx hoffset hsize
    rw [hlen]
    exact hsplit.others x hx ((counted_iff x).2 ⟨hoffset, hsize⟩)
  · intro x hx hoffset hsize
    rw [hlen]
    exact hcut.live_below hversion x hx ((counted_iff x).2 ⟨hoffset, hsize⟩)

section

variable [DecidableEq D]

/-- At every step, and after every crash and error, what is missing from the data file is the tail
backup. -/
theorem recoverIncompleteTail_kept (sha256 : Bytes → D) (args : TailArgs D) (h : HelperState D)
    (choices : List (HelperChoice D)) :
    Kept sha256 h ((recoverIncompleteTail sha256 args).after (helperExec sha256) choices h) := by
  -- cut off anywhere, the helper stands at a request that its contract permits
  refine (recoverIncompleteTail_safe sha256 h args).after_of_forall (I := Kept sha256 h) (fun _ => rfl)
    (fun r s hr => ?_) (fun _ s hs => hs.1) (fun _ s hs => hs) choices
  cases r with
  | truncate offset =>
      -- before the cut the data file is whole
      obtain ⟨candidate, live, hcut⟩ := hr
      exact kept_of_source hcut.source
  | _ => exact hr

/-- When a backup that was there before, if any, was durable, then at every step, and after every crash
and error, the original data file is the current one followed by nothing or by the durable tail backup.
Once the data file has been cut, this needs the condition. A successful recovery removes a non-empty
bounded tail at the offset of the violating entry, and every other live entry of both indexes ends before
it. -/
theorem recoverIncompleteTail_loses_nothing (sha256 : Bytes → D) (args : TailArgs D)
    (h : HelperState D) (hash : NoTailCollision sha256 h) (choices : List (HelperChoice D)) :
    (BackupDurable h →
      Preserved h.source ((recoverIncompleteTail sha256 args).after (helperExec sha256) choices h)) ∧
    (((recoverIncompleteTail sha256 args).after (helperExec sha256) choices h).source ≠ h.source →
      Preserved h.source ((recoverIncompleteTail sha256 args).after (helperExec sha256) choices h) →
      BackupDurable h) ∧
      ∀ offset tailSize tailSha256 needleId fingerprint h',
        (recoverIncompleteTail sha256 args).run (helperExec sha256) choices h =
            (.ok (.recovered offset tailSize tailSha256 needleId fingerprint), h') →
          ∃ version tail candidate live pre e post,
            TailRemoved h h' args.maximumTailBytes version tail candidate live pre e post := by
  have hkept := recoverIncompleteTail_kept sha256 args h choices
  refine ⟨hkept.preserved hash, hkept.durable hash, ?_⟩
  intro offset tailSize tailSha256 needleId fingerprint h' hrun
  have hout := (recoverIncompleteTail_safe sha256 h args).run_outcome (fun _ => rfl) choices
  rw [hrun] at hout
  exact (hout.2 _ _ _ _ _ rfl).1.removed

end

namespace Sample

/-- A data file of twenty-four bytes whose last sixteen belong to one incomplete record. -/
def tornState : HelperState Bytes where
  source := 3 :: List.replicate 23 0
  liveIndex := some []

def tornArgs : TailArgs Bytes where
  expected := some (fingerprintOf id tornState.source 0)
  maximumTailBytes := 16

/-- Every request succeeds, the builder leaves an index with the record, and the attempt to write to the
exposed source, the twenty-third request, is refused. -/
def goodChoice : HelperChoice Bytes where
  candidate := some [0, 0, 0, 0, 0, 0, 0, 1, 0, 0, 0, 1, 0, 0, 0, 1]

def goodChoices (n : Nat) : List (HelperChoice Bytes) :=
  List.replicate 22 goodChoice ++ { command := { returncode := 1 } } :: List.replicate n goodChoice

theorem noTailCollision (h : HelperState Bytes) : NoTailCollision id h :=
  fun _ _ _ _ _ heq => heq

end Sample

/-- A run of the recovery without an earlier backup. -/
theorem recoverIncompleteTail_loses_nothing_small :
    ∃ (h' : HelperState Bytes) (fingerprint : RawFingerprint Bytes),
      NoTailCollision id Sample.tornState ∧ BackupDurable Sample.tornState ∧
        (recoverIncompleteTail id Sample.tornArgs).run (helperExec id) (Sample.goodChoices 60)
            Sample.tornState = (.ok (.recovered 8 16 (List.replicate 16 0) 1 fingerprint), h') ∧
        Preserved Sample.tornState.source h' ∧
        ∃ version tail candidate live pre e post,
          TailRemoved Sample.tornState h' Sample.tornArgs.maximumTailBytes version tail candidate live
            pre e post := by
  have hrun : ((recoverIncompleteTail id Sample.tornArgs).run (helperExec id) (Sample.goodChoices 60)
      Sample.tornState).1 =
        .ok (.recovered 8 16 (List.replicate 16 0) 1 (fingerprintOf id (3 :: List.replicate 7 0) 0)) := by
    decide +kernel
  obtain ⟨h', hrun⟩ := exists_state_of_outcome hrun
  have hdurable : BackupDurable Sample.tornState := by
    rintro existing ⟨⟩
  have hsafe := recoverIncompleteTail_loses_nothing id Sample.tornArgs Sample.tornState
    (Sample.noTailCollision _) (Sample.goodChoices 60)
  refine ⟨h', _, Sample.noTailCollision _, hdurable, hrun, ?_, hsafe.2.2 _ _ _ _ _ _ hrun⟩
  have hpreserved := hsafe.1 hdurable
  rwa [Prog.after, hrun] at hpreserved

/-- What an attempt leaves that is killed after it has written the backup and before it has synchronised
it. -/
def Sample.killed : HelperState Bytes :=
  (recoverIncompleteTail id tornArgs).after (helperExec id) ((goodChoices 60).take 53) tornState

/-- The next attempt takes this backup as it is and cuts the data file: the bytes that were cut off are
nowhere durable. -/
theorem reused_backup_is_not_durable :
    NoTailCollision id Sample.killed ∧ Sample.killed.source = Sample.tornState.source ∧
      ∃ (h' : HelperState Bytes) (fingerprint : RawFingerprint Bytes),
        (recoverIncompleteTail id Sample.tornArgs).run (helperExec id) (Sample.goodChoices 60)
            Sample.killed = (.ok (.recovered 8 16 (List.replicate 16 0) 1 fingerprint), h') ∧
          h'.durableBackup = none ∧ ¬ Preserved Sample.killed.source h' := by
  have hrun : ((recoverIncompleteTail id Sample.tornArgs).run (helperExec id) (Sample.goodChoices 60)
      Sample.killed).1 =
        .ok (.recovered 8 16 (List.replicate 16 0) 1 (fingerprintOf id (3 :: List.replicate 7 0) 0)) := by
    decide +kernel
  have hcut : ((recoverIncompleteTail id Sample.tornArgs).run (helperExec id) (Sample.goodChoices 60)
      Sample.killed).2.source ≠ Sample.killed.source := by decide +kernel
  have hdurable : ((recoverIncompleteTail id Sample.tornArgs).run (helperExec id) (Sample.goodChoices 60)
      Sample.killed).2.durableBackup = none := by decide +kernel
  have hsource : Sample.killed.source = Sample.tornState.source := by decide +kernel
  obtain ⟨h', hrun⟩ := exists_state_of_outcome hrun
  rw [hrun] at hcut hdurable
  refine ⟨Sample.noTailCollision _, hsource, h', _, hrun, hdurable, ?_⟩
  rintro (hs | ⟨tail, -, htail, -⟩)
  · exact hcut hs.symm
  · exact absurd (hdurable.symm.trans htail) (by simp)

end StorageNode.IndexHelper
