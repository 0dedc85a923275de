import StorageNode.IndexHelper.Model

/-!
# What a candidate build leaves alone

`buildCandidate` runs mount commands, the external builder and file operations in a staging area.
None of its requests changes the data file, the live index or the tail backup, and the bounds it
reports are the bounds of the index that the builder left, measured against the data file
(`buildCandidate_safe`).
-/

set_option autoImplicit false

namespace StorageNode.IndexHelper

open StorageNode.Program HelperProg

variable {D : Type}

/-- Requests that change neither the files of the volume nor the reported bounds. -/
def HelperReq.Quiet : HelperReq D → Prop
  | .truncate _ => False
  | .writeTailBackup _ => False
  | .command .weedFix => False
  | .fs .syncBackup => False
  | .assign f => ∀ l, (f l).result.candidateBounds = l.result.candidateBounds
  | _ => True

/-- What a quiet request keeps. The candidate may disappear, because it may be unlinked. -/
structure Framed (h h' : HelperState D) : Prop where
  source : h'.source = h.source
  tailBackup : h'.tailBackup = h.tailBackup
  durableBackup : h'.durableBackup = h.durableBackup
  liveIndex : h'.liveIndex = h.liveIndex
  rebuilt : h'.rebuilt = h.rebuilt
  bounds : h'.locals.result.candidateBounds = h.locals.result.candidateBounds
  candidate : h'.candidate = h.candidate ∨ h'.candidate = none

theorem quiet_framed (sha256 : Bytes → D) (r : HelperReq D) (c : HelperChoice D)
    (h : HelperState D) (hr : r.Quiet) : Framed h (helperExec sha256 r c h).2 := by
  cases r with
  | truncate offset => exact absurd hr id
  | writeTailBackup contents => exact absurd hr id
  | assign f => exact ⟨rfl, rfl, rfl, rfl, rfl, hr _, .inl rfl⟩
  | fs step =>
      cases step with
      | syncBackup => exact absurd hr id
      | _ => exact ⟨rfl, rfl, rfl, rfl, rfl, rfl, .inl rfl⟩
  | command k =>
      cases k with
      | weedFix => exact absurd hr id
      | _ => exact ⟨rfl, rfl, rfl, rfl, rfl, rfl, .inl rfl⟩
  | unlinkCandidate =>
      simp only [helperExec]
      split
      · exact ⟨rfl, rfl, rfl, rfl, rfl, rfl, .inl rfl⟩
      · exact ⟨rfl, rfl, rfl, rfl, rfl, rfl, .inr rfl⟩
  | _ => exact ⟨rfl, rfl, rfl, rfl, rfl, rfl, .inl rfl⟩

/-- A state of a build that started from `h₀`: the volume's files are those of `h₀`, and reported
bounds are the bounds of the index that the builder left. -/
structure Built (h₀ h : HelperState D) : Prop where
  source : h.source = h₀.source
  tailBackup : h.tailBackup = h₀.tailBackup
  durableBackup : h.durableBackup = h₀.durableBackup
  liveIndex : h.liveIndex = h₀.liveIndex
  bounds : ∀ b, h.locals.result.candidateBounds = some b →
    ∃ contents, h.rebuilt = some contents ∧ inspectIndexBounds contents h₀.source = .ok b

/-- A build that has not reported bounds yet. -/
def Fresh (h₀ h : HelperState D) : Prop :=
  Built h₀ h ∧ h.locals.result.candidateBounds = none

/-- The staged candidate is the index that the builder left. -/
def Staged (h₀ h : HelperState D) : Prop :=
  Fresh h₀ h ∧ ∀ contents, h.candidate = some contents → h.rebuilt = some contents

theorem Built.framed {h₀ h h' : HelperState D} (hb : Built h₀ h) (hf : Framed h h') :
    Built h₀ h' where
  source := hf.source.trans hb.source
  tailBackup := hf.tailBackup.trans hb.tailBackup
  durableBackup := hf.durableBackup.trans hb.durableBackup
  liveIndex := hf.liveIndex.trans hb.liveIndex
  bounds := by
    intro b hbounds
    rw [hf.rebuilt]
    exact hb.bounds b (hf.bounds ▸ hbounds)

theorem Fresh.framed {h₀ h h' : HelperState D} (hb : Fresh h₀ h) (hf : Framed h h') :
    Fresh h₀ h' :=
  ⟨hb.1.framed hf, hf.bounds.trans hb.2⟩

theorem Staged.framed {h₀ h h' : HelperState D} (hb : Staged h₀ h) (hf : Framed h h') :
    Staged h₀ h' := by
  refine ⟨hb.1.framed hf, fun contents hc => ?_⟩
  rw [hf.rebuilt]
  rcases hf.candidate with h | h
  · exact hb.2 contents (h ▸ hc)
  · rw [h] at hc
    exact absurd hc (by simp)

/-! ## Requests of the build -/

theorem orRaise_quiet {α : Type} (x : Except HelperExc α) :
    (HelperProg.orRaise x : HelperProg D α).Issues HelperReq.Quiet := by
  cases x <;> trivial

theorem must_quiet {p : HelperProg D Bool} (hp : p.Issues HelperReq.Quiet) :
    (must p).Issues HelperReq.Quiet :=
  hp.bind fun _ => Prog.issues_raiseIf _ _

theorem mountReadonly_quiet : (mountReadonly : HelperProg D Unit).Issues HelperReq.Quiet := by
  unfold mountReadonly
  simp only [Prog.bind_eq]
  repeat' (first
    | exact trivial
    | exact (Prog.issues_ask _).2 trivial
    | exact Prog.issues_raiseIf _ _
    | apply Prog.Issues.bind
    | apply Prog.Issues.when
    | intro _
    | split)

theorem mountMaskedView_quiet : (mountMaskedView : HelperProg D Unit).Issues HelperReq.Quiet := by
  unfold mountMaskedView
  simp only [Prog.bind_eq]
  repeat' (first
    | exact trivial
    | exact (Prog.issues_ask _).2 trivial
    | exact Prog.issues_raiseIf _ _
    | apply Prog.Issues.bind
    | apply Prog.Issues.when
    | intro _
    | split)

theorem unlinkCandidate_quiet : (unlinkCandidate : HelperProg D Unit).Issues HelperReq.Quiet :=
  must_quiet ((Prog.issues_ask _).2 trivial)

theorem checkUnchanged_quiet (message : String) {cleanup : HelperProg D Unit}
    (hc : cleanup.Issues HelperReq.Quiet) :
    (checkUnchanged message cleanup).Issues HelperReq.Quiet := by
  unfold checkUnchanged orOs
  simp only [Prog.bind_eq]
  repeat' (first
    | exact trivial
    | exact hc
    | exact (Prog.issues_ask _).2 trivial
    | exact (Prog.issues_ask _).2 fun _ => rfl
    | exact orRaise_quiet _
    | exact Prog.issues_orRaise _ _
    | apply Prog.Issues.bind
    | apply Prog.Issues.when
    | intro _)

theorem unstage_quiet : (unstage : HelperProg D Unit).Issues HelperReq.Quiet := by
  unfold unstage release spoil
  simp only [Prog.bind_eq]
  repeat' (first
    | exact trivial
    | exact (Prog.issues_ask _).2 trivial
    | exact (Prog.issues_ask _).2 fun _ => rfl
    | apply must_quiet
    | apply Prog.Issues.forEach
    | apply Prog.Issues.bind
    | apply Prog.Issues.when
    | intro _)

/-! ## Programs of quiet requests -/

section

variable {sha256 : Bytes → D} {h₀ : HelperState D} {A : HelperReq D → HelperState D → Prop}

/-- What a read that may fail returned. -/
theorem some_of_read {α : Type} {fault : Bool} {x : Option α} {a : α}
    (h : (if fault then none else x) = some a) : x = some a := by
  cases fault with
  | true => exact absurd h (by simp)
  | false => simpa using h

/-- A program of quiet requests keeps what quiet requests keep. -/
theorem quiet_safe {α : Type} {I : HelperState D → Prop}
    (hI : ∀ h h', I h → Framed h h' → I h') (hA : ∀ r h, r.Quiet → I h → A r h)
    {p : HelperProg D α} (hp : p.Issues HelperReq.Quiet) {h : HelperState D} (hh : I h) :
    Safe (helperExec sha256) Eq A (fun _ => I) (fun _ => I) p h :=
  Safe.mono (fun r s hr => hA r s hr.1 hr.2) (fun _ _ h => h) (fun _ _ h => h)
    (Prog.Issues.safe (fun _ _ hs he => he ▸ hs)
      (fun r c s hr hs => hI s _ hs (quiet_framed sha256 r c s hr)) hp hh)

/-- An inspection reports the bounds of the index it was given against the current data file. -/
theorem inspect_safe (sha256 : Bytes → D) (source : Bytes) {I : HelperState D → Prop}
    (hI : ∀ h h', I h → Framed h h' → I h') (hA : ∀ r h, r.Quiet → I h → A r h)
    (hsource : ∀ h, I h → h.source = source) (index : Option Bytes) {h : HelperState D}
    (hh : I h) :
    Safe (helperExec sha256) Eq A
      (fun b h => I h ∧ ∃ contents, index = some contents ∧ inspectIndexBounds contents source = .ok b)
      (fun _ => I) (inspect index) h := by
  unfold inspect orOs
  simp only [Prog.bind_eq]
  refine Safe.bind (M := fun read h => I h ∧ ∀ contents, read = some contents → contents = source)
    ?_ ?_
  · rintro s rfl
    refine ⟨hA _ _ trivial hh, fun c => ⟨hI _ _ hh (quiet_framed sha256 _ c _ trivial), ?_⟩⟩
    intro contents hc
    have hread := some_of_read hc
    rw [← hsource _ hh]
    exact (Option.some.inj hread).symm
  · rintro read h ⟨hh, hread⟩
    rw [Safe.bind_iff, Safe.orRaise_iff]
    refine ⟨fun _ => hh, fun contents hc => ?_⟩
    rw [hread contents hc, Safe.bind_iff, Safe.orRaise_iff]
    refine ⟨fun _ => hh, fun indexContents hi => ?_⟩
    cases hb : inspectIndexBounds indexContents source with
    | error message => exact hh
    | ok b => exact ⟨hh, indexContents, hi, hb⟩

/-- The requests of a build are permitted in every state it passes through. -/
def PermitsBuild (A : HelperReq D → HelperState D → Prop) (h₀ : HelperState D) : Prop :=
  ∀ r h, (r.Quiet ∨ r = .command .weedFix ∨ ∃ f, r = .assign f) → Built h₀ h → A r h

theorem built_safe {α : Type} (hA : PermitsBuild A h₀) {p : HelperProg D α}
    (hp : p.Issues HelperReq.Quiet) {h : HelperState D} (hh : Built h₀ h) :
    Safe (helperExec sha256) Eq A (fun _ => Built h₀) (fun _ => Built h₀) p h :=
  quiet_safe (fun _ _ => Built.framed) (fun r h hr hb => hA r h (.inl hr) hb) hp hh

theorem fresh_safe {α : Type} (hA : PermitsBuild A h₀) {p : HelperProg D α}
    (hp : p.Issues HelperReq.Quiet) {h : HelperState D} (hh : Fresh h₀ h) :
    Safe (helperExec sha256) Eq A (fun _ => Fresh h₀) (fun _ => Built h₀) p h :=
  (quiet_safe (fun _ _ => Fresh.framed) (fun r h hr hb => hA r h (.inl hr) hb.1) hp hh).mono_post
    (fun _ _ h => h) (fun _ _ h => h.1)

theorem staged_safe {α : Type} (hA : PermitsBuild A h₀) {p : HelperProg D α}
    (hp : p.Issues HelperReq.Quiet) {h : HelperState D} (hh : Staged h₀ h) :
    Safe (helperExec sha256) Eq A (fun _ => Staged h₀) (fun _ => Built h₀) p h :=
  (quiet_safe (fun _ _ => Staged.framed) (fun r h hr hb => hA r h (.inl hr) hb.1.1) hp hh).mono_post
    (fun _ _ h => h) (fun _ _ h => h.1.1)

end

/-! ## The build -/

variable [DecidableEq D]

theorem exposeSource_quiet :
    (exposeSource : HelperProg D (RawFingerprint D)).Issues HelperReq.Quiet := by
  unfold exposeSource proveWriteRejected orOs
  simp only [Prog.bind_eq]
  repeat' (first
    | exact trivial
    | exact mountReadonly_quiet
    | exact mountMaskedView_quiet
    | exact (Prog.issues_ask _).2 trivial
    | exact (Prog.issues_ask _).2 fun _ => rfl
    | exact orRaise_quiet _
    | exact Prog.issues_raiseIf _ _
    | exact Prog.issues_orRaise _ _
    | apply must_quiet
    | apply Prog.Issues.bind
    | intro _)

section

variable {sha256 : Bytes → D} {h₀ : HelperState D} {A : HelperReq D → HelperState D → Prop}

theorem reconstruct_safe (hA : PermitsBuild A h₀) (before : RawFingerprint D) {h : HelperState D}
    (hh : Fresh h₀ h) :
    Safe (helperExec sha256) Eq A (fun _ => Built h₀) (fun _ => Built h₀)
      (reconstruct sha256 before) h := by
  unfold reconstruct orOs
  simp only [Prog.bind_eq]
  refine Safe.bind (M := fun _ => Staged h₀) ?_ fun weed h hh => ?_
  · -- the builder replaces the candidate before any bounds are reported
    rintro s rfl
    refine ⟨hA _ _ (.inr (.inl rfl)) hh.1, fun c => ⟨⟨⟨hh.1.source, hh.1.tailBackup,
      hh.1.durableBackup, hh.1.liveIndex, fun b hb => ?_⟩, hh.2⟩, fun _ hc => hc⟩⟩
    exact absurd (hh.2.symm.trans hb) (by simp)
  -- the checks up to the read issue no request that writes, so the staged state is kept
  refine (staged_safe hA (checkUnchanged_quiet _ unlinkCandidate_quiet) hh).bind fun after h hh => ?_
  refine (staged_safe hA ?_ hh).bind fun _ h hh => ?_
  · exact Prog.Issues.when (unlinkCandidate_quiet.bind fun _ => trivial)
  refine (staged_safe hA ?_ hh).bind fun _ h hh => ?_
  · exact Prog.Issues.when (unlinkCandidate_quiet.bind fun _ => trivial)
  refine (staged_safe hA ?_ hh).bind fun regular h hh => ?_
  · exact (Prog.issues_ask _).2 trivial
  refine (staged_safe hA (Prog.issues_raiseIf _ _) hh).bind fun _ h hh => ?_
  refine Safe.bind (M := fun read h => Fresh h₀ h ∧
    ∀ contents, read = some contents → h.rebuilt = some contents) ?_ fun read h hread => ?_
  · rintro s rfl
    exact ⟨hA _ _ (.inl trivial) hh.1.1, fun c =>
      ⟨hh.1.framed (quiet_framed sha256 _ c _ trivial),
        fun contents hc => hh.2 contents (some_of_read hc)⟩⟩
  -- the inspection only reads, so the contents that were read are still the rebuilt index
  have hcheck := inspect_safe (A := A) sha256 h₀.source
    (I := fun h => Fresh h₀ h ∧ ∀ contents, read = some contents → h.rebuilt = some contents)
    (fun s s' hs hf => ⟨hs.1.framed hf, fun contents hc => hf.rebuilt.trans (hs.2 contents hc)⟩)
    (fun r s hr hs => hA r s (.inl hr) hs.1.1) (fun s hs => hs.1.1.source) read hread
  refine (hcheck.mono_post (fun _ _ h => h) fun _ _ h => h.1.1).bind fun bounds h hbounds => ?_
  obtain ⟨⟨hh, hrebuilt⟩, contents, hcontents, hinspect⟩ := hbounds
  refine Safe.bind (M := fun _ => Built h₀) ?_ fun _ h hh => ?_
  · -- the reported bounds are those of the index just read
    rintro s rfl
    refine ⟨hA _ _ (.inr (.inr ⟨_, rfl⟩)) hh.1, fun c => ⟨hh.1.source, hh.1.tailBackup,
      hh.1.durableBackup, hh.1.liveIndex, fun b hb => ?_⟩⟩
    obtain rfl : bounds = b := Option.some.inj hb
    exact ⟨contents, hrebuilt contents hcontents, hinspect⟩
  -- from here on the bounds are reported and nothing is written
  refine (built_safe hA ?_ hh).bind fun _ h hh => ?_
  · refine Prog.Issues.when (unlinkCandidate_quiet.bind fun _ => Prog.Issues.bind ?_ fun _ => trivial)
    exact (Prog.issues_ask _).2 fun _ => rfl
  refine (built_safe hA (Prog.issues_orRaise _ _) hh).bind fun _ h hh => ?_
  refine (built_safe hA ?_ hh).bind fun _ h hh => ?_
  · exact must_quiet ((Prog.issues_ask _).2 trivial)
  refine built_safe hA ?_ hh
  exact (Prog.issues_ask _).2 fun _ => rfl

/-- A build leaves the data file, the live index and the tail backup as they were, and its result
carries the bounds of the index that the builder left. -/
theorem buildCandidate_safe (sha256 : Bytes → D) (hA : PermitsBuild A h₀) (fingerprintOnly : Bool)
    (hfirst : ∀ f, A (.assign f) h₀) :
    Safe (helperExec sha256) Eq A
      (fun result h => Built h₀ h ∧ h.locals.result = result) (fun _ => Built h₀)
      (buildCandidate sha256 fingerprintOnly) h₀ := by
  unfold buildCandidate
  simp only [Prog.bind_eq]
  refine Safe.bind (M := fun _ => Fresh h₀) ?_ fun _ h hh => ?_
  · rintro s rfl
    exact ⟨hfirst _, fun c => ⟨⟨rfl, rfl, rfl, rfl, fun b hb => absurd hb (by simp [helperExec])⟩, rfl⟩⟩
  refine Safe.bind (M := fun _ => Built h₀) ?_ fun _ h hh => ?_
  -- the staging directory is removed on both ways out
  · refine Safe.andFinally (M := fun _ => Built h₀) (F := fun _ => Built h₀) ?_
      (fun _ s hs => built_safe hA unstage_quiet hs) (fun _ s hs => built_safe hA unstage_quiet hs)
    -- a caught error is only kept for the result
    refine Safe.catchWith (F := fun _ => Built h₀) ?_ fun e s hs => ?_
    · refine (fresh_safe hA exposeSource_quiet hh).bind fun before s hs => ?_
      split
      · refine built_safe hA ?_ hs.1
        refine (checkUnchanged_quiet _ (Prog.issues_ret ())).bind fun _ => ?_
        exact (Prog.issues_ask _).2 fun _ => rfl
      · exact reconstruct_safe hA before hs
    · cases e with
      | os =>
          refine built_safe hA ?_ hs
          exact (Prog.issues_ask _).2 fun _ => rfl
      | helper message =>
          refine built_safe hA ?_ hs
          exact (Prog.issues_ask _).2 fun _ => rfl
      | lookup => exact hs
  refine Safe.bind (M := fun l h => Built h₀ h ∧ h.locals = l) ?_ fun l h hl => ?_
  · rintro s rfl
    exact ⟨hA _ _ (.inl trivial) hh, fun c => ⟨hh, rfl⟩⟩
  · exact ⟨hl.1, by rw [hl.2]⟩

end

end StorageNode.IndexHelper
