import StorageNode.Transport.StartupVerification

/-!
# The startup verification marker

`verification_truthful` shows what the recorded fingerprint is worth: in every run in which no
transport is cleared between its own quarantine check and the end of the pass, it means that every
configured transport is quarantined or was verified since its last clearance.
`cleared_during_verification` is a run with such a clearance.
-/

set_option autoImplicit false

namespace StorageNode.Transport

open StorageNode.Program

variable {F D : Type}

/-! ## Evidence -/

/-- The helpers that verify a transport, in order. -/
def routeChecks (name : String) (fingerprint : F) : List (VerifyEvent F) :=
  [.passed .mount name fingerprint, .passed .prepare name fingerprint,
    .passed .probe name fingerprint, .passed .unmount name fingerprint]

/-- The events happened in this order since the last clearance of the transport. -/
def Passed (name : String) (events : List (VerifyEvent F)) (log : List (VerifyEvent F)) : Prop :=
  ∃ recent older, log = recent ++ older ∧ .cleared name ∉ recent ∧ events.Sublist recent.reverse

section

variable {name : String} {events log : List (VerifyEvent F)} {e : VerifyEvent F}

theorem Passed.nil (name : String) (log : List (VerifyEvent F)) : Passed name [] log :=
  ⟨[], log, rfl, by simp, List.nil_sublist _⟩

theorem Passed.cons (h : Passed name events log) (he : e ≠ .cleared name) :
    Passed name events (e :: log) := by
  obtain ⟨recent, older, rfl, hclear, hsub⟩ := h
  refine ⟨e :: recent, older, rfl, fun hmem => ?_, ?_⟩
  · rcases List.mem_cons.1 hmem with heq | hmem
    · exact he heq.symm
    · exact hclear hmem
  · rw [List.reverse_cons]
    exact hsub.trans (List.sublist_append_left _ _)

theorem Passed.snoc (h : Passed name events log) (he : e ≠ .cleared name) :
    Passed name (events ++ [e]) (e :: log) := by
  obtain ⟨recent, older, rfl, hclear, hsub⟩ := h
  refine ⟨e :: recent, older, rfl, fun hmem => ?_, ?_⟩
  · rcases List.mem_cons.1 hmem with heq | hmem
    · exact he heq.symm
    · exact hclear hmem
  · rw [List.reverse_cons]
    exact hsub.append (List.Sublist.refl _)

end

/-! ## The discipline of the pass -/

section

variable (sha256 : List UInt8 → D) (digest : FingerprintPayload D → F)

/-- A transport is quarantined, or verified since its last clearance. -/
def Vouched (fingerprint : F) (verified : List String) (name : String) (s : VerifyState F) : Prop :=
  name ∈ s.file.state.quarantined ∨
    name ∈ verified ∧ Passed name (routeChecks name fingerprint) s.log

/-- The recorded fingerprint is truthful about every deployment that has it. -/
def Truthful (s : VerifyState F) : Prop :=
  ∀ d : Deployment,
    s.file.state.startupVerificationFingerprint = some (d.fingerprint sha256 digest) →
    ∀ name, d.failover.contains name →
      Vouched (d.fingerprint sha256 digest) s.file.state.startupVerifiedTransports name s

/-- What a pass can rely on between two of its steps: the transports that it has checked keep their
quarantine and their evidence. -/
structure Undisturbed (s s' : VerifyState F) : Prop where
  checked : ∀ name ∈ checkedNames s.log, name ∈ checkedNames s'.log
  quarantined : ∀ name ∈ checkedNames s.log, name ∈ s.file.state.quarantined →
    name ∈ s'.file.state.quarantined
  passed : ∀ name ∈ checkedNames s.log, ∀ events, Passed name events s.log → Passed name events s'.log

/-- A fingerprint is recorded when every transport of its deployments is accounted for. -/
def VerifyPermit : VerifyReq F → VerifyState F → Prop
  | .record fingerprint transports, s =>
      ∀ d : Deployment, d.fingerprint sha256 digest = fingerprint → ∀ name, d.failover.contains name →
        Vouched fingerprint transports name s
  | _, _ => True

end

section

variable {sha256 : List UInt8 → D} {digest : FingerprintPayload D → F} {s s' : VerifyState F}

/-- An event other than a clearance. -/
theorem Truthful.log (h : Truthful sha256 digest s) {e : VerifyEvent F}
    (he : ∀ name, e ≠ .cleared name) : Truthful sha256 digest { s with log := e :: s.log } := by
  intro d hd name hname
  exact (h d hd name hname).imp id fun hv => ⟨hv.1, hv.2.cons (he name)⟩

/-- A change of the file that keeps the record and the quarantine, or drops the record. -/
theorem Truthful.refile (h : Truthful sha256 digest s) {file : StateFile F}
    (hfile : file.state.startupVerificationFingerprint = none ∨
      file.state.startupVerificationFingerprint = s.file.state.startupVerificationFingerprint ∧
      file.state.startupVerifiedTransports = s.file.state.startupVerifiedTransports ∧
      file.state.quarantined = s.file.state.quarantined) :
    Truthful sha256 digest { s with file := file } := by
  intro d hd name hname
  rcases hfile with hnone | ⟨hfp, hverified, hquarantined⟩
  · exact absurd (hnone.symm.trans hd) (by simp)
  · refine (h d (hfp.symm.trans hd) name hname).imp (fun hq => ?_) fun hv => ⟨?_, hv.2⟩
    · exact hquarantined.symm ▸ hq
    · exact hverified.symm ▸ hv.1

theorem verifyExec_keeps (r : VerifyReq F) (c : VerifyChoice) (s : VerifyState F)
    (h : Truthful sha256 digest s) (hr : VerifyPermit sha256 digest r s) :
    Truthful sha256 digest (verifyExec r c s).2 := by
  cases r with
  | pending => exact h.log fun _ => by simp
  | status name =>
      simp only [verifyExec]
      split
      · exact h
      · exact h.log fun _ => by simp
  | publish => exact h
  | helper check name fingerprint =>
      simp only [verifyExec]
      split
      · exact h.log fun _ => by simp
      · exact h
  | record fingerprint transports =>
      rcases update_cases c.io s.file (fun s => { s with
        startupVerificationFingerprint := some fingerprint
        startupVerifiedAt := c.now
        startupVerifiedTransports := transports }) with heq | heq
      · exact h.refile (.inr (by simp [recordStartupVerification, heq]))
      · intro d hd name hname
        simp only [verifyExec, recordStartupVerification, heq, StateFile.state] at hd ⊢
        obtain rfl := Option.some.inj hd
        exact hr d rfl name hname

/-- The discipline of a verification pass. -/
def verifyDiscipline (sha256 : List UInt8 → D) (digest : FingerprintPayload D → F) :
    Discipline (verifyExec (F := F)) where
  inv := Truthful sha256 digest
  disturb := Undisturbed
  allow := VerifyPermit sha256 digest
  refl _ := ⟨fun _ h => h, fun _ _ h => h, fun _ _ _ h => h⟩
  trans _ _ _ hab hbc :=
    ⟨fun n hn => hbc.checked n (hab.checked n hn),
      fun n hn hq => hbc.quarantined n (hab.checked n hn) (hab.quarantined n hn hq),
      fun n hn es hp => hbc.passed n (hab.checked n hn) es (hab.passed n hn es hp)⟩
  keeps := verifyExec_keeps

/-! ## Meddling -/

/-- Operations of the selector besides clearances and records drop the recorded fingerprint or keep
what it says. -/
theorem Step.keeps_record {step : Step F} (hclear : ∀ name, step.op ≠ .clearQuarantine name)
    (hrecord : ∀ f ts now, step.op ≠ .recordStartupVerification f ts now) (file : StateFile F) :
    (step.apply file).state.startupVerificationFingerprint = none ∨
      (step.apply file).state.startupVerificationFingerprint =
        file.state.startupVerificationFingerprint ∧
      (step.apply file).state.startupVerifiedTransports = file.state.startupVerifiedTransports ∧
      (step.apply file).state.quarantined = file.state.quarantined := by
  rcases step.apply_cases file with heq | ⟨s, heffect, heq⟩
  · exact .inr ⟨by rw [heq], by rw [heq], by rw [heq]⟩
  rw [heq]
  cases hop : step.op with
  | select now =>
      simp only [hop] at heffect
      obtain ⟨name, hchoose⟩ := heffect
      -- a selection changes the active and the requested name only
      rcases choose_cases hchoose with ⟨-, -, -, -, hs⟩ | ⟨-, -, -, hs⟩ | ⟨-, -, -, hs⟩
      · obtain rfl := Option.some.inj hs
        exact .inr ⟨rfl, rfl, rfl⟩
      · exact absurd hs (by simp)
      · obtain rfl := Option.some.inj hs
        exact .inr ⟨rfl, rfl, rfl⟩
  | request name =>
      simp only [hop] at heffect
      obtain ⟨-, -, rfl⟩ := heffect
      exact .inr ⟨rfl, rfl, rfl⟩
  | quarantine name reason now =>
      simp only [hop] at heffect
      obtain rfl := heffect
      exact .inl rfl
  | clearQuarantine name => exact absurd hop (hclear name)
  | recordFailure name reason now =>
      simp only [hop] at heffect
      obtain ⟨-, rfl⟩ := heffect
      exact .inr ⟨rfl, rfl, rfl⟩
  | recordSuccess name now =>
      simp only [hop] at heffect
      obtain rfl := heffect
      exact .inr ⟨rfl, rfl, rfl⟩
  | recordStartupVerification f ts now => exact absurd hop (hrecord f ts now)

/-- What is stored does not depend on whether the directory can be synchronised. -/
theorem update_effective {io : Io} {file : StateFile F} {change : SelectorState F → SelectorState F}
    (h : (update { io with writable := io.writable || io.replaced } file change).1 = .ok ()) :
    (update io file change).2 = .stored { change file.state with updatedAt := io.now } := by
  unfold update locked at h ⊢
  cases hload : (if io.readable then file.load else .error .unreadable) with
  | error e =>
      rw [hload] at h
      exact absurd h (by simp)
  | ok s =>
      have hstate : file.state = s := by
        split at hload
        · exact state_of_load hload
        · exact absurd hload (by simp)
      rw [hload] at h
      cases hwritable : io.writable <;> cases hreplaced : io.replaced <;>
        simp [hwritable, hreplaced, SelectorState.saved, hstate] at h ⊢

/-- A clearance that takes effect stores the state without the transport. -/
theorem clearQuarantine_effective {cfg : FailoverConfig} {name : String} {io : Io} {file : StateFile F}
    (h : (clearQuarantine cfg name { io with writable := io.writable || io.replaced } file).1 = .ok ()) :
    (clearQuarantine cfg name io file).2 = .stored { file.state with
      quarantined := file.state.quarantined.erase name
      startupVerificationFingerprint := none
      updatedAt := io.now } := by
  obtain ⟨hname, heq⟩ := known_ok h
  rw [clearQuarantine, heq] at h
  rw [clearQuarantine, known, if_pos hname]
  exact update_effective h

theorem Truthful.clearance {permitted : String → VerifyState F → Prop}
    (h : Clearance permitted s s') : Truthful sha256 digest s' := by
  cases h with
  | clear cfg name io h hname =>
      intro d hd
      rw [clearQuarantine_effective h] at hd
      exact absurd hd (by simp [StateFile.state])

theorem undisturbed_of_clearance (h : Clearance (fun name s => name ∉ checkedNames s.log) s s') :
    Undisturbed s s' := by
  cases h with
  | clear cfg cleared io h hname =>
      refine ⟨fun _ h => h, fun name hchecked hq => ?_, fun name hchecked events hp => hp.cons ?_⟩
      · rw [clearQuarantine_effective h]
        exact AList.mem_erase.2 ⟨fun heq => hname (heq ▸ hchecked), hq⟩
      · rintro heq
        cases heq
        exact hname hchecked

theorem meddling_keeps (h : Truthful sha256 digest s) (hstep : Meddling True s s') :
    Truthful sha256 digest s' ∧ Undisturbed s s' := by
  cases hstep with
  | clearance _ hclear =>
      refine ⟨Truthful.clearance hclear, undisturbed_of_clearance ?_⟩
      cases hclear with
      | clear cfg name io h hname => exact .clear s cfg name io h (hname trivial)
  | operation step hclear hrecord =>
      exact ⟨h.refile (Step.keeps_record hclear hrecord s.file), fun _ h => h,
        fun name _ hq => Step.keeps_quarantine (hclear name) hq, fun _ _ _ h => h⟩

end

/-! ## The pass -/

/-- The transports that a pass is done with. -/
def Covered (fingerprint : F) (done verified : List String) (s : VerifyState F) : Prop :=
  ∀ name ∈ done, name ∈ checkedNames s.log ∧ Vouched fingerprint verified name s

/-- The pass is at a transport, of which the given checks have passed. -/
structure At (fingerprint : F) (done verified : List String) (name : String)
    (events : List (VerifyEvent F)) (s : VerifyState F) : Prop where
  covered : Covered fingerprint done verified s
  checked : name ∈ checkedNames s.log
  passed : Passed name events s.log

section

variable {sha256 : List UInt8 → D} {digest : FingerprintPayload D → F} {fingerprint : F}
  {done verified : List String} {name : String} {events : List (VerifyEvent F)}

theorem Covered.undisturbed {s s' : VerifyState F} (h : Covered fingerprint done verified s)
    (hs : Undisturbed s s') : Covered fingerprint done verified s' := by
  intro name hname
  obtain ⟨hchecked, hvouched⟩ := h name hname
  exact ⟨hs.checked name hchecked, hvouched.imp (hs.quarantined name hchecked) fun hv =>
    ⟨hv.1, hs.passed name hchecked _ hv.2⟩⟩

theorem At.undisturbed {s s' : VerifyState F} (h : At fingerprint done verified name events s)
    (hs : Undisturbed s s') : At fingerprint done verified name events s' :=
  ⟨h.covered.undisturbed hs, hs.checked name h.checked, hs.passed name h.checked _ h.passed⟩

/-- An event of the pass after its beginning. -/
theorem undisturbed_log (s : VerifyState F) {e : VerifyEvent F} (hbegan : e ≠ .began)
    (hclear : ∀ name, e ≠ .cleared name) : Undisturbed s { s with log := e :: s.log } := by
  refine ⟨fun name hname => ?_, fun _ _ h => h, fun name _ _ h => h.cons (hclear name)⟩
  cases e with
  | began => exact absurd rfl hbegan
  | checked other => exact List.mem_cons_of_mem _ hname
  | passed check other f => exact hname
  | cleared other => exact hname

theorem covered_stable :
    (verifyDiscipline sha256 digest).Stable (Covered fingerprint done verified) :=
  fun _ _ _ _ hd h => h.undisturbed hd

theorem at_stable :
    (verifyDiscipline sha256 digest).Stable (At fingerprint done verified name events) :=
  fun _ _ _ _ hd h => h.undisturbed hd

/-- Contracts of parts of a pass; an exception ends the pass without a record. -/
abbrev Verifies (sha256 : List UInt8 → D) (digest : FingerprintPayload D → F) {α : Type}
    (P : VerifyState F → Prop) (p : VerifyProg F α) (Q : α → VerifyState F → Prop) : Prop :=
  (verifyDiscipline sha256 digest).Triple P p Q fun _ _ => True

open VerifyProg

theorem publishTransport_verifies (P : VerifyState F → Prop)
    (hP : (verifyDiscipline sha256 digest).Stable P) :
    Verifies sha256 digest P publishTransport fun _ => P := by
  refine .bind (M := fun _ => P) (.ask hP (fun _ _ _ => trivial) fun _ _ _ h _ => h) fun ok => ?_
  exact .raiseIf (fun _ _ _ _ => trivial) fun _ _ _ h => h

theorem runHelper_verifies (check : RouteCheck) :
    Verifies sha256 digest (At fingerprint done verified name events)
      (runHelper check name fingerprint) fun _ =>
        At fingerprint done verified name (events ++ [.passed check name fingerprint]) := by
  refine .bind (M := fun ok s => ok = true →
      At fingerprint done verified name (events ++ [.passed check name fingerprint]) s)
    (.ask at_stable (fun _ _ _ => trivial) fun c s _ h _ hok => ?_) fun ok => ?_
  · have hlog : Undisturbed s { s with log := .passed check name fingerprint :: s.log } :=
      undisturbed_log s (by simp) (by simp)
    simp only [verifyExec] at hok ⊢
    rw [if_pos hok]
    exact ⟨h.covered.undisturbed hlog, hlog.checked name h.checked, h.passed.snoc (by simp)⟩
  · exact .raiseIf (fun _ _ _ _ => trivial) fun hok _ _ h => h (by simpa using hok)

/-- A helper whose result does not matter. -/
theorem runHelper_ends (check : RouteCheck) (name : String) :
    Verifies sha256 digest (fun _ => True) (runHelper check name fingerprint) fun _ _ => True :=
  .bind (M := fun _ _ => True) (.ask (.const True) (fun _ _ _ => trivial) fun _ _ _ _ _ => trivial)
    fun _ => .raiseIf (fun _ _ _ _ => trivial) fun _ _ _ _ => trivial

theorem verifyTransportOnStartup_verifies :
    Verifies sha256 digest (At fingerprint done verified name [])
      (verifyTransportOnStartup fingerprint name) fun _ =>
        At fingerprint done verified name (routeChecks name fingerprint) := by
  refine .bind (publishTransport_verifies _ at_stable) fun _ => ?_
  refine .bind (M := fun outcome s => outcome.isOk = true → At fingerprint done verified name
      [.passed .mount name fingerprint, .passed .prepare name fingerprint,
        .passed .probe name fingerprint] s) (.attempt ?_) fun outcome => ?_
  · refine .mono (.bind (runHelper_verifies .mount) fun _ => .bind (runHelper_verifies .prepare)
      fun _ => runHelper_verifies .probe) (fun _ _ h => h) (fun _ _ _ h _ => h) fun _ _ _ _ h => ?_
    exact absurd h (by simp [Except.isOk, Except.toBool])
  cases outcome with
  | error e =>
      refine .bind (M := fun _ _ => True) (.attempt ?_) fun _ => .raise fun _ _ _ => trivial
      exact .mono (runHelper_ends .unmount name) (fun _ _ _ => trivial) (fun _ _ _ _ => trivial)
        fun _ _ _ _ => trivial
  | ok _ =>
      refine .bind (M := fun detached s => detached.isOk = true →
        At fingerprint done verified name (routeChecks name fingerprint) s) (.attempt ?_) fun detached => ?_
      · refine .mono (runHelper_verifies .unmount) (fun _ _ h => h rfl) (fun _ _ _ h _ => h)
          fun _ _ _ _ h => ?_
        exact absurd h (by simp [Except.isOk, Except.toBool])
      cases detached with
      | error e => exact .raise fun _ _ _ => trivial
      | ok _ => exact .ret fun _ _ h => h rfl

/-- The pass is done with one more transport, which it skips or has verified. -/
theorem Covered.snoc {s : VerifyState F} {verified' : List String}
    (h : Covered fingerprint done verified s) (hverified : ∀ n ∈ verified, n ∈ verified')
    (hchecked : name ∈ checkedNames s.log) (hvouched : Vouched fingerprint verified' name s) :
    Covered fingerprint (done ++ [name]) verified' s := by
  intro n hn
  rcases List.mem_append.1 hn with hn | hn
  · obtain ⟨hn, hv⟩ := h n hn
    exact ⟨hn, hv.imp id fun hv => ⟨hverified n hv.1, hv.2⟩⟩
  · obtain rfl := List.mem_singleton.1 hn
    exact ⟨hchecked, hvouched⟩

/-- The quarantine check of a transport. -/
theorem status_verifies :
    Verifies sha256 digest (Covered fingerprint done verified) (status name) fun answer s =>
      ∀ quarantined, answer = some quarantined → At fingerprint done verified name [] s ∧
        (name ∈ quarantined → name ∈ s.file.state.quarantined) := by
  refine .ask covered_stable (fun _ _ _ => trivial) fun c s _ h _ quarantined hanswer => ?_
  simp only [verifyExec] at hanswer ⊢
  split at hanswer
  · exact absurd hanswer (by simp)
  · next state hload =>
      have hstate : s.file.state = state := by
        split at hload
        · exact state_of_load hload
        · exact absurd hload (by simp)
      have hlog : Undisturbed s { s with log := .checked name :: s.log } :=
        undisturbed_log s (by simp) (by simp)
      obtain rfl := Option.some.inj hanswer
      refine ⟨⟨h.undisturbed hlog, List.mem_cons_self, Passed.nil _ _⟩, fun hmem => ?_⟩
      change name ∈ s.file.state.quarantined
      rw [hstate]
      exact AList.mem_keys.2 hmem

/-- The loop accounts for every transport before it records the fingerprint. -/
theorem verifyEach_verifies (names : List String) : ∀ done verified : List String,
    (∀ d : Deployment, d.fingerprint sha256 digest = fingerprint →
      ∀ n, d.failover.contains n → n ∈ done ++ names) →
    Verifies sha256 digest (Covered fingerprint done verified) (verifyEach fingerprint names verified)
      fun _ _ => True := by
  induction names with
  | nil =>
      intro done verified hall
      refine .bind (M := fun _ _ => True) (.ask covered_stable (fun s _ h d hd n hn => ?_)
        fun _ _ _ _ _ => trivial) fun _ => .raiseIf (fun _ _ _ _ => trivial) fun _ _ _ _ => trivial
      exact (h n (by simpa using hall d hd n hn)).2
  | cons name names ih =>
      intro done verified hall
      have hall' : ∀ d : Deployment, d.fingerprint sha256 digest = fingerprint →
          ∀ n, d.failover.contains n → n ∈ (done ++ [name]) ++ names := by
        simpa using hall
      refine .bind status_verifies fun answer => .bind (M := fun quarantined s =>
          At fingerprint done verified name [] s ∧ (name ∈ quarantined → name ∈ s.file.state.quarantined))
        (.orRaise (fun _ _ _ _ => trivial) fun q hq _ _ h => h q hq) fun quarantined => ?_
      refine .ite (fun hmem => ?_) fun _ => ?_
      · refine .pre (ih (done ++ [name]) verified hall') fun s _ h => ?_
        exact h.1.covered.snoc (fun _ h => h) h.1.checked (.inl (h.2 hmem))
      · refine .bind (.pre verifyTransportOnStartup_verifies fun _ _ h => h.1) fun _ => ?_
        refine .pre (ih (done ++ [name]) (verified ++ [name]) hall') fun s _ h => ?_
        exact h.covered.snoc (fun n hn => List.mem_append.2 (.inl hn)) h.checked
          (.inr ⟨List.mem_append.2 (.inr List.mem_cons_self), h.passed⟩)

theorem verifyAllTransportsOnStartup_verifies (hdigest : Function.Injective digest) (d : Deployment) :
    Verifies sha256 digest (fun _ => True)
      (verifyAllTransportsOnStartup (d.fingerprint sha256 digest) d.failover) fun _ _ => True := by
  refine .bind (M := fun _ _ => True) (.ask (.const True) (fun _ _ _ => trivial)
    fun _ _ _ _ _ => trivial) fun required => .when (fun _ => ?_) fun _ _ _ _ => trivial
  refine .andFinally (M := fun _ _ => True) (F := fun _ _ => True) (.pre (verifyEach_verifies _ [] []
      fun d' hd' n hn => Deployment.contains_of_fingerprint hdigest hd' hn) fun _ _ _ _ h => ?_)
    (fun _ => publishTransport_verifies _ (.const True))
    fun _ => publishTransport_verifies _ (.const True)
  exact absurd h (by simp)

/-- Verification passes follow the discipline. -/
theorem verificationMachine_follows (hdigest : Function.Injective digest) :
    (verificationMachine sha256 digest True).Follows (verifyDiscipline sha256 digest)
      fun _ => True where
  meanwhile _ _ h hstep := meddling_keeps h hstep
  rest_meanwhile _ _ _ _ _ := trivial
  idle _ _ _ _ hstep := ⟨Truthful.clearance hstep, trivial⟩
  stop _ _ _ := trivial
  start s p h _ hp := by
    obtain ⟨d, rfl⟩ := hp
    exact verifyAllTransportsOnStartup_verifies hdigest d s h trivial

end

/-! ## The result -/

/-- The marker of a deployment is truthful: every configured transport that is not quarantined is
listed and passed mount, prepare, full probe and unmount under its fingerprint, in this order, since
its last clearance. -/
def MarkerTruthful (sha256 : List UInt8 → D) (digest : FingerprintPayload D → F) (d : Deployment)
    (s : VerifyState F) : Prop :=
  ∀ name, d.failover.contains name → name ∉ s.file.state.quarantined →
    name ∈ s.file.state.startupVerifiedTransports ∧
      Passed name (routeChecks name (d.fingerprint sha256 digest)) s.log

/-- In every state of a run in which no transport is cleared between its own quarantine check and the
end of the pass: when no verification is required, the marker is truthful. -/
theorem verification_truthful [DecidableEq F] (sha256 : List UInt8 → D)
    (digest : FingerprintPayload D → F) (hdigest : Function.Injective digest)
    (x : Running (VerifyReq F) VerifyReq.Ans VerifyExc (VerifyState F))
    (hx : (verificationMachine sha256 digest True).Reachable {} x) (d : Deployment) (io : Io)
    (hrequired : startupVerificationRequired (d.fingerprint sha256 digest) io x.state.file =
      .ok false) : MarkerTruthful sha256 digest d x.state := by
  have hinv : Truthful sha256 digest x.state := by
    refine ((verificationMachine_follows hdigest).reachable ?_ trivial hx).inv
    intro d' hd'
    exact absurd hd' (by simp [StateFile.state])
  -- verification is not required only where the marker is the fingerprint of this deployment
  have hmarker : x.state.file.state.startupVerificationFingerprint =
      some (d.fingerprint sha256 digest) := by
    rcases decision_of_ok hrequired with ⟨hd, -⟩ | ⟨s, hd, -⟩
    · simpa using congrArg Prod.fst (Except.ok.inj hd)
    · exact absurd hd (by simp)
  intro name hname hfree
  -- the marker was set when every transport of this deployment had been verified or quarantined
  rcases hinv d hmarker name hname with hq | hv
  · exact absurd hq hfree
  · exact hv

/-! Two transports, one of them quarantined. Fingerprints are the encoded dictionaries themselves, and
every request succeeds. -/

namespace Sample

def deployment : Deployment where
  target := "data"
  primary := ⟨"//host/share", "/credentials", [], "strict", "3.0", "disabled", "disabled", 2⟩
  failover := config
  read _ := none

def pass : VerifyProg (FingerprintPayload (List UInt8)) Unit :=
  VerifyProg.verifyAllTransportsOnStartup (deployment.fingerprint id id) config

/-- The secondary transport is quarantined before the pass. -/
def before : VerifyState (FingerprintPayload (List UInt8)) where
  file := (Step.mk config (.quarantine "sshfs-secondary" "blocked" 0) {}).apply .missing

theorem before_reachable (calm : Prop) :
    (verificationMachine (F := FingerprintPayload (List UInt8)) id id calm).Reachable {}
      ⟨before, some pass⟩ :=
  .tail (.single (.meanwhile _ _ none (.operation {}
    ⟨config, .quarantine "sshfs-secondary" "blocked" 0, {}⟩ (by simp) (by simp))))
    (.start before pass ⟨deployment, rfl⟩)

/-- The pass has verified the primary transport and skipped the secondary one. -/
def skipped : VerifyState (FingerprintPayload (List UInt8)) :=
  pass.after verifyExec (List.replicate 8 {}) before

/-- The secondary transport is cleared before the pass ends. -/
def cleared : VerifyState (FingerprintPayload (List UInt8)) :=
  ⟨(clearQuarantine config "sshfs-secondary" {} skipped.file).2,
    .cleared "sshfs-secondary" :: skipped.log⟩

end Sample

/-- A transport that is cleared after the pass has skipped it is neither quarantined nor verified, and
the pass records the fingerprint nevertheless. -/
theorem cleared_during_verification :
    ∃ x, (verificationMachine id id False).Reachable {} x ∧
      startupVerificationRequired (Sample.deployment.fingerprint id id) {} x.state.file = .ok false ∧
      ¬ MarkerTruthful id id Sample.deployment x.state := by
  have hskipped := Machine.Reachable.run (List.replicate 8 {}) (Sample.before_reachable False)
  have hcleared := hskipped.tail (.meanwhile _ Sample.cleared _ (.clearance _ _
    (.clear Sample.skipped Sample.config "sshfs-secondary" {} (by decide +kernel) False.elim)))
  refine ⟨_, Machine.Reachable.run [{}, {}] hcleared, by decide +kernel, fun h => ?_⟩
  obtain ⟨hlisted, -⟩ := h "sshfs-secondary" (by decide +kernel) (by decide +kernel)
  revert hlisted
  decide +kernel

/-- A pass that nobody disturbs. -/
theorem verification_truthful_after_pass :
    MarkerTruthful id id Sample.deployment
      (Sample.pass.after verifyExec (List.replicate 10 {}) Sample.before) := by
  have hpass := Machine.Reachable.run (List.replicate 10 ({} : VerifyChoice))
    (Sample.before_reachable True)
  exact verification_truthful id id Function.injective_id _ hpass Sample.deployment {}
    (by decide +kernel)

end StorageNode.Transport
