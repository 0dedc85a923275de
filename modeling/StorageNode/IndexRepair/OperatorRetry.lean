import StorageNode.IndexRepair.Stamps
import StorageNode.Program.Sequential

/-!
# What an operator's retry request reaches

`request_retry` marks the latest blocked record of a volume. The next repair looks for the mark on two
other records: the latest blocked one of the source identity without a fingerprint, and the latest
blocked one with the fingerprint it finds. `admission` is `_repair_one` up to the end of these checks
(`repairOne_eq`), and `Refused` holds of a run that one of them ends.

Stamps tell the records of a volume apart (`StampInv`), so a request changes no selection, only the
record that it marks (`latestOf_after_retry`).
-/

set_option autoImplicit false

namespace StorageNode.IndexRepair

open StorageNode.Program StorageNode.IndexHelper RepairProg

variable {D : Type}

/-! ## Selections -/

theorem le_latestOf {ts : List (Transaction D)} {t : Transaction D} (h : latestOf ts = some t) :
    ∀ u ∈ ts, u.updatedAt ≤ t.updatedAt := by
  induction ts generalizing t with
  | nil => exact absurd h (by simp [latestOf])
  | cons v vs ih =>
      intro u hu
      simp only [latestOf] at h
      split at h
      · next hnone =>
          obtain rfl := Option.some.inj h
          obtain rfl := latestOf_eq_none.1 hnone
          obtain rfl := List.mem_singleton.1 hu
          exact Nat.le_refl _
      · next x hx =>
          split at h
          · next hlater =>
              obtain rfl := Option.some.inj h
              rcases List.mem_cons.1 hu with rfl | hu
              · exact Nat.le_of_lt hlater
              · exact ih hx u hu
          · next hearlier =>
              obtain rfl := Option.some.inj h
              rcases List.mem_cons.1 hu with rfl | hu
              · exact Nat.le_refl _
              · exact Nat.le_trans (ih hx u hu) (Nat.le_of_not_lt hearlier)

/-- Where stamps are distinct, a record that is not older than the others is selected. -/
theorem latestOf_eq_some {ts : List (Transaction D)} {t : Transaction D}
    (hdistinct : ∀ u ∈ ts, u.updatedAt = t.updatedAt → u = t) (ht : t ∈ ts)
    (hmax : ∀ u ∈ ts, u.updatedAt ≤ t.updatedAt) : latestOf ts = some t := by
  cases hlatest : latestOf ts with
  | none =>
      rw [latestOf_eq_none.1 hlatest] at ht
      exact absurd ht List.not_mem_nil
  | some u =>
      have hu := latestOf_mem hlatest
      have heq := Nat.le_antisymm (hmax u hu) (le_latestOf hlatest t ht)
      rw [hdistinct u hu heq]

/-- The records that wait for an operator. -/
def blocked (ts : List (Transaction D)) : List (Transaction D) :=
  ts.filter fun t => t.phase = .manualInterventionRequired

/-- The record that `request_retry` saves for `t`. -/
def withRequest (t : Transaction D) (at_ : Nat) : Transaction D :=
  { t with operatorRetryRequestedAt := some at_, operatorRetryConsumed := false }

theorem requestRetry_eq_some {w w' : World D} (h : requestRetry w = some w') :
    ∃ t, latestOf (blocked w.journal) = some t ∧
      w'.journal = saveTransaction w.journal (withRequest t (w.clock + 1)) := by
  obtain ⟨t, ht, rfl⟩ := Option.map_eq_some_iff.1 h
  exact ⟨t, ht, rfl⟩

/-- A request marks one record; among the records of any kind that does not depend on the mark, the
same one is the latest as before. -/
theorem latestOf_after_retry {w w' : World D} (hw : StampInv w) (hw' : StampInv w')
    {t : Transaction D} {at_ : Nat} (ht : t ∈ w.journal)
    (hjournal : w'.journal = saveTransaction w.journal (withRequest t at_))
    {K : Transaction D → Bool} (hK : K (withRequest t at_) = K t) :
    (∀ u, latestOf (w.journal.filter K) = some u → ∃ v, latestOf (w'.journal.filter K) = some v ∧
      (u = t ∧ v = withRequest t at_ ∨ u ≠ t ∧ v = u)) ∧
    (latestOf (w.journal.filter K) = none → latestOf (w'.journal.filter K) = none) := by
  have hmem : ∀ u, u ∈ w'.journal.filter K ↔
      (u ∈ w.journal ∧ u.id ≠ t.id ∨ u = withRequest t at_) ∧ K u = true := by
    intro u
    rw [List.mem_filter, hjournal, mem_saveTransaction]
    exact Iff.rfl
  -- the marked record stands where the old one stood
  have hback : ∀ u ∈ w'.journal.filter K, ∃ v ∈ w.journal.filter K, v.updatedAt = u.updatedAt := by
    intro u hu
    obtain ⟨⟨hu, -⟩ | rfl, hKu⟩ := (hmem u).1 hu
    · exact ⟨u, List.mem_filter.2 ⟨hu, hKu⟩, rfl⟩
    · exact ⟨t, List.mem_filter.2 ⟨ht, hK ▸ hKu⟩, rfl⟩
  have hlatest : ∀ u v, latestOf (w.journal.filter K) = some u → v ∈ w'.journal.filter K →
      v.updatedAt = u.updatedAt → latestOf (w'.journal.filter K) = some v := by
    intro u v hu hv hstamp
    refine latestOf_eq_some (fun x hx heq => ?_) hv fun x hx => ?_
    · exact hw'.eq_of_stamp (List.mem_filter.1 hx).1 (List.mem_filter.1 hv).1 heq
    · obtain ⟨y, hy, hyx⟩ := hback x hx
      rw [hstamp, ← hyx]
      exact le_latestOf hu y hy
  refine ⟨fun u hu => ?_, fun hnone => ?_⟩
  · obtain ⟨huj, hKu⟩ := List.mem_filter.1 (latestOf_mem hu)
    by_cases hut : u = t
    · subst hut
      exact ⟨_, hlatest u _ hu ((hmem _).2 ⟨.inr rfl, hK.trans hKu⟩) rfl, .inl ⟨rfl, rfl⟩⟩
    · have hid : u.id ≠ t.id := fun h => hut (List.inj_on_of_nodup_map hw.nodup huj ht h)
      exact ⟨u, hlatest u u hu ((hmem u).2 ⟨.inl ⟨huj, hid⟩, hKu⟩) rfl, .inr ⟨hut, rfl⟩⟩
  · rw [latestOf_eq_none] at hnone ⊢
    refine List.eq_nil_iff_forall_not_mem.2 fun u hu => ?_
    obtain ⟨v, hv, -⟩ := hback u hu
    rw [hnone] at hv
    exact absurd hv List.not_mem_nil

/-! ## The checks of a repair -/

variable [DecidableEq D]

namespace RepairProg

/-- What both checks do with the record they select. -/
def useMark (refusal : String) : Option (Transaction D) → RepairProg D Bool
  | none => pure false
  | some t => do
    consumeRetry t refusal
    pure true

omit [DecidableEq D] in
theorem authorizeUnfingerprintedRetry_eq (identity : SourceIdentity) :
    (authorizeUnfingerprintedRetry identity : RepairProg D Bool) = transactions.bind fun ts =>
      useMark "source preflight failures require explicit operator retry"
        (latestOf (blocked (unfingerprinted identity ts))) := by
  rw [authorizeUnfingerprintedRetry, Prog.bind_eq]
  refine congrArg (Prog.bind transactions) (funext fun ts => ?_)
  change _ = useMark _ (latestOf ((unfingerprinted identity ts).filter _))
  dsimp only
  cases latestOf ((unfingerprinted identity ts).filter fun t => t.phase = .manualInterventionRequired) <;>
    rfl

omit [DecidableEq D] in
theorem authorizeRetry_eq (same : List (Transaction D)) :
    authorizeRetry same = useMark
      "this authoritative .dat fingerprint requires explicit operator retry"
      (latestOf (blocked same)) := by
  change _ = useMark _ (latestOf (same.filter _))
  rw [authorizeRetry]
  cases latestOf (same.filter fun t => t.phase = .manualInterventionRequired) <;> rfl

/-- `_repair_one` up to the end of its checks against the journal: the source it found, the
transactions of this source, and whether an authorization was used. -/
def admission (cfg : Config) (args : RepairArgs) :
    RepairProg D (Base × SourceFingerprint D × List (Transaction D) × Bool) := do
  let base ← Prog.orRaise (.repair "unsafe collection-derived volume filename")
    (safeBaseName args.collection args.volumeId)
  let identity := sourceIdentity cfg args.activeTransport base
  let unfingerprintedRetry ← authorizeUnfingerprintedRetry identity
  let fingerprint ← preflightFingerprint base identity unfingerprintedRetry
  let (same, authorized) ← admitSource fingerprint
  pure (base, fingerprint, same, authorized)

/-- `_repair_one` after its checks against the journal. -/
def repairAdmitted (cfg : Config) (args : RepairArgs) (fuel : Nat) (allowIdentical : Bool)
    (admitted : Base × SourceFingerprint D × List (Transaction D) × Bool) : RepairProg D Unit := do
  let (base, fingerprint, same, authorized) := admitted
  let identity := sourceIdentity cfg args.activeTransport base
  closeStale args.volumeId fingerprint
  let (oldIdx, oldSdx) ← liveArtifacts base identity fingerprint (attemptsOf same + 1) authorized
  let next ← resumeOrCreate base identity fingerprint same oldIdx oldSdx authorized
  match next with
  | none => pure ()
  | some t =>
    buildAndInstall cfg identity t fingerprint oldIdx allowIdentical (repairOne cfg args fuel true)

theorem repairOne_eq (cfg : Config) (args : RepairArgs) (fuel : Nat) (allowIdentical : Bool) :
    (repairOne cfg args (fuel + 1) allowIdentical : RepairProg D Unit) =
      (admission cfg args).bind (repairAdmitted cfg args fuel allowIdentical) := by
  simp only [repairOne, admission, Prog.bind_eq, Prog.bind_assoc, Prog.pure_eq, Prog.ret_bind]
  rfl

end RepairProg

/-- The two refusals for lack of an authorization. -/
def refusals : List String :=
  ["source preflight failures require explicit operator retry",
    "this authoritative .dat fingerprint requires explicit operator retry"]

/-- The exception is one of them. -/
def RepairExc.Refuses : RepairExc D → Prop
  | .manual message => message ∈ refusals
  | _ => False

/-- The run was ended by one of them. -/
def Refused {α : Type} (outcome : Outcome (RepairExc D) α) : Prop :=
  ∃ e : RepairExc D, outcome = .raised e ∧ e.Refuses

instance (e : RepairExc D) : Decidable e.Refuses :=
  match e with
  | .manual message => inferInstanceAs (Decidable (message ∈ refusals))
  | .os | .lookup | .repair _ | .journal _ | .unsafeCandidate _ _ | .recursion => .isFalse id

instance {α : Type} (outcome : Outcome (RepairExc D) α) : Decidable (Refused outcome) :=
  match outcome with
  | .raised e => decidable_of_iff e.Refuses
      ⟨fun h => ⟨e, rfl, h⟩, fun ⟨_, he, h⟩ => Outcome.raised.inj he ▸ h⟩
  | .ok _ => .isFalse fun ⟨_, he, _⟩ => absurd he (by simp)
  | .crashed => .isFalse fun ⟨_, he, _⟩ => absurd he (by simp)

/-- The helper reports this fingerprint. -/
def Finds (raw : RawFingerprint D) (c : RepairChoice D) : Prop :=
  ∃ payload, c.helper = .output 0 payload ∧ payload.success = true ∧
    payload.sourceFingerprintBefore = some raw

/-- Every record that may be selected is marked. -/
def AllMarked (latest : Option (Transaction D)) : Prop :=
  ∀ t, latest = some t → t.retryAuthorized = true

section

variable {sha256 : Bytes → D} {raw : RawFingerprint D} {reliable : Bool} {P : World D → Prop}

/-- Requests in an environment that reports the fingerprint, and has no other faults when it is
reliable. -/
def findingExec (sha256 : Bytes → D) (raw : RawFingerprint D) (reliable : Bool) :=
  within (fun c => Finds raw c ∧ (reliable = true → c.fault = .none)) (repairExec sha256)

/-- An exception that is the environment's. -/
def Faulty (reliable : Bool) (e : RepairExc D) : Prop :=
  ¬ e.Refuses ∧ reliable = false

theorem transactions_finding :
    Hoare (findingExec sha256 raw reliable) P transactions (fun ts w => P w ∧ ts = w.journal)
      fun e _ => Faulty reliable e := by
  refine Discipline.Triple.bind (M := fun answer w => P w ∧ (∀ ts, answer = some ts → ts = w.journal) ∧
    (answer = none → reliable = false)) (Hoare.ask fun c w hw => ⟨hw, fun ts h => ?_, fun h => ?_⟩)
    fun answer => Discipline.Triple.orRaise ?_ ?_
  · have hload : (repairExec sha256 .load c.1 w).1 = some ts := h
    exact repairExec_load hload
  · cases reliable with
    | false => rfl
    | true =>
        have hfault := c.2.2 rfl
        simp [findingExec, within, repairExec, hfault] at h
  · exact fun hnone w _ hw => ⟨id, hw.2.2 hnone⟩
  · exact fun ts hts w _ hw => ⟨hw.1, hw.2.1 ts hts⟩

/-- A save happens, or the environment is not reliable. -/
theorem save_finding {kind : SaveKind} {t : Transaction D} {Q : World D → Prop}
    (h : ∀ w, P w → Q (w.saveRecord kind t)) :
    Hoare (findingExec sha256 raw reliable) P (must (trySave kind t)) (fun _ => Q)
      fun e _ => Faulty reliable e := by
  refine Discipline.Triple.bind (M := fun saved w => (saved = true → Q w) ∧
    (saved = false → reliable = false)) (Hoare.ask fun c w hw => ?_) fun saved => ?_
  · rcases hfault : c.1.fault with _ | _ | _
    · simp only [findingExec, within, repairExec, attempted, hfault]
      exact ⟨fun _ => h w hw, fun hfalse => absurd hfalse (by simp)⟩
    · refine ⟨fun hsaved => ?_, fun _ => ?_⟩
      · simp [findingExec, within, repairExec, attempted, hfault] at hsaved
      · cases reliable with
        | false => rfl
        | true => exact absurd (hfault.symm.trans (c.2.2 rfl)) (by simp)
    · refine ⟨fun hsaved => ?_, fun _ => ?_⟩
      · simp [findingExec, within, repairExec, attempted, hfault] at hsaved
      · cases reliable with
        | false => rfl
        | true => exact absurd (hfault.symm.trans (c.2.2 rfl)) (by simp)
  · refine Discipline.Triple.raiseIf (fun hbad w _ hw => ⟨id, ?_⟩) fun hgood w _ hw => ?_
    · exact hw.2 (by simpa using hbad)
    · exact hw.1 (by simpa using hgood)

/-- One check: the selected record, if there is one, has to be marked, and loses its mark. -/
theorem useMark_finding {latest : Option (Transaction D)} {refusal : String} (hr : refusal ∈ refusals)
    {Q : World D → Prop} (hP : ∀ w, P w → Q w)
    (hQ : ∀ t w, latest = some t → P w →
      Q (w.saveRecord .consume { t with operatorRetryConsumed := true })) :
    Hoare (findingExec sha256 raw reliable) P (useMark refusal latest)
      (fun used w => Q w ∧ AllMarked latest ∧ used = latest.isSome)
      fun e _ => e.Refuses ∧ ¬ AllMarked latest ∨ Faulty reliable e := by
  cases latest with
  | none => exact Discipline.Triple.ret fun w _ hw => ⟨hP w hw, fun t ht => absurd ht (by simp), rfl⟩
  | some t =>
      refine Discipline.Triple.bind (M := fun _ w => Q w ∧ AllMarked (some t)) ?_ fun _ =>
        Discipline.Triple.ret fun w _ hw => ⟨hw.1, hw.2, rfl⟩
      refine Discipline.Triple.bind (M := fun _ w => t.retryAuthorized = true ∧ P w)
        (Discipline.Triple.raiseIf (fun hbad w _ hw => .inl ⟨hr, fun hall => ?_⟩)
          fun hgood w _ hw => ⟨by simpa using hgood, hw⟩)
        fun _ => Discipline.Triple.assume fun hmarked => ?_
      · rw [hall t rfl] at hbad
        exact absurd hbad (by simp)
      · refine Discipline.Triple.mono (save_finding (Q := Q) fun w hw => hQ t w rfl hw)
          (fun _ _ h => h) (fun _ w _ hw => ⟨hw, fun u hu => ?_⟩) fun _ _ _ he => .inr he
        exact Option.some.inj hu ▸ hmarked

/-- The preflight finds the fingerprint that the helper reports. -/
theorem preflight_finding (base : Base) (identity : SourceIdentity) (retryAuthorized : Bool) :
    Hoare (findingExec sha256 raw reliable) P (preflightFingerprint base identity retryAuthorized)
      (fun fingerprint w => fingerprint = .known identity raw ∧ P w) fun _ _ => False := by
  refine Discipline.Triple.bind (M := fun outcome w => outcome = .ok raw ∧ P w)
    (Discipline.Triple.attempt ?_) ?_
  · refine Discipline.Triple.bind (M := fun payload w =>
      payload.sourceFingerprintBefore = some raw ∧ P w) ?_ fun payload => ?_
    · refine Discipline.Triple.bind (M := fun (process : HelperProcess D) w => (∃ payload, process = .output 0 payload ∧
        payload.success = true ∧ payload.sourceFingerprintBefore = some raw) ∧ P w)
        (Hoare.ask fun c w hw => ⟨c.2.1, hw⟩) fun process => Discipline.Triple.assume ?_
      rintro ⟨payload, rfl, hsuccess, hraw⟩
      simp only [helperPayload, hsuccess]
      exact Discipline.Triple.ret fun w _ hw => ⟨hraw, hw⟩
    · refine Discipline.Triple.orRaise (fun hnone w _ hw => ?_) fun found hfound w _ hw => ?_
      · exact absurd (hnone.symm.trans hw.1) (by simp)
      · exact ⟨by rw [Option.some.inj (hfound.symm.trans hw.1)], hw.2⟩
  · intro outcome
    refine Discipline.Triple.assume ?_
    rintro rfl
    exact Discipline.Triple.ret fun w _ hw => ⟨rfl, hw⟩

theorem refuseExhausted_finding (same : List (Transaction D)) {Q : Unit → World D → Prop} :
    Hoare (findingExec sha256 raw reliable) P (refuseExhausted same) Q
      fun e _ => ¬ e.Refuses := by
  have hmanual : ∀ t : Transaction D, ∀ reason, Hoare (findingExec sha256 raw reliable)
      (fun _ => True) (manual t reason) (fun _ _ => True) fun e _ => ¬ e.Refuses := by
    intro t reason
    refine Discipline.Triple.bind (M := fun _ _ => True) ?_ fun _ => Discipline.Triple.ret fun _ _ _ => trivial
    refine Discipline.Triple.bind (M := fun _ _ => True) (Hoare.ask fun _ _ _ => trivial) fun at_ => ?_
    refine Discipline.Triple.bind (M := fun _ _ => True) ?_ fun _ => Discipline.Triple.ret fun _ _ _ => trivial
    exact Discipline.Triple.mono (save_finding (Q := fun _ => True) fun _ _ => trivial)
      (fun _ _ _ => trivial) (fun _ _ _ _ => trivial) fun _ _ _ he => he.1
  refine Discipline.Triple.bind (M := fun _ _ => True) (Discipline.Triple.pre
    (Discipline.Triple.forEach (I := fun _ _ => True) (fun t _ => hmanual t _) _) fun _ _ _ => trivial)
    fun _ => Discipline.Triple.raise fun _ _ _ => ?_
  simp [RepairExc.Refuses, refusals]

/-- Saving a record of another source leaves the records of this one alone. -/
theorem sameSource_saveTransaction {fingerprint : SourceFingerprint D} {ts : List (Transaction D)}
    {t : Transaction D} (ht : t.sourceFingerprint ≠ fingerprint)
    (hts : ∀ u ∈ ts, u.id = t.id → u.sourceFingerprint ≠ fingerprint) :
    sameSource fingerprint (saveTransaction ts t) = sameSource fingerprint ts := by
  have hold : ∀ u ∈ ts, (decide (u.sourceFingerprint = fingerprint) && decide (u.id ≠ t.id)) =
      decide (u.sourceFingerprint = fingerprint) := by
    intro u hu
    by_cases hid : u.id = t.id
    · simp [hts u hu hid]
    · simp [hid]
  simp only [sameSource, saveTransaction, List.filter_append, List.filter_filter]
  rw [List.filter_congr hold]
  simp [ht]

/-- The check before the preflight. It touches no record of a known source. -/
theorem authorizeUnfingerprinted_finding {w : World D} (hw : StampInv w) (identity : SourceIdentity) :
    Hoare (findingExec sha256 raw reliable) (fun s => s = w) (authorizeUnfingerprintedRetry identity)
      (fun _ s => AllMarked (latestOf (blocked (unfingerprinted identity w.journal))) ∧
        sameSource (.known identity raw) s.journal = sameSource (.known identity raw) w.journal)
      fun e _ => e.Refuses ∧ ¬ AllMarked (latestOf (blocked (unfingerprinted identity w.journal))) ∨
        Faulty reliable e := by
  rw [authorizeUnfingerprintedRetry_eq]
  refine Discipline.Triple.bind (M := fun ts s => ts = w.journal ∧ s = w) ?_ fun ts =>
    Discipline.Triple.assume ?_
  · refine Discipline.Triple.mono transactions_finding (fun _ _ h => h) ?_ fun _ _ _ he => .inr he
    rintro ts _ - ⟨rfl, rfl⟩
    exact ⟨rfl, rfl⟩
  · rintro rfl
    refine Discipline.Triple.post (useMark_finding (by simp [refusals])
      (Q := fun s => sameSource (.known identity raw) s.journal =
        sameSource (.known identity raw) w.journal) ?_ ?_) (fun _ _ _ h => ⟨h.2.1, h.1⟩)
    · rintro _ rfl
      rfl
    · rintro t _ ht rfl
      -- a record without a fingerprint has another source
      have hmem := (List.mem_filter.1 (latestOf_mem ht)).1
      simp only [unfingerprinted, List.mem_filter, decide_eq_true_eq] at hmem
      obtain ⟨htj, -, hflag⟩ := hmem
      have hsource := (hw.journal t htj).1.unavailable hflag
      refine sameSource_saveTransaction (by simp [hsource]) fun u hu hid => ?_
      rw [List.inj_on_of_nodup_map hw.nodup hu htj hid, hsource]
      simp

/-- The check after the preflight. -/
theorem admitSource_finding {same : List (Transaction D)} {fingerprint : SourceFingerprint D}
    (hverified : ∀ t ∈ same, t.phase ≠ .verified) :
    Hoare (findingExec sha256 raw reliable) (fun s => sameSource fingerprint s.journal = same)
      (admitSource fingerprint) (fun _ _ => AllMarked (latestOf (blocked same)))
      fun e _ => e.Refuses ∧ ¬ AllMarked (latestOf (blocked same)) ∨ Faulty reliable e ∨
        ¬ e.Refuses ∧ AllMarked (latestOf (blocked same)) := by
  refine Discipline.Triple.bind (M := fun ts _ => sameSource fingerprint ts = same ∧ True) ?_ fun ts =>
    Discipline.Triple.assume ?_
  · refine Discipline.Triple.mono transactions_finding (fun _ _ h => h) ?_ fun _ _ _ he => .inr (.inl he)
    rintro ts s - ⟨hs, rfl⟩
    exact ⟨hs, trivial⟩
  · rintro rfl
    refine Discipline.Triple.bind (M := fun _ _ => True) (Discipline.Triple.raiseIf ?_ fun _ _ _ _ => trivial)
      fun _ => ?_
    · rintro ⟨t, ht, hphase⟩
      exact absurd hphase (hverified t ht)
    · refine Discipline.Triple.bind (M := fun _ _ => AllMarked (latestOf (blocked
        (sameSource fingerprint ts))) ∧ True) ?_ fun authorized => Discipline.Triple.assume fun hmarked => ?_
      · rw [authorizeRetry_eq]
        refine Discipline.Triple.mono (useMark_finding (by simp [refusals]) (Q := fun _ => True)
          (fun _ _ => trivial) fun _ _ _ _ => trivial) (fun _ _ h => h)
          (fun _ _ _ h => ⟨h.2.1, trivial⟩) ?_
        rintro e s - (h | h)
        · exact .inl h
        · exact .inr (.inl h)
      · refine Discipline.Triple.bind (M := fun _ _ => True) (Discipline.Triple.when (fun _ => ?_)
          fun _ _ _ _ => trivial) fun _ => Discipline.Triple.ret fun _ _ _ => hmarked
        exact Discipline.Triple.mono (refuseExhausted_finding _) (fun _ _ h => h) (fun _ _ _ h => h)
          fun _ _ _ he => .inr (.inr ⟨he, hmarked⟩)

/-- The checks of a repair in a volume where no record of the source is verified: they pass when both
selected records are marked, and an exception that is not the environment's refuses the repair when
they are not. -/
theorem admission_finding {cfg : Config} {args : RepairArgs} {base : Base}
    (hbase : safeBaseName args.collection args.volumeId = some base) {w : World D} (hw : StampInv w)
    (hverified : ∀ t ∈ w.journal, t.sourceFingerprint =
      .known (sourceIdentity cfg args.activeTransport base) raw → t.phase ≠ .verified) :
    let identity := sourceIdentity cfg args.activeTransport base
    let marked := AllMarked (latestOf (blocked (unfingerprinted identity w.journal))) ∧
      AllMarked (latestOf (blocked (sameSource (.known identity raw) w.journal)))
    Hoare (findingExec sha256 raw reliable) (fun s => s = w) (admission cfg args)
      (fun _ _ => marked)
      fun e _ => (e.Refuses → ¬ marked) ∧ (reliable = true → ¬ marked → e.Refuses) := by
  intro identity marked
  have hfaulty : ∀ e : RepairExc D, Faulty reliable e →
      (e.Refuses → ¬ marked) ∧ (reliable = true → ¬ marked → e.Refuses) := by
    intro e he
    refine ⟨fun h => absurd h he.1, fun h => ?_⟩
    rw [he.2] at h
    exact absurd h (by simp)
  have hsame : ∀ t ∈ sameSource (.known identity raw) w.journal, t.phase ≠ .verified := by
    intro t ht
    simp only [sameSource, List.mem_filter, decide_eq_true_eq] at ht
    exact hverified t ht.1 ht.2
  rw [admission, hbase]
  change Hoare _ _ ((authorizeUnfingerprintedRetry identity).bind _) _ _
  -- the first gate: records of the volume that have no fingerprint
  refine Discipline.Triple.bind (Discipline.Triple.mono (authorizeUnfingerprinted_finding hw identity)
    (fun _ _ h => h) (fun _ _ _ h => h) ?_) fun used => Discipline.Triple.assume fun hfirst => ?_
  · rintro e s - (⟨hr, hnot⟩ | he)
    · exact ⟨fun _ hm => hnot hm.1, fun _ _ => hr⟩
    · exact hfaulty e he
  · refine Discipline.Triple.bind (Discipline.Triple.mono (preflight_finding base identity used)
      (fun _ _ h => h) (fun _ _ _ h => h) fun _ _ _ (h : False) => h.elim) fun fingerprint =>
      Discipline.Triple.assume ?_
    rintro rfl
    -- the second gate: records of exactly this source
    refine Discipline.Triple.bind (Discipline.Triple.mono (admitSource_finding hsame)
      (fun _ _ h => h) (fun _ _ _ h => h) ?_) fun result => Discipline.Triple.ret fun _ _ h => ⟨hfirst, h⟩
    rintro e s - (⟨hr, hnot⟩ | he | ⟨hn, hm⟩)
    · exact ⟨fun _ hm => hnot hm.2, fun _ _ => hr⟩
    · exact hfaulty e he
    · exact ⟨fun h => absurd h hn, fun _ hnot => absurd ⟨hfirst, hm⟩ hnot⟩

end

/-! ## After a request -/

omit [DecidableEq D] in
/-- The record that is selected after a request is marked when it was the latest blocked one of the
volume, or was marked before. -/
theorem allMarked_after_retry {w w' : World D} (hw : StampInv w) (hw' : StampInv w')
    (hretry : requestRetry w = some w') {K : Transaction D → Bool}
    (hK : ∀ t at_, K (withRequest t at_) = K t) :
    AllMarked (latestOf (w'.journal.filter K)) ↔ ∀ t, latestOf (w.journal.filter K) = some t →
      latestOf (blocked w.journal) = some t ∨ t.retryAuthorized = true := by
  obtain ⟨l, hl, hjournal⟩ := requestRetry_eq_some hretry
  have hlj := (List.mem_filter.1 (latestOf_mem hl)).1
  obtain ⟨hsome, hnone⟩ := latestOf_after_retry hw hw' hlj hjournal (hK l _)
  constructor
  · intro h t ht
    obtain ⟨v, hv, ⟨rfl, -⟩ | ⟨-, rfl⟩⟩ := hsome t ht
    · exact .inl hl
    · exact .inr (h v hv)
  · intro h v hv
    cases hlatest : latestOf (w.journal.filter K) with
    | none => exact absurd ((hnone hlatest).symm.trans hv) (by simp)
    | some t =>
        obtain ⟨v', hv', hcases⟩ := hsome t hlatest
        obtain rfl := Option.some.inj (hv'.symm.trans hv)
        rcases hcases with ⟨-, rfl⟩ | ⟨hne, rfl⟩
        · rfl
        · rcases h v' hlatest with hlv | hmarked
          · exact absurd (Option.some.inj (hlv.symm.trans hl)) hne
          · exact hmarked

/-- The records that the checks of the next repair select are the one that the request marks, or carry
a mark already. -/
def RequestReaches (w : World D) (identity : SourceIdentity) (raw : RawFingerprint D) : Prop :=
  ∀ t, latestOf (blocked (unfingerprinted identity w.journal)) = some t ∨
      latestOf (blocked (sameSource (.known identity raw) w.journal)) = some t →
    latestOf (blocked w.journal) = some t ∨ t.retryAuthorized = true

/-- After `request_retry`, no environment in which the next repair finds the fingerprint gets it refused
for lack of an authorization, exactly when the request reaches the records that the repair looks at. -/
theorem retry_effective_iff (sha256 : Bytes → D) (files : Int → Path → Option Node)
    (x : Int → Running (RepairReq D) RepairReq.Ans (RepairExc D) (World D))
    (hx : ControllerReachable sha256 False False files x) (cfg : Config) (args : RepairArgs)
    (base : Base) (hbase : safeBaseName args.collection args.volumeId = some base) (w' : World D)
    (hretry : requestRetry (x args.volumeId).state = some w') (raw : RawFingerprint D)
    (hverified : ∀ t ∈ w'.journal, t.sourceFingerprint =
      .known (sourceIdentity cfg args.activeTransport base) raw → t.phase ≠ .verified) :
    (∀ cs, (∀ c ∈ cs, Finds raw c) →
        ¬ Refused ((admission cfg args).run (repairExec sha256) cs w').1) ↔
      RequestReaches (x args.volumeId).state (sourceIdentity cfg args.activeTransport base) raw := by
  let identity := sourceIdentity cfg args.activeTransport base
  have hreach := Family.component hx args.volumeId
  have hw : StampInv (x args.volumeId).state := stampInv_of_reachable hreach
  have hw' : StampInv w' := stampInv_of_reachable (x := ⟨w', (x args.volumeId).thread⟩)
    (hreach.disturbed (requestRetry_steps hretry))
  -- the request marks the latest blocked record, and the admission looks at the latest of each kind
  have hmarked : (AllMarked (latestOf (blocked (unfingerprinted identity w'.journal))) ∧
      AllMarked (latestOf (blocked (sameSource (.known identity raw) w'.journal)))) ↔
      RequestReaches (x args.volumeId).state identity raw := by
    simp only [blocked, unfingerprinted, sameSource, List.filter_filter, RequestReaches]
    rw [allMarked_after_retry hw hw' hretry fun _ _ => rfl,
      allMarked_after_retry hw hw' hretry fun _ _ => rfl]
    simp only [blocked, or_imp, forall_and]
  rw [← hmarked]
  constructor
  · intro hnot
    by_contra hbad
    -- without other faults, the repair ends, and it cannot pass the checks
    let good : { c : RepairChoice D // Finds raw c ∧ (true = true → c.fault = .none) } :=
      ⟨{ helper := .output 0 { sourceFingerprintBefore := some raw } }, ⟨_, rfl, rfl, rfl⟩, fun _ => rfl⟩
    have hraises : Hoare (findingExec sha256 raw true) (fun s => s = w') (admission cfg args)
        (fun _ _ => False) fun e _ => e.Refuses :=
      Discipline.Triple.mono (admission_finding hbase hw' hverified) (fun _ _ h => h)
        (fun _ _ _ h => absurd h hbad) fun _ _ _ he => he.2 rfl hbad
    obtain ⟨n, e, s, hrun, he⟩ := hraises.exists_raised rfl fun _ => good
    rw [findingExec, run_within] at hrun
    refine hnot _ (fun c hc => ?_) ⟨e, congrArg Prod.fst hrun, he⟩
    obtain ⟨d, -, rfl⟩ := List.mem_map.1 hc
    exact d.2.1
  · intro hall cs hcs hrefused
    obtain ⟨e, he, hrefuses⟩ := hrefused
    obtain ⟨s, hs⟩ := exists_state_of_outcome he
    -- with other faults too: what refuses is an unmarked record, and there is none
    have hchecks : Hoare (findingExec sha256 raw false) (fun s => s = w') (admission cfg args) _
        fun e _ => (e.Refuses → ¬ _) ∧ _ := admission_finding hbase hw' hverified
    exact (hchecks.of_within rfl (fun c hc => ⟨hcs c hc, by simp⟩) hs).1 hrefuses hall

/-! A volume without an index. Its source cannot be read twice; the operator's request then leads to a
repair that finds the source, and that the missing index blocks. -/

namespace RetrySample

/-- Two repairs whose preflight times out: the second one is blocked. -/
def unreadable : World Bytes :=
  Sample.repair.after (repairExec id) (List.replicate 10 {})
    (Sample.repair.after (repairExec id) (List.replicate 10 {}) { files := fun _ => none })

/-- An operator requests a retry. -/
def requestedOnce : World Bytes := (requestRetry unreadable).getD unreadable

/-- The repair finds the source, and no live index. -/
def structural : World Bytes :=
  Sample.repair.after (repairExec id) (List.replicate 20 Sample.choice) requestedOnce

def requestedAgain : World Bytes := (requestRetry structural).getD structural

theorem requestRetry_getD {w : World Bytes} (h : (requestRetry w).isSome = true) :
    requestRetry w = some ((requestRetry w).getD w) := by
  obtain ⟨w', hw'⟩ := Option.isSome_iff_exists.1 h
  rw [hw', Option.getD_some]

theorem unreadable_reachable :
    (volumeMachine id False False 1).Reachable { files := fun _ => none } ⟨unreadable, none⟩ :=
  Sample.cut_off (Sample.cut_off .refl False.elim _) False.elim _

theorem requestedOnce_eq : requestRetry unreadable = some requestedOnce :=
  requestRetry_getD (by decide +kernel)

theorem requestedAgain_eq : requestRetry structural = some requestedAgain :=
  requestRetry_getD (by decide +kernel)

theorem structural_reachable :
    (volumeMachine id False False 1).Reachable { files := fun _ => none } ⟨structural, none⟩ :=
  Sample.cut_off (unreadable_reachable.disturbed (requestRetry_steps requestedOnce_eq)) False.elim _

end RetrySample

/-- The request marks the structural failure, and the repair looks at the unreadable source. -/
theorem retry_has_no_effect :
    ∃ x w', ControllerReachable id False False (fun _ _ => none) x ∧
      requestRetry (x 1).state = some w' ∧
      (∀ t ∈ w'.journal, t.phase ≠ .verified) ∧
      Refused (Sample.repair.run (repairExec id) (List.replicate 20 Sample.choice) w').1 :=
  ⟨_, RetrySample.requestedAgain, Sample.controller_reachable RetrySample.structural_reachable,
    RetrySample.requestedAgain_eq, by decide +kernel, by decide +kernel⟩

/-- The first request is effective. -/
theorem retry_effective_iff_unreadable :
    ∃ x w', ControllerReachable id False False (fun _ _ => none) x ∧
      requestRetry (x 1).state = some w' ∧
      ∀ cs, (∀ c ∈ cs, Finds Sample.fingerprint c) →
        ¬ Refused ((admission Sample.config ⟨"", 1, ""⟩).run (repairExec id) cs w').1 := by
  refine ⟨_, RetrySample.requestedOnce, Sample.controller_reachable RetrySample.unreadable_reachable,
    RetrySample.requestedOnce_eq, ?_⟩
  refine (retry_effective_iff id (fun _ _ => none) _
    (Sample.controller_reachable RetrySample.unreadable_reachable) Sample.config ⟨"", 1, ""⟩
    Sample.base (by decide) _ RetrySample.requestedOnce_eq Sample.fingerprint (by decide +kernel)).2 ?_
  have hlatest : latestOf (blocked (sameSource (.known ⟨"", "", "", 1⟩ Sample.fingerprint)
      RetrySample.unreadable.journal)) = none := by decide +kernel
  have hsame : latestOf (blocked (unfingerprinted ⟨"", "", "", 1⟩ RetrySample.unreadable.journal)) =
      latestOf (blocked RetrySample.unreadable.journal) := by decide +kernel
  rintro t (ht | ht)
  · exact .inl (hsame.symm.trans ht)
  · exact absurd (hlatest.symm.trans ht) (by simp)

end StorageNode.IndexRepair
