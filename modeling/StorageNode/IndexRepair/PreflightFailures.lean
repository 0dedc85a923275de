import StorageNode.IndexRepair.OperatorRetry

/-!
# Failed preflights

`_authorize_unfingerprinted_retry` refuses a repair when the journal holds a blocked record without a
fingerprint. Such a record is written when a source preflight fails, with an attempt count one above
those of the earlier records of its source, and it is blocked at the second attempt. `countedMachine`
is the controller with a count of the failed preflights of every source; `counted_iff` says that the
count changes nothing about the runs.

The attempt count of a record without a fingerprint never exceeds the number of failed preflights of
its source (`Charged`), and the record is blocked only when the attempts are used up, with one
exception. The sweep of `_repair_one` blocks every open transaction of the volume whose fingerprint
differs from the one that the preflight found, and a record without a fingerprint always differs. A
preflight that succeeds after one that failed therefore blocks the source (`swept_after_one_failure`).
-/

set_option autoImplicit false

namespace StorageNode.IndexRepair

open StorageNode.Program StorageNode.IndexHelper RepairProg

variable {D : Type}

/-! ## Counting -/

/-- The fingerprint that a preflight process reports, if it succeeds. -/
def HelperProcess.fingerprint : HelperProcess D → Option (RawFingerprint D)
  | .output returncode payload =>
    if returncode ≠ 0 ∨ payload.success = false then none else payload.sourceFingerprintBefore
  | _ => none

/-- A volume, the source that its repair works on, and the sources of all preflights that failed. -/
structure Counted (D : Type) where
  world : World D
  source : SourceIdentity
  failures : List SourceIdentity := []

/-- What a request adds to the failed preflights. -/
def newFailures (source : SourceIdentity) : RepairReq D → RepairChoice D → List SourceIdentity
  | .preflight, c => if c.helper.fingerprint.isNone then [source] else []
  | _, _ => []

section

variable [DecidableEq D]

/-- The effect of a request, counted. -/
def countedExec (sha256 : Bytes → D) (r : RepairReq D) (c : RepairChoice D) (s : Counted D) :
    r.Ans × Counted D :=
  ((repairExec sha256 r c s.world).1,
    { s with
      world := (repairExec sha256 r c s.world).2
      failures := newFailures s.source r c ++ s.failures })

/-- The controller on one volume, counted. Between two operations the source of the next repair is
chosen. -/
def countedMachine (sha256 : Bytes → D) (volumeId : Int) :
    Machine (RepairReq D) RepairReq.Ans (RepairExc D) (Counted D) (RepairChoice D) where
  exec := countedExec sha256
  start s p := Upkeep p ∨ ∃ cfg args fuel, args.volumeId = volumeId ∧
    s.source = sourceIdentity cfg args.activeTransport ⟨args.collection, args.volumeId⟩ ∧
    p = repairOne cfg args fuel false
  stop _ := True
  meanwhile s s' := OperatorStep s.world s'.world ∧ s'.source = s.source ∧ s'.failures = s.failures
  idle s s' := (s'.world = s.world ∨ OutsideWrite s.world s'.world) ∧ s'.failures = s.failures

/-- A volume with an empty journal, before its first repair. -/
def Counted.initial (volumeId : Int) (files : Path → Option Node) : Counted D where
  world := { files := files }
  source := ⟨"", "", "", volumeId⟩

/-- The states that the controller reaches, with the failed preflights of every volume. -/
def CountedReachable (sha256 : Bytes → D) (files : Int → Path → Option Node)
    (x : Int → Running (RepairReq D) RepairReq.Ans (RepairExc D) (Counted D)) : Prop :=
  Family.Reachable (countedMachine sha256) (fun volumeId => .initial volumeId (files volumeId)) x

variable {sha256 : Bytes → D} {volumeId : Int} {files : Path → Option Node}

/-- A counted run, without the count. -/
theorem countedMachine_forgets {x : Running (RepairReq D) RepairReq.Ans (RepairExc D) (Counted D)}
    (hx : (countedMachine sha256 volumeId).Reachable (.initial volumeId files) x) :
    (volumeMachine sha256 False False volumeId).Reachable { files := files }
      ⟨x.state.world, x.thread⟩ := by
  induction hx with
  | refl => exact .refl
  | tail _ hstep ih =>
      cases hstep with
      | start s p hp =>
          refine ih.tail (.start s.world p ?_)
          rcases hp with hp | ⟨cfg, args, fuel, hvolume, -, rfl⟩
          · exact .inl hp
          · exact .inr ⟨.repairOne cfg args fuel hvolume, False.elim⟩
      | request s r k c => exact ih.tail (.request s.world r k c)
      | stop s p _ => exact ih.tail (.stop s.world p False.elim)
      | meanwhile s s' thread hs => exact ih.tail (.meanwhile s.world s'.world thread hs.1)
      | idle s s' hs =>
          rcases hs.1 with heq | hwrite
          · rw [heq]
            exact ih
          · exact ih.tail (.idle s.world s'.world hwrite)

/-- Every run of the controller has a count. -/
theorem countedMachine_lifts {y : Running (RepairReq D) RepairReq.Ans (RepairExc D) (World D)}
    (hy : (volumeMachine sha256 False False volumeId).Reachable { files := files } y) :
    ∃ x, (countedMachine sha256 volumeId).Reachable (.initial volumeId files) x ∧
      x.state.world = y.state ∧ x.thread = y.thread := by
  -- each step of the plain machine is one of the counted machine with the same world and thread
  induction hy with
  | refl => exact ⟨_, .refl, rfl, rfl⟩
  | tail _ hstep ih =>
      obtain ⟨⟨s, thread⟩, hx, hworld, hthread⟩ := ih
      cases hstep with
      | start w p hp =>
          obtain rfl : thread = none := hthread
          obtain rfl : s.world = w := hworld
          rcases hp with hp | ⟨⟨cfg, args, fuel, hvolume⟩, -⟩
          · exact ⟨_, hx.tail (.start s p (.inl hp)), rfl, rfl⟩
          · -- the source of the repair is chosen first
            have hchosen := hx.tail (.idle s
              ⟨s.world, sourceIdentity cfg args.activeTransport ⟨args.collection, args.volumeId⟩,
                s.failures⟩ ⟨.inl rfl, rfl⟩)
            exact ⟨_, hchosen.tail (.start _ _ (.inr ⟨cfg, args, fuel, hvolume, rfl, rfl⟩)), rfl, rfl⟩
      | request w r k c =>
          obtain rfl : thread = some (.call r k) := hthread
          obtain rfl : s.world = w := hworld
          exact ⟨_, hx.tail (.request s r k c), rfl, rfl⟩
      | stop w p _ =>
          obtain rfl : thread = some p := hthread
          exact ⟨_, hx.tail (.stop s p trivial), hworld, rfl⟩
      | meanwhile w w' q hs =>
          obtain rfl : s.world = w := hworld
          exact ⟨⟨{ s with world := w' }, thread⟩, hx.tail (.meanwhile _ _ _ ⟨hs, rfl, rfl⟩), rfl,
            hthread⟩
      | idle w w' hs =>
          obtain rfl : thread = none := hthread
          obtain rfl : s.world = w := hworld
          exact ⟨⟨{ s with world := w' }, none⟩, hx.tail (.idle _ _ ⟨.inr hs, rfl⟩), rfl, rfl⟩

/-- The count changes nothing about the runs of the controller. -/
theorem counted_iff {w : World D} {thread : Option (RepairProg D Unit)} :
    (volumeMachine sha256 False False volumeId).Reachable { files := files } ⟨w, thread⟩ ↔
      ∃ s : Counted D, s.world = w ∧
        (countedMachine sha256 volumeId).Reachable (.initial volumeId files) ⟨s, thread⟩ := by
  constructor
  · intro hy
    obtain ⟨⟨s, q⟩, hx, hworld, hthread⟩ := countedMachine_lifts hy
    obtain rfl : q = thread := hthread
    exact ⟨s, hworld, hx⟩
  · rintro ⟨s, rfl, hx⟩
    exact countedMachine_forgets hx

end

/-! ## Records without a fingerprint -/

/-- The phases of a record without a fingerprint. -/
def Phase.unopened : Phase → Bool
  | .detected | .failedPreinstall | .manualInterventionRequired | .resolvedWithoutInstall => true
  | _ => false

/-- A save by which the sweep of `_repair_one` blocks a record without a fingerprint whose attempts are
not used up. -/
def Event.ClosesEarly : Event D → Prop
  | .saved .transition t => t.fingerprintUnavailable = true ∧ t.attemptCount < preinstallRetryLimit ∧
      t.phase = .manualInterventionRequired ∧
      t.failureReason = "authoritative .dat fingerprint changed before transaction resume"
  | _ => False

instance : DecidablePred (Event.ClosesEarly (D := D))
  | .saved .transition _ => inferInstanceAs (Decidable (_ ∧ _))
  | .saved (.create _) _ | .saved .consume _ | .saved .retry _ => inferInstanceAs (Decidable False)
  | .build _ _ | .built _ _ | .truncated _ _ _ => inferInstanceAs (Decidable False)

/-- The sweep has blocked such a record. -/
def SweptEarly (w : World D) : Prop :=
  ∃ e ∈ w.log, e.ClosesEarly

instance (w : World D) : Decidable (SweptEarly w) :=
  inferInstanceAs (Decidable (∃ e ∈ w.log, e.ClosesEarly))

/-- A record without a fingerprint stands for at least as many failed preflights as its attempt count
says, and is blocked only when its attempts are used up or by an early sweep. -/
structure Charged (s : Counted D) (t : Transaction D) : Prop where
  origin : OriginOk t
  unopened : t.fingerprintUnavailable = true → t.phase.unopened = true
  counted : t.fingerprintUnavailable = true → t.attemptCount ≤ s.failures.count t.identity
  blocked : t.fingerprintUnavailable = true → t.phase = .manualInterventionRequired →
    preinstallRetryLimit ≤ t.attemptCount ∨ SweptEarly s.world

/-- The records in the journal and in the hands of operators. -/
def World.records (w : World D) : List (Transaction D) :=
  w.journal ++ w.operators

/-- Every record is charged. -/
def CountInv (s : Counted D) : Prop :=
  ∀ t ∈ s.world.records, Charged s t

/-- Nothing that was counted or saved is forgotten. -/
structure Grows (s s' : Counted D) : Prop where
  failures : ∃ more, s'.failures = more ++ s.failures
  saved : ∀ kind t, Event.saved kind t ∈ s.world.log → Event.saved kind t ∈ s'.world.log

theorem Grows.swept {s s' : Counted D} (h : Grows s s') (hs : SweptEarly s.world) :
    SweptEarly s'.world := by
  obtain ⟨e, he, hcloses⟩ := hs
  cases e with
  | saved kind t => exact ⟨_, h.saved kind t he, hcloses⟩
  | build _ _ => exact hcloses.elim
  | built _ _ => exact hcloses.elim
  | truncated _ _ _ => exact hcloses.elim

theorem Grows.count_le {s s' : Counted D} (h : Grows s s') (identity : SourceIdentity) :
    s.failures.count identity ≤ s'.failures.count identity := by
  obtain ⟨more, hmore⟩ := h.failures
  rw [hmore, List.count_append]
  exact Nat.le_add_left _ _

theorem Charged.grows {s s' : Counted D} {t : Transaction D} (ht : Charged s t) (h : Grows s s') :
    Charged s' t where
  origin := ht.origin
  unopened := ht.unopened
  counted hflag := Nat.le_trans (ht.counted hflag) (h.count_le _)
  blocked hflag hphase := (ht.blocked hflag hphase).imp id h.swept

/-- Another version of a record, in a phase that is open to it. -/
theorem Charged.rephase {s : Counted D} {t u : Transaction D} (ht : Charged s t) (hu : SameOrigin t u)
    (hcount : u.attemptCount = t.attemptCount) (hphase : u.phase.unopened = true)
    (hblocked : u.phase = .manualInterventionRequired →
      preinstallRetryLimit ≤ t.attemptCount ∨ SweptEarly s.world) : Charged s u where
  origin := ht.origin.moved hu
  unopened _ := hphase
  counted hflag := by
    rw [hcount, hu.identity]
    exact ht.counted (hu.unavailable ▸ hflag)
  blocked _ hmanual := by
    rw [hcount]
    exact hblocked hmanual

/-- A record with a fingerprint. -/
theorem Charged.of_known {s : Counted D} {t : Transaction D} (horigin : OriginOk t)
    (hknown : t.fingerprintUnavailable = false) : Charged s t := by
  have hnot : ¬ t.fingerprintUnavailable = true := by simp [hknown]
  exact ⟨horigin, fun h => absurd h hnot, fun h => absurd h hnot, fun h => absurd h hnot⟩

/-- A copy of a record, with other fields of the operator. -/
theorem Charged.flagged {s : Counted D} {t u : Transaction D} (ht : Charged s t) (hu : SameOrigin t u)
    (hcount : u.attemptCount = t.attemptCount) (hphase : u.phase = t.phase) : Charged s u := by
  by_cases hflag : t.fingerprintUnavailable = true
  · refine ht.rephase hu hcount (hphase ▸ ht.unopened hflag) fun hmanual => ?_
    exact ht.blocked hflag (hphase ▸ hmanual)
  · refine .of_known (ht.origin.moved hu) ?_
    rw [hu.unavailable]
    exact Bool.eq_false_iff.2 hflag

/-! ## The discipline -/

/-- The state after a save. -/
def Counted.saved (s : Counted D) (kind : SaveKind) (t : Transaction D) : Counted D :=
  { s with world := s.world.saveRecord kind t }

theorem grows_saved (s : Counted D) (kind : SaveKind) (t : Transaction D) : Grows s (s.saved kind t) :=
  ⟨⟨[], rfl⟩, fun _ _ h => List.mem_cons_of_mem _ h⟩

theorem Grows.refl (s : Counted D) : Grows s s :=
  ⟨⟨[], rfl⟩, fun _ _ h => h⟩

theorem Grows.trans {a b c : Counted D} (hab : Grows a b) (hbc : Grows b c) : Grows a c := by
  obtain ⟨more, hmore⟩ := hab.failures
  obtain ⟨more', hmore'⟩ := hbc.failures
  refine ⟨⟨more' ++ more, ?_⟩, fun kind t h => hbc.saved kind t (hab.saved kind t h)⟩
  rw [hmore', hmore, List.append_assoc]

/-- What operators may do: they add no attempt and no source. -/
structure NoneCharged (s s' : Counted D) : Prop extends Grows s s' where
  source : s'.source = s.source
  records : ∀ t ∈ s'.world.records, ∃ u ∈ s.world.records,
    SameOrigin u t ∧ t.attemptCount = u.attemptCount

theorem NoneCharged.trans (a b c : Counted D) (hab : NoneCharged a b) (hbc : NoneCharged b c) : NoneCharged a c := by
  refine ⟨hab.toGrows.trans hbc.toGrows, hbc.source.trans hab.source, fun t ht => ?_⟩
  obtain ⟨u, hu, hut, hcount⟩ := hbc.records t ht
  obtain ⟨v, hv, hvu, hcount'⟩ := hab.records u hu
  exact ⟨v, hv, hvu.trans hut, hcount.trans hcount'⟩

theorem CountInv.saved {s : Counted D} (h : CountInv s) {kind : SaveKind} {t : Transaction D}
    (ht : Charged (s.saved kind t) t) : CountInv (s.saved kind t) := by
  intro u hu
  rcases List.mem_append.1 hu with hu | hu
  · rcases mem_saveTransaction.1 hu with ⟨hu, -⟩ | rfl
    · exact (h u (List.mem_append_left _ hu)).grows (grows_saved s kind t)
    · exact ht
  · exact (h u (List.mem_append_right _ hu)).grows (grows_saved s kind t)

section

variable [DecidableEq D] {sha256 : Bytes → D}

theorem countedExec_grows (r : RepairReq D) (c : RepairChoice D) (s : Counted D) :
    Grows s (countedExec sha256 r c s).2 := by
  refine ⟨⟨_, rfl⟩, fun kind t ht => ?_⟩
  rcases repairExec_saves sha256 r c s.world with hs | ⟨kind', v, rfl, heq⟩
  · exact (hs.saved kind t).2 ht
  · simp only [countedExec, heq]
    exact List.mem_cons_of_mem _ ht

/-- Charged records under the requests of the controller and under `request_retry` calls. -/
def countDiscipline (sha256 : Bytes → D) : Discipline (countedExec sha256) where
  inv := CountInv
  disturb := NoneCharged
  allow r s := ∀ kind t, r = .save kind t → Charged (s.saved kind t) t
  refl s := ⟨.refl s, rfl, fun t ht => ⟨t, ht, .refl t, rfl⟩⟩
  trans := NoneCharged.trans
  keeps r c s h hallow := by
    rcases repairExec_saves sha256 r c s.world with hs | ⟨kind, t, rfl, heq⟩
    · intro t ht
      refine (h t ?_).grows (countedExec_grows r c s)
      simpa only [countedExec, World.records, hs.journal, hs.operators] using ht
    · have hsaved := CountInv.saved h (hallow kind t rfl)
      simp only [countedExec, heq]
      exact hsaved

/-- The discipline of one operation, which works on one source. -/
abbrev sourceDiscipline (sha256 : Bytes → D) (source : SourceIdentity) :
    Discipline (countedExec sha256) :=
  (countDiscipline sha256).restrict (fun s => s.source = source) fun _ _ _ h => h

/-- What an operation that works on the source does to a counted volume. -/
abbrev Counts (sha256 : Bytes → D) (source : SourceIdentity) {α : Type} (P : Counted D → Prop)
    (p : RepairProg D α) (Q : α → Counted D → Prop) : Prop :=
  (sourceDiscipline sha256 source).Triple P p Q fun _ _ => True

/-- Conditions that survive every request and every operator. -/
def Lasting (P : Counted D → Prop) : Prop :=
  ∀ s s', Grows s s' → P s → P s'

omit [DecidableEq D] in
theorem Charged.lasting (t : Transaction D) : Lasting fun s => Charged s t :=
  fun _ _ h ht => ht.grows h

variable {source : SourceIdentity} {P : Counted D → Prop}

theorem Lasting.stable (hP : Lasting P) : (sourceDiscipline sha256 source).Stable P :=
  fun s s' _ _ hd h => hP s s' hd.toGrows h

theorem ask_counts (hP : Lasting P) {r : RepairReq D} (hr : r.saves = none) :
    Counts sha256 source P (Prog.ask r) fun _ => P := by
  refine Discipline.Triple.ask hP.stable (fun s _ _ kind t h => ?_) fun c s _ h _ => ?_
  · rw [h] at hr
    exact absurd hr (by simp [RepairReq.saves])
  · exact hP s _ (countedExec_grows r c s) h

theorem save_counts (hP : Lasting P) {kind : SaveKind} {t : Transaction D}
    (ht : ∀ s, P s → Charged (s.saved kind t) t) :
    Counts sha256 source P (must (trySave kind t)) fun _ => P := by
  refine Discipline.Triple.bind (M := fun _ => P) (Discipline.Triple.ask hP.stable ?_ ?_) fun saved =>
    Discipline.Triple.raiseIf (fun _ _ _ _ => trivial) fun _ _ _ h => h
  · rintro s - h _ _ ⟨rfl, rfl⟩
    exact ht s h
  · exact fun c s _ h _ => hP s _ (countedExec_grows _ c s) h

/-- A transition, under a condition on the new version of the record. -/
theorem transition_counts (hP : Lasting P) {t : Transaction D} {phase : Phase}
    (ht : ∀ s at_, P s → Charged (s.saved .transition { t with phase := phase, updatedAt := at_ })
      { t with phase := phase, updatedAt := at_ }) :
    Counts sha256 source P (transition t phase) fun u s =>
      (∃ at_, u = { t with phase := phase, updatedAt := at_ }) ∧ P s := by
  refine Discipline.Triple.bind (M := fun _ => P) (ask_counts hP rfl) fun at_ => ?_
  refine Discipline.Triple.bind (M := fun _ => P) (save_counts hP fun s => ht s at_) fun _ => ?_
  exact Discipline.Triple.ret fun _ _ h => ⟨⟨at_, rfl⟩, h⟩

theorem create_counts (hP : Lasting P) (authorized : Bool) (base : Base)
    {payload : TxId → Nat → Transaction D}
    (ht : ∀ s id at_, id.base = base → P s → Charged s (payload id at_)) :
    Counts sha256 source P (create authorized base payload) fun t s =>
      (∃ id at_, id.base = base ∧ t = payload id at_) ∧ P s := by
  refine Discipline.Triple.bind (M := fun _ => P) (ask_counts hP rfl) fun at_ => ?_
  refine Discipline.Triple.bind (M := fun id s => id.base = base ∧ P s) (Discipline.Triple.ask
    hP.stable (fun s _ _ kind t h => absurd h (by simp)) fun c s _ h _ => ?_) fun id => ?_
  · exact ⟨rfl, hP s _ (countedExec_grows _ c s) h⟩
  · refine Discipline.Triple.assume fun hid => ?_
    refine Discipline.Triple.bind (M := fun _ => P) (save_counts hP fun s h => ?_) fun _ => ?_
    · exact (ht s id at_ hid h).grows (grows_saved s _ _)
    · exact Discipline.Triple.ret fun _ _ h => ⟨⟨id, at_, hid, rfl⟩, h⟩

/-- Loaded records are charged. -/
theorem transactions_counts (hP : Lasting P) :
    Counts sha256 source P transactions fun ts s => (∀ t ∈ ts, Charged s t) ∧ P s := by
  refine Discipline.Triple.bind (M := fun answer s => (∀ ts, answer = some ts →
    ∀ t ∈ ts, Charged s t) ∧ P s) (Discipline.Triple.ask hP.stable ?_ ?_) fun answer => ?_
  · exact fun s _ _ kind t h => absurd h (by simp)
  · intro c s hs h _
    refine ⟨fun ts hts t ht => ?_, hP s _ (countedExec_grows _ c s) h⟩
    have hload : (repairExec sha256 .load c s.world).1 = some ts := hts
    rw [repairExec_load hload] at ht
    exact (hs.1 t (List.mem_append_left _ ht)).grows (countedExec_grows _ c s)
  · exact Discipline.Triple.orRaise (fun _ _ _ _ => trivial) fun ts hts s _ h => ⟨h.1 ts hts, h.2⟩

/-- Charged records stay charged. -/
theorem Counts.charged {α : Type} {p : RepairProg D α} {Q : α → Counted D → Prop}
    (h : Counts sha256 source P p Q) (ts : List (Transaction D)) :
    Counts sha256 source (fun s => P s ∧ ∀ t ∈ ts, Charged s t) p fun a s =>
      Q a s ∧ ∀ t ∈ ts, Charged s t := by
  refine Discipline.Triple.mono (Discipline.Triple.frame (K := fun _ => True)
    (F := fun s => ∀ t ∈ ts, Charged s t) ?_ ?_ h (Prog.issues_true p))
    (fun _ _ h => h) (fun _ _ _ h => h) fun _ _ _ _ => trivial
  · exact fun s s' _ _ hd h t ht => (h t ht).grows hd.toGrows
  · exact fun r c s _ _ _ h t ht => (h t ht).grows (countedExec_grows r c s)

/-- A loop over loaded records. -/
theorem forEach_counts {body : Transaction D → RepairProg D Unit}
    (hbody : ∀ t, Counts sha256 source (fun s => Charged s t) (body t) fun _ _ => True)
    (ts : List (Transaction D)) :
    Counts sha256 source (fun s => ∀ t ∈ ts, Charged s t) (Prog.forEach ts body) fun _ _ => True := by
  refine Discipline.Triple.post (Discipline.Triple.forEach
    (I := fun xs s => ∀ t ∈ xs, Charged s t) (fun x xs => ?_) ts) fun _ _ _ _ => trivial
  refine Discipline.Triple.mono (Counts.charged (hbody x) xs) (fun s _ h => ?_)
    (fun _ _ _ h => h.2) fun _ _ _ _ => trivial
  exact ⟨h x List.mem_cons_self, fun t ht => h t (List.mem_cons_of_mem _ ht)⟩

/-! ## Records with a fingerprint -/

/-- A record of a source that could be read. -/
def Known (t : Transaction D) : Prop :=
  OriginOk t ∧ t.fingerprintUnavailable = false

omit [DecidableEq D] in
theorem Known.moved {t u : Transaction D} (ht : Known t) (h : SameOrigin t u) : Known u :=
  ⟨ht.1.moved h, h.unavailable.trans ht.2⟩

omit [DecidableEq D] in
theorem Known.charged {t : Transaction D} (ht : Known t) (s : Counted D) : Charged s t :=
  .of_known ht.1 ht.2

omit [DecidableEq D] in
/-- A record with a readable source has a fingerprint. -/
theorem OriginOk.known_of_source {t : Transaction D} (ht : OriginOk t) {identity : SourceIdentity}
    {raw : RawFingerprint D} (hsource : t.sourceFingerprint = .known identity raw) : Known t := by
  refine ⟨ht, Bool.eq_false_iff.2 fun hflag => ?_⟩
  exact absurd (hsource.symm.trans (ht.unavailable hflag)) (by simp)

omit [DecidableEq D] in
/-- Only records with a fingerprint get beyond the first phases. -/
theorem Charged.known {s : Counted D} {t : Transaction D} (ht : Charged s t)
    (hphase : t.phase.unopened = false) : Known t := by
  refine ⟨ht.origin, Bool.eq_false_iff.2 fun hflag => ?_⟩
  exact absurd (hphase.symm.trans (ht.unopened hflag)) (by simp)

theorem transition_known {t : Transaction D} (ht : Known t) (phase : Phase) :
    Yields (sourceDiscipline sha256 source) (transition t phase) fun u =>
      ∃ at_, u = { t with phase := phase, updatedAt := at_ } := by
  refine Discipline.Triple.post (transition_counts (P := fun _ => True) (fun _ _ _ _ => trivial)
    fun s at_ _ => ?_) fun _ _ _ h => h.1
  exact Known.charged (ht.moved (by exact ⟨rfl, rfl, rfl, rfl⟩)) _

/-- Work on a record with a fingerprint is free. -/
theorem knownRules : InstallRules (sourceDiscipline sha256 source) Known where
  moved := Known.moved
  fresh t ht hflag := ⟨ht, hflag⟩
  quiet r s hr _ kind t h := by
    rw [h] at hr
    exact absurd hr.1 (by simp [RepairReq.saves])
  every r s hr _ kind t h := by
    rw [h] at hr
    exact absurd hr (by simp [RepairReq.saves])
  transition t phase ht _ := transition_known ht phase
  installing t ht := (transition_known ht _).post fun u ⟨_, hu⟩ => hu ▸ ⟨rfl, rfl, rfl, rfl⟩
  create authorized base payload hpayload :=
    Discipline.Triple.post (create_counts (fun _ _ _ _ => trivial) authorized base
      fun s id at_ hid _ => (hpayload id at_ hid).1.charged s) fun _ _ _ h => h.1

/-! ## Upkeep -/

omit [DecidableEq D] in
/-- A record with a fingerprint, or one in the first phases. -/
theorem Charged.cases {s : Counted D} {t : Transaction D} (ht : Charged s t) :
    Known t ∨ t.phase.unopened = true := by
  by_cases hphase : t.phase.unopened = true
  · exact .inr hphase
  · exact .inl (ht.known (Bool.eq_false_iff.2 hphase))

theorem prepareOne_counts (t : Transaction D) :
    Counts sha256 source (fun s => Charged s t) (prepareOne t) fun _ _ => True := by
  intro s hs ht
  rcases ht.cases with hknown | hphase
  · exact knownRules.prepareOne hknown s hs trivial
  · -- `prepare_offline` leaves the first phases alone
    have hnothing : prepareOne t = pure () := by
      unfold prepareOne
      split <;> simp_all [Phase.unopened]
    rw [hnothing]
    exact ⟨hs, trivial⟩

theorem prepareOffline_counts :
    Counts sha256 source (fun _ => True) (prepareOffline (D := D)) fun _ _ => True := by
  refine Discipline.Triple.bind knownRules.fsync fun _ => ?_
  refine Discipline.Triple.bind (transactions_counts fun _ _ _ _ => trivial) fun ts => ?_
  refine Discipline.Triple.bind (M := fun _ _ => True) (Discipline.Triple.pre
    (forEach_counts prepareOne_counts ts) fun _ _ h => h.1) fun _ => ?_
  refine Discipline.Triple.bind (M := fun _ _ => True) ?_ fun _ =>
    Discipline.Triple.ret fun _ _ _ => trivial
  refine Discipline.Triple.bind (transactions_counts fun _ _ _ _ => trivial) fun ts =>
    Discipline.Triple.ret fun _ _ _ => trivial

/-- The transactions that await validation have a fingerprint. -/
theorem awaiting_counts :
    Counts sha256 source (fun _ => True) (awaiting (D := D)) fun ts _ => ∀ t ∈ ts, Known t := by
  refine Discipline.Triple.bind (transactions_counts fun _ _ _ _ => trivial) fun ts =>
    Discipline.Triple.ret fun s _ h t ht => ?_
  obtain ⟨hmem, hpending⟩ := List.mem_filter.1 ht
  refine (h.1 t hmem).known ?_
  revert hpending
  cases t.phase <;> simp [Phase.unopened, Phase.pendingValidation]

theorem validateUpstream_counts (readonly : Int → Option Bool) :
    Counts sha256 source (fun _ => True) (validateUpstream (D := D) readonly) fun _ _ => True := by
  refine Yields.bind awaiting_counts fun ts hts => Yields.forEach fun t ht => ?_
  unfold validateOne
  split
  · exact (transition_known (hts t ht) _).bind fun _ _ => Yields.ret trivial
  · exact Yields.ret trivial

theorem rollbackRejected_counts (volumeIds : List Int) (reason : String) :
    Counts sha256 source (fun _ => True) (rollbackRejected (D := D) volumeIds reason)
      fun _ _ => True :=
  Yields.bind awaiting_counts fun _ hts => Yields.forEach fun t ht =>
    knownRules.rollback reason (hts t (List.mem_filter.1 ht).1)

theorem reconcile_counts (resolved : Int → Bool) :
    Counts sha256 source (fun _ => True) (reconcileResolvedPreinstall (D := D) resolved)
      fun _ _ => True := by
  refine Discipline.Triple.bind (transactions_counts fun _ _ _ _ => trivial) fun ts => ?_
  refine Discipline.Triple.pre (forEach_counts (fun t => ?_) ts) fun _ _ h => h.1
  refine Discipline.Triple.when (fun _ => ?_) fun _ _ _ _ => trivial
  refine Discipline.Triple.bind (M := fun _ _ => True) (Discipline.Triple.post (transition_counts
    (Charged.lasting t) fun s at_ h => ?_) fun _ _ _ _ => trivial) fun u => ?_
  · exact (h.grows (grows_saved s _ _)).rephase ⟨rfl, rfl, rfl, rfl⟩ rfl rfl fun h => absurd h (by simp)
  · exact Discipline.Triple.when (fun _ => ask_counts (fun _ _ _ _ => trivial) rfl)
      fun _ _ _ _ => trivial

/-! ## A failed preflight -/

/-- A failed preflight of the source is not recorded yet. -/
structure Room (s : Counted D) : Prop where
  failed : 1 ≤ s.failures.count s.source
  counted : ∀ t ∈ s.world.records, t.fingerprintUnavailable = true → t.identity = s.source →
    t.attemptCount + 1 ≤ s.failures.count s.source

theorem room_stable : (sourceDiscipline sha256 source).Stable Room := by
  intro s s' _ _ hd h
  have hcount := hd.count_le s.source
  refine ⟨?_, fun t ht hflag hidentity => ?_⟩
  · rw [hd.source]
    exact Nat.le_trans h.failed hcount
  · obtain ⟨u, hu, hut, hattempts⟩ := hd.records t ht
    rw [hd.source] at hidentity ⊢
    rw [hattempts]
    exact Nat.le_trans (h.counted u hu (hut.unavailable ▸ hflag) (hut.identity ▸ hidentity)) hcount

omit [DecidableEq D] in
theorem maxAttempts_le {ts : List (Transaction D)} {n : Nat} (h : ∀ t ∈ ts, t.attemptCount ≤ n) :
    maxAttempts ts ≤ n := by
  have key : ∀ (ts : List (Transaction D)) m, m ≤ n → (∀ t ∈ ts, t.attemptCount ≤ n) →
      ts.foldl (fun n t => max n t.attemptCount) m ≤ n := by
    intro ts
    induction ts with
    | nil => exact fun m hm _ => hm
    | cons t ts ih =>
        intro m hm hall
        refine ih _ (Nat.max_le.2 ⟨hm, hall t List.mem_cons_self⟩) fun u hu => ?_
        exact hall u (List.mem_cons_of_mem _ hu)
  exact key ts 0 (Nat.zero_le _) h

theorem preflight_counts {E : RepairExc D → Counted D → Prop} :
    (sourceDiscipline sha256 source).Triple (fun _ => True) (preflight (D := D))
      (fun process s => process.fingerprint = none → Room s) E := by
  refine Discipline.Triple.ask (Discipline.Stable.const True) ?_ fun c s hs _ _ hfailed => ?_
  · exact fun s _ _ kind t h => absurd h (by simp)
  · have hnone : c.helper.fingerprint = none := hfailed
    have hnew : newFailures s.source (.preflight : RepairReq D) c = [s.source] :=
      if_pos (Option.isNone_iff_eq_none.2 hnone)
    simp only [countedExec, hnew]
    refine ⟨by simp, fun t ht hflag hidentity => ?_⟩
    have hcounted := (hs.1 t ht).counted hflag
    rw [hidentity] at hcounted
    simpa using hcounted

/-- A preflight ends with a fingerprint, or with a failure that is not recorded yet. -/
theorem attemptPreflight_counts :
    Counts sha256 source (fun _ => True) (Prog.attempt (do
      let payload ← runPreflight
      Prog.orRaise .lookup payload.sourceFingerprintBefore : RepairProg D (RawFingerprint D)))
      fun outcome s => (∃ raw, outcome = .ok raw) ∨ Room s := by
  refine Discipline.Triple.attempt ?_
  refine Discipline.Triple.bind (M := fun payload s => payload.sourceFingerprintBefore = none → Room s)
    (Discipline.Triple.bind preflight_counts fun process => ?_) fun payload => ?_
  · cases process with
    | spawnFailed => exact Discipline.Triple.raise fun s _ h => .inr (h rfl)
    | timeout => exact Discipline.Triple.raise fun s _ h => .inr (h rfl)
    | invalid => exact Discipline.Triple.raise fun s _ h => .inr (h rfl)
    | output returncode payload =>
        refine Discipline.Triple.ite (fun hbad => ?_) fun hgood => ?_
        · have hnone : (HelperProcess.output returncode payload).fingerprint = none := if_pos hbad
          refine Discipline.Triple.ite (fun _ => ?_) fun _ => ?_
          · exact Discipline.Triple.raise fun s _ h => .inr (h hnone)
          · exact Discipline.Triple.raise fun s _ h => .inr (h hnone)
        · refine Discipline.Triple.ret fun s _ h hnone => h ?_
          exact (if_neg hgood).trans hnone
  · exact Discipline.Triple.orRaise (fun hnone s _ h => .inr (h hnone))
      fun raw _ _ _ _ => .inl ⟨raw, rfl⟩

/-- A charged record fails: it is blocked only when its attempts are used up. -/
theorem recordPreinstallFailure_counts (t : Transaction D) (reason : String) :
    Counts sha256 source (fun s => Charged s t) (recordPreinstallFailure t reason) fun _ _ => True := by
  refine Discipline.Triple.bind (transition_counts (Charged.lasting t) fun s at_ h => ?_) fun u =>
    Discipline.Triple.assume ?_
  · exact (h.grows (grows_saved s _ _)).rephase ⟨rfl, rfl, rfl, rfl⟩ rfl rfl fun h => absurd h (by simp)
  · rintro ⟨at_, rfl⟩
    refine Discipline.Triple.when (fun hlimit => ?_) fun _ _ _ _ => trivial
    refine Discipline.Triple.bind (M := fun _ _ => True) (Discipline.Triple.post (transition_counts
      (Charged.lasting t) fun s at_ h => ?_) fun _ _ _ _ => trivial) fun _ =>
        Discipline.Triple.ret fun _ _ _ => trivial
    exact (h.grows (grows_saved s _ _)).rephase ⟨rfl, rfl, rfl, rfl⟩ rfl rfl fun _ => .inl hlimit

/-- The attempts of the source that the journal records. -/
theorem loadRelated_counts :
    Counts sha256 source Room (transactions (D := D)) fun ts s =>
      maxAttempts (unfingerprinted source ts) + 1 ≤ s.failures.count source := by
  refine Discipline.Triple.bind (M := fun answer s => ∀ ts, answer = some ts →
    maxAttempts (unfingerprinted source ts) + 1 ≤ s.failures.count source)
    (Discipline.Triple.ask room_stable ?_ ?_) fun answer => ?_
  · exact fun s _ _ kind t h => absurd h (by simp)
  · intro c s hs hroom _ ts hts
    have hload : (repairExec sha256 .load c s.world).1 = some ts := hts
    obtain rfl := repairExec_load hload
    obtain rfl : s.source = source := hs.2
    have hbound : maxAttempts (unfingerprinted s.source s.world.journal) ≤
        s.failures.count s.source - 1 := by
      refine maxAttempts_le fun t ht => Nat.le_sub_one_of_lt ?_
      obtain ⟨hmem, hrelated⟩ := List.mem_filter.1 ht
      obtain ⟨hidentity, hflag⟩ := of_decide_eq_true hrelated
      exact hroom.counted t (List.mem_append_left _ hmem) hflag hidentity
    have hfailed := hroom.failed
    simp only [countedExec, newFailures, List.nil_append]
    omega
  · exact Discipline.Triple.orRaise (fun _ _ _ _ => trivial) fun ts hts s _ h => h ts hts

theorem recordUnfingerprintedFailure_counts {base : Base}
    (hbase : base = ⟨source.collection, source.volumeId⟩) (reason : String) (retryAuthorized : Bool) :
    Counts sha256 source Room (recordUnfingerprintedFailure (D := D) base source reason retryAuthorized)
      fun _ _ => True := by
  refine Discipline.Triple.bind loadRelated_counts fun ts => ?_
  have hlasting : Lasting fun s : Counted D =>
      maxAttempts (unfingerprinted source ts) + 1 ≤ s.failures.count source :=
    fun s s' h hs => Nat.le_trans hs (h.count_le source)
  have hnew : ∀ (s : Counted D) id at_, id.base = base →
      maxAttempts (unfingerprinted source ts) + 1 ≤ s.failures.count source →
      Charged s ({
        id := id, identity := source, fingerprintUnavailable := true,
        sourceFingerprint := .unavailable source,
        attemptCount := maxAttempts (unfingerprinted source ts) + 1, updatedAt := at_ } :
        Transaction D) := by
    intro s id at_ hid hcount
    refine ⟨⟨hid.trans hbase, ?_, fun _ => rfl⟩, fun _ => rfl, fun _ => hcount, ?_⟩
    · exact fun identity raw h => absurd h (by simp)
    · exact fun _ h => absurd h (by simp)
  refine Discipline.Triple.bind (M := fun _ s =>
    maxAttempts (unfingerprinted source ts) + 1 ≤ s.failures.count source)
    (Discipline.Triple.raiseIf (fun _ _ _ _ => trivial) fun _ _ _ h => h) fun _ => ?_
  refine Discipline.Triple.bind (create_counts hlasting _ base hnew) fun t =>
    Discipline.Triple.assume ?_
  rintro ⟨id, at_, hid, rfl⟩
  exact Discipline.Triple.pre (recordPreinstallFailure_counts _ reason) fun s _ h => hnew s id at_ hid h

theorem preflightFingerprint_counts {base : Base}
    (hbase : base = ⟨source.collection, source.volumeId⟩) (retryAuthorized : Bool) :
    Counts sha256 source (fun _ => True)
      (preflightFingerprint (D := D) base source retryAuthorized) fun fingerprint _ =>
        ∃ raw, fingerprint = SourceFingerprint.known source raw := by
  refine Discipline.Triple.bind attemptPreflight_counts fun outcome => ?_
  have hfail : ∀ e : RepairExc D, Counts sha256 source
      (fun s => (∃ raw, (Except.error e : Except _ (RawFingerprint D)) = .ok raw) ∨ Room s)
      ((recordUnfingerprintedFailure base source ("source preflight failed: " ++ e.text)
        retryAuthorized).bind fun _ => Prog.raise (.repair ("source preflight failed: " ++ e.text)))
      fun (fingerprint : SourceFingerprint D) _ => ∃ raw, fingerprint = .known source raw := by
    intro e
    refine Discipline.Triple.bind (Discipline.Triple.pre
      (recordUnfingerprintedFailure_counts hbase _ retryAuthorized) fun s _ h => ?_) fun _ =>
        Discipline.Triple.raise fun _ _ _ => trivial
    exact h.resolve_left (by simp)
  cases outcome with
  | ok raw => exact Discipline.Triple.ret fun _ _ _ => ⟨raw, rfl⟩
  | error e =>
      cases e with
      | os => exact Discipline.Triple.raise fun _ _ _ => trivial
      | recursion => exact Discipline.Triple.raise fun _ _ _ => trivial
      | lookup => exact hfail _
      | repair message => exact hfail _
      | journal message => exact hfail _
      | manual message => exact hfail _
      | unsafeCandidate message payload => exact hfail _

/-! ## Repairs -/

theorem consumeRetry_counts (t : Transaction D) (refusal : String) :
    Counts sha256 source (fun s => Charged s t) (consumeRetry t refusal) fun _ _ => True := by
  refine Discipline.Triple.bind (M := fun _ s => Charged s t)
    (Discipline.Triple.raiseIf (fun _ _ _ _ => trivial) fun _ _ _ h => h) fun _ => ?_
  refine Discipline.Triple.post (save_counts (Charged.lasting t) fun s h => ?_) fun _ _ _ _ => trivial
  exact (h.grows (grows_saved s _ _)).flagged ⟨rfl, rfl, rfl, rfl⟩ rfl rfl

/-- The latest blocked record is used up or refused. -/
theorem consumeLatest_counts (ts : List (Transaction D)) (refusal : String) :
    Counts sha256 source (fun s => ∀ t ∈ ts, Charged s t)
      (match latestOf (ts.filter fun t => t.phase = .manualInterventionRequired) with
        | none => pure false
        | some latest => do
          consumeRetry latest refusal
          pure true : RepairProg D Bool)
      fun _ _ => True := by
  cases hlatest : latestOf (ts.filter fun t => t.phase = .manualInterventionRequired) with
  | none => exact Discipline.Triple.ret fun _ _ _ => trivial
  | some latest =>
      refine Discipline.Triple.bind (Discipline.Triple.pre (consumeRetry_counts latest refusal)
        fun s _ h => ?_) fun _ => Discipline.Triple.ret fun _ _ _ => trivial
      exact h latest (List.mem_filter.1 (latestOf_mem hlatest)).1

theorem authorizeUnfingerprintedRetry_counts (identity : SourceIdentity) :
    Counts sha256 source (fun _ => True) (authorizeUnfingerprintedRetry (D := D) identity)
      fun _ _ => True := by
  refine Discipline.Triple.bind (transactions_counts fun _ _ _ _ => trivial) fun ts => ?_
  refine Discipline.Triple.pre (consumeLatest_counts _ _) fun s _ h t ht => ?_
  exact h.1 t (List.mem_filter.1 ht).1

/-- The admitted transactions have the fingerprint of the source. -/
theorem admitSource_counts (raw : RawFingerprint D) :
    Counts sha256 source (fun _ => True) (admitSource (.known source raw)) fun result _ =>
      ∀ t ∈ result.1, Known t := by
  refine Discipline.Triple.bind (transactions_counts fun _ _ _ _ => trivial) fun ts => ?_
  intro s hs hts
  have hsame : ∀ t ∈ sameSource (.known source raw) ts, t ∈ ts ∧ Known t := by
    intro t ht
    obtain ⟨hmem, hsource⟩ := List.mem_filter.1 ht
    exact ⟨hmem, (hts.1 t hmem).origin.known_of_source (of_decide_eq_true hsource)⟩
  refine Discipline.Triple.bind (P := fun s => ∀ t ∈ ts, Charged s t)
    (M := fun _ s => ∀ t ∈ ts, Charged s t) ?_ (fun _ => ?_) s hs hts.1
  · exact Discipline.Triple.raiseIf (fun _ _ _ _ => trivial) fun _ _ _ h => h
  · refine Discipline.Triple.bind (M := fun _ _ => True) ?_ fun authorized => ?_
    · exact Discipline.Triple.pre (consumeLatest_counts _ _) fun s _ h t ht => h t (hsame t ht).1
    · refine Yields.bind (Φ := fun _ => True) (Yields.when fun _ => ?_) fun _ _ =>
        Yields.ret fun t ht => (hsame t ht).2
      refine Yields.bind (Φ := fun _ => True) (Yields.forEach fun t ht => ?_) fun _ _ => Yields.raise
      have hlatest := Option.mem_toList.1 ht
      exact knownRules.manual (hsame t (List.mem_filter.1 (latestOf_mem hlatest)).1).2 _

/-- The sweep: a record without a fingerprint is blocked, whatever its attempts are. -/
theorem closeStale_counts (volumeId : Int) (fingerprint : SourceFingerprint D) :
    Counts sha256 source (fun _ => True) (closeStale volumeId fingerprint) fun _ _ => True := by
  refine Discipline.Triple.bind (transactions_counts fun _ _ _ _ => trivial) fun ts => ?_
  refine Discipline.Triple.pre (forEach_counts (fun t => ?_) ts) fun _ _ h => h.1
  refine Discipline.Triple.when (fun _ => ?_) fun _ _ _ _ => trivial
  refine Discipline.Triple.bind (M := fun _ _ => True) (Discipline.Triple.post (transition_counts
    (Charged.lasting t) fun s at_ h => ?_) fun _ _ _ _ => trivial) fun _ =>
      Discipline.Triple.ret fun _ _ _ => trivial
  by_cases hflag : t.fingerprintUnavailable = true
  · refine (h.grows (grows_saved s _ _)).rephase ⟨rfl, rfl, rfl, rfl⟩ rfl rfl fun _ => ?_
    by_cases hlimit : preinstallRetryLimit ≤ t.attemptCount
    · exact .inl hlimit
    · exact .inr ⟨_, List.mem_cons_self, hflag, Nat.lt_of_not_le hlimit, rfl, rfl⟩
  · refine .of_known (h.origin.moved (by exact ⟨rfl, rfl, rfl, rfl⟩)) ?_
    exact Bool.eq_false_iff.2 hflag

theorem repairOne_counts (cfg : Config) (args : RepairArgs) : ∀ (fuel : Nat) (allowIdentical : Bool),
    Counts sha256 (sourceIdentity cfg args.activeTransport ⟨args.collection, args.volumeId⟩)
      (fun _ => True) (repairOne (D := D) cfg args fuel allowIdentical) fun _ _ => True
  | 0, _ => Yields.raise
  | fuel + 1, allowIdentical => by
      refine Yields.orRaise.bind fun base hbase => ?_
      obtain rfl := safeBaseName_eq hbase
      refine Yields.bind (authorizeUnfingerprintedRetry_counts _) fun retry _ => ?_
      refine Yields.bind (preflightFingerprint_counts rfl retry) ?_
      rintro _ ⟨raw, rfl⟩
      refine Yields.bind (admitSource_counts raw) ?_
      rintro ⟨same, authorized⟩ hsame
      refine Yields.bind (closeStale_counts _ _) fun _ _ => ?_
      refine (knownRules.liveArtifacts _ cfg _ raw _ authorized).bind ?_
      rintro ⟨oldIdx, oldSdx⟩ -
      refine (knownRules.resumeOrCreate _ cfg _ raw hsame oldIdx oldSdx authorized).bind
        fun next hnext => ?_
      cases next with
      | none => exact Yields.ret trivial
      | some t =>
          exact knownRules.buildAndInstall cfg _ (hnext t rfl) _ oldIdx allowIdentical
            (repairOne_counts cfg args fuel true)

/-! ## Runs -/

omit [DecidableEq D] in
/-- A `request_retry` call adds no attempt. -/
theorem operatorStep_counts {s s' : Counted D} (h : CountInv s) (hstep : OperatorStep s.world s'.world)
    (hsource : s'.source = s.source) (hfailures : s'.failures = s.failures) :
    CountInv s' ∧ NoneCharged s s' := by
  obtain ⟨w, source, failures⟩ := s
  obtain ⟨w', source', failures'⟩ := s'
  obtain rfl : source' = source := hsource
  obtain rfl : failures' = failures := hfailures
  -- every record afterwards is an old one, up to the flag that the operator sets
  have key : ∀ t ∈ w'.records, ∃ u ∈ w.records,
      SameOrigin u t ∧ t.attemptCount = u.attemptCount ∧ t.phase = u.phase := by
    cases hstep with
    | load t ht =>
        intro u hu
        rcases List.mem_append.1 hu with hu | hu
        · exact ⟨u, List.mem_append_left _ hu, .refl u, rfl, rfl⟩
        · rcases List.mem_cons.1 hu with rfl | hu
          · exact ⟨u, List.mem_append_left _ (List.mem_filter.1 (latestOf_mem ht)).1, .refl u, rfl, rfl⟩
          · exact ⟨u, List.mem_append_right _ hu, .refl u, rfl, rfl⟩
    | save t elapsed others later heq =>
        have hkept : ∀ x, x = t ∨ x ∈ others ++ later → x ∈ w.operators := by
          intro x hx
          rw [show w.operators = others ++ t :: later from heq]
          simpa [or_left_comm] using hx
        intro u hu
        rcases List.mem_append.1 hu with hu | hu
        · rcases mem_saveTransaction.1 hu with ⟨hu, -⟩ | rfl
          · exact ⟨u, List.mem_append_left _ hu, .refl u, rfl, rfl⟩
          · exact ⟨t, List.mem_append_right _ (hkept t (.inl rfl)), ⟨rfl, rfl, rfl, rfl⟩, rfl, rfl⟩
        · exact ⟨u, List.mem_append_right _ (hkept u (.inr hu)), .refl u, rfl, rfl⟩
  have hgrows : Grows (⟨w, source', failures'⟩ : Counted D) ⟨w', source', failures'⟩ := by
    refine ⟨⟨[], rfl⟩, fun kind t ht => ?_⟩
    cases hstep with
    | load => exact ht
    | save => exact List.mem_cons_of_mem _ ht
  refine ⟨fun t ht => ?_, hgrows, rfl, fun t ht => ?_⟩
  · obtain ⟨u, hu, hut, hcount, hphase⟩ := key t ht
    exact ((h u hu).grows hgrows).flagged hut hcount hphase
  · obtain ⟨u, hu, hut, hcount, -⟩ := key t ht
    exact ⟨u, hu, hut, hcount⟩

omit [DecidableEq D] in
/-- A step that saves nothing and counts nothing. -/
theorem CountInv.congr {s s' : Counted D} (h : CountInv s) (hfailures : s'.failures = s.failures)
    (hworld : SavesNothing s.world s'.world) : CountInv s' := by
  intro t ht
  rw [World.records, hworld.journal, hworld.operators] at ht
  exact (h t ht).grows ⟨⟨[], hfailures⟩, fun kind u hu => (hworld.saved kind u).2 hu⟩

theorem countedMachine_follows (volumeId : Int) :
    (countedMachine sha256 volumeId).Follows (countDiscipline sha256) fun _ => True where
  meanwhile s s' h hstep := operatorStep_counts h hstep.1 hstep.2.1 hstep.2.2
  rest_meanwhile _ _ _ _ _ := trivial
  idle s s' h _ hstep := by
    refine ⟨h.congr hstep.2 ?_, trivial⟩
    rcases hstep.1 with heq | hwrite
    · rw [heq]
      exact .refl _
    · exact savesNothing_of_write hwrite
  stop _ _ _ := trivial
  start s p h _ hp := by
    have hstable : ∀ source, (countDiscipline sha256).Stable fun x => x.source = source :=
      fun _ _ _ _ _ hd hx => hd.source.trans hx
    rcases hp with hp | ⟨cfg, args, fuel, -, hsource, rfl⟩
    · cases hp with
      | prepareOffline =>
          exact (prepareOffline_counts.of_restrict (hstable _)) s h ⟨rfl, trivial⟩
      | validateUpstream readonly =>
          exact ((validateUpstream_counts readonly).of_restrict (hstable _)) s h ⟨rfl, trivial⟩
      | rollbackRejected volumeIds reason =>
          exact ((rollbackRejected_counts volumeIds reason).of_restrict (hstable _)) s h ⟨rfl, trivial⟩
      | reconcile resolved =>
          exact ((reconcile_counts resolved).of_restrict (hstable _)) s h ⟨rfl, trivial⟩
    · exact ((repairOne_counts cfg args fuel false).of_restrict (hstable _)) s h ⟨hsource, trivial⟩

/-- In every state that the controller reaches, records are charged. -/
theorem CountedReachable.countInv {files : Int → Path → Option Node}
    {x : Int → Running (RepairReq D) RepairReq.Ans (RepairExc D) (Counted D)}
    (hx : CountedReachable sha256 files x) (volumeId : Int) : CountInv (x volumeId).state :=
  ((countedMachine_follows volumeId).reachable (fun t ht => absurd ht (by simp [World.records,
    Counted.initial])) trivial (Family.component hx volumeId)).inv

/-! ## Refusals -/

/-- `_authorize_unfingerprinted_retry` refuses a repair of the source. -/
def RefusesRetry (sha256 : Bytes → D) (identity : SourceIdentity) (w : World D) : Prop :=
  ∃ cs, Refused ((authorizeUnfingerprintedRetry identity).run (repairExec sha256) cs w).1

/-- A refusal points at a blocked record without a fingerprint. -/
theorem authorizeUnfingerprintedRetry_refuses (identity : SourceIdentity) (w : World D) :
    Hoare (repairExec sha256) (fun s => s = w) (authorizeUnfingerprintedRetry identity)
      (fun _ _ => True) fun e _ => e.Refuses →
        ∃ t ∈ unfingerprinted identity w.journal, t.phase = .manualInterventionRequired := by
  rw [authorizeUnfingerprintedRetry_eq]
  refine Discipline.Triple.bind (M := fun ts _ => ts = w.journal ∧ True) ?_ fun ts =>
    Discipline.Triple.assume ?_
  · refine Discipline.Triple.bind (M := fun answer _ => ∀ ts, answer = some ts → ts = w.journal)
      (Hoare.ask ?_) fun answer => Discipline.Triple.orRaise ?_ fun ts hts s _ h => ⟨h ts hts, trivial⟩
    · rintro c _ rfl ts hts
      exact repairExec_load hts
    · intro _ s _ _ hrefuses
      exact absurd hrefuses (by simp [RepairExc.Refuses])
  · rintro rfl
    cases hlatest : latestOf (blocked (unfingerprinted identity w.journal)) with
    | none => exact Discipline.Triple.ret fun _ _ _ => trivial
    | some t =>
        obtain ⟨hmem, hphase⟩ := List.mem_filter.1 (latestOf_mem hlatest)
        refine Discipline.Triple.mono (Discipline.Triple.of_issues (K := fun _ => True)
          (Discipline.Stable.const True) (fun _ _ _ _ _ => ⟨trivial, fun _ => trivial⟩)
          (Prog.issues_true _)) (fun _ _ h => h) (fun _ _ _ _ => trivial) fun _ _ _ _ _ => ?_
        exact ⟨t, hmem, of_decide_eq_true hphase⟩

/-- In every run in which the sweep of `_repair_one` has blocked no record of a failed preflight early,
`_authorize_unfingerprinted_retry` refuses a repair only if the preflights of its source have failed as
often as `PREINSTALL_RETRY_LIMIT` says. -/
theorem refuses_only_exhausted (sha256 : Bytes → D) (files : Int → Path → Option Node)
    (x : Int → Running (RepairReq D) RepairReq.Ans (RepairExc D) (Counted D))
    (hx : CountedReachable sha256 files x) (identity : SourceIdentity)
    (hswept : ¬ SweptEarly (x identity.volumeId).state.world)
    (hrefuses : RefusesRetry sha256 identity (x identity.volumeId).state.world) :
    preinstallRetryLimit ≤ (x identity.volumeId).state.failures.count identity := by
  obtain ⟨cs, e, he, hrefused⟩ := hrefuses
  obtain ⟨w', hw'⟩ := exists_state_of_outcome he
  obtain ⟨t, ht, hphase⟩ :=
    (authorizeUnfingerprintedRetry_refuses identity _).of_raised rfl hw' hrefused
  obtain ⟨hmem, hrelated⟩ := List.mem_filter.1 ht
  obtain ⟨hidentity, hflag⟩ := of_decide_eq_true hrelated
  have hcharged := hx.countInv identity.volumeId t (List.mem_append_left _ hmem)
  have hcounted := hcharged.counted hflag
  rw [hidentity] at hcounted
  exact Nat.le_trans ((hcharged.blocked hflag hphase).resolve_right hswept) hcounted

end

/-! One volume whose source times out once, and is then found or times out again. -/

namespace PreflightSample

def identity : SourceIdentity := ⟨"", "", "", 1⟩

/-- One preflight has failed. -/
def once : Counted Bytes :=
  Sample.repair.after (countedExec id) (List.replicate 10 {}) (.initial 1 fun _ => none)

/-- The next preflight has found the source. -/
def found : Counted Bytes :=
  Sample.repair.after (countedExec id) (List.replicate 20 Sample.choice) once

/-- The next preflight has failed too. -/
def twice : Counted Bytes :=
  Sample.repair.after (countedExec id) (List.replicate 10 {}) once

/-- A repair of the source that is cut off after some of its steps. -/
theorem cut_off {s : Counted Bytes}
    (hs : (countedMachine id 1).Reachable (.initial 1 fun _ => none) ⟨s, none⟩)
    (hsource : s.source = identity) (cs : List (RepairChoice Bytes)) :
    (countedMachine id 1).Reachable (.initial 1 fun _ => none)
      ⟨Sample.repair.after (countedExec id) cs s, none⟩ := by
  have hstarted := hs.tail (.start s Sample.repair
    (.inr ⟨Sample.config, ⟨"", 1, ""⟩, 2, rfl, hsource, rfl⟩))
  exact (Machine.Reachable.run cs hstarted).tail (.stop _ _ trivial)

/-- The controller with this one volume. -/
def controller (s : Counted Bytes) :
    Int → Running (RepairReq Bytes) RepairReq.Ans (RepairExc Bytes) (Counted Bytes) :=
  Function.update (fun volumeId => ⟨.initial volumeId fun _ => none, none⟩) 1 ⟨s, none⟩

theorem once_reachable : (countedMachine id 1).Reachable (.initial 1 fun _ => none) ⟨once, none⟩ :=
  cut_off .refl rfl _

theorem found_reachable : CountedReachable id (fun _ _ => none) (controller found) :=
  Family.of_member (cut_off once_reachable (by decide +kernel) _)

theorem twice_reachable : CountedReachable id (fun _ _ => none) (controller twice) :=
  Family.of_member (cut_off once_reachable (by decide +kernel) _)

end PreflightSample

/-- One failed preflight and one that finds the source: the source is refused. -/
theorem swept_after_one_failure :
    ∃ x identity, CountedReachable id (fun _ _ => none) x ∧
      RefusesRetry (D := Bytes) id identity (x identity.volumeId).state.world ∧
      (x identity.volumeId).state.failures.count identity < preinstallRetryLimit :=
  ⟨_, PreflightSample.identity, PreflightSample.found_reachable, ⟨[{}], by decide +kernel⟩,
    by decide +kernel⟩

/-- Two failed preflights: the source is refused. -/
theorem refuses_after_two_failures :
    ∃ x identity, CountedReachable id (fun _ _ => none) x ∧
      RefusesRetry (D := Bytes) id identity (x identity.volumeId).state.world ∧
      preinstallRetryLimit ≤ (x identity.volumeId).state.failures.count identity :=
  have hrefuses : RefusesRetry id PreflightSample.identity
      (PreflightSample.controller PreflightSample.twice 1).state.world :=
    ⟨[{}], by decide +kernel⟩
  ⟨_, PreflightSample.identity, PreflightSample.twice_reachable, hrefuses,
    refuses_only_exhausted id (fun _ _ => none) _ PreflightSample.twice_reachable
      PreflightSample.identity (by decide +kernel) hrefuses⟩

end StorageNode.IndexRepair
