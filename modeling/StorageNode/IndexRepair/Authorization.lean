import StorageNode.IndexRepair.Controller
import StorageNode.Program.Matching
import Mathlib.Combinatorics.Enumerative.DoubleCounting
import Mathlib.Order.Interval.Finset.Nat

/-!
# Rebuilds and their authorization

Two statements about the history of a volume, for every source fingerprint. Once a transaction of the
source is blocked, each full build has an operator request of its own; once one is verified, no build
runs (`builds_are_authorized`). In clean runs the number of builds is bounded by the retry limit and
the authorizations used (`rebuilds_bounded`).
-/

set_option autoImplicit false

namespace StorageNode.IndexRepair

open StorageNode.Program StorageNode.IndexHelper RepairProg

variable {D : Type} [DecidableEq D]

/-! ## Authorized builds -/

/-- What happened to a volume, oldest event first. -/
def World.history (w : World D) : List (Event D) :=
  w.log.reverse

/-- A transaction of the source reached the phase before the `n`-th event. -/
def ReachedBefore (F : SourceFingerprint D) (phase : Phase) (history : List (Event D)) (n : Nat) :
    Prop :=
  ∃ m < n, ∃ kind t, history[m]? = some (.saved kind t) ∧ t.sourceFingerprint = F ∧ t.phase = phase

/-- The `n`-th event is a full build of the source. -/
def BuildAt (F : SourceFingerprint D) (history : List (Event D)) (n : Nat) : Prop :=
  ∃ id, history[n]? = some (.build id F)

/-- The `n`-th event is a build of a blocked source. -/
def LateBuild (F : SourceFingerprint D) (history : List (Event D)) (n : Nat) : Prop :=
  BuildAt F history n ∧ ReachedBefore F .manualInterventionRequired history n

/-- The `n`-th event is a `request_retry` for the source. -/
def RequestAt (F : SourceFingerprint D) (history : List (Event D)) (n : Nat) : Prop :=
  ∃ t, history[n]? = some (.saved .retry t) ∧ t.sourceFingerprint = F

section

variable {F : SourceFingerprint D} {phase : Phase} {earlier later : List (Event D)} {n : Nat}

omit [DecidableEq D] in
theorem getElem?_earlier (h : n < earlier.length) : (earlier ++ later)[n]? = earlier[n]? :=
  List.getElem?_append_left h

omit [DecidableEq D] in
theorem reachedBefore_append (h : n ≤ earlier.length) :
    ReachedBefore F phase (earlier ++ later) n ↔ ReachedBefore F phase earlier n := by
  refine exists_congr fun m => and_congr_right fun hm => ?_
  rw [getElem?_earlier (by omega)]

omit [DecidableEq D] in
theorem reachedBefore_length {log : List (Event D)} :
    ReachedBefore F phase log.reverse log.length ↔ EverIn F phase log := by
  constructor
  · rintro ⟨m, -, kind, t, ht, h⟩
    exact ⟨kind, t, List.mem_reverse.1 (List.mem_of_getElem? ht), h⟩
  · rintro ⟨kind, t, ht, h⟩
    obtain ⟨m, hm⟩ := List.getElem?_of_mem (List.mem_reverse.2 ht)
    refine ⟨m, ?_, kind, t, hm, h⟩
    have := (List.getElem?_eq_some_iff.1 hm).1
    simpa using this

omit [DecidableEq D] in
theorem lateBuild_append (h : n < earlier.length) :
    LateBuild F (earlier ++ later) n ↔ LateBuild F earlier n := by
  rw [LateBuild, LateBuild, BuildAt, BuildAt, getElem?_earlier h, reachedBefore_append (by omega)]

omit [DecidableEq D] in
theorem requestAt_append (h : n < earlier.length) :
    RequestAt F (earlier ++ later) n ↔ RequestAt F earlier n := by
  rw [RequestAt, RequestAt, getElem?_earlier h]

/-- A late build, by evaluation of two events. -/
theorem lateBuild_of_events {history : List (Event D)} {m : Nat} {id : TxId} (hm : m < n)
    (hbuild : history[n]?.bind (Event.buildId F) = some id)
    (hblocked : history[m]?.any (Event.isIn F .manualInterventionRequired) = true) :
    LateBuild F history n := by
  obtain ⟨e, he, hid⟩ := Option.bind_eq_some_iff.1 hbuild
  obtain ⟨b, hb, hin⟩ := (Option.any_eq_true _ _).1 hblocked
  obtain ⟨kind, t, rfl, ht⟩ := Event.isIn_iff.1 hin
  exact ⟨⟨id, by rw [he, Event.buildId_eq_some.1 hid]⟩, m, hm, kind, t, hb, ht⟩

open scoped Classical in
omit [DecidableEq D] in
/-- A condition on the past counts the same moments in a longer history. -/
theorem momentsBefore_append {p : List (Event D) → Nat → Prop}
    (hp : ∀ earlier later n, n < earlier.length → (p (earlier ++ later) n ↔ p earlier n)) :
    momentsBefore (p (earlier ++ later)) earlier.length = momentsBefore (p earlier) earlier.length := by
  ext i
  rw [mem_momentsBefore, mem_momentsBefore]
  exact and_congr_right fun hi => hp earlier later i hi

open scoped Classical in
theorem card_lateBuilds (log : List (Event D)) :
    (momentsBefore (LateBuild F log.reverse) log.length).card = lateBuilds F log := by
  induction log with
  | nil => rfl
  | cons e log ih =>
      have hlength : log.length = log.reverse.length := List.length_reverse.symm
      rw [List.reverse_cons, List.length_cons, card_momentsBefore_succ, hlength,
        momentsBefore_append fun _ _ _ => lateBuild_append, ← hlength, ih, lateBuilds]
      congr 1
      refine if_congr ?_ rfl rfl
      rw [LateBuild, BuildAt, hlength, reachedBefore_append (Nat.le_refl _), ← hlength,
        reachedBefore_length, hlength, List.getElem?_concat_length]
      refine and_congr_left fun _ => ?_
      cases e with
      | build id G => by_cases hG : G = F <;> simp [Event.buildId, hG]
      | _ => simp [Event.buildId]

open scoped Classical in
theorem card_requests (log : List (Event D)) :
    (momentsBefore (RequestAt F log.reverse) log.length).card = (requested F log).length := by
  induction log with
  | nil => rfl
  | cons e log ih =>
      have hlength : log.length = log.reverse.length := List.length_reverse.symm
      rw [List.reverse_cons, List.length_cons, card_momentsBefore_succ, hlength,
        momentsBefore_append fun _ _ _ => requestAt_append, ← hlength, ih, RequestAt, hlength,
        List.getElem?_concat_length]
      cases e with
      | saved kind t =>
          rw [requested_saved]
          by_cases hkind : kind = .retry ∧ t.sourceFingerprint = F
          · rw [if_pos hkind, if_pos ⟨t, by rw [hkind.1], hkind.2⟩]
            rfl
          · rw [if_neg hkind, if_neg ?_]
            · rfl
            · rintro ⟨u, hu, hF⟩
              obtain ⟨hk, rfl⟩ := Event.saved.inj (Option.some.inj hu)
              exact hkind ⟨hk, hF⟩
      | _ => simp

end

/-- After a transaction of the source is blocked, each full build of it has an operator request of its
own, older than the build; after one is verified, there is no build of it. -/
theorem builds_are_authorized (sha256 : Bytes → D) (files : Int → Path → Option Node)
    (x : Int → Running (RepairReq D) RepairReq.Ans (RepairExc D) (World D))
    (hx : ControllerReachable sha256 False False files x) (volumeId : Int)
    (F : SourceFingerprint D) :
    (∃ request : Nat → Nat,
      (∀ n, LateBuild F (x volumeId).state.history n →
        request n < n ∧ RequestAt F (x volumeId).state.history (request n)) ∧
      ∀ m n, LateBuild F (x volumeId).state.history m → LateBuild F (x volumeId).state.history n →
        request m = request n → m = n) ∧
    ∀ n, BuildAt F (x volumeId).state.history n →
      ¬ ReachedBefore F .verified (x volumeId).state.history n := by
  classical
  have hinv := (hx.sound volumeId).inv
  generalize (x volumeId).state = w at hinv ⊢
  -- every moment of the history cuts the log into a suffix and what came later
  have hsplit : ∀ k ≤ w.log.length, ∃ old later, old <:+ w.log ∧ old.length = k ∧
      w.history = old.reverse ++ later := by
    intro k hk
    refine ⟨w.log.drop (w.log.length - k), (w.log.take (w.log.length - k)).reverse,
      List.drop_suffix _ _, ?_, ?_⟩
    · rw [List.length_drop]
      omega
    · rw [← List.reverse_append, List.take_append_drop]
      rfl
  have hlt : ∀ n, BuildAt F w.history n → n < w.log.length := by
    rintro n ⟨id, hid⟩
    have := (List.getElem?_eq_some_iff.1 hid).1
    simpa [World.history] using this
  constructor
  · have hdisjoint : ∀ n, LateBuild F w.history n → ¬ RequestAt F w.history n := by
      rintro n ⟨⟨id, hid⟩, -⟩ ⟨t, ht, -⟩
      rw [hid] at ht
      exact absurd (Option.some.inj ht) (by simp)
    -- at every moment there are as many requests as late builds, which is what a matching needs
    have hcount : ∀ k ≤ w.log.length, (momentsBefore (LateBuild F w.history) k).card ≤
        (momentsBefore (RequestAt F w.history) k).card := by
      intro k hk
      obtain ⟨old, later, hold, rfl, hhistory⟩ := hsplit k hk
      have hle := hinv.retry.matched F old hold
      rw [← card_lateBuilds, ← card_requests] at hle
      have hlength : old.length = old.reverse.length := List.length_reverse.symm
      rw [hhistory, hlength, momentsBefore_append fun _ _ _ => lateBuild_append,
        momentsBefore_append fun _ _ _ => requestAt_append, ← hlength]
      exact hle
    obtain ⟨f, hf, hinj⟩ := exists_matching hdisjoint w.log.length hcount
    exact ⟨f, fun n hn => hf n (hlt n hn.1) hn, fun m n hm hn =>
      hinj m n (hlt m hm.1) (hlt n hn.1) hm hn⟩
  · -- the log up to the build ends with it, and the invariant excludes an earlier verification
    rintro n hbuild hverified
    have hn := hlt n hbuild
    obtain ⟨old, later, hold, rfl, hhistory⟩ := hsplit n (Nat.le_of_lt hn)
    have hlength : old.length = old.reverse.length := List.length_reverse.symm
    obtain ⟨id, hid⟩ := hbuild
    rw [hhistory, hlength, List.getElem?_append_right (Nat.le_refl _), Nat.sub_self] at hid
    rw [hhistory, hlength, reachedBefore_append (Nat.le_refl _), ← hlength,
      reachedBefore_length] at hverified
    cases later with
    | nil => exact absurd hid (by simp)
    | cons e later =>
        obtain rfl : e = .build id F := by simpa using hid
        refine hinv.retry.final F id old ⟨later.reverse, ?_⟩ hverified
        have hlog := congrArg List.reverse hhistory
        simpa [World.history] using hlog.symm

namespace Sample

/-- A build whose candidate the helper rejects, so that the source is blocked. -/
def rejected : RepairChoice Bytes where
  helper := .output 1 { success := false, manualInterventionRequired := true }

/-- A repair that ends blocked. -/
def blocked : World Bytes :=
  repair.after (repairExec id) (List.replicate 17 choice ++ rejected :: List.replicate 2 choice)
    { files := files }

/-- The volume after an operator's request. -/
def released : World Bytes :=
  (requestRetry blocked).getD blocked

end Sample

theorem builds_are_authorized_once :
    ∃ x, ControllerReachable id False False (fun _ => Sample.files) x ∧
      LateBuild Sample.source (x 1).state.history 13 ∧
      ∃ request : Nat → Nat, request 13 < 13 ∧
        RequestAt Sample.source (x 1).state.history (request 13) := by
  have hblocked : (volumeMachine id False False 1).Reachable { files := Sample.files }
      ⟨Sample.blocked, none⟩ := Sample.cut_off .refl (by simp) _
  have hrequest : requestRetry Sample.blocked = some Sample.released := by
    have hsome : (requestRetry Sample.blocked).isSome = true := by decide +kernel
    obtain ⟨w, hw⟩ := Option.isSome_iff_exists.1 hsome
    rw [Sample.released, hw, Option.getD_some]
  have hreleased := hblocked.disturbed (requestRetry_steps hrequest)
  have hreach := Sample.controller_reachable
    (Sample.cut_off hreleased (by simp) (List.replicate 19 Sample.choice))
  have hlate : LateBuild Sample.source (Sample.repair.after (repairExec id)
      (List.replicate 19 Sample.choice) Sample.released).history 13 := by
    refine lateBuild_of_events (m := 6) (by decide) (?_ : _ = some ⟨Sample.base, 1⟩) ?_
    · decide +kernel
    · decide +kernel
  refine ⟨_, hreach, hlate, ?_⟩
  obtain ⟨⟨request, hrequests, -⟩, -⟩ := builds_are_authorized id (fun _ => Sample.files) _ hreach 1
    Sample.source
  exact ⟨request, hrequests 13 hlate⟩

/-! ## Bounded rebuilds -/

/-- The transaction ended as `resolved_without_install`. -/
def Resolved (w : World D) (id : TxId) : Prop :=
  ∃ t ∈ w.journal, t.id = id ∧ t.phase = .resolvedWithoutInstall

instance (w : World D) : DecidablePred (Resolved w) :=
  fun _ => inferInstanceAs (Decidable (∃ t ∈ w.journal, _))

/-- The builds of a source, without those of resolved transactions. -/
def chargedBuilds (F : SourceFingerprint D) (w : World D) : List TxId :=
  (builds F w.log).filter fun id => ¬ Resolved w id

/-- The record behind a charged build. -/
theorem AttemptInv.charged_record {clean : Prop} {w : World D} (h : AttemptInv clean w)
    {F : SourceFingerprint D} {id : TxId} (hid : id ∈ chargedBuilds F w) :
    F.isKnown = true ∧ ∃ t ∈ w.journal, t.id = id ∧ t.sourceFingerprint = F ∧
      t.phase ≠ .resolvedWithoutInstall := by
  obtain ⟨hmem, hnot⟩ := List.mem_filter.1 hid
  obtain ⟨hF, t, ht, htid, hsource⟩ := h.charged F id hmem
  refine ⟨hF, t, ht, htid, hsource, fun hphase => ?_⟩
  simp only [decide_eq_true_eq] at hnot
  exact hnot ⟨t, ht, htid, hphase⟩

/-- Builds of automatically created transactions have different attempt counts up to the limit. -/
theorem AttemptInv.automatic_le {clean : Prop} {w : World D} (h : AttemptInv clean w)
    {F : SourceFingerprint D} {ids : List TxId} (hnodup : ids.Nodup)
    (hids : ∀ id ∈ ids, id ∈ chargedBuilds F w ∧ id ∉ authorizedCreations F w.log) :
    ids.length ≤ preinstallRetryLimit := by
  have hrecord : ∀ id, id ∈ ids → ∃ t ∈ w.journal, (t.id = id ∧ t.sourceFingerprint = F ∧
      t.phase ≠ .resolvedWithoutInstall ∧ F.isKnown = true) ∧
        1 ≤ t.attemptCount ∧ t.attemptCount ≤ preinstallRetryLimit := by
    intro id hid
    obtain ⟨hcharged, hauto⟩ := hids id hid
    obtain ⟨hF, t, ht, htid, hsource, hphase⟩ := h.charged_record hcharged
    refine ⟨t, ht, ⟨htid, hsource, hphase, hF⟩, ?_⟩
    refine (h.created t ht (hsource ▸ hF)).resolve_left fun hmem => hauto ?_
    rwa [htid, hsource] at hmem
  -- each id is related to the attempt count of its record
  rw [← List.toFinset_card_of_nodup hnodup]
  refine Nat.le_trans (Finset.card_le_card_of_forall_subsingleton
    (t := Finset.Icc 1 preinstallRetryLimit)
    (fun id n => ∃ t ∈ w.journal, (t.id = id ∧ t.sourceFingerprint = F ∧
      t.phase ≠ .resolvedWithoutInstall ∧ F.isKnown = true) ∧ t.attemptCount = n)
    (fun id hid => ?_) fun n _ i hi j hj => ?_) (by simp)
  · obtain ⟨t, ht, hfacts, hcount⟩ := hrecord id (List.mem_toFinset.1 hid)
    exact ⟨t.attemptCount, Finset.mem_Icc.2 hcount, t, ht, hfacts, rfl⟩
  · obtain ⟨-, t, ht, ⟨rfl, hsource, hphase, hF⟩, rfl⟩ := hi
    obtain ⟨-, u, hu, ⟨rfl, husource, huphase, -⟩, hcount⟩ := hj
    exact h.distinct t ht u hu (hsource ▸ hF) (hsource.trans husource.symm) hphase huphase hcount.symm

/-- In a clean run, the full builds charged to a source are at most the retry limit plus the operator
authorizations used for it. -/
theorem rebuilds_bounded (sha256 : Bytes → D) (files : Int → Path → Option Node)
    (x : Int → Running (RepairReq D) RepairReq.Ans (RepairExc D) (World D))
    (hx : ControllerReachable sha256 True False files x) (volumeId : Int)
    (F : SourceFingerprint D) :
    (chargedBuilds F (x volumeId).state).length ≤
      preinstallRetryLimit + (consumed F (x volumeId).state.log).length := by
  have h := (hx.sound volumeId).inv.attempt
  generalize (x volumeId).state = w at h ⊢
  by_cases hF : F.isKnown = true
  · have hnodup : (chargedBuilds F w).Nodup := (h.once trivial F).filter _
    -- charged builds of an authorized transaction, and automatic ones
    have hsplit := List.length_eq_length_filter_add (l := chargedBuilds F w)
      fun id => id ∈ authorizedCreations F w.log
    have hauthorized : ((chargedBuilds F w).filter fun id =>
        id ∈ authorizedCreations F w.log).length ≤ (authorizedCreations F w.log).length := by
      refine ((hnodup.filter _).subperm fun id hid => ?_).length_le
      simpa using (List.mem_filter.1 hid).2
    have hautomatic := h.automatic_le (hnodup.filter fun id => !decide (id ∈ authorizedCreations F w.log))
      fun id hid => ⟨List.mem_of_mem_filter hid, by simpa using (List.mem_filter.1 hid).2⟩
    have hcredit := h.credit F hF
    omega
  -- a source without fingerprint is charged nothing
  · have hnil : chargedBuilds F w = [] := by
      refine List.eq_nil_iff_forall_not_mem.2 fun id hid => hF ?_
      exact (h.charged_record hid).1
    simp [hnil]

theorem rebuilds_bounded_first_build :
    ∃ x, ControllerReachable id True False (fun _ => Sample.files) x ∧
      (chargedBuilds Sample.source (x 1).state).length = 1 ∧
      (chargedBuilds Sample.source (x 1).state).length ≤
        preinstallRetryLimit + (consumed Sample.source (x 1).state.log).length := by
  have hreach : (volumeMachine id True False 1).Reachable { files := Sample.files } _ :=
    Sample.starts .refl (by simp) (List.replicate 18 Sample.choice)
  refine ⟨_, Sample.controller_reachable hreach, ?_,
    rebuilds_bounded id _ _ (Sample.controller_reachable hreach) 1 Sample.source⟩
  decide +kernel

/-- A repair that is cut off during its build is resumed with another build, as often as this
happens. -/
theorem rebuilds_unbounded_after_crashes :
    ∃ x, ControllerReachable id False False (fun _ => Sample.files) x ∧
      ¬ (chargedBuilds Sample.source (x 1).state).length ≤
        preinstallRetryLimit + (consumed Sample.source (x 1).state.log).length := by
  have h₁ : (volumeMachine id False False 1).Reachable { files := Sample.files } _ :=
    Sample.cut_off .refl (by simp) (List.replicate 18 Sample.choice)
  have h₂ := Sample.cut_off h₁ (by simp) (List.replicate 16 Sample.choice)
  have h₃ := Sample.cut_off h₂ (by simp) (List.replicate 16 Sample.choice)
  refine ⟨_, Sample.controller_reachable h₃, ?_⟩
  decide +kernel

end StorageNode.IndexRepair
