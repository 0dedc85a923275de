import StorageNode.IndexRepair.Records
import StorageNode.IndexRepair.Controller

/-!
# Time stamps of journal records

`max(items, key=updated_at)` is used on many subsets of one journal. The selections agree when no two
records of the journal carry the same stamp. A stamp is taken right before the record is saved, but
an operator, or a repair that uses up an authorization, saves a copy with an older one. The invariant
is therefore about the log: a stamp belongs to one transaction for ever (`StampInv.owner`), and every
record in the journal or in the hands of an operator carries a stamp of its own (`Stamped`).
-/

set_option autoImplicit false

namespace StorageNode.IndexRepair

open StorageNode.Program StorageNode.IndexHelper RepairProg

variable {D : Type}

/-- The record was saved with this id and stamp. -/
def Stamped (w : World D) (t : Transaction D) : Prop :=
  ∃ kind u, Event.saved kind u ∈ w.log ∧ u.id = t.id ∧ u.updatedAt = t.updatedAt

/-- A stamp that no save has used, and that is not in the future. -/
def Unused (w : World D) (stamp : Nat) : Prop :=
  (∀ kind u, Event.saved kind u ∈ w.log → u.updatedAt < stamp) ∧ stamp ≤ w.clock

/-- Stamps belong to one transaction each. -/
structure StampInv (w : World D) : Prop where
  nodup : (w.journal.map Transaction.id).Nodup
  journal : ∀ t ∈ w.journal, OriginOk t ∧ Stamped w t
  operators : ∀ t ∈ w.operators, OriginOk t ∧ Stamped w t
  owner : ∀ kind t kind' u, Event.saved kind t ∈ w.log → Event.saved kind' u ∈ w.log →
    t.updatedAt = u.updatedAt → t.id = u.id
  past : ∀ kind t, Event.saved kind t ∈ w.log → t.updatedAt ≤ w.clock

/-- Saves in between use stamps that their transactions have. -/
structure StampsKept (w w' : World D) : Prop where
  clock : w.clock ≤ w'.clock
  kept : ∀ kind t, Event.saved kind t ∈ w.log → Event.saved kind t ∈ w'.log
  added : ∀ kind t, Event.saved kind t ∈ w'.log → Stamped w t

theorem Stamped.of_saved {w : World D} {kind : SaveKind} {t : Transaction D}
    (h : Event.saved kind t ∈ w.log) : Stamped w t :=
  ⟨kind, t, h, rfl, rfl⟩

theorem Stamped.congr {w : World D} {t u : Transaction D} (h : Stamped w t) (hid : u.id = t.id)
    (hstamp : u.updatedAt = t.updatedAt) : Stamped w u := by
  obtain ⟨kind, v, hv, hvid, hvstamp⟩ := h
  exact ⟨kind, v, hv, hvid.trans hid.symm, hvstamp.trans hstamp.symm⟩

namespace StampsKept

theorem refl (w : World D) : StampsKept w w :=
  ⟨Nat.le_refl _, fun _ _ h => h, fun _ _ h => .of_saved h⟩

theorem stamped {w w' : World D} (h : StampsKept w w') {t : Transaction D} (ht : Stamped w t) :
    Stamped w' t := by
  obtain ⟨kind, u, hu, hid, hstamp⟩ := ht
  exact ⟨kind, u, h.kept kind u hu, hid, hstamp⟩

theorem stamped_back {w w' : World D} (h : StampsKept w w') {t : Transaction D}
    (ht : Stamped w' t) : Stamped w t := by
  obtain ⟨kind, u, hu, hid, hstamp⟩ := ht
  exact (h.added kind u hu).congr hid.symm hstamp.symm

theorem trans (a b c : World D) (hab : StampsKept a b) (hbc : StampsKept b c) : StampsKept a c where
  clock := Nat.le_trans hab.clock hbc.clock
  kept kind t h := hbc.kept kind t (hab.kept kind t h)
  added kind t h := hab.stamped_back (hbc.added kind t h)

theorem unused {w w' : World D} (h : StampsKept w w') {stamp : Nat} (hstamp : Unused w stamp) :
    Unused w' stamp := by
  refine ⟨fun kind u hu => ?_, Nat.le_trans hstamp.2 h.clock⟩
  obtain ⟨kind', v, hv, -, heq⟩ := h.added kind u hu
  rw [← heq]
  exact hstamp.1 kind' v hv

end StampsKept

/-! ## One save -/

section

variable {w : World D} {kind : SaveKind} {t : Transaction D}

theorem stamped_saveRecord {u : Transaction D} (h : Stamped w u) :
    Stamped (w.saveRecord kind t) u := by
  obtain ⟨kind', v, hv, hid, hstamp⟩ := h
  exact ⟨kind', v, List.mem_cons_of_mem _ hv, hid, hstamp⟩

/-- A record may be saved with its own stamp or with an unused one. -/
theorem StampInv.saveRecord (h : StampInv w) (horigin : OriginOk t)
    (hstamp : Stamped w t ∨ Unused w t.updatedAt) : StampInv (w.saveRecord kind t) where
  nodup := nodup_saveTransaction h.nodup
  journal u hu := by
    rcases mem_saveTransaction.1 hu with ⟨hu, -⟩ | rfl
    · exact ⟨(h.journal u hu).1, stamped_saveRecord (h.journal u hu).2⟩
    · exact ⟨horigin, .of_saved List.mem_cons_self⟩
  operators u hu := ⟨(h.operators u hu).1, stamped_saveRecord (h.operators u hu).2⟩
  owner k u k' v hu hv heq := by
    -- the stamp of `t` is its own: either it was before, or nobody had it
    have hown : ∀ k x, Event.saved k x ∈ w.log → x.updatedAt = t.updatedAt → x.id = t.id := by
      intro k x hx hxt
      rcases hstamp with ⟨k', y, hy, hid, hyt⟩ | hunused
      · exact (h.owner k x k' y hx hy (hxt.trans hyt.symm)).trans hid
      · exact absurd hxt (Nat.ne_of_lt (hunused.1 k x hx))
    rcases List.mem_cons.1 hu with hu' | hu'
    · obtain ⟨-, rfl⟩ := Event.saved.inj hu'
      rcases List.mem_cons.1 hv with hv' | hv'
      · exact (congrArg Transaction.id (Event.saved.inj hv').2).symm
      · exact (hown k' v hv' heq.symm).symm
    · rcases List.mem_cons.1 hv with hv' | hv'
      · obtain ⟨-, rfl⟩ := Event.saved.inj hv'
        exact hown k u hu' heq
      · exact h.owner k u k' v hu' hv' heq
  past k u hu := by
    rcases List.mem_cons.1 hu with hu | hu
    · obtain ⟨rfl, rfl⟩ := Event.saved.inj hu
      rcases hstamp with ⟨k', y, hy, -, hyt⟩ | hunused
      · rw [← hyt]
        exact h.past k' y hy
      · exact hunused.2
    · exact h.past k u hu

end

/-- A step that saves nothing: journal, copies and saves stay, and time goes on. -/
structure SavesNothing (w w' : World D) : Prop where
  journal : w'.journal = w.journal
  operators : w'.operators = w.operators
  clock : w.clock ≤ w'.clock
  saved : ∀ kind t, Event.saved kind t ∈ w'.log ↔ Event.saved kind t ∈ w.log

theorem SavesNothing.refl (w : World D) : SavesNothing w w :=
  ⟨rfl, rfl, Nat.le_refl _, fun _ _ => Iff.rfl⟩

theorem SavesNothing.setFile (w : World D) (p : Path) (node : Option Node) :
    SavesNothing w (w.setFile p node) :=
  ⟨rfl, rfl, Nat.le_refl _, fun _ _ => Iff.rfl⟩

theorem savesNothing_of_write {w w' : World D} (h : OutsideWrite w w') : SavesNothing w w' := by
  cases h with
  | write p node hp => exact .setFile w p node

theorem StampInv.congr {w w' : World D} (h : StampInv w) (hs : SavesNothing w w') : StampInv w' := by
  have hstamped : ∀ t, Stamped w t → Stamped w' t := by
    rintro t ⟨kind, u, hu, hid, hstamp⟩
    exact ⟨kind, u, (hs.saved kind u).2 hu, hid, hstamp⟩
  refine ⟨hs.journal ▸ h.nodup, fun t ht => ?_, fun t ht => ?_, ?_, ?_⟩
  · rw [hs.journal] at ht
    exact ⟨(h.journal t ht).1, hstamped t (h.journal t ht).2⟩
  · rw [hs.operators] at ht
    exact ⟨(h.operators t ht).1, hstamped t (h.operators t ht).2⟩
  · exact fun k t k' u ht hu => h.owner k t k' u ((hs.saved k t).1 ht) ((hs.saved k' u).1 hu)
  · exact fun k t ht => Nat.le_trans (h.past k t ((hs.saved k t).1 ht)) hs.clock

variable [DecidableEq D]

/-- A request saves its record, or nothing. -/
theorem repairExec_saves (sha256 : Bytes → D) (r : RepairReq D) (c : RepairChoice D) (w : World D) :
    SavesNothing w (repairExec sha256 r c w).2 ∨
      ∃ kind t, r = .save kind t ∧ (repairExec sha256 r c w).2 = w.saveRecord kind t := by
  have heffect := repairExec_effect sha256 r c w
  generalize (repairExec sha256 r c w).2 = w' at heffect ⊢
  cases heffect with
  | nothing => exact .inl (.refl w)
  | time clock hr h => exact .inl ⟨rfl, rfl, h, fun _ _ => Iff.rfl⟩
  | name base hr => exact .inl ⟨rfl, rfl, Nat.le_refl _, fun _ _ => Iff.rfl⟩
  | record kind t hr => exact .inr ⟨kind, t, hr, rfl⟩
  | write files events hfiles hevents =>
      refine .inl ⟨rfl, rfl, Nat.le_refl _, fun kind t => ?_⟩
      rw [List.mem_append, or_iff_right (hevents kind t)]

/-! ## The discipline -/

/-- Under which facts a record is saved. -/
def StampPermit (r : RepairReq D) (w : World D) : Prop :=
  ∀ t, r.saves = some t → OriginOk t ∧ (Stamped w t ∨ Unused w t.updatedAt)

/-- Stamps under the requests of the controller and under `request_retry` calls. -/
def stampDiscipline (sha256 : Bytes → D) : Discipline (repairExec sha256) where
  inv := StampInv
  disturb := StampsKept
  allow := StampPermit
  refl := StampsKept.refl
  trans := StampsKept.trans
  keeps r c w h hallow := by
    rcases repairExec_saves sha256 r c w with hs | ⟨kind, t, rfl, heq⟩
    · exact h.congr hs
    · obtain ⟨horigin, hstamp⟩ := hallow t rfl
      rw [heq]
      exact h.saveRecord horigin hstamp

section

variable {sha256 : Bytes → D}

/-- A save under an unused stamp, or under the record's own. -/
theorem must_trySave_stamps {P : World D → Prop} (hP : (stampDiscipline sha256).Stable P)
    {kind : SaveKind} {t : Transaction D} (horigin : OriginOk t)
    (hstamp : ∀ w, P w → Stamped w t ∨ Unused w t.updatedAt) :
    (stampDiscipline sha256).Triple P (must (trySave kind t)) (fun _ _ => True) fun _ _ => True := by
  refine Discipline.Triple.bind (M := fun _ _ => True) (Discipline.Triple.ask hP ?_ ?_) fun saved => ?_
  · intro w _ hw u hu
    obtain rfl := Option.some.inj hu
    exact ⟨horigin, hstamp w hw⟩
  · exact fun _ _ _ _ _ => trivial
  · exact Discipline.Triple.raiseIf (fun _ _ _ _ => trivial) fun _ _ _ _ => trivial

theorem unused_stable (stamp : Nat) : (stampDiscipline sha256).Stable fun w => Unused w stamp :=
  fun _ _ _ _ hd h => hd.unused h

theorem stamped_stable (t : Transaction D) : (stampDiscipline sha256).Stable fun w => Stamped w t :=
  fun _ _ _ _ hd h => hd.stamped h

/-- The clock is read: its value is an unused stamp. -/
theorem now_stamps : (stampDiscipline sha256).Triple (fun _ => True) RepairProg.now
    (fun at_ w => Unused w at_) fun _ _ => True := by
  refine Discipline.Triple.ask (Discipline.Stable.const True) ?_ ?_
  · intro w _ _ t ht
    exact absurd ht (by simp [RepairReq.saves])
  · intro c w hw _ _
    refine ⟨fun kind u hu => ?_, Nat.le_refl _⟩
    have := hw.past kind u hu
    simp only [repairExec]
    omega

theorem transition_stamps {t : Transaction D} (ht : OriginOk t) (phase : Phase) :
    Yields (stampDiscipline sha256) (RepairProg.transition t phase) fun u =>
      ∃ at_, u = { t with phase := phase, updatedAt := at_ } := by
  refine Discipline.Triple.bind now_stamps fun at_ => ?_
  refine Discipline.Triple.bind (must_trySave_stamps (unused_stable at_) ?_ ?_) fun _ => ?_
  · exact ht.moved ⟨rfl, rfl, rfl, rfl⟩
  · exact fun w hw => .inr hw
  · exact Discipline.Triple.ret fun _ _ _ => ⟨at_, rfl⟩

theorem stampRules : FullRules (stampDiscipline sha256) fun t w => Stamped w t where
  quiet r w hr _ := fun t ht => absurd (hr.1.symm.trans ht) (by simp)
  every r w hr _ := fun t ht => absurd (hr.symm.trans ht) (by simp)
  transition t phase ht _ := transition_stamps ht phase
  installing t ht := (transition_stamps ht _).post fun u ⟨_, hu⟩ => hu ▸ ⟨rfl, rfl, rfl, rfl⟩
  create authorized base payload hpayload := by
    -- the time is read first, so no record has it yet when the new one is saved
    refine Discipline.Triple.bind now_stamps fun at_ => ?_
    refine Discipline.Triple.bind (M := fun id w => id.base = base ∧ Unused w at_)
      (Discipline.Triple.ask (unused_stable at_) ?_ ?_) fun id => Discipline.Triple.assume fun hid => ?_
    · intro w _ _ t ht
      exact absurd ht (by simp [RepairReq.saves])
    · exact fun c w _ hw _ => ⟨rfl, hw⟩
    · refine Discipline.Triple.bind (must_trySave_stamps (unused_stable at_)
        (hpayload id at_ hid).1 ?_) fun _ => ?_
      · intro w hw
        rw [(hpayload id at_ hid).2.2]
        exact .inr hw
      · exact Discipline.Triple.ret fun _ _ _ => ⟨id, at_, hid, rfl⟩
  transactions := by
    refine Discipline.Triple.bind (M := fun answer w => ∀ ts, answer = some ts →
      ∀ t ∈ ts, OriginOk t ∧ Stamped w t) (Discipline.Triple.ask (Discipline.Stable.const True) ?_ ?_)
      fun answer => Discipline.Triple.orRaise (fun _ _ _ _ => trivial) fun ts hts w _ h => h ts hts
    · intro w _ _ t ht
      exact absurd ht (by simp [RepairReq.saves])
    · intro c w hw _ _ ts hts t ht
      rw [repairExec_load hts] at ht
      exact hw.journal t ht
  consume t refusal ht _ := by
    refine Discipline.Triple.bind (M := fun _ w => Stamped w t)
      (Discipline.Triple.raiseIf (fun _ _ _ _ => trivial) fun _ _ _ h => h) fun _ => ?_
    refine must_trySave_stamps (stamped_stable t) (ht.moved ⟨rfl, rfl, rfl, rfl⟩) ?_
    exact fun w hw => .inl (hw.congr rfl rfl)

end

/-! ## Runs -/

omit [DecidableEq D] in
/-- A `request_retry` call saves a record with the stamp it has. -/
theorem operatorStep_stamps {w w' : World D} (h : StampInv w) (hstep : OperatorStep w w') :
    StampInv w' ∧ StampsKept w w' := by
  cases hstep with
  | load t ht =>
      have hmem := (List.mem_filter.1 (latestOf_mem ht)).1
      refine ⟨⟨h.nodup, h.journal, fun u hu => ?_, h.owner, h.past⟩,
        Nat.le_refl _, fun _ _ hu => hu, fun _ _ hu => .of_saved hu⟩
      rcases List.mem_cons.1 hu with rfl | hu
      · exact h.journal u hmem
      · exact h.operators u hu
  | save t elapsed others later heq =>
      obtain ⟨horigin, hstamped⟩ := h.operators t (by simp [heq])
      have hlater : StampInv { w with clock := w.clock + 1 + elapsed, operators := others ++ later } := by
        refine ⟨h.nodup, h.journal, fun u hu => h.operators u ?_, h.owner, fun k u hu => ?_⟩
        · rw [heq]
          rcases List.mem_append.1 hu with hu | hu
          · exact List.mem_append_left _ hu
          · exact List.mem_append_right _ (List.mem_cons_of_mem _ hu)
        · have := h.past k u hu
          dsimp only
          omega
      refine ⟨hlater.saveRecord (horigin.moved ⟨rfl, rfl, rfl, rfl⟩) (.inl (hstamped.congr rfl rfl)), ?_⟩
      refine ⟨?_, fun kind u hu => List.mem_cons_of_mem _ hu, fun kind u hu => ?_⟩
      · simp only [World.saveRecord]
        omega
      · rcases List.mem_cons.1 hu with hu | hu
        · obtain ⟨rfl, rfl⟩ := Event.saved.inj hu
          exact hstamped.congr rfl rfl
        · exact .of_saved hu

section

variable {sha256 : Bytes → D} {clean tidy : Prop}

theorem volumeMachine_stamps (volumeId : Int) :
    (volumeMachine sha256 clean tidy volumeId).Follows (stampDiscipline sha256) fun _ => True where
  meanwhile _ _ h hstep := operatorStep_stamps h hstep
  rest_meanwhile _ _ _ _ _ := trivial
  idle w w' h _ hstep := ⟨h.congr (savesNothing_of_write hstep), trivial⟩
  stop _ _ _ := trivial
  start w p h _ hp := by
    rcases hp with hp | ⟨hp, -⟩
    · cases hp with
      | prepareOffline => exact stampRules.prepareOffline w h trivial
      | validateUpstream readonly => exact stampRules.validateUpstream readonly w h trivial
      | rollbackRejected volumeIds reason =>
          exact stampRules.rollbackRejected volumeIds reason w h trivial
      | reconcile resolved => exact stampRules.reconcileResolvedPreinstall resolved w h trivial
    · cases hp with
      | repairOne cfg args fuel => exact stampRules.repairOne cfg args fuel false w h trivial

/-- In every state that the controller reaches, stamps tell the records of a volume apart. -/
theorem stampInv_of_reachable {volumeId : Int} {files : Path → Option Node}
    {x : Running (RepairReq D) RepairReq.Ans (RepairExc D) (World D)}
    (hx : (volumeMachine sha256 clean tidy volumeId).Reachable { files := files } x) :
    StampInv x.state := by
  have hstart : StampInv ({ files := files } : World D) :=
    ⟨List.nodup_nil, by simp, by simp, by simp, by simp⟩
  exact ((volumeMachine_stamps volumeId).reachable hstart trivial hx).inv

end

omit [DecidableEq D] in
theorem StampInv.eq_of_stamp {w : World D} (h : StampInv w) {t u : Transaction D}
    (ht : t ∈ w.journal) (hu : u ∈ w.journal) (heq : t.updatedAt = u.updatedAt) : t = u := by
  obtain ⟨k, x, hx, hxid, hxt⟩ := (h.journal t ht).2
  obtain ⟨k', y, hy, hyid, hyu⟩ := (h.journal u hu).2
  have hid : x.id = y.id := h.owner k x k' y hx hy (by rw [hxt, hyu, heq])
  exact List.inj_on_of_nodup_map h.nodup ht hu (hxid.symm.trans (hid.trans hyid))

end StorageNode.IndexRepair
