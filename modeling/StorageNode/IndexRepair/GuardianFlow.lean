import StorageNode.IndexRepair.SoleRepair
import StorageNode.IndexRepair.Finality

/-!
# The guardian's use of the controller

A generation of the guardian prepares the repair of all volumes, starts SeaweedFS, and then either
repairs the volumes that are unexpectedly read-only, which it does at most once and only when no
transaction awaits its validation, or validates, rolls back and reconciles. `Flow.Step` puts the
operations of the controller into this order; a generation may end at any point.

In every state that such a flow reaches, at most one transaction of a volume is under way
(`sole_transaction_underway`). A failed attempt is recorded beside it: its record has no old index, is
created in `detected` and closed by the next save, so that for a moment, or after a crash in between,
two transactions of a volume are in flight (`failure_record_beside_transaction`).
-/

set_option autoImplicit false

namespace StorageNode.IndexRepair

open StorageNode.Program StorageNode.IndexHelper RepairProg

variable {D : Type} [DecidableEq D]

/-- How far a generation has come: `prepare_offline` has not begun, runs, or has returned, and the first
status of SeaweedFS has been acted on. -/
inductive Stage where
  | offline
  | preparing
  | prepared
  | serving
  deriving DecidableEq

/-- The controller on one volume. -/
abbrev VolumeRun (D : Type) := Running (RepairReq D) RepairReq.Ans (RepairExc D) (World D)

/-- The stage of the guardian, and the controller on each volume. -/
structure Flow (D : Type) where
  stage : Stage
  volumes : Int → VolumeRun D

/-- The transactions of a volume. -/
def Flow.journal (s : Flow D) (volumeId : Int) : List (Transaction D) :=
  (s.volumes volumeId).state.journal

/-- What the guardian does with the status of SeaweedFS, apart from a repair. -/
inductive Attends : RepairProg D Unit → Prop
  | validateUpstream (readonly : Int → Option Bool) : Attends (validateUpstream readonly)
  | rollbackRejected (volumeIds : List Int) (reason : String) :
      Attends (rollbackRejected volumeIds reason)
  | reconcile (resolved : Int → Bool) : Attends (reconcileResolvedPreinstall resolved)

/-- A program that has ended, with a result or with an exception. -/
def Ended (p : RepairProg D Unit) : Prop :=
  p = .ret () ∨ ∃ e, p = .raise e

/-- An operation begins on every volume that has transactions. -/
def begin (p : RepairProg D Unit)
    (x : Int → VolumeRun D) :
    Int → VolumeRun D :=
  fun i => ⟨(x i).state, if (x i).state.journal.isEmpty then none else some p⟩

/-- Nothing runs any more. -/
def rested (x : Int → VolumeRun D) :
    Int → VolumeRun D :=
  fun i => ⟨(x i).state, none⟩

/-- One step of the flow. -/
inductive Flow.Step (sha256 : Bytes → D) : Flow D → Flow D → Prop
  | prepare (x : Int → VolumeRun D)
      (hidle : ∀ i, (x i).thread = none) :
      Step sha256 ⟨.offline, x⟩ ⟨.preparing, begin prepareOffline x⟩
  | prepared (x : Int → VolumeRun D)
      (hreturned : ∀ i p, (x i).thread = some p → p = .ret ()) :
      Step sha256 ⟨.preparing, x⟩ ⟨.prepared, rested x⟩
  | repair (x : Int → VolumeRun D) (cfg : Config)
      (jobs : Int → Option (RepairArgs × Nat)) (hidle : ∀ i, (x i).thread = none)
      (hjobs : ∀ i job, jobs i = some job → job.1.volumeId = i)
      (hawaiting : ∀ i, ∀ t ∈ (x i).state.journal, t.phase.pendingValidation = false) :
      Step sha256 ⟨.prepared, x⟩ ⟨.serving, fun i =>
        ⟨(x i).state, (jobs i).map fun job => repairOne cfg job.1 job.2 false⟩⟩
  | attend (stage : Stage) (x : Int → VolumeRun D)
      (p : RepairProg D Unit) (hstage : stage = .prepared ∨ stage = .serving) (hp : Attends p)
      (hidle : ∀ i, (x i).thread = none) : Step sha256 ⟨stage, x⟩ ⟨.serving, begin p x⟩
  | finished (x : Int → VolumeRun D)
      (hended : ∀ i p, (x i).thread = some p → Ended p) :
      Step sha256 ⟨.serving, x⟩ ⟨.serving, rested x⟩
  | ended (stage : Stage) (x : Int → VolumeRun D) :
      Step sha256 ⟨stage, x⟩ ⟨.offline, rested x⟩
  | request (stage : Stage) (x : Int → VolumeRun D)
      (i : Int) (r : RepairReq D) (k : r.Ans → RepairProg D Unit) (c : RepairChoice D)
      (hthread : (x i).thread = some (.call r k)) :
      Step sha256 ⟨stage, x⟩ ⟨stage, Function.update x i
        ⟨(repairExec sha256 r c (x i).state).2, some (k (repairExec sha256 r c (x i).state).1)⟩⟩
  | operator (stage : Stage) (x : Int → VolumeRun D)
      (i : Int) (w : World D) (h : OperatorStep (x i).state w) :
      Step sha256 ⟨stage, x⟩ ⟨stage, Function.update x i ⟨w, (x i).thread⟩⟩
  | write (stage : Stage) (x : Int → VolumeRun D)
      (i : Int) (w : World D) (hidle : (x i).thread = none) (h : OutsideWrite (x i).state w) :
      Step sha256 ⟨stage, x⟩ ⟨stage, Function.update x i ⟨w, none⟩⟩

/-- The states that the flow reaches from empty journals and any files. -/
def FlowReachable (sha256 : Bytes → D) (files : Int → Path → Option Node) (s : Flow D) : Prop :=
  Relation.ReflTransGen (Flow.Step sha256)
    ⟨.offline, fun i => ⟨{ files := files i }, none⟩⟩ s

section

variable {sha256 : Bytes → D}

/-! ## The flow runs the controller -/

theorem Attends.upkeep {p : RepairProg D Unit} (h : Attends p) : Upkeep p := by
  cases h with
  | validateUpstream readonly => exact .validateUpstream readonly
  | rollbackRejected volumeIds reason => exact .rollbackRejected volumeIds reason
  | reconcile resolved => exact .reconcile resolved

theorem volume_rests (i : Int) (y : VolumeRun D) :
    Relation.ReflTransGen (volumeMachine sha256 False False i).Step y ⟨y.state, none⟩ := by
  obtain ⟨w, _ | p⟩ := y
  · exact .refl
  · exact .single (.stop w p False.elim)

theorem volume_starts {i : Int} {y : VolumeRun D} {p : RepairProg D Unit} (hidle : y.thread = none)
    (hp : Upkeep p ∨ Repair i p) :
    Relation.ReflTransGen (volumeMachine sha256 False False i).Step y ⟨y.state, some p⟩ := by
  obtain ⟨w, thread⟩ := y
  obtain rfl : thread = none := hidle
  exact .single (.start w p (hp.imp_right fun hp => ⟨hp, False.elim⟩))

theorem volume_begins {x : Int → VolumeRun D} {p : RepairProg D Unit}
    (hidle : ∀ i, (x i).thread = none) (hp : Upkeep p) (i : Int) :
    Relation.ReflTransGen (volumeMachine sha256 False False i).Step (x i) (begin p x i) := by
  simp only [begin]
  split
  · exact volume_rests i (x i)
  · exact volume_starts (hidle i) (.inl hp)

/-- On one volume, a step of the flow is no step or some steps of the volume's machine. -/
theorem Flow.Step.member {s s' : Flow D} (h : Flow.Step sha256 s s') (i : Int) :
    Relation.ReflTransGen (volumeMachine sha256 False False i).Step (s.volumes i) (s'.volumes i) := by
  -- requests, operators and writes concern one volume
  have hupdate : ∀ {x : Int → VolumeRun D} {j : Int} {y : VolumeRun D},
      (volumeMachine sha256 False False j).Step (x j) y →
      Relation.ReflTransGen (volumeMachine sha256 False False i).Step (x i)
        (Function.update x j y i) := by
    intro x j y hstep
    apply (Function.forall_update_iff x fun i z =>
      Relation.ReflTransGen (volumeMachine sha256 False False i).Step (x i) z).2
    exact ⟨.single hstep, fun _ _ => .refl⟩
  cases h with
  | prepare x hidle => exact volume_begins hidle .prepareOffline i
  | prepared x hreturned => exact volume_rests i (x i)
  | repair x cfg jobs hidle hjobs hawaiting =>
      cases hjob : jobs i with
      | none =>
          simp only [hjob, Option.map_none]
          exact volume_rests i (x i)
      | some job =>
          simp only [hjob, Option.map_some]
          exact volume_starts (hidle i) (.inr (.repairOne cfg job.1 job.2 (hjobs i job hjob)))
  | attend stage x p hstage hp hidle => exact volume_begins hidle hp.upkeep i
  | finished x hended => exact volume_rests i (x i)
  | ended stage x => exact volume_rests i (x i)
  | request stage x j r k c hthread =>
      have hrequest : ∀ y : VolumeRun D,
          y.thread = some (.call r k) → (volumeMachine sha256 False False j).Step y
            ⟨(repairExec sha256 r c y.state).2, some (k (repairExec sha256 r c y.state).1)⟩ := by
        rintro ⟨w, thread⟩ rfl
        exact .request w r k c
      exact hupdate (hrequest (x j) hthread)
  | operator stage x j w h => exact hupdate (.meanwhile (x j).state w (x j).thread h)
  | write stage x j w hidle h =>
      have hwrite : ∀ y : VolumeRun D,
          y.thread = none → OutsideWrite y.state w →
            (volumeMachine sha256 False False j).Step y ⟨w, none⟩ := by
        rintro ⟨w', thread⟩ rfl hwrite
        exact .idle w' w hwrite
      exact hupdate (hwrite (x j) hidle h)

theorem flow_steps_member {s s' : Flow D} (h : Relation.ReflTransGen (Flow.Step sha256) s s')
    (i : Int) :
    Relation.ReflTransGen (volumeMachine sha256 False False i).Step (s.volumes i) (s'.volumes i) := by
  induction h with
  | refl => exact .refl
  | tail _ hstep ih => exact ih.trans (hstep.member i)

/-! ## One transaction under way -/

/-- No installation is open. -/
abbrev NoneInstalling : World D → Prop :=
  EachUnderway fun u => u.phase ≠ .installingCandidate

/-- What holds of a volume in every state of the flow. -/
structure FlowSound (sha256 : Bytes → D) (i : Int) (stage : Stage)
    (y : VolumeRun D) : Prop where
  inv : SoleInv i y.state
  runs : ∀ p, y.thread = some p → (soleDiscipline sha256 i).Runs
    (fun _ w => stage = .preparing → NoneInstalling w) (fun _ _ => True) p y.state
  idle : stage = .prepared → y.thread = none
  clear : stage = .prepared ∨ stage = .preparing ∧ y.thread = none → NoneInstalling y.state

theorem FlowSound.rest {i : Int} {stage stage' : Stage}
    {y : VolumeRun D}
    (h : FlowSound sha256 i stage y)
    (hclear : stage' = .prepared ∨ stage' = .preparing → NoneInstalling y.state) :
    FlowSound sha256 i stage' ⟨y.state, none⟩ :=
  ⟨h.inv, fun _ hp => absurd hp (by simp), fun _ => rfl, fun hs => hclear (hs.imp_right And.left)⟩

/-- A program that starts once the preparation is over. -/
theorem FlowSound.serve {i : Int} {stage : Stage} {P : World D → Prop} {p : RepairProg D Unit}
    {y : VolumeRun D}
    (h : FlowSound sha256 i stage y) (hp : SoleTriple sha256 i P p fun _ _ => True) (hP : P y.state) :
    FlowSound sha256 i .serving ⟨y.state, some p⟩ := by
  refine ⟨h.inv, fun q hq => ?_, fun hs => absurd hs (by simp), fun hs => absurd hs (by simp)⟩
  obtain rfl := Option.some.inj hq
  exact (hp.post fun _ _ _ _ hs => absurd hs (by simp)) y.state h.inv hP

theorem Attends.harmless {p : RepairProg D Unit} (h : Attends p) : p.Issues Harmless := by
  cases h with
  | validateUpstream readonly => exact validateUpstream_harmless readonly
  | rollbackRejected volumeIds reason => exact rollbackRejected_harmless volumeIds reason
  | reconcile resolved => exact reconcileResolvedPreinstall_harmless resolved

omit [DecidableEq D] in
/-- A transaction under way that neither installs nor awaits its validation is before its
installation. -/
theorem preinstall_of_clear {w : World D} (h : NoneInstalling w)
    (hawaiting : ∀ t ∈ w.journal, t.phase.pendingValidation = false) :
    EachUnderway (fun u => u.phase.preinstall = true) w := by
  intro u hu hunder
  have hphase : u.phase ≠ .installingCandidate := h u hu hunder
  have hpending := hawaiting u hu
  have hflight := hunder.1
  revert hphase hpending hflight
  cases u.phase <;> simp [Phase.pendingValidation, Phase.inFlight, Phase.preinstall]

/-- A step of the flow keeps what holds of each volume. -/
theorem FlowSound.step {s s' : Flow D} (hs : ∀ i, FlowSound sha256 i s.stage (s.volumes i))
    (hstep : Flow.Step sha256 s s') (i : Int) : FlowSound sha256 i s'.stage (s'.volumes i) := by
  have hupdate : ∀ {stage : Stage} {x : Int → VolumeRun D} {j : Int} {y : VolumeRun D},
      (∀ i, FlowSound sha256 i stage (x i)) → FlowSound sha256 j stage y →
      FlowSound sha256 i stage (Function.update x j y i) := by
    intro stage x j y hx hy
    apply (Function.forall_update_iff x fun i z => FlowSound sha256 i stage z).2
    exact ⟨hy, fun i _ => hx i⟩
  cases hstep with
  | prepare x hidle =>
      have hi := (hs i).inv
      simp only [begin]
      split
      · next hempty =>
          refine (hs i).rest fun _ u hu => ?_
          simp only [List.isEmpty_iff.1 hempty, List.not_mem_nil] at hu
      · refine ⟨hi, fun p hp => ?_, fun h => absurd h (by simp), fun h => absurd h (by simp)⟩
        obtain rfl := Option.some.inj hp
        exact (prepareOffline_sole.post fun _ _ _ h _ => h) (x i).state hi trivial
  | prepared x hreturned =>
      -- a preparation that returned has left no installation open
      refine (hs i).rest fun _ => ?_
      cases hthread : (x i).thread with
      | none => exact (hs i).clear (.inr ⟨rfl, hthread⟩)
      | some p =>
          obtain rfl := hreturned i p hthread
          exact ((hs i).runs _ hthread).2 rfl
  | repair x cfg jobs hidle hjobs hawaiting =>
      cases hjob : jobs i with
      | none =>
          simp only [hjob, Option.map_none]
          exact (hs i).rest (by simp)
      | some job =>
          -- no transaction awaits its validation and none installs: the one under way is resumed
          simp only [hjob, Option.map_some]
          exact (hs i).serve (repairOne_sole cfg job.1 (hjobs i job hjob) job.2 false)
            (preinstall_of_clear ((hs i).clear (.inl rfl)) (hawaiting i))
  | attend stage x p hstage hp hidle =>
      simp only [begin]
      split
      · exact (hs i).rest (by simp)
      · exact (hs i).serve ((SoleTriple.harmless (φ := fun _ => True) hp.harmless).post
          fun _ _ _ _ => trivial) fun _ _ _ => trivial
  | finished x hended => exact (hs i).rest (by simp)
  | ended stage x => exact (hs i).rest (by simp)
  | request stage x j r k c hthread =>
      -- the discipline of the running program permits its next request
      refine hupdate hs ⟨?_, fun p hp => ?_, fun h => ?_, fun h => ?_⟩
      · have hsafe := (hs j).runs _ hthread (x j).state ((soleDiscipline sha256 j).disturbs_refl _)
        exact (soleDiscipline sha256 j).keeps r c (x j).state (hs j).inv hsafe.1
      · have hsafe := (hs j).runs _ hthread (x j).state ((soleDiscipline sha256 j).disturbs_refl _)
        obtain rfl := Option.some.inj hp
        exact hsafe.2 c
      · exact absurd ((hs j).idle h) (by simp [hthread])
      · rcases h with h | h
        · exact absurd ((hs j).idle h) (by simp [hthread])
        · exact absurd h.2 (by simp)
  | operator stage x j w h =>
      -- `request_retry` between two requests is a disturbance that the program's contract allows
      obtain ⟨hinv, hadded⟩ := (hs j).inv.operator h
      refine hupdate hs ⟨hinv, fun p hp => ?_, (hs j).idle, fun hc => ?_⟩
      · have hrun := (hs j).runs p hp
        refine Safe.stable (soleDiscipline sha256 j).disturbs_trans ?_ ?_ hrun
          fun _ => ⟨hinv, hadded⟩
        · intro _ a b ha hab
          obtain ⟨hb, hd⟩ := hab ha.1
          exact ⟨hb, fun hstage => EachUnderway.stable a b ha.1 hb hd (ha.2 hstage)⟩
        · exact fun _ a b ha hab => ⟨(hab ha.1).1, trivial⟩
      · exact fun u hu hunder => (hs j).clear hc u (hadded u hu hunder) hunder
  | write stage x j w hidle h =>
      cases h with
      | write p node hp =>
          refine hupdate hs ⟨(hs j).inv.congr rfl rfl, fun p hp => absurd hp (by simp), fun _ => rfl, ?_⟩
          exact fun hc => (hs j).clear (hc.imp_right fun h => ⟨h.1, hidle⟩)

theorem FlowReachable.sound {files : Int → Path → Option Node} {s : Flow D}
    (hs : FlowReachable sha256 files s) (i : Int) : FlowSound sha256 i s.stage (s.volumes i) := by
  have hall : ∀ i, FlowSound sha256 i s.stage (s.volumes i) := by
    induction hs with
    | refl =>
        refine fun i => ⟨⟨List.nodup_nil, by simp, ⟨⟨⟨"", i⟩, 0⟩, rfl, ?_⟩, by simp⟩, ?_, ?_, ?_⟩
        · exact fun t ht => absurd ht (by simp)
        · exact fun p hp => absurd hp (by simp)
        · exact fun _ => rfl
        · exact fun h => absurd h (by simp)
    | tail _ hstep ih => exact fun i => FlowSound.step ih hstep i
  exact hall i

end

/-- In every state that a flow reaches: at most one transaction of a volume is under way, transactions in
flight without an old index are newly detected, and whatever follows, transactions in a terminal phase
stay in it. -/
theorem sole_transaction_underway (sha256 : Bytes → D) (files : Int → Path → Option Node) (s : Flow D)
    (hs : FlowReachable sha256 files s) (volumeId : Int) :
    (∀ t ∈ s.journal volumeId, ∀ u ∈ s.journal volumeId, Underway t → Underway u → t = u) ∧
    (∀ t ∈ s.journal volumeId, t.phase.inFlight = true → t.oldIdx = none → t.phase = .detected) ∧
    ∀ s', Relation.ReflTransGen (Flow.Step sha256) s s' → ∀ t ∈ s.journal volumeId,
      t.phase.terminal = true → (∃ u ∈ s'.journal volumeId, u.id = t.id) ∧
        ∀ u ∈ s'.journal volumeId, u.id = t.id → u.phase = t.phase := by
  have hinv := (hs.sound volumeId).inv
  -- all transactions under way have the id that the invariant names
  obtain ⟨i, -, hsole⟩ := hinv.sole
  refine ⟨fun t ht u hu hunder hunder' => ?_, hinv.early, fun s' hs' t ht hterminal => ?_⟩
  · exact List.inj_on_of_nodup_map hinv.nodup ht hu ((hsole t ht hunder).trans (hsole u hu hunder').symm)
  -- on one volume the flow is a run of the controller, which keeps terminal phases
  · obtain ⟨u, hu, hid, hphase⟩ := inPhase_of_steps (flow_steps_member hs volumeId)
      (flow_steps_member hs' volumeId) hterminal ⟨t, ht, rfl, rfl⟩
    have hinv' := (FlowReachable.sound (hs.trans hs') volumeId).inv
    refine ⟨⟨u, hu, hid⟩, fun x hx hxid => ?_⟩
    rw [List.inj_on_of_nodup_map hinv'.nodup hx hu (hxid.trans hid.symm)]
    exact hphase

/-! ## A run with one volume -/

/-- The program that runs on a volume may take any number of its steps. -/
theorem FlowReachable.run {sha256 : Bytes → D} {files : Int → Path → Option Node} {stage : Stage}
    {i : Int} (cs : List (RepairChoice D)) {x : Int → VolumeRun D} {w : World D}
    {p : RepairProg D Unit}
    (h : FlowReachable sha256 files ⟨stage, Function.update x i ⟨w, some p⟩⟩) :
    FlowReachable sha256 files ⟨stage, Function.update x i
      ⟨p.after (repairExec sha256) cs w, some (p.rest (repairExec sha256) cs w)⟩⟩ := by
  induction cs generalizing w p with
  | nil => cases p <;> exact h
  | cons c cs ih =>
      cases p with
      | ret a => exact h
      | raise e => exact h
      | call r k =>
          have hnext := h.tail (.request stage _ i r k c (by rw [Function.update_self]))
          rw [Function.update_self, Function.update_idem] at hnext
          exact ih hnext

namespace Sample

variable {stage : Stage} {w : World Bytes}

/-- The flow with this one volume. -/
def flow (stage : Stage) (w : World Bytes) (thread : Option (RepairProg Bytes Unit) := none) :
    Flow Bytes :=
  ⟨stage, controller files ⟨w, thread⟩⟩

def Reaches (s : Flow Bytes) : Prop :=
  FlowReachable id (fun _ => files) s

theorem thread_controller {i : Int} {y : VolumeRun Bytes} (h : y.thread = none) :
    (controller files y i).thread = none := by
  by_cases hi : i = 1
  · rw [hi, controller, Function.update_self]
    exact h
  · rw [controller, Function.update_of_ne hi]

theorem rested_controller (y : VolumeRun Bytes) :
    rested (controller files y) = controller files ⟨y.state, none⟩ := by
  funext i
  by_cases hi : i = 1
  · simp [rested, controller, hi]
  · simp [rested, controller, hi]

theorem begin_controller (p : RepairProg Bytes Unit) (w : World Bytes) :
    begin p (controller files ⟨w, none⟩) =
      controller files ⟨w, if w.journal.isEmpty then none else some p⟩ := by
  funext i
  by_cases hi : i = 1
  · simp [begin, controller, hi]
  · simp [begin, controller, hi]

theorem starts_flow : Reaches (flow .offline { files := files }) := by
  have hstart : (fun _ => ⟨{ files := files }, none⟩ : Int → VolumeRun Bytes) =
      controller files ⟨{ files := files }, none⟩ :=
    (Function.update_eq_self (1 : Int) (fun _ => ⟨{ files := files }, none⟩ : Int → VolumeRun Bytes)).symm
  rw [Reaches, FlowReachable, hstart]
  exact .refl

/-- A generation of a volume without transactions. -/
theorem prepares_empty (h : Reaches (flow .offline w)) (hempty : w.journal.isEmpty = true) :
    Reaches (flow .prepared w) := by
  have hbegun := h.tail (.prepare _ fun i => thread_controller rfl)
  rw [begin_controller, hempty, if_pos rfl] at hbegun
  have hdone := hbegun.tail (.prepared _ fun i p hp =>
    absurd ((thread_controller rfl).symm.trans hp) (by simp))
  rw [rested_controller] at hdone
  exact hdone

/-- A generation whose preparation returns. -/
theorem prepares (h : Reaches (flow .offline w)) (hjournal : w.journal.isEmpty = false)
    (cs : List (RepairChoice Bytes))
    (hreturns : ((prepareOffline : RepairProg Bytes Unit).run (repairExec id) cs w).1.value = some ()) :
    Reaches (flow .prepared ((prepareOffline : RepairProg Bytes Unit).after (repairExec id) cs w)) := by
  have hbegun := h.tail (.prepare _ fun i => thread_controller rfl)
  rw [begin_controller, hjournal, if_neg (by simp)] at hbegun
  have hrun := FlowReachable.run cs hbegun
  rw [Prog.rest_of_value hreturns] at hrun
  refine (rested_controller ⟨(prepareOffline : RepairProg Bytes Unit).after (repairExec id) cs w,
    some (.ret ())⟩ ▸ hrun.tail (.prepared _ fun i p hp => ?_) : Reaches ⟨.prepared, _⟩)
  · by_cases hi : i = 1
    · rw [hi, Function.update_self] at hp
      exact (Option.some.inj hp).symm
    · rw [Function.update_of_ne hi] at hp
      exact absurd hp (by simp)

/-- A repair of the volume that takes some of its steps. -/
theorem repairs (h : Reaches (flow .prepared w))
    (hawaiting : ∀ t ∈ w.journal, t.phase.pendingValidation = false) (cs : List (RepairChoice Bytes)) :
    Reaches (flow .serving (repair.after (repairExec id) cs w)
      (some (repair.rest (repairExec id) cs w))) := by
  have hjobs : (fun i => ⟨(controller files ⟨w, none⟩ i).state,
      (if i = 1 then some (⟨"", 1, ""⟩, 2) else none : Option (RepairArgs × Nat)).map fun job =>
        repairOne config job.1 job.2 false⟩ : Int → VolumeRun Bytes) =
      controller files ⟨w, some repair⟩ := by
    funext i
    by_cases hi : i = 1
    · simp [controller, repair, hi]
    · simp [controller, hi]
  have hbegun := h.tail (.repair _ config (fun i => if i = 1 then some (⟨"", 1, ""⟩, 2) else none)
    (fun i => thread_controller rfl) (fun i job hjob => ?_) fun i t ht => ?_)
  · rw [hjobs] at hbegun
    exact FlowReachable.run cs hbegun
  · by_cases hi : i = 1
    · rw [if_pos hi] at hjob
      rw [← Option.some.inj hjob, hi]
    · rw [if_neg hi] at hjob
      exact absurd hjob (by simp)
  · by_cases hi : i = 1
    · rw [hi, controller, Function.update_self] at ht
      exact hawaiting t ht
    · rw [controller, Function.update_of_ne hi] at ht
      exact absurd ht (by simp)

/-- The first repair, cut off after its build has begun. -/
def interruptedRepair : World Bytes :=
  repair.after (repairExec id) (List.replicate 18 choice) { files := files }

theorem reaches_interruptedRepair : Reaches (flow .offline interruptedRepair) := by
  have hrun := repairs (prepares_empty starts_flow rfl) (by simp) (List.replicate 18 choice)
  have hended := hrun.tail (.ended _ _)
  rw [rested_controller] at hended
  exact hended

/-- The repair of the next generation, after it has created a record of its failed preflight. -/
def failingRepair : World Bytes :=
  repair.after (repairExec id) (List.replicate 6 {})
    ((prepareOffline : RepairProg Bytes Unit).after (repairExec id) (List.replicate 3 choice)
      interruptedRepair)

theorem reaches_failingRepair : ∃ thread, Reaches (flow .serving failingRepair thread) := by
  have hprepared := prepares reaches_interruptedRepair (by decide +kernel)
    (List.replicate 3 choice) (by decide +kernel)
  exact ⟨_, repairs hprepared (by decide +kernel) (List.replicate 6 {})⟩

end Sample

/-- The run of a first repair that is cut off, at the one transaction that it leaves behind. -/
theorem sole_transaction_underway_interrupted :
    ∃ s : Flow Bytes, FlowReachable id (fun _ => Sample.files) s ∧
      (∃ t ∈ s.journal 1, Underway t) ∧
      ∀ t ∈ s.journal 1, ∀ u ∈ s.journal 1, Underway t → Underway u → t = u := by
  have hunder : ∃ t ∈ Sample.interruptedRepair.journal,
      t.phase.inFlight = true ∧ t.oldIdx ≠ none := by
    decide +kernel
  exact ⟨_, Sample.reaches_interruptedRepair, hunder,
    (sole_transaction_underway id _ _ Sample.reaches_interruptedRepair 1).1⟩

/-- After a crash during a build, the next repair records a failed preflight beside the interrupted
transaction: two transactions of the volume are in flight. -/
theorem failure_record_beside_transaction :
    ¬ ∀ s : Flow Bytes, FlowReachable id (fun _ => Sample.files) s → ∀ volumeId,
      ∀ t ∈ s.journal volumeId, ∀ u ∈ s.journal volumeId, t.phase.inFlight = true →
        u.phase.inFlight = true → t = u := by
  intro hclaim
  obtain ⟨thread, hreach⟩ := Sample.reaches_failingRepair
  obtain ⟨t, ht, u, hu, hflight, hflight', hne⟩ : ∃ t ∈ Sample.failingRepair.journal,
      ∃ u ∈ Sample.failingRepair.journal, t.phase.inFlight = true ∧ u.phase.inFlight = true ∧
        t.id ≠ u.id := by
    decide +kernel
  exact hne (congrArg Transaction.id (hclaim _ hreach 1 t ht u hu hflight hflight'))

end StorageNode.IndexRepair
