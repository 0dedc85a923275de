import StorageNode.IndexRepair.BatchRepair
import StorageNode.IndexRepair.Detected
import StorageNode.IndexRepair.Locality

/-!
# Repairs that share a journal

`repair_detected` as a whole: the refusals, and a pool of workers that repair the volumes of the
status. The workers share one journal directory, one file system and one clock, and a step of the pool
serves one request of one worker. With a concurrency of at most one this is the sequential loop, which
an exception other than an `IndexRepairError` ends.

`PoolStep.confined_run` is the frame of every run, whatever the schedule and the failures: nothing
changes of a volume that no worker was started for.
-/

set_option autoImplicit false

namespace StorageNode.IndexRepair

open StorageNode.Program StorageNode.IndexHelper StorageNode.SeaweedHealth RepairProg

variable {D : Type}

/-! ## The shared state -/

/-- What the workers share. New names are drawn per volume: an id carries its volume. -/
structure Store (D : Type) where
  journal : List (Transaction D) := []
  files : Path → Option Node
  clock : Nat := 0
  serials : Int → Nat := fun _ => 0

/-- The records of a volume. -/
def recordsOf (v : Int) (ts : List (Transaction D)) : List (Transaction D) :=
  ts.filter fun t => decide (t.id.base.volumeId = v)

/-- The state in which a worker's request is served: the journal and the files of all volumes. -/
def Store.world (s : Store D) (v : Int) : World D :=
  { journal := s.journal, files := s.files, clock := s.clock, nextSerial := s.serials v }

/-- The state after a request of a worker. -/
def Store.put (s : Store D) (v : Int) (w : World D) : Store D :=
  { journal := w.journal, files := w.files, clock := w.clock,
    serials := Function.update s.serials v w.nextSerial }

@[simp] theorem Store.put_serials (s : Store D) (v : Int) (w : World D) :
    (s.put v w).serials v = w.nextSerial :=
  Function.update_self v _ _

/-- Every record agrees with itself, as those that the controller writes. -/
def Store.Sound (s : Store D) : Prop :=
  ∀ t ∈ s.journal, WellFormed t

/-- Nothing of the volume has changed. -/
structure LeftAlone (u : Int) (s s' : Store D) : Prop where
  files : ∀ p : Path, p.base.volumeId = u → s'.files p = s.files p
  records : recordsOf u s'.journal = recordsOf u s.journal
  serials : s'.serials u = s.serials u

theorem LeftAlone.refl (u : Int) (s : Store D) : LeftAlone u s s := ⟨fun _ _ => rfl, rfl, rfl⟩

theorem LeftAlone.trans {u : Int} {s s' s'' : Store D} (h : LeftAlone u s s')
    (h' : LeftAlone u s' s'') : LeftAlone u s s'' where
  files p hp := (h'.files p hp).trans (h.files p hp)
  records := h'.records.trans h.records
  serials := h'.serials.trans h.serials

/-- A save of another volume's record. -/
theorem recordsOf_save_other {u : Int} {t : Transaction D} (h : t.id.base.volumeId ≠ u)
    (ts : List (Transaction D)) : recordsOf u (saveTransaction ts t) = recordsOf u ts := by
  rw [recordsOf, saveTransaction, List.filter_append, List.filter_cons_of_neg (by simpa using h),
    List.filter_nil, List.append_nil, List.filter_filter, recordsOf]
  refine List.filter_congr fun x _ => ?_
  by_cases hx : x.id.base.volumeId = u
  · have hne : x.id ≠ t.id := fun heq => h (heq ▸ hx)
    simp [hx, hne]
  · simp [hx]

/-- A save of a record of the volume. -/
theorem recordsOf_save_own {v : Int} {t : Transaction D} (h : t.id.base.volumeId = v)
    (ts : List (Transaction D)) :
    recordsOf v (saveTransaction ts t) = saveTransaction (recordsOf v ts) t := by
  rw [recordsOf, saveTransaction, List.filter_append, List.filter_cons_of_pos (by simpa using h),
    List.filter_nil, saveTransaction, recordsOf, List.filter_filter, List.filter_filter]
  congr 1
  exact List.filter_congr fun x _ => Bool.and_comm _ _

/-- A request writes the files that it names. -/
theorem RepairReq.mem_paths_of_writes {r : RepairReq D} {p : Path} (h : r.Writes p) :
    p ∈ r.paths := by
  cases r with
  | unlink q => simpa [RepairReq.Writes, RepairReq.paths] using h
  | copy source destination mode =>
      simp only [RepairReq.Writes] at h
      simp [RepairReq.paths, h]
  | link source destination =>
      simp only [RepairReq.Writes] at h
      simp [RepairReq.paths, h]
  | replace source destination => simpa [RepairReq.Writes, RepairReq.paths] using h
  | removeStaging id => simpa [RepairReq.Writes, RepairReq.paths] using h
  | build id fingerprint => simpa [RepairReq.Writes, RepairReq.paths] using h
  | recoverTail id expected maximum =>
      rcases h with rfl | rfl | rfl <;> simp [RepairReq.paths]
  | _ => exact absurd h (by simp [RepairReq.Writes])

/-- A request draws names of its volume only. -/
theorem LocalLink.owns {v : Int} {φ : Nat → Nat} {r r' : RepairReq D}
    {A : r.Ans → r'.Ans → Prop} (h : LocalLink v φ r r' A) :
    (∀ p, r'.Writes p → p.base.volumeId = v) ∧
      ∀ t, r'.saves = some t → t.id.base.volumeId = v ∧ WellFormed t := by
  cases h with
  | now => exact ⟨fun _ hp => absurd hp (by simp [RepairReq.Writes]), by simp [RepairReq.saves]⟩
  | load => exact ⟨fun _ hp => absurd hp (by simp [RepairReq.Writes]), by simp [RepairReq.saves]⟩
  | save kind t hv ht =>
      refine ⟨fun _ hp => absurd hp (by simp [RepairReq.Writes]), ?_⟩
      rintro _ ⟨rfl⟩
      exact ⟨hv, ht.shift⟩
  | uuid base hv => exact ⟨fun _ hp => absurd hp (by simp [RepairReq.Writes]), by simp [RepairReq.saves]⟩
  | scratchName base hv =>
      exact ⟨fun _ hp => absurd hp (by simp [RepairReq.Writes]), by simp [RepairReq.saves]⟩
  | own _ hr =>
      refine ⟨fun p hp => hr.2 p (RepairReq.mem_paths_of_writes hp), fun t ht => ?_⟩
      cases r with
      | save kind t => exact absurd hr.1 (by simp [RepairReq.plain])
      | _ => exact absurd ht (by simp [RepairReq.saves])

variable [DecidableEq D]

/-- The effect of a request of a worker. -/
def storeExec (sha256 : Bytes → D) (v : Int) (r : RepairReq D) (c : RepairChoice D) (s : Store D) :
    r.Ans × Store D :=
  ((repairExec sha256 r c (s.world v)).1, s.put v (repairExec sha256 r c (s.world v)).2)

section

variable {sha256 : Bytes → D} {v : Int} {φ : Nat → Nat} {r r' : RepairReq D}
  {A : r.Ans → r'.Ans → Prop} {s : Store D}

/-- A request of a repair leaves other volumes alone. -/
theorem storeExec_leftAlone (h : LocalLink v φ r r' A) (c : RepairChoice D) {u : Int} (hu : u ≠ v) :
    LeftAlone u s (storeExec sha256 v r' c s).2 where
  files p hp := by
    refine repairExec_files sha256 c (s.world v) fun hwrites => hu ?_
    rw [← hp]
    exact h.owns.1 p hwrites
  records := by
    change recordsOf u (repairExec sha256 r' c (s.world v)).2.journal = _
    rcases repairExec_journal sha256 r' c (s.world v) with heq | ⟨t, ht, heq⟩
    · rw [heq]
      rfl
    · rw [heq]
      exact recordsOf_save_other (fun hvolume => hu (hvolume.symm.trans (h.owns.2 t ht).1)) _
  serials := Function.update_of_ne hu _ _

theorem storeExec_serials (sha256 : Bytes → D) (v : Int) (r : RepairReq D) (c : RepairChoice D)
    (s : Store D) : (storeExec sha256 v r c s).2.serials v =
      (repairExec sha256 r c (s.world v)).2.nextSerial :=
  Store.put_serials s v _

theorem storeExec_sound (h : LocalLink v φ r r' A) (c : RepairChoice D) (hs : s.Sound) :
    (storeExec sha256 v r' c s).2.Sound := by
  intro t ht
  change t ∈ (repairExec sha256 r' c (s.world v)).2.journal at ht
  rcases repairExec_journal sha256 r' c (s.world v) with heq | ⟨u, hu, heq⟩
  · rw [heq] at ht
    exact hs t ht
  · rw [heq] at ht
    rcases mem_saveTransaction.1 ht with ⟨ht, -⟩ | rfl
    · exact hs t ht
    · exact (h.owns.2 t hu).2

/-- Whatever a request returns, the partner program could have received a related answer. -/
theorem exists_partner (sha256 : Bytes → D) (h : LocalLink v id r r' A) (c : RepairChoice D) (hs : s.Sound) :
    ∃ a, A a (storeExec sha256 v r' c s).1 := by
  cases h with
  | now => exact ⟨_, rfl⟩
  | load =>
      by_cases hfault : c.fault = .none
      · have hanswer : (storeExec sha256 v .load c s).1 = some s.journal := if_pos hfault
        refine ⟨some (recordsOf v s.journal), ?_⟩
        rw [hanswer]
        refine ⟨?_, hs⟩
        have hid : (Transaction.shift id : Transaction D → Transaction D) = id := rfl
        rw [hid, List.map_id]
        rfl
      · have hanswer : (storeExec sha256 v .load c s).1 = none := if_neg hfault
        refine ⟨none, ?_⟩
        rw [hanswer]
        trivial
  | save kind t hv ht => exact ⟨_, rfl⟩
  | uuid base hv => exact ⟨_, rfl, rfl⟩
  | scratchName base hv => exact ⟨_, rfl, rfl⟩
  | own _ hr => exact ⟨_, rfl⟩

end

/-! ## The pool -/

omit [DecidableEq D] in
/-- One `repair_volume` call: what is left of it, and how many requests it has issued. -/
structure Worker (D : Type) where
  volumeId : Int
  prog : RepairProg D Unit
  used : Nat := 0

/-- A worker that has ended with an exception that `repair_detected` does not collect. -/
def Worker.escaped (x : Worker D) : Bool :=
  match x.prog with
  | .raise e => !e.isRepairError
  | _ => false

/-- The shared state and the workers: not started, running, and ended in this order. -/
structure Pool (D : Type) where
  store : Store D
  waiting : List (Worker D)
  running : List (Worker D) := []
  finished : List (Worker D) := []

/-- All workers. -/
def Pool.workers (p : Pool D) : List (Worker D) :=
  p.waiting ++ p.running ++ p.finished

/-- The decisions that the environment may take: `serves (some v) n c` for the `n`-th request of the
worker of volume `v`, and `serves none n c` for the main thread. -/
abbrev Serves (D : Type) := Option Int → Nat → RepairChoice D → Prop

/-- One step of a pool. -/
inductive PoolStep (sha256 : Bytes → D) (serves : Serves D)
    (concurrency : Nat) : Pool D → Pool D → Prop
  | start (p : Pool D) (x : Worker D) (rest : List (Worker D)) (h : p.waiting = x :: rest)
      (hfree : p.running.length < max 1 concurrency)
      -- the sequential loop does not go on after such an exception
      (hgo : concurrency ≤ 1 → ∀ y ∈ p.finished, y.escaped = false) :
      PoolStep sha256 serves concurrency p
        { p with waiting := rest, running := p.running ++ [x] }
  | serve (p : Pool D) (before after : List (Worker D)) (v : Int) (n : Nat) (r : RepairReq D)
      (k : r.Ans → RepairProg D Unit) (c : RepairChoice D)
      (h : p.running = before ++ ⟨v, .call r k, n⟩ :: after) (hc : serves (some v) n c) :
      PoolStep sha256 serves concurrency p
        { p with
          store := (storeExec sha256 v r c p.store).2
          running := before ++ ⟨v, k (storeExec sha256 v r c p.store).1, n + 1⟩ :: after }
  | finish (p : Pool D) (before after : List (Worker D)) (x : Worker D)
      (h : p.running = before ++ x :: after) (hend : x.prog.next = none) :
      PoolStep sha256 serves concurrency p
        { p with running := before ++ after, finished := p.finished ++ [x] }

/-- The worker of a call. -/
def repairVolume (settings : RepairSettings) (activeTransport : String) (fuel : Nat)
    (d : VolumeDetail) : Worker D where
  volumeId := d.id
  prog := repairOne settings.toConfig ⟨d.collection, d.id, activeTransport⟩ fuel false

/-- The pool before its first step. -/
def Pool.initial (settings : RepairSettings) (activeTransport : String) (fuel : Nat)
    (queue : List VolumeDetail) (s : Store D) : Pool D where
  store := s
  waiting := queue.map (repairVolume settings activeTransport fuel)

/-- What `repair_detected` has collected from ended workers. -/
def failures (ended : List (Worker D)) : List String :=
  ended.filterMap fun x =>
    match x.prog with
    | .raise e => some ("volume " ++ toString x.volumeId ++ ": " ++ e.text)
    | _ => none

/-- The end of `repair_detected`: it looks for a transaction that awaits validation, and raises what
it has collected if there is none. -/
def conclude (collected : List String) : RepairProg D Unit := do
  let _ ← awaiting
  Prog.when (collected ≠ []) do
    let ts ← awaiting
    Prog.raiseIf (ts = []) (.manual ("; ".intercalate collected))

/-- The number of workers: `min(int(index_repair_concurrency), len(unexpected))`. -/
def workerCount (settings : RepairSettings) (status : VolumeStatus) : Nat :=
  (min settings.indexRepairConcurrency status.unexpectedReadonlyVolumeIds.length).toNat

/-- The runs of `repair_detected`, with their outcome and the state they leave: it refuses the status;
it is cut off somewhere; an exception that it does not collect leaves it; or it comes to its end. -/
inductive RepairDetected (sha256 : Bytes → D) (serves : Serves D)
    (settings : RepairSettings) (activeTransport : String) (fuel : Nat) (status : VolumeStatus)
    (s : Store D) : Outcome (RepairExc D) Unit → Store D → Prop
  | refused (e : RepairExc D) (h : refusal settings status = some e) :
      RepairDetected sha256 serves settings activeTransport fuel status s (.raised e) s
  | cutOff (h : (refusal settings status : Option (RepairExc D)) = none) (p : Pool D)
      (hrun : Relation.ReflTransGen (PoolStep sha256 serves (workerCount settings status))
        (Pool.initial settings activeTransport fuel (calls settings status) s) p) :
      RepairDetected sha256 serves settings activeTransport fuel status s .crashed p.store
  | escaped (h : (refusal settings status : Option (RepairExc D)) = none) (p : Pool D)
      (hrun : Relation.ReflTransGen (PoolStep sha256 serves (workerCount settings status))
        (Pool.initial settings activeTransport fuel (calls settings status) s) p)
      (x : Worker D) (hx : x ∈ p.finished) (e : RepairExc D) (hraise : x.prog = .raise e)
      (he : e.isRepairError = false) :
      RepairDetected sha256 serves settings activeTransport fuel status s (.raised e) p.store
  | ended (h : (refusal settings status : Option (RepairExc D)) = none) (p : Pool D)
      (hrun : Relation.ReflTransGen (PoolStep sha256 serves (workerCount settings status))
        (Pool.initial settings activeTransport fuel (calls settings status) s) p)
      (hwaiting : p.waiting = []) (hrunning : p.running = [])
      (hcollected : ∀ x ∈ p.finished, x.escaped = false)
      -- `as_completed` may yield workers in another order than they ended in
      (ended : List (Worker D)) (hended : ended.Perm p.finished) (cs : List (RepairChoice D))
      (hcs : ∀ n c, cs[n]? = some c → serves none n c) :
      RepairDetected sha256 serves settings activeTransport fuel status s
        ((conclude (failures ended)).run (repairExec sha256) cs (p.store.world 0)).1 p.store

/-! ## The frame -/

omit [DecidableEq D] in
/-- A worker that issues a request has a partner that issues a linked one. -/
theorem exists_link {v : Int} {φ : Nat → Nat} {q : RepairProg D Unit} {r' : RepairReq D}
    {k' : r'.Ans → RepairProg D Unit} (h : Local v φ (fun _ _ => True) q (.call r' k')) :
    ∃ (r : RepairReq D) (k : r.Ans → RepairProg D Unit) (A : r.Ans → r'.Ans → Prop),
      q = .call r k ∧ LocalLink v φ r r' A ∧
        ∀ a a', A a a' → Local v φ (fun _ _ => True) (k a) (k' a') := by
  cases q with
  | ret a => exact h.elim
  | raise e => exact h.elim
  | call r k =>
      obtain ⟨A, hlink, hk⟩ := h
      exact ⟨r, k, A, rfl, hlink, hk⟩

/-- The worker minds its own volume. -/
def Worker.Minds (x : Worker D) : Prop :=
  ∃ q : RepairProg D Unit, Local x.volumeId id (fun _ _ => True) q x.prog

/-- Every worker minds its own volume, and the records are sound. -/
structure Pool.Confined (p : Pool D) : Prop where
  sound : p.store.Sound
  minds : ∀ x ∈ p.workers, x.Minds

omit [DecidableEq D] in
theorem Pool.mem_workers {p : Pool D} {x : Worker D} :
    x ∈ p.workers ↔ x ∈ p.waiting ∨ x ∈ p.running ∨ x ∈ p.finished := by
  simp [Pool.workers]

section

variable {sha256 : Bytes → D} {serves : Serves D} {concurrency : Nat}
  {p p' : Pool D}

/-- What a step does: a worker only changes its place, or one running worker is served. -/
theorem PoolStep.cases_moves (hstep : PoolStep sha256 serves concurrency p p') :
    (p'.store = p.store ∧ p'.workers.Perm p.workers) ∨
    ∃ (before after : List (Worker D)) (v : Int) (n : Nat) (r : RepairReq D)
      (k : r.Ans → RepairProg D Unit) (c : RepairChoice D), serves (some v) n c ∧
      p.workers = before ++ ⟨v, .call r k, n⟩ :: after ∧
      p'.workers = before ++ ⟨v, k (storeExec sha256 v r c p.store).1, n + 1⟩ :: after ∧
      p'.store = (storeExec sha256 v r c p.store).2 := by
  cases hstep with
  -- a worker that starts or finishes only changes its place
  | start x rest h hfree hgo =>
      left
      refine ⟨rfl, ?_⟩
      have hmove : (rest ++ (p.running ++ [x])).Perm (x :: (rest ++ p.running)) := by
        rw [← List.append_assoc]
        exact List.perm_append_singleton x _
      have hworkers : p.workers = x :: (rest ++ p.running) ++ p.finished := by
        rw [Pool.workers, h]
        rfl
      rw [hworkers]
      exact hmove.append_right _
  -- a served request is the one step that reads or writes the store
  | serve before after v n r k c h hc =>
      right
      refine ⟨p.waiting ++ before, after ++ p.finished, v, n, r, k, c, hc, ?_, ?_, rfl⟩
      · rw [Pool.workers, h]
        simp
      · simp [Pool.workers]
  | finish before after x h hend =>
      left
      refine ⟨rfl, ?_⟩
      have hmove : (before ++ after ++ (p.finished ++ [x])).Perm
          (before ++ x :: after ++ p.finished) := by
        have hlast : (before ++ after ++ (p.finished ++ [x])).Perm
            (x :: (before ++ after ++ p.finished)) := by
          rw [← List.append_assoc]
          exact List.perm_append_singleton x _
        refine hlast.trans ?_
        rw [List.append_assoc, List.append_assoc]
        exact List.perm_middle.symm
      have hworkers : p.workers = p.waiting ++ (before ++ x :: after ++ p.finished) := by
        rw [Pool.workers, h, List.append_assoc]
      rw [hworkers]
      change (p.waiting ++ (before ++ after) ++ (p.finished ++ [x])).Perm _
      rw [List.append_assoc]
      exact hmove.append_left _

/-- The volumes that the workers were started for. -/
theorem PoolStep.volumes (hstep : PoolStep sha256 serves concurrency p p') :
    (p'.workers.map Worker.volumeId).Perm (p.workers.map Worker.volumeId) := by
  rcases hstep.cases_moves with ⟨-, hperm⟩ | ⟨before, after, v, n, r, k, c, -, hw, hw', -⟩
  · exact hperm.map _
  · rw [hw, hw']
    simp

theorem PoolStep.volumes_run
    (hrun : Relation.ReflTransGen (PoolStep sha256 serves concurrency) p p') :
    (p'.workers.map Worker.volumeId).Perm (p.workers.map Worker.volumeId) := by
  induction hrun with
  | refl => exact .refl _
  | tail _ hstep ih => exact hstep.volumes.trans ih

/-- One step of the pool. -/
theorem PoolStep.confined (hstep : PoolStep sha256 serves concurrency p p') (hp : p.Confined) :
    p'.Confined ∧ ∀ u, u ∉ p.workers.map Worker.volumeId → LeftAlone u p.store p'.store := by
  rcases hstep.cases_moves with ⟨hstore, hperm⟩ | ⟨before, after, v, n, r, k, c, -, hw, hw', hstore⟩
  · refine ⟨⟨hstore ▸ hp.sound, fun x hx => hp.minds x (hperm.subset hx)⟩, fun u _ => ?_⟩
    rw [hstore]
    exact LeftAlone.refl u p.store
  · obtain ⟨q, hq⟩ := hp.minds ⟨v, .call r k, n⟩ (by rw [hw]; simp)
    obtain ⟨r₀, k₀, A, rfl, hlink, hk⟩ := exists_link hq
    obtain ⟨a, ha⟩ := exists_partner sha256 hlink c hp.sound
    refine ⟨⟨?_, ?_⟩, ?_⟩
    · rw [hstore]
      exact storeExec_sound hlink c hp.sound
    · intro x hx
      rw [hw', List.mem_append, List.mem_cons] at hx
      rcases hx with hx | rfl | hx
      · exact hp.minds x (by rw [hw]; simp [hx])
      · exact ⟨k₀ a, hk a _ ha⟩
      · exact hp.minds x (by rw [hw]; simp [hx])
    · intro u hu
      rw [hstore]
      refine storeExec_leftAlone hlink c ?_
      rintro rfl
      exact hu (by rw [hw]; simp)

/-- A run of the pool. -/
theorem PoolStep.confined_run
    (hrun : Relation.ReflTransGen (PoolStep sha256 serves concurrency) p p') (hp : p.Confined) :
    p'.Confined ∧ ∀ u, u ∉ p.workers.map Worker.volumeId → LeftAlone u p.store p'.store := by
  induction hrun with
  | refl => exact ⟨hp, fun u _ => LeftAlone.refl u _⟩
  | tail hrun hstep ih =>
      obtain ⟨hconfined, hsame⟩ := ih
      obtain ⟨hconfined', hsame'⟩ := hstep.confined hconfined
      refine ⟨hconfined', fun u hu => ?_⟩
      exact (hsame u hu).trans (hsame' u fun hmem => hu ((volumes_run hrun).subset hmem))

variable {settings : RepairSettings} {activeTransport : String} {fuel : Nat}

/-- Before the first step every worker minds its own volume. -/
theorem Pool.initial_confined {s : Store D} (hs : s.Sound) (queue : List VolumeDetail) :
    (Pool.initial settings activeTransport fuel queue s).Confined := by
  refine ⟨hs, fun x hx => ?_⟩
  have hwaiting : x ∈ queue.map (repairVolume settings activeTransport fuel) := by
    simpa [Pool.workers, Pool.initial] using hx
  obtain ⟨d, -, rfl⟩ := List.mem_map.1 hwaiting
  exact ⟨_, repairOne_local strictMono_id settings.toConfig ⟨d.collection, d.id, activeTransport⟩ rfl
    fuel false⟩

theorem Pool.initial_volumes (queue : List VolumeDetail) (s : Store D) :
    (Pool.initial settings activeTransport fuel queue s).workers.map Worker.volumeId =
      queue.map VolumeDetail.id := by
  simp [Pool.workers, Pool.initial, repairVolume, Function.comp_def]

/-- A worker is put aside when it has ended. -/
theorem PoolStep.finished_ended
    (hrun : Relation.ReflTransGen (PoolStep sha256 serves concurrency) p p')
    (hp : ∀ x ∈ p.finished, x.prog.next = none) : ∀ x ∈ p'.finished, x.prog.next = none := by
  induction hrun with
  | refl => exact hp
  | tail _ hstep ih =>
      cases hstep with
      | start x rest h hfree hgo => exact ih
      | serve before after v n r k c h hc => exact ih
      | finish before after x h hend =>
          intro y hy
          rcases List.mem_append.1 hy with hy | hy
          · exact ih y hy
          · rw [List.mem_singleton.1 hy]
            exact hend

end

end StorageNode.IndexRepair
