import StorageNode.Generation.Creation

/-!
# What holds for generations in every run

Any number of guardian processes run on one host, are killed anywhere, and the host may lose power.
Whatever is fenced stays cut off (`fenced_stays_severed`), only the holder of the lease acts on the host
(`one_guardian_acts`), and no rule of the packet filter is ever added twice (`rules_stay_distinct`).
-/

set_option autoImplicit false

namespace StorageNode.Generation

open StorageNode.Files StorageNode.Json StorageNode.Program StorageNode.Text

variable {ι : Type} [DecidableEq ι] {i : ι} {ft : FloatText}

/-! ## The system -/

/-- A guardian process. -/
structure Task where
  nodeName : String
  pid : Nat
  now : Number
  orders : List Order

/-- A host with its guardians. -/
def guardianSystem (ft : FloatText) : System ι Task Request Answer Error Unit (World ι) Choice where
  exec := exec
  program task := guardian ft task.nodeName task.pid task.now task.orders
  start _ _ _ := True
  reap := World.reap
  fail := Fails

/-- A host on which no guardian has run. -/
def freshWorld : World ι where
  lease := none
  leaseText := []
  object _ := none
  nextGeneration := 1
  nextToken := 0
  nextPid := 0
  running := []
  unshared := []
  link := none
  rules := []
  forwarding := false
  ready := false
  records := .start []
  temporary := none
  keepers := []

omit [DecidableEq ι] in
theorem freshWorld_inv : Inv (freshWorld : World ι) where
  pids _ hk := absurd hk List.not_mem_nil
  tokens _ hk := absurd hk List.not_mem_nil
  owner _ hk := absurd hk List.not_mem_nil
  known _ _ hg := absurd hg (by simp [freshWorld])
  distinct _ _ _ _ hg := absurd hg (by simp [freshWorld])
  keeper _ _ _ hg := absurd hg (by simp [freshWorld])
  plain _ _ _ _ _ := List.not_mem_nil
  fenced _ _ hg := absurd hg (by simp [freshWorld])
  records := ⟨fun _ _ hr => absurd hr (by simp [freshWorld, Volume.start, Directory.find]),
    fun _ he => absurd he (by simp [freshWorld, Volume.start])⟩
  temporary _ hr := absurd hr (by simp [freshWorld])
  rules := List.nodup_nil

/-! ## Ends -/

/-- The end of a process forgets its object and gives up its lease. -/
theorem reap_change (i : ι) (w : World ι) :
    ∃ u, (Proper i w (.assign none) ∧ Change i w (.assign none) u) ∧
      (Proper i u .closeLease ∧ Change i u .closeLease (World.reap i w)) :=
  ⟨_, ⟨trivial, .assigned none⟩, trivial, .released (.inr rfl)⟩

theorem reap_inv {w : World ι} (h : Inv w) : Inv (World.reap i w) := by
  obtain ⟨u, ⟨hforget, hassign⟩, hclose, hrelease⟩ := reap_change i w
  exact (h.change hforget hassign).change hclose hrelease

theorem reap_undisturbed {j : ι} (w : World ι) (hij : i ≠ j) : Undisturbed j w (World.reap i w) := by
  refine ⟨by simp [World.reap, Ne.symm hij], fun hj => ?_⟩
  have hstays : (w.release i).lease = w.lease := by
    rw [World.release, hj, if_neg fun h => hij (Option.some.inj h).symm]
  exact .of_eq hstays rfl rfl rfl rfl (Nat.le_refl _) rfl rfl

omit [DecidableEq ι] in
theorem Dead.fails {w w' : World ι} {token : Nat} (h : Dead token w) (hfails : Fails w w') :
    Dead token w' where
  known := Nat.lt_of_lt_of_le h.known hfails.counters.1
  severed pid _ := by simp [hfails.network.1]
  fenced i g hg := absurd hg (by simp [hfails.object i])

omit [DecidableEq ι] in
theorem Fails.inv {w w' : World ι} (h : Inv w) (hfails : Fails w w') : Inv w' where
  pids k hk := Nat.lt_of_lt_of_le (h.pids k (by rw [← hfails.keepers]; exact hk)) hfails.counters.2
  tokens k hk := Nat.lt_of_lt_of_le (h.tokens k (by rw [← hfails.keepers]; exact hk)) hfails.counters.1
  owner := by rw [hfails.keepers]; exact h.owner
  known i g hg := absurd hg (by simp [hfails.object i])
  distinct i _ _ _ hg := absurd hg (by simp [hfails.object i])
  keeper i _ _ hg := absurd hg (by simp [hfails.object i])
  plain i _ hg := absurd hg (by simp [hfails.object i])
  fenced i _ hg := absurd hg (by simp [hfails.object i])
  records := by
    obtain ⟨d, hrecords, hd⟩ := hfails.records
    rw [hrecords]
    refine Volume.Everywhere.start (h.records.mono fun _ _ htrue hfenced => (htrue hfenced).fails hfails) hd
      fun _ x y hxy hx => hxy ▸ hx
  temporary record hrecord hfenced := by
    rcases hfails.temporary with hnone | hsame
    · exact absurd (hnone.symm.trans hrecord) (by simp)
    · exact ((h.temporary record (hsame.symm.trans hrecord)) hfenced).fails hfails
  rules := by
    rw [hfails.network.2]
    exact List.nodup_nil

/-- Every guardian keeps to the protocol. -/
theorem guardianSystem_follows :
    (guardianSystem (ι := ι) ft).Follows guardianProtocol ⟨fun _ _ _ _ _ => True, fun _ _ _ _ _ => True⟩ where
  start _ w _ hw _ := guardian_triple ft _ _ _ _ w hw trivial
  reap _ w hw := ⟨reap_inv hw, fun _ hij => reap_undisturbed w hij⟩
  fail _ _ hw hfails := Fails.inv hw hfails
  ok_stable _ _ _ _ := .const True
  error_stable _ _ _ _ := .const True

/-! ## A run -/

/-- A machine that knows one number. -/
def sampleNumbers : FloatText where
  repr _ _ := ['1', '.', '5']
  parse _ := .finite 3 (-1)

def sampleSettings : Settings where
  mode := "namespace"
  hostAddress := "169.254.254.1/30".toList
  workerAddress := "169.254.254.2/30".toList
  gateway := "169.254.254.1".toList
  ipInterface t := some ⟨t.takeWhile (· ≠ '/'), "169.254.254.0/30".toList⟩
  ipAddress := some

/-- Everything works, and the processes are ready at once. -/
def smooth : Choice where
  happenings := [.ready, .unshares 0]
  raises := false
  refuses := false
  effect := false
  written := 0
  text := "nameserver 10.0.0.1\n".toList
  time := 0

def sampleTask : Task :=
  ⟨"node", 1, .finite 3 (-1), [.begin sampleSettings 1, .fence "storage lost"]⟩

def sampleProgram : Prog Unit :=
  guardian sampleNumbers sampleTask.nodeName sampleTask.pid sampleTask.now sampleTask.orders

/-- The host once a guardian has begun a generation and fenced it. -/
def sampleWorld : World Nat :=
  (sampleProgram.run (exec 0) (List.replicate 80 smooth) freshWorld).2

def sampleThreads : Threads Nat Task Request Answer Error Unit (World Nat) :=
  Threads.put ⟨freshWorld, fun _ => none⟩ 0 sampleWorld (some ⟨sampleTask, freshWorld, .ret ()⟩)

theorem sampleThreads_reachable : (guardianSystem sampleNumbers).Reachable freshWorld sampleThreads :=
  have hrun : sampleProgram.run (exec 0) (List.replicate 80 smooth) freshWorld = (.ok (), sampleWorld) := rfl
  System.Steps.complete (m := guardianSystem sampleNumbers) rfl trivial hrun

/-! ## The guarantees -/

variable {x y : Threads ι Task Request Answer Error Unit (World ι)}

theorem guardian_sound (hx : (guardianSystem ft).Reachable freshWorld x) :
    (guardianSystem ft).Sound guardianProtocol ⟨fun _ _ _ _ _ => True, fun _ _ _ _ _ => True⟩ x :=
  guardianSystem_follows.reachable freshWorld_inv hx

/-- What is cut off for good stays so in every run. -/
theorem dead_steps {token : Nat} (hx : (guardianSystem ft).Reachable freshWorld x)
    (hxy : (guardianSystem ft).Steps x y) (h : Dead token x.state) : Dead token y.state := by
  refine guardianSystem_follows.keeps (F := Dead token) (fun i r c w hw hallowed hdead => ?_)
    (fun i w hw hdead => ?_) (fun w w' _ hfails hdead => hdead.fails hfails) (guardian_sound hx) hxy h
  · obtain ⟨u, hloses, hobject, hchange⟩ := exec_change i r c w
    exact (hdead.loses hloses hobject).change (hw.loses hloses hobject)
      (hallowed.proper.loses hloses hobject) hchange
  · obtain ⟨u, ⟨hforget, hassign⟩, hclose, hrelease⟩ := reap_change i w
    exact (hdead.change hw hforget hassign).change (hw.change hforget hassign) hclose hrelease

/-- A generation that is fenced, as its object or any record that may be read says, is never connected
again: not by another request of its guardian, by another guardian, after a kill or a failure of the
machine. -/
theorem fenced_stays_severed {token : Nat} (hx : (guardianSystem ft).Reachable freshWorld x)
    (hfenced : (∃ i g, x.state.object i = some g ∧ g.token = token ∧ g.fenced = true) ∨
      ∃ k record, (x.state.records.after k).find () = some record ∧ record.token = token ∧
        record.fenced = true)
    (hxy : (guardianSystem ft).Steps x y) {pid : Nat} (hkeeper : (token, pid) ∈ y.state.keepers) :
    y.state.link ≠ some (.worker pid) := by
  have hinv : Inv x.state := (guardian_sound hx).inv
  have hdead : Dead token x.state := by
    rcases hfenced with ⟨i, g, hg, rfl, hfenced⟩ | ⟨k, record, hrecord, rfl, hfenced⟩
    · exact hinv.dead hg hfenced
    · exact hinv.records.find hrecord hfenced
  exact (dead_steps hx hxy hdead).severed pid hkeeper

/-- The generation of the sample run has a keeper, and is fenced. -/
theorem fenced_stays_severed_sample :
    (0, 0) ∈ sampleWorld.keepers ∧ sampleWorld.link ≠ some (.worker 0) ∧
      ∃ g, sampleWorld.object 0 = some g ∧ g.fenced = true := by
  have hkeeper : (0, 0) ∈ sampleWorld.keepers := by
    rw [show sampleWorld.keepers = [(0, 0)] from rfl]
    exact List.mem_singleton_self _
  have hobject : (sampleWorld.object 0).map (fun g => (g.token, g.fenced)) = some (0, true) := rfl
  obtain ⟨g, hg, hpair⟩ := Option.map_eq_some_iff.mp hobject
  obtain ⟨htoken, hfenced⟩ := Prod.mk.inj hpair
  exact ⟨hkeeper, fenced_stays_severed sampleThreads_reachable (.inl ⟨0, g, hg, htoken, hfenced⟩) .refl
    hkeeper, g, hg, hfenced⟩

/-- Only the guardian that holds the lease changes the network, the rules, the record or the processes of
the host: two guardians are never about to do so at once. -/
theorem one_guardian_acts (hx : (guardianSystem ft).Reachable freshWorld x) {j : ι} {task task' : Task}
    {since since' : World ι} {r r' : Request} {k : Answer r → Prog Unit} {k' : Answer r' → Prog Unit}
    (hi : x.thread i = some ⟨task, since, .call r k⟩) (hj : x.thread j = some ⟨task', since', .call r' k'⟩)
    (hr : r.free = false) (hr' : r'.free = false) : x.state.lease = some i ∧ i = j := by
  have hleads : ∀ {j : ι} {task : Task} {since : World ι} {r : Request} {k : Answer r → Prog Unit},
      x.thread j = some ⟨task, since, .call r k⟩ → r.free = false → x.state.lease = some j := by
    intro j task since r k hj hr
    have hallowed : Allowed j r x.state := ((guardian_sound hx).thread j _ hj x.state
      ((guardianDiscipline j).disturbs_refl _)).1
    rcases hallowed with hfree | ⟨hlease, -⟩
    · exact absurd hfree (by simp [hr])
    · exact hlease
  exact ⟨hleads hi hr, Option.some.inj ((hleads hi hr).symm.trans (hleads hj hr'))⟩

/-- The guardian of the sample run is about to write into the lease file. -/
theorem one_guardian_acts_sample :
    ∃ x : Threads Nat Task Request Answer Error Unit (World Nat),
      (guardianSystem sampleNumbers).Reachable freshWorld x ∧ x.state.lease = some 0 ∧ 0 = 0 := by
  have hstart : (guardianSystem sampleNumbers).Steps ⟨(freshWorld : World Nat), fun _ => none⟩ _ :=
    .single (.start _ 0 sampleTask rfl trivial)
  have hsteps := System.Steps.run (m := guardianSystem sampleNumbers) (i := 0) (List.replicate 3 smooth)
    (x := Threads.put ⟨(freshWorld : World Nat), fun _ => none⟩ 0 freshWorld
      (some ⟨sampleTask, freshWorld, sampleProgram⟩)) rfl
  obtain ⟨k, hk⟩ := Prog.eq_call_of_next (r := .truncateLease)
    (p := sampleProgram.rest ((guardianSystem sampleNumbers).exec 0) (List.replicate 3 smooth) freshWorld) rfl
  simp only [Threads.put_state] at hsteps
  rw [hk] at hsteps
  have hx := hstart.trans hsteps
  have hthread := Function.update_self (0 : Nat)
    (some (⟨sampleTask, freshWorld, .call .truncateLease k⟩ : Thread Task Request Answer Error Unit (World Nat)))
    (Function.update (fun _ => none) 0 (some ⟨sampleTask, freshWorld, sampleProgram⟩))
  exact ⟨_, hx, one_guardian_acts hx hthread hthread rfl rfl⟩

/-- No rule is ever added where it is. -/
theorem rules_stay_distinct (hx : (guardianSystem ft).Reachable freshWorld x) :
    x.state.rules.Nodup ∧ ∀ i task since rule k,
      x.thread i = some ⟨task, since, .call (.command (.addRule rule)) k⟩ → rule ∉ x.state.rules := by
  refine ⟨(guardian_sound hx).inv.rules, fun i task since rule k hi => ?_⟩
  have hallowed : Allowed i (.command (.addRule rule)) x.state := ((guardian_sound hx).thread i _ hi x.state
    ((guardianDiscipline i).disturbs_refl _)).1
  exact hallowed.proper

/-- The sample run has added the three rules. -/
theorem rules_stay_distinct_sample :
    sampleWorld.rules.length = 3 ∧ sampleWorld.rules.Nodup :=
  ⟨rfl, (rules_stay_distinct sampleThreads_reachable).1⟩

end StorageNode.Generation
