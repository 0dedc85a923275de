import StorageNode.Journal.Records

/-!
# The journal under concurrency and failures

Threads of any number of processes save records and read the journal, with and without the lock. Any of
them may be killed at any point, and the machine may fail at any point. Every thread keeps to the
protocol of the journal (`journalSystem_follows`), so in every such run the invariant holds and every
thread that has returned has kept its promise (`journal_sound`).
-/

set_option autoImplicit false

namespace StorageNode.RepairJournal

open StorageNode.Files StorageNode.Json StorageNode.Program

/-! ## Threads -/

/-- What a thread is started for. -/
inductive Task where
  | save (patience : Nat) (members : Record)
  | create (patience : Nat) (payload : Record) (uuid : String) (now : Value)
  | transition (patience : Nat) (transaction : Record) (phase : String) (values : Record) (now : Value)
  | loadAll (patience : Nat)
  | loadAllReadonly

/-- What a thread returns. -/
inductive Report where
  | saved (members : Record)
  | loaded (records : List Value)

/-- The program of a task. -/
def taskProgram (ft : FloatText) (asRoot : Bool) : Task → Prog Report
  | .save patience members =>
    (save ft asRoot patience members).bind fun _ => .ret (.saved members)
  | .create patience payload uuid now =>
    (create ft asRoot patience payload uuid now).bind fun members => .ret (.saved members)
  | .transition patience transaction phase values now =>
    (transition ft asRoot patience transaction phase values now).bind fun members =>
      .ret (.saved members)
  | .loadAll patience => (loadAll ft asRoot patience).bind fun records => .ret (.loaded records)
  | .loadAllReadonly => (loadAllReadonly ft).bind fun records => .ret (.loaded records)

/-- The arguments that a task is started with. A payload names its volume and its collection and gets its
id from `uuid4`; the values of a transition do not change the id. -/
def Task.Proper (ft : FloatText) : Task → Prop
  | .save _ members => ∃ name, ValidRecord ft name members
  | .create _ payload uuid now => Readable ft (.object payload) ∧ Readable ft now ∧
    (Value.get? payload "volume_id").isSome = true ∧ (Value.get? payload "collection").isSome = true ∧
    Value.get? payload "transaction_id" = none ∧ Value.get? payload "phase_history" = none ∧
    uuid.toList ≠ [] ∧ '/' ∉ uuid.toList
  | .transition _ transaction _ values now => (∃ name, ValidRecord ft name transaction) ∧
    (∀ m ∈ values, Readable ft m.2) ∧ (∀ m ∈ values, m.1 ≠ "transaction_id") ∧ Readable ft now
  | .loadAll _ | .loadAllReadonly => True

variable {ι : Type} [DecidableEq ι]

/-- The journal with its threads. -/
def journalSystem (ft : FloatText) (asRoot : Bool) :
    System ι Task Request Answer Error Report (World ι) Choice where
  exec := exec
  program := taskProgram ft asRoot
  start := fun _ _ task => task.Proper ft
  reap := fun i w => w.unlock i
  fail := Fails

/-- A root without a journal. -/
def emptyWorld : World ι where
  records := .start []
  temporaries := []
  nextToken := 0
  nextSerial := 0
  directories := ⟨false, false, false, false⟩
  exclusive := none
  shared := []

/-! ## What the threads promise -/

/-- The record that a task saves. -/
def Task.Saves : Task → Record → Prop
  | .save _ members, changed => changed = members
  | .create _ payload uuid now, changed => changed = created payload uuid now
  | .transition _ transaction phase values now, changed =>
    transitioned transaction phase values now = some changed
  | .loadAll _, _ | .loadAllReadonly, _ => False

/-- What a report of thread `i` says. -/
inductive Kept (ft : FloatText) (i : ι) (since : World ι) : Task → Report → World ι → Prop
  | saved {task : Task} {members : Record} {w : World ι} (name : Text) (saves : task.Saves members)
      (valid : ValidRecord ft name members) (saved : Saved since i name (recordText ft members) w) :
      Kept ft i since task (.saved members) w
  | snapshot {patience : Nat} {vs : List Value} {w : World ι} (later : Later since w)
      (snapshot : Snapshot ft since vs w) : Kept ft i since (.loadAll patience) (.loaded vs) w
  | read {vs : List Value} {w : World ι} (later : Later since w) (read : Read ft since vs w) :
      Kept ft i since .loadAllReadonly (.loaded vs) w

/-- A reader ends only with exceptions that are excused. -/
def KeptError : Task → Error → Prop
  | .loadAll _, e | .loadAllReadonly, e => Excused e
  | _, _ => True

/-- The promise of every thread. -/
def journalPromise (ft : FloatText) : Promise ι Task Error Report (World ι) where
  ok i task since report w := Kept ft i since task report w
  error _ task _ e _ := KeptError task e

variable {ft : FloatText} {asRoot : Bool} {i : ι}

omit [DecidableEq ι] in
theorem Kept.later {since w w' : World ι} {task : Task} {report : Report}
    (h : Kept ft i since task report w) (hlater : Later w w') : Kept ft i since task report w' := by
  cases h with
  | saved name saves valid saved => exact .saved name saves valid (saved.later hlater)
  | snapshot later snapshot => exact .snapshot (later.trans hlater) (snapshot.later hlater)
  | read later read => exact .read (later.trans hlater) (read.later hlater)

/-- A save of an accepted record, with its report. -/
theorem saveReport_triple {since : World ι} {name : Text} {members : Record}
    (hvalid : ValidRecord ft name members) (task : Task) (hsaves : task.Saves members) (patience : Nat)
    (htask : ∀ e, KeptError task e) :
    (threadDiscipline ft i).Triple (Later since)
      ((save ft asRoot patience members).bind fun _ => .ret (.saved members))
      (fun report w => Kept ft i since task report w) (fun e _ => KeptError task e) :=
  .bind ((save_triple hvalid asRoot patience).mono (fun _ _ h => h) (fun _ _ _ h => h)
    fun e _ _ _ => htask e) fun _ => .ret fun _ _ h => .saved name hsaves hvalid h

/-- A reader has been started before what it has read. -/
theorem loadReport_triple {since : World ι} {task : Task} {p : Prog (List Value)}
    {Q : List Value → World ι → Prop}
    (hp : (threadDiscipline ft i).Triple (Later since) p Q fun e _ => KeptError task e)
    (hQ : ∀ vs w, Later since w → Q vs w → Kept ft i since task (.loaded vs) w) :
    (threadDiscipline ft i).Triple (Later since) (p.bind fun records => .ret (.loaded records))
      (fun report w => Kept ft i since task report w) (fun e _ => KeptError task e) := by
  have hframe := hp.frame (K := fun _ => True) (F := Later since) (stable_later since)
    (fun r c w _ _ _ h => h.trans (exec_effect i r c w).later) p.issues_true
  refine .bind (hframe.mono (fun _ _ h => ⟨h, h⟩) (fun _ _ _ h => h) fun _ _ _ h => h.1) fun vs => ?_
  exact .ret fun w _ h => hQ vs w h.2 h.1

theorem task_triple {task : Task} (hproper : task.Proper ft) (since : World ι) :
    (threadDiscipline ft i).Triple (Later since) (taskProgram ft asRoot task)
      (fun report w => Kept ft i since task report w) (fun e _ => KeptError task e) := by
  cases task with
  | save patience members =>
    obtain ⟨name, hvalid⟩ := hproper
    exact saveReport_triple hvalid (.save patience members) rfl patience fun _ => trivial
  | create patience payload uuid now =>
    obtain ⟨hpayload, hnow, hvolume, hcollection, hid, hhistory, huuid, hcomponent⟩ := hproper
    have hvalid := valid_created hpayload hnow hvolume hcollection hid hhistory huuid hcomponent
    rw [taskProgram, create, Prog.bind_assoc]
    exact saveReport_triple hvalid (.create patience payload uuid now) rfl patience fun _ => trivial
  | transition patience transaction phase values now =>
    obtain ⟨⟨name, hvalid⟩, hvalues, hid, hnow⟩ := hproper
    rw [taskProgram, transition]
    cases hchanged : transitioned transaction phase values now with
    | none => exact .raise fun _ _ _ => trivial
    | some changed =>
      have hchangedValid := valid_transitioned hvalid hvalues hid hnow hchanged
      rw [Prog.orRaise, Prog.ret_bind, Prog.bind_assoc]
      exact saveReport_triple hchangedValid (.transition patience transaction phase values now) hchanged
        patience fun _ => trivial
  | loadAll patience =>
    exact loadReport_triple (loadAll_triple asRoot patience) fun _ _ hlater h => .snapshot hlater h
  | loadAllReadonly =>
    exact loadReport_triple loadAllReadonly_triple fun _ _ hlater h => .read hlater h

/-! ## Failures -/

omit [DecidableEq ι] in
/-- What survives under a name stood there at some moment, or nothing does. -/
theorem Fails.survivor {w w' : World ι} (h : Fails w w') {name : Text} {e' : Entry ι}
    (he' : w'.records.base.find name = some e') :
    ∃ k e, w.records.synced ≤ k ∧ k ≤ w.records.log.length ∧
      (w.records.after k).find name = some e ∧ e.Decays e' := by
  obtain ⟨d, hrecords, hd⟩ := h.records
  rw [hrecords] at he'
  rcases hd with hd | ⟨-, hnone⟩
  · obtain ⟨k, hk, hk', hrel⟩ := hd name
    cases hfound : (w.records.after k).find name with
    | none =>
      rw [hfound, show d.find name = some e' from he'] at hrel
      cases hrel
    | some e =>
      rw [hfound, show d.find name = some e' from he'] at hrel
      cases hrel with
      | some hdecays => exact ⟨k, e, hk, hk', hfound, hdecays⟩
  · subst hnone
    exact absurd he' (by simp [Volume.start, Directory.find])

omit [DecidableEq ι] in
/-- A failure of the machine leaves a journal that satisfies the invariant. -/
theorem Fails.inv {w w' : World ι} (h : Inv ft w) (hfails : Fails w w') : Inv ft w' where
  base name e' he' := by
    obtain ⟨k, e, -, -, hfound, hserial, hsynced, htext⟩ := hfails.survivor he'
    obtain ⟨⟨hsync, members, hvalid, hmembers⟩, hlt⟩ := h.holdsRecord hfound
    rw [hserial, hfails.tokens.2]
    exact ⟨⟨hsynced.trans hsync, members, hvalid, (htext hsync).trans hmembers⟩, hlt⟩
  log := by
    obtain ⟨d, hrecords, -⟩ := hfails.records
    rw [hrecords]
    simp [Volume.start]
  lock hne := absurd hfails.unlocked.1 hne
  tokens t ht := Nat.lt_of_lt_of_le (hfails.temporaries t ht) hfails.tokens.1
  distinct := hfails.distinct
  directories := by
    obtain ⟨hroot, hjournal, hinside⟩ := hfails.found
    exact ⟨hroot ▸ id, hjournal ▸ id, hinside⟩
  lasting hnot := by
    -- directories that last are found again, so they did not last before the failure either
    have hmade : w.madeLasting = false := by
      by_contra hlasting
      rw [Bool.not_eq_false] at hlasting
      have hjournal : w'.directories.journal = true := hfails.made hlasting
      obtain ⟨hroot, hfound, hinside⟩ := hfails.found
      rw [World.madeLasting, hroot, hfound, hinside hjournal, hjournal] at hnot
      cases hnot
    obtain ⟨hbase, hlog⟩ := h.lasting hmade
    obtain ⟨d, hrecords, -⟩ := hfails.records
    have hempty : w'.records.base = [] := by
      apply Directory.eq_nil_of_find
      intro name
      cases hfound : w'.records.base.find name with
      | none => rfl
      | some e' =>
        obtain ⟨k, e, -, -, he, -⟩ := hfails.survivor hfound
        exact absurd he (by simp [Volume.after, hbase, hlog, Directory.find])
    exact ⟨hempty, by rw [hrecords]; rfl⟩

/-- A machine that starts again with everything that was there before. -/
def World.restart (w : World ι) : World ι :=
  { w with
    records := .start w.records.current
    temporaries := []
    directories := ⟨w.directories.root, w.directories.root, w.directories.journal, w.directories.journal⟩
    exclusive := none
    shared := [] }

omit [DecidableEq ι] in
/-- A failure of the machine may take nothing but the lock and the temporary files. -/
theorem fails_restart {w : World ι} (h : w.directories.Sound) : Fails w w.restart where
  records := ⟨w.records.current, rfl, .inl fun name => ⟨w.records.log.length, w.records.synced_le,
    Nat.le_refl _, by
      rw [← Volume.current]
      cases w.records.current.find name with
      | none => exact .none
      | some e => exact .some ⟨rfl, rfl, fun _ => rfl⟩⟩⟩
  root := h.root
  made hlasting := by
    rw [World.madeLasting, Bool.and_eq_true] at hlasting
    exact h.journal hlasting.2
  found := ⟨rfl, rfl, h.inside⟩
  tokens := ⟨Nat.le_refl _, rfl⟩
  temporaries t ht := absurd ht (by simp [World.restart])
  distinct := List.nodup_nil
  unlocked := ⟨rfl, rfl⟩

/-- Closing a thread's handle changes no record. -/
theorem unlock_undisturbed {j : ι} (w : World ι) (hij : i ≠ j) : Undisturbed j w (w.unlock i) := by
  refine ⟨.of_records_eq rfl rfl (.refl _), fun hj => ?_, fun hj => ?_, fun _ => rfl, fun _ ht _ => ht⟩
  · have hne : w.exclusive ≠ some i := fun hi => hij (Option.some.inj (hi.symm.trans hj))
    simpa [World.unlock, hne] using hj
  · simp [World.unlock, hj, Ne.symm hij]

/-- Every thread keeps to the protocol. -/
theorem journalSystem_follows :
    (journalSystem (ι := ι) ft asRoot).Follows (journalProtocol ft) (journalPromise ft) where
  start _ w _ hw hproper := task_triple hproper w w hw (.refl w)
  reap _ w hw := ⟨Effect.inv (r := .closeLock) hw trivial .unlocked, fun _ hij => unlock_undisturbed w hij⟩
  fail _ _ hw hfails := Fails.inv hw hfails
  ok_stable _ _ _ _ _ _ _ _ hd h := h.later hd.later
  error_stable _ _ _ _ _ _ _ _ _ h := h

omit [DecidableEq ι] in
theorem emptyWorld_inv : Inv ft (emptyWorld : World ι) where
  base name e he := absurd he (by simp [emptyWorld, Volume.start, Directory.find])
  log e he := absurd he (by simp [emptyWorld, Volume.start])
  lock _ := rfl
  tokens t ht := absurd ht (by simp [emptyWorld])
  distinct := List.nodup_nil
  directories := ⟨id, id, id⟩
  lasting _ := ⟨rfl, rfl⟩

theorem journal_sound {x : Threads ι Task Request Answer Error Report (World ι)}
    (hx : (journalSystem ft asRoot).Reachable emptyWorld x) :
    (journalSystem ft asRoot).Sound (journalProtocol ft) (journalPromise ft) x :=
  journalSystem_follows.reachable emptyWorld_inv hx

/-! ## A run -/

/-- A machine that knows one number, one and a half. -/
def sampleFloats : FloatText where
  repr _ _ := ['1', '.', '5']
  parse _ := .finite 3 (-1)

def samplePayload : Record := [("volume_id", .int 7), ("collection", .str "pics")]

def sampleTask : Task :=
  .create 1 samplePayload "a1" (.float (.finite 3 (-1)))

def sampleRecord : Record :=
  created samplePayload "a1" (.float (.finite 3 (-1)))

theorem sampleTask_proper : sampleTask.Proper sampleFloats := by
  have hmembers : ∀ m ∈ samplePayload, Readable sampleFloats m.2 := by
    simpa [samplePayload] using And.intro (Readable.int 7 (by decide)) (Readable.str "pics")
  have hnow : Readable sampleFloats (.float (.finite 3 (-1))) := by
    refine .float _ fun s e h => ?_
    obtain ⟨rfl, rfl⟩ : s = 3 ∧ e = -1 := by simpa [eq_comm] using h
    exact ⟨rfl, ['1'], ['.', '5'], [], rfl, ofInt_isInteger 1,
      .present (by simp) (by simp), .absent, .inl (by simp)⟩
  exact ⟨.object _ (by simp [samplePayload, Value.Distinct]) hmembers, hnow, by decide, by decide,
    by decide, by decide, by decide, by decide⟩

/-- A record has been created, and the thread has returned. -/
def sampleThreads : Threads Nat Task Request Answer Error Report (World Nat) :=
  Threads.put ⟨emptyWorld, fun _ => none⟩ 0
    ((taskProgram sampleFloats false sampleTask).run (exec 0) (List.replicate 30 ⟨false, 0⟩) emptyWorld).2
    (some ⟨sampleTask, emptyWorld, .ret (.saved sampleRecord)⟩)

theorem sampleThreads_saved :
    sampleThreads.thread 0 = some ⟨sampleTask, emptyWorld, .ret (.saved sampleRecord)⟩ := rfl

theorem sampleThreads_reachable : (journalSystem sampleFloats false).Reachable emptyWorld sampleThreads :=
  have hrun : (taskProgram sampleFloats false sampleTask).run (exec (0 : Nat))
      (List.replicate 30 ⟨false, 0⟩) emptyWorld = (.ok (.saved sampleRecord), _) := rfl
  System.Steps.complete (m := journalSystem sampleFloats false) rfl sampleTask_proper hrun

end StorageNode.RepairJournal
