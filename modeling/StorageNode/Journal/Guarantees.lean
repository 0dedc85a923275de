import StorageNode.Journal.Availability

/-!
# What holds in every run of the journal

Threads of any number of processes save records and read the journal; any of them may be killed and the
machine may fail at any point. A save that has returned is never lost (`completed_save_lasts`), a reader
with the lock returns the journal of one moment (`load_all_snapshot`), a reader without it returns records
that were current while it ran (`load_all_readonly_reads`), and both see what was saved before they
started (`reader_sees_saved`).
-/

set_option autoImplicit false

namespace StorageNode.RepairJournal

open StorageNode.Files StorageNode.Json StorageNode.Program

variable {ι : Type} [DecidableEq ι] {ft : FloatText} {asRoot : Bool} {i : ι}

variable {x y : Threads ι Task Request Answer Error Report (World ι)} {task : Task}
  {since : World ι} {members : Record} {vs : List Value}

/-! ## What lasts -/

/-- What a completed save has put under its name lasts. -/
def LastsFrom (name text : Text) (serial : Nat) (w : World ι) : Prop :=
  serial < w.nextSerial ∧ w.records.Lasting name (Stands serial text)

omit [DecidableEq ι] in
theorem LastsFrom.later {w w' : World ι} {name text : Text} {serial : Nat}
    (h : LastsFrom name text serial w) (hlater : Later w w') : LastsFrom name text serial w' :=
  ⟨Nat.lt_of_lt_of_le h.1 hlater.serial, h.2.extends hlater.records (hlater.stands h.1)⟩

omit [DecidableEq ι] in
/-- A failure of the machine takes nothing back that lasts. -/
theorem LastsFrom.fails {w w' : World ι} {name text : Text} {serial : Nat}
    (h : LastsFrom name text serial w) (hw : Inv ft w) (hfails : Fails w w') :
    LastsFrom name text serial w' := by
  refine ⟨by rw [hfails.tokens.2]; exact h.1, ?_⟩
  obtain ⟨d, hrecords, hd⟩ := hfails.records
  rw [hrecords]
  rcases hd with hd | ⟨hnot, -⟩
  · -- the record was synchronised before it got its name, so its text survives with it
    have hsynced : w.records.Lasting name fun e => Stands serial text e ∧ e.synced = true := by
      intro k hk hk'
      obtain ⟨e, he, hstands⟩ := h.2 k hk hk'
      exact ⟨e, he, hstands, (hw.holdsRecord he).1.synced⟩
    have hfound := hsynced.survives hd fun e e' hdecays hstands => ⟨⟨hdecays.1 ▸ hstands.1.1, fun heq =>
      (hdecays.2.2 hstands.2).trans (hstands.1.2 (hdecays.1.symm.trans heq))⟩,
        hdecays.2.1.trans hstands.2⟩
    intro k hk hk'
    obtain ⟨e, he, hstands, -⟩ := hfound k hk hk'
    exact ⟨e, he, hstands⟩
  · -- nothing stands in a directory that does not last
    obtain ⟨hbase, hlog⟩ := hw.lasting hnot
    obtain ⟨e, he, -⟩ := h.2.current
    exact absurd he (by simp [Volume.current, Volume.after, hbase, hlog, Directory.find])

/-- A save that has returned has put its record under its name. -/
theorem saved_lasts (hx : (journalSystem ft asRoot).Reachable emptyWorld x)
    (hdone : x.thread i = some ⟨task, since, .ret (.saved members)⟩) :
    task.Saves members ∧ ∃ name e₀, ValidRecord ft name members ∧
      Puts since i name (recordText ft members) e₀ x.state ∧
      LastsFrom name (recordText ft members) e₀.serial x.state := by
  have hkept : Kept ft i since task (.saved members) x.state := (journal_sound hx).returned hdone
  cases hkept with
  | saved name saves valid saved =>
    obtain ⟨e₀, hputs, hlasting⟩ := saved
    exact ⟨saves, name, e₀, valid, hputs, hputs.serial, hlasting⟩

/-- What lasts is kept by every step. -/
theorem lastsFrom_steps {name text : Text} {serial : Nat}
    (hx : (journalSystem ft asRoot).Reachable emptyWorld x)
    (hxy : (journalSystem ft asRoot).Steps x y) (h : LastsFrom name text serial x.state) :
    LastsFrom name text serial y.state :=
  journalSystem_follows.keeps (F := LastsFrom name text serial)
    (fun i r c w _ _ h => h.later (exec_effect i r c w).later)
    (fun _ _ _ h => h.later (.of_records_eq rfl rfl (.refl _))) (fun _ _ hw hfails h => h.fails hw hfails)
    (journal_sound hx) hxy h

/-- What may stand under a name after a replacement: the text that it put there, or a complete record
that was put there later. -/
def Upholds (ft : FloatText) (name : Text) (e₀ e : Entry ι) : Prop :=
  (e.serial = e₀.serial ∧ e.text = e₀.text) ∨ (e₀.serial < e.serial ∧ HoldsRecord ft name e)

omit [DecidableEq ι] in
theorem Stands.upholds {name text : Text} {e₀ e : Entry ι} (h : Stands e₀.serial text e)
    (htext : e₀.text = text) (he : HoldsRecord ft name e) : Upholds ft name e₀ e := by
  rcases Nat.eq_or_lt_of_le h.1 with heq | hlt
  · exact .inl ⟨heq.symm, (h.2 heq.symm).trans htext.symm⟩
  · exact .inr ⟨hlt, he⟩

/-! ## The guarantees -/

/-- A save that has returned is never lost. It has itself put the record under its name; whatever happens
afterwards, the record stands there, or a complete one that got the name later. -/
theorem completed_save_lasts (hx : (journalSystem ft asRoot).Reachable emptyWorld x)
    (hdone : x.thread i = some ⟨task, since, .ret (.saved members)⟩) :
    task.Saves members ∧ ∃ name e₀, recordName members = some name ∧
      Puts since i name (recordText ft members) e₀ x.state ∧
      ∀ y, (journalSystem ft asRoot).Steps x y →
        ∃ e, y.state.records.current.find name = some e ∧ Upholds ft name e₀ e := by
  obtain ⟨hsaves, name, e₀, hvalid, hputs, hlasts⟩ := saved_lasts hx hdone
  refine ⟨hsaves, name, e₀, hvalid.named, hputs, fun y hxy => ?_⟩
  obtain ⟨e, he, hstands⟩ := (lastsFrom_steps hx hxy hlasts).2.current
  have hy : Inv ft y.state := (journal_sound (hx.trans hxy)).inv
  exact ⟨e, he, hstands.upholds hputs.text (hy.holdsRecord he).1⟩

/-- A record that has been created is still there after a failure of the machine. -/
theorem created_record_lasts :
    ∃ y, (journalSystem sampleFloats false).Steps sampleThreads y ∧ y.thread 0 = none ∧
      sampleTask.Saves sampleRecord ∧ ∃ name e₀, recordName sampleRecord = some name ∧
        Puts emptyWorld 0 name (recordText sampleFloats sampleRecord) e₀ sampleThreads.state ∧
        ∃ e, y.state.records.current.find name = some e ∧ Upholds sampleFloats name e₀ e := by
  have hfails := fails_restart (journal_sound sampleThreads_reachable).inv.directories
  have hsteps : (journalSystem sampleFloats false).Steps sampleThreads _ :=
    .single (.fail sampleThreads _ hfails)
  obtain ⟨hsaves, name, e₀, hname, hputs, hlasts⟩ :=
    completed_save_lasts sampleThreads_reachable sampleThreads_saved
  exact ⟨_, hsteps, rfl, hsaves, name, e₀, hname, hputs, hlasts _ hsteps⟩

/-- A reader without the lock returns records that were current while it ran, one for each name that
there was at one moment of its run; where it fails, a request of its own failed. -/
theorem load_all_readonly_reads (hx : (journalSystem ft asRoot).Reachable emptyWorld x) :
    (∀ vs, x.thread i = some ⟨.loadAllReadonly, since, .ret (.loaded vs)⟩ →
      Later since x.state ∧ Read ft since vs x.state) ∧
    (∀ e, x.thread i = some ⟨.loadAllReadonly, since, .raise e⟩ → Excused e) := by
  refine ⟨fun vs hdone => ?_, fun e hdone => (journal_sound hx).raised hdone⟩
  have hkept : Kept ft i since .loadAllReadonly (.loaded vs) x.state := (journal_sound hx).returned hdone
  cases hkept with
  | read later read => exact ⟨later, read⟩

/-- A reader of a journal with one record. -/
theorem load_all_readonly_reads_sample :
    ∃ x vs, (journalSystem sampleFloats false).Reachable emptyWorld x ∧
      x.thread 1 = some ⟨.loadAllReadonly, sampleThreads.state, .ret (.loaded vs)⟩ ∧
      Later sampleThreads.state x.state ∧ Read sampleFloats sampleThreads.state vs x.state := by
  obtain ⟨x, vs, -, hx, hdone⟩ := sample_reader .loadAllReadonly trivial
    (.bind loadAllReadonly_returns fun vs => .ret fun _ _ _ => ⟨vs, rfl⟩)
    ⟨⟨(journal_sound sampleThreads_reachable).inv, rfl, rfl⟩, rfl⟩
  exact ⟨x, vs, hx, hdone, (load_all_readonly_reads hx).1 vs hdone⟩

/-- A reader with the lock returns the journal of one moment of its run. -/
theorem load_all_snapshot {patience : Nat} (hx : (journalSystem ft asRoot).Reachable emptyWorld x) :
    (∀ vs, x.thread i = some ⟨.loadAll patience, since, .ret (.loaded vs)⟩ →
      Later since x.state ∧ Snapshot ft since vs x.state) ∧
    (∀ e, x.thread i = some ⟨.loadAll patience, since, .raise e⟩ → Excused e) := by
  refine ⟨fun vs hdone => ?_, fun e hdone => (journal_sound hx).raised hdone⟩
  have hkept : Kept ft i since (.loadAll patience) (.loaded vs) x.state :=
    (journal_sound hx).returned hdone
  cases hkept with
  | snapshot later snapshot => exact ⟨later, snapshot⟩

/-- A reader of a journal with one record. -/
theorem load_all_snapshot_sample :
    ∃ x vs, (journalSystem sampleFloats false).Reachable emptyWorld x ∧
      x.thread 1 = some ⟨.loadAll 1, sampleThreads.state, .ret (.loaded vs)⟩ ∧
      Later sampleThreads.state x.state ∧ Snapshot sampleFloats sampleThreads.state vs x.state := by
  obtain ⟨x, vs, -, hx, hdone⟩ := sample_reader (.loadAll 1) trivial
    (.bind (loadAll_returns false 0) fun vs => .ret fun _ _ _ => ⟨vs, rfl⟩)
    ⟨(journal_sound sampleThreads_reachable).inv, rfl, rfl⟩
  exact ⟨x, vs, hx, hdone, (load_all_snapshot hx).1 vs hdone⟩

omit [DecidableEq ι] in
/-- What a reader returns for a name, from the moment it was started. -/
theorem Read.of_lasts {name text : Text} {serial : Nat} {w : World ι} (hlater : Later since w)
    (hread : Read ft since vs w) (hlasts : LastsFrom name text serial since)
    (hname : isRecordName name = true) :
    ∃ v ∈ vs, ∃ k e, since.records.log.length ≤ k ∧ k ≤ w.records.log.length ∧
      (w.records.after k).find name = some e ∧ Stands serial text e ∧ loads ft e.text = some v := by
  obtain ⟨k, hk, hk', hall⟩ := hread
  have hstands : ∀ m, since.records.log.length ≤ m →
      ∃ e, (w.records.after m).find name = some e ∧ Stands serial text e := fun m hm =>
    hlater.records.find_after (hlater.stands hlasts.1) hlasts.2.current hm
  have hmem : name ∈ recordNames (w.records.after k).names := by
    obtain ⟨e, he, -⟩ := hstands k hk
    rw [recordNames, List.mem_insertionSort]
    exact List.mem_filter.mpr ⟨Directory.mem_names.mpr ⟨e, he⟩, hname⟩
  obtain ⟨v, hv, m, hm, hm', e, he, hloads⟩ := exists_of_forall₂ hall hmem
  obtain ⟨e', he', hstands'⟩ := hstands m (Nat.le_trans hk hm)
  obtain rfl : e = e' := Option.some.inj (he.symm.trans he')
  exact ⟨v, hv, m, e, Nat.le_trans hk hm, hm', he, hstands', hloads⟩

/-- What a reader may return for a record that had been saved when it was started: the record, or one that
got the name later and stood there while the reader ran. -/
def Returned (ft : FloatText) (since : World ι) (name : Text) (e₀ : Entry ι) (members : Record) (w : World ι)
    (v : Value) : Prop :=
  wellFormed name v = true ∧ (v = sortKeys (.object members) ∨
    ∃ k e, since.records.log.length ≤ k ∧ k ≤ w.records.log.length ∧
      (w.records.after k).find name = some e ∧ e₀.serial < e.serial ∧ HoldsRecord ft name e ∧
      loads ft e.text = some v)

/-- A reader that is started after a save has returned gets the record of the save, or one that got its
name later. -/
theorem reader_sees_saved (hx : (journalSystem ft asRoot).Reachable emptyWorld x)
    (hdone : x.thread i = some ⟨task, since, .ret (.saved members)⟩) :
    ∃ name e₀, recordName members = some name ∧ Puts since i name (recordText ft members) e₀ x.state ∧
      ∀ (y z : Threads ι Task Request Answer Error Report (World ι)) (j : ι) (reader : Task)
        (vs : List Value), (journalSystem ft asRoot).Steps x z →
        (journalSystem ft asRoot).Reachable emptyWorld y →
        y.thread j = some ⟨reader, z.state, .ret (.loaded vs)⟩ →
        ∃ v ∈ vs, Returned ft z.state name e₀ members y.state v := by
  obtain ⟨-, name, e₀, hvalid, hputs, hlasts⟩ := saved_lasts hx hdone
  refine ⟨name, e₀, hvalid.named, hputs, fun y z j reader vs hxz hy hread => ?_⟩
  have hlasts := lastsFrom_steps hx hxz hlasts
  obtain ⟨id, -, -, hfile, -⟩ := hvalid.parts
  have hname : isRecordName name = true := by
    rw [hfile, isRecordName, List.isSuffixOf_iff_suffix]
    exact List.suffix_append _ _
  have hkept : Kept ft j z.state reader (.loaded vs) y.state := (journal_sound hy).returned hread
  obtain ⟨v, hv, k, e, hk, hk', he, hstands, hloads⟩ : ∃ v ∈ vs, ∃ k e,
      z.state.records.log.length ≤ k ∧ k ≤ y.state.records.log.length ∧
        (y.state.records.after k).find name = some e ∧ Stands e₀.serial (recordText ft members) e ∧
        loads ft e.text = some v := by
    cases hkept with
    | snapshot later snapshot => exact snapshot.read.of_lasts later hlasts hname
    | read later read => exact read.of_lasts later hlasts hname
  have hholds : HoldsRecord ft name e := ((journal_sound hy).inv.holdsRecord he).1
  refine ⟨v, hv, ?_, ?_⟩
  · obtain ⟨u, hu, hwell⟩ := hholds.loads
    obtain rfl := Option.some.inj (hloads.symm.trans hu)
    exact hwell
  · rcases Nat.eq_or_lt_of_le hstands.1 with heq | hlt
    · left
      rw [hstands.2 heq.symm, loads_recordText hvalid.readable] at hloads
      exact (Option.some.inj hloads).symm
    · exact .inr ⟨k, e, hk, hk', he, hlt, hholds, hloads⟩

/-- The created record is among what a later reader returns. -/
theorem reader_sees_saved_sample :
    ∃ y vs, (journalSystem sampleFloats false).Reachable emptyWorld y ∧
      y.thread 1 = some ⟨.loadAll 1, sampleThreads.state, .ret (.loaded vs)⟩ ∧
      ∃ name e₀, recordName sampleRecord = some name ∧
        Puts emptyWorld 0 name (recordText sampleFloats sampleRecord) e₀ sampleThreads.state ∧
        ∃ v ∈ vs, Returned sampleFloats sampleThreads.state name e₀ sampleRecord y.state v := by
  obtain ⟨y, vs, -, hy, hdone⟩ := sample_reader (.loadAll 1) trivial
    (.bind (loadAll_returns false 0) fun vs => .ret fun _ _ _ => ⟨vs, rfl⟩)
    ⟨(journal_sound sampleThreads_reachable).inv, rfl, rfl⟩
  obtain ⟨name, e₀, hname, hputs, hsees⟩ :=
    reader_sees_saved sampleThreads_reachable sampleThreads_saved
  exact ⟨y, vs, hy, hdone, name, e₀, hname, hputs, hsees y _ 1 _ vs .refl hy hdone⟩

end StorageNode.RepairJournal
