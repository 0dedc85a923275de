import StorageNode.Journal.System
import StorageNode.Program.Sequential

/-!
# The journal can always be read

In every reachable state in which no thread writes, `load_all` returns when its own requests succeed, and
returns one record for each file of the journal (`load_all_succeeds`). This includes the states after any
number of failures.
-/

set_option autoImplicit false

namespace StorageNode.RepairJournal

open StorageNode.Files StorageNode.Json StorageNode.Program

variable {ι : Type} [DecidableEq ι] {ft : FloatText} {i : ι}

/-- The environment lets a request succeed. -/
abbrev Succeeds (c : Choice) : Prop := c.fails = false

/-- A contract without exceptions, when every request succeeds and nothing interferes. -/
def Returns {α : Type} (i : ι) (P : World ι → Prop) (p : Prog α) (Q : α → World ι → Prop) : Prop :=
  Hoare (within Succeeds (exec i)) P p Q fun _ _ => False

theorem returns_perform {P : World ι → Prop} {e : Error} {r : Request} {Q : r.Result → World ι → Prop}
    (h : ∀ c w, Succeeds c → P w → ∃ a, (exec i r c w).1 = some a ∧ Q a (exec i r c w).2) :
    Returns i P (performOr e r) Q := by
  refine Discipline.Triple.bind (M := fun a w => ∃ x, a = some x ∧ Q x w) (Hoare.ask fun c w hp => ?_)
    fun a => ?_
  · exact h c.1 w c.2 hp
  · refine .orRaise (fun hnone w _ hw => ?_) fun x hx w _ hw => ?_
    · obtain ⟨x, hx, -⟩ := hw
      exact absurd (hnone.symm.trans hx) (by simp)
    · obtain ⟨y, hy, hQ⟩ := hw
      obtain rfl := Option.some.inj (hx.symm.trans hy)
      exact hQ

/-- A state in which the records are known and no thread writes. -/
def Idle (ft : FloatText) (v : Volume Text (Entry ι)) (w : World ι) : Prop :=
  Inv ft w ∧ w.records = v ∧ w.exclusive = none

/-- Reading and preparing change no record. -/
theorem returns_idle {v : Volume Text (Entry ι)} {e : Error} {r : Request} (hr : Plain r)
    (hflock : ∀ b, r ≠ .flock b) (hsync : r ≠ .syncDirectory .journal)
    (hread : ∀ name, r ≠ .read name) :
    Returns i (Idle ft v) (performOr e r) (fun _ w => Idle ft v w) := by
  refine returns_perform fun c w hc hp => ?_
  have hsome : ∃ a, (exec i r c w).1 = some a := by
    cases r with
    | append token text => exact hr.elim
    | syncTemporary token => exact hr.elim
    | replace token name => exact hr.elim
    | flock b => exact absurd rfl (hflock b)
    | read name => exact absurd rfl (hread name)
    | _ => simp [exec, show c.fails = false from hc]
  obtain ⟨a, ha⟩ := hsome
  refine ⟨a, ha, ?_⟩
  have heffect := exec_effect i r c w
  refine ⟨heffect.inv hp.1 (hr.allowed w), ?_⟩
  generalize (exec i r c w).2 = w' at heffect
  cases heffect with
  | unchanged => exact hp.2
  | made place => exact hp.2
  | synced => exact absurd rfl hsync
  | lasting => exact hp.2
  | «exclusive» free => exact absurd rfl (hflock true)
  | shared free => exact absurd rfl (hflock false)
  | unlocked => exact ⟨hp.2.1, by simp [World.unlock, hp.2.2]⟩
  | opened name => exact hp.2
  | appended token text written => exact hr.elim
  | fileSynced token => exact hr.elim
  | replaced token name t found => exact hr.elim

theorem prepare_returns {v : Volume Text (Entry ι)} (asRoot : Bool) :
    Returns i (Idle ft v) (prepare asRoot) (fun _ w => Idle ft v w) := by
  have hstep : ∀ r : Request, Plain r → (∀ b, r ≠ .flock b) → r ≠ .syncDirectory .journal →
      (∀ name, r ≠ .read name) → Returns i (Idle ft v) (perform r) (fun _ w => Idle ft v w) :=
    fun r hr hflock hsync hread => returns_idle hr hflock hsync hread
  have hplace : ∀ place mode, Returns i (Idle ft v)
      ((perform (.makeDirectory place)).bind fun _ =>
        (Prog.when (asRoot = true) (perform (.setOwner place))).bind fun _ =>
        perform (.setMode place mode)) (fun _ w => Idle ft v w) := by
    intro place mode
    refine .bind (hstep _ trivial (by simp) (by simp) (by simp)) fun _ => ?_
    refine .bind (.when (fun _ => hstep _ trivial (by simp) (by simp) (by simp)) fun _ _ _ h => h)
      fun _ => ?_
    exact hstep _ trivial (by simp) (by simp) (by simp)
  have hloop : ∀ places : List (Place × Nat), Returns i (Idle ft v)
      (Prog.forEach places fun p =>
        (perform (.makeDirectory p.1)).bind fun _ =>
        (Prog.when (asRoot = true) (perform (.setOwner p.1))).bind fun _ =>
        perform (.setMode p.1 p.2)) (fun _ w => Idle ft v w) := by
    intro places
    induction places with
    | nil => exact .ret fun _ _ h => h
    | cons p places ih => exact .bind (hplace p.1 p.2) fun _ => ih
  refine .bind (hstep _ trivial (by simp) (by simp) (by simp)) fun _ => ?_
  refine .bind (.when (fun _ => hstep _ trivial (by simp) (by simp) (by simp)) fun _ _ _ h => h)
    fun _ => ?_
  refine .bind (hstep _ trivial (by simp) (by simp) (by simp)) fun _ => ?_
  refine .bind (hloop _) fun _ => ?_
  refine .bind (hstep _ trivial (by simp) (by simp) (by simp)) fun _ => ?_
  exact hstep _ trivial (by simp) (by simp) (by simp)

/-- The records of a directory, in the order of their names. -/
def Holds (ft : FloatText) (d : Directory Text (Entry ι)) (vs : List Value) : Prop :=
  List.Forall₂ (HasRecord ft d) (recordNames d.names) vs

theorem readRecords_returns {v : Volume Text (Entry ι)} : ∀ {names : List Text},
    (∀ name ∈ names, ∃ e, v.current.find name = some e) →
      Returns i (Idle ft v) (readRecords ft names)
        (fun vs w => List.Forall₂ (HasRecord ft v.current) names vs ∧ Idle ft v w)
  | [], _ => .ret fun _ _ h => ⟨.nil, h⟩
  | name :: names, hnames => by
    obtain ⟨e, he⟩ := hnames name List.mem_cons_self
    have hrest := readRecords_returns fun other hother => hnames other (List.mem_cons_of_mem _ hother)
    refine .bind (M := fun u w => HasRecord ft v.current name u ∧ Idle ft v w) ?_ fun u => ?_
    · refine .bind (M := fun (text : Text) w => text = e.text ∧ Idle ft v w) ?_ fun text => .assume fun htext => ?_
      · refine returns_perform fun c w hc hp => ?_
        have hfound : w.records.current.find name = some e := by rw [hp.2.1, he]
        simp only [exec, show c.fails = false from hc, hfound]
        exact ⟨e.text, rfl, rfl, hp⟩
      · subst htext
        intro w hw hp
        have hholds : HoldsRecord ft name e :=
          (hp.1.holdsRecord (k := w.records.log.length) (by rw [← Volume.current, hp.2.1, he])).1
        obtain ⟨u, hu, hwell⟩ := hholds.loads
        rw [hu]
        simp only [Prog.orRaise, Prog.ret_bind, hwell, Prog.raiseIf, Bool.true_eq_false, if_false]
        exact ⟨trivial, ⟨e, he, hu⟩, hp⟩
    · refine .assume fun hrecord => .bind hrest fun us => .ret fun w _ h => ⟨.cons hrecord h.1, h.2⟩

theorem loadAll_returns {v : Volume Text (Entry ι)} (asRoot : Bool) (patience : Nat) :
    Returns i (Idle ft v) (loadAll ft asRoot (patience + 1))
      (fun vs w => Holds ft v.current vs ∧ Idle ft v w) := by
  have hlock : Returns i (Idle ft v) (lock asRoot false (patience + 1)) (fun _ w => Idle ft v w) := by
    refine .bind (prepare_returns asRoot) fun _ => ?_
    refine .bind (returns_idle trivial (by simp) (by simp) (by simp)) fun _ => ?_
    -- no thread writes, so the shared lock is granted at once
    refine .bind (M := fun (granted : Bool) w => granted = true ∧ Idle ft v w) ?_ fun granted =>
      .assume fun hgranted => ?_
    · refine returns_perform fun c w hc hp => ⟨true, ?_, rfl, ?_⟩
      · simp [exec, show c.fails = false from hc, hp.2.2]
      · have hallowed : Allowed ft i (.flock false) w := trivial
        have hinv := (exec_effect i (.flock false) c w).inv hp.1 hallowed
        simp only [exec, show c.fails = false from hc, hp.2.2, Bool.false_eq_true, if_false, if_true]
          at hinv ⊢
        exact ⟨hinv, hp.2.1, rfl⟩
    · rw [if_pos hgranted]
      exact .ret fun _ _ h => h
  have hbody : Returns i (Idle ft v)
      ((perform .list).bind fun (names : List Text) => readRecords ft names)
      (fun vs w => Holds ft v.current vs ∧ Idle ft v w) := by
    refine .bind (M := fun (names : List Text) w => names = recordNames v.current.names ∧ Idle ft v w) ?_
      fun names => .assume fun hnames => ?_
    · refine returns_perform fun c w hc hp => ⟨_, by simp only [exec, show c.fails = false from hc]; rfl, ?_, hp⟩
      rw [recordNames_names, hp.2.1]
    · subst hnames
      exact readRecords_returns fun name hname => Directory.mem_names.mp (mem_recordNames hname)
  refine .bind hlock fun _ => ?_
  refine .andFinally (M := fun vs w => Holds ft v.current vs ∧ Idle ft v w) (F := fun _ _ => False) hbody
    (fun vs => .assume fun hvs => ?_) fun e => ?_
  · exact (returns_idle (r := .closeLock) trivial (by simp) (by simp) (by simp)).mono (fun _ _ h => h)
      (fun _ _ _ h => ⟨hvs, h⟩) fun _ _ _ h => h
  · exact fun w _ hfalse => absurd hfalse id

theorem loadAllReadonly_returns {v : Volume Text (Entry ι)} :
    Returns i (fun w => Idle ft v w ∧ w.made = true) (loadAllReadonly ft)
      (fun vs w => Holds ft v.current vs ∧ Idle ft v w) := by
  refine .bind (M := fun (present : Bool) w => present = true ∧ Idle ft v w) ?_ fun present =>
    .assume fun hpresent => ?_
  · refine returns_perform fun c w hc hp => ⟨w.made, ?_, hp.2, ?_⟩
    · simp [exec, show c.fails = false from hc]
    · exact hp.1
  · rw [if_pos hpresent]
    refine .bind (M := fun (names : List Text) w => names = recordNames v.current.names ∧ Idle ft v w) ?_
      fun names => .assume fun hnames => ?_
    · refine returns_perform fun c w hc hp => ⟨_, by simp only [exec, show c.fails = false from hc]; rfl, ?_, hp⟩
      rw [recordNames_names, hp.2.1]
    · subst hnames
      exact readRecords_returns fun name hname => Directory.mem_names.mp (mem_recordNames hname)

/-- An environment in which every request succeeds. -/
def success : { c : Choice // Succeeds c } := ⟨⟨false, 0⟩, rfl⟩

/-- A reader of the sample journal runs to its end. -/
theorem sample_reader (task : Task) (hproper : task.Proper sampleFloats) {P : World Nat → Prop}
    (hreturns : Returns 1 P (taskProgram sampleFloats false task)
      fun report _ => ∃ vs, report = .loaded vs) (hP : P sampleThreads.state) :
    ∃ x vs, (journalSystem sampleFloats false).Steps sampleThreads x ∧
      (journalSystem sampleFloats false).Reachable emptyWorld x ∧
      x.thread 1 = some ⟨task, sampleThreads.state, .ret (.loaded vs)⟩ := by
  obtain ⟨n, report, w, hrun⟩ := hreturns.exists_ok hP fun _ => success
  obtain ⟨vs, rfl⟩ := hreturns.of_ok hP hrun
  rw [run_within] at hrun
  have hsteps := System.Steps.complete (m := journalSystem sampleFloats false) rfl hproper hrun
  exact ⟨_, vs, hsteps, sampleThreads_reachable.trans hsteps, rfl⟩

/-- In every reachable state in which no thread writes, `load_all` returns the records that stand in the
journal, one for each file, when its own requests succeed. -/
theorem load_all_succeeds {x : Threads ι Task Request Answer Error Report (World ι)} {asRoot : Bool}
    (hx : (journalSystem ft asRoot).Reachable emptyWorld x) (hidle : x.state.exclusive = none)
    (patience : Nat) :
    ∃ n vs w, (loadAll ft asRoot (patience + 1)).run (exec i) (List.replicate n ⟨false, 0⟩) x.state =
        (.ok vs, w) ∧
      w.records = x.state.records ∧
      List.Forall₂ (HasRecord ft x.state.records.current)
        (recordNames x.state.records.current.names) vs := by
  have hreturns : Returns i (Idle ft x.state.records) (loadAll ft asRoot (patience + 1))
      (fun vs w => Holds ft x.state.records.current vs ∧ Idle ft x.state.records w) :=
    loadAll_returns asRoot patience
  have hstart : Idle ft x.state.records x.state := ⟨(journal_sound hx).inv, rfl, hidle⟩
  obtain ⟨n, vs, w, hrun⟩ := hreturns.exists_ok hstart fun _ => success
  obtain ⟨hholds, -, hrecords, -⟩ := hreturns.of_ok hstart hrun
  refine ⟨n, vs, w, ?_, hrecords, hholds⟩
  rw [run_within] at hrun
  simpa [success, List.map_map, Function.comp_def] using hrun

/-- After a record has been created and the machine has failed, the journal can be read. -/
theorem load_all_after_restart :
    ∃ x : Threads Nat Task Request Answer Error Report (World Nat),
      (journalSystem sampleFloats false).Reachable emptyWorld x ∧
      (x.state.records.base.find "a1.json".toList).isSome ∧ ∃ n vs w, (loadAll sampleFloats false 1).run (exec 7) (List.replicate n ⟨false, 0⟩) x.state =
          (.ok vs, w) ∧
        w.records = x.state.records ∧
        List.Forall₂ (HasRecord sampleFloats x.state.records.current)
          (recordNames x.state.records.current.names) vs := by
  have hfails := fails_restart (journal_sound sampleThreads_reachable).inv.directories
  have hx := sampleThreads_reachable.tail (.fail sampleThreads _ hfails)
  exact ⟨_, hx, rfl, load_all_succeeds hx rfl 0⟩

end StorageNode.RepairJournal
