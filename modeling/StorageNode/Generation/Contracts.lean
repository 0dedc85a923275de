import StorageNode.Generation.Protocol

/-!
# Contracts of leases and generations

What `LocalWriterLease` and `WorkerGeneration` do, request by request, in the company of other guardians.
The conditions that a contract carries along are those that a decline of the host keeps (`Modest`).
-/

set_option autoImplicit false

namespace StorageNode.Generation

open StorageNode.Files StorageNode.Program StorageNode.Text

variable {ι : Type} [DecidableEq ι] {i : ι}

/-! ## Conditions -/

/-- Guardian `i` holds the lease. -/
def Leads (i : ι) (w : World ι) : Prop := w.lease = some i

/-- Guardian `i` holds the lease, and this is its object. -/
def Mine (i : ι) (g : WorkerGeneration) (w : World ι) : Prop :=
  w.lease = some i ∧ w.object i = some g

/-- The host without anything new. -/
structure Declines (w w' : World ι) : Prop where
  keepers : w'.keepers = w.keepers
  link : w'.link = w.link ∨ w'.link = none
  rules : w'.rules.Sublist w.rules

omit [DecidableEq ι] in
theorem Loses.declines {w w' : World ι} (h : Loses w w') : Declines w w' :=
  ⟨h.keepers, h.link, h.rules⟩

/-- A condition that a decline of the host keeps. -/
def Modest (φ : World ι → Prop) : Prop :=
  ∀ w w', Declines w w' → φ w → φ w'

omit [DecidableEq ι] in
theorem modest_true : Modest fun _ : World ι => True :=
  fun _ _ _ h => h

omit [DecidableEq ι] in
theorem Modest.and {φ ψ : World ι → Prop} (hφ : Modest φ) (hψ : Modest ψ) :
    Modest fun w => φ w ∧ ψ w :=
  fun w w' h hw => ⟨hφ w w' h hw.1, hψ w w' h hw.2⟩

omit [DecidableEq ι] in
/-- What a link leads to, it led to before. -/
theorem modest_link (A : Peer → Prop) : Modest fun w : World ι => ∀ peer, w.link = some peer → A peer := by
  intro w w' h hw peer hpeer
  rcases h.link with hlink | hlink
  · exact hw peer (hlink.symm.trans hpeer)
  · exact absurd (hlink.symm.trans hpeer) (by simp)

omit [DecidableEq ι] in
theorem modest_rule (rule : Rule) : Modest fun w : World ι => rule ∉ w.rules :=
  fun _ _ h hw hrule => hw (h.rules.subset hrule)

omit [DecidableEq ι] in
theorem modest_keeper (token pid : Nat) : Modest fun w : World ι => (token, pid) ∈ w.keepers := by
  intro w w' h hw
  rw [h.keepers]
  exact hw

theorem stable_leads : (guardianDiscipline i).Stable (Leads i) :=
  fun _ _ _ _ hd h => (hd.loses h).lease.trans h

theorem stable_mine (g : WorkerGeneration) : (guardianDiscipline i).Stable (Mine i g) :=
  fun _ _ _ _ hd h => ⟨(hd.loses h.1).lease.trans h.1, hd.object.trans h.2⟩

/-- What a guardian knows while it holds the lease stays true. -/
theorem stable_modest {φ : World ι → Prop} (hφ : Modest φ) (g : WorkerGeneration) :
    (guardianDiscipline i).Stable fun w => Mine i g w ∧ φ w :=
  fun w w' hw hw' hd h => ⟨stable_mine g w w' hw hw' hd h.1, hφ w w' (hd.loses h.1.1).declines h.2⟩

/-! ## Requests -/

/-- The contract of a request. -/
theorem perform_triple {r : Request} {P : World ι → Prop} {Q : r.Result → World ι → Prop}
    {E : Error → World ι → Prop} (hP : (guardianDiscipline i).Stable P)
    (hallowed : ∀ w, Inv w → P w → Allowed i r w)
    (hok : ∀ c w a, Inv w → P w → (exec i r c w).1 = .ok a → Q a (exec i r c w).2)
    (herror : ∀ c w e, Inv w → P w → (exec i r c w).1 = .error e → E e (exec i r c w).2) :
    (guardianDiscipline i).Triple P (perform r) Q E := by
  refine .bind (M := fun a w => (∀ x, a = .ok x → Q x w) ∧ ∀ e, a = .error e → E e w)
    (.ask hP hallowed fun c w hw hp _ => ⟨fun a => hok c w a hw hp, fun e => herror c w e hw hp⟩)
    fun a => ?_
  cases a with
  | ok x => exact .ret fun _ _ h => h.1 x rfl
  | error e => exact .raise fun _ _ h => h.2 e rfl

/-- What leaves the object, the record and the lease as they are, and adds nothing to the host. -/
def Request.quiet : Request → Bool
  | .flock | .unlock | .closeLease | .construct _ _ | .assign _ | .startKeeper | .writeTemporary _
  | .replaceRecord | .syncStateDirectory => false
  | .command .addLink | .command (.movePeer _) | .command (.addRule _) => false
  | _ => true

theorem Change.loses_of_quiet {w w' : World ι} {r : Request} (h : Change i w r w') (hr : r.quiet = true) :
    Loses w w' ∧ w'.object = w.object := by
  cases h with
  | loses loses object => exact ⟨loses, object⟩
  | released closes => rcases closes with rfl | rfl <;> exact absurd hr (by simp [Request.quiet])
  | _ => exact absurd hr (by simp [Request.quiet])

omit [DecidableEq ι] in
theorem proper_of_quiet {w : World ι} {r : Request} (hr : r.quiet = true) : Proper i w r := by
  cases r with
  | command command =>
    cases command with
    | _ => trivial
  | _ => trivial

theorem exec_quiet {w : World ι} {r : Request} {c : Choice} (hr : r.quiet = true) :
    Loses w (exec i r c w).2 ∧ (exec i r c w).2.object = w.object := by
  obtain ⟨u, hloses, hobject, hchange⟩ := exec_change i r c w
  obtain ⟨hloses', hobject'⟩ := hchange.loses_of_quiet hr
  exact ⟨hloses.trans hloses', hobject'.trans hobject⟩

theorem Mine.quiet {w : World ι} {r : Request} {c : Choice} {g : WorkerGeneration} (h : Mine i g w)
    (hr : r.quiet = true) : Mine i g (exec i r c w).2 :=
  ⟨(exec_quiet hr).1.lease.trans h.1, by rw [(exec_quiet hr).2]; exact h.2⟩

section

variable {g : WorkerGeneration} {φ : World ι → Prop}

/-- A program of quiet requests keeps what the guardian knows. -/
theorem quiet_triple (hφ : Modest φ) {α : Type} {p : Prog α} (hp : p.Issues fun r => r.quiet = true) :
    (guardianDiscipline i).Triple (fun w => Mine i g w ∧ φ w) p (fun _ w => Mine i g w ∧ φ w)
      fun _ w => Mine i g w ∧ φ w :=
  .of_issues (stable_modest hφ g) (fun _ _ hr _ h => ⟨.inr ⟨h.1.1, proper_of_quiet hr⟩,
    fun _ => ⟨h.1.quiet hr, hφ _ _ (exec_quiet hr).1.declines h.2⟩⟩) hp

theorem quiet_perform {r : Request} (hr : r.quiet = true) : (perform r).Issues fun r => r.quiet = true :=
  .bind ((Prog.issues_ask r).mpr hr) fun a => by cases a <;> trivial

/-- A request that finds something out. -/
theorem query_triple (hφ : Modest φ) {r : Request} (hr : r.quiet = true) {R : r.Result → World ι → Prop}
    (hR : ∀ c w a, Mine i g w → (exec i r c w).1 = .ok a → R a (exec i r c w).2) :
    (guardianDiscipline i).Triple (fun w => Mine i g w ∧ φ w) (perform r)
      (fun a w => Mine i g w ∧ φ w ∧ R a w) fun _ w => Mine i g w ∧ φ w :=
  perform_triple (stable_modest hφ g) (fun _ _ h => .inr ⟨h.1.1, proper_of_quiet hr⟩)
    (fun c w a _ h ha => ⟨h.1.quiet hr, hφ _ _ (exec_quiet hr).1.declines h.2, hR c w a h.1 ha⟩)
    fun _ _ _ _ h _ => ⟨h.1.quiet hr, hφ _ _ (exec_quiet hr).1.declines h.2⟩

/-! ## Attributes -/

/-- What `self` is. -/
theorem self_triple (hφ : Modest φ) :
    (guardianDiscipline i).Triple (fun w => Mine i g w ∧ φ w) (perform .self)
      (fun (a : Option WorkerGeneration) w => a = some g ∧ Mine i g w ∧ φ w) fun _ _ => False := by
  have hself : ∀ (c : Choice) (w : World ι), (exec i .self c w).1 = .ok ((w.suffer c.happenings).object i) :=
    fun _ _ => rfl
  refine perform_triple (stable_modest hφ g) (fun _ _ _ => .inl rfl) (fun c w a _ h ha => ?_)
    fun c w e _ _ he => ?_
  · rw [hself, (suffer_loses w _).2, h.1.2] at ha
    exact ⟨(Except.ok.inj ha).symm, h.1.quiet rfl, hφ _ _ (exec_quiet rfl).1.declines h.2⟩
  · rw [hself] at he
    cases he

/-- Read the attributes first. -/
theorem this_triple (hφ : Modest φ) {α : Type} {f : WorkerGeneration → Prog α} {Q : α → World ι → Prop}
    {E : Error → World ι → Prop}
    (h : (guardianDiscipline i).Triple (fun w => Mine i g w ∧ φ w) (f g) Q E) :
    (guardianDiscipline i).Triple (fun w => Mine i g w ∧ φ w) (this.bind f) Q E := by
  refine .bind (M := fun a w => a = g ∧ Mine i g w ∧ φ w) ?_ fun a => .assume fun ha => ha ▸ h
  refine .bind ((self_triple hφ).mono (fun _ _ h => h) (fun _ _ _ h => h) fun _ _ _ h => h.elim)
    fun a => .assume fun ha => ?_
  subst ha
  exact .ret fun _ _ h => ⟨rfl, h⟩

/-- Change the attributes. -/
theorem assign_triple (hφ : Modest φ) {g' : WorkerGeneration}
    (hrevises : ∀ w, Inv w → Mine i g w → φ w → Revises g g' w) {E : Error → World ι → Prop} :
    (guardianDiscipline i).Triple (fun w => Mine i g w ∧ φ w) (perform (.assign (some g')))
      (fun _ w => Mine i g' w ∧ φ w) E := by
  have hassign : ∀ (c : Choice) (w : World ι), exec i (.assign (some g')) c w =
      (.ok (), { w.suffer c.happenings with
        object := Function.update (w.suffer c.happenings).object i (some g') }) := fun _ _ => rfl
  refine perform_triple (stable_modest hφ g)
    (fun w hw h => .inr ⟨h.1.1, g, h.1.2, hrevises w hw h.1 h.2⟩) (fun c w a _ h _ => ?_)
    fun c w e _ _ he => ?_
  · obtain ⟨hloses, hobject⟩ := suffer_loses w c.happenings
    rw [hassign]
    exact ⟨⟨hloses.lease.trans h.1.1, by simp⟩,
      hφ _ _ ⟨hloses.keepers, hloses.link, hloses.rules⟩ h.2⟩
  · rw [hassign] at he
    cases he

theorem update_triple (hφ : Modest φ) {f : WorkerGeneration → WorkerGeneration}
    (hrevises : ∀ w, Inv w → Mine i g w → φ w → Revises g (f g) w) {E : Error → World ι → Prop} :
    (guardianDiscipline i).Triple (fun w => Mine i g w ∧ φ w) (update f)
      (fun _ w => Mine i (f g) w ∧ φ w) E :=
  this_triple hφ (assign_triple hφ hrevises)

omit [DecidableEq ι] in
/-- A revision that leaves the fence alone. -/
theorem revises_of_inv {w : World ι} {g' : WorkerGeneration} (hw : Inv w) (hg : Mine i g w)
    (htoken : g'.token = g.token) (hsettings : g'.settings = g.settings) (hfenced : g'.fenced = g.fenced)
    (hkeeper : ∀ pid, g'.keeper = some pid → (g.token, pid) ∈ w.keepers) : Revises g g' w where
  token := htoken
  settings := hsettings
  keeper := hkeeper
  fenced h := hw.fenced i g hg.2 (hfenced ▸ h)
  monotone h := hfenced ▸ h

/-! ## The record -/

/-- The record as it is read. -/
def Stored (record : GenerationRecord) (w : World ι) : Prop :=
  w.records.current.find () = some record

/-- What a request that is no quiet one does to the record. -/
theorem exec_record {w : World ι} {r : Request} {c : Choice}
    (hr : (∃ record, r = .writeTemporary record) ∨ r = .replaceRecord ∨ r = .syncStateDirectory) :
    (exec i r c w).2.lease = w.lease ∧ (exec i r c w).2.object = w.object ∧
      Declines w (exec i r c w).2 := by
  obtain ⟨u, hloses, hobject, hchange⟩ := exec_change i r c w
  generalize (exec i r c w).2 = w' at hchange
  have hsame : w'.lease = u.lease ∧ w'.object = u.object ∧ Declines u w' := by
    cases hchange with
    | loses loses object => exact ⟨loses.lease, object, loses.declines⟩
    | wrote record written content => exact ⟨rfl, rfl, rfl, .inl rfl, List.Sublist.refl _⟩
    | replaced record found => exact ⟨rfl, rfl, rfl, .inl rfl, List.Sublist.refl _⟩
    | synced => exact ⟨rfl, rfl, rfl, .inl rfl, List.Sublist.refl _⟩
    | released closes => rcases closes with rfl | rfl <;> simp at hr
    | _ => simp at hr
  obtain ⟨hlease, hobject', hdeclines⟩ := hsame
  refine ⟨hlease.trans hloses.lease, hobject'.trans hobject, hdeclines.keepers.trans hloses.keepers, ?_,
    hdeclines.rules.trans hloses.rules⟩
  rcases hdeclines.link with hlink | hlink
  · rw [hlink]
    exact hloses.link
  · exact .inr hlink

theorem stable_lossy {ψ : World ι → Prop} (hψ : ∀ w w', Loses w w' → ψ w → ψ w') :
    (guardianDiscipline i).Stable fun w => Mine i g w ∧ ψ w :=
  fun w w' hw hw' hd h => ⟨stable_mine g w w' hw hw' hd h.1, hψ w w' (hd.loses h.1.1) h.2⟩

/-- A step of `_write_json_atomic`. -/
theorem write_step (hφ : Modest φ) {r : Request} {ψ ψ' : World ι → Prop}
    (hr : (∃ record, r = .writeTemporary record) ∨ r = .replaceRecord ∨ r = .syncStateDirectory)
    (hψ : ∀ w w', Loses w w' → ψ w → ψ w') (hproper : ∀ w, Inv w → Mine i g w → Proper i w r)
    (hok : ∀ c w a, ψ w → (exec i r c w).1 = .ok a → ψ' (exec i r c w).2) :
    (guardianDiscipline i).Triple (fun w => Mine i g w ∧ φ w ∧ ψ w) (perform r)
      (fun _ w => Mine i g w ∧ φ w ∧ ψ' w) fun _ w => Mine i g w ∧ φ w := by
  have hmine : ∀ c w, Mine i g w → φ w → Mine i g (exec i r c w).2 ∧ φ (exec i r c w).2 := by
    intro c w hg hw
    obtain ⟨hlease, hobject, hdeclines⟩ := exec_record (i := i) (c := c) (w := w) hr
    exact ⟨⟨hlease.trans hg.1, by rw [hobject]; exact hg.2⟩, hφ _ _ hdeclines hw⟩
  refine perform_triple
    (stable_lossy fun w w' hloses hw => ⟨hφ w w' hloses.declines hw.1, hψ w w' hloses hw.2⟩)
    (fun w hw h => .inr ⟨h.1.1, hproper w hw h.1⟩) (fun c w a _ h ha => ?_) fun c w _ _ h _ => ?_
  · obtain ⟨hg, hw⟩ := hmine c w h.1 h.2.1
    exact ⟨hg, hw, hok c w a h.2.2 ha⟩
  · exact hmine c w h.1 h.2.1

theorem writeJsonAtomic_triple (hφ : Modest φ) {record : GenerationRecord}
    (htrue : ∀ w, Inv w → Mine i g w → Truthful w record) :
    (guardianDiscipline i).Triple (fun w => Mine i g w ∧ φ w) (writeJsonAtomic record)
      (fun _ w => Mine i g w ∧ φ w ∧ Stored record w) fun _ w => Mine i g w ∧ φ w := by
  refine .bind (quiet_triple hφ (quiet_perform rfl)) fun _ => ?_
  refine .bind (M := fun _ w => Mine i g w ∧ φ w ∧ w.temporary = some record) ?_ fun _ => ?_
  · refine (write_step hφ (ψ := fun _ => True) (.inl ⟨record, rfl⟩) (fun _ _ _ _ => trivial) htrue
      fun c w a _ ha => ?_).pre fun _ _ h => ⟨h.1, h.2, trivial⟩
    have hworks : c.raises = false := by
      cases hraises : c.raises with
      | false => rfl
      | true => simp [exec, answer, Request.internal, hraises] at ha
    simp [exec, takesEffect, refusal, effect, hworks]
  refine .bind (M := fun _ w => Mine i g w ∧ φ w ∧ Stored record w) ?_ fun _ => ?_
  · refine write_step hφ (.inr (.inl rfl)) (fun w w' hloses hw => by rw [hloses.temporary, hw])
      (fun _ _ _ => trivial) fun c w a hw ha => ?_
    have htemporary : (w.suffer c.happenings).temporary = some record :=
      (suffer_loses w c.happenings).1.temporary.trans hw
    have hworks : c.raises = false := by
      cases hraises : c.raises with
      | false => rfl
      | true => simp [exec, answer, Request.internal, hraises] at ha
    simp [exec, takesEffect, refusal, effect, hworks, htemporary, Stored, Volume.current_replace,
      Directory.find_put]
  · refine write_step hφ (.inr (.inr rfl)) (fun w w' hloses hw => by rw [Stored, hloses.records]; exact hw)
      (fun _ _ _ => trivial) fun c w a hw _ => ?_
    have hrecords : (exec i .syncStateDirectory c w).2.records.current = w.records.current := by
      have hsuffer := (suffer_loses w c.happenings).1.records
      simp only [exec]
      split
      · simp [effect, hsuffer]
      · rw [hsuffer]
    rw [Stored, hrecords]
    exact hw

/-- `_persist`. -/
theorem persist_triple (hφ : Modest φ) (state : String) :
    (guardianDiscipline i).Triple (fun w => Mine i g w ∧ φ w) (persist state)
      (fun _ w => Mine i g w ∧ φ w ∧ ∃ workerIp now, Stored (g.record state workerIp now) w)
      fun _ w => Mine i g w ∧ φ w := by
  refine this_triple hφ ?_
  refine .bind (M := fun _ w => Mine i g w ∧ φ w) (.orRaise (fun _ _ _ h => h) fun _ _ _ _ h => h)
    fun workerIp => ?_
  refine .bind (quiet_triple hφ (quiet_perform rfl)) fun (now : Nat) => ?_
  refine (writeJsonAtomic_triple hφ fun w hw hg hfenced => hw.dead hg.2 hfenced).post
    fun _ _ _ h => ⟨h.1, h.2.1, workerIp, now, h.2.2⟩

end

end StorageNode.Generation
