import StorageNode.IndexRepair.Pool

/-!
# Repairs do not interfere

Any schedule of the workers of `repair_detected` leaves every volume as the sequential loop does, in
whatever order the loop takes the volumes, and the two runs end the same way. The decisions of the
environment are fixed per volume and request; only the times of the records depend on the schedule.

Each worker is compared with a repair of its volume alone, in a world that holds only the records of
the volume and whose clock ticks by one. `Tracks` says where both stand: an increasing function turns
the times of the one into those of the other, and `repairOne_local` keeps the two in step.
-/

set_option autoImplicit false

namespace StorageNode.IndexRepair

open StorageNode.Program StorageNode.IndexHelper StorageNode.SeaweedHealth RepairProg

variable {D : Type}

/-! ## Requests about one volume -/

theorem setFile_agree {v : Int} {w w' : World D}
    (h : ∀ p : Path, p.base.volumeId = v → w.files p = w'.files p) (q : Path) (node : Option Node) :
    ∀ p : Path, p.base.volumeId = v → (w.setFile q node).files p = (w'.setFile q node).files p := by
  intro p hp
  simp only [World.setFile]
  rw [h p hp]

theorem attempted_agree {v : Int} {w w' u u' : World D} (c : RepairChoice D)
    (h : ∀ p : Path, p.base.volumeId = v → w.files p = w'.files p)
    (h' : ∀ p : Path, p.base.volumeId = v → u.files p = u'.files p) :
    (attempted c w u).1 = (attempted c w' u').1 ∧
      ∀ p : Path, p.base.volumeId = v → (attempted c w u).2.files p = (attempted c w' u').2.files p := by
  unfold attempted
  cases c.fault with
  | none => exact ⟨rfl, h'⟩
  | before => exact ⟨rfl, h⟩
  | after => exact ⟨rfl, h'⟩

variable [DecidableEq D]

/-- A request that reads no clock and touches no journal leaves both alone. -/
theorem repairExec_plain (sha256 : Bytes → D) {r : RepairReq D} (hr : r.plain = true)
    (c : RepairChoice D) (w : World D) :
    (repairExec sha256 r c w).2.journal = w.journal ∧
      (repairExec sha256 r c w).2.clock = w.clock ∧
      (repairExec sha256 r c w).2.nextSerial = w.nextSerial := by
  have heffect := repairExec_effect sha256 r c w
  generalize (repairExec sha256 r c w).2 = w' at heffect ⊢
  cases heffect with
  | nothing => exact ⟨rfl, rfl, rfl⟩
  | time clock hr' h => exact absurd hr (by simp [hr', RepairReq.plain])
  | name base hr' => rcases hr' with rfl | rfl <;> exact absurd hr (by simp [RepairReq.plain])
  | record kind t hr' => exact absurd hr (by simp [hr', RepairReq.plain])
  | write files events hfiles hevents => exact ⟨rfl, rfl, rfl⟩

/-- The same request, in two worlds that agree about the files of the volume. -/
theorem repairExec_own (sha256 : Bytes → D) {v : Int} {r : RepairReq D} (hr : r.Own v)
    (c : RepairChoice D) {w w' : World D}
    (h : ∀ p : Path, p.base.volumeId = v → w.files p = w'.files p) :
    (repairExec sha256 r c w).1 = (repairExec sha256 r c w').1 ∧
      ∀ p : Path, p.base.volumeId = v →
        (repairExec sha256 r c w).2.files p = (repairExec sha256 r c w').2.files p := by
  obtain ⟨hplain, hpaths⟩ := hr
  have hread : ∀ p ∈ r.paths, w.files p = w'.files p := fun p hp => h p (hpaths p hp)
  -- a plain request reads neither clock nor journal nor serials, so the files decide
  cases r with
  | now => exact absurd hplain (by simp [RepairReq.plain])
  | load => exact absurd hplain (by simp [RepairReq.plain])
  | save kind t => exact absurd hplain (by simp [RepairReq.plain])
  | uuid base => exact absurd hplain (by simp [RepairReq.plain])
  | scratchName base => exact absurd hplain (by simp [RepairReq.plain])
  | node p => exact ⟨hread p (by simp [RepairReq.paths]), h⟩
  | hash p =>
      refine ⟨?_, h⟩
      simp only [repairExec]
      rw [hread p (by simp [RepairReq.paths])]
  | unlink p => exact attempted_agree c h (setFile_agree h p none)
  | copy source destination mode =>
      have hsource := hread source (by simp [RepairReq.paths])
      have hdestination := hread destination (by simp [RepairReq.paths])
      simp only [repairExec, copied]
      rw [hsource, hdestination]
      split
      · cases c.fault <;> exact ⟨rfl, setFile_agree h _ _⟩
      · exact ⟨rfl, h⟩
  | link source destination =>
      have hsource := hread source (by simp [RepairReq.paths])
      have hdestination := hread destination (by simp [RepairReq.paths])
      simp only [repairExec]
      rw [hsource, hdestination]
      cases w'.files source with
      | none => exact ⟨rfl, h⟩
      | some node =>
          cases w'.files destination with
          | some _ => exact ⟨rfl, h⟩
          | none => exact attempted_agree c h (setFile_agree h _ _)
  | replace source destination =>
      have hsource := hread source (by simp [RepairReq.paths])
      simp only [repairExec]
      rw [hsource]
      split
      · exact attempted_agree c h (setFile_agree (setFile_agree h _ _) _ _)
      · exact ⟨rfl, h⟩
  | sync => exact ⟨rfl, h⟩
  | removeStaging id =>
      simp only [repairExec]
      split
      · exact ⟨rfl, setFile_agree h _ _⟩
      · exact ⟨rfl, h⟩
  | preflight => exact ⟨rfl, h⟩
  | build id fingerprint =>
      simp only [repairExec]
      cases c.helper <;> exact ⟨rfl, setFile_agree h _ _⟩
  | recoverTail id expected maximumTailBytes =>
      have hdat := hread (.dat id.base) (by simp [RepairReq.paths])
      -- the helper starts from the same index, candidate and tail
      have hstart : ∀ source, tailStart w c id source = tailStart w' c id source := by
        intro source
        simp only [tailStart, World.contents]
        rw [hread (.liveIdx id.base) (by simp [RepairReq.paths]),
          hread (.candidate id) (by simp [RepairReq.paths]),
          hread (.incompleteTail id) (by simp [RepairReq.paths])]
      simp only [repairExec]
      rw [hdat]
      split
      · exact ⟨rfl, h⟩
      · exact ⟨rfl, h⟩
      · rw [hstart]
        refine ⟨rfl, ?_⟩
        simp only [tailEnd]
        split <;> split <;>
          first
          | exact setFile_agree (setFile_agree h _ _) _ _
          | exact setFile_agree (setFile_agree (setFile_agree h _ _) _ _) _ _

/-- Only a reading of the clock depends on how much time has passed. -/
theorem repairExec_elapsed (sha256 : Bytes → D) {r : RepairReq D} (hr : r ≠ .now)
    (c : RepairChoice D) (w : World D) :
    repairExec sha256 r { c with elapsed := 0 } w = repairExec sha256 r c w := by
  cases r with
  | now => exact absurd rfl hr
  | _ => rfl

/-- The clock does not go back. -/
theorem repairExec_clock (sha256 : Bytes → D) (r : RepairReq D) (c : RepairChoice D) (w : World D) :
    w.clock ≤ (repairExec sha256 r c w).2.clock := by
  have heffect := repairExec_effect sha256 r c w
  generalize (repairExec sha256 r c w).2 = w' at heffect ⊢
  cases heffect with
  | time clock hr h => exact h
  | _ => exact Nat.le_refl _

/-! ## A worker and a repair of its volume alone -/

/-- Where a worker stands in the shared state, and where a repair of its volume alone stands. The
programs are in step whatever later times will be. -/
structure Tracks (s : Store D) (x : Worker D) (q : RepairProg D Unit) (w : World D)
    (φ : Nat → Nat) : Prop where
  mono : StrictMono φ
  clock : φ w.clock ≤ s.clock
  records : recordsOf x.volumeId s.journal = w.journal.map (Transaction.shift φ)
  stamps : ∀ t ∈ w.journal, t.updatedAt ≤ w.clock
  files : ∀ p : Path, p.base.volumeId = x.volumeId → w.files p = s.files p
  serials : w.nextSerial = s.serials x.volumeId
  progs : ∀ ψ : Nat → Nat, StrictMono ψ → (∀ n ≤ w.clock, ψ n = φ n) →
    Local x.volumeId ψ (fun _ _ => True) q x.prog

/-- The times up to `n` as before, and `m` for the next one. -/
def extendAt (φ : Nat → Nat) (n m : Nat) (a : Nat) : Nat :=
  if a ≤ n then φ a else m + (a - (n + 1))

theorem extendAt_mono {φ : Nat → Nat} (hφ : StrictMono φ) {n m : Nat} (h : φ n < m) :
    StrictMono (extendAt φ n m) := by
  refine strictMono_nat_of_lt_succ fun a => ?_
  unfold extendAt
  rcases Nat.lt_trichotomy a n with hlt | rfl | hgt
  · rw [if_pos (by omega), if_pos (by omega)]
    exact hφ (Nat.lt_succ_self a)
  · rw [if_pos (by omega), if_neg (by omega)]
    omega
  · rw [if_neg (by omega), if_neg (by omega)]
    omega

omit [DecidableEq D] in
theorem map_shift_congr {φ ψ : Nat → Nat} {n : Nat} {ts : List (Transaction D)}
    (h : ∀ t ∈ ts, t.updatedAt ≤ n) (hagree : ∀ m ≤ n, ψ m = φ m) :
    ts.map (Transaction.shift ψ) = ts.map (Transaction.shift φ) := by
  refine List.map_congr_left fun t ht => ?_
  rw [Transaction.shift, Transaction.shift, hagree _ (h t ht)]

omit [DecidableEq D] in
theorem map_shift_save {φ : Nat → Nat} (ts : List (Transaction D)) (t : Transaction D) :
    saveTransaction (ts.map (Transaction.shift φ)) (t.shift φ) =
      (saveTransaction ts t).map (Transaction.shift φ) := by
  rw [saveTransaction, saveTransaction, List.map_append, List.filter_map]
  rfl

section

variable {sha256 : Bytes → D} {s s' : Store D} {v : Int} {n : Nat} {w w' : World D}
  {φ φ' : Nat → Nat} {r r' : RepairReq D} {k : r.Ans → RepairProg D Unit}
  {k' : r'.Ans → RepairProg D Unit} {x : Worker D} {q : RepairProg D Unit}

omit [DecidableEq D] in
/-- One request on both sides, with related answers. -/
theorem Tracks.step (h : Tracks s ⟨v, .call r' k', n⟩ (.call r k) w φ) {a : r.Ans} {a' : r'.Ans}
    (hmono : StrictMono φ') (hagree : ∀ m ≤ w.clock, φ' m = φ m) (hle : w.clock ≤ w'.clock)
    (hclock : φ' w'.clock ≤ s'.clock)
    (hrecords : recordsOf v s'.journal = w'.journal.map (Transaction.shift φ'))
    (hstamps : ∀ t ∈ w'.journal, t.updatedAt ≤ w'.clock)
    (hfiles : ∀ p : Path, p.base.volumeId = v → w'.files p = s'.files p)
    (hserials : w'.nextSerial = s'.serials v)
    (hlink : ∀ ψ : Nat → Nat, (∀ m ≤ w'.clock, ψ m = φ' m) →
      ∀ A, LocalLink v ψ r r' A → A a a') :
    Tracks s' ⟨v, k' a', n + 1⟩ (k a) w' φ' where
  mono := hmono
  clock := hclock
  records := hrecords
  stamps := hstamps
  files := hfiles
  serials := hserials
  progs ψ hψ hsame := by
    have hold : ∀ m ≤ w.clock, ψ m = φ m := fun m hm =>
      (hsame m (hm.trans hle)).trans (hagree m hm)
    obtain ⟨A, hA, hk⟩ := h.progs ψ hψ hold
    exact hk a a' (hlink ψ hsame A hA)

omit [DecidableEq D] in
/-- What a repair saves carries a time that has passed. -/
theorem Tracks.saved_stamp {kind : SaveKind} {t t' : Transaction D}
    {k : (RepairReq.save kind t).Ans → RepairProg D Unit}
    {k' : (RepairReq.save kind t').Ans → RepairProg D Unit}
    (h : Tracks s ⟨v, .call (.save kind t') k', n⟩ (.call (.save kind t) k) w φ) :
    t.updatedAt ≤ w.clock := by
  have hshift : ∀ ψ : Nat → Nat, StrictMono ψ → (∀ m ≤ w.clock, ψ m = φ m) → t' = t.shift ψ := by
    intro ψ hψ hagree
    obtain ⟨A, hA, -⟩ := h.progs ψ hψ hagree
    cases hA with
    | save _ _ hv ht => rfl
    | own _ hr => exact absurd hr.1 (by simp [RepairReq.plain])
  by_contra hlate
  -- were it later, the saved time could still be changed
  have hother : StrictMono fun m => if m ≤ w.clock then φ m else φ m + 1 := by
    intro a b hab
    have := h.mono hab
    dsimp only
    split <;> split <;> omega
  have heq := (hshift φ h.mono fun _ _ => rfl).symm.trans
    (hshift _ hother fun m hm => if_pos hm)
  have htime := congrArg Transaction.updatedAt heq
  simp only [shift_updatedAt, if_neg hlate] at htime
  omega

omit [DecidableEq D] in
/-- A plain request has the same answer on both sides. -/
theorem LocalLink.of_plain {ψ : Nat → Nat} {A : r.Ans → r'.Ans → Prop} (h : LocalLink v ψ r r' A)
    (hr : r.plain = true) (heq : r = r') (a : r.Ans) : A a (heq ▸ a) := by
  cases h with
  | own _ _ => rfl
  | _ => exact absurd hr (by simp [RepairReq.plain])

/-- A request of a worker, and the same request of the repair alone. -/
theorem Tracks.serve (h : Tracks s ⟨v, .call r' k', n⟩ q w φ) (hs : s.Sound) (c : RepairChoice D) :
    ∃ (r : RepairReq D) (k : r.Ans → RepairProg D Unit) (φ' : Nat → Nat), q = .call r k ∧
      Tracks (storeExec sha256 v r' c s).2 ⟨v, k' (storeExec sha256 v r' c s).1, n + 1⟩
        (k (repairExec sha256 r { c with elapsed := 0 } w).1)
        (repairExec sha256 r { c with elapsed := 0 } w).2 φ' := by
  obtain ⟨r, k, A, rfl, hlink, -⟩ := exists_link (h.progs φ h.mono fun _ _ => rfl)
  cases hlink with
  | now =>
      have hlater : φ w.clock < s.clock + 1 + c.elapsed := by
        have := h.clock
        omega
      -- the solitary clock moves by one; the renaming sends that moment to the shared clock
      refine ⟨_, k, extendAt φ w.clock (s.clock + 1 + c.elapsed), rfl, ?_⟩
      have hagree : ∀ m ≤ w.clock, extendAt φ w.clock (s.clock + 1 + c.elapsed) m = φ m :=
        fun m hm => if_pos hm
      have hnext : extendAt φ w.clock (s.clock + 1 + c.elapsed) (w.clock + 1) =
          s.clock + 1 + c.elapsed := by
        rw [extendAt, if_neg (by omega)]
        omega
      refine h.step (extendAt_mono h.mono hlater) hagree (Nat.le_succ _) (Nat.le_of_eq hnext) ?_
        (fun t ht => (h.stamps t ht).trans (Nat.le_succ _)) h.files ?_ ?_
      · exact h.records.trans (map_shift_congr h.stamps hagree).symm
      · rw [storeExec_serials]
        exact h.serials
      · intro ψ hψ A hA
        cases hA with
        | now => exact hnext.symm.trans (hψ (w.clock + 1) (Nat.le_refl _)).symm
        | own _ hr => exact absurd hr.1 (by simp [RepairReq.plain])
  | load =>
      refine ⟨_, k, φ, rfl, ?_⟩
      refine h.step h.mono (fun _ _ => rfl) (Nat.le_refl _) h.clock h.records h.stamps h.files ?_ ?_
      · rw [storeExec_serials]
        exact h.serials
      · intro ψ hψ A hA
        cases hA with
        | load =>
            -- both journals are read or neither is, and they correspond under every extension of `φ`
            by_cases hfault : c.fault = .none
            · rw [show (storeExec sha256 v .load c s).1 = some s.journal from if_pos hfault,
                show (repairExec sha256 .load { c with elapsed := 0 } w).1 = some w.journal from
                  if_pos hfault]
              exact ⟨h.records.trans (map_shift_congr h.stamps hψ).symm, hs⟩
            · rw [show (storeExec sha256 v .load c s).1 = none from if_neg hfault,
                show (repairExec sha256 .load { c with elapsed := 0 } w).1 = none from if_neg hfault]
              trivial
        | own _ hr => exact absurd hr.1 (by simp [RepairReq.plain])
  | save kind t hv ht =>
      refine ⟨_, k, φ, rfl, ?_⟩
      -- the answer of a save depends on the fault alone
      have hsame : ∀ (b : Bool) (ψ : Nat → Nat), (∀ m ≤ w.clock, ψ m = φ m) →
          ∀ A, LocalLink v ψ (.save kind t) (.save kind (t.shift φ)) A → A b b := by
        intro b ψ hψ A hA
        generalize hu : t.shift φ = u at A hA
        cases hA with
        | save _ _ hv ht => rfl
        | own _ hr => exact absurd hr.1 (by simp [RepairReq.plain])
      -- a fault before the save leaves both journals, any other end saves the same record in both
      have hkept : ∀ b : Bool, Tracks (s.put v (s.world v)) ⟨v, k' b, n + 1⟩ (k b) w φ := by
        intro b
        refine h.step h.mono (fun _ _ => rfl) (Nat.le_refl _) h.clock h.records h.stamps h.files ?_
          (hsame b)
        rw [Store.put_serials]
        exact h.serials
      have hsaved : ∀ b : Bool, Tracks (s.put v ((s.world v).saveRecord kind (t.shift φ)))
          ⟨v, k' b, n + 1⟩ (k b) (w.saveRecord kind t) φ := by
        intro b
        refine h.step h.mono (fun _ _ => rfl) (Nat.le_refl _) h.clock ?_ ?_ h.files ?_ (hsame b)
        · refine (recordsOf_save_own (t := t.shift φ) hv s.journal).trans ?_
          have hrecords : recordsOf v s.journal = w.journal.map (Transaction.shift φ) := h.records
          rw [hrecords]
          exact map_shift_save w.journal t
        · intro u hu
          rcases mem_saveTransaction.1 hu with ⟨hu, -⟩ | rfl
          · exact h.stamps u hu
          · exact h.saved_stamp
        · rw [Store.put_serials]
          exact h.serials
      cases hfault : c.fault with
      | none =>
          simp only [storeExec, repairExec, attempted, hfault]
          exact hsaved true
      | before =>
          simp only [storeExec, repairExec, attempted, hfault]
          exact hkept false
      | after =>
          simp only [storeExec, repairExec, attempted, hfault]
          exact hsaved false
  | uuid base hv =>
      refine ⟨_, k, φ, rfl, ?_⟩
      refine h.step h.mono (fun _ _ => rfl) (Nat.le_refl _) h.clock h.records h.stamps h.files ?_ ?_
      · refine Eq.trans ?_ (storeExec_serials sha256 v _ c s).symm
        exact congrArg (· + 1) h.serials
      · intro ψ hψ A hA
        cases hA with
        | uuid _ hv => exact ⟨congrArg (TxId.mk base) h.serials, rfl⟩
        | own _ hr => exact absurd hr.1 (by simp [RepairReq.plain])
  | scratchName base hv =>
      refine ⟨_, k, φ, rfl, ?_⟩
      refine h.step h.mono (fun _ _ => rfl) (Nat.le_refl _) h.clock h.records h.stamps h.files ?_ ?_
      · refine Eq.trans ?_ (storeExec_serials sha256 v _ c s).symm
        exact congrArg (· + 1) h.serials
      · intro ψ hψ A hA
        cases hA with
        | scratchName _ hv => exact ⟨congrArg (TxId.mk base) h.serials, rfl⟩
        | own _ hr => exact absurd hr.1 (by simp [RepairReq.plain])
  | own _ hr =>
      refine ⟨r', k, φ, rfl, ?_⟩
      -- every other request is about files of the volume, which agree
      have hnow : r' ≠ .now := by
        rintro rfl
        exact absurd hr.1 (by simp [RepairReq.plain])
      rw [repairExec_elapsed sha256 hnow]
      have hagree : ∀ p : Path, p.base.volumeId = v → w.files p = (s.world v).files p := h.files
      obtain ⟨hanswer, hfiles⟩ := repairExec_own sha256 hr c hagree
      obtain ⟨hjournal, hclock, hserial⟩ := repairExec_plain sha256 hr.1 c w
      obtain ⟨hjournal', hclock', hserial'⟩ := repairExec_plain sha256 hr.1 c (s.world v)
      refine h.step h.mono (fun _ _ => rfl) (Nat.le_of_eq hclock.symm) ?_ ?_ ?_ hfiles ?_ ?_
      · rw [hclock]
        exact h.clock.trans (Nat.le_of_eq hclock'.symm)
      · rw [hjournal]
        exact (congrArg (recordsOf v) hjournal').trans h.records
      · rw [hjournal, hclock]
        exact h.stamps
      · rw [hserial, storeExec_serials, hserial']
        exact h.serials
      · intro ψ hψ A hA
        rw [hanswer]
        exact hA.of_plain hr.1 rfl _

omit [DecidableEq D] in
/-- A worker of another volume is not disturbed. -/
theorem Tracks.other (h : Tracks s x q w φ) (hsame : LeftAlone x.volumeId s s')
    (hclock : s.clock ≤ s'.clock) : Tracks s' x q w φ where
  mono := h.mono
  clock := h.clock.trans hclock
  records := hsame.records.trans h.records
  stamps := h.stamps
  files p hp := (h.files p hp).trans (hsame.files p hp).symm
  serials := h.serials.trans hsame.serials.symm
  progs := h.progs

omit [DecidableEq D] in
/-- A worker that has ended has ended as the repair alone. -/
theorem Tracks.ended (h : Tracks s x q w φ) (hend : x.prog.next = none) : q = x.prog := by
  have hprogs := h.progs φ h.mono fun _ _ => rfl
  obtain ⟨v, p, n⟩ := x
  cases p with
  | ret a =>
      cases q with
      | ret b => rfl
      | raise e => exact hprogs.elim
      | call r k => exact hprogs.elim
  | raise e =>
      cases q with
      | ret b => exact hprogs.elim
      | raise e' => exact congrArg Prog.raise hprogs
      | call r k => exact hprogs.elim
  | call r k => exact absurd hend (by simp [Prog.next])

end

/-! ## The pool -/

/-- The environment with given decisions. -/
def Serves.only (env : Option Int → Nat → RepairChoice D) : Serves D :=
  fun thread n c => c = env thread n

/-- The volume alone. -/
def Store.alone (s : Store D) (v : Int) : World D :=
  { journal := recordsOf v s.journal, files := s.files, clock := s.clock, nextSerial := s.serials v }

/-- What all schedules have in common: the decisions of the environment, the state before the repairs,
and the repair of each volume. -/
structure Scene (D : Type) where
  sha256 : Bytes → D
  env : Option Int → Nat → RepairChoice D
  store : Store D
  start : Int → RepairProg D Unit

/-- Where the repair of a volume alone stands after `n` requests. -/
def Scene.alone (S : Scene D) (v : Int) (n : Nat) : RepairProg D Unit × World D :=
  Prog.position (repairExec S.sha256) (fun n => { S.env (some v) n with elapsed := 0 })
    (S.start v, S.store.alone v) n

/-- Every worker of the pool stands where the repair of its volume alone stands after as many
requests. -/
structure Scene.Tracked (S : Scene D) (p : Pool D) : Prop where
  sound : p.store.Sound
  distinct : (p.workers.map Worker.volumeId).Nodup
  tracks : ∀ x ∈ p.workers, ∃ φ : Nat → Nat,
    Tracks p.store x (S.alone x.volumeId x.used).1 (S.alone x.volumeId x.used).2 φ

section

variable {S : Scene D} {concurrency : Nat} {p p' : Pool D}

/-- One step of the pool. -/
theorem Scene.Tracked.step (hp : S.Tracked p)
    (hstep : PoolStep S.sha256 (Serves.only S.env) concurrency p p') : S.Tracked p' := by
  rcases hstep.cases_moves with ⟨hstore, hperm⟩ | ⟨before, after, v, n, r, k, c, hc, hw, hw', hstore⟩
  · -- a worker enters or leaves the pool: the store stays as it is
    refine ⟨hstore ▸ hp.sound, (hperm.map _).nodup_iff.2 hp.distinct, fun x hx => ?_⟩
    rw [hstore]
    exact hp.tracks x (hperm.subset hx)
  · -- a worker issues a request, with the choice that it would get alone
    obtain rfl : c = S.env (some v) n := hc
    obtain ⟨φ, hφ⟩ := hp.tracks ⟨v, .call r k, n⟩ (by rw [hw]; simp)
    obtain ⟨r₁, k₁, A, -, hlink, -⟩ := exists_link (hφ.progs φ hφ.mono fun _ _ => rfl)
    obtain ⟨r₀, k₀, φ', hq, hserved⟩ := hφ.serve hp.sound (S.env (some v) n)
    have hdistinct := hp.distinct
    rw [hw, List.map_append, List.map_cons, List.nodup_middle, List.nodup_cons] at hdistinct
    -- the others work on other volumes
    have hother : ∀ x ∈ before ++ after, ∃ φ : Nat → Nat, Tracks p'.store x
        (S.alone x.volumeId x.used).1 (S.alone x.volumeId x.used).2 φ := by
      intro x hx
      have hne : x.volumeId ≠ v := by
        rintro rfl
        refine hdistinct.1 ?_
        rw [← List.map_append]
        exact List.mem_map.2 ⟨x, hx, rfl⟩
      obtain ⟨ψ, hψ⟩ := hp.tracks x (by
        rw [hw]
        simp only [List.mem_append, List.mem_cons] at hx ⊢
        tauto)
      refine ⟨ψ, hψ.other ?_ ?_⟩
      · rw [hstore]
        exact storeExec_leftAlone hlink _ hne
      · rw [hstore]
        exact repairExec_clock S.sha256 r _ (p.store.world v)
    refine ⟨?_, ?_, fun x hx => ?_⟩
    · rw [hstore]
      exact storeExec_sound hlink _ hp.sound
    · rw [hw', List.map_append, List.map_cons, List.nodup_middle, List.nodup_cons]
      exact hdistinct
    · rw [hw', List.mem_append, List.mem_cons] at hx
      rcases hx with hx | rfl | hx
      · exact hother x (List.mem_append_left _ hx)
      · refine ⟨φ', ?_⟩
        have hnext : S.alone v (n + 1) = _ := Prog.position_of_call hq
        rw [hstore, hnext]
        exact hserved
      · exact hother x (List.mem_append_right _ hx)

/-- A run of the pool. -/
theorem Scene.Tracked.run (hp : S.Tracked p) (hrun : Relation.ReflTransGen
    (PoolStep S.sha256 (Serves.only S.env) concurrency) p p') : S.Tracked p' := by
  induction hrun with
  | refl => exact hp
  | tail _ hstep ih => exact ih.step hstep

/-- A worker that has ended has ended as the repair of its volume alone. -/
theorem Scene.Tracked.ended (hp : S.Tracked p) {x : Worker D} (hx : x ∈ p.workers)
    (hend : x.prog.next = none) : (S.alone x.volumeId x.used).1 = x.prog := by
  obtain ⟨φ, hφ⟩ := hp.tracks x hx
  exact hφ.ended hend

omit [DecidableEq D] in
/-- The two states agree about the volume, but for the times of its records. -/
structure SameVolume (v : Int) (s s' : Store D) : Prop where
  files : ∀ p : Path, p.base.volumeId = v → s.files p = s'.files p
  records : (recordsOf v s.journal).map (Transaction.shift fun _ => 0) =
    (recordsOf v s'.journal).map (Transaction.shift fun _ => 0)

/-- Two workers of a volume that have ended, in whatever pools, have ended the same way and left the
volume the same. -/
theorem Scene.same_volume (hp : S.Tracked p) (hp' : S.Tracked p') {x x' : Worker D}
    (hx : x ∈ p.workers) (hx' : x' ∈ p'.workers) (hv : x'.volumeId = x.volumeId)
    (hend : x.prog.next = none) (hend' : x'.prog.next = none) :
    x'.prog = x.prog ∧ SameVolume x.volumeId p.store p'.store := by
  have hq := hp.ended hx hend
  have hq' := hp'.ended hx' hend'
  obtain ⟨φ, hφ⟩ := hp.tracks x hx
  obtain ⟨φ', hφ'⟩ := hp'.tracks x' hx'
  rw [hv] at hq' hφ'
  have hsame : S.alone x.volumeId x.used = S.alone x.volumeId x'.used :=
    Prog.position_unique (by rw [← hend, ← hq]; rfl) (by rw [← hend', ← hq']; rfl)
  rw [← hsame] at hq' hφ'
  refine ⟨hq'.symm.trans hq, fun q hq => ?_, ?_⟩
  · exact (hφ.files q hq).symm.trans (hφ'.files q (hq.trans hv.symm))
  · have hrecords := hφ.records
    have hrecords' := hφ'.records
    rw [hv] at hrecords'
    rw [hrecords, hrecords', List.map_map, List.map_map]
    rfl

/-! ## Sequential schedules -/

/-- A running worker can be served until it ends. -/
theorem exists_served (S : Scene D) (concurrency : Nat) (before after : List (Worker D))
    (q : RepairProg D Unit) :
    ∀ (p : Pool D) (v : Int) (n : Nat), p.running = before ++ ⟨v, q, n⟩ :: after →
      ∃ (p' : Pool D) (y : Worker D), Relation.ReflTransGen
        (PoolStep S.sha256 (Serves.only S.env) concurrency) p p' ∧ p'.waiting = p.waiting ∧
        p'.running = before ++ y :: after ∧ p'.finished = p.finished ∧ y.prog.next = none := by
  induction q with
  | ret a => exact fun p v n hp => ⟨p, _, .refl, rfl, hp, rfl, rfl⟩
  | raise e => exact fun p v n hp => ⟨p, _, .refl, rfl, hp, rfl, rfl⟩
  | call r k ih =>
      intro p v n hp
      obtain ⟨p', y, hrun, hwaiting, hrunning, hfinished, hy⟩ := ih _
        { p with
          store := (storeExec S.sha256 v r (S.env (some v) n) p.store).2
          running := before ++
            ⟨v, k (storeExec S.sha256 v r (S.env (some v) n) p.store).1, n + 1⟩ :: after } v (n + 1) rfl
      exact ⟨p', y, .head (.serve p before after v n r k _ hp rfl) hrun, hwaiting, hrunning, hfinished, hy⟩

/-- The workers of the scene end with exceptions that are collected. -/
def Scene.Collects (S : Scene D) (ids : List Int) : Prop :=
  ∀ v ∈ ids, ∀ n e, (S.alone v n).1 = .raise e → e.isRepairError = true

theorem Scene.Tracked.not_escaped {ids : List Int} (hp : S.Tracked p) (hcollects : S.Collects ids)
    {x : Worker D} (hx : x ∈ p.workers) (hid : x.volumeId ∈ ids) : x.escaped = false := by
  have hended := hp.ended hx
  obtain ⟨v, q, n⟩ := x
  cases q with
  | ret a => rfl
  | call r k => rfl
  | raise e =>
      have he := hcollects v hid n e (hended rfl)
      simp [Worker.escaped, he]

/-- Every pool without a running worker can be run to its end. -/
theorem Scene.exists_end {ids : List Int} (hcollects : S.Collects ids) :
    ∀ (waiting : List (Worker D)) (p : Pool D), p.waiting = waiting → p.running = [] → S.Tracked p →
      (∀ x ∈ p.workers, x.volumeId ∈ ids) →
      ∃ p', Relation.ReflTransGen (PoolStep S.sha256 (Serves.only S.env) concurrency) p p' ∧
        p'.waiting = [] ∧ p'.running = [] := by
  intro waiting
  -- the workers are run one after another, each to its end, in the order they wait
  induction waiting with
  | nil => exact fun p hwaiting hrunning _ _ => ⟨p, .refl, hwaiting, hrunning⟩
  | cons x rest ih =>
      intro p hwaiting hrunning hp hids
      have hstart : PoolStep S.sha256 (Serves.only S.env) concurrency p
          { p with waiting := rest, running := p.running ++ [x] } := by
        refine .start p x rest hwaiting (by rw [hrunning]; simp) fun _ y hy => ?_
        have hmem : y ∈ p.workers := Pool.mem_workers.2 (.inr (.inr hy))
        exact hp.not_escaped hcollects hmem (hids y hmem)
      obtain ⟨p₁, y, hrun, hwaiting₁, hrunning₁, hfinished₁, hy⟩ :=
        exists_served S concurrency [] [] x.prog
          { p with waiting := rest, running := p.running ++ [x] } x.volumeId x.used (by simp [hrunning])
      have hfinish : PoolStep S.sha256 (Serves.only S.env) concurrency p₁
          { p₁ with running := [], finished := p₁.finished ++ [y] } :=
        .finish p₁ [] [] y hrunning₁ hy
      have hrun₂ : Relation.ReflTransGen (PoolStep S.sha256 (Serves.only S.env) concurrency) p
          { p₁ with running := [], finished := p₁.finished ++ [y] } :=
        .head hstart (hrun.tail hfinish)
      -- the volumes of the workers do not change in a run
      have hids₂ : ∀ x ∈ ({ p₁ with running := [], finished := p₁.finished ++ [y] } : Pool D).workers,
          x.volumeId ∈ ids := by
        intro x hx
        obtain ⟨z, hz, hvolume⟩ := List.mem_map.1
          ((PoolStep.volumes_run hrun₂).subset (List.mem_map_of_mem hx))
        rw [← hvolume]
        exact hids z hz
      obtain ⟨p', hrun', hend⟩ := ih { p₁ with running := [], finished := p₁.finished ++ [y] }
        hwaiting₁ rfl (hp.run hrun₂) hids₂
      exact ⟨p', hrun₂.trans hrun', hend⟩

end

/-! ## The end of `repair_detected` -/

omit [DecidableEq D] in
/-- Two runs end the same way; collected failures may be listed in another order. -/
inductive SameEnd : Outcome (RepairExc D) Unit → Outcome (RepairExc D) Unit → Prop
  | same (outcome : Outcome (RepairExc D) Unit) : SameEnd outcome outcome
  | failed {fs gs : List String} (h : fs.Perm gs) :
      SameEnd (.raised (.manual ("; ".intercalate fs))) (.raised (.manual ("; ".intercalate gs)))

omit [DecidableEq D] in
/-- A record awaits validation. -/
def Awaits (ts : List (Transaction D)) : Prop := ∃ t ∈ ts, t.phase.pendingValidation = true

omit [DecidableEq D] in
theorem awaits_iff {ts : List (Transaction D)} :
    (ts.filter fun t => t.phase.pendingValidation) = [] ↔ ¬ Awaits ts := by
  rw [List.filter_eq_nil_iff, Awaits, not_exists]
  exact forall_congr' fun t => not_and.symm

/-- The decisions of one thread, in order. -/
def Served (env : Nat → RepairChoice D) (cs : List (RepairChoice D)) : Prop :=
  ∀ n c, cs[n]? = some c → c = env n

omit [DecidableEq D] in
theorem Served.cons {env : Nat → RepairChoice D} {c : RepairChoice D} {cs : List (RepairChoice D)}
    (h : Served env (c :: cs)) : c = env 0 ∧ Served (fun n => env (n + 1)) cs :=
  ⟨h 0 c rfl, fun n c' hc' => h (n + 1) c' hc'⟩

/-- A look for transactions that await validation. -/
theorem run_awaiting_bind (sha256 : Bytes → D) (f : List (Transaction D) → RepairProg D Unit)
    (c : RepairChoice D) (cs : List (RepairChoice D)) (w : World D) :
    (awaiting.bind f).run (repairExec sha256) (c :: cs) w =
      if c.fault = .none then
        (f (w.journal.filter fun t => t.phase.pendingValidation)).run (repairExec sha256) cs w
      else (.raised (.journal "repair journal is unreadable"), w) := by
  change Prog.run (repairExec sha256) (((Prog.orRaise (.journal "repair journal is unreadable")
    (repairExec sha256 .load c w).1).bind fun ts => Prog.ret (ts.filter fun t =>
      t.phase.pendingValidation)).bind f) cs w = _
  by_cases hfault : c.fault = .none
  · rw [show (repairExec sha256 .load c w).1 = some w.journal from if_pos hfault, if_pos hfault]
    rfl
  · rw [show (repairExec sha256 .load c w).1 = none from if_neg hfault, if_neg hfault]
    rfl

/-- How `conclude` ends, when it does. -/
theorem conclude_outcome (sha256 : Bytes → D) (fs : List String) {env : Nat → RepairChoice D}
    {cs : List (RepairChoice D)} (hcs : Served env cs) (w : World D)
    (hend : ((conclude fs).run (repairExec sha256) cs w).1 ≠ .crashed) :
    ((conclude fs).run (repairExec sha256) cs w).1 =
      if (env 0).fault = .none then
        if fs = [] then .ok ()
        else if (env 1).fault = .none then
          if (w.journal.filter fun t => t.phase.pendingValidation) = [] then
            .raised (.manual ("; ".intercalate fs))
          else .ok ()
        else .raised (.journal "repair journal is unreadable")
      else .raised (.journal "repair journal is unreadable") := by
  cases cs with
  | nil => exact absurd rfl hend
  | cons c cs =>
      obtain ⟨rfl, hrest⟩ := hcs.cons
      rw [conclude, Prog.bind_eq, run_awaiting_bind] at hend ⊢
      by_cases hfault : (env 0).fault = .none
      · rw [if_pos hfault] at hend ⊢
        rw [if_pos hfault]
        -- the second journal read is made only when there are failures
        by_cases hfs : fs = []
        · rw [if_pos hfs, Prog.when, if_neg (by simpa using hfs)]
          rfl
        · rw [if_neg hfs]
          rw [Prog.when, if_pos hfs] at hend ⊢
          cases cs with
          | nil => exact absurd rfl hend
          | cons c cs =>
              obtain ⟨rfl, -⟩ := hrest.cons
              rw [Prog.bind_eq, run_awaiting_bind]
              by_cases hfault' : (env 1).fault = .none
              · rw [if_pos hfault', if_pos hfault', Prog.raiseIf]
                split <;> rfl
              · rw [if_neg hfault', if_neg hfault']
      · rw [if_neg hfault, if_neg hfault]

/-! ## Two runs -/

section

variable {S : Scene D} {concurrency concurrency' : Nat} {init init' p p' : Pool D}

/-- A pool that has come to its end, and the way in which `repair_detected` ends then. -/
structure Completed (S : Scene D) (concurrency : Nat) (init p : Pool D)
    (outcome : Outcome (RepairExc D) Unit) : Prop where
  run : Relation.ReflTransGen (PoolStep S.sha256 (Serves.only S.env) concurrency) init p
  waiting : p.waiting = []
  running : p.running = []
  concluded : ∃ (ended : List (Worker D)) (cs : List (RepairChoice D)), ended.Perm p.finished ∧
    Served (S.env none) cs ∧
    outcome = ((conclude (failures ended)).run (repairExec S.sha256) cs (p.store.world 0)).1

theorem Completed.workers {outcome : Outcome (RepairExc D) Unit}
    (h : Completed S concurrency init p outcome) : p.workers = p.finished := by
  rw [Pool.workers, h.waiting, h.running]
  rfl

/-- Every worker has ended. -/
theorem Completed.ended {outcome : Outcome (RepairExc D) Unit}
    (h : Completed S concurrency init p outcome) (hinit : init.finished = []) {x : Worker D}
    (hx : x ∈ p.workers) : x.prog.next = none := by
  rw [h.workers] at hx
  exact PoolStep.finished_ended h.run (by simp [hinit]) x hx

omit [DecidableEq D] in
theorem failures_eq (xs : List (Worker D)) : failures xs =
    (xs.map fun x => (x.volumeId, x.prog)).filterMap fun y => match y.2 with
      | .raise e => some ("volume " ++ toString y.1 ++ ": " ++ e.text)
      | _ => none := by
  rw [List.filterMap_map]
  rfl

/-- Two completed pools of the same volumes have collected the same. -/
theorem failures_perm {o o' : Outcome (RepairExc D) Unit} (h : Completed S concurrency init p o)
    (h' : Completed S concurrency' init' p' o') (hinit : S.Tracked init) (hinit' : S.Tracked init')
    (hfresh : init.finished = []) (hfresh' : init'.finished = [])
    (hvolumes : (init'.workers.map Worker.volumeId).Perm (init.workers.map Worker.volumeId)) :
    (failures p.finished).Perm (failures p'.finished) := by
  have hp := hinit.run h.run
  have hp' := hinit'.run h'.run
  have hperm : (p'.workers.map Worker.volumeId).Perm (p.workers.map Worker.volumeId) :=
    (PoolStep.volumes_run h'.run).trans (hvolumes.trans (PoolStep.volumes_run h.run).symm)
  rw [failures_eq, failures_eq, ← h.workers, ← h'.workers]
  refine List.Perm.filterMap _ ((List.perm_ext_iff_of_nodup ?_ ?_).2 fun y => ?_)
  · exact List.Nodup.of_map Prod.fst (by rw [List.map_map]; exact hp.distinct)
  · exact List.Nodup.of_map Prod.fst (by rw [List.map_map]; exact hp'.distinct)
  · constructor
    · intro hy
      obtain ⟨x, hx, rfl⟩ := List.mem_map.1 hy
      obtain ⟨x', hx', hv⟩ := List.mem_map.1 (hperm.symm.subset (List.mem_map_of_mem hx))
      have hsame := (Scene.same_volume hp hp' hx hx' hv (h.ended hfresh hx) (h'.ended hfresh' hx')).1
      exact List.mem_map.2 ⟨x', hx', Prod.ext hv hsame⟩
    · intro hy
      obtain ⟨x', hx', rfl⟩ := List.mem_map.1 hy
      obtain ⟨x, hx, hv⟩ := List.mem_map.1 (hperm.subset (List.mem_map_of_mem hx'))
      have hsame := (Scene.same_volume hp' hp hx' hx hv (h'.ended hfresh' hx') (h.ended hfresh hx)).1
      exact List.mem_map.2 ⟨x, hx, Prod.ext hv hsame⟩

omit [DecidableEq D] in
theorem SameVolume.awaits {s s' : Store D} (h : ∀ v, SameVolume v s s') (hs : Awaits s.journal) :
    Awaits s'.journal := by
  obtain ⟨t, ht, hphase⟩ := hs
  have hmem : t.shift (fun _ => 0) ∈
      (recordsOf t.id.base.volumeId s.journal).map (Transaction.shift fun _ => 0) :=
    List.mem_map_of_mem (List.mem_filter.2 ⟨ht, by simp⟩)
  rw [(h t.id.base.volumeId).records] at hmem
  obtain ⟨u, hu, heq⟩ := List.mem_map.1 hmem
  refine ⟨u, (List.mem_filter.1 hu).1, ?_⟩
  have hsame := congrArg Transaction.phase heq
  rw [shift_phase, shift_phase] at hsame
  rw [hsame]
  exact hphase

omit [DecidableEq D] in
theorem SameVolume.symm {v : Int} {s s' : Store D} (h : SameVolume v s s') : SameVolume v s' s :=
  ⟨fun p hp => (h.files p hp).symm, h.records.symm⟩

/-- The two runs end the same way. -/
theorem Completed.same_end {o o' : Outcome (RepairExc D) Unit} (h : Completed S concurrency init p o)
    (h' : Completed S concurrency' init' p' o') (ho : o ≠ .crashed) (ho' : o' ≠ .crashed)
    (hfailures : (failures p.finished).Perm (failures p'.finished))
    (hsame : ∀ v, SameVolume v p.store p'.store) : SameEnd o o' := by
  obtain ⟨ended, cs, hended, hcs, rfl⟩ := h.concluded
  obtain ⟨ended', cs', hended', hcs', rfl⟩ := h'.concluded
  have hperm : (failures ended).Perm (failures ended') :=
    (hended.filterMap _).trans (hfailures.trans (hended'.filterMap _).symm)
  have hawaits : ((p.store.world 0).journal.filter fun t => t.phase.pendingValidation) = [] ↔
      ((p'.store.world 0).journal.filter fun t => t.phase.pendingValidation) = [] := by
    rw [awaits_iff, awaits_iff]
    exact not_congr ⟨SameVolume.awaits hsame, SameVolume.awaits fun v => (hsame v).symm⟩
  have hnil : failures ended = [] ↔ failures ended' = [] := by
    rw [← List.length_eq_zero_iff, ← List.length_eq_zero_iff, hperm.length_eq]
  rw [conclude_outcome S.sha256 _ hcs _ ho, conclude_outcome S.sha256 _ hcs' _ ho']
  split
  · by_cases hfs : failures ended = []
    · rw [if_pos hfs, if_pos (hnil.1 hfs)]
      exact .same _
    · rw [if_neg hfs, if_neg fun hgs => hfs (hnil.2 hgs)]
      split
      · by_cases hnone : ((p.store.world 0).journal.filter fun t => t.phase.pendingValidation) = []
        · rw [if_pos hnone, if_pos (hawaits.1 hnone)]
          exact .failed hperm
        · rw [if_neg hnone, if_neg fun hnone' => hnone (hawaits.2 hnone')]
          exact .same _
      · exact .same _
  · exact .same _

end

/-! ## Every schedule -/

/-- The scene of a status. -/
def sceneOf (sha256 : Bytes → D) (env : Option Int → Nat → RepairChoice D) (settings : RepairSettings)
    (activeTransport : String) (fuel : Nat) (status : VolumeStatus) (s : Store D) : Scene D where
  sha256 := sha256
  env := env
  store := s
  start v :=
    match detailOf status v with
    | some d => (repairVolume settings activeTransport fuel d).prog
    | none => Prog.ret ()

section

variable {sha256 : Bytes → D} {env : Option Int → Nat → RepairChoice D} {settings : RepairSettings}
  {activeTransport : String} {fuel : Nat} {status : VolumeStatus} {s s' : Store D}

/-- Before the first step. -/
theorem sceneOf_tracked (hs : s.Sound) (hstamps : ∀ t ∈ s.journal, t.updatedAt ≤ s.clock)
    {queue : List VolumeDetail} (hqueue : ∀ d ∈ queue, detailOf status d.id = some d)
    (hdistinct : (queue.map VolumeDetail.id).Nodup) :
    (sceneOf sha256 env settings activeTransport fuel status s).Tracked
      (Pool.initial settings activeTransport fuel queue s) := by
  refine ⟨hs, by rw [Pool.initial_volumes]; exact hdistinct, fun x hx => ⟨id, ?_⟩⟩
  have hwaiting : x ∈ queue.map (repairVolume settings activeTransport fuel) := by
    simpa [Pool.workers, Pool.initial] using hx
  obtain ⟨d, hd, rfl⟩ := List.mem_map.1 hwaiting
  have hstart : (sceneOf sha256 env settings activeTransport fuel status s).start d.id =
      (repairVolume settings activeTransport fuel d).prog := by
    simp only [sceneOf, hqueue d hd]
  refine ⟨strictMono_id, Nat.le_refl _, ?_, fun t ht => hstamps t (List.mem_filter.1 ht).1,
    fun _ _ => rfl, rfl, fun ψ hψ _ => ?_⟩
  · have hid : (Transaction.shift id : Transaction D → Transaction D) = id := rfl
    rw [hid, List.map_id]
    rfl
  · change Local d.id ψ _ ((sceneOf sha256 env settings activeTransport fuel status s).start d.id) _
    rw [hstart]
    exact repairOne_local hψ settings.toConfig ⟨d.collection, d.id, activeTransport⟩ rfl fuel false

/-- The settings with another concurrency. -/
abbrev RepairSettings.withConcurrency (settings : RepairSettings) (k : Int) : RepairSettings :=
  { settings with indexRepairConcurrency := k }

/-- The status with its ids in another order. -/
abbrev reordered (status : VolumeStatus) (order : List Int) : VolumeStatus :=
  { status with unexpectedReadonlyVolumeIds := order }

omit [DecidableEq D] in
/-- Neither the order of the ids nor the concurrency matters for a refusal. -/
theorem refusal_reordered (settings : RepairSettings) (k : Int) {order : List Int}
    (horder : order.Perm status.unexpectedReadonlyVolumeIds) :
    (refusal (settings.withConcurrency k) (reordered status order) : Option (RepairExc D)) =
      refusal settings status := by
  have hsets : unambiguous (reordered status order) = unambiguous status := by
    rw [unambiguous, unambiguous, List.toFinset_eq_of_perm _ _ horder]
    rfl
  have hlength : (reordered status order).unexpectedReadonlyVolumeIds.length =
      status.unexpectedReadonlyVolumeIds.length := horder.length_eq
  rw [refusal, refusal, hsets, hlength]
  rfl

variable {k : Int} {order : List Int} {outcome : Outcome (RepairExc D) Unit}

/-- A refused status. -/
theorem RepairDetected.eq_of_refused {e : RepairExc D} (he : refusal settings status = some e)
    (h : RepairDetected sha256 (Serves.only env) settings activeTransport fuel status s outcome s') :
    outcome = .raised e ∧ s' = s := by
  cases h with
  | refused e' he' =>
      obtain rfl := Option.some.inj (he.symm.trans he')
      exact ⟨rfl, rfl⟩
  | cutOff hnone => exact absurd (he.symm.trans hnone) (by simp)
  | escaped hnone => exact absurd (he.symm.trans hnone) (by simp)
  | ended hnone => exact absurd (he.symm.trans hnone) (by simp)

/-- A run that ends, and not with an exception that is not collected. -/
theorem RepairDetected.completed
    (hnone : (refusal (settings.withConcurrency k) (reordered status order) : Option (RepairExc D)) = none)
    (h : RepairDetected sha256 (Serves.only env) (settings.withConcurrency k) activeTransport fuel
      (reordered status order) s outcome s') (hend : outcome ≠ .crashed)
    (hcollected : ∀ e, outcome = .raised e → e.isRepairError = true) :
    ∃ (concurrency : Nat) (p : Pool D), p.store = s' ∧
      Completed (sceneOf sha256 env settings activeTransport fuel status s) concurrency
        (Pool.initial settings activeTransport fuel
          (calls (settings.withConcurrency k) (reordered status order)) s) p outcome ∧
      ∀ x ∈ p.finished, x.escaped = false := by
  cases h with
  | refused e he => exact absurd (hnone.symm.trans he) (by simp)
  | cutOff _ p hrun => exact absurd rfl hend
  | escaped _ p hrun x hx e hraise he => exact absurd (hcollected e rfl) (by simp [he])
  | ended _ p hrun hwaiting hrunning hescaped ended hended cs hcs =>
      exact ⟨_, p, rfl, ⟨hrun, hwaiting, hrunning, ended, cs, hended, hcs, rfl⟩, hescaped⟩

/-- If the repairs alone end with exceptions that are collected, `repair_detected` raises no other. -/
theorem RepairDetected.raises_collected
    (hnone : (refusal (settings.withConcurrency k) (reordered status order) : Option (RepairExc D)) = none)
    (h : RepairDetected sha256 (Serves.only env) (settings.withConcurrency k) activeTransport fuel
      (reordered status order) s outcome s')
    (htracked : (sceneOf sha256 env settings activeTransport fuel status s).Tracked
      (Pool.initial settings activeTransport fuel
        (calls (settings.withConcurrency k) (reordered status order)) s))
    {ids : List Int} (hids : ∀ d ∈ calls (settings.withConcurrency k) (reordered status order), d.id ∈ ids)
    (hcollects : (sceneOf sha256 env settings activeTransport fuel status s).Collects ids) :
    ∀ e, outcome = .raised e → e.isRepairError = true := by
  cases h with
  | refused e he => exact absurd (hnone.symm.trans he) (by simp)
  | cutOff _ p hrun => exact fun e he => absurd he (by simp)
  | escaped _ p hrun x hx e hraise he =>
      -- every worker is one of the collected volumes, so none of them escapes
      have hmem : x ∈ p.workers := Pool.mem_workers.2 (.inr (.inr hx))
      have hvolume : x.volumeId ∈ ids := by
        have := (PoolStep.volumes_run hrun).subset (List.mem_map_of_mem hmem)
        rw [Pool.initial_volumes] at this
        obtain ⟨d, hd, hid⟩ := List.mem_map.1 this
        rw [← hid]
        exact hids d hd
      have hescaped := (htracked.run hrun).not_escaped hcollects hmem hvolume
      exact absurd hescaped (by simp [Worker.escaped, hraise, he])
  | ended _ p hrun hwaiting hrunning hcollected ended hended cs hcs =>
      intro e he
      have hend : ((conclude (failures ended)).run (repairExec sha256) cs (p.store.world 0)).1 ≠
          .crashed := by
        rw [he]
        simp
      -- the end of the pool raises one error of two kinds, both of the repair
      rw [conclude_outcome sha256 _ hcs _ hend] at he
      split at he
      · split at he
        · exact absurd he (by simp)
        · split at he
          · split at he
            · obtain rfl := Outcome.raised.inj he
              rfl
            · exact absurd he (by simp)
          · obtain rfl := Outcome.raised.inj he
            rfl
      · obtain rfl := Outcome.raised.inj he
        rfl

/-- The repairs alone end as those of a completed run. -/
theorem collects_of_completed {S : Scene D} {concurrency : Nat} {init p : Pool D}
    (h : Completed S concurrency init p outcome) (hinit : S.Tracked init)
    (hfresh : init.finished = []) (hescaped : ∀ x ∈ p.finished, x.escaped = false) :
    S.Collects (init.workers.map Worker.volumeId) := by
  intro v hv n e he
  obtain ⟨x, hx, rfl⟩ := List.mem_map.1 ((PoolStep.volumes_run h.run).symm.subset hv)
  have hend := h.ended hfresh hx
  have hq := (hinit.run h.run).ended hx hend
  have hsame : S.alone x.volumeId n = S.alone x.volumeId x.used := by
    refine Prog.position_unique ?_ ?_
    · change (S.alone x.volumeId n).1.next = none
      rw [he]
      rfl
    · change (S.alone x.volumeId x.used).1.next = none
      rw [hq, hend]
  have hraise : x.prog = .raise e := by rw [← hq, ← hsame, he]
  have hno := hescaped x (h.workers ▸ hx)
  simpa [Worker.escaped, hraise] using hno

theorem conclude_ends (sha256 : Bytes → D) (fs : List String) (c c' : RepairChoice D) (w : World D) :
    ((conclude fs).run (repairExec sha256) [c, c'] w).1 ≠ .crashed := by
  rw [conclude, Prog.bind_eq, run_awaiting_bind]
  split
  · rw [Prog.when]
    split
    · rw [Prog.bind_eq, run_awaiting_bind]
      split
      · rw [Prog.raiseIf]
        split <;> simp [Prog.run]
      · simp
    · simp [Prog.run]
  · simp

/-- There is a run that ends. -/
theorem exists_repairDetected
    (hnone : (refusal (settings.withConcurrency k) (reordered status order) : Option (RepairExc D)) = none)
    (htracked : (sceneOf sha256 env settings activeTransport fuel status s).Tracked
      (Pool.initial settings activeTransport fuel
        (calls (settings.withConcurrency k) (reordered status order)) s))
    {ids : List Int} (hids : ∀ d ∈ calls (settings.withConcurrency k) (reordered status order), d.id ∈ ids)
    (hcollects : (sceneOf sha256 env settings activeTransport fuel status s).Collects ids) :
    ∃ outcome s', RepairDetected sha256 (Serves.only env) (settings.withConcurrency k) activeTransport
      fuel (reordered status order) s outcome s' ∧ outcome ≠ .crashed ∧
        ∀ e, outcome = .raised e → e.isRepairError = true := by
  have hvolumes : ∀ v ∈ (Pool.initial settings activeTransport fuel
      (calls (settings.withConcurrency k) (reordered status order)) s).workers.map Worker.volumeId,
      v ∈ ids := by
    intro v hv
    rw [Pool.initial_volumes] at hv
    obtain ⟨d, hd, rfl⟩ := List.mem_map.1 hv
    exact hids d hd
  -- a schedule that runs every worker to its end exists
  obtain ⟨p, hrun, hwaiting, hrunning⟩ := Scene.exists_end hcollects _ _ rfl rfl htracked
    fun x hx => hvolumes _ (List.mem_map_of_mem hx)
  have hescaped : ∀ x ∈ p.finished, x.escaped = false := by
    intro x hx
    have hmem : x ∈ p.workers := Pool.mem_workers.2 (.inr (.inr hx))
    exact (htracked.run hrun).not_escaped hcollects hmem
      (hvolumes _ ((PoolStep.volumes_run hrun).subset (List.mem_map_of_mem hmem)))
  -- the two requests at the end get the answers that the environment has for them
  have hserved : ∀ n c, [env none 0, env none 1][n]? = some c → Serves.only env none n c := by
    intro n c hc
    match n, hc with
    | 0, hc => exact (Option.some.inj hc).symm
    | 1, hc => exact (Option.some.inj hc).symm
    | n + 2, hc => exact absurd hc (by simp)
  have hdetected := RepairDetected.ended hnone p hrun hwaiting hrunning hescaped p.finished (.refl _) _
    hserved
  exact ⟨_, _, hdetected, conclude_ends sha256 _ _ _ _,
    hdetected.raises_collected hnone htracked hids hcollects⟩

/-- Two completed runs on the same volumes, whatever their schedules. -/
theorem Completed.agree {S : Scene D} {concurrency concurrency' : Nat} {queue queue' : List VolumeDetail}
    {p p' : Pool D} {outcome' : Outcome (RepairExc D) Unit} (hs : s.Sound)
    (h : Completed S concurrency (Pool.initial settings activeTransport fuel queue s) p outcome)
    (h' : Completed S concurrency' (Pool.initial settings activeTransport fuel queue' s) p' outcome')
    (hinit : S.Tracked (Pool.initial settings activeTransport fuel queue s))
    (hinit' : S.Tracked (Pool.initial settings activeTransport fuel queue' s))
    (hqueue : (queue'.map VolumeDetail.id).Perm (queue.map VolumeDetail.id))
    (ho : outcome ≠ .crashed) (ho' : outcome' ≠ .crashed) :
    SameEnd outcome outcome' ∧ ∀ v, SameVolume v p.store p'.store := by
  -- both runs repair the same volumes
  have hvolumes : ((Pool.initial settings activeTransport fuel queue' s).workers.map
      Worker.volumeId).Perm ((Pool.initial settings activeTransport fuel queue s).workers.map
        Worker.volumeId) := by
    rw [Pool.initial_volumes, Pool.initial_volumes]
    exact hqueue
  have hsame : ∀ v, SameVolume v p.store p'.store := by
    intro v
    by_cases hv : v ∈ (Pool.initial settings activeTransport fuel queue s).workers.map Worker.volumeId
    -- each run has a worker of this volume, and both ended
    · obtain ⟨x, hx, rfl⟩ := List.mem_map.1 ((PoolStep.volumes_run h.run).symm.subset hv)
      obtain ⟨x', hx', hvolume⟩ := List.mem_map.1
        ((PoolStep.volumes_run h'.run).symm.subset (hvolumes.symm.subset hv))
      exact (Scene.same_volume (hinit.run h.run) (hinit'.run h'.run) hx hx' hvolume
        (h.ended rfl hx) (h'.ended rfl hx')).2
    · -- a volume that neither run repairs
      have hleft := (PoolStep.confined_run h.run (Pool.initial_confined hs queue)).2 v hv
      have hleft' := (PoolStep.confined_run h'.run (Pool.initial_confined hs queue')).2 v
        fun hmem => hv (hvolumes.subset hmem)
      refine ⟨fun q hq => (hleft.files q hq).trans (hleft'.files q hq).symm, ?_⟩
      rw [hleft.records, hleft'.records]
      rfl
  refine ⟨h.same_end h' ho ho' ?_ hsame, hsame⟩
  exact failures_perm h h' hinit hinit' rfl rfl hvolumes

end

/-- For every status without repeated ids, every setting of the concurrency and every schedule of the
workers: if `repair_detected` ends, and every `_repair_one` succeeded or raised an `IndexRepairError`,
then the sequential loop, in whatever order it takes the volumes, ends as well, in the same way, and
leaves every volume with the same files and the same records, but for their times. -/
theorem repairs_do_not_interfere (sha256 : Bytes → D) (env : Option Int → Nat → RepairChoice D)
    (settings : RepairSettings) (activeTransport : String) (fuel : Nat) (status : VolumeStatus)
    (hdistinct : status.unexpectedReadonlyVolumeIds.Nodup) (s : Store D) (hs : s.Sound)
    (hstamps : ∀ t ∈ s.journal, t.updatedAt ≤ s.clock) (outcome : Outcome (RepairExc D) Unit)
    (s' : Store D)
    (hrun : RepairDetected sha256 (Serves.only env) settings activeTransport fuel status s outcome s')
    (hend : outcome ≠ .crashed) (hcollected : ∀ e, outcome = .raised e → e.isRepairError = true)
    (order : List Int) (horder : order.Perm status.unexpectedReadonlyVolumeIds) :
    (∃ outcome₁ s₁, RepairDetected sha256 (Serves.only env) (settings.withConcurrency 1)
      activeTransport fuel (reordered status order) s outcome₁ s₁ ∧ outcome₁ ≠ .crashed) ∧
    ∀ outcome₁ s₁, RepairDetected sha256 (Serves.only env) (settings.withConcurrency 1)
      activeTransport fuel (reordered status order) s outcome₁ s₁ → outcome₁ ≠ .crashed →
        SameEnd outcome outcome₁ ∧ ∀ v, SameVolume v s' s₁ := by
  have hrefusal : (refusal (settings.withConcurrency 1) (reordered status order) :
      Option (RepairExc D)) = refusal settings status := refusal_reordered settings 1 horder
  cases hnone : (refusal settings status : Option (RepairExc D)) with
  | some e =>
      -- a refused batch changes nothing, in either order
      obtain ⟨rfl, rfl⟩ := hrun.eq_of_refused hnone
      refine ⟨⟨_, _, .refused e (hrefusal.trans hnone), by simp⟩, fun outcome₁ s₁ hrun₁ _ => ?_⟩
      obtain ⟨rfl, rfl⟩ := hrun₁.eq_of_refused (hrefusal.trans hnone)
      exact ⟨.same _, fun v => ⟨fun _ _ => rfl, rfl⟩⟩
  | none =>
      have hnone₁ := hrefusal.trans hnone
      have hids : (calls settings status).map VolumeDetail.id = status.unexpectedReadonlyVolumeIds :=
        calls_ids (refusal_none hnone)
      have hids₁ : (calls (settings.withConcurrency 1) (reordered status order)).map VolumeDetail.id =
          order := calls_ids (refusal_none hnone₁)
      -- both pools start in step with the repairs alone
      have hinit : (sceneOf sha256 env settings activeTransport fuel status s).Tracked
          (Pool.initial settings activeTransport fuel (calls settings status) s) :=
        sceneOf_tracked hs hstamps (fun d hd => mem_calls hd) (hids ▸ hdistinct)
      have hinit₁ : (sceneOf sha256 env settings activeTransport fuel status s).Tracked
          (Pool.initial settings activeTransport fuel
            (calls (settings.withConcurrency 1) (reordered status order)) s) :=
        sceneOf_tracked hs hstamps
          (fun d hd => (mem_calls hd : detailOf (reordered status order) d.id = some d))
          (by rw [hids₁]; exact horder.nodup_iff.2 hdistinct)
      -- the pool drained: each repair ended as it would have ended alone
      obtain ⟨concurrency, p, rfl, hcompleted, hescaped⟩ :=
        RepairDetected.completed (k := settings.indexRepairConcurrency) hnone hrun hend hcollected
      have hcollects := collects_of_completed hcompleted hinit rfl hescaped
      rw [Pool.initial_volumes, hids] at hcollects
      have hlisted : ∀ d ∈ calls (settings.withConcurrency 1) (reordered status order),
          d.id ∈ status.unexpectedReadonlyVolumeIds := by
        intro d hd
        refine horder.subset ?_
        rw [← hids₁]
        exact List.mem_map_of_mem hd
      constructor
      · obtain ⟨outcome₁, s₁, hrun₁, hend₁, -⟩ := exists_repairDetected hnone₁ hinit₁ hlisted hcollects
        exact ⟨outcome₁, s₁, hrun₁, hend₁⟩
      · intro outcome₁ s₁ hrun₁ hend₁
        -- so did those of the pool with one worker, and both collect the same failures
        obtain ⟨concurrency₁, p₁, rfl, hcompleted₁, -⟩ := hrun₁.completed hnone₁ hend₁
          (hrun₁.raises_collected hnone₁ hinit₁ hlisted hcollects)
        refine hcompleted.agree hs hcompleted₁ hinit hinit₁ ?_ hend hend₁
        rw [hids, hids₁]
        exact horder

/-! Volumes 1 and 2 are read-only. The candidate of volume 1 is installed; the helper of volume 2
times out. -/

namespace PoolSample

def settings : RepairSettings := ⟨Sample.config, true, 8, 2⟩

def status : VolumeStatus := statusOf [] [⟨1, "", true⟩, ⟨2, "", true⟩, ⟨3, "", false⟩]

def store : Store Bytes where
  files p := if p = .liveIdx ⟨"", 1⟩ ∨ p = .liveIdx ⟨"", 2⟩ then some (.file [1] 0o644) else none

def env : Option Int → Nat → RepairChoice Bytes
  | some 1, _ => Sample.choice
  | _, _ => {}

def scene : Scene Bytes := sceneOf id env settings "" 2 status store

/-- The repair of the volume alone has ended, and not with an exception that is not collected. -/
def endsWell (v : Int) (n : Nat) : Bool :=
  match (scene.alone v n).1 with
  | .ret _ => true
  | .raise e => e.isRepairError
  | .call _ _ => false

theorem ends : ∀ v ∈ [1, 2], endsWell v 50 = true := by decide +kernel

theorem collects : scene.Collects [1, 2] := by
  intro v hv n e he
  have hend := ends v hv
  rw [endsWell] at hend
  have hstop : (scene.alone v 50).1.next = none := by
    cases hprog : (scene.alone v 50).1 with
    | ret a => rfl
    | raise e => rfl
    | call r k =>
        rw [hprog] at hend
        exact absurd hend (by simp)
  have hsame : scene.alone v n = scene.alone v 50 :=
    Prog.position_unique (by change (scene.alone v n).1.next = none; rw [he]; rfl) hstop
  rw [← hsame, he] at hend
  exact hend

theorem tracked : scene.Tracked (Pool.initial settings "" 2 (calls settings status) store) :=
  sceneOf_tracked (fun _ ht => absurd ht List.not_mem_nil) (fun _ ht => absurd ht List.not_mem_nil)
    (fun _ hd => mem_calls hd) (by decide)

/-- A run with two workers. -/
theorem exists_run : ∃ outcome s', RepairDetected id (Serves.only env) settings "" 2 status store
    outcome s' ∧ outcome ≠ .crashed ∧ ∀ e, outcome = .raised e → e.isRepairError = true :=
  exists_repairDetected (k := 2) (show refusal settings (reordered status [1, 2]) = none from rfl)
    tracked (by decide) collects

end PoolSample

/-- The two workers leave the volumes as the loop that takes volume 2 first. -/
theorem repairs_do_not_interfere_two :
    ∃ outcome s', RepairDetected id (Serves.only PoolSample.env) PoolSample.settings "" 2
        PoolSample.status PoolSample.store outcome s' ∧
      ∃ outcome₁ s₁, RepairDetected id (Serves.only PoolSample.env)
          (PoolSample.settings.withConcurrency 1) "" 2 (reordered PoolSample.status [2, 1])
          PoolSample.store outcome₁ s₁ ∧
        SameEnd outcome outcome₁ ∧ ∀ v, SameVolume v s' s₁ := by
  obtain ⟨outcome, s', hrun, hend, hcollected⟩ := PoolSample.exists_run
  obtain ⟨⟨outcome₁, s₁, hrun₁, hend₁⟩, hsame⟩ := repairs_do_not_interfere id PoolSample.env
    PoolSample.settings "" 2 PoolSample.status (by decide) PoolSample.store
    (fun _ ht => absurd ht List.not_mem_nil) (fun _ ht => absurd ht List.not_mem_nil) outcome s' hrun
    hend hcollected [2, 1] (by decide)
  exact ⟨outcome, s', hrun, outcome₁, s₁, hrun₁, hsame outcome₁ s₁ hrun₁ hend₁⟩

end StorageNode.IndexRepair
