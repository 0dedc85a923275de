import StorageNode.Generation.Programs
import StorageNode.Program.Parallel
import Mathlib.Data.List.Nodup

/-!
# What guardians rely on

The invariant of the host and the protocol between guardian processes. Whatever says that a generation
is fenced, its object or a record, says so only while no link leads to its namespace, and nothing gives
it a link again (`Dead`). A guardian changes the network, the rules, the record and the processes only
while it holds the lease; it relies on the others not to touch its object, and on nothing but losses
while it holds the lease (`Loses`).
-/

set_option autoImplicit false

namespace StorageNode.Generation

open StorageNode.Files StorageNode.Program StorageNode.Text

variable {ι : Type}

/-! ## What a request does -/

/-- What can happen to the host without a guardian that holds the lease. -/
structure Loses (w w' : World ι) : Prop where
  lease : w'.lease = w.lease
  keepers : w'.keepers = w.keepers
  records : w'.records = w.records
  temporary : w'.temporary = w.temporary
  tokens : w.nextToken ≤ w'.nextToken
  pids : w.nextPid ≤ w'.nextPid
  link : w'.link = w.link ∨ w'.link = none
  rules : w'.rules.Sublist w.rules

theorem Loses.refl (w : World ι) : Loses w w :=
  ⟨rfl, rfl, rfl, rfl, Nat.le_refl _, Nat.le_refl _, .inl rfl, List.Sublist.refl _⟩

theorem Loses.trans {u v w : World ι} (h : Loses u v) (h' : Loses v w) : Loses u w where
  lease := h'.lease.trans h.lease
  keepers := h'.keepers.trans h.keepers
  records := h'.records.trans h.records
  temporary := h'.temporary.trans h.temporary
  tokens := Nat.le_trans h.tokens h'.tokens
  pids := Nat.le_trans h.pids h'.pids
  link := by
    rcases h'.link with h' | h'
    · rw [h']
      exact h.link
    · exact .inr h'
  rules := h'.rules.trans h.rules

theorem happen_loses (w : World ι) (happening : World.Happening) :
    Loses w (w.happen happening) ∧ (w.happen happening).object = w.object := by
  cases happening with
  | ruleLost rule =>
    exact ⟨⟨rfl, rfl, rfl, rfl, Nat.le_refl _, Nat.le_refl _, .inl rfl, List.erase_sublist⟩, rfl⟩
  | linkLost =>
    exact ⟨⟨rfl, rfl, rfl, rfl, Nat.le_refl _, Nat.le_refl _, .inr rfl, List.Sublist.refl _⟩, rfl⟩
  | _ => exact ⟨⟨rfl, rfl, rfl, rfl, Nat.le_refl _, Nat.le_refl _, .inl rfl, List.Sublist.refl _⟩, rfl⟩

theorem suffer_loses (w : World ι) (happenings : List World.Happening) :
    Loses w (w.suffer happenings) ∧ (w.suffer happenings).object = w.object := by
  induction happenings generalizing w with
  | nil => exact ⟨.refl w, rfl⟩
  | cons happening happenings ih =>
    obtain ⟨hloses, hobject⟩ := happen_loses w happening
    obtain ⟨hrest, hsame⟩ := ih (w.happen happening)
    exact ⟨hloses.trans hrest, hsame.trans hobject⟩

variable [DecidableEq ι]

/-- The states that a request can lead to. -/
inductive Change (i : ι) (w : World ι) : Request → World ι → Prop
  | loses {r : Request} {w' : World ι} (loses : Loses w w') (object : w'.object = w.object) : Change i w r w'
  | locked (free : w.lease = none) : Change i w .flock { w with lease := some i }
  | released {r : Request} (closes : r = .unlock ∨ r = .closeLease) : Change i w r (w.release i)
  | constructed (generation : Nat) (settings : Settings) : Change i w (.construct generation settings)
      { w with
        nextToken := w.nextToken + 1
        object := Function.update w.object i
          (some ⟨generation, w.nextToken, settings, none, none, false, ""⟩) }
  | assigned (object : Option WorkerGeneration) : Change i w (.assign object)
      { w with object := Function.update w.object i object }
  | linked (absent : w.link = none) : Change i w (.command .addLink) { w with link := some .host }
  | moved (pid : Nat) (peer : Peer) (place : peer = .host ∨ peer = .worker pid) :
      Change i w (.command (.movePeer pid)) { w with link := some peer }
  | ruled (rule : Rule) : Change i w (.command (.addRule rule)) { w with rules := rule :: w.rules }
  | kept (g : WorkerGeneration) (object : w.object i = some g) : Change i w .startKeeper
      { w.spawn with keepers := (g.token, w.nextPid) :: w.keepers }
  | wrote (record : GenerationRecord) (written : Option GenerationRecord)
      (content : ∀ r, written = some r → r = record) :
      Change i w (.writeTemporary record) { w with temporary := written }
  | replaced (record : GenerationRecord) (found : w.temporary = some record) :
      Change i w .replaceRecord { w with records := w.records.replace () record, temporary := none }
  | synced : Change i w .syncStateDirectory { w with records := w.records.sync }

omit [DecidableEq ι] in
/-- A state that differs only in what nobody relies on. -/
theorem Loses.of_eq {w w' : World ι} (hlease : w'.lease = w.lease) (hkeepers : w'.keepers = w.keepers)
    (hrecords : w'.records = w.records) (htemporary : w'.temporary = w.temporary)
    (htokens : w'.nextToken = w.nextToken) (hpids : w.nextPid ≤ w'.nextPid) (hlink : w'.link = w.link)
    (hrules : w'.rules = w.rules) : Loses w w' :=
  ⟨hlease, hkeepers, hrecords, htemporary, Nat.le_of_eq htokens.symm, hpids, .inl hlink,
    by rw [hrules]⟩

theorem effect_change (i : ι) (c : Choice) (w : World ι) (r : Request) :
    Change i w r (effect i c w r) := by
  have hsame : ∀ r, Change i w r w := fun r => .loses (.refl w) rfl
  cases r with
  | flock =>
    simp only [effect]
    split
    · exact .locked ‹_›
    · exact hsame _
  | unlock => exact .released (.inl rfl)
  | closeLease => exact .released (.inr rfl)
  | construct generation settings => exact .constructed generation settings
  | assign object => exact .assigned object
  | deleteLink =>
    simp only [effect]
    split
    · exact hsame _
    · exact .loses ⟨rfl, rfl, rfl, rfl, Nat.le_refl _, Nat.le_refl _, .inr rfl, List.Sublist.refl _⟩ rfl
  | command command =>
    simp only [effect]
    split
    · rename_i hpossible
      cases command with
      | addLink => exact .linked (by simpa [Command.possible] using hpossible)
      | movePeer pid =>
        obtain ⟨peer, hpeer⟩ := Option.isSome_iff_exists.mp
          (show w.link.isSome = true by simp only [Command.possible, Bool.and_eq_true] at hpossible; exact hpossible.1)
        simp only [Command.apply, hpeer, Option.map_some]
        split
        · exact .moved pid _ (.inr rfl)
        · exact .moved pid _ (.inl rfl)
      | addRule rule => exact .ruled rule
      | _ => exact hsame _
    · exact hsame _
  | startKeeper =>
    simp only [effect]
    split
    · exact .loses (.of_eq rfl rfl rfl rfl rfl (Nat.le_succ _) rfl rfl) rfl
    · exact .kept _ ‹_›
  | startProxy listen upstreams =>
    exact .loses (.of_eq rfl rfl rfl rfl rfl (Nat.le_succ _) rfl rfl) rfl
  | writeTemporary record =>
    simp only [effect]
    split
    · exact .wrote record none (by simp)
    · exact .wrote record (some record) (by simp)
  | replaceRecord =>
    simp only [effect]
    split
    · exact hsame _
    · exact .replaced _ ‹_›
  | syncStateDirectory => exact .synced
  | _ => exact .loses (.of_eq rfl rfl rfl rfl rfl (Nat.le_refl _) rfl rfl) rfl

/-- A request, after what has happened before it. -/
theorem exec_change (i : ι) (r : Request) (c : Choice) (w : World ι) :
    ∃ u, Loses w u ∧ u.object = w.object ∧ Change i u r (exec i r c w).2 := by
  obtain ⟨hloses, hobject⟩ := suffer_loses w c.happenings
  refine ⟨w.suffer c.happenings, hloses, hobject, ?_⟩
  simp only [exec]
  split
  · exact effect_change i c _ r
  · exact .loses (.refl _) rfl

/-! ## The invariant -/

/-- No link leads to a namespace that was made for the generation. -/
def Severed (token : Nat) (w : World ι) : Prop :=
  ∀ pid, (token, pid) ∈ w.keepers → w.link ≠ some (.worker pid)

/-- A generation that is cut off for good. -/
structure Dead (token : Nat) (w : World ι) : Prop where
  known : token < w.nextToken
  severed : Severed token w
  fenced : ∀ i g, w.object i = some g → g.token = token → g.fenced = true

/-- A record that says that its generation is fenced speaks of one that is cut off for good. -/
def Truthful (w : World ι) (record : GenerationRecord) : Prop :=
  record.fenced = true → Dead record.token w

structure Inv (w : World ι) : Prop where
  pids : ∀ k ∈ w.keepers, k.2 < w.nextPid
  tokens : ∀ k ∈ w.keepers, k.1 < w.nextToken
  owner : ∀ k ∈ w.keepers, ∀ k' ∈ w.keepers, k.2 = k'.2 → k.1 = k'.1
  known : ∀ i g, w.object i = some g → g.token < w.nextToken
  distinct : ∀ i j g g', w.object i = some g → w.object j = some g' → g.token = g'.token → i = j
  keeper : ∀ i g pid, w.object i = some g → g.keeper = some pid → (g.token, pid) ∈ w.keepers
  plain : ∀ i g, w.object i = some g → ¬ g.isolated → ∀ pid, (g.token, pid) ∉ w.keepers
  fenced : ∀ i g, w.object i = some g → g.fenced = true → Severed g.token w
  records : w.records.Everywhere fun _ => Truthful w
  temporary : ∀ record, w.temporary = some record → Truthful w record
  rules : w.rules.Nodup

omit [DecidableEq ι] in
/-- A generation whose object says that it is fenced is cut off for good. -/
theorem Inv.dead {w : World ι} (h : Inv w) {i : ι} {g : WorkerGeneration} (hg : w.object i = some g)
    (hfenced : g.fenced = true) : Dead g.token w where
  known := h.known i g hg
  severed := h.fenced i g hg hfenced
  fenced j g' hg' htoken := by
    obtain rfl := h.distinct j i g' g hg' hg htoken
    obtain rfl := Option.some.inj (hg.symm.trans hg')
    exact hfenced

/-! ## The protocol -/

/-- What a guardian may do without the lease. -/
def Request.free : Request → Bool
  | .makeControlDirectory | .openLease | .flock | .readLease | .unlock | .closeLease | .time | .self
  | .sleep => true
  | _ => false

/-- What changing an object takes. -/
structure Revises (g g' : WorkerGeneration) (w : World ι) : Prop where
  token : g'.token = g.token
  settings : g'.settings = g.settings
  keeper : ∀ pid, g'.keeper = some pid → (g.token, pid) ∈ w.keepers
  fenced : g'.fenced = true → Severed g.token w
  monotone : g.fenced = true → g'.fenced = true

/-- What a request of guardian `i` takes, apart from the lease. -/
def Proper (i : ι) (w : World ι) : Request → Prop
  | .assign none => True
  | .assign (some g') => ∃ g, w.object i = some g ∧ Revises g g' w
  | .startKeeper => ∃ g, w.object i = some g ∧ g.fenced = false ∧ g.isolated
  | .command (.movePeer pid) => ∃ g, w.object i = some g ∧ g.fenced = false ∧ g.keeper = some pid
  | .command (.addRule rule) => rule ∉ w.rules
  | .writeTemporary record => Truthful w record
  | _ => True

/-- What a guardian may do. -/
def Allowed (i : ι) (r : Request) (w : World ι) : Prop :=
  r.free = true ∨ (w.lease = some i ∧ Proper i w r)

/-- What guardian `i` tolerates of the others. -/
structure Undisturbed (i : ι) (w w' : World ι) : Prop where
  object : w'.object i = w.object i
  loses : w.lease = some i → Loses w w'

/-! ## Losses -/

section

omit [DecidableEq ι]

theorem Severed.loses {w w' : World ι} {token : Nat} (h : Severed token w) (hloses : Loses w w') :
    Severed token w' := by
  intro pid hpid
  rw [hloses.keepers] at hpid
  rcases hloses.link with hlink | hlink <;> rw [hlink]
  · exact h pid hpid
  · simp

theorem Dead.loses {w w' : World ι} {token : Nat} (h : Dead token w) (hloses : Loses w w')
    (hobject : w'.object = w.object) : Dead token w' where
  known := Nat.lt_of_lt_of_le h.known hloses.tokens
  severed := h.severed.loses hloses
  fenced i g hg := h.fenced i g (by rw [← hobject]; exact hg)

theorem Inv.loses {w w' : World ι} (h : Inv w) (hloses : Loses w w') (hobject : w'.object = w.object) :
    Inv w' where
  pids k hk := Nat.lt_of_lt_of_le (h.pids k (by rw [← hloses.keepers]; exact hk)) hloses.pids
  tokens k hk := Nat.lt_of_lt_of_le (h.tokens k (by rw [← hloses.keepers]; exact hk)) hloses.tokens
  owner := by rw [hloses.keepers]; exact h.owner
  known i g hg := Nat.lt_of_lt_of_le (h.known i g (by rw [← hobject]; exact hg)) hloses.tokens
  distinct := by rw [hobject]; exact h.distinct
  keeper := by rw [hobject, hloses.keepers]; exact h.keeper
  plain := by rw [hobject, hloses.keepers]; exact h.plain
  fenced i g hg hfenced := (h.fenced i g (by rw [← hobject]; exact hg) hfenced).loses hloses
  records := by
    rw [hloses.records]
    exact h.records.mono fun _ _ htrue hfenced => (htrue hfenced).loses hloses hobject
  temporary record hrecord hfenced :=
    (h.temporary record (by rw [← hloses.temporary]; exact hrecord) hfenced).loses hloses hobject
  rules := hloses.rules.nodup h.rules

theorem Truthful.loses {w w' : World ι} {record : GenerationRecord} (h : Truthful w record)
    (hloses : Loses w w') (hobject : w'.object = w.object) : Truthful w' record :=
  fun hfenced => (h hfenced).loses hloses hobject

theorem Revises.loses {w w' : World ι} {g g' : WorkerGeneration} (h : Revises g g' w)
    (hloses : Loses w w') : Revises g g' w' where
  token := h.token
  settings := h.settings
  keeper := by rw [hloses.keepers]; exact h.keeper
  fenced hfenced := (h.fenced hfenced).loses hloses
  monotone := h.monotone

theorem Proper.loses {w w' : World ι} {i : ι} {r : Request} (h : Proper i w r) (hloses : Loses w w')
    (hobject : w'.object = w.object) : Proper i w' r := by
  unfold Proper at h ⊢
  split at h
  · trivial
  · obtain ⟨g, hg, hrevises⟩ := h
    exact ⟨g, by rw [hobject]; exact hg, hrevises.loses hloses⟩
  · rw [hobject]
    exact h
  · rw [hobject]
    exact h
  · exact fun hrule => h (hloses.rules.subset hrule)
  · exact h.loses hloses hobject
  · simp_all

end

/-! ## What requests keep -/

section

variable {i : ι} {w w' : World ι} {r : Request}

/-- What is cut off for good stays so. -/
theorem Dead.change {token : Nat} (hw : Inv w) (h : Dead token w) (hproper : Proper i w r)
    (hchange : Change i w r w') : Dead token w' := by
  cases hchange with
  | loses loses object => exact h.loses loses object
  | locked free => exact ⟨h.known, h.severed, h.fenced⟩
  | released closes => exact ⟨h.known, h.severed, h.fenced⟩
  | constructed generation settings =>
    refine ⟨Nat.lt_succ_of_lt h.known, h.severed, fun j g hg htoken => ?_⟩
    by_cases hj : j = i
    · subst hj
      obtain rfl := Option.some.inj ((Function.update_self j _ w.object).symm.trans hg)
      exact absurd htoken (Nat.ne_of_gt h.known)
    · exact h.fenced j g (by simpa [hj] using hg) htoken
  | assigned object =>
    refine ⟨h.known, h.severed, fun j g' hg' htoken => ?_⟩
    by_cases hj : j = i
    · subst hj
      obtain rfl : object = some g' := by simpa using hg'
      obtain ⟨g, hg, hrevises⟩ := hproper
      exact hrevises.monotone (h.fenced j g hg (hrevises.token.symm.trans htoken))
    · exact h.fenced j g' (by simpa [hj] using hg') htoken
  | linked absent => exact ⟨h.known, fun pid _ => by simp, h.fenced⟩
  | moved pid peer place =>
    obtain ⟨g, hg, hfenced, hkeeper⟩ := hproper
    refine ⟨h.known, fun other hother hlink => ?_, h.fenced⟩
    rcases place with rfl | rfl
    · simp at hlink
    · -- the peer goes to the keeper of an object that is not fenced
      obtain rfl : pid = other := by simpa using hlink
      have htoken := hw.owner _ hother _ (hw.keeper i g pid hg hkeeper) rfl
      exact absurd (h.fenced i g hg htoken.symm) (by simp [hfenced])
  | ruled rule => exact ⟨h.known, h.severed, h.fenced⟩
  | kept g object =>
    obtain ⟨g', hg', hfenced, -⟩ := hproper
    obtain rfl := Option.some.inj (object.symm.trans hg')
    refine ⟨h.known, fun pid hpid => ?_, h.fenced⟩
    rcases List.mem_cons.mp hpid with hnew | hold
    · have htoken : token = g.token := congrArg Prod.fst hnew
      exact absurd (h.fenced i g object htoken.symm) (by simp [hfenced])
    · exact h.severed pid hold
  | wrote record written content => exact ⟨h.known, h.severed, h.fenced⟩
  | replaced record found => exact ⟨h.known, h.severed, h.fenced⟩
  | synced => exact ⟨h.known, h.severed, h.fenced⟩

/-- A permitted request keeps the invariant. -/
theorem Inv.change (h : Inv w) (hproper : Proper i w r) (hchange : Change i w r w') : Inv w' := by
  have hdead : ∀ record, Truthful w record → Truthful w' record :=
    fun record htrue hfenced => (htrue hfenced).change h hproper hchange
  have hrecords := h.records.mono fun _ record => hdead record
  have htemporary := fun record hrecord => hdead record (h.temporary record hrecord)
  cases hchange with
  | loses loses object => exact h.loses loses object
  | locked free => exact { h with records := hrecords, temporary := htemporary }
  | released closes => exact { h with records := hrecords, temporary := htemporary }
  | constructed generation settings =>
    have hnew : ∀ j g, Function.update w.object i
        (some ⟨generation, w.nextToken, settings, none, none, false, ""⟩) j = some g →
        (j = i ∧ g = ⟨generation, w.nextToken, settings, none, none, false, ""⟩) ∨
          (j ≠ i ∧ w.object j = some g) := by
      intro j g hg
      by_cases hj : j = i
      · subst hj
        exact .inl ⟨rfl, by simpa [eq_comm] using hg⟩
      · exact .inr ⟨hj, by simpa [hj] using hg⟩
    refine ⟨h.pids, fun k hk => Nat.lt_succ_of_lt (h.tokens k hk), h.owner, fun j g hg => ?_,
      fun j j' g g' hg hg' htoken => ?_, fun j g pid hg hkeeper => ?_, fun j g hg hmode pid hpid => ?_,
      fun j g hg hfenced => ?_, hrecords, htemporary, h.rules⟩
    · rcases hnew j g hg with ⟨-, rfl⟩ | ⟨-, hold⟩
      · exact Nat.lt_succ_self _
      · exact Nat.lt_succ_of_lt (h.known j g hold)
    · rcases hnew j g hg with ⟨rfl, rfl⟩ | ⟨-, hold⟩
      · rcases hnew j' g' hg' with ⟨rfl, -⟩ | ⟨-, hold'⟩
        · rfl
        · exact absurd htoken (Nat.ne_of_gt (h.known j' g' hold'))
      · rcases hnew j' g' hg' with ⟨rfl, rfl⟩ | ⟨-, hold'⟩
        · exact absurd htoken (Nat.ne_of_lt (h.known j g hold))
        · exact h.distinct j j' g g' hold hold' htoken
    · rcases hnew j g hg with ⟨-, rfl⟩ | ⟨-, hold⟩
      · simp at hkeeper
      · exact h.keeper j g pid hold hkeeper
    · rcases hnew j g hg with ⟨-, rfl⟩ | ⟨-, hold⟩
      · exact absurd (h.tokens _ hpid) (Nat.lt_irrefl _)
      · exact h.plain j g hold hmode pid hpid
    · rcases hnew j g hg with ⟨-, rfl⟩ | ⟨-, hold⟩
      · simp at hfenced
      · exact h.fenced j g hold hfenced
  | assigned object =>
    have hnew : ∀ j g', Function.update w.object i object j = some g' →
        (∃ g, w.object j = some g ∧ Revises g g' w) ∨ w.object j = some g' := by
      intro j g' hg'
      by_cases hj : j = i
      · subst hj
        obtain rfl : object = some g' := by simpa using hg'
        exact .inl hproper
      · exact .inr (by simpa [hj] using hg')
    have hold : ∀ j g', Function.update w.object i object j = some g' →
        ∃ g, w.object j = some g ∧ g'.token = g.token ∧ g'.settings = g.settings := by
      intro j g' hg'
      rcases hnew j g' hg' with ⟨g, hg, hrevises⟩ | hg
      · exact ⟨g, hg, hrevises.token, hrevises.settings⟩
      · exact ⟨g', hg, rfl, rfl⟩
    refine ⟨h.pids, h.tokens, h.owner, fun j g hg => ?_, fun j j' g g' hg hg' htoken => ?_,
      fun j g pid hg hkeeper => ?_, fun j g hg hmode pid hpid => ?_, fun j g hg hfenced => ?_, hrecords,
      htemporary, h.rules⟩
    · obtain ⟨g₀, hg₀, htoken, -⟩ := hold j g hg
      rw [htoken]
      exact h.known j g₀ hg₀
    · obtain ⟨g₀, hg₀, htoken₀, -⟩ := hold j g hg
      obtain ⟨g₁, hg₁, htoken₁, -⟩ := hold j' g' hg'
      exact h.distinct j j' g₀ g₁ hg₀ hg₁ (by rw [← htoken₀, ← htoken₁, htoken])
    · rcases hnew j g hg with ⟨g₀, -, hrevises⟩ | hg
      · rw [hrevises.token]
        exact hrevises.keeper pid hkeeper
      · exact h.keeper j g pid hg hkeeper
    · obtain ⟨g₀, hg₀, htoken, hsettings⟩ := hold j g hg
      rw [WorkerGeneration.isolated, hsettings] at hmode
      exact h.plain j g₀ hg₀ hmode pid (by rw [← htoken]; exact hpid)
    · rcases hnew j g hg with ⟨g₀, -, hrevises⟩ | hg
      · rw [hrevises.token]
        exact hrevises.fenced hfenced
      · exact h.fenced j g hg hfenced
  | linked absent =>
    exact { h with
      fenced := fun _ _ _ _ _ _ => by simp
      records := hrecords
      temporary := htemporary }
  | moved pid peer place =>
    refine { h with
      fenced := fun j g hg hfenced => ((h.dead hg hfenced).change h hproper (.moved pid peer place)).severed
      records := hrecords
      temporary := htemporary }
  | ruled rule => exact { h with records := hrecords, temporary := htemporary, rules := h.rules.cons hproper }
  | kept g object =>
    have hunfenced := hproper
    obtain ⟨own, hown, hfenced, hmode⟩ := hunfenced
    obtain rfl := Option.some.inj (object.symm.trans hown)
    refine ⟨fun k hk => ?_, fun k hk => ?_, fun k hk k' hk' hpid => ?_, h.known, h.distinct,
      fun j g' pid hg' hkeeper => List.mem_cons_of_mem _ (h.keeper j g' pid hg' hkeeper),
      fun j g' hg' hplain pid hpid => ?_, fun j g' hg' hfenced' => ?_, hrecords, htemporary, h.rules⟩
    · rcases List.mem_cons.mp hk with rfl | hk
      · exact Nat.lt_succ_self _
      · exact Nat.lt_succ_of_lt (h.pids k hk)
    · rcases List.mem_cons.mp hk with rfl | hk
      · exact h.known i g object
      · exact h.tokens k hk
    · rcases List.mem_cons.mp hk with rfl | hk
      · rcases List.mem_cons.mp hk' with rfl | hk'
        · rfl
        · exact absurd hpid (Nat.ne_of_gt (h.pids k' hk'))
      · rcases List.mem_cons.mp hk' with rfl | hk'
        · exact absurd hpid (Nat.ne_of_lt (h.pids k hk))
        · exact h.owner k hk k' hk' hpid
    · rcases List.mem_cons.mp hpid with hnew | hpid
      · obtain rfl := h.distinct j i g' g hg' object (congrArg Prod.fst hnew)
        obtain rfl := Option.some.inj (hg'.symm.trans object)
        exact hplain hmode
      · exact h.plain j g' hg' hplain pid hpid
    · exact ((h.dead hg' hfenced').change h hproper (.kept g object)).severed
  | wrote record written content =>
    refine { h with records := hrecords, temporary := fun r hr => ?_ }
    obtain rfl := content r hr
    exact hdead r hproper
  | replaced record found =>
    exact { h with
      records := hrecords.replace (htemporary record found)
      temporary := fun _ hr => by simp at hr }
  | synced => exact { h with records := ⟨hrecords.1, hrecords.2⟩, temporary := htemporary }

/-- Nothing but its own requests touches an object. -/
theorem Change.object {j : ι} (hchange : Change i w r w') (hij : j ≠ i) : w'.object j = w.object j := by
  cases hchange with
  | loses loses object => rw [object]
  | constructed generation settings => simp [hij]
  | assigned object => simp [hij]
  | _ => rfl

omit [DecidableEq ι] in
theorem Allowed.proper (h : Allowed i r w) : Proper i w r := by
  rcases h with hfree | ⟨-, hproper⟩
  · cases r with
    | _ => trivial
  · exact hproper

/-- What is done without the lease harms nobody who holds it. -/
theorem Change.loses_of_free {j : ι} (hchange : Change i w r w') (hfree : r.free = true)
    (hlease : w.lease = some j) (hij : i ≠ j) : Loses w w' := by
  cases hchange with
  | loses loses object => exact loses
  | locked free => exact absurd (free.symm.trans hlease) (by simp)
  | released closes =>
    have hstays : (w.release i).lease = w.lease := by
      rw [World.release, hlease, if_neg fun h => hij (Option.some.inj h).symm]
    exact .of_eq hstays rfl rfl rfl rfl (Nat.le_refl _) rfl rfl
  | _ => exact absurd hfree (by simp [Request.free])

theorem exec_inv {c : Choice} (h : Inv w) (hallowed : Allowed i r w) : Inv (exec i r c w).2 := by
  obtain ⟨u, hloses, hobject, hchange⟩ := exec_change i r c w
  exact (h.loses hloses hobject).change (hallowed.proper.loses hloses hobject) hchange

theorem exec_undisturbed {j : ι} {c : Choice} (hij : i ≠ j) (hallowed : Allowed i r w) :
    Undisturbed j w (exec i r c w).2 := by
  obtain ⟨u, hloses, hobject, hchange⟩ := exec_change i r c w
  refine ⟨(hchange.object hij.symm).trans (by rw [hobject]), fun hj => ?_⟩
  rcases hallowed with hfree | ⟨hlease, -⟩
  · exact hloses.trans (hchange.loses_of_free hfree (hloses.lease.trans hj) hij)
  · exact absurd (Option.some.inj (hlease.symm.trans hj)) hij

end

/-- The protocol between guardians. -/
def guardianProtocol : Protocol (ι := ι) exec where
  inv := Inv
  disturb := Undisturbed
  allow := Allowed
  refl _ w := ⟨rfl, fun _ => .refl w⟩
  trans _ _ _ _ hab hbc :=
    ⟨hbc.object.trans hab.object, fun h => (hab.loses h).trans (hbc.loses ((hab.loses h).lease.trans h))⟩
  keeps _ _ _ _ hw hallowed := exec_inv hw hallowed
  tolerated _ _ _ _ _ hij _ hallowed := exec_undisturbed hij hallowed

/-- The discipline of one guardian. -/
abbrev guardianDiscipline (i : ι) : Discipline (exec i) :=
  guardianProtocol.discipline i

end StorageNode.Generation
