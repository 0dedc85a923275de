import Mathlib.Data.List.Dedup

/-!
# Directories whose files are replaced as a whole

A directory maps names to contents. A volume is a directory as it was when the machine started, with
the replacements since then, in order. How many of them have reached the disk for certain is known from
the last time that the directory was synchronised.

When the machine fails, every name is left with a content that it had at some moment from then on
(`Survives`), independently of the other names. `Lasting` is what a replacement that was synchronised
leaves behind for good: whatever survives under the name satisfies it (`Lasting.survives`).
-/

set_option autoImplicit false

namespace StorageNode.Files

variable {N X : Type}

/-- The names of a directory, with their contents. The last entry of a name counts. -/
abbrev Directory (N X : Type) := List (N × X)

namespace Directory

/-- `os.replace` onto a name. -/
def put (d : Directory N X) (name : N) (x : X) : Directory N X :=
  d ++ [(name, x)]

variable [DecidableEq N]

/-- What stands under a name. -/
def find (d : Directory N X) (name : N) : Option X :=
  (d.reverse.find? fun e => e.1 = name).map Prod.snd

/-- The names in a directory, each once. -/
def names (d : Directory N X) : List N :=
  (d.map Prod.fst).dedup

theorem find_put (d : Directory N X) (name other : N) (x : X) :
    (d.put name x).find other = if name = other then some x else d.find other := by
  rw [put, find, find, List.reverse_append, List.reverse_singleton, List.singleton_append,
    List.find?_cons]
  by_cases h : name = other
  · rw [decide_eq_true h, if_pos h]
    rfl
  · rw [decide_eq_false h, if_neg h]

theorem find_append (d d' : Directory N X) (name : N) :
    find (d ++ d') name = (find d' name).or (find d name) := by
  rw [find, find, find, List.reverse_append, List.find?_append, Option.map_or]

theorem mem_of_find {d : Directory N X} {name : N} {x : X} (h : d.find name = some x) :
    (name, x) ∈ d := by
  obtain ⟨e, hfind, rfl⟩ := Option.map_eq_some_iff.mp h
  have hname : e.1 = name := by simpa using List.find?_some hfind
  rw [← hname]
  exact List.mem_reverse.mp (List.mem_of_find?_eq_some hfind)

theorem mem_names {d : Directory N X} {name : N} : name ∈ d.names ↔ ∃ x, d.find name = some x := by
  rw [names, List.mem_dedup, List.mem_map]
  constructor
  · rintro ⟨e, he, rfl⟩
    have hsome : (d.reverse.find? fun other => other.1 = e.1).isSome := by
      rw [List.find?_isSome]
      exact ⟨e, List.mem_reverse.mpr he, by simp⟩
    obtain ⟨x, hx⟩ := Option.isSome_iff_exists.mp hsome
    exact ⟨x.2, by rw [find, hx]; rfl⟩
  · rintro ⟨x, hx⟩
    exact ⟨_, mem_of_find hx, rfl⟩

theorem eq_nil_of_find {d : Directory N X} (h : ∀ name, d.find name = none) : d = [] := by
  cases d with
  | nil => rfl
  | cons e es =>
    have hmem : e.1 ∈ names (e :: es) := by
      rw [names, List.mem_dedup]
      exact List.mem_cons_self
    obtain ⟨x, hx⟩ := mem_names.mp hmem
    exact absurd ((h e.1).symm.trans hx) (by simp)

end Directory

/-- A directory with the replacements since the machine started. -/
structure Volume (N X : Type) where
  base : Directory N X
  log : List (N × X)
  synced : Nat
  synced_le : synced ≤ log.length

namespace Volume

/-- The directory after a number of replacements. -/
def after (v : Volume N X) (k : Nat) : Directory N X :=
  v.base ++ v.log.take k

/-- The directory as it is read. -/
def current (v : Volume N X) : Directory N X :=
  v.after v.log.length

/-- `os.replace` onto a name. -/
def replace (v : Volume N X) (name : N) (x : X) : Volume N X where
  base := v.base
  log := v.log ++ [(name, x)]
  synced := v.synced
  synced_le := by
    have := v.synced_le
    rw [List.length_append]
    omega

/-- `os.fsync` of the directory. -/
def sync (v : Volume N X) : Volume N X where
  base := v.base
  log := v.log
  synced := v.log.length
  synced_le := Nat.le_refl _

/-- The volume of a machine that has just started. -/
def start (d : Directory N X) : Volume N X where
  base := d
  log := []
  synced := 0
  synced_le := Nat.le_refl _

/-- The replacements of a volume are those of an earlier one, and more. -/
def Extends (v w : Volume N X) : Prop :=
  w.base = v.base ∧ v.log <+: w.log ∧ v.synced ≤ w.synced

theorem Extends.refl (v : Volume N X) : v.Extends v :=
  ⟨rfl, List.prefix_rfl, Nat.le_refl _⟩

theorem Extends.trans {u v w : Volume N X} (h : u.Extends v) (h' : v.Extends w) : u.Extends w :=
  ⟨h'.1.trans h.1, h.2.1.trans h'.2.1, Nat.le_trans h.2.2 h'.2.2⟩

theorem Extends.replace (v : Volume N X) (name : N) (x : X) : v.Extends (v.replace name x) :=
  ⟨rfl, List.prefix_append _ _, Nat.le_refl _⟩

theorem Extends.sync (v : Volume N X) : v.Extends v.sync :=
  ⟨rfl, List.prefix_rfl, v.synced_le⟩

/-- Earlier moments stay what they were. -/
theorem Extends.after_eq {v w : Volume N X} (h : v.Extends w) {k : Nat} (hk : k ≤ v.log.length) :
    w.after k = v.after k := by
  obtain ⟨more, hmore⟩ := h.2.1
  rw [Volume.after, Volume.after, h.1, ← hmore, List.take_append_of_le_length hk]

theorem Extends.length_le {v w : Volume N X} (h : v.Extends w) : v.log.length ≤ w.log.length :=
  h.2.1.length_le

theorem current_replace (v : Volume N X) (name : N) (x : X) :
    (v.replace name x).current = v.current.put name x := by
  rw [current, current, after, after, List.take_length, List.take_length, Directory.put, replace,
    List.append_assoc]

@[simp]
theorem current_sync (v : Volume N X) : v.sync.current = v.current := rfl

variable [DecidableEq N]

/-- A directory that may be found after a failure. A content that was itself not synchronised may have
decayed. -/
def Survives (decay : X → X → Prop) (v : Volume N X) (d : Directory N X) : Prop :=
  ∀ name, ∃ k, v.synced ≤ k ∧ k ≤ v.log.length ∧
    Option.Rel decay ((v.after k).find name) (d.find name)

/-- From a synchronised state on, what stands under the name satisfies a condition. -/
def Lasting (v : Volume N X) (name : N) (Φ : X → Prop) : Prop :=
  ∀ k, v.synced ≤ k → k ≤ v.log.length → ∃ x, (v.after k).find name = some x ∧ Φ x

variable {v : Volume N X} {name : N} {Φ : X → Prop}

theorem Lasting.current (h : v.Lasting name Φ) : ∃ x, v.current.find name = some x ∧ Φ x :=
  h _ v.synced_le (Nat.le_refl _)

/-- What stands under the name now lasts once the directory has been synchronised. -/
theorem Lasting.of_sync {x : X} (h : v.current.find name = some x) (hx : Φ x) :
    v.sync.Lasting name Φ := by
  intro k hk hk'
  obtain rfl : k = v.log.length := Nat.le_antisymm hk' hk
  exact ⟨x, h, hx⟩

/-- A condition on what stands under a name is kept by replacements that satisfy it. -/
theorem Extends.find_after {w : Volume N X} (h : v.Extends w)
    (hnew : ∀ e ∈ w.log.drop v.log.length, e.1 = name → Φ e.2)
    (hfound : ∃ x, v.current.find name = some x ∧ Φ x) {k : Nat} (hk : v.log.length ≤ k) :
    ∃ x, (w.after k).find name = some x ∧ Φ x := by
  obtain ⟨more, hmore⟩ := h.2.1
  have hafter : w.after k = v.current ++ more.take (k - v.log.length) := by
    rw [Volume.after, Volume.current, Volume.after, h.1, ← hmore, List.take_append, List.take_length,
      List.take_of_length_le hk, List.append_assoc]
  rw [hafter, Directory.find_append]
  cases hlater : Directory.find (more.take (k - v.log.length)) name with
  | none => simpa using hfound
  | some x =>
    refine ⟨x, rfl, hnew (name, x) ?_ rfl⟩
    rw [← hmore, List.drop_left]
    exact List.mem_of_mem_take (Directory.mem_of_find hlater)

/-- What lasts is kept by replacements that satisfy it. -/
theorem Lasting.extends {w : Volume N X} (h : v.Lasting name Φ) (hw : v.Extends w)
    (hnew : ∀ e ∈ w.log.drop v.log.length, e.1 = name → Φ e.2) : w.Lasting name Φ := by
  intro k hk hk'
  by_cases hold : k ≤ v.log.length
  · rw [hw.after_eq hold]
    exact h k (Nat.le_trans hw.2.2 hk) hold
  · exact hw.find_after hnew h.current (by omega)

/-- What lasts is found after a failure. -/
theorem Lasting.survives (h : v.Lasting name Φ) {decay : X → X → Prop} {d : Directory N X}
    (hd : v.Survives decay d) (hdecay : ∀ x y, decay x y → Φ x → Φ y) :
    (Volume.start d).Lasting name Φ := by
  intro k hk hk'
  obtain rfl : k = 0 := Nat.le_zero.mp hk'
  obtain ⟨j, hj, hj', hrel⟩ := hd name
  obtain ⟨x, hx, hΦ⟩ := h j hj hj'
  rw [hx] at hrel
  cases hfound : d.find name with
  | none =>
    rw [hfound] at hrel
    cases hrel
  | some y =>
    rw [hfound] at hrel
    cases hrel with
    | some hxy => exact ⟨y, by simpa [Volume.after, Volume.start] using hfound, hdecay x y hxy hΦ⟩

/-- A condition on every content that has ever stood under its name. -/
def Everywhere (v : Volume N X) (Φ : N → X → Prop) : Prop :=
  (∀ name x, v.base.find name = some x → Φ name x) ∧ ∀ e ∈ v.log, Φ e.1 e.2

section

variable {Φ : N → X → Prop}

theorem Everywhere.find (h : v.Everywhere Φ) {k : Nat} {x : X} (hx : (v.after k).find name = some x) :
    Φ name x := by
  rw [Volume.after, Directory.find_append] at hx
  cases hlog : Directory.find (v.log.take k) name with
  | none => exact h.1 name x (by simpa [hlog] using hx)
  | some y =>
    obtain rfl : y = x := by simpa [hlog] using hx
    exact h.2 _ (List.mem_of_mem_take (Directory.mem_of_find hlog))

theorem Everywhere.mono {Ψ : N → X → Prop} (h : v.Everywhere Φ) (hΨ : ∀ name x, Φ name x → Ψ name x) :
    v.Everywhere Ψ :=
  ⟨fun name x hx => hΨ name x (h.1 name x hx), fun e he => hΨ e.1 e.2 (h.2 e he)⟩

theorem Everywhere.replace (h : v.Everywhere Φ) {x : X} (hx : Φ name x) :
    (v.replace name x).Everywhere Φ := by
  refine ⟨h.1, fun e he => ?_⟩
  rcases List.mem_append.mp he with he | he
  · exact h.2 e he
  · obtain rfl := List.mem_singleton.mp he
    exact hx

theorem Everywhere.start {decay : X → X → Prop} {d : Directory N X} (h : v.Everywhere Φ)
    (hd : v.Survives decay d) (hdecay : ∀ name x y, decay x y → Φ name x → Φ name y) :
    (Volume.start d).Everywhere Φ := by
  refine ⟨fun name y hy => ?_, fun e he => absurd he (by simp [Volume.start])⟩
  obtain ⟨k, -, -, hrel⟩ := hd name
  rw [show d.find name = some y from hy] at hrel
  cases hfound : (v.after k).find name with
  | none =>
    rw [hfound] at hrel
    cases hrel
  | some x =>
    rw [hfound] at hrel
    cases hrel with
    | some hxy => exact hdecay name x y hxy (h.find hfound)

end

end Volume

end StorageNode.Files
