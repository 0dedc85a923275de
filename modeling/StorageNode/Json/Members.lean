import StorageNode.Json.Value
import Mathlib.Algebra.BigOperators.Group.List.Basic
import Mathlib.Data.List.Induction
import Mathlib.Data.List.Nodup

/-!
# Dictionaries

The members of an object as a Python dictionary: assignment, `update`, and the counters that a program
keeps under names. The order of the members is left open, since a dictionary that is written with
`sort_keys` does not show it.

A dictionary built by assignments holds each name once (`Distinct`). What is summed over its members is
then changed by one assignment at one name only (`total_put`).
-/

set_option autoImplicit false

namespace StorageNode.Json.Value

variable {members : List (String × Value)} {name other : String} {v : Value}

/-- `members[name] = v`. -/
def put (members : List (String × Value)) (name : String) (v : Value) : List (String × Value) :=
  members.filter (fun m => m.1 ≠ name) ++ [(name, v)]

/-- `dict.update`. -/
def update (members changes : List (String × Value)) : List (String × Value) :=
  changes.foldl (fun members m => put members m.1 m.2) members

/-- `dict.get(name, default)`. -/
def getD (members : List (String × Value)) (name : String) (default : Value) : Value :=
  (get? members name).getD default

/-! ## Lookup -/

theorem get?_append_singleton (members : List (String × Value)) (m : String × Value) (name : String) :
    get? (members ++ [m]) name = if m.1 = name then some m.2 else get? members name := by
  rw [get?, get?, List.reverse_append, List.reverse_singleton, List.singleton_append, List.find?_cons]
  by_cases h : m.1 = name
  · rw [decide_eq_true h, if_pos h]
    rfl
  · rw [decide_eq_false h, if_neg h]

/-- Members of other names are not seen. -/
theorem get?_filter {p : String × Value → Bool} (hp : ∀ m ∈ members, m.1 = name → p m = true) :
    get? (members.filter p) name = get? members name := by
  rw [get?, get?, ← List.filter_reverse, List.find?_filter]
  congr 1
  induction members using List.reverseRecOn with
  | nil => rfl
  | append_singleton members m ih =>
    rw [List.reverse_append, List.reverse_singleton, List.singleton_append, List.find?_cons,
      List.find?_cons]
    have hrest := ih fun m hm => hp m (List.mem_append_left _ hm)
    by_cases h : m.1 = name
    · have hm := hp m (List.mem_append_right _ (List.mem_singleton_self m)) h
      simp [h, hm]
    · simpa [h] using hrest

@[simp]
theorem get?_put_self : get? (put members name v) name = some v := by
  rw [put, get?_append_singleton, if_pos rfl]

theorem get?_put_of_ne (h : other ≠ name) : get? (put members name v) other = get? members other := by
  rw [put, get?_append_singleton, if_neg (Ne.symm h)]
  apply get?_filter
  intro m _ hm
  simp [hm, h]

theorem get?_put : get? (put members name v) other =
    if other = name then some v else get? members other := by
  by_cases h : other = name
  · rw [if_pos h, h, get?_put_self]
  · rw [if_neg h, get?_put_of_ne h]

/-- What is found is a member. -/
theorem mem_of_get? (h : get? members name = some v) : (name, v) ∈ members := by
  obtain ⟨m, hfind, rfl⟩ := Option.map_eq_some_iff.mp h
  have hmem := List.mem_reverse.mp (List.mem_of_find?_eq_some hfind)
  have hname : m.1 = name := by simpa using List.find?_some hfind
  rwa [← hname]

/-! ## Sums over the members -/

/-- No name is held twice. -/
def Distinct (members : List (String × Value)) : Prop := (members.map Prod.fst).Nodup

theorem Distinct.put (h : Distinct members) : Distinct (put members name v) := by
  rw [Distinct, Value.put, List.map_append, List.nodup_append]
  refine ⟨h.sublist (List.filter_sublist.map _), List.nodup_singleton _, ?_⟩
  intro a ha b hb hab
  obtain ⟨m, hm, rfl⟩ := List.mem_map.mp ha
  rw [List.map_singleton, List.mem_singleton] at hb
  exact of_decide_eq_true (List.mem_filter.mp hm).2 (hab.trans hb)

/-- The weights of all members, added. -/
def total (weight : String × Value → Int) (members : List (String × Value)) : Int :=
  (members.map weight).sum

/-- The weight of the member that is found under a name. -/
def weightAt (weight : String × Value → Int) (members : List (String × Value)) (name : String) : Int :=
  match get? members name with
  | none => 0
  | some v => weight (name, v)

theorem total_append (weight : String × Value → Int) (members others : List (String × Value)) :
    total weight (members ++ others) = total weight members + total weight others := by
  rw [total, List.map_append, List.sum_append]
  rfl

/-- A dictionary without the member of one name weighs less by what that member weighs. -/
theorem total_filter_ne (weight : String × Value → Int) (h : Distinct members) :
    total weight (members.filter fun m => m.1 ≠ name) =
      total weight members - weightAt weight members name := by
  induction members using List.reverseRecOn with
  | nil => rfl
  | append_singleton members m ih =>
    rw [Distinct, List.map_append, List.nodup_append] at h
    obtain ⟨hmembers, -, hfresh⟩ := h
    have ih := ih hmembers
    rw [List.filter_append, total_append, total_append, weightAt, get?_append_singleton]
    by_cases hm : m.1 = name
    · -- the other members have other names, so nothing else is filtered out
      have hnone : weightAt weight members name = 0 := by
        rw [weightAt]
        split
        · rfl
        · rename_i v hv
          have hmem : name ∈ members.map Prod.fst := List.mem_map.mpr ⟨_, mem_of_get? hv, rfl⟩
          exact (hfresh name hmem m.1 (by simp) hm.symm).elim
      rw [if_pos hm, ih, hnone]
      subst hm
      simp [total]
    · rw [if_neg hm, ih]
      simp only [hm, ne_eq, not_false_eq_true, decide_true, List.filter_cons_of_pos,
        List.filter_nil]
      rw [weightAt]
      omega

theorem total_put (weight : String × Value → Int) (h : Distinct members) :
    total weight (put members name v) =
      total weight members - weightAt weight members name + weight (name, v) := by
  rw [put, total_append, total_filter_ne weight h]
  simp [total]

end StorageNode.Json.Value
