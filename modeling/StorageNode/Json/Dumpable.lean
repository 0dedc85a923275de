import StorageNode.Json.Members
import StorageNode.Json.Reader

/-!
# What `json.dump` can write

The interpreter turns integers into texts up to a number of digits. A longer one, wherever it stands in a
document, makes `json.dump` raise a `ValueError`.
-/

set_option autoImplicit false

namespace StorageNode.Json

/-- `int.__repr__` succeeds. -/
def withinDigits (n : Int) : Bool := decide ((Nat.toDigits 10 n.natAbs).length ≤ maxDigits)

namespace Value

mutual

/-- `json.dump` succeeds. -/
def dumpable : Value → Bool
  | .null | .bool _ | .float _ | .str _ => true
  | .int n => withinDigits n
  | .array items => dumpableItems items
  | .object members => dumpableMembers members

def dumpableItems : List Value → Bool
  | [] => true
  | v :: vs => dumpable v && dumpableItems vs

def dumpableMembers : List (String × Value) → Bool
  | [] => true
  | (_, v) :: ms => dumpable v && dumpableMembers ms

end

variable {members : List (String × Value)} {name : String} {v : Value}

@[simp]
theorem dumpable_null : Value.null.dumpable = true := rfl

@[simp]
theorem dumpable_bool (b : Bool) : (Value.bool b).dumpable = true := rfl

@[simp]
theorem dumpable_float (x : Number) : (Value.float x).dumpable = true := rfl

@[simp]
theorem dumpable_str (s : String) : (Value.str s).dumpable = true := rfl

@[simp]
theorem dumpable_int (n : Int) : (Value.int n).dumpable = withinDigits n := rfl

@[simp]
theorem dumpable_array {items : List Value} :
    (Value.array items).dumpable = true ↔ ∀ v ∈ items, v.dumpable = true := by
  change dumpableItems items = true ↔ _
  induction items with
  | nil => simp [dumpableItems]
  | cons v vs ih => simp [dumpableItems, ih]

/-- Every member of the dictionary can be written. -/
def Dumpable (members : List (String × Value)) : Prop := ∀ m ∈ members, m.2.dumpable = true

@[simp]
theorem dumpable_object : (Value.object members).dumpable = true ↔ Dumpable members := by
  change dumpableMembers members = true ↔ _
  induction members with
  | nil => simp [dumpableMembers, Dumpable]
  | cons m ms ih => simpa [dumpableMembers, Dumpable] using fun _ => ih

/-! ## Dictionaries -/

theorem Dumpable.put (h : Dumpable members) (hv : v.dumpable = true) :
    Dumpable (put members name v) := by
  intro m hm
  obtain hm | hm := List.mem_append.mp hm
  · exact h m (List.mem_filter.mp hm).1
  · rw [List.mem_singleton.mp hm]
    exact hv

theorem Dumpable.update {changes : List (String × Value)} (h : Dumpable members)
    (hchanges : Dumpable changes) : Dumpable (update members changes) := by
  induction changes generalizing members with
  | nil => exact h
  | cons m ms ih =>
    exact ih (h.put (hchanges m List.mem_cons_self)) fun x hx => hchanges x (List.mem_cons_of_mem _ hx)

theorem Dumpable.get? (h : Dumpable members) (hv : get? members name = some v) : v.dumpable = true :=
  h _ (mem_of_get? hv)

theorem Dumpable.getD {default : Value} (h : Dumpable members) (hdefault : default.dumpable = true) :
    (getD members name default).dumpable = true := by
  rw [Value.getD]
  cases hv : Value.get? members name with
  | none => exact hdefault
  | some v => exact h.get? hv

theorem Dumpable.filter (h : Dumpable members) (p : String × Value → Bool) :
    Dumpable (members.filter p) :=
  fun m hm => h m (List.mem_filter.mp hm).1

end Value

end StorageNode.Json
