import StorageNode.Json.Scanning

/-!
# What is written is read back

A value that holds every name once and no integer that is too long (`Readable`) is read back from the
text that is written of it, with the names of its objects in order (`loads_dumps`). The text therefore
determines the value up to that order (`sortKeys_eq_of_dumps_eq`), and the dictionary that is read holds
the same members (`get?_sortKeys`).
-/

set_option autoImplicit false

namespace StorageNode.Json

open StorageNode.Text

/-- A value whose text is read back. -/
inductive Readable (ft : FloatText) : Value → Prop
  | null : Readable ft .null
  | bool (b : Bool) : Readable ft (.bool b)
  | int (n : Int) (h : (Nat.toDigits 10 n.natAbs).length ≤ maxDigits) : Readable ft (.int n)
  | float (x : Number) (h : ∀ s e, x = .finite s e → ft.Exact s e) : Readable ft (.float x)
  | str (s : String) : Readable ft (.str s)
  | array (items : List Value) (h : ∀ v ∈ items, Readable ft v) : Readable ft (.array items)
  | object (members : List (String × Value)) (hdistinct : Value.Distinct members)
      (h : ∀ m ∈ members, Readable ft m.2) : Readable ft (.object members)

/-! ## Values in the middle of a text -/

section

variable (ft : FloatText)

/-- Nothing that starts with a blank, a closing bracket or a byte order mark is a value. -/
theorem scanValue_eq_none {fuel : Nat} {c : Char} (rest : Text)
    (hc : isBlank c = true ∨ c = ']' ∨ c = Char.ofNat 0xFEFF) :
    scanValue ft fuel (c :: rest) = none := by
  have hchars : c = ' ' ∨ c = '\t' ∨ c = '\n' ∨ c = '\r' ∨ c = ']' ∨ c = Char.ofNat 0xFEFF := by
    rcases hc with hblank | hc
    · simp only [isBlank, Bool.or_eq_true, decide_eq_true_eq] at hblank
      tauto
    · tauto
  cases fuel with
  | zero => rfl
  | succ fuel => rcases hchars with rfl | rfl | rfl | rfl | rfl | rfl <;> rfl

/-- How a value that has been scanned starts. -/
theorem head_of_scanValue {fuel : Nat} {t : Text} {r : Value × Text}
    (h : scanValue ft fuel t = some r) :
    ∃ c rest, t = c :: rest ∧ isBlank c = false ∧ c ≠ ']' ∧ c ≠ Char.ofNat 0xFEFF := by
  cases t with
  | nil =>
    cases fuel with
    | zero => exact absurd h (by simp [scanValue])
    | succ fuel =>
      have hnone : scanValue ft (fuel + 1) [] = none := rfl
      rw [hnone] at h
      exact absurd h (by simp)
  | cons c rest =>
    refine ⟨c, rest, rfl, ?_, ?_, ?_⟩
    · by_contra hblank
      rw [scanValue_eq_none ft rest (.inl (by simpa using hblank))] at h
      exact absurd h (by simp)
    · rintro rfl
      rw [scanValue_eq_none ft rest (.inr (.inl rfl))] at h
      exact absurd h (by simp)
    · rintro rfl
      rw [scanValue_eq_none ft rest (.inr (.inr rfl))] at h
      exact absurd h (by simp)

/-- A value without its own start is scanned as a word or a number. -/
theorem scanValue_plain {fuel : Nat} {t : Text} (hquote : t.head? ≠ some '"')
    (harray : t.head? ≠ some '[') (hobject : t.head? ≠ some '{') :
    scanValue ft (fuel + 1) t = scanPlain ft t := by
  cases t with
  | nil => rfl
  | cons c rest =>
    rw [scanValue]
    · rintro rest heq
      exact hquote (by rw [heq]; rfl)
    · rintro rest heq
      exact harray (by rw [heq]; rfl)
    · rintro rest heq
      exact hobject (by rw [heq]; rfl)

theorem scanValue_number {fuel : Nat} {t : Text} (h : NumberHead t) :
    scanValue ft (fuel + 1) t = scanNumber ft t := by
  have hhead : ∀ c : Char, c.isDigit = false → c ≠ '-' → t.head? ≠ some c :=
    fun c hdigit hminus hc => h.head_ne hdigit hminus hc
  rw [scanValue_plain ft (hhead _ (by decide) (by decide)) (hhead _ (by decide) (by decide))
    (hhead _ (by decide) (by decide)), scanPlain_number ft h]

end

theorem skipBlanks_cons {c : Char} (rest : Text) (h : isBlank c = false) :
    skipBlanks (c :: rest) = c :: rest := by
  rw [skipBlanks, List.dropWhile_cons_of_neg (by simp [h])]

theorem skipBlanks_append {gap : Text} (hgap : ∀ c ∈ gap, isBlank c = true) (t : Text) :
    skipBlanks (gap ++ t) = skipBlanks t :=
  List.dropWhile_append_of_pos hgap

/-- Blanks before a value do not matter. -/
theorem skipBlanks_of_scanValue {ft : FloatText} {fuel : Nat} {t : Text} {r : Value × Text}
    (h : scanValue ft fuel t = some r) : skipBlanks t = t := by
  obtain ⟨c, rest, rfl, hblank, -⟩ := head_of_scanValue ft h
  exact skipBlanks_cons rest hblank

section

variable (ft : FloatText) (gap : Text)

/-- The text of `v` is read as `v`, whatever follows it, with fuel for twice its length. -/
def Written (v : Value) : Prop :=
  ∀ fuel rest, Delimits rest → 2 * (write ft gap v).length ≤ fuel →
    scanValue ft fuel (write ft gap v ++ rest) = some (v, rest)

variable {ft gap}

theorem scanItems_writeItems (hgap : ∀ c ∈ gap, isBlank c = true) {items : List Value}
    (hne : items ≠ []) (h : ∀ v ∈ items, Written ft gap v) {fuel : Nat} (rest : Text)
    (hfuel : 2 * (writeItems ft gap items).length + 1 ≤ fuel) :
    scanItems ft fuel (writeItems ft gap items ++ ']' :: rest) = some (items, rest) := by
  induction items generalizing fuel with
  | nil => exact absurd rfl hne
  | cons v vs ih =>
    obtain ⟨fuel, rfl⟩ := Nat.exists_eq_add_of_le' (Nat.le_of_add_left_le hfuel)
    have hv := h v List.mem_cons_self
    cases vs with
    | nil =>
      have hscan := hv fuel (']' :: rest) (.cons (by decide) (by decide) (by decide) (by decide))
        (by simp [writeItems] at hfuel; omega)
      have htext : writeItems ft gap [v] ++ ']' :: rest = write ft gap v ++ ']' :: rest := by
        simp [writeItems]
      rw [htext, scanItems, hscan]
      rfl
    | cons w ws =>
      have htext : writeItems ft gap (v :: w :: ws) ++ ']' :: rest =
          write ft gap v ++ ',' :: (gap ++ (writeItems ft gap (w :: ws) ++ ']' :: rest)) := by
        simp [writeItems]
      have hlength : (writeItems ft gap (v :: w :: ws)).length =
          (write ft gap v).length + 1 + gap.length + (writeItems ft gap (w :: ws)).length := by
        simp [writeItems]
        omega
      have hscan := hv fuel (',' :: (gap ++ (writeItems ft gap (w :: ws) ++ ']' :: rest)))
        (.cons (by decide) (by decide) (by decide) (by decide)) (by omega)
      have hrest : scanItems ft fuel (writeItems ft gap (w :: ws) ++ ']' :: rest) = some (w :: ws, rest) :=
        ih (List.cons_ne_nil _ _) (fun u hu => h u (List.mem_cons_of_mem _ hu)) (by omega)
      -- the next item starts with no blank, so that the gap alone is skipped
      have hstart : skipBlanks (writeItems ft gap (w :: ws) ++ ']' :: rest) =
          writeItems ft gap (w :: ws) ++ ']' :: rest := by
        have hw := h w (List.mem_cons_of_mem _ List.mem_cons_self) (2 * (write ft gap w).length)
          [] .nil (Nat.le_refl _)
        obtain ⟨c, text, hc, hblank, -⟩ := head_of_scanValue ft hw
        rw [List.append_nil] at hc
        rw [writeItems, hc]
        exact skipBlanks_cons _ hblank
      rw [htext, scanItems, hscan]
      simp only [skipBlanks_cons _ (show isBlank ',' = false by decide), skipBlanks_append hgap, hstart,
        hrest]
      rfl

theorem scanMembers_writeMembers (hgap : ∀ c ∈ gap, isBlank c = true)
    {members : List (String × Value)} (hne : members ≠ [])
    (h : ∀ m ∈ members, Written ft gap m.2) {fuel : Nat} (rest : Text)
    (hfuel : 2 * (writeMembers ft gap members).length + 1 ≤ fuel) :
    scanMembers ft fuel (writeMembers ft gap members ++ '}' :: rest) = some (members, rest) := by
  induction members generalizing fuel with
  | nil => exact absurd rfl hne
  | cons m ms ih =>
    obtain ⟨name, v⟩ := m
    obtain ⟨fuel, rfl⟩ := Nat.exists_eq_add_of_le' (Nat.le_of_add_left_le hfuel)
    have hv : Written ft gap v := h (name, v) List.mem_cons_self
    -- the name, the colon and the value are read alike whatever follows the value
    have hmember : ∀ after, Delimits after → 2 * (write ft gap v).length ≤ fuel →
        ∀ text, text = quoteRest name.toList ++ (':' :: (gap ++ (write ft gap v ++ after))) →
        scanString (text.length + 1) text =
            some (name.toList, ':' :: (gap ++ (write ft gap v ++ after))) ∧
          (scanColon (':' :: (gap ++ (write ft gap v ++ after)))).bind (scanValue ft fuel) =
            some (v, after) := by
      intro after hafter hlength text htext
      have hscan := hv fuel after hafter hlength
      refine ⟨?_, ?_⟩
      · rw [htext]
        apply scanString_quoteRest
        have := length_le_length_quoteRest name.toList
        rw [List.length_append]
        omega
      · rw [scanColon, skipBlanks_cons _ (by decide)]
        simp only [skipBlanks_append hgap, skipBlanks_of_scanValue hscan, Option.bind_some, hscan]
    cases ms with
    | nil =>
      have htext : writeMembers ft gap [(name, v)] ++ '}' :: rest =
          '"' :: (quoteRest name.toList ++ (':' :: (gap ++ (write ft gap v ++ '}' :: rest)))) := by
        simp [writeMembers]
      obtain ⟨hname, hvalue⟩ := hmember ('}' :: rest)
        (.cons (by decide) (by decide) (by decide) (by decide))
        (by simp [writeMembers] at hfuel; omega) _ rfl
      rw [htext, scanMembers]
      simp only [hname, hvalue, skipBlanks_cons _ (show isBlank '}' = false by decide),
        String.ofList_toList]
    | cons m ms =>
      have htext : writeMembers ft gap ((name, v) :: m :: ms) ++ '}' :: rest =
          '"' :: (quoteRest name.toList ++ (':' :: (gap ++ (write ft gap v ++
            ',' :: (gap ++ (writeMembers ft gap (m :: ms) ++ '}' :: rest)))))) := by
        simp [writeMembers]
      have hlength : (writeMembers ft gap ((name, v) :: m :: ms)).length =
          1 + (quoteRest name.toList).length + 1 + gap.length + (write ft gap v).length + 1 +
            gap.length + (writeMembers ft gap (m :: ms)).length := by
        simp [writeMembers]
        omega
      obtain ⟨hname, hvalue⟩ := hmember
        (',' :: (gap ++ (writeMembers ft gap (m :: ms) ++ '}' :: rest)))
        (.cons (by decide) (by decide) (by decide) (by decide)) (by omega) _ rfl
      have hrest : scanMembers ft fuel (writeMembers ft gap (m :: ms) ++ '}' :: rest) =
          some (m :: ms, rest) :=
        ih (List.cons_ne_nil _ _) (fun u hu => h u (List.mem_cons_of_mem _ hu)) (by omega)
      have hstart : skipBlanks (writeMembers ft gap (m :: ms) ++ '}' :: rest) =
          writeMembers ft gap (m :: ms) ++ '}' :: rest := by
        rw [writeMembers]
        exact skipBlanks_cons _ (by decide)
      rw [htext, scanMembers]
      simp only [hname, hvalue, skipBlanks_cons _ (show isBlank ',' = false by decide),
        skipBlanks_append hgap, hstart, hrest, String.ofList_toList]
      rfl

omit gap in
/-- A text that is not empty gets some fuel. -/
theorem fuel_of_length {text : Text} (hne : text ≠ []) {fuel : Nat} (h : 2 * text.length ≤ fuel) :
    ∃ more, fuel = more + 1 := by
  have hpos := List.length_pos_iff.mpr hne
  exact Nat.exists_eq_add_of_le' (by omega)

/-- A text that starts as a number and is scanned as one. -/
theorem Written.of_number {v : Value} (hne : write ft gap v ≠ [])
    (hhead : ∀ rest, NumberHead (write ft gap v ++ rest))
    (hscan : ∀ rest, Delimits rest → scanNumber ft (write ft gap v ++ rest) = some (v, rest)) :
    Written ft gap v := by
  intro fuel rest hrest hfuel
  obtain ⟨fuel, rfl⟩ := fuel_of_length hne hfuel
  rw [scanValue_number ft (hhead rest), hscan rest hrest]

/-- A word. -/
theorem Written.of_word {v : Value} (hne : write ft gap v ≠ [])
    (hscan : ∀ fuel rest, scanValue ft (fuel + 1) (write ft gap v ++ rest) = some (v, rest)) :
    Written ft gap v := by
  intro fuel rest _ hfuel
  obtain ⟨fuel, rfl⟩ := fuel_of_length hne hfuel
  exact hscan fuel rest

theorem Readable.written (hgap : ∀ c ∈ gap, isBlank c = true) {v : Value} (h : Readable ft v) :
    Written ft gap v := by
  induction h with
  | null => exact .of_word (List.cons_ne_nil _ _) fun _ _ => rfl
  | bool b =>
    cases b with
    | true => exact .of_word (List.cons_ne_nil _ _) fun _ _ => rfl
    | false => exact .of_word (List.cons_ne_nil _ _) fun _ _ => rfl
  | int n hn =>
    have htext : write ft gap (.int n) = ofInt n := by rw [write]
    refine .of_number ?_ (fun rest => ?_) fun rest hrest => ?_
    · rw [htext]
      exact (ofInt_isInteger n).ne_nil
    · rw [htext]
      exact (ofInt_isInteger n).numberHead rest
    · rw [htext]
      exact scanNumber_ofInt ft hn hrest
  | float x hx =>
    cases x with
    | finite significand exponent =>
      have hexact := hx _ _ rfl
      have htext : write ft gap (.float (.finite significand exponent)) =
          ft.repr significand exponent := by
        rw [write]
        rfl
      refine .of_number ?_ (fun rest => ?_) fun rest hrest => ?_
      · rw [htext]
        exact hexact.ne_nil
      · rw [htext]
        exact hexact.numberHead rest
      · rw [htext]
        exact scanNumber_repr hexact hrest
    | infinite negative =>
      cases negative with
      | false => exact .of_word (List.cons_ne_nil _ _) fun _ _ => rfl
      | true => exact .of_word (List.cons_ne_nil _ _) fun _ _ => rfl
    | nan => exact .of_word (List.cons_ne_nil _ _) fun _ _ => rfl
  | str s =>
    intro fuel rest hrest hfuel
    have htext : write ft gap (.str s) = '"' :: quoteRest s.toList := by rw [write]
    rw [htext] at hfuel ⊢
    obtain ⟨fuel, rfl⟩ := fuel_of_length (List.cons_ne_nil _ _) hfuel
    have hscan : scanString ((quoteRest s.toList ++ rest).length + 1) (quoteRest s.toList ++ rest) =
        some (s.toList, rest) := by
      apply scanString_quoteRest
      have := length_le_length_quoteRest s.toList
      rw [List.length_append]
      omega
    rw [List.cons_append, scanValue]
    simp only [hscan, Option.map_some, String.ofList_toList]
  | array items hitems ih =>
    intro fuel rest hrest hfuel
    have hlength : (write ft gap (.array items)).length = (writeItems ft gap items).length + 2 := by
      simp [write]
    obtain ⟨fuel, rfl⟩ := Nat.exists_eq_add_of_le' (show 1 ≤ fuel by omega)
    have htext : write ft gap (.array items) ++ rest =
        '[' :: (writeItems ft gap items ++ ']' :: rest) := by simp [write]
    rw [htext]
    cases items with
    | nil => rfl
    | cons v vs =>
      have hscan : scanItems ft fuel (writeItems ft gap (v :: vs) ++ ']' :: rest) = some (v :: vs, rest) :=
        scanItems_writeItems hgap (List.cons_ne_nil v vs) ih rest (by omega)
      have hv := ih v List.mem_cons_self (2 * (write ft gap v).length) [] .nil (Nat.le_refl _)
      obtain ⟨c, text, hc, hblank, hbracket, -⟩ := head_of_scanValue ft hv
      rw [List.append_nil] at hc
      obtain ⟨tail, htail⟩ : ∃ tail, writeItems ft gap (v :: vs) ++ ']' :: rest = c :: tail := by
        rw [writeItems, hc]
        exact ⟨_, rfl⟩
      rw [scanValue, htail, skipBlanks_cons _ hblank]
      rw [htail] at hscan
      split
      · rename_i heq
        exact absurd (List.cons.inj heq).1 hbracket
      · rw [hscan]
        rfl
  | object members hdistinct hmembers ih =>
    intro fuel rest hrest hfuel
    have hlength : (write ft gap (.object members)).length =
        (writeMembers ft gap members).length + 2 := by simp [write]
    obtain ⟨fuel, rfl⟩ := Nat.exists_eq_add_of_le' (show 1 ≤ fuel by omega)
    have htext : write ft gap (.object members) ++ rest =
        '{' :: (writeMembers ft gap members ++ '}' :: rest) := by simp [write]
    rw [htext]
    cases members with
    | nil => rfl
    | cons m ms =>
      have hscan : scanMembers ft fuel (writeMembers ft gap (m :: ms) ++ '}' :: rest) =
          some (m :: ms, rest) :=
        scanMembers_writeMembers hgap (List.cons_ne_nil m ms) ih rest (by omega)
      obtain ⟨tail, htail⟩ : ∃ tail, writeMembers ft gap (m :: ms) ++ '}' :: rest = '"' :: tail := by
        rw [writeMembers]
        exact ⟨_, rfl⟩
      rw [scanValue, htail, skipBlanks_cons _ (by decide)]
      rw [htail] at hscan
      split
      · rename_i heq
        exact absurd (List.cons.inj heq).1 (by decide)
      · rw [hscan]
        rfl

end

/-! ## Names in order -/

theorem sortItems_eq (items : List Value) : sortItems items = items.map sortKeys := by
  induction items with
  | nil => rfl
  | cons v vs ih => rw [sortItems, ih, List.map_cons]

theorem sortMembers_eq (members : List (String × Value)) :
    sortMembers members = members.map fun m => (m.1, sortKeys m.2) := by
  induction members with
  | nil => rfl
  | cons m ms ih => rw [sortMembers, ih, List.map_cons]

/-- The members of a sorted object, up to their order. -/
theorem perm_sortKeys_object (members : List (String × Value)) :
    ∃ sorted, sortKeys (.object members) = .object sorted ∧
      sorted.Perm (members.map fun m => (m.1, sortKeys m.2)) := by
  refine ⟨_, rfl, ?_⟩
  rw [← sortMembers_eq]
  exact List.perm_insertionSort _ _

theorem Readable.sortKeys {ft : FloatText} {v : Value} (h : Readable ft v) :
    Readable ft (sortKeys v) := by
  induction h with
  | null => exact .null
  | bool b => exact .bool b
  | int n hn => exact .int n hn
  | float x hx => exact .float x hx
  | str s => exact .str s
  | array items hitems ih =>
    rw [Json.sortKeys, sortItems_eq]
    refine .array _ fun v hv => ?_
    obtain ⟨u, hu, rfl⟩ := List.mem_map.mp hv
    exact ih u hu
  | object members hdistinct hmembers ih =>
    obtain ⟨sorted, hsorted, hperm⟩ := perm_sortKeys_object members
    rw [hsorted]
    refine .object _ ?_ fun m hm => ?_
    · have hnames := (hperm.map Prod.fst).nodup_iff
      rw [List.map_map] at hnames
      exact hnames.mpr hdistinct
    · obtain ⟨u, hu, rfl⟩ := List.mem_map.mp (hperm.mem_iff.mp hm)
      exact ih u hu

/-- In a dictionary that holds each name once, order does not matter. -/
theorem Value.get?_eq_some_iff {members : List (String × Value)} (h : Value.Distinct members)
    {name : String} {v : Value} : Value.get? members name = some v ↔ (name, v) ∈ members := by
  refine ⟨Value.mem_of_get?, fun hmem => ?_⟩
  cases hfound : Value.get? members name with
  | none =>
    rw [Value.get?, Option.map_eq_none_iff, List.find?_eq_none] at hfound
    exact absurd (hfound (name, v) (List.mem_reverse.mpr hmem)) (by simp)
  | some u =>
    have hu := Value.mem_of_get? hfound
    have heq := List.inj_on_of_nodup_map h hu hmem rfl
    rw [(Prod.mk.inj heq).2]

/-- Sorting changes no member but by sorting inside it. -/
theorem get?_sortKeys {members sorted : List (String × Value)} (h : Value.Distinct members)
    (hsorted : sortKeys (.object members) = .object sorted) (name : String) :
    Value.get? sorted name = (Value.get? members name).map sortKeys := by
  obtain ⟨others, hothers, hperm⟩ := perm_sortKeys_object members
  obtain rfl : sorted = others := Value.object.inj (hsorted.symm.trans hothers)
  have hdistinct : Value.Distinct sorted := by
    have hnames := (hperm.map Prod.fst).nodup_iff
    rw [List.map_map] at hnames
    exact hnames.mpr h
  apply Option.ext
  intro v
  rw [Value.get?_eq_some_iff hdistinct, hperm.mem_iff, List.mem_map, Option.map_eq_some_iff]
  constructor
  · rintro ⟨m, hm, heq⟩
    obtain ⟨rfl, rfl⟩ := Prod.mk.inj heq
    exact ⟨m.2, (Value.get?_eq_some_iff h).mpr hm, rfl⟩
  · rintro ⟨u, hu, rfl⟩
    exact ⟨(name, u), (Value.get?_eq_some_iff h).mp hu, rfl⟩

/-! ## Dictionaries -/

/-- A name that is held stays held. -/
theorem Value.isSome_get?_update {members changes : List (String × Value)} {name : String}
    (h : (Value.get? members name).isSome = true) :
    (Value.get? (Value.update members changes) name).isSome = true := by
  induction changes generalizing members with
  | nil => exact h
  | cons m ms ih =>
    refine ih ?_
    rw [Value.get?_put]
    split
    · rfl
    · exact h

theorem Value.get?_update_of_not_mem {members changes : List (String × Value)} {name : String}
    (h : ∀ m ∈ changes, m.1 ≠ name) :
    Value.get? (Value.update members changes) name = Value.get? members name := by
  induction changes generalizing members with
  | nil => rfl
  | cons m ms ih =>
    have hrest : Value.get? (Value.update (Value.put members m.1 m.2) ms) name =
        Value.get? (Value.put members m.1 m.2) name := ih fun u hu => h u (List.mem_cons_of_mem _ hu)
    rw [Value.update, List.foldl_cons, ← Value.update, hrest,
      Value.get?_put_of_ne (Ne.symm (h m List.mem_cons_self))]

section

variable {ft : FloatText} {members : List (String × Value)} {name : String} {v : Value}

theorem Readable.put (h : Readable ft (.object members)) (hv : Readable ft v) :
    Readable ft (.object (Value.put members name v)) := by
  cases h with
  | object _ hdistinct hmembers =>
    refine .object _ hdistinct.put fun m hm => ?_
    rw [Value.put] at hm
    rcases List.mem_append.mp hm with hm | hm
    · exact hmembers m (List.mem_of_mem_filter hm)
    · obtain rfl := List.mem_singleton.mp hm
      exact hv

theorem Readable.update {changes : List (String × Value)} (h : Readable ft (.object members))
    (hchanges : ∀ m ∈ changes, Readable ft m.2) :
    Readable ft (.object (Value.update members changes)) := by
  induction changes generalizing members with
  | nil => exact h
  | cons m ms ih =>
    exact ih (h.put (hchanges m List.mem_cons_self)) fun u hu => hchanges u (List.mem_cons_of_mem _ hu)

/-- What is found in a readable dictionary is readable. -/
theorem Readable.get? (h : Readable ft (.object members)) (hv : Value.get? members name = some v) :
    Readable ft v := by
  cases h with
  | object _ _ hmembers => exact hmembers _ (Value.mem_of_get? hv)

end

/-! ## Whole texts -/

/-- A text is read back, with blanks behind it. -/
theorem loads_write {ft : FloatText} {gap tail : Text} (hgap : ∀ c ∈ gap, isBlank c = true)
    (htail : ∀ c ∈ tail, isBlank c = true) {v : Value} (h : Readable ft v) :
    loads ft (write ft gap v ++ tail) = some v := by
  have hdelimits : Delimits tail := by
    intro c hc
    have hblank := htail c (List.mem_of_mem_head? hc)
    simp only [isBlank, Bool.or_eq_true, decide_eq_true_eq] at hblank
    rcases hblank with ((rfl | rfl) | rfl) | rfl <;> decide
  have hscan := h.written hgap (2 * (write ft gap v ++ tail).length + 1) tail hdelimits
    (by rw [List.length_append]; omega)
  obtain ⟨c, rest, htext, hblank, -, hmark⟩ := head_of_scanValue ft hscan
  rw [loads, loadsWith, if_neg, skipBlanks_of_scanValue hscan, hscan]
  · have hskip : skipBlanks tail = [] := by
      rw [skipBlanks, List.dropWhile_eq_nil_iff]
      exact htail
    simp only [hskip, if_true]
  · rw [htext]
    simpa using hmark

/-- `json.loads(json.dumps(value, sort_keys=True))`. -/
theorem loads_dumps {ft : FloatText} {gap tail : Text} (hgap : ∀ c ∈ gap, isBlank c = true)
    (htail : ∀ c ∈ tail, isBlank c = true) {v : Value} (h : Readable ft v) :
    loads ft (dumps ft gap v ++ tail) = some (sortKeys v) :=
  loads_write hgap htail h.sortKeys

/-- The text determines the value, up to the order of names. -/
theorem sortKeys_eq_of_dumps_eq {ft : FloatText} {gap : Text} (hgap : ∀ c ∈ gap, isBlank c = true)
    {v w : Value} (hv : Readable ft v) (hw : Readable ft w) (h : dumps ft gap v = dumps ft gap w) :
    sortKeys v = sortKeys w := by
  have hread : loads ft (dumps ft gap v ++ []) = some (sortKeys v) := loads_dumps hgap (by simp) hv
  rw [h, loads_dumps hgap (by simp) hw] at hread
  exact (Option.some.inj hread).symm

end StorageNode.Json
