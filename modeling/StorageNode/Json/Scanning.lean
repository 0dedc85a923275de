import StorageNode.Json.Reader

/-!
# What is written is scanned again

The pieces of a JSON text: strings, numbers and words. Each is scanned as it was written when what
follows does not continue it (`Delimits`).
-/

set_option autoImplicit false

namespace StorageNode.Json

open StorageNode.Text

/-! ## Escapes -/

theorem hexValue_digitChar {n : Nat} (h : n < 16) : hexValue (Nat.digitChar n) = some n := by
  have hall : ∀ k : Fin 16, hexValue (Nat.digitChar k) = some k.val := by decide
  exact hall ⟨n, h⟩

theorem scanUnit_unitEscape {n : Nat} (h : n < 0x10000) (rest : Text) :
    scanUnit ((unitEscape n).drop 2 ++ rest) = some (n, rest) := by
  have hdigits : n / 4096 % 16 * 4096 + n / 256 % 16 * 256 + n / 16 % 16 * 16 + n % 16 = n := by omega
  simp only [unitEscape, List.drop_succ_cons, List.drop_zero, List.cons_append, List.nil_append,
    scanUnit, hexValue_digitChar (Nat.mod_lt _ (show 0 < 16 by omega)), hdigits]

theorem unitEscape_eq (n : Nat) (rest : Text) :
    unitEscape n ++ rest = '\\' :: 'u' :: ((unitEscape n).drop 2 ++ rest) := rfl

/-- The code points of characters leave out the surrogates. -/
theorem toNat_ranges (c : Char) : c.toNat < 0xD800 ∨ (0xDFFF < c.toNat ∧ c.toNat < 0x110000) := by
  have h := c.valid
  rw [UInt32.isValidChar, Nat.isValidChar] at h
  exact h

theorem scanUnicode_unitEscape {c : Char} (h : c.toNat < 0x10000) (rest : Text) :
    scanUnicode ((unitEscape c.toNat).drop 2 ++ rest) = some (c, rest) := by
  have hplain : ¬ (0xD800 ≤ c.toNat ∧ c.toNat ≤ 0xDFFF) := by
    have := toNat_ranges c
    omega
  rw [scanUnicode, scanUnit_unitEscape h]
  simp only [if_neg hplain, Char.ofNat_toNat]

theorem scanUnicode_pair {c : Char} (h : 0x10000 ≤ c.toNat) (rest : Text) :
    scanUnicode ((unitEscape (0xD800 + (c.toNat - 0x10000) / 0x400)).drop 2 ++
      (unitEscape (0xDC00 + (c.toNat - 0x10000) % 0x400) ++ rest)) = some (c, rest) := by
  have hrange := toNat_ranges c
  have hhigh : 0xD800 + (c.toNat - 0x10000) / 0x400 < 0x10000 := by omega
  have hlow : 0xDC00 + (c.toNat - 0x10000) % 0x400 < 0x10000 := by omega
  have hsurrogate : 0xD800 ≤ 0xD800 + (c.toNat - 0x10000) / 0x400 ∧
      0xD800 + (c.toNat - 0x10000) / 0x400 ≤ 0xDFFF := by omega
  have hjoin : 0xD800 + (c.toNat - 0x10000) / 0x400 ≤ 0xDBFF ∧
      0xDC00 ≤ 0xDC00 + (c.toNat - 0x10000) % 0x400 ∧
      0xDC00 + (c.toNat - 0x10000) % 0x400 ≤ 0xDFFF := by omega
  have hvalue : 0x10000 + (0xD800 + (c.toNat - 0x10000) / 0x400 - 0xD800) * 0x400 +
      (0xDC00 + (c.toNat - 0x10000) % 0x400 - 0xDC00) = c.toNat := by omega
  rw [scanUnicode, scanUnit_unitEscape hhigh, unitEscape_eq]
  simp only [if_pos hsurrogate, scanUnit_unitEscape hlow, if_pos hjoin, hvalue, Char.ofNat_toNat]

/-! ## Strings -/

/-- The scanner takes one written character at a time. -/
theorem scanString_escapeChar (fuel : Nat) (c : Char) (rest : Text) :
    scanString (fuel + 1) (escapeChar c ++ rest) =
      (scanString fuel rest).map fun r => (c :: r.1, r.2) := by
  have hnamed : ∀ d : Char, scanEscape (d :: rest) = some (c, rest) →
      scanString (fuel + 1) ('\\' :: d :: rest) =
        (scanString fuel rest).map fun r => (c :: r.1, r.2) := by
    intro d hd
    rw [scanString, if_neg (by decide), if_pos rfl, hd, Option.bind_some]
  unfold escapeChar
  split_ifs with hquote hslash hfeed hreturn htab hform hback hplain hbasic
  · subst hquote
    exact hnamed _ rfl
  · subst hslash
    exact hnamed _ rfl
  · subst hfeed
    exact hnamed _ rfl
  · subst hreturn
    exact hnamed _ rfl
  · subst htab
    exact hnamed _ rfl
  · have hc : Char.ofNat 0x0C = c := by rw [← hform, Char.ofNat_toNat]
    subst hc
    exact hnamed _ rfl
  · have hc : Char.ofNat 0x08 = c := by rw [← hback, Char.ofNat_toNat]
    subst hc
    exact hnamed _ rfl
  · rw [List.singleton_append, scanString, if_neg hquote, if_neg hslash, if_neg (by omega)]
  · rw [unitEscape_eq, scanString, if_neg (by decide), if_pos rfl, scanEscape, if_pos rfl,
      scanUnicode_unitEscape hbasic, Option.bind_some]
  · rw [List.append_assoc, unitEscape_eq, scanString, if_neg (by decide), if_pos rfl, scanEscape,
      if_pos rfl, scanUnicode_pair (by omega), Option.bind_some]

theorem scanString_quoteRest {t : Text} {fuel : Nat} (h : t.length < fuel) (rest : Text) :
    scanString fuel (quoteRest t ++ rest) = some (t, rest) := by
  induction t generalizing fuel with
  | nil =>
    obtain ⟨fuel, rfl⟩ := Nat.exists_eq_succ_of_ne_zero (Nat.ne_of_gt h)
    rfl
  | cons c t ih =>
    obtain ⟨fuel, rfl⟩ := Nat.exists_eq_succ_of_ne_zero (Nat.ne_of_gt (Nat.zero_lt_of_lt h))
    have hrest : quoteRest (c :: t) ++ rest = escapeChar c ++ (quoteRest t ++ rest) := by
      simp [quoteRest]
    rw [hrest, Nat.succ_eq_add_one, scanString_escapeChar, ih (by simpa using h)]
    rfl

/-- No character is written as nothing. -/
theorem length_le_length_quoteRest (t : Text) : t.length < (quoteRest t).length := by
  have hpos : ∀ c, 1 ≤ (escapeChar c).length := by
    intro c
    unfold escapeChar
    split_ifs <;> simp [unitEscape]
  have hflat : t.length ≤ (t.flatMap escapeChar).length := by
    induction t with
    | nil => exact Nat.le_refl _
    | cons c t ih =>
      have hc := hpos c
      simp only [List.flatMap_cons, List.length_append, List.length_cons]
      omega
  simp only [quoteRest, List.length_append, List.length_singleton]
  omega

/-! ## Numbers -/

/-- A text that continues no number. -/
def Delimits (rest : Text) : Prop :=
  ∀ c, rest.head? = some c → c.isDigit = false ∧ c ≠ '.' ∧ c ≠ 'e' ∧ c ≠ 'E'

theorem Delimits.nil : Delimits [] := fun c h => absurd h (by simp)

theorem Delimits.cons {c : Char} {rest : Text} (hdigit : c.isDigit = false) (hdot : c ≠ '.')
    (he : c ≠ 'e') (hE : c ≠ 'E') : Delimits (c :: rest) := by
  intro d hd
  obtain rfl : c = d := by simpa using hd
  exact ⟨hdigit, hdot, he, hE⟩

theorem scanDigits_append {digits rest : Text} (hdigits : ∀ c ∈ digits, c.isDigit = true)
    (hrest : ∀ c, rest.head? = some c → c.isDigit = false) :
    scanDigits (digits ++ rest) = (digits, rest) := by
  rw [scanDigits, List.span_eq_takeWhile_dropWhile, List.takeWhile_append_of_pos hdigits,
    List.dropWhile_append_of_pos hdigits]
  cases rest with
  | nil => simp
  | cons c rest =>
    have hc := hrest c rfl
    simp [hc]

/-- The digits of an integer as it is written: a zero alone, or no zero in front. -/
structure IsNatural (digits : Text) : Prop where
  nonempty : digits ≠ []
  digit : ∀ c ∈ digits, c.isDigit = true
  zero : digits.head? = some '0' → digits = ['0']

theorem IsNatural.scan {digits rest : Text} (h : IsNatural digits)
    (hrest : ∀ c, rest.head? = some c → c.isDigit = false) :
    scanNatural (digits ++ rest) = some (digits, rest) := by
  by_cases hzero : digits.head? = some '0'
  · rw [h.zero hzero]
    rfl
  · have hscan : scanNatural (digits ++ rest) =
        if (scanDigits (digits ++ rest)).1 = [] then none else some (scanDigits (digits ++ rest)) := by
      cases digits with
      | nil => exact absurd rfl h.nonempty
      | cons c digits =>
        have hc : c ≠ '0' := by simpa using hzero
        rw [List.cons_append, scanNatural]
        exact fun _ heq => absurd (List.cons.inj heq).1 hc
    rw [hscan, scanDigits_append h.digit hrest, if_neg h.nonempty]

/-- A number as it is written: `scanInteger` finds its integer part, with or without a sign. -/
inductive IsInteger : Text → Prop
  | positive {digits : Text} (h : IsNatural digits) : IsInteger digits
  | negative {digits : Text} (h : IsNatural digits) : IsInteger ('-' :: digits)

theorem IsInteger.scan {integer rest : Text} (h : IsInteger integer)
    (hrest : ∀ c, rest.head? = some c → c.isDigit = false) :
    scanInteger (integer ++ rest) = some (integer, rest) := by
  cases h with
  | positive h =>
    have hscan : scanInteger (integer ++ rest) = scanNatural (integer ++ rest) := by
      cases integer with
      | nil => exact absurd rfl h.nonempty
      | cons c digits =>
        have hc : c ≠ '-' := by
          rintro rfl
          exact absurd (h.digit _ List.mem_cons_self) (by decide)
        rw [List.cons_append, scanInteger]
        exact fun _ heq => absurd (List.cons.inj heq).1 hc
    rw [hscan, h.scan hrest]
  | negative h =>
    rw [List.cons_append, scanInteger, h.scan hrest]
    rfl

theorem toDigits_isNatural (n : Nat) : IsNatural (Nat.toDigits 10 n) where
  nonempty := Nat.toDigits_ne_nil
  digit c hc := Nat.isDigit_of_mem_toDigits (by omega) (by omega) hc
  zero h := by
    induction n using Nat.strongRecOn with
    | ind n ih =>
      by_cases hn : n < 10
      · rw [Nat.toDigits_of_lt_base hn] at h ⊢
        simpa using h
      · -- the first digit is that of the number without its last digit, which is not zero
        rw [Nat.toDigits_of_base_le (by omega) (by omega), List.head?_append_of_ne_nil _
          Nat.toDigits_ne_nil] at h
        have hshort := ih (n / 10) (by omega) h
        have hvalue := @Nat.ofDigitChars_ten_toDigits (n / 10)
        rw [hshort] at hvalue
        have hzero : n / 10 = 0 := by rw [← hvalue]; decide
        omega

theorem ofInt_isInteger (n : Int) : IsInteger (ofInt n) := by
  unfold ofInt
  split
  · exact .negative (toDigits_isNatural _)
  · exact .positive (toDigits_isNatural _)

/-- `int` takes the text back. -/
theorem readInteger_ofInt {n : Int} (h : (Nat.toDigits 10 n.natAbs).length ≤ maxDigits) :
    readInteger (ofInt n) = some n := by
  unfold ofInt
  split
  · rename_i hneg
    rw [readInteger, if_pos h, Nat.ofDigitChars_ten_toDigits]
    congr 1
    omega
  · rename_i hpos
    have hsign : ∀ digits, Nat.toDigits 10 n.natAbs ≠ '-' :: digits := by
      intro digits hdigits
      have hmem := (toDigits_isNatural n.natAbs).digit '-' (by rw [hdigits]; exact List.mem_cons_self)
      exact absurd hmem (by decide)
    rw [readInteger.eq_2 _ hsign, if_pos h, Nat.ofDigitChars_ten_toDigits]
    congr 1
    omega

theorem scanFraction_delimits {rest : Text} (h : Delimits rest) : scanFraction rest = ([], rest) := by
  cases rest with
  | nil => rfl
  | cons c rest =>
    rw [scanFraction]
    exact fun _ heq => (h c rfl).2.1 (List.cons.inj heq).1

theorem scanExponent_delimits {rest : Text} (h : Delimits rest) : scanExponent rest = ([], rest) := by
  cases rest with
  | nil => rfl
  | cons c rest =>
    rw [scanExponent, if_neg]
    rintro ⟨he | hE, -⟩
    · exact (h c rfl).2.2.1 he
    · exact (h c rfl).2.2.2 hE

theorem scanNumber_ofInt (ft : FloatText) {n : Int}
    (h : (Nat.toDigits 10 n.natAbs).length ≤ maxDigits) {rest : Text} (hrest : Delimits rest) :
    scanNumber ft (ofInt n ++ rest) = some (.int n, rest) := by
  rw [scanNumber, (ofInt_isInteger n).scan fun c hc => (hrest c hc).1, Option.bind_some]
  simp only [scanFraction_delimits hrest, scanExponent_delimits hrest, and_self, if_true,
    readInteger_ofInt h]
  rfl

/-- The fraction of a number, if there is one. -/
inductive IsFraction : Text → Prop
  | absent : IsFraction []
  | present {digits : Text} (nonempty : digits ≠ []) (digit : ∀ c ∈ digits, c.isDigit = true) :
      IsFraction ('.' :: digits)

/-- The exponent of a number, if there is one. -/
inductive IsExponent : Text → Prop
  | absent : IsExponent []
  | present {c : Char} {sign digits : Text} (letter : c = 'e' ∨ c = 'E')
      (hsign : sign = [] ∨ sign = ['+'] ∨ sign = ['-']) (nonempty : digits ≠ [])
      (digit : ∀ c ∈ digits, c.isDigit = true) : IsExponent (c :: (sign ++ digits))

theorem IsFraction.scan {fraction rest : Text} (h : IsFraction fraction)
    (hrest : ∀ c, rest.head? = some c → c.isDigit = false ∧ c ≠ '.') :
    scanFraction (fraction ++ rest) = (fraction, rest) := by
  cases h with
  | absent =>
    cases rest with
    | nil => rfl
    | cons c rest =>
      rw [List.nil_append, scanFraction]
      exact fun _ heq => (hrest c rfl).2 (List.cons.inj heq).1
  | present nonempty digit =>
    rw [List.cons_append, scanFraction, scanDigits_append digit fun c hc => (hrest c hc).1,
      if_neg nonempty]

theorem scanSign_append {sign digits rest : Text} (hsign : sign = [] ∨ sign = ['+'] ∨ sign = ['-'])
    (nonempty : digits ≠ []) (digit : ∀ c ∈ digits, c.isDigit = true) :
    scanSign (sign ++ digits ++ rest) = (sign, digits ++ rest) := by
  cases digits with
  | nil => exact absurd rfl nonempty
  | cons c digits =>
    have hdigit := digit c List.mem_cons_self
    rcases hsign with rfl | rfl | rfl
    · rw [List.nil_append, List.cons_append, scanSign]
      · rintro _ heq
        obtain rfl := (List.cons.inj heq).1
        exact absurd hdigit (by decide)
      · rintro _ heq
        obtain rfl := (List.cons.inj heq).1
        exact absurd hdigit (by decide)
    · rfl
    · rfl

theorem IsExponent.scan {exponent rest : Text} (h : IsExponent exponent) (hrest : Delimits rest) :
    scanExponent (exponent ++ rest) = (exponent, rest) := by
  cases h with
  | absent => exact scanExponent_delimits hrest
  | present letter hsign nonempty digit =>
    rw [List.cons_append, scanExponent, scanSign_append hsign nonempty digit,
      scanDigits_append digit fun c hc => (hrest c hc).1, if_pos ⟨letter, nonempty⟩]

/-- Nothing in an exponent, or behind it, continues an integer or a fraction. -/
theorem IsExponent.head {exponent rest : Text} (h : IsExponent exponent) (hrest : Delimits rest)
    (c : Char) (hc : (exponent ++ rest).head? = some c) : c.isDigit = false ∧ c ≠ '.' := by
  cases h with
  | absent => exact ⟨(hrest c hc).1, (hrest c hc).2.1⟩
  | present letter hsign nonempty digit =>
    obtain rfl := Option.some.inj hc
    rcases letter with rfl | rfl
    · exact ⟨by decide, by decide⟩
    · exact ⟨by decide, by decide⟩

/-- Nothing in a fraction, or behind it, continues an integer. -/
theorem IsFraction.head {fraction rest : Text} (h : IsFraction fraction)
    (hrest : ∀ c, rest.head? = some c → c.isDigit = false ∧ c ≠ '.') (c : Char)
    (hc : (fraction ++ rest).head? = some c) : c.isDigit = false := by
  cases h with
  | absent => exact (hrest c hc).1
  | present nonempty digit =>
    obtain rfl := Option.some.inj hc
    decide

/-- A floating-point number is taken back from its text, which has a fraction or an exponent. -/
structure FloatText.Exact (ft : FloatText) (significand exponent : Int) : Prop where
  read : ft.parse (ft.repr significand exponent) = .finite significand exponent
  form : ∃ integer fraction power, ft.repr significand exponent = integer ++ fraction ++ power ∧
    IsInteger integer ∧ IsFraction fraction ∧ IsExponent power ∧ (fraction ≠ [] ∨ power ≠ [])

theorem scanNumber_repr {ft : FloatText} {significand exponent : Int}
    (h : ft.Exact significand exponent) {rest : Text} (hrest : Delimits rest) :
    scanNumber ft (ft.repr significand exponent ++ rest) =
      some (.float (.finite significand exponent), rest) := by
  obtain ⟨integer, fraction, power, htext, hinteger, hfraction, hpower, hsome⟩ := h.form
  have hbehind := hpower.head hrest
  have hsplit : ft.repr significand exponent ++ rest = integer ++ (fraction ++ (power ++ rest)) := by
    rw [htext]
    simp
  rw [hsplit, scanNumber, hinteger.scan (hfraction.head hbehind), Option.bind_some]
  simp only [hfraction.scan hbehind, hpower.scan hrest]
  rw [if_neg fun hnone => hsome.elim (fun hne => hne hnone.1) fun hne => hne hnone.2, ← htext, h.read]

theorem IsInteger.ne_nil {integer : Text} (h : IsInteger integer) : integer ≠ [] := by
  cases h with
  | positive h => exact h.nonempty
  | negative h => exact List.cons_ne_nil _ _

/-! ## Words -/

@[simp]
theorem behind_append (word rest : Text) : behind word (word ++ rest) = some rest := by
  rw [behind, if_pos (List.isPrefixOf_iff_prefix.mpr (List.prefix_append _ _)), List.drop_left]

theorem behind_eq_none (word : Text) {t : Text} {c : Char} (hword : word.head? = some c)
    (h : t.head? ≠ some c) : behind word t = none := by
  rw [behind, if_neg]
  intro hprefix
  obtain ⟨rest, rfl⟩ := List.isPrefixOf_iff_prefix.mp hprefix
  cases word with
  | nil => exact absurd hword (by simp)
  | cons d word => exact h (by simpa using hword)

/-- The front of a number, by which it is told from the words. -/
def NumberHead : Text → Prop
  | '-' :: c :: _ => c.isDigit = true
  | c :: _ => c.isDigit = true
  | [] => False

theorem IsNatural.numberHead {digits : Text} (h : IsNatural digits) (rest : Text) :
    NumberHead (digits ++ rest) ∧ NumberHead ('-' :: (digits ++ rest)) := by
  cases digits with
  | nil => exact absurd rfl h.nonempty
  | cons c digits =>
    have hdigit := h.digit c List.mem_cons_self
    refine ⟨?_, hdigit⟩
    rw [List.cons_append, NumberHead.eq_2]
    · exact hdigit
    · rintro _ _ rfl
      exact absurd hdigit (by decide)

theorem IsInteger.numberHead {integer : Text} (h : IsInteger integer) (rest : Text) :
    NumberHead (integer ++ rest) := by
  cases h with
  | positive h => exact (h.numberHead rest).1
  | negative h => exact (h.numberHead rest).2

theorem FloatText.Exact.ne_nil {ft : FloatText} {significand exponent : Int}
    (h : ft.Exact significand exponent) : ft.repr significand exponent ≠ [] := by
  obtain ⟨integer, fraction, power, htext, hinteger, -⟩ := h.form
  simp [htext, hinteger.ne_nil]

theorem FloatText.Exact.numberHead {ft : FloatText} {significand exponent : Int}
    (h : ft.Exact significand exponent) (rest : Text) :
    NumberHead (ft.repr significand exponent ++ rest) := by
  obtain ⟨integer, fraction, power, htext, hinteger, -⟩ := h.form
  rw [htext, List.append_assoc, List.append_assoc]
  exact hinteger.numberHead _

theorem NumberHead.head_ne {t : Text} (h : NumberHead t) {c : Char} (hdigit : c.isDigit = false)
    (hminus : c ≠ '-') : t.head? ≠ some c := by
  intro hhead
  cases t with
  | nil => exact h
  | cons d t =>
    obtain rfl : d = c := by simpa using hhead
    rw [NumberHead.eq_2 _ _ fun _ _ heq _ => hminus heq, hdigit] at h
    exact absurd h (by decide)

theorem scanPlain_number (ft : FloatText) {t : Text} (h : NumberHead t) :
    scanPlain ft t = scanNumber ft t := by
  have hnegative : behind "-Infinity" t = none := by
    rw [behind, if_neg]
    intro hprefix
    obtain ⟨rest, rfl⟩ := List.isPrefixOf_iff_prefix.mp hprefix
    have hdigit : 'I'.isDigit = true := h
    exact absurd hdigit (by decide)
  unfold scanPlain
  simp only [behind_eq_none "null" rfl (h.head_ne (by decide) (by decide)),
    behind_eq_none "true" rfl (h.head_ne (by decide) (by decide)),
    behind_eq_none "false" rfl (h.head_ne (by decide) (by decide)),
    behind_eq_none "NaN" rfl (h.head_ne (by decide) (by decide)),
    behind_eq_none "Infinity" rfl (h.head_ne (by decide) (by decide)), hnegative]

end StorageNode.Json
