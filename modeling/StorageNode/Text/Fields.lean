import StorageNode.Text.Basic

/-!
# Fields and lines of a text

`str.split()` without a separator, `str.partition`, `str.replace` and the reading of a file line by
line, where a carriage return ends a line as well (`universalNewlines`).

A text that is written field by field is read back by these methods when its fields are words: a word
is not empty and holds no white space (`IsWord`). `replaceAll_flatMap` is the rule for a text in which
single characters stand for escape sequences: to replace one sequence is to decode one character.
-/

set_option autoImplicit false

namespace StorageNode

namespace Text

/-! ## Words -/

/-- `str.split()`. -/
def words (t : Text) : List Text :=
  (t.splitOnP isSpace).filter (· ≠ [])

/-- A text that `str.split()` does not take apart. -/
def IsWord (t : Text) : Prop :=
  t ≠ [] ∧ ∀ c ∈ t, isSpace c = false

instance (t : Text) : Decidable (IsWord t) :=
  decidable_of_iff (t ≠ [] ∧ t.all (fun c => !isSpace c) = true) (by simp [IsWord])

theorem words_of_isWord {w : Text} (h : IsWord w) : words w = [w] := by
  rw [words, List.splitOnP_eq_singleton h.2]
  exact List.filter_cons_of_pos (decide_eq_true h.1)

/-- White space between two texts separates their words. -/
theorem words_append_cons {c : Char} (hc : isSpace c = true) (s t : Text) :
    words (s ++ c :: t) = words s ++ words t := by
  rw [words, List.splitOnP_append_cons s t hc, List.filter_append]
  rfl

/-- Every part of a split text is a word. -/
theorem isWord_of_mem_words {t w : Text} (h : w ∈ words t) : IsWord w := by
  obtain ⟨hsplit, hne⟩ := List.mem_filter.mp h
  refine ⟨of_decide_eq_true hne, ?_⟩
  clear h hne
  -- a piece gains a character only when the character is no separator
  induction t generalizing w with
  | nil =>
    obtain rfl : w = [] := by simpa using hsplit
    exact fun c hc => absurd hc List.not_mem_nil
  | cons x t ih =>
    rw [List.splitOnP_cons_eq_if_modifyHead] at hsplit
    split at hsplit
    · obtain rfl | hsplit := List.mem_cons.mp hsplit
      · exact fun c hc => absurd hc List.not_mem_nil
      · exact ih hsplit
    · rename_i hx
      cases hpieces : t.splitOnP isSpace with
      | nil => exact absurd hpieces (List.splitOnP_ne_nil _ _)
      | cons first rest =>
        rw [hpieces] at hsplit ih
        obtain rfl | hsplit := List.mem_cons.mp hsplit
        · intro c hc
          obtain rfl | hc := List.mem_cons.mp hc
          · simpa using hx
          · exact ih List.mem_cons_self c hc
        · exact ih (List.mem_cons_of_mem _ hsplit)

/-- Words joined by single spaces are read back. -/
theorem words_intercalate {ws : List Text} (h : ∀ w ∈ ws, IsWord w) :
    words ([' '].intercalate ws) = ws := by
  induction ws with
  | nil => rfl
  | cons w ws ih =>
    have hw := words_of_isWord (h w List.mem_cons_self)
    have htail := ih fun v hv => h v (List.mem_cons_of_mem _ hv)
    cases ws with
    | nil => simpa using hw
    | cons v vs =>
      rw [List.intercalate_cons_cons, List.append_assoc, List.singleton_append,
        words_append_cons rfl, hw, htail]
      rfl

theorem strip_of_isWord {w : Text} (h : IsWord w) : strip w = w := by
  have hdrop : w.dropWhile isSpace = w := by
    match w, h with
    | c :: rest, h => exact List.dropWhile_cons_of_neg (by simp [h.2 c List.mem_cons_self])
  rw [strip, hdrop, List.rdropWhile_eq_self_iff]
  intro hne
  simp [h.2 _ (List.getLast_mem hne)]

/-! ## Partition -/

/-- `str.partition`, where the separator occurs. -/
def partition (separator : Text) : Text → Option (Text × Text)
  | [] => if separator = [] then some ([], []) else none
  | c :: rest =>
    if separator.isPrefixOf (c :: rest) then some ([], (c :: rest).drop separator.length)
    else (partition separator rest).map fun parts => (c :: parts.1, parts.2)

/-- The separator is not found where its first character does not occur. -/
theorem partition_append {first : Char} {separator s : Text} (h : first ∉ s) (t : Text) :
    partition (first :: separator) (s ++ t) =
      (partition (first :: separator) t).map fun parts => (s ++ parts.1, parts.2) := by
  induction s with
  | nil => simp
  | cons c s ih =>
    have hc : first ≠ c := fun heq => h (heq ▸ List.mem_cons_self)
    have hno : (first :: separator).isPrefixOf (c :: (s ++ t)) = false := by
      simp [List.isPrefixOf, hc]
    rw [List.cons_append, partition, hno, ih fun hmem => h (List.mem_cons_of_mem c hmem)]
    cases partition (first :: separator) t <;> rfl

/-- A word other than a dash does not begin with a dash and a space. -/
theorem not_dash_of_isWord {w : Text} (hw : IsWord w) (hdash : w ≠ ['-']) (t : Text) :
    List.isPrefixOf ['-', ' '] (w ++ ' ' :: t) = false := by
  match w, hw, hdash with
  | [], hw, _ => exact absurd rfl hw.1
  | [c], _, hdash =>
    have hc : '-' ≠ c := fun heq => hdash (by rw [← heq])
    simp [List.isPrefixOf, hc]
  | c :: d :: w, hw, _ =>
    have hd : ' ' ≠ d := by
      rintro rfl
      exact absurd (hw.2 ' ' (by simp)) (by decide)
    simp [List.isPrefixOf, hd]

/-- Fields up to the first one that is a dash. -/
theorem partition_dash {ws : List Text} (hne : ws ≠ []) (hwords : ∀ w ∈ ws, IsWord w)
    (hdash : ∀ w ∈ ws, w ≠ ['-']) (right : Text) :
    partition [' ', '-', ' '] ([' '].intercalate ws ++ ' ' :: '-' :: ' ' :: right) =
      some ([' '].intercalate ws, right) := by
  induction ws with
  | nil => exact absurd rfl hne
  | cons w ws ih =>
    have hspace : ' ' ∉ w := fun hmem =>
      absurd ((hwords w List.mem_cons_self).2 ' ' hmem) (by decide)
    cases ws with
    | nil =>
      rw [List.intercalate_singleton, partition_append hspace]
      simp [partition, List.isPrefixOf]
    | cons v vs =>
      have hv := not_dash_of_isWord (hwords v (by simp)) (hdash v (by simp))
      -- the space after the first field is not the separator, as no dash follows it
      have hno : ∀ t, List.isPrefixOf [' ', '-', ' '] (' ' :: ([' '].intercalate (v :: vs) ++
          ' ' :: t)) = false := by
        intro t
        cases vs with
        | nil =>
          rw [List.intercalate_singleton]
          exact hv t
        | cons u us =>
          rw [List.intercalate_cons_cons, List.append_assoc, List.append_assoc]
          exact hv _
      rw [List.intercalate_cons_cons, List.append_assoc, List.append_assoc, List.singleton_append,
        partition_append hspace, partition, hno,
        ih (List.cons_ne_nil _ _) (fun u hu => hwords u (List.mem_cons_of_mem _ hu))
          (fun u hu => hdash u (List.mem_cons_of_mem _ hu))]
      simp

/-- A field that is a dash looks like the separator. -/
theorem intercalate_append_dash {front : List Text} (hne : front ≠ []) (post : List Text)
    (t : Text) : ∃ rest, [' '].intercalate (front ++ ['-'] :: post) ++ ' ' :: t =
      [' '].intercalate front ++ ' ' :: '-' :: ' ' :: rest := by
  induction front with
  | nil => exact absurd rfl hne
  | cons w front ih =>
    cases front with
    | nil =>
      cases post with
      | nil => exact ⟨t, by simp [List.intercalate_cons_cons]⟩
      | cons v vs =>
        exact ⟨[' '].intercalate (v :: vs) ++ ' ' :: t, by simp [List.intercalate_cons_cons]⟩
    | cons v vs =>
      obtain ⟨rest, hrest⟩ := ih (List.cons_ne_nil _ _)
      refine ⟨rest, ?_⟩
      rw [List.cons_append, List.cons_append, List.intercalate_cons_cons, List.append_assoc,
        ← List.cons_append, hrest, List.intercalate_cons_cons]
      simp only [List.append_assoc]

/-! ## Replacing -/

/-- `str.replace` past a number of characters that belong to an occurrence. -/
def replaceFrom (old new : Text) : Nat → Text → Text
  | _, [] => []
  | skip + 1, _ :: rest => replaceFrom old new skip rest
  | 0, c :: rest =>
    if old.isPrefixOf (c :: rest) then new ++ replaceFrom old new (old.length - 1) rest
    else c :: replaceFrom old new 0 rest

/-- `str.replace`, for a text that is not empty. -/
def replaceAll (old new t : Text) : Text :=
  replaceFrom old new 0 t

theorem replaceFrom_length (old new s t : Text) :
    replaceFrom old new s.length (s ++ t) = replaceFrom old new 0 t := by
  induction s with
  | nil => rfl
  | cons c s ih => exact ih

/-- Where the first character does not occur, nothing is replaced. -/
theorem replaceFrom_append {mark : Char} {code new s : Text} (h : mark ∉ s) (t : Text) :
    replaceFrom (mark :: code) new 0 (s ++ t) = s ++ replaceFrom (mark :: code) new 0 t := by
  induction s with
  | nil => rfl
  | cons c s ih =>
    have hc : mark ≠ c := fun heq => h (heq ▸ List.mem_cons_self)
    have hno : (mark :: code).isPrefixOf (c :: (s ++ t)) = false := by simp [List.isPrefixOf, hc]
    rw [List.cons_append, replaceFrom, hno, ih fun hmem => h (List.mem_cons_of_mem c hmem)]
    rfl

/-- What replaces a text is kept, so that no text vanishes. -/
theorem replaceAll_ne_nil {old new t : Text} (hnew : new ≠ []) (ht : t ≠ []) :
    replaceAll old new t ≠ [] := by
  cases t with
  | nil => exact absurd rfl ht
  | cons c rest =>
    rw [replaceAll, replaceFrom]
    split
    · exact fun h => hnew (List.append_eq_nil_iff.mp h).1
    · exact List.cons_ne_nil _ _

/-- After a replacement, a text holds what it held before and what was put in. -/
theorem mem_replaceFrom {old new : Text} {c : Char} {skip : Nat} {t : Text}
    (h : c ∈ replaceFrom old new skip t) : c ∈ new ∨ c ∈ t := by
  induction t generalizing skip with
  | nil => exact absurd h (by simp [replaceFrom])
  | cons d rest ih =>
    cases skip with
    | succ skip => exact (ih h).imp_right (List.mem_cons_of_mem d)
    | zero =>
      rw [replaceFrom] at h
      split at h
      · obtain hnew | hrest := List.mem_append.mp h
        · exact .inl hnew
        · exact (ih hrest).imp_right (List.mem_cons_of_mem d)
      · obtain rfl | hrest := List.mem_cons.mp h
        · exact .inr List.mem_cons_self
        · exact (ih hrest).imp_right (List.mem_cons_of_mem d)

/-- A character as it is written where escape sequences begin with a mark and have a fixed length: it
stands for itself, or for a sequence. -/
inductive Escaped (mark : Char) (length : Nat) : Text → Prop where
  | plain {c : Char} : c ≠ mark → Escaped mark length [c]
  | escape {digits : Text} : digits.length = length → mark ∉ digits →
      Escaped mark length (mark :: digits)

/-- To replace one sequence is to decode the characters that it stands for. -/
theorem replaceAll_flatMap {mark : Char} {code new : Text} {enc : Char → Text} (s : Text)
    (h : ∀ c, Escaped mark code.length (enc c)) :
    replaceAll (mark :: code) new (s.flatMap enc) =
      s.flatMap fun c => if enc c = mark :: code then new else enc c := by
  rw [replaceAll]
  induction s with
  | nil => rfl
  | cons c s ih =>
    rw [List.flatMap_cons, List.flatMap_cons, ← ih]
    generalize s.flatMap enc = rest
    have hescaped := h c
    generalize enc c = w at hescaped
    cases hescaped with
    | plain hmark =>
      rw [replaceFrom_append (by simpa using hmark.symm), if_neg]
      intro heq
      injection heq with hc
      exact hmark hc
    | @escape digits hlength hdigits =>
      rw [List.cons_append, replaceFrom]
      -- the sequences have one length, so another one is not mistaken for this one
      by_cases hcode : digits = code
      · subst hcode
        have hyes : (mark :: digits).isPrefixOf (mark :: (digits ++ rest)) = true := by
          rw [List.isPrefixOf_iff_prefix]
          exact ⟨rest, rfl⟩
        rw [if_pos hyes, if_pos rfl]
        exact congrArg _ (replaceFrom_length _ _ digits rest)
      · have hno : ¬ (mark :: code).isPrefixOf (mark :: (digits ++ rest)) = true := by
          rw [List.isPrefixOf_iff_prefix]
          rintro ⟨tail, htail⟩
          injection htail with _ htail
          exact hcode (List.append_inj_left htail hlength.symm).symm
        rw [if_neg hno, if_neg (by simpa using hcode), replaceFrom_append hdigits]
        rfl

/-! ## Lines -/

/-- Reading a file as text turns a carriage return, and one before a line feed, into a line feed. -/
def universalNewlines : Text → Text
  | [] => []
  | c :: rest =>
    if c = '\r' then
      if rest.head? = some '\n' then universalNewlines rest else '\n' :: universalNewlines rest
    else c :: universalNewlines rest

theorem universalNewlines_of_not_mem {t : Text} (h : '\r' ∉ t) : universalNewlines t = t := by
  induction t with
  | nil => rfl
  | cons c rest ih =>
    have hc : c ≠ '\r' := fun heq => h (heq ▸ List.mem_cons_self)
    rw [universalNewlines, if_neg hc, ih fun hmem => h (List.mem_cons_of_mem c hmem)]

/-- A line ends at its line feed. -/
theorem splitLines_append {line : Text} (h : '\n' ∉ line) (t : Text) :
    splitLines (line ++ '\n' :: t) = (line ++ ['\n']) :: splitLines t := by
  induction line with
  | nil => rfl
  | cons c line ih =>
    have hc : c ≠ '\n' := fun heq => h (heq ▸ List.mem_cons_self)
    rw [List.cons_append, splitLines, if_neg hc, ih fun hmem => h (List.mem_cons_of_mem c hmem)]
    rfl

/-- Lines without line feeds, each ended by one, are read back. -/
theorem splitLines_flatMap {lines : List Text} (h : ∀ line ∈ lines, '\n' ∉ line) :
    splitLines (lines.flatMap (· ++ ['\n'])) = lines.map (· ++ ['\n']) := by
  induction lines with
  | nil => rfl
  | cons line lines ih =>
    rw [List.flatMap_cons, List.append_assoc, List.singleton_append,
      splitLines_append (h line List.mem_cons_self),
      ih fun other hother => h other (List.mem_cons_of_mem _ hother)]
    rfl

/-! ## Lines at Unicode boundaries -/

/-- The characters that end a line for `str.splitlines`. -/
def isLineBoundary (c : Char) : Bool :=
  c.toNat ∈ [0x0A, 0x0B, 0x0C, 0x0D, 0x1C, 0x1D, 0x1E, 0x85, 0x2028, 0x2029]

/-- Every boundary is white space. -/
theorem isSpace_of_isLineBoundary {c : Char} (h : isLineBoundary c = true) : isSpace c = true := by
  simp only [isLineBoundary, List.mem_cons, List.not_mem_nil, or_false, decide_eq_true_eq] at h
  rw [isSpace]
  obtain h | h | h | h | h | h | h | h | h | h := h <;> rw [h] <;> decide

/-- `str.splitlines`. -/
def unicodeLines : Text → List Text
  | [] => []
  | c :: rest =>
    if isLineBoundary c then
      -- a carriage return and the line feed after it are one boundary
      if c = '\r' ∧ rest.head? = some '\n' then unicodeLines rest else [] :: unicodeLines rest
    else match unicodeLines rest with
      | [] => [[c]]
      | line :: lines => (c :: line) :: lines

/-- A line holds no boundary. -/
theorem not_boundary_of_mem_unicodeLines {t line : Text} (h : line ∈ unicodeLines t) {c : Char}
    (hc : c ∈ line) : isLineBoundary c = false := by
  induction t generalizing line with
  | nil => exact absurd h List.not_mem_nil
  | cons d rest ih =>
    rw [unicodeLines] at h
    split at h
    · split at h
      · exact ih h hc
      · obtain rfl | h := List.mem_cons.mp h
        · exact absurd hc List.not_mem_nil
        · exact ih h hc
    · rename_i hd
      cases hlines : unicodeLines rest with
      | nil =>
        rw [hlines] at h
        obtain rfl := List.mem_singleton.mp h
        obtain rfl := List.mem_singleton.mp hc
        simpa using hd
      | cons first lines =>
        rw [hlines] at h ih
        obtain rfl | h := List.mem_cons.mp h
        · obtain rfl | hc := List.mem_cons.mp hc
          · simpa using hd
          · exact ih List.mem_cons_self hc
        · exact ih (List.mem_cons_of_mem _ h) hc

/-- The lines of a text hold its characters. -/
theorem mem_of_mem_unicodeLines {t line : Text} (h : line ∈ unicodeLines t) {c : Char}
    (hc : c ∈ line) : c ∈ t := by
  induction t generalizing line with
  | nil => exact absurd h List.not_mem_nil
  | cons d rest ih =>
    rw [unicodeLines] at h
    split at h
    · split at h
      · exact List.mem_cons_of_mem d (ih h hc)
      · obtain rfl | h := List.mem_cons.mp h
        · exact absurd hc List.not_mem_nil
        · exact List.mem_cons_of_mem d (ih h hc)
    · cases hlines : unicodeLines rest with
      | nil =>
        rw [hlines] at h
        obtain rfl := List.mem_singleton.mp h
        obtain rfl := List.mem_singleton.mp hc
        exact List.mem_cons_self
      | cons first lines =>
        rw [hlines] at h ih
        obtain rfl | h := List.mem_cons.mp h
        · obtain rfl | hc := List.mem_cons.mp hc
          · exact List.mem_cons_self
          · exact List.mem_cons_of_mem d (ih List.mem_cons_self hc)
        · exact List.mem_cons_of_mem d (ih (List.mem_cons_of_mem _ h) hc)

theorem unicodeLines_of_not_boundary {t : Text} (hne : t ≠ [])
    (h : ∀ c ∈ t, isLineBoundary c = false) : unicodeLines t = [t] := by
  induction t with
  | nil => exact absurd rfl hne
  | cons c rest ih =>
    rw [unicodeLines, if_neg (by simp [h c List.mem_cons_self])]
    by_cases hrest : rest = []
    · subst hrest
      rfl
    · rw [ih hrest fun d hd => h d (List.mem_cons_of_mem c hd)]

theorem unicodeLines_ne_nil {t : Text} (h : t ≠ []) : unicodeLines t ≠ [] := by
  induction t with
  | nil => exact absurd rfl h
  | cons c rest ih =>
    rw [unicodeLines]
    split
    · split
      · rename_i hpair
        apply ih
        rintro rfl
        cases hpair.2
      · exact List.cons_ne_nil _ _
    · cases unicodeLines rest with
      | nil => exact List.cons_ne_nil _ _
      | cons line lines => exact List.cons_ne_nil _ _

/-- A line feed at the end of a text ends its last line, or adds an empty one. -/
theorem unicodeLines_concat (t : Text) : unicodeLines (t ++ ['\n']) = unicodeLines t ∨
    unicodeLines (t ++ ['\n']) = unicodeLines t ++ [[]] := by
  induction t with
  | nil => exact .inr rfl
  | cons c rest ih =>
    rw [List.cons_append, unicodeLines, unicodeLines]
    by_cases hc : isLineBoundary c
    · rw [if_pos hc, if_pos hc]
      by_cases hrest : rest = []
      · subst hrest
        by_cases hreturn : c = '\r'
        · exact .inl (by simp [hreturn, unicodeLines, isLineBoundary])
        · exact .inr (by simp [hreturn, unicodeLines, isLineBoundary])
      · rw [List.head?_append_of_ne_nil _ hrest]
        split
        · exact ih
        · exact ih.imp (congrArg _) (congrArg _)
    · rw [if_neg hc, if_neg hc]
      cases hlines : unicodeLines rest with
      | nil =>
        rw [hlines] at ih
        obtain ih | ih := ih <;> rw [ih] <;> exact .inl rfl
      | cons line lines =>
        rw [hlines] at ih
        obtain ih | ih := ih
        · rw [ih]
          exact .inl rfl
        · rw [ih]
          exact .inr rfl

/-- What follows a line feed is split on its own. -/
theorem unicodeLines_append (s t : Text) :
    unicodeLines (s ++ '\n' :: t) = unicodeLines (s ++ ['\n']) ++ unicodeLines t := by
  induction s with
  | nil => rfl
  | cons c s ih =>
    have hhead : (s ++ '\n' :: t).head? = (s ++ ['\n']).head? := by cases s <;> rfl
    rw [List.cons_append, List.cons_append, unicodeLines, unicodeLines, hhead, ih]
    split
    · split
      · rfl
      · rfl
    · cases hlines : unicodeLines (s ++ ['\n']) with
      | nil => exact absurd hlines (unicodeLines_ne_nil (by simp))
      | cons line lines => rfl

end Text

end StorageNode
