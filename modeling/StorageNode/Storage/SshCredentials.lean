import StorageNode.Text.Fields

/-!
# Password credentials of an SSHFS route

`read_password_credentials` of `ssh_credentials`. The file has the form that `mount.cifs` reads. The
reader cuts it into lines at every Unicode boundary and strips a line before it takes the value out, so
that a password with such a boundary in it, or with white space at its end, is not returned as it stands
in the file.
-/

set_option autoImplicit false

namespace StorageNode.SshCredentials

open StorageNode.Text

/-- `PasswordCredentials`. -/
structure PasswordCredentials where
  username : Text
  password : Text
  deriving DecidableEq

/-! ## Reading -/

section

variable (mapping : CaseMapping)

/-- What one line sets: blank lines, comments and lines without `=` set nothing. -/
def assignment (rawLine : Text) : Option (Text × Text) :=
  let line := strip rawLine
  if line = [] ∨ line.head? = some '#' then none
  else if '=' ∈ line then some (mapping.lower (strip (before '=' line)), past '=' line)
  else none

/-- `values.get(key, "")`; of two lines with one key, the later one counts. -/
def getValue (values : List (Text × Text)) (key : Text) : Text :=
  ((values.reverse.find? fun v => v.1 = key).map Prod.snd).getD []

/-- The checks on the two values. -/
def checkCredentials (path username password : Text) : Except Text PasswordCredentials :=
  if username = [] then
    .error ("SSH password credentials file is missing username: ".toList ++ path)
  else if password = [] then
    .error ("SSH password credentials file is missing password: ".toList ++ path)
  else if ['\n', '\r', Char.ofNat 0, '@', ':'].any (· ∈ username) then
    .error "SSH password username contains invalid characters".toList
  else if ['\n', '\r', Char.ofNat 0].any (· ∈ password) then
    .error "SSH password contains invalid control characters".toList
  else .ok ⟨username, password⟩

/-- The lines of a file that `read_text` and `splitlines` give. -/
def fileLines (content : Text) : List Text :=
  unicodeLines (universalNewlines content)

/-- `read_password_credentials`, for a file with this content; `none` when it cannot be read. -/
def readPasswordCredentials (path : Text) (content : Option Text) : Except Text PasswordCredentials :=
  match content with
  | none => .error ("unable to read SSH password credentials file: ".toList ++ path)
  | some content =>
    let values := (fileLines content).filterMap (assignment mapping)
    checkCredentials path (strip (getValue values "username".toList))
      (getValue values "password".toList)

end

/-! ## Values that survive the reading -/

/-- A value that the reader returns as it stands in the file. -/
structure Clean (value : Text) : Prop where
  boundary : ∀ c ∈ value, isLineBoundary c = false
  last : ∀ c, value.getLast? = some c → isSpace c = false

theorem strip_of_ends {t : Text} (hhead : ∀ c, t.head? = some c → isSpace c = false)
    (hlast : ∀ c, t.getLast? = some c → isSpace c = false) : strip t = t := by
  have hdrop : t.dropWhile isSpace = t := by
    cases t with
    | nil => rfl
    | cons c rest => exact List.dropWhile_cons_of_neg (by simp [hhead c rfl])
  rw [strip, hdrop, List.rdropWhile_eq_self_iff]
  intro hne
  simp [hlast _ (List.getLast?_eq_some_getLast hne)]

/-- A stripped text does not end in white space. -/
theorem last_strip {t : Text} {c : Char} (h : (strip t).getLast? = some c) : isSpace c = false := by
  have hne : strip t ≠ [] := by
    intro hnil
    rw [hnil] at h
    cases h
  rw [← (List.getLast_eq_iff_getLast?_eq_some hne).mpr h]
  exact Bool.eq_false_iff.mpr (List.rdropWhile_last_not _ _ hne)

variable {mapping : CaseMapping}

/-- Whatever a line of a file sets is clean. -/
theorem clean_of_assignment {content line key value : Text} (hline : line ∈ fileLines content)
    (h : assignment mapping line = some (key, value)) : Clean value := by
  have hsuffix : value <:+ strip line := by
    rw [assignment] at h
    split at h
    · cases h
    split at h
    · injection h with h
      injection h with _ h
      rw [← h]
      exact (List.drop_suffix 1 _).trans (List.dropWhile_suffix _)
    · cases h
  constructor
  · intro c hc
    apply not_boundary_of_mem_unicodeLines hline
    have hsub : c ∈ line.dropWhile isSpace := 
      (List.rdropWhile_prefix _ _).subset (hsuffix.subset hc)
    exact (List.dropWhile_suffix _).subset hsub
  · intro c hc
    obtain ⟨front, hfront⟩ := hsuffix
    apply last_strip (t := line)
    rw [← hfront, List.getLast?_append, hc]
    rfl

/-- A key and a clean value on one line. -/
theorem assignment_keyLine (mapping : CaseMapping) {key value : Text} (hkey : IsWord key) (hequals : '=' ∉ key)
    (hcomment : key.head? ≠ some '#') (hvalue : value ≠ []) (h : Clean value) :
    unicodeLines (key ++ '=' :: value) = [key ++ '=' :: value] ∧
      assignment mapping (key ++ '=' :: value) = some (mapping.lower key, value) := by
  have hhead : (key ++ '=' :: value).head? = key.head? := List.head?_append_of_ne_nil _ hkey.1
  have hlast : (key ++ '=' :: value).getLast? = value.getLast? := by
    rw [List.getLast?_append_of_ne_nil _ (List.cons_ne_nil _ _), List.getLast?_cons_of_ne_nil hvalue]
  -- the line begins with a word and ends with the value, so nothing is stripped
  have hstrip : strip (key ++ '=' :: value) = key ++ '=' :: value := by
    apply strip_of_ends
    · intro c hc
      rw [hhead] at hc
      exact hkey.2 c (List.mem_of_mem_head? hc)
    · rw [hlast]
      exact h.last
  have hne : ∀ c ∈ key, decide (c ≠ '=') = true :=
    fun c hc => decide_eq_true fun heq => hequals (heq ▸ hc)
  constructor
  · apply unicodeLines_of_not_boundary (by simp)
    intro c hc
    obtain hc | hc := List.mem_append.mp hc
    · apply Bool.eq_false_iff.mpr
      intro hboundary
      exact absurd (isSpace_of_isLineBoundary hboundary) (by simp [hkey.2 c hc])
    · obtain rfl | hc := List.mem_cons.mp hc
      · decide
      · exact h.boundary c hc
  · have hbefore : before '=' (key ++ '=' :: value) = key := by
      rw [before, List.takeWhile_append_of_pos hne]
      simp
    have hpast : past '=' (key ++ '=' :: value) = value := by
      rw [past, List.dropWhile_append_of_pos hne]
      simp
    rw [assignment, hstrip, if_neg, if_pos (by simp), hbefore, hpast, strip_of_isWord hkey]
    rw [hhead]
    exact not_or_intro (by simp) hcomment

/-! ## Files -/

theorem getValue_append {front rest : List (Text × Text)} {key value : Text}
    (h : ∀ v ∈ rest, v.1 ≠ key) : getValue (front ++ (key, value) :: rest) key = value := by
  have hrest : rest.reverse.find? (fun v => v.1 = key) = none := by
    rw [List.find?_eq_none]
    intro v hv
    simpa using h v (List.mem_reverse.mp hv)
  rw [getValue, List.reverse_append, List.reverse_cons, List.append_assoc, List.find?_append, hrest]
  simp

/-- A value that is not empty was set by some line. -/
theorem mem_of_getValue {values : List (Text × Text)} {key : Text} (h : getValue values key ≠ []) :
    (key, getValue values key) ∈ values := by
  rw [getValue] at h ⊢
  cases hfound : values.reverse.find? fun v => v.1 = key with
  | none =>
    rw [hfound] at h
    exact absurd rfl h
  | some v =>
    have hmem := List.mem_reverse.mp (List.mem_of_find?_eq_some hfound)
    have hkey := List.find?_some hfound
    rw [← of_decide_eq_true hkey]
    exact hmem

/-- Lines set what they set on their own. -/
theorem assignments_intercalate {lines : List Text} (h : ∀ line ∈ lines, '\r' ∉ line) :
    (fileLines (['\n'].intercalate lines)).filterMap (assignment mapping) =
      lines.flatMap fun line => (unicodeLines line).filterMap (assignment mapping) := by
  have hreturn : '\r' ∉ ['\n'].intercalate lines := by
    rw [mem_intercalate_iff '\n' (by decide)]
    rintro ⟨line, hline, hmem⟩
    exact h line hline hmem
  rw [fileLines, universalNewlines_of_not_mem hreturn]
  clear h hreturn
  induction lines with
  | nil => rfl
  | cons line lines ih =>
    cases lines with
    | nil => simp
    | cons next rest =>
      -- the empty line that a line feed may add sets nothing
      have hline : (unicodeLines (line ++ ['\n'])).filterMap (assignment mapping) =
          (unicodeLines line).filterMap (assignment mapping) := by
        obtain h | h := unicodeLines_concat line
        · rw [h]
        · rw [h, List.filterMap_append]
          exact List.append_nil _
      rw [List.intercalate_cons_cons, List.append_assoc, List.singleton_append, unicodeLines_append,
        List.filterMap_append, hline, ih]
      simp only [List.flatMap_cons]

/-- Control characters, the category `Cc`. -/
def isControl (c : Char) : Bool :=
  decide (c.toNat < 0x20) || (decide (0x7F ≤ c.toNat) && decide (c.toNat < 0xA0))

/-- A blank line, a comment, or a line about another key. -/
structure Unrelated (mapping : CaseMapping) (line : Text) : Prop where
  single : '\n' ∉ line ∧ '\r' ∉ line
  keys : ∀ piece ∈ unicodeLines line, ∀ key value, assignment mapping piece = some (key, value) →
    key ≠ "username".toList ∧ key ≠ "password".toList

/-- A line without a boundary is unrelated when it sets neither key. -/
theorem unrelated_of_assignment {line : Text} (hboundary : ∀ c ∈ line, isLineBoundary c = false)
    (h : ∀ key value, assignment mapping line = some (key, value) →
      key ≠ "username".toList ∧ key ≠ "password".toList) : Unrelated mapping line where
  single :=
    ⟨fun hc => absurd (hboundary _ hc) (by decide), fun hc => absurd (hboundary _ hc) (by decide)⟩
  keys piece hpiece := by
    by_cases hne : line = []
    · rw [hne] at hpiece
      exact absurd hpiece List.not_mem_nil
    · rw [unicodeLines_of_not_boundary hne hboundary] at hpiece
      rw [List.mem_singleton.mp hpiece]
      exact h

theorem strip_of_blank {t : Text} (h : ∀ c ∈ t, isSpace c = true) : strip t = [] := by
  rw [strip, List.dropWhile_eq_nil_iff.mpr h]
  rfl

/-- A blank line is unrelated, whatever white space it holds. -/
theorem unrelated_of_blank {line : Text} (hsingle : '\n' ∉ line ∧ '\r' ∉ line)
    (h : ∀ c ∈ line, isSpace c = true) : Unrelated mapping line where
  single := hsingle
  keys piece hpiece key value hassigned := by
    have hblank := strip_of_blank fun c hc => h c (mem_of_mem_unicodeLines hpiece hc)
    rw [assignment, hblank] at hassigned
    cases hassigned

/-- A comment on one line is unrelated. -/
theorem unrelated_of_comment {line : Text} (hboundary : ∀ c ∈ line, isLineBoundary c = false)
    (h : (strip line).head? = some '#') : Unrelated mapping line := by
  apply unrelated_of_assignment hboundary
  intro key value hassigned
  rw [assignment, if_pos (.inr h)] at hassigned
  cases hassigned

/-- White space is stripped from the two sides of a character on their own. -/
theorem strip_append_cons {c : Char} (hc : isSpace c = false) (s t : Text) :
    strip (s ++ c :: t) = s.dropWhile isSpace ++ c :: t.rdropWhile isSpace := by
  have hdrop : (s ++ c :: t).dropWhile isSpace = s.dropWhile isSpace ++ c :: t := by
    rw [List.dropWhile_append]
    split
    · rename_i hempty
      rw [List.isEmpty_iff.mp hempty, List.dropWhile_cons_of_neg (by simp [hc])]
      rfl
    · rfl
  rw [strip, hdrop, List.rdropWhile, List.reverse_append, List.reverse_cons, List.append_assoc,
    List.singleton_append, List.dropWhile_append, List.rdropWhile]
  split
  · rename_i hempty
    rw [List.isEmpty_iff.mp hempty, List.dropWhile_cons_of_neg (by simp [hc])]
    simp
  · simp

/-- A line about another key is unrelated. -/
theorem unrelated_of_otherKey {key value : Text} (hequals : '=' ∉ key)
    (hboundary : ∀ c ∈ key ++ '=' :: value, isLineBoundary c = false)
    (hkey : mapping.lower (strip key) ≠ "username".toList ∧
      mapping.lower (strip key) ≠ "password".toList) : Unrelated mapping (key ++ '=' :: value) := by
  apply unrelated_of_assignment hboundary
  intro key' value' hassigned
  have hstrip := strip_append_cons (c := '=') (by decide) key value
  have hne : ∀ c ∈ key.dropWhile isSpace, decide (c ≠ '=') = true := fun c hc =>
    decide_eq_true fun heq => hequals (heq ▸ (List.dropWhile_suffix _).subset hc)
  rw [assignment, hstrip, before, List.takeWhile_append_of_pos hne] at hassigned
  split at hassigned
  · cases hassigned
  · rw [if_pos (by simp)] at hassigned
    obtain ⟨rfl, -⟩ := Prod.mk.inj (Option.some.inj hassigned)
    have hkey' : strip (key.dropWhile isSpace) = strip key := by
      rw [strip, strip, List.dropWhile_idempotent]
    simpa [hkey'] using hkey

/-- A file with the two lines and others around them. -/
def credentialFile (front between rest : List Text) (passwordFirst : Bool)
    (username password : Text) : Text :=
  let usernameLine := "username=".toList ++ username
  let passwordLine := "password=".toList ++ password
  ['\n'].intercalate (front ++ (if passwordFirst then passwordLine else usernameLine) :: between ++
    (if passwordFirst then usernameLine else passwordLine) :: rest)

/-- Whatever is returned has a name and a clean password. -/
theorem clean_of_read {path content username password : Text}
    (h : readPasswordCredentials mapping path (some content) = .ok ⟨username, password⟩) :
    username ≠ [] ∧ Clean password := by
  rw [readPasswordCredentials, checkCredentials] at h
  split at h
  · cases h
  rename_i hname
  split at h
  · cases h
  rename_i hpassword
  split at h
  · cases h
  split at h
  · cases h
  injection h with h
  injection h with husername hvalue
  subst husername hvalue
  obtain ⟨line, hline, hassigned⟩ := List.mem_filterMap.mp (mem_of_getValue hpassword)
  exact ⟨hname, clean_of_assignment hline hassigned⟩

/-- A line for a key in lower case sets that key and nothing else. -/
theorem assignments_keyLine {key value : Text} (hword : IsWord key) (hequals : '=' ∉ key)
    (hcomment : key.head? ≠ some '#') (hascii : key.all (fun c => decide (c.toNat < 128)) = true)
    (hkey : key.map Char.toLower = key) (hne : value ≠ []) (hvalue : Clean value) :
    (unicodeLines (key ++ '=' :: value)).filterMap (assignment mapping) = [(key, value)] := by
  have hlower : mapping.lower key = key := by
    rw [mapping.lower_ascii key fun c hc => of_decide_eq_true (List.all_eq_true.mp hascii c hc), hkey]
  obtain ⟨hlines, hsets⟩ := assignment_keyLine mapping hword hequals hcomment hne hvalue
  rw [hlines, List.filterMap_cons_some hsets, hlower]
  rfl

/-- Unrelated lines set neither of the two keys. -/
theorem keys_of_unrelated {lines : List Text} (h : ∀ line ∈ lines, Unrelated mapping line) :
    ∀ v ∈ lines.flatMap (fun line => (unicodeLines line).filterMap (assignment mapping)),
      v.1 ≠ "username".toList ∧ v.1 ≠ "password".toList := by
  intro v hv
  obtain ⟨line, hline, hv⟩ := List.mem_flatMap.mp hv
  obtain ⟨piece, hpiece, hassigned⟩ := List.mem_filterMap.mp hv
  exact (h line hline).keys piece hpiece v.1 v.2 hassigned

/-- Two keys that are set once each, in this order. -/
theorem getValue_pair {first second : Text × Text} (hne : second.1 ≠ first.1)
    {front between rest : List (Text × Text)} (hbetween : ∀ v ∈ between, v.1 ≠ first.1)
    (hrest : ∀ v ∈ rest, v.1 ≠ first.1 ∧ v.1 ≠ second.1) :
    getValue (front ++ first :: (between ++ second :: rest)) first.1 = first.2 ∧
      getValue (front ++ first :: (between ++ second :: rest)) second.1 = second.2 := by
  constructor
  · apply getValue_append
    intro v hv
    obtain hv | hv := List.mem_append.mp hv
    · exact hbetween v hv
    · obtain rfl | hv := List.mem_cons.mp hv
      · exact hne
      · exact (hrest v hv).1
  · rw [← List.cons_append, ← List.append_assoc]
    exact getValue_append fun v hv => (hrest v hv).2

theorem return_not_mem {key value : Text} (hkey : '\r' ∉ key) (hvalue : Clean value) :
    '\r' ∉ key ++ value := by
  intro hmem
  obtain hmem | hmem := List.mem_append.mp hmem
  · exact hkey hmem
  · exact absurd (hvalue.boundary _ hmem) (by decide)

/-- What the two lines set among lines that set other keys. -/
theorem values_credentialFile {front between rest : List Text}
    (hunrelated : ∀ line ∈ front ++ between ++ rest, Unrelated mapping line) (passwordFirst : Bool)
    {username password : Text} (husername : username ≠ []) (hname : Clean username)
    (hpassword : password ≠ []) (hclean : Clean password) :
    getValue ((fileLines (credentialFile front between rest passwordFirst username password)).filterMap
        (assignment mapping)) "username".toList = username ∧
      getValue ((fileLines (credentialFile front between rest passwordFirst username
        password)).filterMap (assignment mapping)) "password".toList = password := by
  -- each of the two lines sets its own key and no other
  have husernameSets : (unicodeLines ("username=".toList ++ username)).filterMap
      (assignment mapping) = [("username".toList, username)] :=
    assignments_keyLine (show IsWord "username" by decide) (by decide) (by decide) (by decide)
      (by decide) husername hname
  have hpasswordSets : (unicodeLines ("password=".toList ++ password)).filterMap
      (assignment mapping) = [("password".toList, password)] :=
    assignments_keyLine (show IsWord "password" by decide) (by decide) (by decide) (by decide)
      (by decide) hpassword hclean
  have husernameReturn := return_not_mem (show '\r' ∉ "username=".toList by decide) hname
  have hpasswordReturn := return_not_mem (show '\r' ∉ "password=".toList by decide) hclean
  have hne : "password".toList ≠ "username".toList := by decide
  -- the other lines set neither key
  have hbetween := @keys_of_unrelated mapping between fun line hline =>
    hunrelated line (by simp [hline])
  have hrest := @keys_of_unrelated mapping rest fun line hline => hunrelated line (by simp [hline])
  rw [credentialFile, assignments_intercalate]
  · cases passwordFirst with
    | false =>
      simp only [Bool.false_eq_true, if_false, List.append_assoc, List.cons_append,
        List.flatMap_append, List.flatMap_cons, husernameSets, hpasswordSets, List.nil_append]
      exact getValue_pair hne (fun v hv => (hbetween v hv).1) hrest
    | true =>
      simp only [if_true, List.append_assoc, List.cons_append, List.flatMap_append,
        List.flatMap_cons, husernameSets, hpasswordSets, List.nil_append]
      exact (getValue_pair hne.symm (fun v hv => (hbetween v hv).2)
        fun v hv => (hrest v hv).symm).symm
  · -- no line holds a carriage return, so the file has the lines it was joined from
    intro line hline
    have hothers : ∀ line ∈ front ++ between ++ rest, '\r' ∉ line :=
      fun line hline => (hunrelated line hline).single.2
    simp only [List.mem_append, List.mem_cons] at hline hothers
    obtain (hline | rfl | hline) | rfl | hline := hline
    · exact hothers line (.inl (.inl hline))
    · cases passwordFirst with
      | false => exact husernameReturn
      | true => exact hpasswordReturn
    · exact hothers line (.inl (.inr hline))
    · cases passwordFirst with
      | false => exact hpasswordReturn
      | true => exact husernameReturn
    · exact hothers line (.inr hline)

/-- The file comes back exactly when its password has no line boundary and no white space at the end. -/
theorem credentials_round_trip_iff (mapping : CaseMapping) (path : Text)
    (front between rest : List Text)
    (hunrelated : ∀ line ∈ front ++ between ++ rest, Unrelated mapping line) (passwordFirst : Bool)
    (username password : Text)
    (husername : ∀ c ∈ username, isSpace c = false ∧ isControl c = false ∧ c ≠ '@' ∧ c ≠ ':')
    (hpassword : password ≠ [] ∧ '\n' ∉ password ∧ '\r' ∉ password ∧ Char.ofNat 0 ∉ password) :
    readPasswordCredentials mapping path
        (some (credentialFile front between rest passwordFirst username password)) =
      .ok ⟨username, password⟩ ↔
    username ≠ [] ∧ (∀ c ∈ password, isLineBoundary c = false) ∧
      ∀ c, password.getLast? = some c → isSpace c = false := by
  constructor
  · intro h
    -- what was read is a stripped line, so a password that comes back is one
    obtain ⟨hname, hclean⟩ := clean_of_read h
    exact ⟨hname, hclean.boundary, hclean.last⟩
  · rintro ⟨hname, hboundary, hlast⟩
    have hplain : Clean username := by
      constructor
      · intro c hc
        apply Bool.eq_false_iff.mpr
        intro hboundary
        exact absurd (isSpace_of_isLineBoundary hboundary) (by simp [(husername c hc).1])
      · exact fun c hc => (husername c (List.mem_of_getLast? hc)).1
    obtain ⟨hgetUsername, hgetPassword⟩ := values_credentialFile hunrelated passwordFirst hname hplain
      hpassword.1 ⟨hboundary, hlast⟩
    have hstrip : strip username = username :=
      strip_of_isWord ⟨hname, fun c hc => (husername c hc).1⟩
    rw [readPasswordCredentials, hgetUsername, hgetPassword, hstrip, checkCredentials, if_neg hname,
      if_neg hpassword.1, if_neg, if_neg]
    · obtain ⟨-, hfeed, hreturn, hnul⟩ := hpassword
      simp [hfeed, hreturn, hnul]
    -- the characters that the check rejects are excluded from the user name
    · have hname : ∀ c ∈ username, c ∉ ['\n', '\r', Char.ofNat 0, '@', ':'] := by
        intro c hc hbad
        obtain ⟨-, hcontrol, hat, hcolon⟩ := husername c hc
        simp only [List.mem_cons, List.not_mem_nil, or_false, hat, hcolon] at hbad
        obtain rfl | rfl | rfl := hbad <;> exact absurd hcontrol (by decide)
      intro hany
      obtain ⟨c, hbad, hc⟩ := List.any_eq_true.mp hany
      exact hname c (of_decide_eq_true hc) hbad

/-- The credentials of the tests come back. -/
theorem credentials_round_trip_test : readPasswordCredentials .ascii "credentials".toList
    (some (credentialFile [] [] ["domain=".toList] false "u123456".toList "a=b=c".toList)) =
      .ok ⟨"u123456".toList, "a=b=c".toList⟩ := by
  have hunrelated : Unrelated .ascii ("domain".toList ++ '=' :: []) := by
    have hboundary : ("domain".toList ++ '=' :: []).all (fun c => !isLineBoundary c) = true := by
      decide
    refine unrelated_of_otherKey (by decide) (fun c hc => ?_) (by decide)
    simpa only [Bool.not_eq_true'] using List.all_eq_true.mp hboundary c hc
  apply (credentials_round_trip_iff .ascii _ [] [] ["domain=".toList] (by simpa using hunrelated) false
    "u123456".toList "a=b=c".toList ?_ (by decide)).mpr
  · refine ⟨by decide, ?_, ?_⟩
    · exact fun c hc => by
        have hall : "a=b=c".toList.all (fun c => !isLineBoundary c) = true := by decide
        simpa using List.all_eq_true.mp hall c hc
    · rintro c hc
      obtain rfl : 'c' = c := Option.some.inj hc
      decide
  · have hall : "u123456".toList.all (fun c => !isSpace c && !isControl c && decide (c ≠ '@') &&
        decide (c ≠ ':')) = true := by decide
    intro c hc
    simpa [and_assoc] using List.all_eq_true.mp hall c hc

/-- A password loses the blank at its end. -/
theorem password_loses_blank : readPasswordCredentials .ascii "credentials".toList
    (some (credentialFile [] [] [] false "u123456".toList "secret ".toList)) =
      .ok ⟨"u123456".toList, "secret".toList⟩ ∧
    readPasswordCredentials .ascii "credentials".toList
      (some (credentialFile [] [] [] false "u123456".toList "secret ".toList)) ≠
        .ok ⟨"u123456".toList, "secret ".toList⟩ := by
  decide +kernel

end StorageNode.SshCredentials
