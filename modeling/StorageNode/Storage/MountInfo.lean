import StorageNode.Text.Fields
import Mathlib.Data.Finset.Dedup

/-!
# The mount table of the kernel

`read_mountinfo` of `mounts`, and the lines as the kernel writes them (`MountLine.render`). The kernel
separates fields by single spaces and escapes space, tab, line feed and backslash. The reader splits
fields at anything that `str.isspace` accepts and reads a carriage return as the end of a line, so that
it inverts the rendering only where no other white space occurs (`MountLine.Readable`).
-/

set_option autoImplicit false

namespace StorageNode.Mounts

open StorageNode.Text

/-- `MountInfo`. -/
structure MountInfo where
  mountpoint : Text
  filesystem : Text
  source : Text
  mountOptions : Finset Text
  superOptions : Finset Text
  deriving DecidableEq

/-! ## Reading -/

/-- `decode_mountinfo_path`. The backslash comes last. -/
def decodeMountinfoPath (value : Text) : Text :=
  replaceAll "\\134" ['\\'] (replaceAll "\\012" ['\n'] (replaceAll "\\011" ['\t']
    (replaceAll "\\040" [' '] value)))

/-- `_split_options`. -/
def splitOptions (value : Text) : Finset Text :=
  (((value.splitOn ',').map strip).filter (· ≠ [])).toFinset

/-- One line of the file. Lines without the separator or with too few fields are passed over. -/
def parseLine (line : Text) : Option MountInfo :=
  match partition [' ', '-', ' '] (line.rdropWhile (· = '\n')) with
  | none => none
  | some (before, after) =>
    match words before, words after with
    | _ :: _ :: _ :: _ :: mountpoint :: options :: _, filesystem :: source :: rest =>
      some { mountpoint := decodeMountinfoPath mountpoint
             filesystem := filesystem
             source := decodeMountinfoPath source
             mountOptions := splitOptions options
             superOptions := splitOptions (rest.headD []) }
    | _, _ => none

/-- `read_mountinfo`, from the decoded content of the file on. -/
def readMountinfo (content : Text) : List MountInfo :=
  (splitLines (universalNewlines content)).filterMap parseLine

/-! ## Writing -/

/-- How the kernel writes a character of a path. -/
def escapeChar (c : Char) : Text :=
  if c = ' ' then "\\040".toList
  else if c = '\t' then "\\011".toList
  else if c = '\n' then "\\012".toList
  else if c = '\\' then "\\134".toList
  else [c]

/-- How the kernel writes a path. -/
def encodePath (path : Text) : Text :=
  path.flatMap escapeChar

/-- What a line of the table is about. The numbers and the root are given as they are written. -/
structure MountLine where
  mountId : Text
  parentId : Text
  device : Text
  root : Text
  mountpoint : Text
  mountOptions : List Text
  optionalFields : List Text
  filesystem : Text
  source : Text
  superOptions : List Text
  others : ∀ w ∈ [mountId, parentId, device, root] ++ optionalFields, IsWord w ∧ w ≠ ['-']
  filesystem_word : IsWord filesystem
  options : ∀ option ∈ mountOptions ++ superOptions, IsWord option ∧ ',' ∉ option
  mountOptions_ne : mountOptions ≠ []

namespace MountLine

variable (line : MountLine)

/-- The fields in front of the separator. -/
def fields : List Text :=
  [line.mountId, line.parentId, line.device, line.root, encodePath line.mountpoint,
    [','].intercalate line.mountOptions] ++ line.optionalFields

/-- What stands behind the separator. -/
def tail : Text :=
  line.filesystem ++ ' ' :: (encodePath line.source ++ ' ' :: [','].intercalate line.superOptions)

/-- The line as the kernel writes it. -/
def render : Text :=
  [' '].intercalate line.fields ++ ' ' :: '-' :: ' ' :: line.tail

/-- The entry that the line stands for. -/
def entry : MountInfo where
  mountpoint := line.mountpoint
  filesystem := line.filesystem
  source := line.source
  mountOptions := line.mountOptions.toFinset
  superOptions := line.superOptions.toFinset

end MountLine

/-- A table as the kernel writes it. -/
def renderTable (lines : List MountLine) : Text :=
  (lines.map MountLine.render).flatMap (· ++ ['\n'])

/-! ## Paths -/

/-- A path that stays one word when it is written: it is not empty, and the only white space in it is
escaped. -/
def Plain (path : Text) : Prop :=
  path ≠ [] ∧ ∀ c ∈ path, isSpace c = true → c = ' ' ∨ c = '\t' ∨ c = '\n'

theorem escaped_escapeChar (c : Char) : Escaped '\\' 3 (escapeChar c) := by
  rw [escapeChar]
  split
  · exact .escape rfl (by decide)
  split
  · exact .escape rfl (by decide)
  split
  · exact .escape rfl (by decide)
  split
  · exact .escape rfl (by decide)
  · rename_i hbackslash
    exact .plain hbackslash

/-- Characters as they are written, after one more sequence is decoded. -/
def decodeStep (code : Text) (d : Char) (enc : Char → Text) (c : Char) : Text :=
  if enc c = '\\' :: code then [d] else enc c

theorem escaped_decodeStep (code : Text) {d : Char} {enc : Char → Text} (hd : d ≠ '\\')
    (h : ∀ c, Escaped '\\' 3 (enc c)) (c : Char) : Escaped '\\' 3 (decodeStep code d enc c) := by
  rw [decodeStep]
  split
  · exact .plain hd
  · exact h c

/-- The four replacements decode what the kernel writes. A backslash that the last one puts in is
never read as the start of a sequence. -/
theorem decode_encodePath (path : Text) : decodeMountinfoPath (encodePath path) = path := by
  have hspace := escaped_decodeStep "040" (show ' ' ≠ '\\' by decide) escaped_escapeChar
  have htab := escaped_decodeStep "011" (show '\t' ≠ '\\' by decide) hspace
  have hfeed := escaped_decodeStep "012" (show '\n' ≠ '\\' by decide) htab
  have hdecoded : decodeMountinfoPath (encodePath path) = path.flatMap (decodeStep "134" '\\'
      (decodeStep "012" '\n' (decodeStep "011" '\t' (decodeStep "040" ' ' escapeChar)))) := by
    rw [decodeMountinfoPath, encodePath]
    erw [replaceAll_flatMap path escaped_escapeChar, replaceAll_flatMap path hspace,
      replaceAll_flatMap path htab, replaceAll_flatMap path hfeed]
    rfl
  -- character by character: the escaped ones are decided, the others pass through
  have hchar : ∀ c, decodeStep "134" '\\' (decodeStep "012" '\n' (decodeStep "011" '\t'
      (decodeStep "040" ' ' escapeChar))) c = [c] := by
    intro c
    by_cases hspace : c = ' '
    · subst hspace
      decide
    by_cases htab : c = '\t'
    · subst htab
      decide
    by_cases hfeed : c = '\n'
    · subst hfeed
      decide
    by_cases hbackslash : c = '\\'
    · subst hbackslash
      decide
    have hplain : escapeChar c = [c] := by
      rw [escapeChar, if_neg hspace, if_neg htab, if_neg hfeed, if_neg hbackslash]
    simp [decodeStep, hplain]
  rw [hdecoded, funext hchar]
  exact List.flatMap_singleton' path

/-- A path that was read off a word is plain. -/
theorem plain_decode {w : Text} (h : IsWord w) : Plain (decodeMountinfoPath w) := by
  constructor
  · apply replaceAll_ne_nil (List.cons_ne_nil _ _)
    apply replaceAll_ne_nil (List.cons_ne_nil _ _)
    apply replaceAll_ne_nil (List.cons_ne_nil _ _)
    exact replaceAll_ne_nil (List.cons_ne_nil _ _) h.1
  · intro c hc hspace
    -- a character of the result was put in by a replacement, or stood in the word
    obtain hc | hc := mem_replaceFrom hc
    · obtain rfl := List.mem_singleton.mp hc
      exact absurd hspace (by decide)
    obtain hc | hc := mem_replaceFrom hc
    · exact .inr (.inr (List.mem_singleton.mp hc))
    obtain hc | hc := mem_replaceFrom hc
    · exact .inr (.inl (List.mem_singleton.mp hc))
    obtain hc | hc := mem_replaceFrom hc
    · exact .inl (List.mem_singleton.mp hc)
    · rw [h.2 c hc] at hspace
      exact absurd hspace (by decide)

theorem escapeChar_ne_nil (c : Char) : escapeChar c ≠ [] := by
  have h := escaped_escapeChar c
  generalize escapeChar c = w at h
  cases h with
  | plain => exact List.cons_ne_nil _ _
  | escape => exact List.cons_ne_nil _ _

theorem isWord_encodePath {path : Text} (h : Plain path) : IsWord (encodePath path) := by
  constructor
  · obtain ⟨c, hc⟩ := List.exists_mem_of_ne_nil path h.1
    intro hnil
    exact escapeChar_ne_nil c (List.flatMap_eq_nil_iff.mp hnil c hc)
  · intro d hd
    obtain ⟨c, hc, hd⟩ := List.mem_flatMap.mp hd
    rw [escapeChar] at hd
    split at hd
    · exact (show IsWord "\\040" by decide).2 d hd
    split at hd
    · exact (show IsWord "\\011" by decide).2 d hd
    split at hd
    · exact (show IsWord "\\012" by decide).2 d hd
    split at hd
    · exact (show IsWord "\\134" by decide).2 d hd
    · rename_i hspace htab hfeed _
      obtain rfl := List.mem_singleton.mp hd
      apply Bool.eq_false_iff.mpr
      intro hblank
      obtain h | h | h := h.2 d hc hblank
      · exact hspace h
      · exact htab h
      · exact hfeed h

/-- No other path is written as a dash. -/
theorem encodePath_eq_dash {path : Text} : encodePath path = ['-'] ↔ path = ['-'] := by
  constructor
  · intro h
    rw [← decode_encodePath path, h]
    decide
  · rintro rfl
    decide

/-! ## Options -/

theorem splitOptions_intercalate {options : List Text}
    (h : ∀ option ∈ options, IsWord option ∧ ',' ∉ option) :
    splitOptions ([','].intercalate options) = options.toFinset := by
  by_cases hnil : options = []
  · subst hnil
    rfl
  have hstrip : options.map strip = options :=
    (List.map_congr_left fun option hoption => strip_of_isWord (h option hoption).1).trans
      (List.map_id options)
  have hfilter : options.filter (· ≠ []) = options := by
    rw [List.filter_eq_self]
    exact fun option hoption => decide_eq_true (h option hoption).1.1
  rw [splitOptions, List.splitOn_intercalate _ (fun option hoption => (h option hoption).2) hnil,
    hstrip, hfilter]

/-- A list of options is written as one word. -/
theorem isWord_intercalate {options : List Text} (hne : options ≠ [])
    (h : ∀ option ∈ options, IsWord option ∧ ',' ∉ option) :
    IsWord ([','].intercalate options) := by
  constructor
  · intro hnil
    obtain ⟨option, hoption⟩ := List.exists_mem_of_ne_nil options hne
    obtain ⟨c, hc⟩ := List.exists_mem_of_ne_nil option (h option hoption).1.1
    have hcomma : c ≠ ',' := fun heq => (h option hoption).2 (heq ▸ hc)
    have hmem := (mem_intercalate_iff ',' hcomma options).mpr ⟨option, hoption, hc⟩
    rw [hnil] at hmem
    exact absurd hmem List.not_mem_nil
  · intro c hc
    by_cases hcomma : c = ','
    · subst hcomma
      decide
    · obtain ⟨option, hoption, hc⟩ := (mem_intercalate_iff ',' hcomma options).mp hc
      exact (h option hoption).1.2 c hc

/-- Options are written as a dash only when the dash is the one option. -/
theorem intercalate_eq_dash {options : List Text} (hne : options ≠ [])
    (h : ∀ option ∈ options, IsWord option ∧ ',' ∉ option) :
    [','].intercalate options = ['-'] ↔ options = [['-']] := by
  constructor
  · intro heq
    rw [← List.splitOn_intercalate ',' (fun option hoption => (h option hoption).2) hne, heq]
    decide
  · rintro rfl
    rfl

/-! ## Lines -/

/-- Where the reader inverts the rendering of a line. -/
structure MountLine.Readable (line : MountLine) : Prop where
  mountpoint : Plain line.mountpoint
  source : Plain line.source
  mountpoint_ne : line.mountpoint ≠ ['-']
  mountOptions_ne : line.mountOptions ≠ [['-']]

/-- Whatever the reader returns has plain paths. -/
theorem plain_of_parseLine {line : Text} {info : MountInfo} (h : parseLine line = some info) :
    Plain info.mountpoint ∧ Plain info.source := by
  rw [parseLine] at h
  split at h
  · cases h
  · rename_i before after _
    split at h
    · rename_i hbefore hafter
      obtain rfl := Option.some.inj h
      constructor
      · apply plain_decode
        apply isWord_of_mem_words
        rw [hbefore]
        simp
      · apply plain_decode
        apply isWord_of_mem_words
        rw [hafter]
        simp
    · cases h

namespace MountLine

variable {line : MountLine}

/-- The fields in front of the separator are words. -/
theorem fields_words (h : Plain line.mountpoint) : ∀ w ∈ line.fields, IsWord w := by
  intro w hw
  have hothers := fun w hw => (line.others w hw).1
  have hoptions := fun option hoption =>
    line.options option (List.mem_append_left line.superOptions hoption)
  simp only [fields, List.mem_append, List.mem_cons, List.not_mem_nil, or_false] at hw hothers
  obtain (hw | hw | hw | hw | rfl | rfl) | hw := hw
  · exact hothers w (.inl (.inl hw))
  · exact hothers w (.inl (.inr (.inl hw)))
  · exact hothers w (.inl (.inr (.inr (.inl hw))))
  · exact hothers w (.inl (.inr (.inr (.inr hw))))
  · exact isWord_encodePath h
  · exact isWord_intercalate line.mountOptions_ne hoptions
  · exact hothers w (.inr hw)

theorem words_tail (h : Plain line.source) : words line.tail =
    line.filesystem :: encodePath line.source :: words ([','].intercalate line.superOptions) := by
  rw [tail, words_append_cons rfl, words_append_cons rfl, words_of_isWord line.filesystem_word,
    words_of_isWord (isWord_encodePath h)]
  rfl

/-- The last field is read back, also when there are no options in it. -/
theorem splitOptions_tail : splitOptions ((words ([','].intercalate line.superOptions)).headD []) =
    line.superOptions.toFinset := by
  have hoptions := fun option hoption =>
    line.options option (List.mem_append_right line.mountOptions hoption)
  by_cases hnil : line.superOptions = []
  · rw [hnil]
    rfl
  · rw [words_of_isWord (isWord_intercalate hnil hoptions)]
    exact splitOptions_intercalate hoptions

/-- The only white space in a line is the space. -/
theorem render_blank (hmountpoint : Plain line.mountpoint) (hsource : Plain line.source) {c : Char}
    (hc : c ∈ line.render) (hspace : isSpace c = true) : c = ' ' := by
  by_contra hne
  have hword : ∀ {w : Text}, IsWord w → c ∉ w := by
    intro w hw hmem
    rw [hw.2 c hmem] at hspace
    exact absurd hspace (by decide)
  have hdash : c ≠ '-' := by
    rintro rfl
    exact absurd hspace (by decide)
  have hcomma : c ≠ ',' := by
    rintro rfl
    exact absurd hspace (by decide)
  simp only [render, tail, List.mem_append, List.mem_cons, hne, hdash, false_or] at hc
  obtain hc | hc | hc | hc := hc
  · obtain ⟨w, hw, hc⟩ := (mem_intercalate_iff ' ' hne _).mp hc
    exact hword (fields_words hmountpoint w hw) hc
  · exact hword line.filesystem_word hc
  · exact hword (isWord_encodePath hsource) hc
  · obtain ⟨option, hoption, hc⟩ := (mem_intercalate_iff ',' hcomma _).mp hc
    exact hword (line.options option (List.mem_append_right _ hoption)).1 hc

/-- The line feed at the end of a line is taken off. -/
theorem rdropWhile_render (hfeed : '\n' ∉ line.render) :
    (line.render ++ ['\n']).rdropWhile (· = '\n') = line.render := by
  rw [List.rdropWhile_concat_pos _ _ _ (by simp), List.rdropWhile_eq_self_iff]
  intro hne heq
  have hlast := List.getLast_mem hne
  rw [of_decide_eq_true heq] at hlast
  exact hfeed hlast

/-- A readable line is read back. -/
theorem parseLine_render (h : line.Readable) (hfeed : '\n' ∉ line.render) :
    parseLine (line.render ++ ['\n']) = some line.entry := by
  have hoptions := fun option hoption =>
    line.options option (List.mem_append_left line.superOptions hoption)
  have hdash : ∀ w ∈ line.fields, w ≠ ['-'] := by
    intro w hw
    have hothers := fun w hw => (line.others w hw).2
    simp only [fields, List.mem_append, List.mem_cons, List.not_mem_nil, or_false] at hw hothers
    obtain (hw | hw | hw | hw | rfl | rfl) | hw := hw
    · exact hothers w (.inl (.inl hw))
    · exact hothers w (.inl (.inr (.inl hw)))
    · exact hothers w (.inl (.inr (.inr (.inl hw))))
    · exact hothers w (.inl (.inr (.inr (.inr hw))))
    · exact fun heq => h.mountpoint_ne (encodePath_eq_dash.mp heq)
    · exact fun heq => h.mountOptions_ne
        ((intercalate_eq_dash line.mountOptions_ne hoptions).mp heq)
    · exact hothers w (.inr hw)
  have hwords := fields_words h.mountpoint
  have hpartition : partition [' ', '-', ' '] line.render =
      some ([' '].intercalate line.fields, line.tail) :=
    partition_dash (List.cons_ne_nil _ _) hwords hdash line.tail
  have hfields := words_intercalate hwords
  rw [parseLine, rdropWhile_render hfeed, hpartition]
  dsimp only
  rw [hfields, words_tail h.source]
  simp only [fields, List.cons_append]
  rw [splitOptions_tail, splitOptions_intercalate hoptions, decode_encodePath, decode_encodePath]
  rfl

/-- The fields before the first dash, when the mountpoint or the only mount option is one. -/
theorem fields_dash (hmountpoint : Plain line.mountpoint)
    (h : line.mountpoint = ['-'] ∨ line.mountOptions = [['-']]) :
    ∃ front post, line.fields = front ++ ['-'] :: post ∧ front ≠ [] ∧ front.length < 6 ∧
      ∀ w ∈ front, IsWord w ∧ w ≠ ['-'] := by
  have hlead : ∀ w ∈ [line.mountId, line.parentId, line.device, line.root],
      IsWord w ∧ w ≠ ['-'] := fun w hw => line.others w (List.mem_append_left _ hw)
  by_cases hdash : line.mountpoint = ['-']
  · refine ⟨[line.mountId, line.parentId, line.device, line.root],
      [','].intercalate line.mountOptions :: line.optionalFields, ?_, List.cons_ne_nil _ _,
      Nat.lt_of_sub_eq_succ rfl, hlead⟩
    rw [fields, encodePath_eq_dash.mpr hdash]
    rfl
  · refine ⟨[line.mountId, line.parentId, line.device, line.root] ++ [encodePath line.mountpoint],
      line.optionalFields, ?_, List.cons_ne_nil _ _, Nat.lt_of_sub_eq_succ rfl, ?_⟩
    · rw [fields, h.resolve_left hdash]
      rfl
    · intro w hw
      obtain hw | hw := List.mem_append.mp hw
      · exact hlead w hw
      · obtain rfl := List.mem_singleton.mp hw
        exact ⟨isWord_encodePath hmountpoint, fun heq => hdash (encodePath_eq_dash.mp heq)⟩

/-- A line with a dash among its first fields is passed over: the dash is taken for the separator. -/
theorem parseLine_dash (hmountpoint : Plain line.mountpoint) (hfeed : '\n' ∉ line.render)
    (h : line.mountpoint = ['-'] ∨ line.mountOptions = [['-']]) :
    parseLine (line.render ++ ['\n']) = none := by
  obtain ⟨front, post, hcut, hne, hlength, hfront⟩ := fields_dash hmountpoint h
  obtain ⟨rest, hrest⟩ := intercalate_append_dash hne post ('-' :: ' ' :: line.tail)
  have hrender : line.render = [' '].intercalate front ++ ' ' :: '-' :: ' ' :: rest := by
    rw [render, hcut, hrest]
  have hpartition := partition_dash hne (fun w hw => (hfront w hw).1) (fun w hw => (hfront w hw).2) rest
  have hfields := words_intercalate fun w hw => (hfront w hw).1
  rw [parseLine, rdropWhile_render hfeed, hrender, hpartition]
  dsimp only
  rw [hfields]
  -- fewer than six fields are not enough
  match front, hlength with
  | [], _ | [_], _ | [_, _], _ | [_, _, _], _ | [_, _, _, _], _ | [_, _, _, _, _], _ => rfl
  | _ :: _ :: _ :: _ :: _ :: _ :: _, hlength => exact absurd hlength (by simp)

end MountLine

/-! ## Tables -/

/-- A table of plain paths is read line by line. -/
theorem readMountinfo_renderTable {lines : List MountLine}
    (h : ∀ line ∈ lines, Plain line.mountpoint ∧ Plain line.source) :
    readMountinfo (renderTable lines) =
        lines.filterMap (fun line => parseLine (line.render ++ ['\n'])) ∧
      ∀ line ∈ lines, '\n' ∉ line.render := by
  have hblank : ∀ line ∈ lines, ∀ {c : Char}, c ∈ line.render → isSpace c = true → c = ' ' :=
    fun line hline _ => MountLine.render_blank (h line hline).1 (h line hline).2
  have hfeed : ∀ line ∈ lines, '\n' ∉ line.render :=
    fun line hline hmem => absurd (hblank line hline hmem (by decide)) (by decide)
  have hreturn : '\r' ∉ renderTable lines := by
    intro hmem
    obtain ⟨text, htext, hmem⟩ := List.mem_flatMap.mp hmem
    obtain ⟨line, hline, rfl⟩ := List.mem_map.mp htext
    obtain hmem | hmem := List.mem_append.mp hmem
    · exact absurd (hblank line hline hmem (by decide)) (by decide)
    · exact absurd (List.mem_singleton.mp hmem) (by decide)
  refine ⟨?_, hfeed⟩
  rw [readMountinfo, universalNewlines_of_not_mem hreturn, renderTable, splitLines_flatMap,
    List.map_map, List.filterMap_map]
  · rfl
  · intro text htext
    obtain ⟨line, hline, rfl⟩ := List.mem_map.mp htext
    exact hfeed line hline

/-- The reader inverts the rendering of a table exactly when every line is readable. -/
theorem readMountinfo_inverts_iff (lines : List MountLine) :
    readMountinfo (renderTable lines) = lines.map MountLine.entry ↔
      ∀ line ∈ lines, line.Readable := by
  constructor
  · intro h
    -- what is returned has plain paths, hence so have all lines, and the table is read line by line
    have hplain : ∀ line ∈ lines, Plain line.mountpoint ∧ Plain line.source := by
      intro line hline
      have hmem : line.entry ∈ readMountinfo (renderTable lines) := by
        rw [h]
        exact List.mem_map_of_mem hline
      obtain ⟨text, -, hparse⟩ := List.mem_filterMap.mp hmem
      exact plain_of_parseLine hparse
    obtain ⟨hread, hfeed⟩ := readMountinfo_renderTable hplain
    rw [hread] at h
    -- a line with a dash would be missing in the count
    have hsome : ∀ line ∈ lines, (parseLine (line.render ++ ['\n'])).isSome := by
      have hlength := congrArg List.length h
      rw [List.length_map] at hlength
      exact List.filterMap_length_eq_length.mp hlength
    intro line hline
    refine ⟨(hplain line hline).1, (hplain line hline).2, ?_, ?_⟩
    · intro hdash
      have hnone := MountLine.parseLine_dash (hplain line hline).1 (hfeed line hline) (.inl hdash)
      exact absurd (hsome line hline) (by simp [hnone])
    · intro hdash
      have hnone := MountLine.parseLine_dash (hplain line hline).1 (hfeed line hline) (.inr hdash)
      exact absurd (hsome line hline) (by simp [hnone])
  · intro h
    -- plain paths hold no line feed, so the table splits into its lines
    obtain ⟨hread, hfeed⟩ :=
      readMountinfo_renderTable fun line hline => ⟨(h line hline).mountpoint, (h line hline).source⟩
    rw [hread]
    apply List.filterMap_eq_map_iff_forall_eq_some.mpr
    exact fun line hline => MountLine.parseLine_render (h line hline) (hfeed line hline)

/-- The share of the tests, under a path with a non-breaking space. -/
def spacedLine : MountLine where
  mountId := "36".toList
  parentId := "25".toList
  device := "0:31".toList
  root := "/".toList
  mountpoint := ['/', 'r', 'u', 'n', '/', 'a', Char.ofNat 0xA0, 'b']
  mountOptions := ["rw".toList, "relatime".toList]
  optionalFields := ["shared:1".toList]
  filesystem := "cifs".toList
  source := "//server/share".toList
  superOptions := ["rw".toList]
  others := by decide
  filesystem_word := by decide
  options := by decide
  mountOptions_ne := by decide

/-- The mount is read as one at `/run/a`. -/
theorem spacedLine_misread : readMountinfo (renderTable [spacedLine]) ≠ [spacedLine.entry] ∧
    (readMountinfo (renderTable [spacedLine])).map MountInfo.mountpoint = ["/run/a".toList] := by
  decide +kernel

end StorageNode.Mounts
