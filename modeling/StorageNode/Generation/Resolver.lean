import StorageNode.Text.Fields

/-!
# The resolver configuration of a worker

`resolver_nameservers` and `render_worker_resolv_conf` of `generation`. A worker sees a configuration
that names the relay on its gateway as the only name server and keeps the other settings of the host.
-/

set_option autoImplicit false

namespace StorageNode.Generation

open StorageNode.Text

/-- The exceptions of `resolver_nameservers`. -/
inductive ResolverError where
  | incompleteLine (line : Text)
  | invalidAddress (text : Text)
  | noNameserver
  deriving DecidableEq

section

variable (ipAddress : Text → Option Text)

/-- The loop of `resolver_nameservers`. -/
def collectNameservers : List Text → List Text → Except ResolverError (List Text)
  | found, [] => .ok found
  | found, line :: lines =>
    match words line with
    | [] => collectNameservers found lines
    | keyword :: arguments =>
      if keyword ≠ "nameserver".toList then collectNameservers found lines
      else match arguments with
        | [] => .error (.incompleteLine line)
        | text :: _ =>
          match ipAddress text with
          | none => .error (.invalidAddress text)
          | some address =>
            collectNameservers (if address ∈ found then found else found ++ [address]) lines

/-- `resolver_nameservers`, on the text of the file. -/
def resolverNameservers (text : Text) : Except ResolverError (List Text) :=
  match collectNameservers ipAddress [] (unicodeLines text) with
  | .error e => .error e
  | .ok found => if found = [] then .error .noNameserver else .ok found

end

/-- The settings that a worker keeps. -/
def keptKeywords : List Text :=
  ["search".toList, "domain".toList, "options".toList]

/-- Whether a stripped line is kept. -/
def isKept (line : Text) : Bool :=
  line ≠ [] ∧ line.head? ≠ some '#' ∧ (words line).headD [] ∈ keptKeywords

/-- The lines of the host's configuration that a worker keeps. -/
def preserved (source : Text) : List Text :=
  ((unicodeLines source).map strip).filter isKept

/-- The line of a name server. -/
def nameserverLine (address : Text) : Text :=
  "nameserver ".toList ++ address

/-- The file that `render_worker_resolv_conf` writes. -/
def renderWorkerResolvConf (source gatewayIp : Text) : Text :=
  (nameserverLine gatewayIp :: preserved source).flatMap fun line => line ++ ['\n']

/-! ## Lines -/

theorem unicodeLines_line {line : Text} (h : ∀ c ∈ line, isLineBoundary c = false) :
    unicodeLines (line ++ ['\n']) = [line] := by
  induction line with
  | nil => rfl
  | cons c line ih =>
    rw [List.cons_append, unicodeLines, if_neg (by simp [h c List.mem_cons_self]),
      ih fun d hd => h d (List.mem_cons_of_mem c hd)]

/-- Lines that are written one by one are read back. -/
theorem unicodeLines_flatMap {lines : List Text}
    (h : ∀ line ∈ lines, ∀ c ∈ line, isLineBoundary c = false) :
    unicodeLines (lines.flatMap fun line => line ++ ['\n']) = lines := by
  induction lines with
  | nil => rfl
  | cons line lines ih =>
    rw [List.flatMap_cons, List.append_assoc, List.singleton_append, unicodeLines_append,
      unicodeLines_line (h line List.mem_cons_self),
      ih fun other hother => h other (List.mem_cons_of_mem _ hother), List.singleton_append]

theorem mem_of_mem_strip {t : Text} {c : Char} (h : c ∈ strip t) : c ∈ t :=
  (List.dropWhile_sublist _).subset ((List.rdropWhile_prefix _ _).subset h)

theorem strip_strip (t : Text) : strip (strip t) = strip t := by
  have hhead : (strip t).dropWhile isSpace = strip t := by
    cases hstrip : strip t with
    | nil => rfl
    | cons c rest =>
      -- the first character of a stripped text is the first that is no white space
      obtain ⟨more, hmore⟩ := List.rdropWhile_prefix isSpace (t.dropWhile isSpace)
      have hc : (t.dropWhile isSpace).head? = some c := by
        rw [← hmore, show (t.dropWhile isSpace).rdropWhile isSpace = c :: rest from hstrip]
        rfl
      have hspace : isSpace c = false := by
        simpa [hc] using List.head?_dropWhile_not isSpace t
      exact List.dropWhile_cons_of_neg (by simp [hspace])
  rw [strip, hhead]
  exact List.rdropWhile_idempotent _ _

/-! ## What a worker sees -/

section

variable {source gatewayIp : Text}

theorem preserved_spec {line : Text} (h : line ∈ preserved source) :
    strip line = line ∧ isKept line = true ∧ ∀ c ∈ line, isLineBoundary c = false := by
  obtain ⟨hline, hkept⟩ := List.mem_filter.mp h
  obtain ⟨original, horiginal, rfl⟩ := List.mem_map.mp hline
  exact ⟨strip_strip _, hkept, fun c hc => not_boundary_of_mem_unicodeLines horiginal (mem_of_mem_strip hc)⟩

theorem nameserverLine_not_boundary (hword : IsWord gatewayIp) :
    ∀ c ∈ nameserverLine gatewayIp, isLineBoundary c = false := by
  have hkeyword : ∀ c ∈ "nameserver ".toList, isLineBoundary c = false := by simp [isLineBoundary]
  intro c hc
  rcases List.mem_append.mp hc with hc | hc
  · exact hkeyword c hc
  · refine Bool.eq_false_iff.mpr fun hboundary => ?_
    exact absurd (isSpace_of_isLineBoundary hboundary) (by simp [hword.2 c hc])

/-- The lines of the file of a worker. -/
theorem lines_render (hword : IsWord gatewayIp) :
    unicodeLines (renderWorkerResolvConf source gatewayIp) =
      nameserverLine gatewayIp :: preserved source := by
  refine unicodeLines_flatMap fun line hline => ?_
  rcases List.mem_cons.mp hline with rfl | hline
  · exact nameserverLine_not_boundary hword
  · exact (preserved_spec hline).2.2

theorem words_nameserverLine (hword : IsWord gatewayIp) :
    words (nameserverLine gatewayIp) = ["nameserver".toList, gatewayIp] := by
  have hkeyword : IsWord "nameserver".toList := by decide
  have hline : nameserverLine gatewayIp = "nameserver".toList ++ ' ' :: gatewayIp := rfl
  rw [hline, words_append_cons (by decide), words_of_isWord hkeyword, words_of_isWord hword]
  rfl

theorem strip_nameserverLine (hword : IsWord gatewayIp) :
    strip (nameserverLine gatewayIp) = nameserverLine gatewayIp := by
  have hdrop : (nameserverLine gatewayIp).dropWhile isSpace = nameserverLine gatewayIp :=
    List.dropWhile_cons_of_neg (by decide)
  rw [strip, hdrop, List.rdropWhile_eq_self_iff]
  intro hne
  have hlast : (nameserverLine gatewayIp).getLast hne = gatewayIp.getLast hword.1 :=
    List.getLast_append_of_ne_nil _ _
  simp [hlast, hword.2 _ (List.getLast_mem _)]

theorem collectNameservers_kept {ipAddress : Text → Option Text} {found lines : List Text}
    (h : ∀ line ∈ lines, isKept line = true) :
    collectNameservers ipAddress found lines = .ok found := by
  induction lines with
  | nil => rfl
  | cons line lines ih =>
    have hkept := h line List.mem_cons_self
    have hrest := ih fun other hother => h other (List.mem_cons_of_mem _ hother)
    rw [collectNameservers]
    cases hwords : words line with
    | nil => exact hrest
    | cons keyword arguments =>
      have hkeyword : keyword ≠ "nameserver".toList := by
        rintro rfl
        simp [isKept, hwords, keptKeywords] at hkept
      simp only [if_pos hkeyword]
      exact hrest

/-- A worker sees the relay on its gateway as its only name server, and every other setting of the host
as it is. Rendering the file again changes none of them. -/
theorem worker_resolver_names_relay {ipAddress : Text → Option Text} (hword : IsWord gatewayIp)
    (haddress : ipAddress gatewayIp = some gatewayIp) :
    resolverNameservers ipAddress (renderWorkerResolvConf source gatewayIp) = .ok [gatewayIp] ∧
      preserved (renderWorkerResolvConf source gatewayIp) = preserved source ∧
      unicodeLines (renderWorkerResolvConf source gatewayIp) =
        nameserverLine gatewayIp :: preserved source := by
  have hlines : unicodeLines (renderWorkerResolvConf source gatewayIp) = _ := lines_render hword
  have hwords := words_nameserverLine hword
  refine ⟨?_, ?_, hlines⟩
  · have hkept : collectNameservers ipAddress [gatewayIp] (preserved source) = .ok [gatewayIp] :=
      collectNameservers_kept fun line hline => (preserved_spec hline).2.1
    rw [resolverNameservers, hlines, collectNameservers, hwords]
    simp [haddress, hkept]
  · have hstrip : (preserved source).map strip = preserved source := by
      refine (List.map_congr_left fun line hline => (preserved_spec hline).1).trans (List.map_id _)
    have hdropped : isKept (strip (nameserverLine gatewayIp)) = false := by
      simp [strip_nameserverLine hword, isKept, hwords, keptKeywords]
    rw [preserved, hlines, List.map_cons, List.filter_cons_of_neg (by simp [hdropped]), hstrip]
    exact List.filter_eq_self.mpr fun line hline => (preserved_spec hline).2.1

end

/-- A configuration with a comment, a search list and a name server. -/
def sampleResolvConf : Text :=
  "# host\n search example.org\nnameserver 10.0.0.1\n".toList

theorem worker_resolver_names_relay_sample :
    resolverNameservers some (renderWorkerResolvConf sampleResolvConf "169.254.254.1".toList) =
        .ok ["169.254.254.1".toList] ∧
      preserved (renderWorkerResolvConf sampleResolvConf "169.254.254.1".toList) =
        preserved sampleResolvConf ∧
      unicodeLines (renderWorkerResolvConf sampleResolvConf "169.254.254.1".toList) =
        ["nameserver 169.254.254.1".toList, "search example.org".toList] :=
  worker_resolver_names_relay (by decide) rfl

end StorageNode.Generation
