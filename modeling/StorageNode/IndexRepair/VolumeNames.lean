import StorageNode.IndexRepair.Transaction
import StorageNode.Text.PosixPath

/-!
# The names of a volume's files

`safeBaseName` joins a collection and a volume id with an underscore. The collection comes from
upstream and may hold anything, underscores and digits included; the decimal text of the id holds no
underscore, so the last one of the name separates the two (`safeBaseName_injective`).

Every file that a repair reads or writes is named after the base name with a suffix, in a directory
of its own kind; temporary files carry the name of the file they will replace. No suffix, no
transaction id and no purpose of a temporary file holds a dot, so the last dots of a file name give
the base name back (`fileName_injective`). `volume_files_apart` concludes that the files of two
volumes never meet, and that none of them leaves its directory.

`IndexRepair.safeBaseName` is the same function on names that are kept as a pair
(`safeBaseName_base`), and the paths of two of its volumes are different places (`place_ne`).
-/

set_option autoImplicit false

namespace StorageNode.VolumeNames

/-! ## Texts that end after a separator -/

/-- The last separator of a text splits it in one way. -/
theorem append_separator_inj {α : Type*} {separator : α} {xs xs' ys ys' : List α}
    (hys : separator ∉ ys) (hys' : separator ∉ ys')
    (h : xs ++ separator :: ys = xs' ++ separator :: ys') : xs = xs' ∧ ys = ys' := by
  rcases List.append_eq_append_iff.1 h with ⟨between, hxs, hrest⟩ | ⟨between, hxs, hrest⟩
  · cases between with
    | nil =>
        obtain ⟨-, rfl⟩ := List.cons.inj hrest
        exact ⟨by rw [hxs, List.append_nil], rfl⟩
    | cons c between =>
        -- a longer first part would leave the other separator in `ys`
        obtain ⟨-, rfl⟩ := List.cons.inj hrest
        exact absurd (List.mem_append_right _ List.mem_cons_self) hys
  · cases between with
    | nil =>
        obtain ⟨-, rfl⟩ := List.cons.inj hrest
        exact ⟨by rw [hxs, List.append_nil], rfl⟩
    | cons c between =>
        obtain ⟨-, rfl⟩ := List.cons.inj hrest
        exact absurd (List.mem_append_right _ List.mem_cons_self) hys'

theorem toDigits_inj {m n : Nat} (h : Nat.toDigits 10 m = Nat.toDigits 10 n) : m = n := by
  rw [← Nat.ofDigitChars_ten_toDigits (n := m), h, Nat.ofDigitChars_ten_toDigits]

/-- A sign is no digit. -/
theorem sign_cons_ne_toDigits (t : Text) (n : Nat) : '-' :: t ≠ Nat.toDigits 10 n := by
  intro h
  have hmem : '-' ∈ Nat.toDigits 10 n := h ▸ List.mem_cons_self
  have hdigit := Nat.isDigit_of_mem_toDigits (by omega) (by omega) hmem
  exact absurd hdigit (by decide)

theorem ofInt_inj {m n : Int} (h : Text.ofInt m = Text.ofInt n) : m = n := by
  unfold Text.ofInt at h
  split at h
  · split at h
    · have habs := toDigits_inj (List.cons.inj h).2
      omega
    · exact absurd h (sign_cons_ne_toDigits _ _)
  · split at h
    · exact absurd h.symm (sign_cons_ne_toDigits _ _)
    · have habs := toDigits_inj h
      omega

theorem ofInt_ne_nil (n : Int) : Text.ofInt n ≠ [] := by
  unfold Text.ofInt
  split
  · exact List.cons_ne_nil _ _
  · exact Nat.toDigits_ne_nil

/-- A character that is neither a sign nor a digit does not occur in the text of an integer. -/
theorem not_mem_ofInt {c : Char} (hsign : c ≠ '-') (hdigit : c.isDigit = false) (n : Int) :
    c ∉ Text.ofInt n := by
  intro h
  rcases Text.mem_ofInt h with h | h
  · exact hsign h
  · rw [hdigit] at h
    exact Bool.noConfusion h

/-! ## Base names -/

/-- The local variable `base_name` of `_safe_base_name`. -/
def baseName (collection : Text) (volumeId : Int) : Text :=
  if collection = [] then Text.ofInt volumeId
  else collection ++ '_' :: Text.ofInt volumeId

/-- `_safe_base_name`. -/
def safeBaseName (collection : Text) (volumeId : Int) : Option Text :=
  let base := baseName collection volumeId
  if base = [] ∨ base ∈ [['.'], PosixPath.up] ∨ (PosixPath.parse base).name ≠ base ∨ '\x00' ∈ base then
    none
  else some base

/-- A text that names an entry of a directory. -/
structure SingleComponent (t : Text) : Prop where
  ne_nil : t ≠ []
  ne_dot : t ≠ ['.']
  ne_up : t ≠ PosixPath.up
  slash : '/' ∉ t
  nul : '\x00' ∉ t

theorem baseName_inj {collection collection' : Text} {volumeId volumeId' : Int}
    (h : baseName collection volumeId = baseName collection' volumeId') :
    collection = collection' ∧ volumeId = volumeId' := by
  have hno : ∀ n : Int, '_' ∉ Text.ofInt n := not_mem_ofInt (by decide) (by decide)
  unfold baseName at h
  split at h
  · rename_i hc
    split at h
    · rename_i hc'
      exact ⟨hc.trans hc'.symm, ofInt_inj h⟩
    · exact absurd (h ▸ List.mem_append_right _ List.mem_cons_self) (hno volumeId)
  · split at h
    · exact absurd (h.symm ▸ List.mem_append_right _ List.mem_cons_self) (hno volumeId')
    · obtain ⟨hc, hid⟩ := append_separator_inj (hno volumeId) (hno volumeId') h
      exact ⟨hc, ofInt_inj hid⟩

theorem safeBaseName_eq {collection base : Text} {volumeId : Int}
    (h : safeBaseName collection volumeId = some base) : base = baseName collection volumeId := by
  unfold safeBaseName at h
  dsimp only at h
  split at h
  · simp at h
  · exact (Option.some.inj h).symm

theorem safeBaseName_injective {collection collection' base : Text} {volumeId volumeId' : Int}
    (h : safeBaseName collection volumeId = some base)
    (h' : safeBaseName collection' volumeId' = some base) :
    collection = collection' ∧ volumeId = volumeId' :=
  baseName_inj ((safeBaseName_eq h).symm.trans (safeBaseName_eq h'))

theorem safeBaseName_singleComponent {collection base : Text} {volumeId : Int}
    (h : safeBaseName collection volumeId = some base) : SingleComponent base := by
  obtain rfl := safeBaseName_eq h
  unfold safeBaseName at h
  dsimp only at h
  split at h
  · simp at h
  · rename_i hsafe
    simp only [List.mem_cons, List.not_mem_nil, or_false, not_or, not_not, ne_eq] at hsafe
    obtain ⟨hne, ⟨hdot, hup⟩, hname, hnul⟩ := hsafe
    exact ⟨hne, hdot, hup, PosixPath.slash_not_mem_of_name_parse hname, hnul⟩

/-- The name ends with the text of the id, which holds what a name must hold and nothing else. -/
theorem mem_baseName_iff {c : Char} (hc : c = '/' ∨ c = '\x00') (collection : Text)
    (volumeId : Int) : c ∈ baseName collection volumeId ↔ c ∈ collection := by
  have hno : c ∉ Text.ofInt volumeId := by
    rcases hc with rfl | rfl
    · exact not_mem_ofInt (by decide) (by decide) volumeId
    · exact not_mem_ofInt (by decide) (by decide) volumeId
  have hseparator : c ≠ '_' := by
    rcases hc with rfl | rfl <;> decide
  unfold baseName
  split
  · rename_i hempty
    simp [hempty, hno]
  · simp [hno, hseparator]

/-- A base name is never empty and never consists of dots. -/
theorem baseName_ne_dots (collection : Text) (volumeId : Int) (n : Nat) :
    baseName collection volumeId ≠ List.replicate n '.' := by
  intro h
  have hdot : ∀ c ∈ Text.ofInt volumeId, c = '.' := by
    intro c hc
    apply List.eq_of_mem_replicate (n := n)
    rw [← h]
    unfold baseName
    split
    · exact hc
    · exact List.mem_append_right _ (List.mem_cons_of_mem _ hc)
  obtain ⟨c, hc⟩ := List.exists_mem_of_ne_nil _ (ofInt_ne_nil volumeId)
  have hno : '.' ∉ Text.ofInt volumeId := not_mem_ofInt (by decide) (by decide) volumeId
  exact hno (hdot c hc ▸ hc)

/-- Only a slash or a NUL in the collection makes a name unsafe. -/
theorem safeBaseName_eq_ite (collection : Text) (volumeId : Int) :
    safeBaseName collection volumeId =
      if '/' ∈ collection ∨ '\x00' ∈ collection then none
      else some (baseName collection volumeId) := by
  have hne : baseName collection volumeId ≠ [] := baseName_ne_dots collection volumeId 0
  have hdot : baseName collection volumeId ≠ ['.'] := baseName_ne_dots collection volumeId 1
  have hup : baseName collection volumeId ≠ PosixPath.up := baseName_ne_dots collection volumeId 2
  have hslash := mem_baseName_iff (.inl rfl) collection volumeId
  have hnul := mem_baseName_iff (.inr rfl) collection volumeId
  have hname : (PosixPath.parse (baseName collection volumeId)).name = baseName collection volumeId ↔
      '/' ∉ collection := by
    rw [← hslash]
    constructor
    · exact PosixPath.slash_not_mem_of_name_parse
    · intro h
      rw [PosixPath.parse_component hne hdot h]
      rfl
  unfold safeBaseName
  simp only [hne, hdot, hup, hname, hnul, List.mem_cons, List.not_mem_nil, or_false, false_or,
    ne_eq, not_not]

/-! ## Files -/

/-- `uuid.uuid4().hex`. -/
abbrev HexId :=
  { t : Text // t.length = 32 ∧ ∀ c ∈ t, c.isDigit = true ∨ c ∈ ['a', 'b', 'c', 'd', 'e', 'f'] }

theorem HexId.not_mem (id : HexId) {c : Char} (hdigit : c.isDigit = false)
    (hletter : c ∉ ['a', 'b', 'c', 'd', 'e', 'f']) : c ∉ id.val := by
  intro hmem
  rcases id.property.2 c hmem with h | h
  · rw [hdigit] at h
    exact Bool.noConfusion h
  · exact hletter h

/-- The name of a directory under `staging`: that of a transaction or of a source preflight. -/
inductive Staging where
  | transaction (id : HexId)
  | preflight (id : HexId)
  deriving DecidableEq

def Staging.name : Staging → Text
  | .transaction id => id.val
  | .preflight id => "preflight-".toList ++ id.val

/-- The files that are named after a volume. -/
inductive VolumeFile where
  | dat
  | liveIdx
  | liveSdx
  | stagedDat (staging : Staging)
  | candidate (staging : Staging)
  | sourceBind (staging : Staging)
  | maskedDat (staging : Staging)
  | backupIdx (transaction : HexId)
  | backupSdx (transaction : HexId)
  | incompleteTail (transaction : HexId)
  deriving DecidableEq

/-- What follows the last dot of the file's name. -/
def VolumeFile.extension : VolumeFile → Text
  | .dat | .stagedDat _ | .sourceBind _ | .maskedDat _ => ['d', 'a', 't']
  | .liveIdx | .candidate _ | .backupIdx _ => ['i', 'd', 'x']
  | .liveSdx | .backupSdx _ => ['s', 'd', 'x']
  | .incompleteTail _ => ['i', 'n', 'c', 'o', 'm', 'p', 'l', 'e', 't', 'e', '-', 't', 'a', 'i', 'l']

/-- `f"{base_name}.idx"` and its like. -/
def VolumeFile.nameOf (file : VolumeFile) (base : Text) : Text :=
  base ++ '.' :: file.extension

/-- `config.volume_path` and `config.index_path`. -/
structure Dirs where
  volumePath : PosixPath
  indexPath : PosixPath

/-- `config.index_repair_path`. -/
def Dirs.repair (dirs : Dirs) : PosixPath :=
  dirs.indexPath.join (PosixPath.parse ".s3-storage-node-repair".toList)

/-- A directory under `RepairJournal.staging_dir`. -/
def Dirs.staging (dirs : Dirs) (staging : Staging) : PosixPath :=
  (dirs.repair.join (PosixPath.parse "staging".toList)).join (PosixPath.parse staging.name)

/-- A directory under `RepairJournal.backup_dir`. -/
def Dirs.backup (dirs : Dirs) (transaction : HexId) : PosixPath :=
  (dirs.repair.join (PosixPath.parse "backups".toList)).join (PosixPath.parse transaction.val)

/-- The directory of a file. -/
def VolumeFile.directory (dirs : Dirs) : VolumeFile → PosixPath
  | .dat => dirs.volumePath
  | .liveIdx | .liveSdx => dirs.indexPath
  | .stagedDat staging | .candidate staging => dirs.staging staging
  | .sourceBind staging => (dirs.staging staging).join (PosixPath.parse ".source".toList)
  | .maskedDat staging => (dirs.staging staging).join (PosixPath.parse ".masked".toList)
  | .backupIdx transaction | .backupSdx transaction | .incompleteTail transaction =>
      dirs.backup transaction

/-- `directory / f"{base_name}.idx"` and its like. -/
def VolumeFile.path (dirs : Dirs) (base : Text) (file : VolumeFile) : PosixPath :=
  (file.directory dirs).join (PosixPath.parse (file.nameOf base))

/-- What a temporary file is written for. -/
inductive Purpose where
  | copying
  | installing
  | restoring
  deriving DecidableEq

def Purpose.text : Purpose → Text
  | .copying => ['c', 'o', 'p', 'y', 'i', 'n', 'g']
  | .installing => ['i', 'n', 's', 't', 'a', 'l', 'l', 'i', 'n', 'g']
  | .restoring => ['r', 'e', 's', 't', 'o', 'r', 'i', 'n', 'g']

/-- A file itself, or a temporary file that will replace it. -/
inductive Naming where
  | itself
  | temporary (id : HexId) (purpose : Purpose)
  deriving DecidableEq

/-- The name `f".{name}.{id}.installing"` and its like. -/
def Naming.apply : Naming → Text → Text
  | .itself, name => name
  | .temporary id purpose, name => '.' :: (name ++ '.' :: (id.val ++ '.' :: purpose.text))

/-- Where a file of a volume is. A temporary file gets its path with `with_name`, which may raise. -/
def location (dirs : Dirs) (base : Text) (file : VolumeFile) : Naming → Option PosixPath
  | .itself => some (file.path dirs base)
  | .temporary id purpose =>
      (file.path dirs base).withName
        ((Naming.temporary id purpose).apply (file.path dirs base).name)

/-- The last component of `location`. -/
def fileName (base : Text) (file : VolumeFile) (naming : Naming) : Text :=
  naming.apply (file.nameOf base)

/-- Every extension of a file. -/
def extensions : List Text :=
  [['d', 'a', 't'], ['i', 'd', 'x'], ['s', 'd', 'x'],
    ['i', 'n', 'c', 'o', 'm', 'p', 'l', 'e', 't', 'e', '-', 't', 'a', 'i', 'l']]

theorem VolumeFile.extension_mem (file : VolumeFile) : file.extension ∈ extensions := by
  cases file <;> simp [VolumeFile.extension, extensions]

theorem VolumeFile.dot_not_mem_extension (file : VolumeFile) : '.' ∉ file.extension := by
  have hall : ∀ extension ∈ extensions, '.' ∉ extension := by decide
  exact hall _ file.extension_mem

theorem Purpose.dot_not_mem_text (purpose : Purpose) : '.' ∉ purpose.text := by
  cases purpose <;> decide

theorem extension_ne_purpose (file : VolumeFile) (purpose : Purpose) :
    file.extension ≠ purpose.text := by
  have hall : ∀ extension ∈ extensions, extension ≠ purpose.text := by
    cases purpose <;> decide
  exact hall _ file.extension_mem

/-- The name of a temporary file, with the dots of its end in front. -/
theorem fileName_temporary (base : Text) (file : VolumeFile) (id : HexId) (purpose : Purpose) :
    fileName base file (.temporary id purpose) =
      (('.' :: file.nameOf base) ++ '.' :: id.val) ++ '.' :: purpose.text := by
  simp [fileName, Naming.apply]

/-- The name of a file determines the volume it belongs to. -/
theorem fileName_injective {base base' : Text} {file file' : VolumeFile} {naming naming' : Naming}
    (h : fileName base file naming = fileName base' file' naming') : base = base' := by
  have hdot := VolumeFile.dot_not_mem_extension
  have hend := Purpose.dot_not_mem_text
  cases naming with
  | itself =>
      cases naming' with
      | itself => exact (append_separator_inj (hdot file) (hdot file') h).1
      | temporary id purpose =>
          rw [fileName_temporary] at h
          have hextension := (append_separator_inj (hdot file) (hend purpose) h).2
          exact absurd hextension (extension_ne_purpose file purpose)
  | temporary id purpose =>
      cases naming' with
      | itself =>
          rw [fileName_temporary] at h
          have hextension := (append_separator_inj (hend purpose) (hdot file') h).2
          exact absurd hextension.symm (extension_ne_purpose file' purpose)
      | temporary id' purpose' =>
          rw [fileName_temporary, fileName_temporary] at h
          have hid : '.' ∉ id.val := id.not_mem (by decide) (by decide)
          have hid' : '.' ∉ id'.val := id'.not_mem (by decide) (by decide)
          have hfront := (append_separator_inj (hend purpose) (hend purpose') h).1
          have hname := (append_separator_inj hid hid' hfront).1
          exact (append_separator_inj (hdot file) (hdot file') (List.cons.inj hname).2).1

/-! ## Locations -/

/-- A text with a dot behind its start is a single component as soon as it holds no slash and no
NUL. -/
theorem singleComponent_of_dot_inside {xs ys : Text} (hxs : xs ≠ []) (hys : ys ≠ [])
    (hslash : '/' ∉ xs ++ '.' :: ys) (hnul : '\x00' ∉ xs ++ '.' :: ys) :
    SingleComponent (xs ++ '.' :: ys) := by
  have hx : 0 < xs.length := List.length_pos_of_ne_nil hxs
  have hy : 0 < ys.length := List.length_pos_of_ne_nil hys
  have hlong : 3 ≤ (xs ++ '.' :: ys).length := by
    rw [List.length_append, List.length_cons]
    omega
  constructor
  · intro h
    rw [h] at hlong
    exact absurd hlong (by decide)
  · intro h
    rw [h] at hlong
    exact absurd hlong (by decide)
  · intro h
    rw [h] at hlong
    exact absurd hlong (by decide)
  · exact hslash
  · exact hnul

theorem extension_plain (file : VolumeFile) :
    file.extension ≠ [] ∧ '/' ∉ file.extension ∧ '\x00' ∉ file.extension := by
  have hall : ∀ extension ∈ extensions,
      extension ≠ [] ∧ '/' ∉ extension ∧ '\x00' ∉ extension := by decide
  exact hall _ file.extension_mem

theorem purpose_plain (purpose : Purpose) :
    purpose.text ≠ [] ∧ '/' ∉ purpose.text ∧ '\x00' ∉ purpose.text := by
  cases purpose <;> decide

theorem nameOf_singleComponent {base : Text} (h : SingleComponent base) (file : VolumeFile) :
    SingleComponent (file.nameOf base) := by
  obtain ⟨hne, hslash, hnul⟩ := extension_plain file
  apply singleComponent_of_dot_inside h.ne_nil hne
  · simp [h.slash, hslash]
  · simp [h.nul, hnul]

theorem fileName_singleComponent {base : Text} (h : SingleComponent base) (file : VolumeFile)
    (naming : Naming) : SingleComponent (fileName base file naming) := by
  have hname := nameOf_singleComponent h file
  cases naming with
  | itself => exact hname
  | temporary id purpose =>
      obtain ⟨hne, hslash, hnul⟩ := purpose_plain purpose
      have hidSlash : '/' ∉ id.val := id.not_mem (by decide) (by decide)
      have hidNul : '\x00' ∉ id.val := id.not_mem (by decide) (by decide)
      rw [fileName_temporary]
      apply singleComponent_of_dot_inside (List.cons_ne_nil _ _) hne
      · simp [hname.slash, hslash, hidSlash]
      · simp [hname.nul, hnul, hidNul]

/-- A path for which a directory is extended by one single component. -/
structure DirectlyIn (directory path : PosixPath) : Prop where
  root : path.root = directory.root
  entry : ∃ name, SingleComponent name ∧ path.components = directory.components ++ [name]

/-- The path with every `..` taken. -/
def resolved (path : PosixPath) : PosixPath :=
  { path with components := PosixPath.resolveDots path.components }

/-- An entry of a directory stays in it when every `..` is taken. -/
theorem DirectlyIn.resolved {directory path : PosixPath} (h : DirectlyIn directory path) :
    DirectlyIn (VolumeNames.resolved directory) (VolumeNames.resolved path) := by
  obtain ⟨hroot, name, hname, hcomponents⟩ := h
  refine ⟨hroot, name, hname, ?_⟩
  show PosixPath.resolveDots path.components = PosixPath.resolveDots directory.components ++ [name]
  rw [hcomponents, PosixPath.resolveDots_append]
  exact if_neg hname.ne_up

theorem path_eq {base : Text} (h : SingleComponent base) (dirs : Dirs) (file : VolumeFile) :
    file.path dirs base =
      { root := (file.directory dirs).root
        components := (file.directory dirs).components ++ [file.nameOf base] } := by
  have hname := nameOf_singleComponent h file
  rw [VolumeFile.path, PosixPath.parse_component hname.ne_nil hname.ne_dot hname.slash]
  rfl

/-- Every file of a volume with a safe name is an entry of its directory. -/
theorem location_eq {base : Text} (h : SingleComponent base) (dirs : Dirs) (file : VolumeFile)
    (naming : Naming) : location dirs base file naming =
      some {
        root := (file.directory dirs).root
        components := (file.directory dirs).components ++ [fileName base file naming] } := by
  cases naming with
  | itself => exact congrArg some (path_eq h dirs file)
  | temporary id purpose =>
      have hname := nameOf_singleComponent h file
      have htemporary := fileName_singleComponent h file (.temporary id purpose)
      rw [location, path_eq h]
      have hlast : PosixPath.name {
          root := (file.directory dirs).root
          components := (file.directory dirs).components ++ [file.nameOf base] } =
          file.nameOf base := by
        simp [PosixPath.name]
      rw [hlast, PosixPath.withName, hlast, if_neg, List.dropLast_concat]
      · rfl
      · rintro (hbad | hbad | hbad | hbad)
        · exact hname.ne_nil hbad
        · exact htemporary.ne_nil hbad
        · exact htemporary.ne_dot hbad
        · exact htemporary.slash hbad

/-- Files of volumes with different names are different, even when every `..` of their directories is
taken: the last components differ. -/
theorem resolved_ne {base base' : Text} (h : SingleComponent base) (h' : SingleComponent base')
    (hne : base ≠ base') {dirs : Dirs} {file file' : VolumeFile} {naming naming' : Naming}
    {path path' : PosixPath} (hpath : location dirs base file naming = some path)
    (hpath' : location dirs base' file' naming' = some path') : resolved path ≠ resolved path' := by
  rw [location_eq h] at hpath
  rw [location_eq h'] at hpath'
  obtain rfl := Option.some.inj hpath
  obtain rfl := Option.some.inj hpath'
  have hup := (fileName_singleComponent h file naming).ne_up
  have hup' := (fileName_singleComponent h' file' naming').ne_up
  intro heq
  have hcomponents := congrArg PosixPath.components heq
  simp only [resolved, PosixPath.resolveDots_append, List.foldl_cons, List.foldl_nil,
    PosixPath.enter, hup, hup', if_false] at hcomponents
  have hname : fileName base file naming = fileName base' file' naming' := by
    simpa using congrArg List.getLast? hcomponents
  exact hne (fileName_injective hname)

/-- Accepted names are injective and single components. Every file of the volume, temporary ones
included, is an entry of its directory, and it is no file of another volume, even when every `..` of
the two directories is taken. -/
theorem volume_files_apart {collection collection' base base' : Text} {volumeId volumeId' : Int}
    (h : safeBaseName collection volumeId = some base)
    (h' : safeBaseName collection' volumeId' = some base') :
    (base = base' → collection = collection' ∧ volumeId = volumeId') ∧
      SingleComponent base ∧
      ∀ (dirs : Dirs) (file : VolumeFile) (naming : Naming),
        ∃ path, location dirs base file naming = some path ∧
          DirectlyIn (file.directory dirs) path ∧
          DirectlyIn (resolved (file.directory dirs)) (resolved path) ∧
          ∀ (file' : VolumeFile) (naming' : Naming) (path' : PosixPath),
            location dirs base' file' naming' = some path' →
              (collection, volumeId) ≠ (collection', volumeId') → resolved path ≠ resolved path' := by
  have hbase := safeBaseName_singleComponent h
  have hbase' := safeBaseName_singleComponent h'
  have hinj : base = base' → collection = collection' ∧ volumeId = volumeId' := by
    rintro rfl
    exact safeBaseName_injective h h'
  refine ⟨hinj, hbase, ?_⟩
  -- every file lies directly in its directory, under a name that holds the base name
  intro dirs file naming
  have hin : DirectlyIn (file.directory dirs) {
      root := (file.directory dirs).root
      components := (file.directory dirs).components ++ [fileName base file naming] } :=
    ⟨rfl, _, fileName_singleComponent hbase file naming, rfl⟩
  refine ⟨_, location_eq hbase dirs file naming, hin, hin.resolved, ?_⟩
  intro file' naming' path' hpath' hne
  -- two files with one resolved path have one base name
  apply resolved_ne hbase hbase' _ (location_eq hbase dirs file naming) hpath'
  intro heq
  obtain ⟨hcollection, hid⟩ := hinj heq
  exact hne (by rw [hcollection, hid])

/-- An underscore in a collection does not bring two volumes together: `a_1` with id 2 and `a` with
id 12 keep apart, although both names are made of `a`, `1`, `2` and underscores. -/
theorem volume_files_apart_underscore :
    SingleComponent ['a', '_', '1', '_', '2'] ∧
      ∀ (dirs : Dirs) (id : HexId),
        ∃ path, location dirs ['a', '_', '1', '_', '2'] .liveIdx (.temporary id .installing) = some path ∧
          DirectlyIn dirs.indexPath path ∧
          ∀ path', location dirs ['a', '_', '1', '2'] .liveIdx (.temporary id .installing) = some path' →
            resolved path ≠ resolved path' := by
  obtain ⟨-, hsingle, hfiles⟩ := volume_files_apart
    (show safeBaseName ['a', '_', '1'] 2 = some ['a', '_', '1', '_', '2'] by decide)
    (show safeBaseName ['a'] 12 = some ['a', '_', '1', '2'] by decide)
  refine ⟨hsingle, ?_⟩
  intro dirs id
  obtain ⟨path, hpath, hin, -, hapart⟩ := hfiles dirs .liveIdx (.temporary id .installing)
  exact ⟨path, hpath, hin, fun path' hpath' => hapart _ _ path' hpath' (by decide)⟩

/-! ## The names behind the controller's paths -/

/-- The text of a base name. -/
def nameOfBase (base : IndexRepair.Base) : Text :=
  baseName base.collection.toList base.volumeId

/-- The controller's `safeBaseName` keeps the two parts of the name that this function joins. -/
theorem safeBaseName_base (collection : String) (volumeId : Int) :
    (IndexRepair.safeBaseName collection volumeId).map nameOfBase =
      safeBaseName collection.toList volumeId := by
  rw [safeBaseName_eq_ite, IndexRepair.safeBaseName]
  split <;> rfl

/-- The file and the naming behind a path of the controller, for transaction ids written as `hex`
says. A path with a random name stands for several files. -/
def fileOf (hex : IndexRepair.TxId → HexId) : IndexRepair.Path → Option (VolumeFile × Naming)
  | .dat _ => some (.dat, .itself)
  | .liveIdx _ => some (.liveIdx, .itself)
  | .liveSdx _ => some (.liveSdx, .itself)
  | .candidate tx => some (.candidate (.transaction (hex tx)), .itself)
  | .installing tx => some (.liveIdx, .temporary (hex tx) .installing)
  | .backupIdx tx => some (.backupIdx (hex tx), .itself)
  | .backupSdx tx => some (.backupSdx (hex tx), .itself)
  | .incompleteTail tx => some (.incompleteTail (hex tx), .itself)
  | .scratch _ => none

/-- Where a path of the controller is. -/
def place (hex : IndexRepair.TxId → HexId) (dirs : Dirs) (path : IndexRepair.Path) :
    Option PosixPath :=
  (fileOf hex path).bind fun file => location dirs (nameOfBase path.base) file.1 file.2

/-- The controller's paths of two volumes with accepted names are different places. -/
theorem place_ne {hex : IndexRepair.TxId → HexId} {dirs : Dirs} {path path' : IndexRepair.Path}
    {spot spot' : PosixPath} {name name' : Text}
    (hname : safeBaseName path.base.collection.toList path.base.volumeId = some name)
    (hname' : safeBaseName path'.base.collection.toList path'.base.volumeId = some name')
    (hspot : place hex dirs path = some spot) (hspot' : place hex dirs path' = some spot')
    (hbase : path.base ≠ path'.base) : resolved spot ≠ resolved spot' := by
  obtain ⟨_, -, hlocation⟩ := Option.bind_eq_some_iff.1 hspot
  obtain ⟨_, -, hlocation'⟩ := Option.bind_eq_some_iff.1 hspot'
  obtain rfl := safeBaseName_eq hname
  obtain rfl := safeBaseName_eq hname'
  apply resolved_ne (safeBaseName_singleComponent hname) (safeBaseName_singleComponent hname') _
    hlocation hlocation'
  intro heq
  obtain ⟨hcollection, hid⟩ := baseName_inj heq
  apply hbase
  calc path.base
      = ⟨path.base.collection, path.base.volumeId⟩ := rfl
    _ = ⟨path'.base.collection, path'.base.volumeId⟩ := by
        rw [String.toList_inj.1 hcollection, hid]
    _ = path'.base := rfl

end StorageNode.VolumeNames
