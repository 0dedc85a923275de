import StorageNode.Text.Basic

/-!
# POSIX paths

`PurePosixPath`: a path is a root and a list of components. Empty components and `.` are dropped when a
path is read, `..` is kept, so containment (`isRelativeTo`) is a test on the components as written.

`resolveDots` reads the components as a walk from the root in which `..` leaves a directory. `climb`
does the same for a relative walk: it counts the directories above the start that the walk leaves, and
keeps the components it then enters. `foldl_enter` puts the two together.
-/

set_option autoImplicit false

namespace StorageNode

/-- A path. The root is empty, a slash, or two slashes. -/
structure PosixPath where
  root : Text
  components : List Text
  deriving DecidableEq

namespace PosixPath

/-- The root of a path text: exactly two leading slashes are kept. -/
def rootOf : Text → Text
  | '/' :: '/' :: '/' :: _ => ['/']
  | '/' :: '/' :: _ => ['/', '/']
  | '/' :: _ => ['/']
  | _ => []

/-- `Path(text)`. -/
def parse (text : Text) : PosixPath where
  root := rootOf text
  components := (text.splitOn '/').filter fun c => c ≠ [] ∧ c ≠ ['.']

/-- `str(path)`. -/
def text (path : PosixPath) : Text :=
  if path.root = [] ∧ path.components = [] then ['.']
  else path.root ++ ['/'].intercalate path.components

/-- `path.is_absolute()`. -/
def isAbsolute (path : PosixPath) : Bool :=
  decide (path.root ≠ [])

/-- `path.parts`. -/
def parts (path : PosixPath) : List Text :=
  if path.root = [] then path.components else path.root :: path.components

/-- `path / other`. -/
def join (path other : PosixPath) : PosixPath :=
  if other.root = [] then { path with components := path.components ++ other.components } else other

/-- `path.is_relative_to(other)`. -/
def isRelativeTo (path other : PosixPath) : Bool :=
  decide (path.root = other.root) && other.components.isPrefixOf path.components

/-- `path.name`. -/
def name (path : PosixPath) : Text :=
  path.components.getLast?.getD []

/-- `path.with_name(name)`, which raises for a path without a name and for a name that is not a single
component. -/
def withName (path : PosixPath) (name : Text) : Option PosixPath :=
  if path.name = [] ∨ name = [] ∨ name = ['.'] ∨ '/' ∈ name then none
  else some { path with components := path.components.dropLast ++ [name] }

/-- A text that is a single component is read as that component. -/
theorem parse_component {t : Text} (hne : t ≠ []) (hdot : t ≠ ['.']) (hslash : '/' ∉ t) :
    parse t = ⟨[], [t]⟩ := by
  have hroot : rootOf t = [] := by
    unfold rootOf
    split
    · simp at hslash
    · simp at hslash
    · simp at hslash
    · rfl
  rw [parse, hroot, List.splitOn_eq_singleton hslash]
  simp [hne, hdot]

/-- A text that is the name of its own path holds no slash. -/
theorem slash_not_mem_of_name_parse {t : Text} (h : (parse t).name = t) : '/' ∉ t := by
  unfold name at h
  cases hlast : (parse t).components.getLast? with
  | none =>
    rw [hlast, Option.getD_none] at h
    rw [← h]
    exact List.not_mem_nil
  | some component =>
    rw [hlast, Option.getD_some] at h
    rw [h] at hlast
    have hmem : t ∈ (parse t).components := List.mem_of_getLast? hlast
    exact not_mem_of_mem_splitOn '/' (List.mem_of_mem_filter hmem)

theorem isRelativeTo_iff {path other : PosixPath} : path.isRelativeTo other = true ↔
    path.root = other.root ∧ ∃ rest, path.components = other.components ++ rest := by
  simp only [isRelativeTo, Bool.and_eq_true, decide_eq_true_eq, List.isPrefixOf_iff_prefix]
  constructor
  · rintro ⟨hroot, rest, hrest⟩
    exact ⟨hroot, rest, hrest.symm⟩
  · rintro ⟨hroot, rest, hrest⟩
    exact ⟨hroot, rest, hrest.symm⟩

/-! ## Walking -/

/-- The parent directory. -/
def up : Text := ['.', '.']

/-- One step of a walk from the root; at the root `..` stays there. -/
def enter (place : List Text) (component : Text) : List Text :=
  if component = up then place.dropLast else place ++ [component]

/-- The components with every `..` taken. -/
def resolveDots (components : List Text) : List Text :=
  components.foldl enter []

theorem resolveDots_append (xs ys : List Text) :
    resolveDots (xs ++ ys) = ys.foldl enter (resolveDots xs) :=
  List.foldl_append

/-- A walk without `..` only goes down. -/
theorem foldl_enter_of_not_mem {components : List Text} (h : up ∉ components) (place : List Text) :
    components.foldl enter place = place ++ components := by
  induction components generalizing place with
  | nil => simp
  | cons component rest ih =>
    have hne : component ≠ up := fun heq => h (heq ▸ List.mem_cons_self)
    have hrest : up ∉ rest := fun hmem => h (List.mem_cons_of_mem _ hmem)
    rw [List.foldl_cons, ih hrest, enter, if_neg hne, List.append_assoc, List.singleton_append]

/-- A relative walk: how many directories above its start it leaves, and what it enters then. -/
structure Climb where
  above : Nat := 0
  below : List Text := []
  deriving DecidableEq

/-- One step of a relative walk. -/
def Climb.step (walk : Climb) (component : Text) : Climb :=
  if component = up then
    if walk.below = [] then { walk with above := walk.above + 1 }
    else { walk with below := walk.below.dropLast }
  else { walk with below := walk.below ++ [component] }

/-- The relative walk along some components. -/
def climb (components : List Text) : Climb :=
  components.foldl Climb.step {}

/-- A walk from a place leaves as many directories as its relative walk says and enters the rest. -/
theorem foldl_enter (place components : List Text) :
    components.foldl enter place =
      place.take (place.length - (climb components).above) ++ (climb components).below := by
  induction components using List.reverseRecOn with
  | nil => simp [climb]
  | append_singleton components component ih =>
    have hclimb : climb (components ++ [component]) = (climb components).step component := by
      simp [climb]
    rw [List.foldl_append, ih, hclimb]
    simp only [List.foldl_cons, List.foldl_nil, enter, Climb.step]
    by_cases hup : component = up
    · rw [if_pos hup, if_pos hup]
      by_cases hbelow : (climb components).below = []
      · rw [if_pos hbelow, hbelow, List.append_nil, List.append_nil, List.dropLast_eq_take,
          List.length_take, List.take_take]
        congr 1
        show min (min _ place.length - 1) _ = place.length - ((climb components).above + 1)
        omega
      · rw [if_neg hbelow, List.dropLast_append_of_ne_nil hbelow]
    · rw [if_neg hup, if_neg hup, List.append_assoc]

/-- A walk ends strictly below its start exactly when it enters again what it left, and more. -/
theorem foldl_enter_strictly_below (place components : List Text) :
    (place <+: components.foldl enter place ∧ components.foldl enter place ≠ place) ↔
      (place.drop (place.length - (climb components).above) <+: (climb components).below ∧
        (climb components).below ≠ place.drop (place.length - (climb components).above)) := by
  rw [foldl_enter]
  generalize place.length - (climb components).above = n
  generalize (climb components).below = below
  have hsplit : place.take n ++ place.drop n = place := List.take_append_drop n place
  constructor
  · rintro ⟨hbelow, hne⟩
    constructor
    · rw [← List.prefix_append_right_inj (place.take n), hsplit]
      exact hbelow
    · intro heq
      exact hne (by rw [heq, hsplit])
  · rintro ⟨hbelow, hne⟩
    constructor
    · have h := (List.prefix_append_right_inj (place.take n)).mpr hbelow
      rwa [hsplit] at h
    · intro heq
      apply hne
      rw [← List.append_cancel_left_eq (place.take n), heq, hsplit]

end PosixPath

end StorageNode
