import StorageNode.Json.Value
import StorageNode.Transport.Failover

/-!
# The sentinel of a dataset

`sentinel_v2_payload` and `validate_sentinel_payload` of `sentinel`. The document names a dataset and
no route to it: what the validation reads of a target is its `sentinel_id`, its name and its
subdirectory (`SameDataset`), which the transports of a failover configuration share.
-/

set_option autoImplicit false

namespace StorageNode.Sentinel

open StorageNode.Json (Value)
open StorageNode.Config (TargetConfig bind_eq_ok)
open StorageNode.Transport

/-- `SENTINEL_SCHEMA`. -/
def schemaName : String := "s3-storage-node/dataset-sentinel"

/-- `CURRENT_SENTINEL_VERSION`. -/
def currentVersion : Int := 2

/-- `SentinelIdentity`. -/
structure SentinelIdentity where
  version : Int
  schema : String
  datasetId : String
  target : String
  subdirectory : String
  legacy : Bool := false
  deriving DecidableEq

/-! ## Writing and reading the document -/

/-- `sentinel_v2_payload`. -/
def sentinelV2Payload (target : TargetConfig) : List (String × Value) :=
  [("schema", .str schemaName), ("version", .int currentVersion),
    ("sentinel_id", .str (String.ofList target.sentinelId)),
    ("dataset_id", .str (String.ofList target.sentinelId)),
    ("target", .str (String.ofList target.name)),
    ("subdirectory", .str (String.ofList target.subdirectory)),
    ("transport_independent", .bool true)]

/-- `_string`. -/
def stringField (payload : List (String × Value)) (field : String) : Except String String :=
  match Value.get? payload field with
  | some (.str value) =>
    if value = "" then .error s!"sentinel field '{field}' must be a non-empty string" else .ok value
  | _ => .error s!"sentinel field '{field}' must be a non-empty string"

/-- `payload.get("version", 1)`. A boolean is no version. -/
def versionField (payload : List (String × Value)) : Except String Int :=
  match Value.get? payload "version" with
  | none => .ok 1
  | some (.int version) => .ok version
  | some _ => .error "sentinel version must be an integer"

/-- The target that a document of version 1 may name, where `None` stands for no name. -/
def legacyTarget (payload : List (String × Value)) : Except String String :=
  match Value.get? payload "target" with
  | none | some .null => .ok ""
  | some (.str value) => .ok value
  | some _ => .error "legacy sentinel target must be a string when present"

/-- The subdirectory of a document, which may be empty. -/
def subdirectoryField (payload : List (String × Value)) : Except String String :=
  match Value.get? payload "subdirectory" with
  | some (.str value) => .ok value
  | _ => .error "sentinel field 'subdirectory' must be a string"

/-- `payload.get("transport_independent") is not True`. -/
def requireIndependence (payload : List (String × Value)) : Except String Unit :=
  match Value.get? payload "transport_independent" with
  | some (.bool true) => .ok ()
  | _ => .error "sentinel V2 must declare transport_independent=true"

section

variable (repr : String → String) (target : TargetConfig)

/-- The branch for version 1. -/
def validateLegacy (payload : List (String × Value)) : Except String SentinelIdentity := do
  let sentinelId ← stringField payload "sentinel_id"
  if sentinelId ≠ String.ofList target.sentinelId then
    throw (s!"sentinel mismatch for {String.ofList target.name}: expected " ++
      s!"{String.ofList target.sentinelId}, got {sentinelId}")
  let name ← legacyTarget payload
  pure { version := 1
         schema := "legacy-v1"
         datasetId := sentinelId
         target := if name = "" then String.ofList target.name else name
         subdirectory := String.ofList target.subdirectory
         legacy := true }

/-- The comparisons of a document of version 2 with the target. -/
def compareIdentity (sentinelId : String) (identity : SentinelIdentity) :
    Except String SentinelIdentity := do
  let expected := String.ofList target.sentinelId
  let name := String.ofList target.name
  if sentinelId ≠ expected ∨ identity.datasetId ≠ expected then
    let observed := if identity.datasetId ≠ expected then identity.datasetId else sentinelId
    throw s!"sentinel dataset mismatch for {name}: expected {expected}, got {observed}"
  if sentinelId ≠ identity.datasetId then
    throw "sentinel_id and dataset_id must identify the same logical dataset"
  if identity.target ≠ name then
    throw s!"sentinel target mismatch: expected {name}, got {identity.target}"
  if identity.subdirectory ≠ String.ofList target.subdirectory then
    throw (s!"sentinel subdirectory mismatch for {name}: expected " ++
      s!"{repr (String.ofList target.subdirectory)}, got {repr identity.subdirectory}")
  pure identity

/-- The branch for version 2. -/
def validateCurrent (payload : List (String × Value)) : Except String SentinelIdentity := do
  let schema ← stringField payload "schema"
  if schema ≠ schemaName then throw s!"unexpected sentinel schema: {schema}"
  let sentinelId ← stringField payload "sentinel_id"
  let datasetId ← stringField payload "dataset_id"
  let name ← stringField payload "target"
  let subdirectory ← subdirectoryField payload
  requireIndependence payload
  compareIdentity repr target sentinelId
    { version := currentVersion
      schema := schema
      datasetId := datasetId
      target := name
      subdirectory := subdirectory }

/-- `validate_sentinel_payload`. The spelling of a quoted text is left open. -/
def validateSentinelPayload : Value → Except String SentinelIdentity
  | .object payload => do
    let version ← versionField payload
    if version = 1 then validateLegacy target payload
    else if version ≠ currentVersion then
      throw (s!"unsupported sentinel version {version}; supported versions are 1 and " ++
        s!"{currentVersion}")
    else validateCurrent repr target payload
  | _ => .error "sentinel document must be a JSON object"

end

/-! ## What is accepted -/

/-- What a sentinel tells of a target. -/
structure SameDataset (a b : TargetConfig) : Prop where
  sentinelId : a.sentinelId = b.sentinelId
  name : a.name = b.name
  subdirectory : a.subdirectory = b.subdirectory

section

variable {payload : List (String × Value)}

theorem stringField_ok {field value : String} : stringField payload field = .ok value ↔
    Value.get? payload field = some (.str value) ∧ value ≠ "" := by
  rw [stringField]
  split
  · rename_i found hfound
    split
    · rename_i hempty
      simp [hfound, hempty]
    · rename_i hne
      rw [hfound]
      constructor
      · intro h
        injection h with h
        subst h
        exact ⟨rfl, hne⟩
      · rintro ⟨h, -⟩
        injection h with h
        injection h with h
        rw [h]
  · rename_i hother
    simp only [reduceCtorEq, false_iff, not_and]
    intro h
    exact (hother value h).elim

/-- What version 1 asks of a document. -/
theorem validateLegacy_ok {target : TargetConfig} {identity : SentinelIdentity}
    (h : validateLegacy target payload = .ok identity) :
    Value.get? payload "sentinel_id" = some (.str (String.ofList target.sentinelId)) := by
  obtain ⟨sentinelId, hid, h⟩ := bind_eq_ok.mp h
  by_cases hsame : sentinelId = String.ofList target.sentinelId
  · rw [← hsame]
    exact (stringField_ok.mp hid).1
  · rw [if_pos hsame] at h
    obtain ⟨_, hthrow, -⟩ := bind_eq_ok.mp h
    injection hthrow

theorem compareIdentity_ok {repr : String → String} {target : TargetConfig} {sentinelId : String}
    {identity identity' : SentinelIdentity} :
    compareIdentity repr target sentinelId identity = .ok identity' ↔
      identity' = identity ∧ sentinelId = String.ofList target.sentinelId ∧
        identity.datasetId = String.ofList target.sentinelId ∧
        identity.target = String.ofList target.name ∧
        identity.subdirectory = String.ofList target.subdirectory := by
  by_cases hid : sentinelId = String.ofList target.sentinelId
  · by_cases hdataset : identity.datasetId = String.ofList target.sentinelId
    · by_cases hname : identity.target = String.ofList target.name
      · by_cases hsubdirectory : identity.subdirectory = String.ofList target.subdirectory
        · simp [compareIdentity, hid, hdataset, hname, hsubdirectory, pure, Except.pure, eq_comm]
        · simp [compareIdentity, hid, hdataset, hname, hsubdirectory, throw, throwThe,
            MonadExceptOf.throw, bind, Except.bind]
      · simp [compareIdentity, hid, hdataset, hname, throw, throwThe, MonadExceptOf.throw, bind,
          Except.bind]
    · simp [compareIdentity, hdataset, throw, throwThe, MonadExceptOf.throw, bind, Except.bind]
  · simp [compareIdentity, hid, throw, throwThe, MonadExceptOf.throw, bind, Except.bind]

/-- What version 2 asks of a document. -/
theorem validateCurrent_ok {repr : String → String} {target : TargetConfig}
    {identity : SentinelIdentity} (h : validateCurrent repr target payload = .ok identity) :
    Value.get? payload "sentinel_id" = some (.str (String.ofList target.sentinelId)) ∧
      identity.datasetId = String.ofList target.sentinelId ∧
      identity.target = String.ofList target.name ∧
      identity.subdirectory = String.ofList target.subdirectory := by
  obtain ⟨schema, -, h⟩ := bind_eq_ok.mp h
  by_cases hschema : schema = schemaName
  · rw [if_neg (not_not_intro hschema)] at h
    obtain ⟨sentinelId, hid, h⟩ := bind_eq_ok.mp h
    obtain ⟨datasetId, -, h⟩ := bind_eq_ok.mp h
    obtain ⟨name, -, h⟩ := bind_eq_ok.mp h
    obtain ⟨subdirectory, -, h⟩ := bind_eq_ok.mp h
    obtain ⟨-, -, h⟩ := bind_eq_ok.mp h
    obtain ⟨rfl, rfl, hrest⟩ := compareIdentity_ok.mp h
    exact ⟨(stringField_ok.mp hid).1, hrest⟩
  · rw [if_pos hschema] at h
    obtain ⟨_, hthrow, -⟩ := bind_eq_ok.mp h
    injection hthrow

end

/-- An accepted document names the dataset of the target, under a version that is known. -/
theorem accepted_document {repr : String → String} {target : TargetConfig} {payload : Value}
    {identity : SentinelIdentity} (h : validateSentinelPayload repr target payload = .ok identity) :
    ∃ members, payload = .object members ∧
      Value.get? members "sentinel_id" = some (.str (String.ofList target.sentinelId)) ∧
      (Value.get? members "version" = none ∨ Value.get? members "version" = some (.int 1) ∨
        Value.get? members "version" = some (.int 2)) := by
  cases payload with
  | object members =>
    obtain ⟨version, hversion, h⟩ := bind_eq_ok.mp h
    -- an absent version is version one
    have hfield : Value.get? members "version" = none ∧ version = 1 ∨
        Value.get? members "version" = some (.int version) := by
      rw [versionField] at hversion
      split at hversion
      · rename_i habsent
        injection hversion with hversion
        exact .inl ⟨habsent, hversion.symm⟩
      · rename_i found hfound
        injection hversion with hversion
        rw [hfound, hversion]
        exact .inr rfl
      · injection hversion
    refine ⟨members, rfl, ?_⟩
    by_cases hlegacy : version = 1
    · rw [if_pos hlegacy] at h
      subst hlegacy
      exact ⟨validateLegacy_ok h, hfield.imp And.left .inl⟩
    · rw [if_neg hlegacy] at h
      by_cases hcurrent : version = currentVersion
      · rw [if_neg (not_not_intro hcurrent)] at h
        subst hcurrent
        have hversion : Value.get? members "version" = some (.int 2) := by
          apply hfield.resolve_left
          rintro ⟨-, hone⟩
          exact hlegacy hone
        exact ⟨(validateCurrent_ok h).1, .inr (.inr hversion)⟩
      · rw [if_pos hcurrent] at h
        injection h
  | null | bool _ | int _ | float _ | str _ | array _ => injection h

/-- The validation of a document that another target has written comes down to the comparisons. -/
theorem validateSentinelPayload_written (repr : String → String) {a b : TargetConfig}
    (hname : a.name ≠ []) (hid : a.sentinelId ≠ []) :
    validateSentinelPayload repr b (.object (sentinelV2Payload a)) =
      compareIdentity repr b (String.ofList a.sentinelId)
        { version := currentVersion
          schema := schemaName
          datasetId := String.ofList a.sentinelId
          target := String.ofList a.name
          subdirectory := String.ofList a.subdirectory } := by
  have hstring : ∀ {field : String} {text : Text}, text ≠ [] →
      Value.get? (sentinelV2Payload a) field = some (.str (String.ofList text)) →
      stringField (sentinelV2Payload a) field = .ok (String.ofList text) := by
    intro field text hne hget
    apply stringField_ok.mpr
    exact ⟨hget, fun hempty => hne (by simpa using congrArg String.toList hempty)⟩
  have hschema : stringField (sentinelV2Payload a) "schema" = .ok schemaName := rfl
  change validateCurrent repr b (sentinelV2Payload a) = _
  rw [validateCurrent, hschema, hstring hid rfl, hstring hid rfl, hstring hname rfl]
  rfl

/-- A target accepts the document that another target writes exactly when both name one dataset. -/
theorem accepts_written_iff (repr : String → String) {a b : TargetConfig} (hname : a.name ≠ [])
    (hid : a.sentinelId ≠ []) :
    (∃ identity, validateSentinelPayload repr b (.object (sentinelV2Payload a)) = .ok identity) ↔
      SameDataset a b := by
  rw [validateSentinelPayload_written repr hname hid]
  constructor
  · rintro ⟨identity, h⟩
    obtain ⟨-, hsentinel, -, htarget, hsubdirectory⟩ := compareIdentity_ok.mp h
    exact ⟨String.ofList_injective hsentinel, String.ofList_injective htarget,
      String.ofList_injective hsubdirectory⟩
  · intro h
    refine ⟨_, compareIdentity_ok.mpr ⟨rfl, ?_, ?_, ?_, ?_⟩⟩
    · rw [h.sentinelId]
    · rw [h.sentinelId]
    · rw [h.name]
    · rw [h.subdirectory]

/-! ## Routes -/

/-- The validation reads nothing of a target but what its dataset determines. -/
theorem validate_congr (repr : String → String) {a b : TargetConfig} (h : SameDataset a b)
    (payload : Value) :
    validateSentinelPayload repr a payload = validateSentinelPayload repr b payload := by
  cases payload with
  | object members =>
    have hlegacy : validateLegacy a members = validateLegacy b members := by
      rw [validateLegacy, validateLegacy, h.sentinelId, h.name, h.subdirectory]
    have hcompare : compareIdentity repr a = compareIdentity repr b := by
      funext sentinelId identity
      rw [compareIdentity, compareIdentity, h.sentinelId, h.name, h.subdirectory]
    have hcurrent : validateCurrent repr a members = validateCurrent repr b members := by
      rw [validateCurrent, validateCurrent, hcompare]
    rw [validateSentinelPayload, validateSentinelPayload, hlegacy, hcurrent]
  | null | bool _ | int _ | float _ | str _ | array _ => rfl

/-- Every route of a configuration leads to the same dataset. -/
theorem sameDataset_resolve {failover : ExclusiveFailoverConfig} {base resolved : TargetConfig}
    {name : Text} (h : failover.resolve base name = .ok resolved) : SameDataset resolved base := by
  rw [ExclusiveFailoverConfig.resolve] at h
  split at h
  · injection h with h
    subst h
    exact ⟨rfl, rfl, rfl⟩
  · split at h
    · injection h with h
      subst h
      exact ⟨rfl, rfl, rfl⟩
    · injection h

/-- A sentinel separates datasets and does not see the route. -/
theorem sentinel_identifies_dataset (repr : String → String) :
    (∀ a b : TargetConfig, a.name ≠ [] → a.sentinelId ≠ [] → b.name ≠ [] → b.sentinelId ≠ [] →
      ((∃ identity, validateSentinelPayload repr b (.object (sentinelV2Payload a)) = .ok identity) ↔
        a.sentinelId = b.sentinelId ∧ a.name = b.name ∧ a.subdirectory = b.subdirectory)) ∧
    (∀ (b : TargetConfig) (payload : Value) (identity : SentinelIdentity),
      validateSentinelPayload repr b payload = .ok identity →
      ∃ members, payload = .object members ∧
        Value.get? members "sentinel_id" = some (.str (String.ofList b.sentinelId)) ∧
        (Value.get? members "version" = none ∨ Value.get? members "version" = some (.int 1) ∨
          Value.get? members "version" = some (.int 2))) ∧
    ∀ (failover : ExclusiveFailoverConfig) (b resolved : TargetConfig) (name : Text)
      (payload : Value), failover.resolve b name = .ok resolved →
      validateSentinelPayload repr resolved payload = validateSentinelPayload repr b payload := by
  refine ⟨?_, ?_, ?_⟩
  · intro a b hname hid _ _
    rw [accepts_written_iff repr hname hid]
    constructor
    · exact fun h => ⟨h.sentinelId, h.name, h.subdirectory⟩
    · exact fun ⟨hid, hname, hsubdirectory⟩ => ⟨hid, hname, hsubdirectory⟩
  · exact fun b payload identity h => accepted_document h
  · exact fun failover b resolved name payload h => validate_congr repr (sameDataset_resolve h) payload

/-- A CIFS target with the defaults of the loader. -/
def mediaTarget (subdirectory : String) : TargetConfig where
  name := "media".toList
  type := .cifs
  mountpoint := PosixPath.parse "/mnt/media"
  subdirectory := subdirectory.toList
  sentinelId := "0b6f".toList
  sentinelFile := ".s3-storage-node".toList
  allowInitialize := false
  minFreeBytes := 0
  source := "//nas/media".toList
  credentialsFile := "/run/secrets/cifs".toList
  mountOptions := []
  ioFailurePolicy := "soft".toList
  minimumSmbDialect := []
  handleReconnectPolicy := "disabled".toList
  multichannelPolicy := "disabled".toList
  maxChannels := 2
  requireTransportObservability := false
  device := []
  expectedUuid := []
  expectedFilesystem := []

/-- A target accepts its own document and refuses that of another subdirectory. -/
theorem sentinel_identifies_dataset_media :
    (∃ identity, validateSentinelPayload id (mediaTarget "s3")
      (.object (sentinelV2Payload (mediaTarget "s3"))) = .ok identity) ∧
    ¬ ∃ identity, validateSentinelPayload id (mediaTarget "s3")
      (.object (sentinelV2Payload (mediaTarget "old"))) = .ok identity := by
  have hname : ∀ subdirectory, (mediaTarget subdirectory).name ≠ [] := fun _ => List.cons_ne_nil _ _
  have hid : ∀ subdirectory, (mediaTarget subdirectory).sentinelId ≠ [] :=
    fun _ => List.cons_ne_nil _ _
  have h := (sentinel_identifies_dataset id).1
  constructor
  · exact (h _ _ (hname _) (hid _) (hname _) (hid _)).mpr ⟨rfl, rfl, rfl⟩
  · intro haccepted
    obtain ⟨-, -, hsubdirectory⟩ := (h _ _ (hname _) (hid _) (hname _) (hid _)).mp haccepted
    exact absurd hsubdirectory (by decide)

end StorageNode.Sentinel
