import StorageNode.Health.StableStatus
import StorageNode.IndexRepair.Detected
import Mathlib.Data.List.Nodup

/-!
# Three views of one volume status

The stability wait compares signatures, the guard against a global read-only state compares counters,
and a repair compares the details with the list of unexpected ids. All three read the dictionary that
`parse_volume_status` returns. Here the views are shown to agree: the counters, the id lists and the
details of a parsed status are functions of one list of entries, the order of the entries is lost
where no id is repeated, and the signature determines the verdicts.

The lists are compared through their sorted permutations (`sorted_eq`).
-/

set_option autoImplicit false

namespace StorageNode.SeaweedHealth

open StorageNode.Json StorageNode.IndexRepair

/-! ## Sorted lists -/

/-- The sort of the source orders a list by its key. -/
theorem pairwise_sort {α : Type} (key : α → Int) (l : List α) :
    (l.insertionSort fun a b => key a ≤ key b).Pairwise fun a b => key a ≤ key b := by
  have htotal : Std.Total fun a b : α => key a ≤ key b := ⟨fun a b => Int.le_total (key a) (key b)⟩
  have htrans : IsTrans α fun a b => key a ≤ key b := ⟨fun _ _ _ => Int.le_trans⟩
  exact List.pairwise_insertionSort _ l

/-- Two sorted lists with the same elements are equal when the key tells their elements apart. -/
theorem sorted_eq {α : Type} {key : α → Int} {l l' : List α} (hl : l.Pairwise fun a b => key a ≤ key b)
    (hl' : l'.Pairwise fun a b => key a ≤ key b) (hkey : ∀ a ∈ l, ∀ b ∈ l', key a = key b → a = b)
    (hperm : l.Perm l') : l = l' := by
  apply List.Perm.eq_of_pairwise _ hl hl' hperm
  intro a b ha hb hab hba
  exact hkey a ha b hb (Int.le_antisymm hab hba)

theorem sorted_ids_eq {l l' : List Int} (hl : l.Pairwise (· ≤ ·)) (hl' : l'.Pairwise (· ≤ ·))
    (hperm : l.Perm l') : l = l' :=
  @sorted_eq Int id l l' hl hl' (fun _ _ _ _ h => h) hperm

/-! ## Collections -/

/-- One more entry under some label adds what the counter of that label gains. -/
theorem sum_countUnder {f : Counts → Nat} {readonly : Bool} {n : Nat} (hempty : f {} = 0)
    (hadd : ∀ counts, f (counts.add readonly) = f counts + n) (label : String)
    (collections : List (String × Counts)) :
    ((countUnder label readonly collections).map fun c => f c.2).sum =
      (collections.map fun c => f c.2).sum + n := by
  induction collections with
  | nil => simp [countUnder, hadd, hempty]
  | cons c rest ih =>
    obtain ⟨name, counts⟩ := c
    rw [countUnder]
    split
    · simp only [List.map_cons, List.sum_cons, hadd]
      omega
    · simp only [List.map_cons, List.sum_cons, ih]
      omega

/-- A counter that counts the entries with a property, summed over all labels. -/
theorem sum_collections {f : Counts → Nat} {p : VolumeEntry → Bool} (hempty : f {} = 0)
    (hadd : ∀ counts e, f (counts.add (VolumeEntry.readonly e)) = f counts + if p e then 1 else 0)
    (expected : List Int) (es : List VolumeEntry) :
    ((statusOf expected es).collections.map fun c => f c.2).sum = (es.filter p).length := by
  have key : ∀ (es : List VolumeEntry) (tally : Tally),
      ((es.foldl (Tally.add expected) tally).collections.map fun c => f c.2).sum =
        (tally.collections.map fun c => f c.2).sum + (es.filter p).length := by
    intro es
    induction es with
    | nil => simp
    | cons e es ih =>
      intro tally
      rw [List.foldl_cons, ih]
      change ((countUnder e.label e.readonly tally.collections).map fun c => f c.2).sum + _ = _
      rw [sum_countUnder hempty fun counts => hadd counts e]
      cases hp : p e with
      | false => simp [hp]
      | true =>
        simp [hp]
        omega
  simpa [statusOf, Tally.status] using key es {}

/-! ## The lists of a status -/

section

variable (expected : List Int) (es : List VolumeEntry)

theorem statusOf_readonlyIds : (statusOf expected es).readonlyVolumeIds =
    ((es.filter VolumeEntry.readonly).map VolumeEntry.id).insertionSort (· ≤ ·) := by
  simp [statusOf, Tally.status, (foldl_add expected es {}).1]

/-- The unexpected ids are the read-only ids outside the expected set. -/
theorem statusOf_unexpected_eq_filter : (statusOf expected es).unexpectedReadonlyVolumeIds =
    (statusOf expected es).readonlyVolumeIds.filter fun v => decide (v ∉ expected) := by
  rw [statusOf_unexpectedIds, statusOf_readonlyIds]
  apply sorted_ids_eq (pairwise_sort id _) ((pairwise_sort id _).filter _)
  have hfilter : (es.filter (VolumeEntry.unexpected expected)).map VolumeEntry.id =
      ((es.filter VolumeEntry.readonly).map VolumeEntry.id).filter fun v => decide (v ∉ expected) := by
    rw [List.filter_map, List.filter_filter]
    congr 2
    funext e
    exact Bool.and_comm _ _
  rw [hfilter]
  exact (List.perm_insertionSort _ _).trans ((List.perm_insertionSort _ _).filter _).symm

/-- The unexpected ids, read off the details. -/
theorem statusOf_unexpected_eq_details : (statusOf expected es).unexpectedReadonlyVolumeIds =
    (repairDetails (statusOf expected es)).map VolumeDetail.id := by
  have hsorted := (pairwise_sort VolumeDetail.id (es.map (VolumeEntry.detail expected))).filter
    fun d => d.readonly && !d.expectedReadonly
  rw [statusOf_unexpectedIds, repairDetails, statusOf_details]
  apply sorted_ids_eq (pairwise_sort id _) (List.pairwise_map.mpr hsorted)
  apply (List.perm_insertionSort _ _).trans
  -- before sorting, the two lists are the same
  have hunsorted : (es.filter (VolumeEntry.unexpected expected)).map VolumeEntry.id =
      ((es.map (VolumeEntry.detail expected)).filter
        fun d => d.readonly && !d.expectedReadonly).map VolumeDetail.id := by
    rw [List.filter_map, List.map_map]
    congr 1
    apply List.filter_congr
    intro e _
    exact Bool.eq_iff_iff.mpr unexpected_iff
  rw [hunsorted]
  exact (((List.perm_insertionSort _ _).filter _).map _).symm

/-- Whether every volume is read-only, read off the details. -/
theorem allVolumesReadonly_iff_details : allVolumesReadonly (statusOf expected es) = true ↔
    (∀ d ∈ (statusOf expected es).volumeDetails, d.readonly = true) ∧
      ∃ d ∈ (statusOf expected es).volumeDetails, (d.readonly && !d.expectedReadonly) = true := by
  rw [allVolumesReadonly_iff]
  constructor
  · rintro ⟨hall, e, he, hunexpected⟩
    refine ⟨fun d hd => ?_, e.detail expected, mem_statusOf_details.mpr ⟨e, he, rfl⟩,
      unexpected_iff.mp hunexpected⟩
    obtain ⟨e, he, rfl⟩ := mem_statusOf_details.mp hd
    exact hall e he
  · rintro ⟨hall, d, hd, hunexpected⟩
    obtain ⟨e, he, rfl⟩ := mem_statusOf_details.mp hd
    refine ⟨fun e he => ?_, e, he, unexpected_iff.mpr hunexpected⟩
    exact hall _ (mem_statusOf_details.mpr ⟨e, he, rfl⟩)

/-- The signature of a parsed status is its list of details. -/
theorem statusOf_signature :
    (statusOf expected es).signature = .details (statusOf expected es).volumeDetails := by
  rw [VolumeStatus.signature, if_pos]
  by_cases hes : es = []
  · right
    rw [statusOf_total, hes]
    rfl
  · left
    intro hnil
    apply hes
    rw [← List.length_eq_zero_iff, statusOf_details] at hnil
    rw [List.length_insertionSort, List.length_map] at hnil
    exact List.length_eq_zero_iff.mp hnil

end

/-! ## The order of the entries -/

theorem mapM_parseEntry_cons {conv : Conversions} {raw : Value} {raws : List Value}
    {es : List VolumeEntry} : (raw :: raws).mapM (parseEntry conv) = .ok es ↔
      ∃ e rest, parseEntry conv raw = .ok e ∧ raws.mapM (parseEntry conv) = .ok rest ∧
        es = e :: rest := by
  rw [List.mapM_cons]
  cases parseEntry conv raw with
  | error e => simp [bind, Except.bind]
  | ok e =>
    cases raws.mapM (parseEntry conv) with
    | error e => simp [bind, Except.bind]
    | ok rest => simp [bind, Except.bind, pure, Except.pure, eq_comm]

/-- The parser accepts the entries of a payload in any order. -/
theorem mapM_perm {conv : Conversions} {raws raws' : List Value} (hperm : raws.Perm raws') :
    ∀ {es : List VolumeEntry}, raws.mapM (parseEntry conv) = .ok es →
      ∃ es', raws'.mapM (parseEntry conv) = .ok es' ∧ es.Perm es' := by
  induction hperm with
  | nil => exact fun h => ⟨_, h, .refl _⟩
  | cons raw _ ih =>
    intro es h
    obtain ⟨e, rest, he, hrest, rfl⟩ := mapM_parseEntry_cons.mp h
    obtain ⟨rest', hrest', hp⟩ := ih hrest
    exact ⟨e :: rest', mapM_parseEntry_cons.mpr ⟨e, rest', he, hrest', rfl⟩, hp.cons e⟩
  | swap raw raw' raws =>
    intro es h
    obtain ⟨e', tail, he', htail, rfl⟩ := mapM_parseEntry_cons.mp h
    obtain ⟨e, rest, he, hrest, rfl⟩ := mapM_parseEntry_cons.mp htail
    have hswapped := mapM_parseEntry_cons.mpr ⟨e', rest, he', hrest, rfl⟩
    exact ⟨e :: e' :: rest, mapM_parseEntry_cons.mpr ⟨e, _, he, hswapped, rfl⟩, .swap e e' rest⟩
  | trans _ _ ih ih' =>
    intro es h
    obtain ⟨es', h', hp⟩ := ih h
    obtain ⟨es'', h'', hp'⟩ := ih' h'
    exact ⟨es'', h'', hp.trans hp'⟩

/-- Entries in another order have the same id lists, and the same details when no id is repeated. -/
theorem statusOf_perm (expected : List Int) {es es' : List VolumeEntry} (hperm : es.Perm es')
    (hids : (es.map VolumeEntry.id).Nodup) :
    (statusOf expected es').readonlyVolumeIds = (statusOf expected es).readonlyVolumeIds ∧
      (statusOf expected es').unexpectedReadonlyVolumeIds =
        (statusOf expected es).unexpectedReadonlyVolumeIds ∧
      (statusOf expected es').volumeDetails = (statusOf expected es).volumeDetails := by
  have hsort : ∀ {l l' : List Int}, l.Perm l' →
      l'.insertionSort (· ≤ ·) = l.insertionSort (· ≤ ·) := by
    intro l l' h
    apply sorted_ids_eq (pairwise_sort id _) (pairwise_sort id _)
    exact ((List.perm_insertionSort _ _).trans h.symm).trans (List.perm_insertionSort _ _).symm
  refine ⟨?_, ?_, ?_⟩
  · rw [statusOf_readonlyIds, statusOf_readonlyIds]
    exact hsort ((hperm.filter _).map _)
  · rw [statusOf_unexpectedIds, statusOf_unexpectedIds]
    exact hsort ((hperm.filter _).map _)
  · rw [statusOf_details, statusOf_details]
    apply sorted_eq (pairwise_sort VolumeDetail.id _) (pairwise_sort VolumeDetail.id _)
    · -- an id belongs to one entry
      intro d hd d' hd' hid
      obtain ⟨e', he', rfl⟩ := List.mem_map.mp ((List.mem_insertionSort _).mp hd)
      obtain ⟨e, he, rfl⟩ := List.mem_map.mp ((List.mem_insertionSort _).mp hd')
      rw [List.inj_on_of_nodup_map hids (hperm.mem_iff.mpr he') he hid]
    · exact ((List.perm_insertionSort _ _).trans (hperm.symm.map _)).trans
        (List.perm_insertionSort _ _).symm

/-! ## The views agree -/

/-- The counters and lists of a status fit together. -/
structure Consistent (expected : List Int) (status : VolumeStatus) : Prop where
  total : status.total = status.readonly + status.writable
  readonly : status.readonly = status.expectedReadonly + status.unexpectedReadonly
  readonlyIds : status.readonlyVolumeIds.length = status.readonly
  unexpectedIds : status.unexpectedReadonlyVolumeIds.length = status.unexpectedReadonly
  readonlySorted : status.readonlyVolumeIds.Pairwise (· ≤ ·)
  unexpectedSorted : status.unexpectedReadonlyVolumeIds.Pairwise (· ≤ ·)
  unexpected : status.unexpectedReadonlyVolumeIds =
    status.readonlyVolumeIds.filter fun v => decide (v ∉ expected)
  collectionTotals : (status.collections.map fun c => c.2.total).sum = status.total
  collectionReadonly : (status.collections.map fun c => c.2.readonly).sum = status.readonly
  collectionWritable : (status.collections.map fun c => c.2.writable).sum = status.writable
  unambiguous : unambiguous status = true

theorem consistent_statusOf (expected : List Int) (es : List VolumeEntry) :
    Consistent expected (statusOf expected es) where
  total := by
    rw [statusOf_total, statusOf_readonly, statusOf_writable]
    exact List.length_eq_length_filter_add _
  readonly := by
    -- the subtraction of the source does not go below zero
    have hle : (es.filter (VolumeEntry.unexpected expected)).length ≤
        (es.filter VolumeEntry.readonly).length := by
      apply List.Sublist.length_le
      apply List.monotone_filter_right
      intro e he
      exact (Bool.and_eq_true_iff.mp he).1
    have hexpected : (statusOf expected es).expectedReadonly =
        (statusOf expected es).readonly - (statusOf expected es).unexpectedReadonly := rfl
    rw [hexpected, statusOf_readonly, statusOf_unexpectedReadonly]
    omega
  readonlyIds := by
    rw [statusOf_readonlyIds, statusOf_readonly, List.length_insertionSort, List.length_map]
  unexpectedIds := by rw [unexpectedIds_length, statusOf_unexpectedReadonly]
  readonlySorted := by
    rw [statusOf_readonlyIds]
    exact pairwise_sort id _
  unexpectedSorted := by
    rw [statusOf_unexpectedIds]
    exact pairwise_sort id _
  unexpected := statusOf_unexpected_eq_filter expected es
  collectionTotals := by
    rw [sum_collections (p := fun _ => true) rfl (fun _ _ => rfl), statusOf_total, List.filter_true]
  collectionReadonly := by
    rw [sum_collections (p := VolumeEntry.readonly) rfl, statusOf_readonly]
    intro counts e
    cases h : e.readonly <;> simp [Counts.add]
  collectionWritable := by
    rw [sum_collections (p := fun e => !e.readonly) rfl, statusOf_writable]
    intro counts e
    cases h : e.readonly <;> simp [Counts.add]
  unambiguous := unambiguous_statusOf

/-- What the three readers of a status rely on. The signature alone determines the unexpected ids and
the verdict on a global read-only state, whichever payloads and expected sets two statuses come from. -/
theorem parsed_views_agree (conv : Conversions) (expected : List Int) (payload : Value)
    (status : VolumeStatus) (h : parseVolumeStatus conv expected payload = .ok status) :
    Consistent expected status ∧
    (∀ items payload' items', rawVolumes payload = .ok items → rawVolumes payload' = .ok items' →
      items.Perm items' → (status.volumeDetails.map VolumeDetail.id).Nodup →
      ∃ status', parseVolumeStatus conv expected payload' = .ok status' ∧
        status'.readonlyVolumeIds = status.readonlyVolumeIds ∧
        status'.unexpectedReadonlyVolumeIds = status.unexpectedReadonlyVolumeIds ∧
        status'.volumeDetails = status.volumeDetails ∧ status'.signature = status.signature) ∧
    ∀ expected' payload' status', parseVolumeStatus conv expected' payload' = .ok status' →
      status'.signature = status.signature →
      status'.unexpectedReadonlyVolumeIds = status.unexpectedReadonlyVolumeIds ∧
        allVolumesReadonly status' = allVolumesReadonly status := by
  obtain ⟨es, hes, rfl⟩ := parseVolumeStatus_ok.mp h
  refine ⟨consistent_statusOf expected es, ?_, ?_⟩
  · intro items payload' items' hitems hitems' hperm hnodup
    rw [entries, hitems] at hes
    obtain ⟨es', hes', hpermEntries⟩ := mapM_perm hperm hes
    -- sorting the details keeps their ids
    have hids : (es.map VolumeEntry.id).Nodup := by
      rw [statusOf_details] at hnodup
      have hsorted := ((List.perm_insertionSort _ _).map VolumeDetail.id).nodup_iff.mp hnodup
      rw [List.map_map] at hsorted
      exact hsorted
    obtain ⟨hreadonly, hunexpected, hdetails⟩ := statusOf_perm expected hpermEntries hids
    refine ⟨statusOf expected es', ?_, hreadonly, hunexpected, hdetails, ?_⟩
    · rw [parseVolumeStatus_eq, entries, hitems']
      change (items'.mapM (parseEntry conv)).map (statusOf expected) = _
      rw [hes']
      rfl
    · rw [statusOf_signature, statusOf_signature, hdetails]
  · intro expected' payload' status' h' hsignature
    obtain ⟨es', -, rfl⟩ := parseVolumeStatus_ok.mp h'
    rw [statusOf_signature, statusOf_signature] at hsignature
    -- the signature shows the details, and they decide both views
    injection hsignature with hdetails
    constructor
    · rw [statusOf_unexpected_eq_details, statusOf_unexpected_eq_details, repairDetails,
        repairDetails, hdetails]
    · apply Bool.eq_iff_iff.mpr
      rw [allVolumesReadonly_iff_details, allVolumesReadonly_iff_details, hdetails]

/-- A writable and a read-only volume, as the server reports them. -/
def reportedVolumes : List Value :=
  [.object [("Id", .int 7), ("Collection", .str "media"), ("ReadOnly", .bool false)],
    .object [("Id", .int 3), ("Collection", .str ""), ("ReadOnly", .bool true)]]

/-- Two volumes in both orders. -/
theorem parsed_views_agree_reported : ∃ status,
    parseVolumeStatus ⟨fun _ => none, fun _ => ""⟩ [] (.object [("Volumes", .array reportedVolumes)]) =
      .ok status ∧
    Consistent [] status ∧ status.unexpectedReadonlyVolumeIds = [3] ∧
    ∃ status', parseVolumeStatus ⟨fun _ => none, fun _ => ""⟩ []
        (.object [("Volumes", .array reportedVolumes.reverse)]) = .ok status' ∧
      status'.signature = status.signature := by
  have h : parseVolumeStatus ⟨fun _ => none, fun _ => ""⟩ []
      (.object [("Volumes", .array reportedVolumes)]) =
        .ok (statusOf [] [⟨7, "media", false⟩, ⟨3, "", true⟩]) := rfl
  obtain ⟨hconsistent, hreordered, -⟩ := parsed_views_agree _ _ _ _ h
  obtain ⟨status', hstatus', -, -, -, hsignature⟩ := hreordered reportedVolumes
    (.object [("Volumes", .array reportedVolumes.reverse)]) reportedVolumes.reverse rfl rfl
    (List.reverse_perm _).symm (by decide)
  exact ⟨_, h, hconsistent, by decide, status', hstatus', hsignature⟩

end StorageNode.SeaweedHealth
