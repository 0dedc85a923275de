import StorageNode.IndexRepair.BatchValidation
import StorageNode.IndexRepair.Detected
import StorageNode.IndexRepair.Requests

/-!
# Volumes that a status lists more than once

A payload may list an id several times, and `parse_volume_status` keeps every entry.
`validate_upstream` reads the entries through a dictionary, in which the last one counts, and
`repair_detected` walks the list of ids. So a writable last entry hides a read-only one, and an id that
is listed twice as unexpectedly read-only is repaired twice. The check of `repair_detected` for
unambiguous metadata compares sets of ids and does not see it.

`repeated_ids_iff` says when neither happens.
-/

set_option autoImplicit false

namespace StorageNode.IndexRepair

open StorageNode.Program StorageNode.IndexHelper StorageNode.SeaweedHealth RepairProg

variable {D : Type}

/-- The part of `volume_details` that validation reads. -/
def upstreamVolumes (status : VolumeStatus) : List UpstreamVolume :=
  status.volumeDetails.map fun d => ⟨d.id, d.readonly⟩

/-- The entries of a payload, without its errors. -/
def listed (conv : Json.Conversions) (payload : Json.Value) : List VolumeEntry :=
  match entries conv payload with
  | .ok es => es
  | .error _ => []

/-- The payload lists the volume, and only as writable. -/
def OnlyWritable (es : List VolumeEntry) (volumeId : Int) : Prop :=
  (∃ e ∈ es, e.id = volumeId) ∧ ∀ e ∈ es, e.id = volumeId → e.readonly = false

/-- The last entry of a volume. -/
def lastEntry (es : List VolumeEntry) (volumeId : Int) : Option VolumeEntry :=
  (es.filter fun e => decide (e.id = volumeId)).getLast?

/-- No run of `validate_upstream`, however it fails or is cut off, marks an awaiting transaction as
verified unless the payload lists its volume only as writable. -/
def MarksOnlyWritable [DecidableEq D] (sha256 : Bytes → D) (es : List VolumeEntry) (status : VolumeStatus)
    (w : World D) : Prop :=
  ∀ cs outcome w', (validateUpstreamResult (upstreamVolumes status)).run (repairExec sha256) cs w =
    (outcome, w') → ∀ t ∈ w.awaiting, (∃ u ∈ w'.journal, u.id = t.id ∧ u.phase = .verified) →
      OnlyWritable es t.volumeId

/-- `_repair_one` is called at most once for a volume. -/
def RepairsOnce (settings : RepairSettings) (status : VolumeStatus) : Prop :=
  ((calls settings status).map VolumeDetail.id).Nodup

instance (settings : RepairSettings) (status : VolumeStatus) :
    Decidable (RepairsOnce settings status) :=
  inferInstanceAs (Decidable (List.Nodup _))

/-- No read-only entry of a volume that awaits validation stands before a writable last one. -/
def NoneHidden (es : List VolumeEntry) (w : World D) : Prop :=
  ∀ t ∈ w.awaiting, ∀ last, lastEntry es t.volumeId = some last → last.readonly = false →
    ∀ e ∈ es, e.id = t.volumeId → e.readonly = false

/-- The repair of the status is refused, or it lists no volume twice as unexpectedly read-only. -/
def RefusedOrDistinct (settings : RepairSettings) (expected : List Int) (es : List VolumeEntry) : Prop :=
  settings.autoIndexRepairEnabled = false ∨
    ((∀ e ∈ es, e.readonly = true) ∧ ∃ e ∈ es, e.unexpected expected = true) ∨
    settings.indexRepairMaxVolumes < ((es.filter (VolumeEntry.unexpected expected)).length : Int) ∨
    ((es.filter (VolumeEntry.unexpected expected)).map VolumeEntry.id).Nodup

/-! ## Validation -/

/-- The dictionary holds the last entry of the payload. -/
theorem readonlyOf_statusOf (expected : List Int) (es : List VolumeEntry) (volumeId : Int) :
    readonlyOf (upstreamVolumes (statusOf expected es)) volumeId =
      (lastEntry es volumeId).map VolumeEntry.readonly := by
  have hfilter : (upstreamVolumes (statusOf expected es)).filter
      (fun v => decide (v.id = volumeId)) = (es.filter fun e => decide (e.id = volumeId)).map
        fun e => (⟨e.id, e.readonly⟩ : UpstreamVolume) := by
    rw [upstreamVolumes, List.filter_map]
    have hkey : ((fun v : UpstreamVolume => decide (v.id = volumeId)) ∘
        fun d : VolumeDetail => (⟨d.id, d.readonly⟩ : UpstreamVolume)) =
          fun d => decide (d.id = volumeId) := rfl
    rw [hkey, statusOf_details_filter, List.map_map]
    rfl
  rw [readonlyOf, ← List.head?_filter, List.filter_reverse, List.head?_reverse, hfilter,
    List.getLast?_map, Option.map_map, lastEntry]
  rfl

theorem onlyWritable_of_last {es : List VolumeEntry} {volumeId : Int} {last : VolumeEntry}
    (h : lastEntry es volumeId = some last)
    (hall : ∀ e ∈ es, e.id = volumeId → e.readonly = false) : OnlyWritable es volumeId := by
  have hmem := List.mem_filter.1 (List.mem_of_getLast? h)
  exact ⟨⟨last, hmem.1, by simpa using hmem.2⟩, hall⟩

section

variable [DecidableEq D] {sha256 : Bytes → D} {readonly : Int → Option Bool} {w : World D}

/-- The records of a validation that started in `w`: those of `w`, and new versions of transactions
that the status shows as writable. -/
def Marked (readonly : Int → Option Bool) (w s : World D) : Prop :=
  ∀ u ∈ s.journal, u ∈ w.journal ∨ ∃ t ∈ w.awaiting, u.id = t.id ∧ readonly t.volumeId = some false

/-- Requests of a validation. -/
abbrev markingDiscipline (sha256 : Bytes → D) (readonly : Int → Option Bool) (w : World D) :=
  Discipline.keeping (repairExec sha256) (Marked readonly w)

theorem transition_marks {t : Transaction D} {P : World D → Prop} (ht : t ∈ w.awaiting)
    (hok : readonly t.volumeId = some false) :
    (markingDiscipline sha256 readonly w).Triple P (transition t .verified) (fun _ _ => True)
      fun _ _ => True := by
  refine Discipline.Triple.bind (M := fun _ _ => True)
    (Discipline.keeping.ask fun c s hs _ => ⟨hs, trivial⟩) fun at_ => ?_
  refine Discipline.Triple.bind (M := fun _ _ => True) ?_ fun _ =>
    Discipline.Triple.ret fun _ _ _ => trivial
  refine Discipline.Triple.bind (M := fun _ _ => True) (Discipline.keeping.ask fun c s hs _ => ?_)
    fun _ => Discipline.Triple.raiseIf (fun _ _ _ _ => trivial) fun _ _ _ _ => trivial
  refine ⟨fun u hu => ?_, trivial⟩
  rcases repairExec_journal sha256 _ c s with heq | ⟨v, hv, heq⟩
  · exact hs u (heq ▸ hu)
  · have hu' : u ∈ saveTransaction s.journal v := heq ▸ hu
    obtain rfl := Option.some.inj hv
    rcases mem_saveTransaction.1 hu' with ⟨hu', -⟩ | rfl
    · exact hs u hu'
    · exact .inr ⟨t, ht, rfl, hok⟩

theorem validateEach_marks : ∀ (ts : List (Transaction D)) (verified rejected : List Int),
    (∀ t ∈ ts, t ∈ w.awaiting) →
    (markingDiscipline sha256 readonly w).Triple (fun _ => True)
      (validateEach readonly ts verified rejected) (fun _ _ => True) fun _ _ => True := by
  intro ts
  induction ts with
  | nil => exact fun _ _ _ => Discipline.Triple.ret fun _ _ _ => trivial
  | cons t ts ih =>
      intro verified rejected hts
      have hrest := fun verified rejected => ih verified rejected fun u hu =>
        hts u (List.mem_cons_of_mem _ hu)
      rw [validateEach]
      split
      · next hok =>
          exact Discipline.Triple.bind (transition_marks (hts t List.mem_cons_self) hok) fun _ =>
            hrest _ _
      · exact hrest _ _

/-- Wherever the validation is cut off, it has marked only what the status shows as writable. -/
theorem validateUpstreamResult_marks (sha256 : Bytes → D) (details : List UpstreamVolume) (cs : List (RepairChoice D)) :
    Marked (readonlyOf details) w
      ((validateUpstreamResult details).after (repairExec sha256) cs w) := by
  have htriple : (markingDiscipline sha256 (readonlyOf details) w).Triple (fun s => s = w)
      (validateUpstreamResult details) (fun _ _ => True) fun _ _ => True := by
    refine Discipline.Triple.bind (M := fun ts _ => ∀ t ∈ ts, t ∈ w.awaiting) ?_ fun ts s hs hts =>
      validateEach_marks ts [] [] hts s hs trivial
    refine Discipline.Triple.bind (M := fun ts _ => ∀ t ∈ ts, t ∈ w.journal) ?_ fun ts =>
      Discipline.Triple.ret fun _ _ h t ht => ?_
    · refine Discipline.Triple.bind (M := fun answer _ => ∀ ts, answer = some ts →
        ∀ t ∈ ts, t ∈ w.journal) (Discipline.keeping.ask fun c s hs hw => ⟨hs, ?_⟩) fun answer =>
          Discipline.Triple.orRaise (fun _ _ _ _ => trivial) fun ts hts _ _ h => h ts hts
      intro ts hts t ht
      have hload : (repairExec sha256 .load c s).1 = some ts := hts
      rw [repairExec_load hload, hw] at ht
      exact ht
    · exact List.mem_filter.2 ⟨h t (List.mem_filter.1 ht).1, (List.mem_filter.1 ht).2⟩
  exact Discipline.keeping.after htriple (fun _ hu => .inl hu) rfl cs

/-- When validation fails closed on the payload. -/
theorem marksOnlyWritable_iff {expected : List Int} {es : List VolumeEntry}
    (hw : (w.journal.map Transaction.id).Nodup) :
    MarksOnlyWritable sha256 es (statusOf expected es) w ↔ NoneHidden es w := by
  constructor
  · intro hmarks t ht last hlast hwritable
    have hok : readonlyOf (upstreamVolumes (statusOf expected es)) t.volumeId = some false := by
      rw [readonlyOf_statusOf, hlast, Option.map_some, hwritable]
    -- a run without failures marks the transaction
    have hexact : Exact sha256 true (fun s => s = w)
        (validateUpstreamResult (upstreamVolumes (statusOf expected es))) _ :=
      validateUpstreamResult_exact hw
    obtain ⟨n, result, w', hrun⟩ := hexact.exists_ok rfl (fun _ => {}) fun _ => rfl
    have hchoices : ∀ c ∈ (List.range n).map fun _ => ({} : RepairChoice D), c.fault = .none := by
      intro c hc
      obtain ⟨-, -, rfl⟩ := List.mem_map.1 hc
      rfl
    obtain ⟨u, hu, hid, hphase, -⟩ := (hexact.of_run rfl hchoices hrun).2.marked t ht hok
    exact (hmarks _ _ _ hrun t ht ⟨u, hu, hid, hphase⟩).2
  · intro hhidden cs outcome w' hrun t ht ⟨u, hu, hid, hphase⟩
    have hmarked : Marked (readonlyOf (upstreamVolumes (statusOf expected es))) w w' := by
      have hafter := validateUpstreamResult_marks (w := w) sha256
        (upstreamVolumes (statusOf expected es)) cs
      rw [Prog.after, hrun] at hafter
      exact hafter
    obtain ⟨hjournal, hpending⟩ := List.mem_filter.1 ht
    rcases hmarked u hu with hold | ⟨x, -, hx, hok⟩
    · obtain rfl := List.inj_on_of_nodup_map hw hold hjournal hid
      rw [hphase] at hpending
      exact absurd hpending (by decide)
    · have hvolume : x.volumeId = t.volumeId := congrArg (fun id => id.base.volumeId) (hx.symm.trans hid)
      rw [hvolume, readonlyOf_statusOf] at hok
      obtain ⟨last, hlast, hwritable⟩ := Option.map_eq_some_iff.1 hok
      exact onlyWritable_of_last hlast (hhidden t ht last hlast hwritable)

end

/-! ## Repair -/

/-- When no volume is repaired twice. -/
theorem repairsOnce_iff {settings : RepairSettings} {expected : List Int} {es : List VolumeEntry} :
    RepairsOnce settings (statusOf expected es) ↔ RefusedOrDistinct settings expected es := by
  cases hrefusal : (refusal settings (statusOf expected es) : Option (RepairExc Unit)) with
  | none =>
      obtain ⟨henabled, hall, hlimit⟩ := refusal_eq_none.1 hrefusal
      -- the calls are the unexpected identifiers in order
      have hsorted : RepairsOnce settings (statusOf expected es) ↔
          ((es.filter (VolumeEntry.unexpected expected)).map VolumeEntry.id).Nodup := by
        rw [RepairsOnce, calls_ids hrefusal, statusOf_unexpectedIds]
        exact (List.perm_insertionSort _ _).nodup_iff
      rw [hsorted]
      constructor
      · exact fun h => .inr (.inr (.inr h))
      · rintro (hdisabled | hreadonly | hmany | h)
        · exact absurd (henabled.symm.trans hdisabled) (by simp)
        · rw [(allVolumesReadonly_iff expected es).2 hreadonly] at hall
          exact absurd hall (by simp)
        · exact absurd hlimit (by omega)
        · exact h
  | some e =>
      -- a refused status calls no repair
      have hnone : calls settings (statusOf expected es) = [] := by
        rw [calls, hrefusal]
      refine ⟨fun _ => ?_, fun _ => by simp [RepairsOnce, hnone]⟩
      by_contra hcontra
      simp only [RefusedOrDistinct, not_or, Int.not_lt] at hcontra
      obtain ⟨henabled, hreadonly, hlimit, -⟩ := hcontra
      have hpass : (refusal settings (statusOf expected es) : Option (RepairExc Unit)) = none := by
        refine refusal_eq_none.2 ⟨by simpa using henabled, ?_, hlimit⟩
        rw [← allVolumesReadonly_iff] at hreadonly
        simpa using hreadonly
      exact absurd (hrefusal.symm.trans hpass) (by simp)

/-- For every payload that the parser accepts, every journal and every setting: validation marks only
volumes that are listed, and listed only as writable, and `_repair_one` is called at most once for a
volume, if and only if no read-only entry of an awaiting volume stands before a writable last one, and
the repair is refused or no volume is listed twice as unexpectedly read-only. -/
theorem repeated_ids_iff [DecidableEq D] (sha256 : Bytes → D) (conv : Json.Conversions)
    (expected : List Int) (payload : Json.Value) (status : VolumeStatus)
    (hparse : parseVolumeStatus conv expected payload = .ok status) (w : World D)
    (hw : (w.journal.map Transaction.id).Nodup) (settings : RepairSettings) :
    (MarksOnlyWritable sha256 (listed conv payload) status w ∧ RepairsOnce settings status) ↔
      NoneHidden (listed conv payload) w ∧
        RefusedOrDistinct settings expected (listed conv payload) := by
  obtain ⟨es, hes, rfl⟩ := parseVolumeStatus_ok.1 hparse
  have hlisted : listed conv payload = es := by rw [listed, hes]
  rw [hlisted]
  exact and_congr (marksOnlyWritable_iff hw) repairsOnce_iff

/-! Payloads for the two volumes of `BatchSample`. -/

namespace RepeatedSample

def conv : Json.Conversions := ⟨fun _ => none, fun _ => ""⟩

def entry (id : Int) (readonly : Bool) : Json.Value :=
  .object [("Id", .int id), ("ReadOnly", .bool readonly)]

def payload (volumes : List Json.Value) : Json.Value := .object [("Volumes", .array volumes)]

/-- Each volume is listed once. -/
def once : Json.Value := payload [entry 1 false, entry 2 true]

/-- Volume 1 is listed as read-only, and then as writable. -/
def hidden : Json.Value := payload [entry 1 true, entry 1 false]

/-- Volume 1 is listed twice as read-only. -/
def twice : Json.Value := payload [entry 1 true, entry 1 true, entry 2 false]

def settings : RepairSettings := ⟨⟨"", false, 0⟩, true, 8, 2⟩

end RepeatedSample

/-- A payload that lists each volume once. -/
theorem repeated_ids_iff_once :
    parseVolumeStatus RepeatedSample.conv [] RepeatedSample.once =
        .ok (statusOf [] [⟨1, "", false⟩, ⟨2, "", true⟩]) ∧
      MarksOnlyWritable id [⟨1, "", false⟩, ⟨2, "", true⟩]
        (statusOf [] [⟨1, "", false⟩, ⟨2, "", true⟩]) BatchSample.world ∧
      RepairsOnce RepeatedSample.settings (statusOf [] [⟨1, "", false⟩, ⟨2, "", true⟩]) := by
  have hparse : parseVolumeStatus RepeatedSample.conv [] RepeatedSample.once =
      .ok (statusOf [] [⟨1, "", false⟩, ⟨2, "", true⟩]) := rfl
  refine ⟨hparse, (repeated_ids_iff id RepeatedSample.conv [] RepeatedSample.once _ hparse
    BatchSample.world BatchSample.batch.nodup RepeatedSample.settings).2 ⟨?_, ?_⟩⟩
  · intro t ht last hlast hwritable e he hid
    have hvolume : ∀ t ∈ BatchSample.world.awaiting, t.volumeId = 1 ∨ t.volumeId = 2 := by decide
    rcases hvolume t ht with hone | htwo
    · rw [hone] at hid
      revert e
      decide
    · rw [htwo] at hlast
      obtain rfl : ⟨2, "", true⟩ = last := Option.some.inj hlast
      exact absurd hwritable (by decide)
  · exact .inr (.inr (.inr (by decide)))

/-- A writable last entry hides a read-only one, and the candidate is accepted; and a volume that is
listed twice is repaired twice. -/
theorem repeated_ids_do_not_fail_closed :
    (∃ status, parseVolumeStatus RepeatedSample.conv [] RepeatedSample.hidden = .ok status ∧
      ¬ MarksOnlyWritable id (listed RepeatedSample.conv RepeatedSample.hidden) status
        BatchSample.world) ∧
    ∃ status, parseVolumeStatus RepeatedSample.conv [] RepeatedSample.twice = .ok status ∧
      (calls RepeatedSample.settings status).map VolumeDetail.id = [1, 1] ∧
      ¬ RepairsOnce RepeatedSample.settings status := by
  refine ⟨⟨_, rfl, fun hmarks => ?_⟩, _, rfl, by decide, by decide⟩
  obtain ⟨-, hall⟩ := hmarks (List.replicate 3 {}) _ _ rfl (BatchSample.transaction 1 none none)
    (by decide) ⟨{ BatchSample.transaction 1 none none with phase := .verified, updatedAt := 1 },
      by decide, rfl, rfl⟩
  exact absurd (hall ⟨1, "", true⟩ (by decide) rfl) (by decide)

end StorageNode.IndexRepair
