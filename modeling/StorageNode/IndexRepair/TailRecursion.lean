import StorageNode.IndexRepair.PlainParts
import StorageNode.IndexRepair.Stamps
import StorageNode.IndexRepair.TailRecovery
import StorageNode.Program.Interference

/-!
# The recursion of a repair through tail recovery

`repairOne` calls itself after a tail recovery, with no limit on the depth. One level of the recursion
is `repairOne` with fuel one: it ends with the exception `recursion` exactly where the call would be
made (`CallsItself`), and `repairOne_levels` puts a whole repair together from its levels.

A level calls itself only after the tail helper has cut the data file at a proven boundary
(`CutAtBoundary`), because every other part of it leaves the data file alone (`Plain`). The boundary is
positive and inside the file, so the size of the data file bounds the number of nested calls
(`tail_recursion_ends`).
-/

set_option autoImplicit false

namespace StorageNode.IndexRepair

open StorageNode.Program StorageNode.IndexHelper RepairProg

variable {D : Type}

/-- The base name of the volume that is repaired. -/
def RepairProg.RepairArgs.base (args : RepairArgs) : Base :=
  ⟨args.collection, args.volumeId⟩

/-! ## Levels -/

/-- Continue with `again` where the recursion limit is exceeded. -/
def onRecursion (again : RepairProg D Unit) : RepairExc D → RepairProg D Unit
  | .recursion => again
  | e => Prog.raise e

theorem onRecursion_of_ne (again : RepairProg D Unit) (e : RepairExc D) (h : e ≠ .recursion) :
    onRecursion again e = Prog.raise e := by
  cases e with
  | recursion => exact absurd rfl h
  | _ => rfl

/-- The program never exceeds the recursion limit, and its values satisfy `Φ`. -/
def Limited {α : Type} (p : RepairProg D α) (Φ : α → Prop) : Prop :=
  p.Confined (fun _ => True) Φ fun e => e ≠ .recursion

namespace Limited

variable {α β : Type}

theorem bind {p : RepairProg D α} {f : α → RepairProg D β} {Φ : α → Prop} {Ψ : β → Prop}
    (hp : Limited p Φ) (hf : ∀ a, Φ a → Limited (f a) Ψ) : Limited (p.bind f) Ψ :=
  Prog.Confined.bind hf hp

/-- A part in front of the call. -/
theorem catchWith_bind {p : RepairProg D α} {Φ : α → Prop} (hp : Limited p Φ)
    {again : RepairProg D Unit} {f g : α → RepairProg D Unit}
    (hf : ∀ a, Φ a → (f a).catchWith (onRecursion again) = g a) :
    (p.bind f).catchWith (onRecursion again) = p.bind g :=
  Prog.catchWith_bind (onRecursion_of_ne again) hf hp

/-- A part that ends the level. -/
theorem catchWith {p : RepairProg D Unit} {Φ : Unit → Prop} (hp : Limited p Φ)
    (again : RepairProg D Unit) : p.catchWith (onRecursion again) = p :=
  Prog.catchWith_of_confined (onRecursion_of_ne again) hp

theorem tailPayload (process : TailProcess D) :
    Limited (RepairProg.tailPayload process) fun _ => True := by
  have hraise : ∀ e : RepairExc D, e ≠ .recursion →
      Limited (Prog.raise e : RepairProg D (Nat × Nat × D × Nat × RawFingerprint D)) fun _ => True :=
    fun _ h => h
  cases process with
  | recovered offset tailSize tailSha256 needleId after => trivial
  | spawnFailed => exact hraise _ (by simp)
  | timeout => exact hraise _ (by simp)
  | invalid => exact hraise _ (by simp)
  | failed error => exact hraise _ (by simp)

end Limited

theorem Plain.limited {α : Type} {p : RepairProg D α} {Φ : α → Prop} (h : Plain p Φ) :
    Limited p Φ :=
  Prog.Confined.mono (fun _ _ => trivial) (fun _ ha => ha) h

namespace Limited

theorem recoverIncompleteTail (cfg : Config) (t : Transaction D) (fingerprint : SourceFingerprint D)
    (payload : HelperPayload D) :
    Limited (RepairProg.recoverIncompleteTail cfg t fingerprint payload) fun _ => True := by
  unfold RepairProg.recoverIncompleteTail
  split
  · trivial
  · refine Plain.fsync.limited.bind fun _ _ => ?_
    refine Limited.bind (Φ := fun _ => True) ⟨trivial, fun _ => trivial⟩ fun process _ => ?_
    refine (tailPayload process).bind fun report _ => ?_
    refine (Plain.raiseIf (by simp)).limited.bind fun _ _ => ?_
    refine (Plain.raiseIf (by simp)).limited.bind fun _ _ => ?_
    exact (Plain.transition _ _).limited.bind fun _ _ => trivial

end Limited

section

variable (again : RepairProg D Unit)

theorem failBuild_catch (cfg : Config) (t : Transaction D) (fingerprint : SourceFingerprint D)
    {e : RepairExc D} (he : e ≠ .recursion) :
    (failBuild cfg t fingerprint (Prog.raise .recursion) e).catchWith (onRecursion again) =
      failBuild cfg t fingerprint again e := by
  have hfail : ∀ e : RepairExc D, Plain ((recordPreinstallFailure t e.text).bind
      fun _ => Prog.raise (.repair e.text) : RepairProg D Unit) fun _ => True :=
    fun e => (Plain.recordPreinstallFailure t e.text).bind fun _ _ => Plain.raise (by simp)
  cases e with
  | unsafeCandidate message payload =>
      refine (Limited.recoverIncompleteTail cfg t fingerprint payload).catchWith_bind
        fun recovered _ => ?_
      split
      · rfl
      · refine Limited.catchWith (Φ := fun _ => True) (Plain.limited ?_) again
        exact (Plain.manual t message).bind fun _ _ => Plain.raise (by simp)
  | manual message =>
      refine Limited.catchWith (Φ := fun _ => True) (Plain.limited ?_) again
      exact (Plain.manual t message).bind fun _ _ => Plain.raise (by simp)
  | recursion => exact absurd rfl he
  | os => exact (hfail .os).limited.catchWith again
  | lookup => exact (hfail .lookup).limited.catchWith again
  | repair message => exact (hfail (.repair message)).limited.catchWith again
  | journal message => exact (hfail (.journal message)).limited.catchWith again

variable [DecidableEq D]

theorem buildAndInstall_catch (cfg : Config) (identity : SourceIdentity) (t : Transaction D)
    (fingerprint : SourceFingerprint D) (oldIdx : Artifact D) (allowIdentical : Bool) :
    (buildAndInstall cfg identity t fingerprint oldIdx allowIdentical
      (Prog.raise .recursion)).catchWith (onRecursion again) =
        buildAndInstall cfg identity t fingerprint oldIdx allowIdentical again := by
  refine (Plain.transition t _).limited.catchWith_bind fun u _ => ?_
  refine (Plain.transition _ _).limited.catchWith_bind fun v _ => ?_
  refine (Plain.transition v _).limited.catchWith_bind fun x _ => ?_
  refine (Plain.proveBuild identity x fingerprint).limited.catchWith_bind fun result hresult => ?_
  rcases result with ⟨y, _ | e⟩
  · exact (Plain.finishBuild y oldIdx allowIdentical).limited.catchWith again
  · exact failBuild_catch again cfg y fingerprint (hresult e rfl)

end

/-- A repair is one level of the recursion, with the rest of the recursion where it calls itself. -/
theorem repairOne_levels [DecidableEq D] (cfg : Config) (args : RepairArgs) (fuel : Nat)
    (allowIdentical : Bool) :
    (repairOne cfg args (fuel + 1) allowIdentical : RepairProg D Unit) =
      (repairOne cfg args 1 allowIdentical).catchWith (onRecursion (repairOne cfg args fuel true)) := by
  symm
  simp only [repairOne]
  refine Limited.catchWith_bind (Prog.Confined.orRaise (by simp)) fun base _ => ?_
  refine (Plain.authorizeUnfingerprintedRetry _).limited.catchWith_bind fun retry _ => ?_
  refine (Plain.preflightFingerprint base _ retry).limited.catchWith_bind fun fingerprint _ => ?_
  refine (Plain.admitSource fingerprint).limited.catchWith_bind ?_
  rintro ⟨same, authorized⟩ hsame
  refine (Plain.closeStale _ fingerprint).limited.catchWith_bind fun _ _ => ?_
  refine (Plain.liveArtifacts base _ fingerprint _ authorized).limited.catchWith_bind ?_
  rintro ⟨oldIdx, oldSdx⟩ -
  refine (Plain.resumeOrCreate base _ fingerprint hsame oldIdx oldSdx
    authorized).limited.catchWith_bind fun next _ => ?_
  cases next with
  | none => rfl
  | some t => exact buildAndInstall_catch _ cfg _ t fingerprint oldIdx allowIdentical

/-! ## What a level does to the data file -/

section

variable [DecidableEq D] {sha256 : Bytes → D}

/-- The discipline of time stamps where the surroundings leave the files alone. -/
def dataDiscipline (sha256 : Bytes → D) : Discipline (repairExec sha256) :=
  (stampDiscipline sha256).calm (fun w w' => w'.files = w.files) (fun _ => rfl)
    fun _ _ _ hab hbc => hbc.trans hab

/-- A condition on the contents of the data file. -/
def Held (base : Base) (φ : Option Bytes → Prop) (w : World D) : Prop :=
  φ (w.contents (.dat base))

theorem held_stable (base : Base) (φ : Option Bytes → Prop) :
    (dataDiscipline sha256).Stable (Held base φ) := by
  intro w w' _ _ hd h
  rw [Held, World.contents_congr (congrFun hd.2 _)]
  exact h

/-- The postcondition for exceptions: where the level calls itself, `X` holds. -/
def Recurses (X : World D → Prop) (e : RepairExc D) (w : World D) : Prop :=
  e = .recursion → X w

variable {base : Base} {φ : Option Bytes → Prop} {X : World D → Prop}

/-- A plain part keeps what is known of the data file. -/
theorem plain_held {α : Type} {p : RepairProg D α} {Ψ Φ : α → Prop}
    (hy : Yields (stampDiscipline sha256) p Ψ) (hp : Plain p Φ) :
    (dataDiscipline sha256).Triple (Held base φ) p (fun a w => (Ψ a ∧ Φ a) ∧ Held base φ w)
      (Recurses X) := by
  have hkeeps : ∀ (r : RepairReq D) c w, r.OffData → (dataDiscipline sha256).inv w →
      (dataDiscipline sha256).allow r w → Held base φ w →
        Held base φ (repairExec sha256 r c w).2 := by
    intro r c w hr _ _ h
    rw [Held, World.contents_congr (repairExec_files sha256 c w (hr base))]
    exact h
  refine Discipline.Triple.mono (Discipline.Triple.confined (held_stable base φ) hkeeps hy.calm hp)
    (fun _ _ h => ⟨trivial, h⟩) (fun _ _ _ h => h) ?_
  exact fun e _ _ h hrecursion => absurd hrecursion h.1.2

/-- A plain part in front of the rest of a level. -/
theorem plain_bind {α β : Type} {p : RepairProg D α} {f : α → RepairProg D β} {Ψ Φ : α → Prop}
    {Q : β → World D → Prop} (hy : Yields (stampDiscipline sha256) p Ψ) (hp : Plain p Φ)
    (hf : ∀ a, Ψ a → Φ a → (dataDiscipline sha256).Triple (Held base φ) (f a) Q (Recurses X)) :
    (dataDiscipline sha256).Triple (Held base φ) (p.bind f) Q (Recurses X) :=
  Discipline.Triple.bind (plain_held hy hp) fun a => Discipline.Triple.assume fun h => hf a h.1 h.2

/-- A plain part that ends the level. -/
theorem plain_end {α : Type} {p : RepairProg D α} {Ψ Φ : α → Prop}
    (hy : Yields (stampDiscipline sha256) p Ψ) (hp : Plain p Φ) :
    (dataDiscipline sha256).Triple (Held base φ) p (fun _ _ => True) (Recurses X) :=
  (plain_held hy hp).post fun _ _ _ _ => trivial

/-- From the contents `data`, the data file was cut at a boundary that an inspection of a candidate
proves. -/
def CutFrom (cfg : Config) (data now : Option Bytes) : Prop :=
  ∃ source candidate b v, data = some source ∧
    TailProven candidate source cfg.autoTailRecoveryMaxBytes v.offset b v ∧
    now = some (source.take v.offset)

omit [DecidableEq D] in
theorem contents_tailEnd (w : World D) (id : TxId) (mode : Nat) (before after : HelperState D) :
    (tailEnd w id mode before after).contents (.dat id.base) = some after.source := by
  simp only [tailEnd]
  split <;> split <;> simp [World.contents, World.setFile, Node.read]

/-- A reported recovery has cut the data file at a proven boundary. -/
theorem recoverTail_cuts {cfg : Config} {id : TxId} {expected : Option (RawFingerprint D)}
    {c : RepairChoice D} {w : World D} {offset tailSize needleId : Nat} {tailSha256 : D}
    {after : RawFingerprint D}
    (h : (repairExec sha256 (.recoverTail id expected cfg.autoTailRecoveryMaxBytes) c w).1 =
      .recovered offset tailSize tailSha256 needleId after) :
    CutFrom cfg (w.contents (.dat id.base))
      ((repairExec sha256 (.recoverTail id expected cfg.autoTailRecoveryMaxBytes) c w).2.contents
        (.dat id.base)) := by
  obtain ⟨source, mode, state, hfile, hdone, -, -, hend⟩ := recoverTail_returned h
  obtain ⟨candidate, live, before, hcut, hsource, -⟩ := hdone
  obtain ⟨b, v, hproven⟩ := hcut.candidateProof
  have hoffset := hproven.offset_eq
  subst hoffset
  refine ⟨source, candidate, b, v, by simp [World.contents, hfile], hproven, ?_⟩
  rw [hend, contents_tailEnd, hsource]
  rfl

theorem recoverIncompleteTail_cuts (cfg : Config) {t : Transaction D} (ht : OriginOk t)
    (hbase : t.id.base = base) (fingerprint : SourceFingerprint D) (payload : HelperPayload D)
    (data : Option Bytes) :
    (dataDiscipline sha256).Triple (Held base fun now => now = data)
      (RepairProg.recoverIncompleteTail cfg t fingerprint payload)
      (fun recovered w => (recovered = true → Held base (CutFrom cfg data) w) ∧
        (recovered = false → Held base (fun now => now = data) w)) (Recurses X) := by
  subst hbase
  unfold RepairProg.recoverIncompleteTail
  split
  · exact Discipline.Triple.ret fun _ _ h => ⟨fun hf => absurd hf (by simp), fun _ => h⟩
  · refine plain_bind stampRules.work.fsync Plain.fsync fun _ _ _ => ?_
    refine Discipline.Triple.bind (M := fun process w => ∀ offset tailSize tailSha256 needleId after,
      process = .recovered offset tailSize tailSha256 needleId after →
        Held t.id.base (CutFrom cfg data) w) (Discipline.Triple.ask (held_stable _ _) ?_ ?_)
      fun process => ?_
    · intro w hw _ u hu
      exact absurd hu (by simp [RepairReq.saves])
    · rintro c w - hdata - offset tailSize tailSha256 needleId after hreport
      -- a recovery that the helper reports has cut the data file
      have hcut := recoverTail_cuts hreport
      rw [show w.contents (.dat t.id.base) = data from hdata] at hcut
      exact hcut
    · cases process with
      | recovered offset tailSize tailSha256 needleId after =>
          refine Discipline.Triple.pre (P := Held t.id.base (CutFrom cfg data)) ?_
            fun w _ h => h _ _ _ _ _ rfl
          simp only [tailPayload, Prog.bind_eq, Prog.pure_eq, Prog.ret_bind]
          refine plain_bind Yields.raiseIf (Plain.raiseIf (by simp)) fun _ _ _ => ?_
          refine plain_bind Yields.raiseIf (Plain.raiseIf (by simp)) fun _ _ _ => ?_
          -- what follows, a save among it, leaves the data file alone
          refine Discipline.Triple.bind (plain_held (stampRules.transition _ _ (ht.moved ?_) (by simp))
            (Plain.transition _ _)) fun _ => Discipline.Triple.ret fun _ _ h => ?_
          · exact ⟨rfl, rfl, rfl, rfl⟩
          · exact ⟨fun _ => h.2, fun hf => absurd hf (by simp)⟩
      | spawnFailed => exact Discipline.Triple.raise fun _ _ _ hr => absurd hr (by simp)
      | timeout => exact Discipline.Triple.raise fun _ _ _ hr => absurd hr (by simp)
      | invalid => exact Discipline.Triple.raise fun _ _ _ hr => absurd hr (by simp)
      | failed error => exact Discipline.Triple.raise fun _ _ _ hr => absurd hr (by simp)

theorem failBuild_cuts (cfg : Config) {t : Transaction D} (ht : OriginOk t) (hbase : t.id.base = base)
    (fingerprint : SourceFingerprint D) (data : Option Bytes) {e : RepairExc D}
    (he : e ≠ .recursion) :
    (dataDiscipline sha256).Triple (Held base fun now => now = data)
      (failBuild cfg t fingerprint (Prog.raise .recursion) e) (fun _ _ => True)
      (Recurses (Held base (CutFrom cfg data))) := by
  -- a failure that is recorded is raised as a repair error, which does not recurse
  have hfail : ∀ e : RepairExc D, (dataDiscipline sha256).Triple (Held base fun now => now = data)
      ((recordPreinstallFailure t e.text).bind fun _ => Prog.raise (.repair e.text) : RepairProg D Unit)
      (fun _ _ => True) (Recurses (Held base (CutFrom cfg data))) :=
    fun e => plain_bind (stampRules.work.recordPreinstallFailure ht _)
      (Plain.recordPreinstallFailure t _) fun _ _ _ =>
        Discipline.Triple.raise fun _ _ _ hr => absurd hr (by simp)
  -- nor does one that is handed to the operator
  have hmanual : ∀ (message : String) (e : RepairExc D), e ≠ .recursion →
      (dataDiscipline sha256).Triple (Held base fun now => now = data)
        ((manual t message).bind fun _ => Prog.raise e : RepairProg D Unit) (fun _ _ => True)
        (Recurses (Held base (CutFrom cfg data))) :=
    fun message e he => plain_bind (stampRules.work.manual ht _) (Plain.manual t _) fun _ _ _ =>
      Discipline.Triple.raise fun _ _ _ hr => absurd hr he
  cases e with
  | unsafeCandidate message payload =>
      refine Discipline.Triple.bind (recoverIncompleteTail_cuts cfg ht hbase fingerprint payload data)
        fun recovered => ?_
      cases recovered with
      | true => exact Discipline.Triple.raise fun _ _ h _ => h.1 rfl
      | false => exact (hmanual message _ (by simp)).pre fun _ _ h => h.2 rfl
  | manual message => exact hmanual message _ (by simp)
  | recursion => exact absurd rfl he
  | os => exact hfail _
  | lookup => exact hfail _
  | repair message => exact hfail _
  | journal message => exact hfail _

theorem buildAndInstall_cuts (cfg : Config) (identity : SourceIdentity) {t : Transaction D}
    (ht : OriginOk t) (hbase : t.id.base = base) (fingerprint : SourceFingerprint D)
    (oldIdx : Artifact D) (allowIdentical : Bool) (data : Option Bytes) :
    (dataDiscipline sha256).Triple (Held base fun now => now = data)
      (buildAndInstall cfg identity t fingerprint oldIdx allowIdentical (Prog.raise .recursion))
      (fun _ _ => True) (Recurses (Held base (CutFrom cfg data))) := by
  refine plain_bind (stampRules.work.moves ht (by simp)) (Plain.transition t _) fun u hu _ => ?_
  have hu' := (ht.moved hu.1).moved (.staged u)
  refine plain_bind (stampRules.work.moves hu' (by simp)) (Plain.transition _ _)
    fun v hv _ => ?_
  have hv' := hu'.moved hv.1
  refine plain_bind (stampRules.work.moves hv' (by simp)) (Plain.transition v _) fun x hx _ => ?_
  refine plain_bind (stampRules.work.proveBuild identity x fingerprint)
    (Plain.proveBuild identity x fingerprint) fun result hresult hplain => ?_
  have hmoved : SameOrigin t result.1 :=
    (((hu.1.trans (.staged u)).trans hv.1).trans hx.1).trans hresult
  rcases result with ⟨y, _ | e⟩
  · exact plain_end (stampRules.install.finishBuild (ht.moved hmoved) oldIdx allowIdentical)
      (Plain.finishBuild y oldIdx allowIdentical)
  · have hid : y.id.base = base := by
      rw [hmoved.id]
      exact hbase
    exact failBuild_cuts cfg (ht.moved hmoved) hid fingerprint data (hplain e rfl)

/-- A level calls itself only after it has cut the data file. -/
theorem repairOne_cuts (cfg : Config) (args : RepairArgs) (allowIdentical : Bool)
    (data : Option Bytes) :
    (dataDiscipline sha256).Triple (Held args.base fun now => now = data)
      (repairOne cfg args 1 allowIdentical) (fun _ _ => True)
      (Recurses (Held args.base (CutFrom cfg data))) := by
  simp only [repairOne]
  refine plain_bind Yields.orRaise (Prog.Confined.orRaise (by simp)) fun base hbase _ => ?_
  obtain rfl : base = args.base := safeBaseName_eq hbase
  refine plain_bind (stampRules.authorizeUnfingerprintedRetry _)
    (Plain.authorizeUnfingerprintedRetry _) fun retry _ _ => ?_
  refine plain_bind (stampRules.preflightFingerprint args.base cfg _ retry)
    (Plain.preflightFingerprint args.base _ retry) ?_
  rintro _ ⟨raw, rfl⟩ -
  refine plain_bind (stampRules.admitSource _) (Plain.admitSource _) ?_
  rintro ⟨same, authorized⟩ hsame hsource
  refine plain_bind (stampRules.closeStale _ _) (Plain.closeStale _ _) fun _ _ _ => ?_
  refine plain_bind (stampRules.work.liveArtifacts args.base cfg _ raw _ authorized)
    (Plain.liveArtifacts args.base _ _ _ authorized) ?_
  rintro ⟨oldIdx, oldSdx⟩ - -
  refine plain_bind (stampRules.install.resumeOrCreate args.base cfg _ raw
    (fun t ht => (hsame t ht).1) oldIdx oldSdx authorized)
    (Plain.resumeOrCreate args.base _ _ hsource oldIdx oldSdx authorized) fun next horigin hnext => ?_
  cases next with
  | none => exact Discipline.Triple.ret fun _ _ _ => trivial
  | some t =>
      have ht := horigin t rfl
      -- a record of this source is a record of this volume
      have hidentity : sourceIdentity cfg args.activeTransport args.base = t.identity :=
        ht.known _ raw (hnext t rfl)
      have hid : t.id.base = args.base := by
        rw [ht.base, ← hidentity]
        rfl
      exact buildAndInstall_cuts cfg _ ht hid _ oldIdx allowIdentical data

end

/-! ## The recursion -/

/-- The size of the data file of a volume. -/
def dataSize (base : Base) (w : World D) : Nat :=
  ((w.contents (.dat base)).getD []).length

/-- Between the two states the data file was cut at the offset of the only entry of a candidate that
ends past it. The offset is positive, and it is the new size of the file. -/
structure CutAtBoundary (base : Base) (w w' : World D) : Prop where
  shorter : dataSize base w' < dataSize base w
  boundary : ∃ source candidate b v, w.contents (.dat base) = some source ∧
    inspectIndexBounds candidate source = .ok b ∧ soleViolation b = some v ∧ 0 < v.offset ∧
    w'.contents (.dat base) = some (source.take v.offset) ∧ dataSize base w' = v.offset

theorem CutFrom.cutAtBoundary {cfg : Config} {base : Base} {w w' : World D}
    (h : CutFrom cfg (w.contents (.dat base)) (w'.contents (.dat base))) : CutAtBoundary base w w' := by
  obtain ⟨source, candidate, b, v, hbefore, hproven, hafter⟩ := h
  obtain ⟨hpositive, hinside, -⟩ := hproven.range
  have hsize : dataSize base w = source.length := by
    rw [dataSize, hbefore, Option.getD_some]
  have hsize' : dataSize base w' = v.offset := by
    rw [dataSize, hafter, Option.getD_some, List.length_take]
    omega
  refine ⟨by omega, source, candidate, b, v, hbefore, hproven.inspected, hproven.sole, hpositive,
    hafter, hsize'⟩

section

variable [DecidableEq D]

/-- A repair that starts in `w` gets to a call of itself in `w'`, with `request_retry` calls in
between. -/
def CallsItself (sha256 : Bytes → D) (cfg : Config) (args : RepairArgs) (w w' : World D) : Prop :=
  ∃ allowIdentical, Reaches (repairExec sha256) OperatorStep
    ((repairOne cfg args 1 allowIdentical : RepairProg D Unit), w) (.raise .recursion, w')

variable {sha256 : Bytes → D} {cfg : Config} {args : RepairArgs} {w w' : World D}

/-- One nested call. -/
theorem CallsItself.cut (hw : StampInv w) (h : CallsItself sha256 cfg args w w') :
    StampInv w' ∧ CutAtBoundary args.base w w' := by
  obtain ⟨allowIdentical, hreach⟩ := h
  have hlevel : (dataDiscipline sha256).Triple _ _ _ _ :=
    repairOne_cuts cfg args allowIdentical (w.contents (.dat args.base))
  have hsteps : ∀ s s' : World D, (dataDiscipline sha256).inv s → OperatorStep s s' →
      (dataDiscipline sha256).inv s' ∧ (dataDiscipline sha256).disturb s s' := by
    intro s s' hs hstep
    obtain ⟨hinv, hkept⟩ := operatorStep_stamps hs hstep
    refine ⟨hinv, hkept, ?_⟩
    cases hstep with
    | load t ht => rfl
    | save t elapsed others later heq => rfl
  have hstable : ∀ e, (dataDiscipline sha256).Stable
      (Recurses (Held args.base (CutFrom cfg (w.contents (.dat args.base)))) e) :=
    fun e s s' hs hs' hd h hrecursion => held_stable _ _ s s' hs hs' hd (h hrecursion)
  obtain ⟨hinv, -, hcut⟩ := Discipline.Runs.reaches
    (fun _ => Discipline.Stable.const True) hstable hsteps hw (hlevel w hw rfl) hreach
  exact ⟨hinv, CutFrom.cutAtBoundary (hcut rfl)⟩

/-- Nested calls, and what they leave of the data file. -/
theorem nested_calls_cut {ws : List (World D)} (hw : StampInv w)
    (h : List.IsChain (CallsItself sha256 cfg args) (w :: ws)) :
    List.IsChain (CutAtBoundary args.base) (w :: ws) ∧ ws.length ≤ dataSize args.base w := by
  induction ws generalizing w with
  | nil => exact ⟨.singleton w, Nat.zero_le _⟩
  | cons next ws ih =>
      obtain ⟨hcall, hrest⟩ := List.isChain_cons_cons.1 h
      obtain ⟨hinv, hcut⟩ := hcall.cut hw
      obtain ⟨hchain, hlength⟩ := ih hinv hrest
      refine ⟨List.isChain_cons_cons.2 ⟨hcut, hchain⟩, ?_⟩
      have hshorter := hcut.shorter
      rw [List.length_cons]
      omega

/-- A repair that exceeds its limit has called itself as often as the limit says. -/
theorem nested_calls_of_recursion {fuel : Nat} {allowIdentical : Bool}
    (h : Reaches (repairExec sha256) OperatorStep
      ((repairOne cfg args fuel allowIdentical : RepairProg D Unit), w) (.raise .recursion, w')) :
    ∃ ws, List.IsChain (CallsItself sha256 cfg args) (w :: ws) ∧ ws.length = fuel := by
  induction fuel generalizing allowIdentical w with
  | zero => exact ⟨[], .singleton w, rfl⟩
  | succ fuel ih =>
      rw [repairOne_levels] at h
      obtain ⟨e, next, hlevel, hrest⟩ := Reaches.of_catchWith h
      have he : e = .recursion := by
        by_contra hne
        rw [onRecursion_of_ne _ _ hne] at hrest
        exact hne (Prog.raise.inj (hrest.of_raise rfl)).symm
      subst he
      obtain ⟨ws, hchain, hlength⟩ := ih hrest
      refine ⟨next :: ws, List.isChain_cons_cons.2 ⟨⟨allowIdentical, hlevel⟩, hchain⟩, ?_⟩
      rw [List.length_cons, hlength]

/-- From every state that the controller reaches between two operations, and whatever the candidate
builder, the tail helper and the file system do: every nested call of a repair is made after the data
file was cut at a proven boundary, there are at most as many nested calls as the data file had bytes,
and a recursion limit above this number is never exceeded. -/
theorem tail_recursion_ends (sha256 : Bytes → D) (clean tidy : Prop) (volumeId : Int)
    (files : Path → Option Node) (w : World D)
    (hw : (volumeMachine sha256 clean tidy volumeId).Reachable { files := files } ⟨w, none⟩)
    (cfg : Config) (args : RepairArgs) :
    (∀ ws : List (World D), List.IsChain (CallsItself sha256 cfg args) (w :: ws) →
      List.IsChain (CutAtBoundary args.base) (w :: ws) ∧ ws.length ≤ dataSize args.base w) ∧
    ∀ (fuel : Nat) (allowIdentical : Bool) (w' : World D), dataSize args.base w < fuel →
      ¬ Reaches (repairExec sha256) OperatorStep
        ((repairOne cfg args fuel allowIdentical : RepairProg D Unit), w)
        (.raise .recursion, w') := by
  have hinv : StampInv w := stampInv_of_reachable hw
  constructor
  · exact fun ws h => nested_calls_cut hinv h
  · intro fuel allowIdentical w' hfuel hreach
    -- a run into the limit makes as many nested calls as the limit allows
    obtain ⟨ws, hchain, hlength⟩ := nested_calls_of_recursion hreach
    have hbound := (nested_calls_cut hinv hchain).2
    omega

end

namespace Sample

/-- One level of a repair of the volume with the torn record, cut off at the nested call. -/
def level : Outcome (RepairExc Bytes) Unit × World Bytes :=
  (repairOne config ⟨"", 1, ""⟩ 1 false).run (repairExec id)
    (untilRemoval ++ List.replicate 2 tornChoice) { files := tornFiles }

def exceeded : Outcome (RepairExc Bytes) Unit → Bool
  | .raised .recursion => true
  | _ => false

theorem eq_of_exceeded {outcome : Outcome (RepairExc Bytes) Unit} (h : exceeded outcome = true) :
    outcome = .raised .recursion := by
  unfold exceeded at h
  split at h
  · rfl
  · exact absurd h (by simp)

theorem level_calls : CallsItself id config ⟨"", 1, ""⟩ { files := tornFiles } level.2 :=
  ⟨false, Reaches.of_run _ _ (eq_of_exceeded (by decide +kernel))⟩

end Sample

/-- The volume with the torn record: one nested call, after the file of twenty-four bytes was cut. -/
theorem tail_recursion_ends_torn :
    CallsItself id Sample.config ⟨"", 1, ""⟩ { files := Sample.tornFiles } Sample.level.2 ∧
      CutAtBoundary Sample.base { files := Sample.tornFiles } Sample.level.2 ∧
      ∀ allowIdentical w', ¬ Reaches (repairExec id) OperatorStep
        (repairOne Sample.config ⟨"", 1, ""⟩ 25 allowIdentical, { files := Sample.tornFiles })
        (.raise .recursion, w') := by
  obtain ⟨hcalls, hlimit⟩ := tail_recursion_ends id False False 1 Sample.tornFiles
    { files := Sample.tornFiles } .refl Sample.config ⟨"", 1, ""⟩
  have hchain : List.IsChain (CallsItself id Sample.config ⟨"", 1, ""⟩)
      [{ files := Sample.tornFiles }, Sample.level.2] :=
    List.isChain_cons_cons.2 ⟨Sample.level_calls, .singleton _⟩
  refine ⟨Sample.level_calls, (List.isChain_cons_cons.1 (hcalls _ hchain).1).1, ?_⟩
  exact fun allowIdentical w' => hlimit 25 allowIdentical w' (by decide +kernel)

end StorageNode.IndexRepair
