import StorageNode.Guardian.Invariant

/-!
# Permitted requests keep the invariant

`Moved` is what signals and ending processes do to a state. `guardDiscipline` packages the invariant,
this interference and the permitted requests; its proof goes through the requests once. Most of them
change nothing that the invariant speaks about (`GuardInv.frame`).
-/

set_option autoImplicit false

namespace StorageNode.Guardian

open StorageNode.Program

/-! ## Interference -/

/-- Signals set `stopping` and withdraw readiness; processes and helpers end. -/
structure Moved (w w' : World) : Prop where
  self : w'.self = { w.self with stopping := w'.self.stopping }
  stopping : w.self.stopping = true → w'.self.stopping = true
  ready : w'.health.ready = true → w.health.ready = true
  certified : w'.health.indexesCertified = w.health.indexesCertified
  orphan : w'.health.orphanDeletionSafe = w.health.orphanDeletionSafe
  history : w'.history = w.history
  running : ∀ p ∈ w'.running, p ∈ w.running
  helpersRunning : ∀ h ∈ w'.helpersRunning, h ∈ w.helpersRunning
  fenced : w'.fenced = w.fenced
  pending : w'.pending = w.pending
  nextSerial : w'.nextSerial = w.nextSerial
  heeded : w'.heeded = w.heeded
  log : w'.log = w.log
  routes : w'.routes = w.routes

theorem Moved.refl (w : World) : Moved w w :=
  ⟨rfl, id, id, rfl, rfl, rfl, fun _ h => h, fun _ h => h, rfl, rfl, rfl, rfl, rfl, rfl⟩

theorem Moved.trans (a b c : World) (hab : Moved a b) (hbc : Moved b c) : Moved a c where
  self := by rw [hbc.self, hab.self]
  stopping h := hbc.stopping (hab.stopping h)
  ready h := hab.ready (hbc.ready h)
  certified := hbc.certified.trans hab.certified
  orphan := hbc.orphan.trans hab.orphan
  history := hbc.history.trans hab.history
  running p hp := hab.running p (hbc.running p hp)
  helpersRunning p hp := hab.helpersRunning p (hbc.helpersRunning p hp)
  fenced := hbc.fenced.trans hab.fenced
  pending := hbc.pending.trans hab.pending
  nextSerial := hbc.nextSerial.trans hab.nextSerial
  heeded := hbc.heeded.trans hab.heeded
  log := hbc.log.trans hab.log
  routes := hbc.routes.trans hab.routes

theorem moved_of_outside {w w' : World} (h : Outside w w') : Moved w w' := by
  cases h with
  | signal =>
      exact ⟨rfl, fun _ => rfl, fun h => absurd h (by simp), rfl, rfl, rfl, fun _ h => h,
        fun _ h => h, rfl, rfl, rfl, rfl, rfl, rfl⟩
  | processExit p =>
      exact ⟨rfl, id, id, rfl, rfl, rfl, fun q hq => List.mem_of_mem_filter hq, fun _ h => h,
        rfl, rfl, rfl, rfl, rfl, rfl⟩
  | helperExit p =>
      exact ⟨rfl, id, id, rfl, rfl, rfl, fun _ h => h, fun q hq => List.mem_of_mem_filter hq,
        rfl, rfl, rfl, rfl, rfl, rfl⟩

/-! ## The frame of the invariant -/

/-- Nothing that the invariant speaks about changes, except for the end of processes and helpers and
the withdrawal of a flag. -/
structure SameCore (w w' : World) : Prop where
  processes : w'.self.processes = w.self.processes
  lingering : w'.self.lingeringProcesses = w.self.lingeringProcesses
  helperChildren : w'.self.helperChildren = w.self.helperChildren
  generation : w'.self.generation = w.self.generation
  repair : w.self.indexRepair = true → w'.self.indexRepair = true
  running : ∀ p ∈ w'.running, p ∈ w.running
  helpersRunning : ∀ h ∈ w'.helpersRunning, h ∈ w.helpersRunning
  fenced : w'.fenced = w.fenced
  nextSerial : w.nextSerial ≤ w'.nextSerial
  heeded : w'.heeded = w.heeded
  ready : w'.health.ready = true → w.health.ready = true
  certified : w'.health.indexesCertified = w.health.indexesCertified
  orphan : w'.health.orphanDeletionSafe = true → w.health.orphanDeletionSafe = true
  history : w'.history.indexesCertified = w.history.indexesCertified

theorem SameCore.refl (w : World) : SameCore w w :=
  ⟨rfl, rfl, rfl, rfl, id, fun _ h => h, fun _ h => h, rfl, Nat.le_refl _, rfl, id, rfl, id, rfl⟩

/-- The attributes outside of the core, the clock and the serial numbers may change. -/
theorem SameCore.of_eq {w w' : World} (hself : w'.self =
      { w'.self with
        processes := w.self.processes, lingeringProcesses := w.self.lingeringProcesses
        helperChildren := w.self.helperChildren, generation := w.self.generation })
    (hrepair : w.self.indexRepair = true → w'.self.indexRepair = true)
    (hhealth : w'.health = w.health) (hhistory : w'.history = w.history)
    (hrunning : w'.running = w.running) (hhelpers : w'.helpersRunning = w.helpersRunning)
    (hfenced : w'.fenced = w.fenced) (hserial : w.nextSerial ≤ w'.nextSerial)
    (hheeded : w'.heeded = w.heeded) : SameCore w w' where
  processes := by rw [hself]
  lingering := by rw [hself]
  helperChildren := by rw [hself]
  generation := by rw [hself]
  repair := hrepair
  running p hp := hrunning ▸ hp
  helpersRunning h hh := hhelpers ▸ hh
  fenced := hfenced
  nextSerial := hserial
  heeded := hheeded
  ready h := hhealth ▸ h
  certified := by rw [hhealth]
  orphan h := hhealth ▸ h
  history := by rw [hhistory]

theorem Moved.sameCore {w w' : World} (h : Moved w w') : SameCore w w' where
  processes := by rw [h.self]
  lingering := by rw [h.self]
  helperChildren := by rw [h.self]
  generation := by rw [h.self]
  repair hr := by rwa [h.self]
  running := h.running
  helpersRunning := h.helpersRunning
  fenced := h.fenced
  nextSerial := Nat.le_of_eq h.nextSerial.symm
  heeded := h.heeded
  ready := h.ready
  certified := h.certified
  orphan hsafe := h.orphan ▸ hsafe
  history := by rw [h.history]

/-- The log is as it was, or has one more event that leaves readiness alone. -/
def Logged (w w' : World) : Prop :=
  w'.log = w.log ∨ ∃ e : Event, e.harmless = true ∧ w'.log = e :: w.log

section

variable {cfg : Config} {w w' : World}

theorem mem_of_logged (h : Logged w w') {e : Event} (he : e ∈ w'.log) :
    e ∈ w.log ∨ e.harmless = true := by
  rcases h with hlog | ⟨x, hx, hlog⟩
  · exact .inl (hlog ▸ he)
  · rw [hlog] at he
    rcases List.mem_cons.1 he with rfl | he
    · exact .inr hx
    · exact .inl he

theorem subset_of_logged (h : Logged w w') {e : Event} (he : e ∈ w.log) : e ∈ w'.log := by
  rcases h with hlog | ⟨x, -, hlog⟩
  · exact hlog ▸ he
  · exact hlog ▸ List.mem_cons_of_mem _ he

theorem GuardInv.frame (h : GuardInv cfg w) (hs : SameCore w w') (hlog : Logged w w') :
    GuardInv cfg w' where
  procs p hp := by
    rw [hs.processes, hs.lingering]
    exact h.procs p (hs.running p hp)
  helpers x hx := by
    rw [hs.helperChildren]
    exact h.helpers x (hs.helpersRunning x hx)
  generations g hg := by
    rw [hs.fenced, hs.generation]
    rcases mem_of_logged hlog hg with hg | hharmless
    · rcases h.generations g hg with hfenced | hcurrent | ⟨g', hfailed⟩
      · exact .inl hfenced
      · exact .inr (.inl hcurrent)
      · exact .inr (.inr ⟨g', subset_of_logged hlog hfailed⟩)
    · exact absurd hharmless (by simp [Event.harmless, Event.turnsOver])
  current g hg := Nat.lt_of_lt_of_le (h.current g (hs.generation ▸ hg)) hs.nextSerial
  fresh g hg := Nat.lt_of_lt_of_le (h.fresh g (hs.fenced ▸ hg)) hs.nextSerial
  ready hr := by
    rcases hlog with hlog | ⟨e, he, hlog⟩
    · exact (h.ready (hs.ready hr)).same hs.generation hs.fenced hlog
    · exact (h.ready (hs.ready hr)).extend hs.generation hs.fenced hlog he
  orphan htidy hsafe := by
    rw [hs.certified, hs.history]
    exact h.orphan (fun hbad => htidy (subset_of_logged hlog hbad)) (hs.orphan hsafe)

/-- Nothing but the clock, serial numbers or other attributes changes. -/
theorem GuardInv.quiet (h : GuardInv cfg w) (hs : SameCore w w') (hlog : w'.log = w.log) :
    GuardInv cfg w' :=
  h.frame hs (.inl hlog)

/-- One more event. -/
theorem GuardInv.event (h : GuardInv cfg w) {e : Event} (he : e.harmless = true) (hs : SameCore w w')
    (hlog : w'.log = e :: w.log) : GuardInv cfg w' :=
  h.frame hs (.inr ⟨e, he, hlog⟩)

/-- A state that is not ready may log anything but a creation, or a finished generation under a
published flag. -/
theorem GuardInv.down (h : GuardInv cfg w) (hs : SameCore w w') (hready : w.health.ready = false)
    {e : Event} (hlog : w'.log = e :: w.log) (he : ∀ g, e ≠ .created g) : GuardInv cfg w' where
  procs p hp := by
    rw [hs.processes, hs.lingering]
    exact h.procs p (hs.running p hp)
  helpers x hx := by
    rw [hs.helperChildren]
    exact h.helpers x (hs.helpersRunning x hx)
  generations g hg := by
    rw [hs.fenced, hs.generation]
    rw [hlog] at hg ⊢
    rcases List.mem_cons.1 hg with heq | hg
    · exact absurd heq.symm (he g)
    · rcases h.generations g hg with hfenced | hcurrent | ⟨g', hfailed⟩
      · exact .inl hfenced
      · exact .inr (.inl hcurrent)
      · exact .inr (.inr ⟨g', List.mem_cons_of_mem _ hfailed⟩)
  current g hg := Nat.lt_of_lt_of_le (h.current g (hs.generation ▸ hg)) hs.nextSerial
  fresh g hg := Nat.lt_of_lt_of_le (h.fresh g (hs.fenced ▸ hg)) hs.nextSerial
  ready hr := absurd ((hs.ready hr).symm.trans hready) (by simp)
  orphan htidy hsafe := by
    rw [hs.certified, hs.history]
    exact h.orphan (fun hbad => htidy (hlog ▸ List.mem_cons_of_mem _ hbad)) (hs.orphan hsafe)

/-! ## Lists of processes and helpers -/

/-- Everything but the lists, the processes and the helpers is as it was. -/
theorem GuardInv.lists (h : GuardInv cfg w) (hgeneration : w'.self.generation = w.self.generation)
    (hfenced : w'.fenced = w.fenced) (hserial : w.nextSerial ≤ w'.nextSerial)
    (hhealth : w'.health = w.health) (hhistory : w'.history = w.history) (hlog : Logged w w')
    (hprocs : ∀ p ∈ w'.running, p ∈ w'.self.processes ∨ p ∈ w'.self.lingeringProcesses)
    (hhelpers : ∀ x ∈ w'.helpersRunning, x ∈ w'.self.helperChildren) : GuardInv cfg w' := by
  -- the lists have their own conditions, so the frame is used on a state with the old lists
  have hold : GuardInv cfg { w' with
      self := w.self, running := w.running, helpersRunning := w.helpersRunning
      heeded := w.heeded } := h.frame
    ⟨rfl, rfl, rfl, rfl, id, fun _ h => h, fun _ h => h, hfenced, hserial, rfl, fun hr => hhealth ▸ hr,
      by rw [hhealth], fun hs => hhealth ▸ hs, by rw [hhistory]⟩ hlog
  constructor
  · exact hprocs
  · exact hhelpers
  · intro g hg
    rw [hgeneration]
    exact hold.generations g hg
  · intro g hg
    exact hold.current g (hgeneration ▸ hg)
  · exact hold.fresh
  · intro hr
    exact (hold.ready hr).same hgeneration rfl rfl
  · exact hold.orphan

/-! ## Requests that leave the invariant alone -/

end

/-- Requests that are always permitted and change nothing that the invariant speaks about. -/
def GuardReq.quiet : GuardReq → Bool
  | .view => true
  | .assign .stopping => true
  | .assign .fatalFenceFailure => true
  | .assign .indexRepair => true
  | .assign (.transport _) => true
  | .setHealth _ ready => !ready
  | .sleep => true
  | .expired => true
  | .setup => true
  | .haproxy => true
  | .haproxyRunning => true
  | .buildProcesses => true
  | .waitForTcp _ => true
  | .running _ => true
  | .helperRunning _ => true
  | .spawnNamespace _ => true
  | .configureNamespace _ => true
  | .generationFenced _ => true
  | .persistGeneration _ => true
  | .stopKeeper _ => true
  | .historyView => true
  | .reconcile _ => true
  | .validateUpstream _ => true
  | .unresolvedUnexpected _ => true
  | .selectTransport => true
  | .verificationRequired => true
  | .quarantinedTransports => true
  | .updateTransports => true
  | .recordFailure _ => true
  | .recordSuccess _ => true
  | .cleanUpSshfs _ => true
  | .pendingRequest => true
  | _ => false

/-- Requests that are always permitted and only record what they found. -/
def GuardReq.reports : GuardReq → Bool
  | .clock => true
  | .inspect => true
  | .canary => true
  | .hasAwaiting => true
  | _ => false

/-- Events of such requests. -/
def Event.reported : Event → Bool
  | .clock _ => true
  | .inspected _ => true
  | .canary => true
  | .awaiting _ => true
  | _ => false

section

variable {cfg : Config} {r : GuardReq}

theorem permit_of_quiet (hr : r.quiet = true) (w : World) : Permit cfg r w := by
  cases r with
  | assign a => cases a <;> trivial
  | setHealth phase ready =>
      cases ready with
      | false => exact fun h => absurd h (by decide)
      | true => exact absurd hr (by simp [GuardReq.quiet])
  | _ => trivial

/-- A quiet request keeps the core of the state and records nothing. -/
theorem quiet_core (hr : r.quiet = true) (c : GuardChoice) (w : World) :
    SameCore w (guardExec r c w).2 ∧ (guardExec r c w).2.log = w.log := by
  have hsame := SameCore.refl w
  cases r with
  | assign a =>
      cases a with
      | stopping => exact ⟨.of_eq rfl id rfl rfl rfl rfl rfl (Nat.le_refl _) rfl, rfl⟩
      | fatalFenceFailure => exact ⟨.of_eq rfl id rfl rfl rfl rfl rfl (Nat.le_refl _) rfl, rfl⟩
      | indexRepair =>
          exact ⟨.of_eq rfl (fun _ => rfl) rfl rfl rfl rfl rfl (Nat.le_refl _) rfl, rfl⟩
      | transport t => exact ⟨.of_eq rfl id rfl rfl rfl rfl rfl (Nat.le_refl _) rfl, rfl⟩
      | _ => exact absurd hr (by simp [GuardReq.quiet])
  | setHealth phase ready =>
      obtain rfl : ready = false := by simpa [GuardReq.quiet] using hr
      exact ⟨⟨rfl, rfl, rfl, rfl, id, fun _ h => h, fun _ h => h, rfl, Nat.le_refl _,
        rfl, fun h => absurd h (by simp [guardExec]), rfl, id, rfl⟩, rfl⟩
  | buildProcesses =>
      simp only [guardExec]
      split
      · exact ⟨.of_eq rfl id rfl rfl rfl rfl rfl (Nat.le_add_right _ _) rfl, rfl⟩
      · exact ⟨hsame, rfl⟩
  | validateUpstream status =>
      simp only [guardExec]
      split <;> exact ⟨.of_eq rfl id rfl rfl rfl rfl rfl (Nat.le_refl _) rfl, rfl⟩
  | sleep => exact ⟨.of_eq rfl id rfl rfl rfl rfl rfl (Nat.le_refl _) rfl, rfl⟩
  | recordSuccess name => exact ⟨.of_eq rfl id rfl rfl rfl rfl rfl (Nat.le_refl _) rfl, rfl⟩
  | _ => first | exact ⟨hsame, rfl⟩ | exact absurd hr (by simp [GuardReq.quiet])

/-- A reporting request keeps the core of the state and records at most one event. -/
theorem reports_core (hr : r.reports = true) (c : GuardChoice) (w : World) :
    SameCore w (guardExec r c w).2 ∧ ((guardExec r c w).2.log = w.log ∨
      ∃ e : Event, e.reported = true ∧ (guardExec r c w).2.log = e :: w.log) := by
  have hsame := SameCore.refl w
  cases r with
  | clock =>
      exact ⟨.of_eq rfl id rfl rfl rfl rfl rfl (Nat.le_refl _) rfl,
        .inr ⟨_, rfl, rfl⟩⟩
  | inspect =>
      simp only [guardExec]
      split
      · exact ⟨hsame, .inl rfl⟩
      · exact ⟨⟨rfl, rfl, rfl, rfl, id, fun _ h => h, fun _ h => h, rfl, Nat.le_refl _, rfl, id, rfl,
          fun h => absurd h (by simp), rfl⟩, .inr ⟨_, rfl, rfl⟩⟩
  | canary =>
      simp only [guardExec, World.record]
      split
      · exact ⟨.of_eq rfl id rfl rfl rfl rfl rfl (Nat.le_refl _) rfl,
          .inr ⟨_, rfl, rfl⟩⟩
      · exact ⟨hsame, .inl rfl⟩
  | hasAwaiting =>
      simp only [guardExec]
      split
      · exact ⟨.of_eq rfl id rfl rfl rfl rfl rfl (Nat.le_refl _) rfl,
          .inr ⟨_, rfl, rfl⟩⟩
      · exact ⟨hsame, .inl rfl⟩
  | _ => exact absurd hr (by simp [GuardReq.reports])

theorem Event.harmless_of_reported : ∀ e : Event, e.reported = true → e.harmless = true := by
  intro e he
  cases e <;> first | rfl | exact absurd he (by simp [Event.reported])

theorem GuardInv.of_quiet {w : World} (h : GuardInv cfg w) (hr : r.quiet = true) (c : GuardChoice) :
    GuardInv cfg (guardExec r c w).2 :=
  h.quiet (quiet_core hr c w).1 (quiet_core hr c w).2

theorem GuardInv.of_reports {w : World} (h : GuardInv cfg w) (hr : r.reports = true)
    (c : GuardChoice) : GuardInv cfg (guardExec r c w).2 := by
  obtain ⟨hcore, hlog⟩ := reports_core hr c w
  refine h.frame hcore ?_
  rcases hlog with hlog | ⟨e, he, hlog⟩
  · exact .inl hlog
  · exact .inr ⟨e, Event.harmless_of_reported e he, hlog⟩

/-! ## Requests with a condition -/

variable {w : World}

/-- The invariant says nothing about routes. -/
theorem GuardInv.routed (h : GuardInv cfg w) (routes : List RouteEvent) :
    GuardInv cfg { w with routes := routes } :=
  h.quiet (.of_eq rfl id rfl rfl rfl rfl rfl (Nat.le_refl _) rfl) rfl

/-- Nor about stop checks. -/
theorem GuardInv.heed (h : GuardInv cfg w) (heeded : Bool) : GuardInv cfg { w with heeded := heeded } where
  procs := h.procs
  helpers := h.helpers
  generations := h.generations
  current := h.current
  fresh := h.fresh
  ready hr := (h.ready hr).same rfl rfl rfl
  orphan := h.orphan

/-- The generation is given up once it is fenced, or a fence has failed. -/
theorem GuardInv.detach (h : GuardInv cfg w) (hp : Permit cfg (.assign (.generation none)) w) :
    GuardInv cfg { w with self := { w.self with generation := none } } where
  procs := h.procs
  helpers := h.helpers
  generations g hg := by
    rcases h.generations g hg with hfenced | hcurrent | hfailed
    · exact .inl hfenced
    · rcases hp.2 g hcurrent with hfenced | hfailed
      · exact .inl hfenced
      · exact .inr (.inr hfailed)
    · exact .inr (.inr hfailed)
  current _ hg := absurd hg (by simp)
  fresh := h.fresh
  ready hr := absurd (hr.symm.trans hp.1) (by simp)
  orphan := h.orphan

theorem GuardInv.create {g : Nat} (h : GuardInv cfg w)
    (hp : Permit cfg (.assign (.generation (some g))) w) :
    GuardInv cfg { w with
      self := { w.self with generation := some g }, log := .created g :: w.log } where
  procs := h.procs
  helpers := h.helpers
  generations g' hg := by
    obtain ⟨-, hsound, hnone, -, -⟩ := hp
    rcases List.mem_cons.1 hg with heq | hg
    · obtain rfl : g' = g := by simpa using heq
      exact .inr (.inl rfl)
    · rcases h.generations g' hg with hfenced | hcurrent | hfailed
      · exact .inl hfenced
      · exact absurd (hnone.symm.trans hcurrent) (by simp)
      · exact absurd hfailed hsound
  current g' hg := by
    obtain rfl : g = g' := Option.some.inj hg
    exact hp.2.2.2.1
  fresh := h.fresh
  ready hr := absurd (hr.symm.trans hp.1) (by simp)
  orphan htidy := h.orphan fun hbad => htidy (List.mem_cons_of_mem _ hbad)

theorem GuardInv.publish (h : GuardInv cfg w) {phase : HealthPhase} {ready : Bool}
    (hp : ready = true → Ready cfg w) :
    GuardInv cfg { w with health := { w.health with phase := phase, ready := ready } } where
  procs := h.procs
  helpers := h.helpers
  generations := h.generations
  current := h.current
  fresh := h.fresh
  ready hr := (hp hr).same rfl rfl rfl
  orphan := h.orphan

theorem GuardInv.publishHistory (h : GuardInv cfg w) :
    GuardInv cfg { w with
      health := { w.health with indexesCertified := w.history.indexesCertified } } where
  procs := h.procs
  helpers := h.helpers
  generations := h.generations
  current := h.current
  fresh := h.fresh
  ready hr := (h.ready hr).same rfl rfl rfl
  orphan htidy hsafe := ⟨(h.orphan htidy hsafe).2, (h.orphan htidy hsafe).2⟩

/-- An accepted status replaces the one that readiness rested on. -/
theorem GuardInv.accept (h : GuardInv cfg w) {status : VolumeStatus} {safe : Bool}
    (hp : AcceptOk status safe w) :
    GuardInv cfg { w with
      health := { w.health with orphanDeletionSafe := safe }, log := .accepted status :: w.log } where
  procs := h.procs
  helpers := h.helpers
  generations g hg := by
    have hg : .created g ∈ w.log := by simpa using hg
    rcases h.generations g hg with hfenced | hcurrent | ⟨g', hfailed⟩
    · exact .inl hfenced
    · exact .inr (.inl hcurrent)
    · exact .inr (.inr ⟨g', List.mem_cons_of_mem _ hfailed⟩)
  current := h.current
  fresh := h.fresh
  ready hr := by
    obtain ⟨g, es, hsince, hevidence, -⟩ := h.ready hr
    obtain ⟨hclean, g', es', hsince'⟩ := hp.ready hr
    obtain ⟨rfl, rfl⟩ := hsince.unique hsince'
    refine ⟨g', _, hsince.extend rfl rfl rfl rfl, hevidence.extend rfl, fun _ => ?_⟩
    exact ⟨es', status, [], by simp [acceptance], hclean, by simp⟩
  orphan _ hsafe := hp.certified hsafe

theorem GuardInv.start (h : GuardInv cfg w) {p : Proc} (hp : Startable p w) :
    GuardInv cfg { w with running := p :: w.running, log := .started p :: w.log } := by
  refine h.lists rfl rfl (Nat.le_refl _) rfl rfl (.inr ⟨.started p, rfl, rfl⟩) ?_ h.helpers
  intro q hq
  rcases List.mem_cons.1 hq with rfl | hq
  · exact .inl hp.own
  · exact h.procs q hq

theorem GuardInv.helperEnd (h : GuardInv cfg w) {op : HelperOp} {target : Option Target} {full : Bool}
    (hp : op = .unmount → Down w) (answer : HelperAnswer) :
    GuardInv cfg (w.helperEnd op target full answer) := by
  have hcore : SameCore w { w with log := .helper op target full :: w.log } :=
    .of_eq rfl id rfl rfl rfl rfl rfl (Nat.le_refl _) rfl
  cases answer with
  | ok =>
      by_cases hop : op = .unmount
      · exact h.down hcore (hp hop) rfl fun g => by simp
      · refine h.event ?_ hcore rfl
        cases op <;> first | rfl | exact absurd rfl hop
  | timeout =>
      refine h.lists rfl rfl (Nat.le_succ _) rfl rfl (.inl rfl) h.procs ?_
      intro x hx
      rcases List.mem_cons.1 hx with rfl | hx
      · exact List.mem_append_right _ List.mem_cons_self
      · exact List.mem_append_left _ (h.helpers x hx)
  | _ => exact h

theorem GuardInv.markFenced {g : Nat} (h : GuardInv cfg w) (hp : Permit cfg (.markFenced g) w) :
    GuardInv cfg { w with fenced := g :: w.fenced, log := .fenced g :: w.log } where
  procs := h.procs
  helpers := h.helpers
  generations g' hg := by
    have hg : .created g' ∈ w.log := by simpa using hg
    rcases h.generations g' hg with hfenced | hcurrent | ⟨g'', hfailed⟩
    · exact .inl (List.mem_cons_of_mem _ hfenced)
    · exact .inr (.inl hcurrent)
    · exact .inr (.inr ⟨g'', List.mem_cons_of_mem _ hfailed⟩)
  current := h.current
  fresh g' hg := by
    rcases List.mem_cons.1 hg with rfl | hg
    · exact hp.2
    · exact h.fresh g' hg
  ready hr := absurd (hr.symm.trans hp.1) (by simp)
  orphan htidy := h.orphan fun hbad => htidy (List.mem_cons_of_mem _ hbad)

/-- The end of a generation leaves its trace in the log, with the published flag. -/
theorem GuardInv.finishActive (h : GuardInv cfg w) (cleanShutdown : Bool) :
    GuardInv cfg (w.finishActive cleanShutdown) := by
  unfold World.finishActive
  split
  · constructor
    · exact h.procs
    · exact h.helpers
    · intro g hg
      have hg : .created g ∈ w.log := by simpa using hg
      rcases h.generations g hg with hfenced | hcurrent | ⟨g', hfailed⟩
      · exact .inl hfenced
      · exact .inr (.inl hcurrent)
      · exact .inr (.inr ⟨g', List.mem_cons_of_mem _ hfailed⟩)
    · exact h.current
    · exact h.fresh
    · intro hr
      exact (h.ready hr).extend rfl rfl rfl rfl
    · intro htidy hsafe
      have hsafe' : w.health.orphanDeletionSafe = true := hsafe
      have hold := h.orphan (fun hbad => htidy (List.mem_cons_of_mem _ hbad)) hsafe
      cases cleanShutdown with
      | true => exact hold
      | false => exact absurd (by rw [hsafe']; exact List.mem_cons_self) htidy
  · exact h

theorem GuardInv.openActive (h : GuardInv cfg w) :
    GuardInv cfg { w with history := { w.history with active := true } } :=
  h.quiet ⟨rfl, rfl, rfl, rfl, id, fun _ h => h, fun _ h => h, rfl, Nat.le_refl _, rfl, id, rfl, id, rfl⟩ rfl

theorem GuardInv.certify (h : GuardInv cfg w) :
    GuardInv cfg { w with history := { w.history with indexesCertified := true } } where
  procs := h.procs
  helpers := h.helpers
  generations := h.generations
  current := h.current
  fresh := h.fresh
  ready hr := (h.ready hr).same rfl rfl rfl
  orphan htidy hsafe := ⟨(h.orphan htidy hsafe).1, rfl⟩

/-- Permitted requests keep the invariant. -/
theorem guardExec_keeps (r : GuardReq) (c : GuardChoice) (w : World) (h : GuardInv cfg w)
    (hp : Permit cfg r w) : GuardInv cfg (guardExec r c w).2 := by
  cases r with
  -- assignments that move a process or a helper from one list to another come with a permit
  | assign a =>
      cases a with
      | processes ps => exact h.lists rfl rfl (Nat.le_refl _) rfl rfl (.inl rfl) hp h.helpers
      | lingeringProcesses ps => exact h.lists rfl rfl (Nat.le_refl _) rfl rfl (.inl rfl) hp h.helpers
      | helperChildren hs => exact h.lists rfl rfl (Nat.le_refl _) rfl rfl (.inl rfl) h.procs hp
      | generation g =>
          cases g with
          | none => exact (h.detach hp).routed _
          | some g => exact (h.create hp).routed _
      | _ => exact h.of_quiet rfl c
  | setHealth phase ready => exact (h.publish fun hr => (hp hr).1).routed _
  | publishHistory => exact h.publishHistory
  | publishVolumes status safe => exact h.accept hp
  | clock => exact h.of_reports rfl c
  | inspect => exact h.of_reports rfl c
  | canary => exact h.of_reports rfl c
  | hasAwaiting => exact h.of_reports rfl c
  | start p =>
      simp only [guardExec]
      split
      · exact h.start hp
      · exact h
  | stopUntil p =>
      simp only [guardExec]
      split
      · exact h
      · exact h.quiet ⟨rfl, rfl, rfl, rfl, id, fun q hq => List.mem_of_mem_filter hq, fun _ h => h, rfl,
          Nat.le_refl _, rfl, id, rfl, id, rfl⟩ rfl
  -- a helper runs in a generation only, and may be left running
  | helper op target full =>
      simp only [guardExec]
      split
      · exact h
      · exact (h.routed (c.routeEvents _ op target w.self.transport.environ ++ w.routes)).helperEnd hp _
  | nextGeneration =>
      simp only [guardExec]
      split
      · exact h.quiet (.of_eq rfl id rfl rfl rfl rfl rfl (Nat.le_succ _) rfl) rfl
      · exact h
  | stopRequested => exact h.heed w.self.stopping
  | deleteLink g setup =>
      simp only [guardExec, World.record]
      split
      · exact h.down (.of_eq rfl id rfl rfl rfl rfl rfl (Nat.le_refl _) rfl) hp rfl fun g => by simp
      · exact h
  | markFenced g => exact h.markFenced hp
  | historyRecover => exact h.finishActive false
  | historyStart => exact (h.finishActive false).openActive
  | historyFinish cleanShutdown => exact h.finishActive cleanShutdown
  | historyCertify => exact h.certify
  | prepareOffline => exact h.quiet (.of_eq rfl id rfl rfl rfl rfl rfl (Nat.le_refl _) rfl) rfl
  | repairDetected status => exact h.quiet (.of_eq rfl id rfl rfl rfl rfl rfl (Nat.le_refl _) rfl) rfl
  | rollbackRejected ids => exact h.quiet (.of_eq rfl id rfl rfl rfl rfl rfl (Nat.le_refl _) rfl) rfl
  | _ => exact h.of_quiet rfl c

theorem GuardInv.moved {w' : World} (h : GuardInv cfg w) (hm : Moved w w') : GuardInv cfg w' :=
  h.quiet hm.sameCore hm.log

/-- The discipline of the guardian. -/
def guardDiscipline (cfg : Config) : Discipline guardExec where
  inv := GuardInv cfg
  disturb := Moved
  allow := Permit cfg
  refl := Moved.refl
  trans := Moved.trans
  keeps := guardExec_keeps

end

end StorageNode.Guardian
