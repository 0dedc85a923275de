import StorageNode.Generation.Contracts

/-!
# The life of a generation

The contracts of `start`, `fence`, `retire` and `create`. A generation that has been created is the only
one whose namespace can be connected, and the record names it (`create_triple`). A generation that has
been fenced or retired is cut off, and the record says so (`fence_triple`, `retire_triple`).
-/

set_option autoImplicit false

namespace StorageNode.Generation

open StorageNode.Files StorageNode.Program StorageNode.Text

variable {ι : Type} [DecidableEq ι] {i : ι} {g : WorkerGeneration} {φ : World ι → Prop}

/-! ## Processes -/

theorem terminate_quiet (pid : Nat) : (terminate pid).Issues fun r => r.quiet = true := by
  have hcatch : ∀ {α : Type} (caught : List Error) (p q : Prog α), (p.Issues fun r => r.quiet = true) →
      (q.Issues fun r => r.quiet = true) → (catchOnly caught p q).Issues fun r => r.quiet = true := by
    intro α caught p q hp hq
    refine hp.catchWith fun e => ?_
    split
    · exact hq
    · trivial
  refine hcatch _ _ _ ((quiet_perform rfl).bind fun _ => quiet_perform rfl) ?_
  refine (hcatch _ _ _ (quiet_perform rfl) (Prog.issues_ret _)).bind fun _ => ?_
  exact hcatch _ _ _ (quiet_perform rfl) (Prog.issues_ret _)

theorem stopProcess_quiet (process : Option Nat) : (stopProcess process).Issues fun r => r.quiet = true := by
  cases process with
  | none => trivial
  | some pid => exact (quiet_perform rfl).bind fun exited => .when (terminate_quiet pid)

theorem stopDnsProxy_triple (hφ : Modest φ) :
    (guardianDiscipline i).Triple (fun w => Mine i g w ∧ φ w) stopDnsProxy
      (fun _ w => Mine i { g with dnsProxy := none } w ∧ φ w)
      fun _ w => Mine i { g with dnsProxy := none } w ∧ φ w := by
  refine this_triple hφ ?_
  refine .bind (assign_triple hφ fun w hw hg _ => ?_) fun _ => quiet_triple hφ (stopProcess_quiet _)
  exact revises_of_inv hw hg rfl rfl rfl fun pid hpid => hw.keeper i g pid hg.2 hpid

theorem stopKeeper_triple (hφ : Modest φ) :
    (guardianDiscipline i).Triple (fun w => Mine i g w ∧ φ w) stopKeeper
      (fun _ w => Mine i { g with keeper := none } w ∧ φ w)
      fun _ w => Mine i { g with keeper := none } w ∧ φ w := by
  refine this_triple hφ ?_
  refine .bind (assign_triple hφ fun w hw hg _ => ?_) fun _ => quiet_triple hφ (stopProcess_quiet _)
  exact revises_of_inv hw hg rfl rfl rfl fun pid hpid => absurd hpid (by simp)

/-! ## Fencing -/

/-- A later state of the same object. -/
structure Ages (g g' : WorkerGeneration) : Prop where
  token : g'.token = g.token
  settings : g'.settings = g.settings
  fenced : g.fenced = true → g'.fenced = true

theorem Ages.refl (g : WorkerGeneration) : Ages g g := ⟨rfl, rfl, id⟩

theorem Ages.trans {g g' g'' : WorkerGeneration} (h : Ages g g') (h' : Ages g' g'') : Ages g g'' :=
  ⟨h'.token.trans h.token, h'.settings.trans h.settings, fun hf => h'.fenced (h.fenced hf)⟩

/-- The object is some later state of what it was, and satisfies a condition. -/
def Aged (i : ι) (g : WorkerGeneration) (φ : WorkerGeneration → World ι → Prop) (w : World ι) : Prop :=
  ∃ g', Ages g g' ∧ Mine i g' w ∧ φ g' w

omit [DecidableEq ι] in
theorem Aged.of_ages {g g' : WorkerGeneration} {φ : WorkerGeneration → World ι → Prop} {w : World ι}
    (h : Aged i g' φ w) (hages : Ages g g') : Aged i g φ w := by
  obtain ⟨g'', hages', hw⟩ := h
  exact ⟨g'', hages.trans hages', hw⟩

omit [DecidableEq ι] in
theorem Aged.mono {g : WorkerGeneration} {φ ψ : WorkerGeneration → World ι → Prop} {w : World ι}
    (h : Aged i g φ w) (hψ : ∀ g', φ g' w → ψ g' w) : Aged i g ψ w := by
  obtain ⟨g', hages, hmine, hw⟩ := h
  exact ⟨g', hages, hmine, hψ g' hw⟩

/-- The verified deletion leaves no link. -/
theorem deleteLink_triple (hφ : Modest φ) :
    (guardianDiscipline i).Triple (fun w => Mine i g w ∧ φ w) deleteLink
      (fun _ w => Mine i g w ∧ φ w ∧ ∀ peer, w.link = some peer → False) fun _ w => Mine i g w ∧ φ w := by
  refine .bind (quiet_triple hφ (quiet_perform rfl)) fun _ => ?_
  refine .bind (M := fun (remains : Bool) w => Mine i g w ∧ φ w ∧
      (remains = false → ∀ peer, w.link = some peer → False)) ?_ fun remains => ?_
  · refine query_triple hφ rfl fun c w a _ ha hremains peer hpeer => ?_
    -- the answer is about the state in which the request was served
    have hstate : (exec i .showLink c w).2 = w.suffer c.happenings := by
      simp [exec, effect]
    rw [hstate] at hpeer
    cases hraises : c.raises with
    | true => simp [exec, answer, Request.internal, hraises] at ha
    | false =>
      have hanswer : (w.suffer c.happenings).link.isSome = a := by
        simpa [exec, answer, Request.internal, hraises, refusal, result] using ha
      rw [hpeer, hremains] at hanswer
      cases hanswer
  · exact .raiseIf (fun _ _ _ h => ⟨h.1, h.2.1⟩) fun hremains _ _ h =>
      ⟨h.1, h.2.1, h.2.2 (by simpa using hremains)⟩

/-- `fence`. A generation whose fence returns is fenced, and nothing is connected to it. -/
theorem fence_triple (hφ : Modest φ) (reason : String) :
    (guardianDiscipline i).Triple (fun w => Mine i g w ∧ φ w) (fence reason)
      (fun _ => Aged i g fun g' w => g'.fenced = true ∧ φ w)
      fun _ => Aged i g fun _ w => φ w := by
  refine this_triple hφ (.when (fun hunfenced => ?_) fun hfenced w hw h =>
    ⟨g, .refl g, h.1, by simpa using hfenced, h.2⟩)
  have hcut : Modest fun w : World ι => φ w ∧ ∀ peer, w.link = some peer → ¬ g.isolated :=
    hφ.and (modest_link fun _ => ¬ g.isolated)
  refine .bind (M := fun _ => Aged i g fun g' w => φ w ∧ ∀ peer, w.link = some peer → ¬ g.isolated)
    (.when (fun hisolated => ?_) fun hplain w hw h => ⟨g, .refl g, h.1, h.2, fun _ _ => hplain⟩)
    fun _ => .exists_pre fun g₁ => .assume fun hages => ?_
  · refine .bind (M := fun _ w => Mine i g w ∧ φ w ∧ ∀ peer, w.link = some peer → ¬ g.isolated)
      ((deleteLink_triple hφ).mono (fun _ _ h => h) (fun _ _ _ h => ⟨h.1, h.2.1, fun peer hpeer => (h.2.2 peer hpeer).elim⟩)
      fun _ _ _ h => ⟨g, .refl g, h.1, h.2⟩) fun _ => ?_
    exact (stopDnsProxy_triple hcut).mono (fun _ _ h => h)
      (fun _ _ _ h => ⟨{ g with dnsProxy := none }, ⟨rfl, rfl, id⟩, h.1, h.2⟩)
      fun _ _ _ h => ⟨{ g with dnsProxy := none }, ⟨rfl, rfl, id⟩, h.1, h.2.1⟩
  · have hsettled : Ages g { g₁ with fenced := true, fenceReason := reason } :=
      hages.trans ⟨rfl, rfl, fun _ => rfl⟩
    refine .bind (update_triple hcut fun w hw hg h => ?_) fun _ => ?_
    · -- with a namespace there is no link; without one no keeper was ever started
      refine ⟨rfl, rfl, fun pid hpid => hw.keeper i g₁ pid hg.2 hpid, fun _ pid hpid hlink => ?_, fun _ => rfl⟩
      have hplain : ¬ g₁.isolated := by
        rw [WorkerGeneration.isolated, hages.settings]
        exact h.2 _ hlink
      exact hw.plain i g₁ hg.2 hplain pid hpid
    · exact (persist_triple hcut "fenced").mono (fun _ _ h => h)
        (fun _ _ _ h => ⟨_, hsettled, h.1, rfl, h.2.1.1⟩) fun _ _ _ h => ⟨_, hsettled, h.1, h.2.1⟩

/-- The end of `retire`, whichever way `fence` ended. -/
theorem stopBoth_triple (hφ : Modest φ) :
    (guardianDiscipline i).Triple (fun w => Mine i g w ∧ φ w) (stopDnsProxy.bind fun _ => stopKeeper)
      (fun _ w => Mine i { g with dnsProxy := none, keeper := none } w ∧ φ w)
      fun _ => Aged i g fun _ w => φ w := by
  refine .bind ((stopDnsProxy_triple hφ).mono (fun _ _ h => h) (fun _ _ _ h => h)
    fun _ _ _ h => ⟨{ g with dnsProxy := none }, ⟨rfl, rfl, id⟩, h.1, h.2⟩) fun _ => ?_
  exact (stopKeeper_triple hφ).mono (fun _ _ h => h) (fun _ _ _ h => h)
    fun _ _ _ h => ⟨{ g with dnsProxy := none, keeper := none }, ⟨rfl, rfl, id⟩, h.1, h.2⟩

/-- What a retired generation is. -/
def Retired (g : WorkerGeneration) (w : World ι) : Prop :=
  g.fenced = true ∧ g.keeper = none ∧ g.dnsProxy = none ∧
    ∃ workerIp now, Stored (g.record "retired" workerIp now) w

/-- `retire`. -/
theorem retire_triple (hφ : Modest φ) :
    (guardianDiscipline i).Triple (fun w => Mine i g w ∧ φ w) retire
      (fun _ => Aged i g fun g' w => Retired g' w ∧ φ w) fun _ => Aged i g fun _ w => φ w := by
  refine this_triple hφ ?_
  refine .bind (M := fun _ => Aged i g fun g' w => (g'.fenced = true ∧ g'.keeper = none ∧
    g'.dnsProxy = none) ∧ φ w) (.andFinally (fence_triple hφ _) (fun _ => ?_) fun _ => ?_)
    fun _ => .exists_pre fun g₁ => .assume fun hages => ?_
  · refine .exists_pre fun g₁ => .assume fun hages => ?_
    refine Discipline.Triple.mono (P := fun w => g₁.fenced = true ∧ Mine i g₁ w ∧ φ w)
      (.assume fun hfenced => (stopBoth_triple hφ).mono (fun _ _ h => h) (fun _ _ _ h =>
        ⟨{ g₁ with dnsProxy := none, keeper := none }, hages.trans ⟨rfl, rfl, id⟩, h.1, ⟨hfenced, rfl, rfl⟩,
          h.2⟩)
        fun _ _ _ h => h.of_ages hages)
      (fun _ _ h => ⟨h.2.1, h.1, h.2.2⟩) (fun _ _ _ h => h) fun _ _ _ h => h
  · refine .exists_pre fun g₁ => .assume fun hages => (stopBoth_triple hφ).mono (fun _ _ h => h)
      (fun _ _ _ h => ⟨{ g₁ with dnsProxy := none, keeper := none }, hages.trans ⟨rfl, rfl, id⟩, h.1, h.2⟩)
      fun _ _ _ h => h.of_ages hages
  · refine Discipline.Triple.mono (P := fun w => (g₁.fenced = true ∧ g₁.keeper = none ∧
      g₁.dnsProxy = none) ∧ Mine i g₁ w ∧ φ w) (.assume fun hended => ?_) (fun _ _ h => ⟨h.2.1, h.1, h.2.2⟩)
      (fun _ _ _ h => h) fun _ _ _ h => h
    exact (persist_triple hφ "retired").mono (fun _ _ h => h)
      (fun _ _ _ h => ⟨g₁, hages, h.1, ⟨hended.1, hended.2.1, hended.2.2, h.2.2⟩, h.2.1⟩)
      fun _ _ _ h => ⟨g₁, hages, h.1, h.2⟩

/-! ## The network -/

/-- A link leads to the namespace of this generation, if to any. -/
def Led (g : WorkerGeneration) (w : World ι) : Prop :=
  ∀ peer, w.link = some peer → peer = .host ∨ ∃ pid, g.keeper = some pid ∧ peer = .worker pid

omit [DecidableEq ι] in
theorem modest_led : Modest (Led (ι := ι) g) :=
  modest_link _

/-- A command that changes the link, or adds a rule. -/
theorem command_triple (command : Command) {P Q : World ι → Prop}
    (hP : ∀ w w', Loses w w' → P w → P w')
    (hproper : ∀ w, Inv w → Mine i g w → P w → Proper i w (.command command))
    (hkeeps : ∀ (c : Choice) w, (exec i (.command command) c w).2.lease = w.lease ∧
      (exec i (.command command) c w).2.object = w.object)
    (hok : ∀ c w, P w → (exec i (.command command) c w).1 = .ok () → Q (exec i (.command command) c w).2) :
    (guardianDiscipline i).Triple (fun w => Mine i g w ∧ P w) (runCommand command)
      (fun _ w => Mine i g w ∧ Q w) fun _ w => Mine i g w := by
  have hmine : ∀ c w, Mine i g w → Mine i g (exec i (.command command) c w).2 :=
    fun c w h => ⟨(hkeeps c w).1.trans h.1, by rw [(hkeeps c w).2]; exact h.2⟩
  refine perform_triple (stable_lossy hP) (fun w hw h => .inr ⟨h.1.1, hproper w hw h.1 h.2⟩)
    (fun c w a _ h ha => ⟨hmine c w h.1, hok c w h.2 ha⟩) fun c w _ _ h _ => hmine c w h.1

theorem exec_command (i : ι) (command : Command) (c : Choice) (w : World ι) :
    (exec i (.command command) c w).2 = w.suffer c.happenings ∨
      (command.possible (w.suffer c.happenings) = true ∧
        (exec i (.command command) c w).2 = command.apply (w.suffer c.happenings)) := by
  simp only [exec, effect]
  split
  · split
    · exact .inr ⟨‹_›, rfl⟩
    · exact .inl rfl
  · exact .inl rfl

omit [DecidableEq ι] in
theorem Command.apply_keeps (command : Command) (w : World ι) :
    (command.apply w).lease = w.lease ∧ (command.apply w).object = w.object := by
  cases command with
  | _ => exact ⟨rfl, rfl⟩

theorem command_keeps (command : Command) (c : Choice) (w : World ι) :
    (exec i (.command command) c w).2.lease = w.lease ∧
      (exec i (.command command) c w).2.object = w.object := by
  obtain ⟨hloses, hobject⟩ := suffer_loses w c.happenings
  rcases exec_command i command c w with heq | ⟨-, heq⟩
  · rw [heq]
    exact ⟨hloses.lease, hobject⟩
  · rw [heq, (command.apply_keeps _).1, (command.apply_keeps _).2]
    exact ⟨hloses.lease, hobject⟩

/-- A command that returns has worked. -/
theorem exec_command_ok {command : Command} {c : Choice} {w : World ι}
    (h : (exec i (.command command) c w).1 = .ok ()) :
    command.possible (w.suffer c.happenings) = true ∧
      (exec i (.command command) c w).2 = command.apply (w.suffer c.happenings) := by
  cases hraises : c.raises with
  | true => simp [exec, answer, Request.internal, hraises] at h
  | false =>
    cases hpossible : command.possible (w.suffer c.happenings) with
    | false => simp [exec, answer, Request.internal, hraises, refusal, hpossible] at h
    | true =>
      cases hrefuses : c.refuses with
      | true => simp [exec, answer, Request.internal, hraises, refusal, hrefuses] at h
      | false =>
        exact ⟨rfl, by simp [exec, takesEffect, effect, hraises, refusal, hpossible, hrefuses]⟩

/-- `ip link add`, which works only where there is no link. -/
theorem addLink_triple :
    (guardianDiscipline i).Triple (Mine i g) (runCommand .addLink)
      (fun _ w => Mine i g w ∧ Led g w) fun _ w => Mine i g w := by
  refine (command_triple .addLink (P := fun _ => True) (fun _ _ _ h => h) (fun _ _ _ _ => trivial)
    (command_keeps _) fun c w _ ha peer hpeer => .inl ?_).pre fun _ _ h => ⟨h, trivial⟩
  rw [(exec_command_ok ha).2] at hpeer
  exact (Option.some.inj hpeer).symm

/-- `ip link set ... netns`. -/
theorem movePeer_triple {pid : Nat} (hfenced : g.fenced = false) (hkeeper : g.keeper = some pid) :
    (guardianDiscipline i).Triple (fun w => Mine i g w ∧ Led g w) (runCommand (.movePeer pid))
      (fun _ w => Mine i g w ∧ Led g w) fun _ w => Mine i g w := by
  refine command_triple (.movePeer pid) (fun w w' h => modest_led w w' h.declines)
    (fun w _ hg _ => ⟨g, hg.2, hfenced, hkeeper⟩) (command_keeps _) fun c w _ ha peer hpeer => ?_
  obtain ⟨hpossible, heq⟩ := exec_command_ok ha
  rw [heq] at hpeer
  cases hlink : (w.suffer c.happenings).link with
  | none => simp [Command.possible, hlink] at hpossible
  | some other =>
    simp only [Command.apply, hlink, Option.map_some] at hpeer
    obtain rfl := Option.some.inj hpeer
    split
    · exact .inr ⟨pid, hkeeper, rfl⟩
    · exact .inl rfl

/-- `_ensure_iptables`. The rule is added only where it is missing. -/
theorem ensureIptables_triple (rule : Rule) :
    (guardianDiscipline i).Triple (fun w => Mine i g w ∧ Led g w) (ensureIptables rule)
      (fun _ w => Mine i g w ∧ Led g w) fun _ w => Mine i g w := by
  refine .bind (M := fun (found : Bool) w => Mine i g w ∧ Led g w ∧ (found = false → rule ∉ w.rules))
    ((query_triple modest_led rfl fun c w a _ ha hfound => ?_).mono (fun _ _ h => h) (fun _ _ _ h => h)
      fun _ _ _ h => h.1) fun found => .when (fun hfound => ?_) fun _ _ _ h => ⟨h.1, h.2.1⟩
  · have hstate : (exec i (.checkRule rule) c w).2 = w.suffer c.happenings := by
      simp [exec, effect]
    rw [hstate]
    cases hraises : c.raises with
    | true => simp [exec, answer, Request.internal, hraises] at ha
    | false =>
      have hanswer : (w.suffer c.happenings).rules.contains rule = a := by
        simpa [exec, answer, Request.internal, hraises, refusal, result] using ha
      rw [hfound] at hanswer
      exact fun hrule => by simp [hrule] at hanswer
  · refine (command_triple (.addRule rule) (P := fun w => Led g w ∧ rule ∉ w.rules)
      (fun w w' h hw => ⟨modest_led w w' h.declines hw.1, modest_rule rule w w' h.declines hw.2⟩)
      (fun _ _ _ h => h.2) (command_keeps _) fun c w h ha => ?_).pre fun _ _ h => ⟨h.1, h.2.1, h.2.2 hfound⟩
    rw [(exec_command_ok ha).2]
    exact fun peer hpeer => modest_led w _ (suffer_loses w c.happenings).1.declines h.1 peer hpeer

theorem ensureIpForwarding_quiet : ensureIpForwarding.Issues fun r => r.quiet = true := by
  refine (quiet_perform rfl).bind fun current => .when ?_
  exact (quiet_perform rfl).bind fun _ => (quiet_perform rfl).bind fun enabled => Prog.issues_raiseIf _ _

/-- `_configure_network`. The link was added where there was none, so it leads nowhere else. -/
theorem configureNetwork_triple (hfenced : g.fenced = false) :
    (guardianDiscipline i).Triple (Mine i g) configureNetwork (fun _ w => Mine i g w ∧ Led g w)
      fun _ w => Mine i g w := by
  have hquiet : ∀ {α : Type} {p : Prog α}, (p.Issues fun r => r.quiet = true) →
      (guardianDiscipline i).Triple (Mine i g) p (fun _ w => Mine i g w) fun _ w => Mine i g w :=
    fun hp => (quiet_triple modest_true hp).mono (fun _ _ h => ⟨h, trivial⟩) (fun _ _ _ h => h.1)
      fun _ _ _ h => h.1
  have hled : ∀ {α : Type} {p : Prog α}, (p.Issues fun r => r.quiet = true) →
      (guardianDiscipline i).Triple (fun w => Mine i g w ∧ Led g w) p (fun _ w => Mine i g w ∧ Led g w)
        fun _ w => Mine i g w :=
    fun hp => (quiet_triple modest_led hp).mono (fun _ _ h => h) (fun _ _ _ h => h) fun _ _ _ h => h.1
  refine (this_triple modest_true ?_).pre fun _ _ h => ⟨h, trivial⟩
  refine Discipline.Triple.pre (P := Mine i g) ?_ fun _ _ h => h.1
  cases hkeeper : g.keeper with
  | none => exact .raise fun _ _ h => h
  | some pid =>
    rw [Prog.orRaise, Prog.ret_bind]
    refine .bind (hquiet (Prog.issues_orRaise _ _)) fun host => ?_
    refine .bind (hquiet (Prog.issues_orRaise _ _)) fun worker => ?_
    refine .bind (hquiet (Prog.issues_raiseIf _ _)) fun _ => ?_
    refine .bind (hquiet (quiet_perform rfl)) fun _ => ?_
    refine .bind (M := fun _ w => Mine i g w ∧ Led g w) ?_ fun _ => ?_
    · refine .bind addLink_triple fun _ => ?_
      refine .bind (hled (quiet_perform rfl)) fun _ => .bind (hled (quiet_perform rfl)) fun _ => ?_
      refine .bind (movePeer_triple hfenced hkeeper) fun _ => ?_
      refine .bind (hled (quiet_perform rfl)) fun _ => .bind (hled (quiet_perform rfl)) fun _ => ?_
      refine .bind (hled (quiet_perform rfl)) fun _ => .bind (hled (quiet_perform rfl)) fun _ => ?_
      exact .ret fun _ _ h => h
    · refine .bind (hled ensureIpForwarding_quiet) fun _ => ?_
      exact .forEach (I := fun _ w => Mine i g w ∧ Led g w) (fun rule _ => ensureIptables_triple rule) _

end StorageNode.Generation
