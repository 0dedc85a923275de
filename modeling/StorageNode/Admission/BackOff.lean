import StorageNode.Admission.Controller

/-!
# When the controller backs off

`BacksOff` is what a tick owes: it returns; unless the statistics were parsed and the new limit
confirmed, it leaves the limit at one, tries to bring HAProxy to one as well, and publishes that
nothing was applied; and a limit published as applied is the one HAProxy has.

A tick owes this exactly for the exchanges in `Survivable`. The handler of the tick misses the
`TypeError` of a short row and every `csv.Error`, and its inner handler misses the
`UnicodeDecodeError` of the reply to the reduction.
-/

set_option autoImplicit false

namespace StorageNode.Admission

open StorageNode.FloatingPoint

/-- The statistics were parsed and an empty reply confirmed the new limit. -/
def Confirmed (lib : Library) (x : Exchanges) : Prop :=
  (∃ stats, (runtimeCommand lib x.stats).bind (writeStats lib) = .ok stats) ∧
    ∃ reply, runtimeCommand lib x.limit = .ok reply ∧ reply.strip = []

/-- The limit that a command set without an error. -/
def limitSent : Command × Except Exn Text → Option Int
  | (.setMaxconn limit, .ok _) => some limit
  | _ => none

/-- The limit last sent without an error. -/
def lastLimit (sent : List (Command × Except Exn Text)) : Option Int :=
  (sent.filterMap limitSent).getLast?

/-- What a tick owes. -/
def BacksOff (lib : Library) (x : Exchanges) (outcome : Outcome) : Prop :=
  ∃ published, outcome.result = .ok published ∧
    (¬ Confirmed lib x → outcome.controller.budget.limit = 1 ∧
      (∃ reply, (Command.setMaxconn 1, reply) ∈ outcome.sent) ∧ published.applied = false) ∧
    (published.applied = true → lastLimit outcome.sent = some published.writeLimit)

/-- The first problem with the statistics, if they arrive, is one that the handler names; and after an
error the reply to the reduction is text. -/
def Survivable (lib : Library) (x : Exchanges) : Prop :=
  (∀ response, runtimeCommand lib x.stats = .ok response →
    ∀ e, (problems lib response).head? = some e → e.caught = true) ∧
  (¬ Confirmed lib x → ∀ message, runtimeCommand lib x.reset ≠ .error (.value message))

/-- `receive` raises errors of the operating system only. -/
theorem receive_error {chunks : List (List UInt8)} {received : List UInt8} {e : Exn}
    (h : receive chunks received = .error e) : ∃ message, e = .os message := by
  induction chunks generalizing received with
  | nil => cases h
  | cons chunk rest ih =>
    cases chunk with
    | nil => cases h
    | cons byte bytes =>
      rw [receive] at h
      · split at h
        · obtain rfl := Except.error.inj h
          exact ⟨_, rfl⟩
        · exact ih h
      · exact List.cons_ne_nil byte bytes

/-- `runtime_command` raises errors of the operating system and decoding errors only. -/
theorem runtimeCommand_error {lib : Library} {exchange : Exchange} {e : Exn}
    (h : runtimeCommand lib exchange = .error e) :
    (∃ message, e = .os message) ∨ ∃ message, e = .value message := by
  cases exchange with
  | failed message => exact .inl ⟨message, (Except.error.inj h).symm⟩
  | answered chunks =>
    cases hreceive : receive chunks [] with
    | error e' =>
      obtain rfl : e' = e := by simpa [runtimeCommand, hreceive, Bind.bind, Except.bind] using h
      exact .inl (receive_error hreceive)
    | ok received =>
      simp only [runtimeCommand, hreceive, Bind.bind, Except.bind] at h
      cases hdecode : lib.decode received with
      | ok text => rw [hdecode] at h; cases h
      | error message =>
        rw [hdecode] at h
        exact .inr ⟨message, (Except.error.inj h).symm⟩

theorem caught_of_runtimeCommand {lib : Library} {exchange : Exchange} {e : Exn}
    (h : runtimeCommand lib exchange = .error e) : e.caught = true := by
  obtain ⟨message, rfl⟩ | ⟨message, rfl⟩ := runtimeCommand_error h <;> rfl

/-- The text of an exception that the handler names is not empty. -/
theorem Exn.text_ne_nil {e : Exn} (h : e.caught = true) : e.text ≠ [] := by
  cases e with
  | os message => exact message.2
  | value message => exact message.2
  | key name => exact List.cons_ne_nil _ _
  | type => cases h
  | csv error => cases h

theorem replyError_eq_none {reply : Except Exn Text} :
    replyError reply = none ↔ ∃ text, reply = .ok text ∧ text.strip = [] := by
  cases reply with
  | error e =>
    constructor
    · intro h
      cases h
    · rintro ⟨text, h, -⟩
      cases h
  | ok text =>
    by_cases hstrip : text.strip = []
    · rw [replyError, if_pos hstrip]
      exact ⟨fun _ => ⟨text, rfl, hstrip⟩, fun _ => rfl⟩
    · rw [replyError, if_neg hstrip]
      constructor
      · intro h
        cases h
      · rintro ⟨text', h, hstrip'⟩
        obtain rfl := Except.ok.inj h
        exact absurd hstrip' hstrip

section Tick

variable {lib : Library} {x : Exchanges}

/-- The `try` block ends without an error exactly when the limit is confirmed. It has then sent the
limit that the budget holds. -/
theorem attempt_confirmed (budget : WriteBudget) (now : Float64) (healthy : Bool)
    (h : Confirmed lib x) :
    (attempt lib budget now healthy x).error = none ∧
      lastLimit (attempt lib budget now healthy x).sent =
        some (attempt lib budget now healthy x).budget.limit := by
  obtain ⟨⟨⟨queue, active⟩, hstats⟩, reply, hreply, hstrip⟩ := h
  unfold attempt
  simp only [hstats, hreply]
  refine ⟨replyError_eq_none.mpr ⟨reply, rfl, hstrip⟩, ?_⟩
  cases hstat : runtimeCommand lib x.stats <;> rfl

theorem attempt_not_confirmed (budget : WriteBudget) (now : Float64) (healthy : Bool)
    (h : ¬ Confirmed lib x) : ∃ e, (attempt lib budget now healthy x).error = some e := by
  rw [← Option.ne_none_iff_exists']
  intro hnone
  apply h
  unfold attempt at hnone
  cases hstats : (runtimeCommand lib x.stats).bind (writeStats lib) with
  | error e => simp [hstats] at hnone
  | ok stats =>
    simp only [hstats] at hnone
    exact ⟨⟨stats, hstats⟩, replyError_eq_none.mp hnone⟩

/-- An error of the `try` block is named by the handler, unless it is the first problem with the
statistics. -/
theorem attempt_error_cases {budget : WriteBudget} {now : Float64} {healthy : Bool} {e : Exn}
    (h : (attempt lib budget now healthy x).error = some e) :
    e.caught = true ∨ ∃ response, runtimeCommand lib x.stats = .ok response ∧
      (problems lib response).head? = some e := by
  unfold attempt at h
  cases hstat : runtimeCommand lib x.stats with
  | error e' =>
    simp only [hstat, Except.bind] at h
    obtain rfl := Option.some.inj h
    exact .inl (caught_of_runtimeCommand hstat)
  | ok response =>
    simp only [hstat, Except.bind] at h
    -- the first problem of the response ends the attempt before the limit is sent
    obtain ⟨e', hhead, hwrite⟩ | ⟨-, ⟨stats, hwrite⟩ | ⟨message, hwrite⟩⟩ :=
      writeStats_eq lib response
    · simp only [hwrite] at h
      obtain rfl := Option.some.inj h
      exact .inr ⟨response, rfl, hhead⟩
    · simp only [hwrite] at h
      cases hreply : runtimeCommand lib x.limit with
      | error e' =>
        rw [hreply] at h
        obtain rfl := Option.some.inj h
        exact .inl (caught_of_runtimeCommand hreply)
      | ok reply =>
        rw [hreply] at h
        simp only [replyError] at h
        split at h
        · cases h
        · obtain rfl := Option.some.inj h
          exact .inl rfl
    · simp only [hwrite] at h
      obtain rfl := Option.some.inj h
      exact .inl rfl

/-- The first problem with the statistics leaves the `try` block. -/
theorem attempt_problem (budget : WriteBudget) (now : Float64) (healthy : Bool) {response : Text}
    {e : Exn} (hstat : runtimeCommand lib x.stats = .ok response)
    (hhead : (problems lib response).head? = some e) :
    (attempt lib budget now healthy x).error = some e := by
  obtain ⟨e', hhead', hwrite⟩ | ⟨hnil, -⟩ := writeStats_eq lib response
  · obtain rfl : e' = e := Option.some.inj (hhead'.symm.trans hhead)
    simp [attempt, hstat, Except.bind, hwrite]
  · rw [hnil] at hhead
    cases hhead

variable (lib x)

/-- A tick backs off as it should exactly when the exchanges are survivable. -/
theorem tick_backs_off_iff (settings : Settings) (controller : Controller)
    (snapshot : Snapshot) (now wall : Float64) :
    BacksOff lib x (tick lib settings controller snapshot now wall x) ↔ Survivable lib x := by
  unfold tick
  by_cases hconfirmed : Confirmed lib x
  · -- nothing is raised and the limit sent is the one published
    obtain ⟨hnone, hlast⟩ := attempt_confirmed controller.budget now
      (healthy settings snapshot now wall) hconfirmed
    simp only [hnone]
    constructor
    · intro _
      refine ⟨?_, fun hnot => absurd hconfirmed hnot⟩
      intro response hstat e hhead
      rw [attempt_problem _ _ _ hstat hhead] at hnone
      cases hnone
    · intro _
      exact ⟨_, rfl, fun hnot => absurd hconfirmed hnot, fun _ => hlast⟩
  · obtain ⟨e, herror⟩ := attempt_not_confirmed controller.budget now
      (healthy settings snapshot now wall) hconfirmed
    simp only [herror]
    cases hcaught : e.caught with
    | false =>
      -- an exception that the handler does not name ends the control thread
      obtain hcaught' | ⟨response, hstat, hhead⟩ := attempt_error_cases herror
      · rw [hcaught] at hcaught'
        cases hcaught'
      · constructor
        · rintro ⟨published, hresult, -⟩
          cases hresult
        · rintro ⟨hnamed, -⟩
          rw [hnamed response hstat e hhead] at hcaught
          cases hcaught
    | true =>
      have hfirst : ∀ response, runtimeCommand lib x.stats = .ok response →
          ∀ e', (problems lib response).head? = some e' → e'.caught = true := by
        intro response hstat e' hhead
        have hsame := attempt_problem controller.budget now (healthy settings snapshot now wall)
          hstat hhead
        obtain rfl : e = e' := Option.some.inj (herror.symm.trans hsame)
        exact hcaught
      have happlied : decide (e.text = []) = false := decide_eq_false (Exn.text_ne_nil hcaught)
      cases hreset : runtimeCommand lib x.reset with
      | ok reply =>
        constructor
        · intro _
          exact ⟨hfirst, fun _ message hmessage => by cases hreset.symm.trans hmessage⟩
        · intro _
          refine ⟨_, rfl, fun _ => ⟨rfl, ⟨_, List.mem_append_right _ (List.mem_singleton_self _)⟩,
            happlied⟩, fun hyes => ?_⟩
          cases happlied.symm.trans hyes
      | error e' =>
        obtain ⟨message, rfl⟩ | ⟨message, rfl⟩ := runtimeCommand_error hreset
        · constructor
          · intro _
            exact ⟨hfirst, fun _ message hmessage => by cases hreset.symm.trans hmessage⟩
          · intro _
            refine ⟨_, rfl, fun _ => ⟨rfl, ⟨_, List.mem_append_right _ (List.mem_singleton_self _)⟩,
              happlied⟩, fun hyes => ?_⟩
            cases happlied.symm.trans hyes
        · constructor
          · rintro ⟨published, hresult, -⟩
            cases hresult
          · rintro ⟨-, htext⟩
            exact absurd hreset (htext hconfirmed message)

end Tick

/-! ## A short row -/

/-- A library for ASCII bytes and plain decimal numbers. -/
def Library.ascii : Library where
  int text :=
    if text ≠ [] ∧ text.all Char.isDigit then
      .ok (text.foldl (fun n c => 10 * n + (c.toNat - '0'.toNat : Nat)) 0)
    else .error ⟨"invalid literal for int()".toList, by decide⟩
  decode bytes :=
    if bytes.all (· < 128) then .ok (bytes.map fun b => Char.ofNat b.toNat)
    else .error ⟨"invalid start byte".toList, by decide⟩

/-- An answer with the bytes of an ASCII text. -/
def asciiAnswer (text : String) : Exchange :=
  .answered [text.toList.map fun c => UInt8.ofNat c.toNat]

/-- Statistics cut off inside the row of the write server. -/
def shortRow : Exchanges where
  stats := asciiAnswer "# pxname,svname,qcur,scur\nseaweed_s3_write,worker_s3_write\n"
  limit := .answered []
  reset := .answered []

def oneSecond : Float64 :=
  ⟨1, by decide +kernel, by decide +kernel⟩

/-- A tick that finds a limit of two. -/
def expandedTick (x : Exchanges) : Outcome :=
  tick Library.ascii ⟨2, 5, 15⟩ ⟨⟨2, 300, 2, some 0, 0⟩, 0⟩ ⟨true, oneSecond, 0, 0⟩ oneSecond
    oneSecond x

/-- On a short row the tick raises, with the expanded limit in force and no attempt to reduce it. -/
theorem tick_dies_on_short_row :
    ¬ BacksOff Library.ascii shortRow (expandedTick shortRow) ∧
      (expandedTick shortRow).result = .error .type ∧
      (expandedTick shortRow).controller.budget.limit = 2 ∧
      (expandedTick shortRow).sent.map Prod.fst = [.showStat] := by
  have hresult : (expandedTick shortRow).result = .error .type := by decide +kernel
  refine ⟨?_, hresult, by decide +kernel, by decide +kernel⟩
  rintro ⟨published, hok, -⟩
  rw [hresult] at hok
  cases hok

end StorageNode.Admission
