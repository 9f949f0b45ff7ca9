import Nstance.TenantState.Refinement

/-!
# When a tenant falls asleep

A tenant should be put to sleep on a request only. A wake whose restoration never began
leaves the same record as a request, and a tenant without any record is taken for one that
has just been asked to sleep. In every run in which no resume goroutine takes up such a
record, a tenant falls asleep only on a request made after its last wake and its last
restoration (`falls_asleep_on_request`), and, when all requests run the on-demand check, only
while it has no on-demand instance (`falls_asleep_without_on_demand`). Such an instance is
created only while the tenant is awake (`created_awake`).
-/

namespace Nstance.TenantState

open Interaction

/-! ## Requests in a history -/

/-- A sleep request was written after the last wake and the last restoration
that were. -/
def requestedSince : History → Bool
  | [] => false
  | .wrote (.requestSleep _ _) :: _ => true
  | .wrote .wake :: _ => false
  | .wrote .beginRestore :: _ => false
  | _ :: before => requestedSince before

/-- A wake was written, and neither its restoration nor another request since. -/
def wakePending : History → Bool
  | [] => false
  | .wrote (.requestSleep _ _) :: _ => false
  | .wrote .wake :: _ => true
  | .wrote .beginRestore :: _ => false
  | _ :: before => wakePending before

/-- The stages of falling asleep. -/
def Stage.sleeps : Stage → Bool
  | .requested _ => true
  | .sleeping _ _ => true
  | _ => false

theorem Stage.sleeps_on {result : Except Err Unit} {good bad : Stage} :
    (Stage.on result good bad).sleeps = true → good.sleeps = true ∨ bad.sleeps = true := by
  cases result with
  | ok => exact .inl
  | error error => exact .inr

/-! ## Recovery finishes requests -/

/-- A step in which a resume goroutine enters `continueSleep` finds a record of
a cutover, and not that of a wake whose restoration never began. -/
def State.resumesRequest (s : State) : Label → Bool
  | .perform tenant _ =>
    match s.running tenant with
    | some (.resume, .perform (.enter .continueSleep) _) =>
      (s.stored tenant).value.transition.isSome && !wakePending (s.history tenant)
    | _ => true
  | _ => true

/-- What `State.resumesRequest` says of a history. -/
def ResumesRequest (before : History) : Event → Prop
  | .entered .continueSleep => holder before = some .resume →
      (entryOf before).value.transition ≠ none ∧ wakePending before = false
  | _ => True

variable {event : Event} {stage : Stage} {history : History} {s : State} {label : Label}
  {tenant : Tenant} {before : History} {after : Stage}

theorem resumesRequest_sound (lawful : Lawful s tenant) (ok : s.resumesRequest label = true)
    (cause : Cause s tenant label event) : ResumesRequest (s.history tenant) event := by
  cases cause with
  | perform runs records =>
    cases records with
    | enter routine =>
      cases routine with
      | continueSleep =>
        intro held
        cases (lawful.held runs).symm.trans held
        simp only [State.resumesRequest, runs, Bool.and_eq_true, Bool.not_eq_true'] at ok
        rw [← lawful.replay]
        exact ⟨Option.isSome_iff_ne_none.mp ok.1, ok.2⟩
      | restore => trivial
    | _ => trivial
  | _ => trivial

/-- The record of a cutover that is not being restored comes from a request, or
from a wake that went no further; an operation on its way to sleep serves a
request. -/
structure Requested (history : History) (stage : Stage) : Prop where
  record : (entryOf history).value.transition ≠ none →
    (entryOf history).progress.restoring = false →
      requestedSince history = true ∨ wakePending history = true
  underway : stage.sleeps = true → requestedSince history = true

theorem Requested.step (traces : Traces before stage) (requested : Requested before stage)
    (move : Moves stage (entryOf before) event after) (law : ResumesRequest before event) :
    Requested (event :: before) after := by
  cases move with
  | request | postpone => exact ⟨fun _ _ => .inl rfl, fun _ => rfl⟩
  | wake => exact ⟨fun _ _ => .inr rfl, Bool.noConfusion⟩
  | beginRestore =>
    refine ⟨fun _ forward => ?_, Bool.noConfusion⟩
    exact absurd forward (by simp [entryOf, Entry.progress])
  | commit | clear => exact ⟨fun recorded => absurd rfl recorded, Bool.noConfusion⟩
  | commitResumed settled recorded =>
    refine ⟨fun still => absurd ?_ still, Bool.noConfusion⟩
    rw [entryOf, Update.value_commitResumed recorded]
  | mark | block =>
    have since : requestedSince before = true := requested.underway rfl
    exact ⟨fun _ _ => .inl since, fun _ => since⟩
  | continueResumed forward awake =>
    obtain ⟨recorded, settled⟩ := law (traces.holder rfl)
    have since : requestedSince before = true := by
      rcases requested.record recorded forward with since | pending
      · exact since
      · exact absurd (settled.symm.trans pending) Bool.false_ne_true
    exact ⟨fun _ _ => .inl since, fun _ => since⟩
  | continueRequested => exact ⟨requested.record, fun _ => requested.underway rfl⟩
  | remove => exact ⟨requested.record, requested.underway⟩
  | _ =>
    refine ⟨requested.record, fun sleeps => ?_⟩
    first
      | exact Bool.noConfusion sleeps
      | exact requested.underway rfl
      | rcases Stage.sleeps_on sleeps with sleeps | sleeps <;> exact Bool.noConfusion sleeps

theorem requested_of_traces (traces : Traces history stage) (law : Always ResumesRequest history) :
    Requested history stage :=
  traces.invariant (P := Requested) ⟨fun recorded => absurd rfl recorded, Bool.noConfusion⟩
    (fun before requested move _ law => requested.step before move law.1) law

/-- **A tenant falls asleep only on a request.** In every run in which recovery
takes up no record but that of a request, a step that puts a tenant to sleep
comes after a sleep request that was written after the tenant's last wake and
its last restoration. -/
theorem falls_asleep_on_request {s s' : State} {label : Label} {tenant : Tenant}
    (reached : (machine true).Reaches (fun s label => s.resumesRequest label = true) s)
    (stepped : (machine true).step s label = some s')
    (awake : (s.stored tenant).value.sleep = none)
    (asleep : (s'.stored tenant).value.sleep ≠ none) :
    requestedSince (s.history tenant) = true := by
  have lawful := lawful_of_reaches reached tenant
  obtain ⟨origin, point, traces, _⟩ := step_falls_asleep lawful stepped awake asleep
  have law : Always ResumesRequest (s.history tenant) :=
    always_of_reaches (fun lawful ok cause => resumesRequest_sound lawful ok cause) reached
  exact (requested_of_traces traces law).underway rfl

/-- A request is cut off by a crash right after its first update, and recovery
has come to the commit. -/
def interruptedSleep : List Label :=
  boot ++ .acquire "red" (.sleep none false .callback) :: succeed "red" 4 ++
    .crash :: boot ++ .acquire "red" .resume :: succeed "red" 13

theorem interruptedSleep_on_request :
    ∃ s s', (machine true).runWithin State.resumesRequest (machine true).start
        interruptedSleep = some s ∧
      (machine true).step s (.perform "red" .ok) = some s' ∧
      (s'.stored "red").value.sleep = some ⟨none⟩ ∧ requestedSince (s.history "red") = true := by
  refine ⟨_, _, rfl, rfl, rfl, ?_⟩
  exact falls_asleep_on_request (Machine.reaches_of_runWithin interruptedSleep .start rfl)
    (show (machine true).step _ (.perform "red" .ok) = some _ from rfl) rfl
    (Option.some_ne_none _)

/-- A tenant sleeps, a wake writes its update and is cut off by a crash, and
recovery has come to the commit of a sleep. -/
def interruptedWake : List Label :=
  boot ++ .acquire "red" (.sleep none false .callback) :: succeed "red" 15 ++
    .finish "red" :: .acquire "red" .wake :: succeed "red" 3 ++
    .crash :: boot ++ .acquire "red" .resume :: succeed "red" 13

/-- Recovery puts a tenant back to sleep after its wake was recorded. -/
theorem interruptedWake_undone :
    ∃ s s', (machine true).run (machine true).start interruptedWake = some s ∧
      (machine true).step s (.perform "red" .ok) = some s' ∧
      (s.stored "red").value.sleep = none ∧ (s'.stored "red").value.sleep ≠ none ∧
      requestedSince (s.history "red") = false :=
  ⟨_, _, rfl, rfl, rfl, Option.some_ne_none _, rfl⟩

/-! ## On-demand instances block every sleep -/

/-- Sleeps ask for the check of on-demand instances. -/
def Label.checksOnDemand : Label → Bool
  | .acquire _ (.sleep _ _ check) => check = .onDemand
  | _ => true

/-- A step in which a resume goroutine enters `continueSleep` finds a record of
a cutover. -/
def State.resumesRecord (s : State) : Label → Bool
  | .perform tenant _ =>
    match s.running tenant with
    | some (.resume, .perform (.enter .continueSleep) _) =>
      (s.stored tenant).value.transition.isSome
    | _ => true
  | _ => true

/-- What `State.resumesRecord` says of a history. -/
def ResumesRecord (before : History) : Event → Prop
  | .entered .continueSleep => holder before = some .resume →
      (entryOf before).value.transition ≠ none
  | _ => True

theorem resumesRecord_sound (lawful : Lawful s tenant) (ok : s.resumesRecord label = true)
    (cause : Cause s tenant label event) : ResumesRecord (s.history tenant) event := by
  cases cause with
  | perform runs records =>
    cases records with
    | enter routine =>
      cases routine with
      | continueSleep =>
        intro held
        cases (lawful.held runs).symm.trans held
        simp only [State.resumesRecord, runs] at ok
        rw [← lawful.replay]
        exact Option.isSome_iff_ne_none.mp ok
      | restore => trivial
    | _ => trivial
  | _ => trivial

/-- The same, of an event. -/
def ChecksOnDemand (before : History) : Event → Prop
  | .acquired (.sleep _ _ check) => check = .onDemand
  | .entered .continueSleep => holder before = some .resume →
      (entryOf before).value.transition ≠ none
  | _ => True

theorem checksOnDemand_sound (lawful : Lawful s tenant) (checks : label.checksOnDemand = true)
    (ok : s.resumesRecord label = true) (cause : Cause s tenant label event) :
    ChecksOnDemand (s.history tenant) event := by
  cases cause with
  | acquire operation =>
    cases operation with
    | sleep wakeAt guarded check => exact (of_decide_eq_true checks : check = .onDemand)
    | _ => trivial
  | perform runs records =>
    cases records with
    | enter routine =>
      cases routine with
      | continueSleep => exact resumesRecord_sound lawful ok (.perform runs (.enter .continueSleep))
      | restore => trivial
    | _ => trivial
  | _ => trivial

/-- Stages in which the tenant is known to have no on-demand instance. -/
def Stage.rowless : Stage → Bool
  | .cleared _ _ | .requested _ | .sleeping _ _ | .failing | .woken | .restoring _ => true
  | _ => false

/-- A tenant with any record of sleep has no on-demand row. -/
structure Rowless (history : History) (stage : Stage) : Prop where
  record : (entryOf history).value.sleep ≠ none ∨ (entryOf history).value.transition ≠ none →
    rowsOf history = []
  underway : stage.rowless = true → rowsOf history = []

theorem check_of_holder {wakeAt : Option Time} {guarded : Bool} {check : Check}
    (law : Always ChecksOnDemand history)
    (held : holder history = some (.sleep wakeAt guarded check)) : check = .onDemand := by
  induction history with
  | nil => cases held
  | cons event before ih =>
    cases event with
    | acquired operation =>
      cases held
      exact law.1
    | _ => exact ih law.2 held

theorem Rowless.step (traces : Traces before stage) (rowless : Rowless before stage)
    (move : Moves stage (entryOf before) event after) (observed : Observed before event)
    (law : Always ChecksOnDemand (event :: before)) : Rowless (event :: before) after := by
  -- An event after which the rows are still the same, and there were none.
  have kept : rowsOf before = [] → rowsOf (event :: before) = rowsOf before →
      Rowless (event :: before) after :=
    fun none_before same => ⟨fun _ => same.trans none_before, fun _ => same.trans none_before⟩
  cases move with
  | acquire | release | present | reready => exact ⟨rowless.record, Bool.noConfusion⟩
  | remove id =>
    refine ⟨fun recorded => ?_, fun underway => ?_⟩
    · exact congrArg (List.erase · id) (rowless.record recorded)
    · exact congrArg (List.erase · id) (rowless.underway underway)
  | absent wakeAt guarded =>
    refine kept ?_ rfl
    simpa using (show false = !(rowsOf before).isEmpty from observed)
  | request wakeAt guarded may | postpone wakeAt guarded may =>
    cases may with
    | unchecked => cases check_of_holder law.2 (traces.holder rfl)
    | checked => exact kept (rowless.underway rfl) rfl
  | continueResumed forward awake =>
    exact kept (rowless.record (.inr (law.1 (traces.holder rfl)))) rfl
  | restoreResumed restoring =>
    refine kept (rowless.record (.inr fun bare => ?_)) rfl
    simp [Entry.progress, bare] at restoring
  | wake wakes engaged => exact kept (rowless.record (not_and_or.mp engaged)) rfl
  | rollBack may => cases may <;> exact kept (rowless.underway rfl) rfl
  | clear => exact ⟨fun recorded => by simp [entryOf] at recorded, Bool.noConfusion⟩
  | insertAwake id awake idle =>
    exact ⟨fun recorded => by simp [entryOf, awake, idle] at recorded, Bool.noConfusion⟩
  | insertRestored id cleared =>
    exact ⟨fun recorded => by simp [entryOf, cleared] at recorded, Bool.noConfusion⟩
  | reinstall result asleep =>
    exact kept (rowless.record (.inl (Option.isSome_iff_ne_none.mp asleep))) rfl
  | _ => exact kept (rowless.underway rfl) rfl

theorem rowless_of_traces (traces : Traces history stage) (law : Always ChecksOnDemand history) :
    Rowless history stage :=
  traces.invariant (P := Rowless) ⟨fun _ => rfl, fun _ => rfl⟩
    (fun before rowless move observed law => rowless.step before move observed law) law

/-- **Existing on-demand instances block every sleep.** In every run in which
all requests run the on-demand check and recovery takes up no tenant without a
record, a step that puts a tenant to sleep finds it without an on-demand row. -/
theorem falls_asleep_without_on_demand {s s' : State} {label : Label} {tenant : Tenant}
    (reached : (machine true).Reaches
      (fun s label => (label.checksOnDemand && s.resumesRecord label) = true) s)
    (stepped : (machine true).step s label = some s')
    (awake : (s.stored tenant).value.sleep = none)
    (asleep : (s'.stored tenant).value.sleep ≠ none) :
    s.onDemand tenant = [] := by
  have lawful := lawful_of_reaches reached tenant
  obtain ⟨origin, point, traces, _⟩ := step_falls_asleep lawful stepped awake asleep
  have law : Always ChecksOnDemand (s.history tenant) := by
    refine always_of_reaches (fun lawful ok cause => ?_) reached
    obtain ⟨checks, ok⟩ := Bool.and_eq_true_iff.mp ok
    exact checksOnDemand_sound lawful checks ok cause
  rw [lawful.rows]
  exact (rowless_of_traces traces law).underway rfl

/-- A checked request is cut off by a crash right after its first update, and
recovery has come to the commit. -/
def interruptedCheckedSleep : List Label :=
  boot ++ .acquire "red" (.sleep none true .onDemand) :: succeed "red" 4 ++
    .crash :: boot ++ .acquire "red" .resume :: succeed "red" 15

theorem interruptedCheckedSleep_without_on_demand :
    ∃ s s', (machine true).runWithin
        (fun s label => label.checksOnDemand && s.resumesRecord label) (machine true).start
        interruptedCheckedSleep = some s ∧
      (machine true).step s (.perform "red" .ok) = some s' ∧
      (s'.stored "red").value.sleep = some ⟨none⟩ ∧ s.onDemand "red" = [] := by
  refine ⟨_, _, rfl, rfl, rfl, ?_⟩
  exact falls_asleep_without_on_demand
    (Machine.reaches_of_runWithin interruptedCheckedSleep .start rfl)
    (show (machine true).step _ (.perform "red" .ok) = some _ from rfl) rfl
    (Option.some_ne_none _)

/-- A sleeping tenant has a resume goroutine after a restart. Before it gets the
lock, an on-demand instance is created, which wakes the tenant; then the
goroutine comes to the commit of a sleep. -/
def resumeAfterCreate : List Label :=
  boot ++ .acquire "red" (.sleep none false .onDemand) :: succeed "red" 15 ++
    .finish "red" :: .crash :: boot ++ .acquire "red" .createOnDemand :: succeed "red" 9 ++
    .perform "red" (.insert "i-1" (.ok ())) :: .perform "red" .ok :: .finish "red" ::
    .acquire "red" .resume :: succeed "red" 13

/-- Recovery puts a tenant to sleep that has an on-demand instance. -/
theorem resumeAfterCreate_sleeps :
    ∃ s s', (machine true).runWithin (fun _ label => label.checksOnDemand) (machine true).start
        resumeAfterCreate = some s ∧
      (machine true).step s (.perform "red" .ok) = some s' ∧
      (s.stored "red").value.sleep = none ∧ (s'.stored "red").value.sleep ≠ none ∧
      s.onDemand "red" = ["i-1"] :=
  ⟨_, _, rfl, rfl, rfl, Option.some_ne_none _, rfl⟩

/-- **On-demand instances are created for tenants that are awake.** In every run, a step that
inserts the row of one finds the tenant neither asleep nor in a cutover. -/
theorem created_awake {s s' : State} {label : Label} {tenant : Tenant} {id : String}
    (reached : (machine true).Reachable s) (stepped : (machine true).step s label = some s')
    (absent : id ∉ s.onDemand tenant) (created : id ∈ s'.onDemand tenant) :
    (s.stored tenant).value.sleep = none ∧ (s.stored tenant).value.transition = none := by
  have lawful := lawful_of_reaches reached tenant
  have lawful' := lawful.step stepped
  rw [lawful.rows] at absent
  rw [lawful'.rows] at created
  rw [lawful.replay]
  rcases step_history stepped tenant with same | ⟨event, history, -⟩
  · rw [same] at created
    exact absurd created absent
  rw [history] at created
  have inserted : event = .inserted id := by
    cases event with
    | inserted => simpa [rowsOf, absent, eq_comm] using created
    | removed => exact absurd (List.mem_of_mem_erase created) absent
    | _ => exact absurd created absent
  subst inserted
  obtain ⟨after, traces⟩ := lawful'.traces
  rw [history] at traces
  cases traces with
  | cons before move =>
    cases move with
    | insertAwake _ awake idle => exact ⟨awake, idle⟩
    | insertRestored _ cleared =>
      rw [cleared]
      exact ⟨rfl, rfl⟩

/-- The instance that wakes the tenant is inserted after the cutover back. -/
theorem resumeAfterCreate_created_awake :
    ∃ s s', (machine true).run (machine true).start (resumeAfterCreate.take 34) = some s ∧
      (machine true).step s (.perform "red" (.insert "i-1" (.ok ()))) = some s' ∧
      s'.onDemand "red" = ["i-1"] ∧ (s.stored "red").value.sleep = none := by
  refine ⟨_, _, rfl, rfl, rfl, ?_⟩
  exact (created_awake (Machine.reachable_of_run (resumeAfterCreate.take 34) .start rfl)
    (show (machine true).step _ (.perform "red" (.insert "i-1" (.ok ()))) = some _ from rfl)
    List.not_mem_nil List.mem_cons_self).1

end Nstance.TenantState
