import Nstance.TenantState.Recovery

/-!
# Sleep and the withdrawal of targets

A tenant should be recorded asleep only while its targets are withdrawn. The record that says
so, `WithdrawalAt`, outlives a restoration that was begun and not finished, and a request
that finds such a record takes the old withdrawal for its own. In every run in which no
request does, a sleeping tenant has its registration blocked and its targets withdrawn
(`asleep_withdrawn`). For a guarded request the commit has to rest on the answers to the
withdrawal that is in force (`guarded_commit`).
-/

namespace Nstance.TenantState

open Interaction

/-- A target withdrawal succeeded, and no restoration of the targets was called
since. -/
def withdrawnSince : History → Bool
  | [] => false
  | .called .beginTargetWithdrawal (.ok _) :: _ => true
  | .called .restoreTargets _ :: _ => false
  | _ :: before => withdrawnSince before

/-! ## The invariant -/

/-- What the record of a tenant promises of its targets. -/
structure Sheltered (entry : Entry) (withdrawn : Bool) : Prop where
  asleep : entry.asleep = true →
    entry.value.transition = none ∧ entry.blocked = true ∧ withdrawn = true
  recorded : entry.progress.withdrawalAt ≠ none → entry.blocked = true → withdrawn = true
  forward : entry.progress.withdrawalAt ≠ none → entry.progress.restoring = false →
    entry.blocked = true

/-- What an operation knows at each stage of the record and the targets. -/
def Stage.Knows (entry : Entry) (withdrawn : Bool) : Stage → Prop
  | .requested _ | .sleeping _ .begun | .sleeping _ .installed | .sleeping _ .ready =>
    entry.asleep = false ∧ (entry.progress.withdrawalAt ≠ none → entry.blocked = true)
  | .sleeping _ .withdrawn => entry.asleep = false ∧ entry.blocked = true ∧ withdrawn = true
  | .sleeping _ _ =>
    entry.asleep = false ∧ entry.progress.withdrawalAt ≠ none ∧ entry.blocked = true
  | .failing | .woken | .restoring .begun => entry.asleep = false
  | .restoring _ => entry.asleep = false ∧ entry.blocked = false
  | _ => True

variable {entry : Entry} {withdrawn : Bool} {origin : Origin} {point : SleepPoint}

section

variable (knows : (Stage.sleeping origin point).Knows entry withdrawn)
include knows

theorem Stage.Knows.awake : entry.asleep = false := by
  cases point <;> exact knows.1

theorem Stage.Knows.of_recorded (recorded : Recorded point entry) :
    entry.progress.withdrawalAt ≠ none ∧ entry.blocked = true := by
  rcases recorded with rfl | ⟨rfl, stored⟩
  · exact knows.2
  · exact ⟨stored, knows.2 stored⟩

theorem Stage.Knows.of_settled (settled : Settled point entry) :
    entry.progress.withdrawalAt ≠ none ∧ entry.blocked = true := by
  rcases settled with rfl | ⟨recorded, _⟩
  · exact knows.2
  · exact knows.of_recorded recorded

end

/-- A step in which a sleep request writes its first update finds no withdrawal
recorded of which the registration block was lifted. -/
def State.requestsAfresh (s : State) : Label → Bool
  | .perform tenant _ =>
    match s.running tenant with
    | some (_, .perform (.update (.requestSleep _ _)) _) =>
      (s.stored tenant).asleep || (s.stored tenant).progress.withdrawalAt.isNone ||
        (s.stored tenant).blocked
    | _ => true
  | _ => true

variable (before : History)

/-- What `State.requestsAfresh` says of a history. -/
def RequestsAfresh : Event → Prop
  | .wrote (.requestSleep _ _) => (entryOf before).asleep = false →
      (entryOf before).progress.withdrawalAt ≠ none → (entryOf before).blocked = true
  | _ => True

theorem requestsAfresh_sound {s : State} {label : Label} {tenant : Tenant} {event : Event}
    (lawful : Lawful s tenant) (ok : s.requestsAfresh label = true)
    (cause : Cause s tenant label event) : RequestsAfresh (s.history tenant) event := by
  cases cause with
  | perform runs records =>
    cases records with
    | update u =>
      cases u with
      | requestSleep wakeAt guarded =>
        simp only [State.requestsAfresh, runs, Bool.or_eq_true, Option.isNone_iff_eq_none] at ok
        rw [RequestsAfresh, ← lawful.replay]
        intro awake stored
        rcases ok with (asleep | unrecorded) | blocked
        · exact absurd (awake.symm.trans asleep) Bool.false_ne_true
        · exact absurd unrecorded stored
        · exact blocked
      | _ => trivial
    | _ => trivial
  | _ => trivial

/-- The record of a tenant and the knowledge of its operation agree with what
was done to its targets. -/
structure Shielded (history : History) (stage : Stage) : Prop where
  sheltered : Sheltered (entryOf history) (withdrawnSince history)
  knows : stage.Knows (entryOf history) (withdrawnSince history)

/-! ## One move -/

section

variable {before : History} {stage after : Stage} {event : Event} (shielded : Shielded before stage)
  (move : Moves stage (entryOf before) event after)
include shielded move

theorem Sheltered.step :
    Sheltered (entryOf (event :: before)) (withdrawnSince (event :: before)) := by
  obtain ⟨⟨asleep, recorded, forward⟩, knows⟩ := shielded
  cases move with
  | request wakeAt guarded may awake =>
    have left := Update.value_requestSleep wakeAt guarded awake
    constructor <;> simp_all [entryOf, withdrawnSince, Entry.asleep, Entry.blocked, Entry.progress]
  | postpone wakeAt guarded may stored =>
    have left := Update.value_postpone wakeAt guarded stored
    constructor <;> simp_all [entryOf, withdrawnSince, Entry.asleep, Entry.blocked, Entry.progress]
  | block origin unrecorded =>
    -- No withdrawal is recorded yet, so the block promises nothing.
    have awake : (entryOf before).asleep = false := knows.1
    constructor <;> simp_all [entryOf, withdrawnSince, Entry.asleep, Entry.blocked, Entry.progress]
  | withdraw origin result unrecorded blocked =>
    cases result with
    | ok => exact ⟨fun slept => ⟨(asleep slept).1, blocked, rfl⟩, fun _ _ => rfl, forward⟩
    | error error => exact ⟨asleep, recorded, forward⟩
  | mark origin withdrawalAt =>
    obtain ⟨awake, blocked, withdrawn⟩ := knows
    refine ⟨fun slept => ?_, fun _ _ => withdrawn, fun _ _ => blocked⟩
    exact absurd (awake.symm.trans slept) Bool.false_ne_true
  | commit wakeAt settled =>
    obtain ⟨stored, blocked⟩ := knows.of_settled settled
    refine ⟨fun _ => ⟨rfl, blocked, recorded stored blocked⟩, fun still => ?_, fun still => ?_⟩
    · exact absurd rfl still
    · exact absurd rfl still
  | commitResumed settled kept =>
    obtain ⟨stored, blocked⟩ := knows.of_settled settled
    have left := Update.value_commitResumed kept
    constructor <;> simp_all [entryOf, withdrawnSince, Entry.asleep, Entry.blocked, Entry.progress]
  | wake wakes engaged =>
    have left := Update.value_wake engaged
    constructor <;> simp_all [entryOf, withdrawnSince, Entry.asleep, Entry.blocked, Entry.progress]
  | beginRestore =>
    have awake : (entryOf before).asleep = false := knows
    refine ⟨fun slept => ?_, fun _ => Bool.noConfusion, fun _ restoring => ?_⟩
    · exact absurd (awake.symm.trans slept) Bool.false_ne_true
    · simp [entryOf, Entry.progress] at restoring
  | restoreTargets result =>
    obtain ⟨awake, unblocked⟩ := knows
    refine ⟨fun slept => ?_, fun _ blocked => ?_, forward⟩
    · exact absurd (awake.symm.trans slept) Bool.false_ne_true
    · exact absurd (unblocked.symm.trans blocked) Bool.false_ne_true
  | clear =>
    refine ⟨Bool.noConfusion, fun stored => ?_, fun stored => ?_⟩
    · exact absurd rfl stored
    · exact absurd rfl stored
  | _ => exact ⟨asleep, recorded, forward⟩

theorem Stage.Knows.step (law : RequestsAfresh before event) :
    after.Knows (entryOf (event :: before)) (withdrawnSince (event :: before)) := by
  obtain ⟨⟨asleep, recorded, forward⟩, knows⟩ := shielded
  cases move with
  | remove id => cases stage <;> exact knows
  | request wakeAt guarded may awake =>
    have left := Update.value_requestSleep wakeAt guarded awake
    simp_all [Stage.Knows, RequestsAfresh, entryOf, Entry.asleep, Entry.blocked, Entry.progress]
  | continueRequested | restoreWoken => exact knows
  | continueResumed restoring awake => exact ⟨awake, fun stored => forward stored restoring⟩
  | install origin result | ready origin result =>
    cases result with
    | ok => exact knows
    | error error => trivial
  | block origin unrecorded =>
    exact ⟨by simpa [entryOf, Entry.asleep] using knows.1,
      fun _ => by simp [entryOf, Entry.blocked]⟩
  | withdraw origin result unrecorded blocked =>
    cases result with
    | ok => exact ⟨knows.1, blocked, rfl⟩
    | error error => exact knows.1
  | mark origin withdrawalAt =>
    exact ⟨knows.1, by simp [entryOf, Entry.progress], knows.2.1⟩
  | check origin result past guarded stored =>
    cases result with
    | ok => exact ⟨knows.awake, knows.of_recorded past⟩
    | error error => exact knows.awake
  | finish origin result =>
    cases result with
    | ok => exact knows
    | error error => exact knows.1
  | rollBack may =>
    cases may with
    | failing => exact knows
    | unmarked | marked => exact knows.1
  | wake wakes engaged =>
    have left := Update.value_wake engaged
    simp_all [Stage.Knows, entryOf, Entry.asleep]
  | restoreResumed restoring =>
    -- A sleeping tenant has no record of a cutover.
    refine Bool.eq_false_iff.mpr fun slept => ?_
    simp [Entry.progress, (asleep slept).1] at restoring
  | beginRestore => exact ⟨knows, rfl⟩
  | restoreTargets result | targetsReady result | removeWakePath result =>
    cases result with
    | ok => exact knows
    | error error => trivial
  | reinstall result asleep => cases result <;> trivial
  | _ => trivial

end

theorem shielded_of_traces {history : History} {stage : Stage} (traces : Traces history stage)
    (law : Always RequestsAfresh history) : Shielded history stage := by
  refine traces.invariant (P := Shielded) ?_ ?_ law
  · exact ⟨⟨Bool.noConfusion, fun stored => absurd rfl stored, fun stored => absurd rfl stored⟩,
      trivial⟩
  · intro before stage after event _ shielded move _ law
    exact ⟨.step shielded move, .step shielded move law.1⟩

/-! ## A sleeping tenant is withdrawn -/

/-- **A sleeping tenant is withdrawn.** In every run in which no request takes
over a withdrawal that a restoration has given up, a tenant that is recorded
asleep has its registration blocked, and its targets were withdrawn after the
last restoration that was called. -/
theorem asleep_withdrawn {s : State} {tenant : Tenant}
    (reached : (machine true).Reaches (fun s label => s.requestsAfresh label = true) s)
    (asleep : (s.stored tenant).value.sleep ≠ none) :
    (s.stored tenant).value.targetRegistrationBlocked = true ∧
      withdrawnSince (s.history tenant) = true := by
  have lawful := lawful_of_reaches reached tenant
  obtain ⟨stage, traces⟩ := lawful.traces
  have law : Always RequestsAfresh (s.history tenant) :=
    always_of_reaches (fun lawful ok cause => requestsAfresh_sound lawful ok cause) reached
  rw [lawful.replay] at asleep ⊢
  exact ((shielded_of_traces traces law).sheltered.asleep
    (Option.isSome_iff_ne_none.mpr asleep)).2

/-- A guarded request is refused as busy and rolled back, and a second one has
come to its commit. -/
def refusedThenAsked : List Label :=
  boot ++ .acquire "red" (.sleep none true .callback) :: succeed "red" 13 ++
    .perform "red" (.fail .busy) :: succeed "red" 6 ++ .finish "red" ::
    .acquire "red" (.sleep none true .callback) :: succeed "red" 15

/-- The operation is then served. -/
def refusedThenServed : List Label := refusedThenAsked ++ succeed "red" 1

theorem refusedThenServed_withdrawn :
    ∃ s, (machine true).runWithin State.requestsAfresh (machine true).start
        refusedThenServed = some s ∧
      (s.stored "red").value.targetRegistrationBlocked = true ∧
      withdrawnSince (s.history "red") = true := by
  refine ⟨_, rfl, ?_⟩
  exact asleep_withdrawn (Machine.reaches_of_runWithin refusedThenServed .start rfl)
    (by decide)

/-- A guarded request is refused as busy, and its rollback stops when the
targets cannot be restored. Then a forced request is served. -/
def forcedDuringRollback : List Label :=
  boot ++ .acquire "red" (.sleep none true .callback) :: succeed "red" 13 ++
    .perform "red" (.fail .busy) :: succeed "red" 2 ++
    .perform "red" (.fail (.message "unavailable")) :: .finish "red" ::
    .acquire "red" (.sleep none false .callback) :: succeed "red" 10

/-- A tenant is recorded asleep although its targets were restored and their
registration is not blocked. -/
theorem forcedDuringRollback_not_withdrawn :
    ∃ s, (machine true).run (machine true).start forcedDuringRollback = some s ∧
      (s.stored "red").value.sleep ≠ none ∧
      (s.stored "red").value.targetRegistrationBlocked = false ∧
      withdrawnSince (s.history "red") = false :=
  ⟨_, rfl, Option.some_ne_none _, rfl, rfl⟩

/-! ## The answers a guarded commit rests on -/

/-- Whether the last request was guarded. -/
def latestGuarded : History → Option Bool
  | [] => none
  | .wrote (.requestSleep _ guarded) :: _ => some guarded
  | _ :: before => latestGuarded before

/-- The call returned without an error since the latest withdrawal that did. -/
def answeredSince (call : CutoverCall) : History → Bool
  | [] => false
  | .called made (.ok _) :: before =>
    if made = .beginTargetWithdrawal then false else made = call || answeredSince call before
  | _ :: before => answeredSince call before

/-- A target withdrawal succeeded, and since then no restoration of the targets
was called and the tenant was not found busy. -/
def cleanSince : History → Bool
  | [] => false
  | .called .beginTargetWithdrawal (.ok _) :: _ => true
  | .called .restoreTargets _ :: _ => false
  | .called (.checkActivity _) (.error error) :: before => !error.is .busy && cleanSince before
  | _ :: before => cleanSince before

/-- The tenant was just found busy, and the rollback is not recorded yet. -/
def rollbackDue : History → Bool
  | .called (.checkActivity _) (.error error) :: _ => error.is .busy
  | .entered .restore :: before => rollbackDue before
  | .removed _ :: before => rollbackDue before
  | _ => false

/-- A step that takes the lock from an operation of the tenant does not cut off
a refusal before its rollback is recorded. -/
def State.rollsBack (tenant : Tenant) (s : State) : Label → Bool
  | .crash => !rollbackDue (s.history tenant)
  | .finish owner => owner ≠ tenant || !rollbackDue (s.history tenant)
  | _ => true

/-- What `State.rollsBack` says of a history. -/
def RollsBack : Event → Prop
  | .released => rollbackDue before = false
  | _ => True

theorem rollsBack_sound {s : State} {label : Label} {tenant : Tenant} {event : Event}
    (ok : s.rollsBack tenant label = true) (cause : Cause s tenant label event) :
    RollsBack (s.history tenant) event := by
  cases cause with
  | release ends =>
    rcases ends with rfl | rfl
    · simpa [State.rollsBack, RollsBack] using ok
    · simpa [State.rollsBack, RollsBack] using ok
  | perform runs records => cases records <;> trivial
  | _ => trivial

/-- What an operation on its way to sleep has been told. -/
def Stage.Told (history : History) : Stage → Prop
  | .sleeping _ .withdrawn => cleanSince history = true
  | .sleeping _ .checked => ∃ withdrawalAt,
      (entryOf history).progress.withdrawalAt = some withdrawalAt ∧
        answeredSince (.checkActivity withdrawalAt) history = true
  | .sleeping _ .finished => ∃ withdrawalAt,
      (entryOf history).progress.withdrawalAt = some withdrawalAt ∧
        answeredSince (.checkActivity withdrawalAt) history = true ∧
        answeredSince .finishTargetWithdrawal history = true
  | _ => True

/-- The record carries the guard of the latest request, a withdrawal it names is
still good, and a refusal is followed by its rollback. -/
structure Guards (history : History) (stage : Stage) : Prop where
  guarded : requestedSince history = true → (entryOf history).value.transition ≠ none →
    latestGuarded history = some (entryOf history).progress.guarded
  kept : stage.sleeps = true → (entryOf history).value.transition ≠ none
  clean : rollbackDue history = false → (entryOf history).progress.withdrawalAt ≠ none →
    (entryOf history).blocked = true → cleanSince history = true
  due : rollbackDue history = true → stage = .failing ∨ stage = .restoring .begun
  told : stage.Told history

section

variable {before : History} {stage after : Stage} {event : Event}

section

variable (guards : Guards before stage)
include guards

theorem Guards.guarded_step (shielded : Shielded before stage)
    (move : Moves stage (entryOf before) event after) :
    requestedSince (event :: before) = true → (entryOf (event :: before)).value.transition ≠ none →
        latestGuarded (event :: before) = some (entryOf (event :: before)).progress.guarded := by
  intro since recorded
  cases move with
  | request wakeAt guarded may awake =>
    have left := Update.value_requestSleep wakeAt guarded awake
    simp [latestGuarded, entryOf, Entry.progress, left]
  | postpone wakeAt guarded may asleep =>
    have left := Update.value_postpone wakeAt guarded asleep
    have idle := (shielded.sheltered.asleep asleep).1
    exact absurd (by simp [entryOf, left, idle]) recorded
  | block origin unrecorded =>
    have left : (entryOf (.wrote .blockTargetRegistration :: before)).value.transition =
      (entryOf before).value.transition := by simp [entryOf]
    rw [left] at recorded
    rw [Entry.progress, left]
    exact guards.guarded since recorded
  | mark origin withdrawalAt => exact guards.guarded since (guards.kept rfl)
  | wake | beginRestore => exact Bool.noConfusion since
  | commit | clear => exact absurd rfl recorded
  | commitResumed settled kept =>
    have left := Update.value_commitResumed kept
    exact absurd (by simp [entryOf, left]) recorded
  | _ => exact guards.guarded since recorded

theorem Guards.kept_step (traces : Traces before stage)
    (move : Moves stage (entryOf before) event after) (law : ResumesRequest before event) :
    after.sleeps = true → (entryOf (event :: before)).value.transition ≠ none := by
  intro sleeps
  cases move with
  | request wakeAt guarded may awake =>
    simp [entryOf, Update.value_requestSleep wakeAt guarded awake]
  | continueResumed forward awake => exact (law (traces.holder rfl)).1
  | block origin unrecorded => simpa [entryOf] using guards.kept rfl
  | mark origin withdrawalAt => exact Option.some_ne_none _
  | remove id => exact guards.kept sleeps
  | _ =>
    first
      | exact Bool.noConfusion sleeps
      | exact guards.kept rfl
      | rcases Stage.sleeps_on sleeps with sleeps | sleeps <;> exact Bool.noConfusion sleeps

theorem Guards.due_step (move : Moves stage (entryOf before) event after) :
    rollbackDue (event :: before) = true → after = .failing ∨ after = .restoring .begun := by
  intro due
  cases move with
  | remove id => exact guards.due due
  | check origin result past guarded stored =>
    cases result with
    | ok => exact Bool.noConfusion due
    | error error => exact .inl rfl
  | rollBack | restoreWoken | restoreResumed => exact .inr rfl
  | _ => exact Bool.noConfusion due

theorem Guards.not_due (elsewhere : stage ≠ .failing) (not_begun : stage ≠ .restoring .begun) :
    rollbackDue before = false := by
  refine Bool.eq_false_iff.mpr fun due => ?_
  rcases guards.due due with here | here
  · exact elsewhere here
  · exact not_begun here

theorem Guards.clean_step (shielded : Shielded before stage)
    (move : Moves stage (entryOf before) event after) (law : RollsBack before event) :
    rollbackDue (event :: before) = false →
      (entryOf (event :: before)).progress.withdrawalAt ≠ none →
        (entryOf (event :: before)).blocked = true → cleanSince (event :: before) = true := by
  intro settled recorded blocked
  cases move with
  | request wakeAt guarded may awake =>
    have left := Update.value_requestSleep wakeAt guarded awake
    simp only [entryOf, Entry.progress, Entry.blocked, left] at recorded blocked
    cases may <;> exact guards.clean (guards.not_due (by simp) (by simp)) recorded blocked
  | postpone wakeAt guarded may asleep =>
    have left := Update.value_postpone wakeAt guarded asleep
    simp [entryOf, Entry.progress, left, (shielded.sheltered.asleep asleep).1] at recorded
  | block origin unrecorded =>
    simp only [Entry.progress] at unrecorded
    simp [entryOf, Entry.progress, unrecorded] at recorded
  | withdraw origin result unrecorded => exact absurd unrecorded recorded
  | mark origin withdrawalAt => exact guards.told
  | check origin result past guarded stored =>
    have clean := guards.clean (guards.not_due (by simp) (by simp)) recorded blocked
    cases result with
    | ok => exact clean
    | error error =>
      have other : error.is .busy = false := settled
      simp [cleanSince, other, clean]
  | commit | clear => exact absurd rfl recorded
  | commitResumed done kept =>
    simp [entryOf, Entry.progress, Update.value_commitResumed kept] at recorded
  | wake wakes engaged =>
    have left := Update.value_wake engaged
    simp only [entryOf, Entry.progress, Entry.blocked, left, Option.getD_some] at recorded blocked
    exact guards.clean (guards.not_due (by simp) (by simp)) recorded blocked
  | beginRestore => exact Bool.noConfusion blocked
  | restoreTargets result => exact absurd (shielded.knows.2.symm.trans blocked) Bool.false_ne_true
  | release => exact guards.clean law recorded blocked
  | remove | rollBack | restoreWoken | restoreResumed => exact guards.clean settled recorded blocked
  | _ => exact guards.clean (guards.not_due (by simp) (by simp)) recorded blocked

theorem Guards.told_step (move : Moves stage (entryOf before) event after) :
    after.Told (event :: before) := by
  cases move with
  | remove id => exact guards.told
  | withdraw origin result unrecorded blocked =>
    cases result with
    | ok => exact rfl
    | error error => trivial
  | check origin result past guarded stored =>
    cases result with
    | ok => exact ⟨_, stored, by simp [answeredSince]⟩
    | error error => trivial
  | finish origin result =>
    cases result with
    | ok =>
      obtain ⟨withdrawalAt, stored, checked⟩ := guards.told
      exact ⟨withdrawalAt, stored, by simp [answeredSince, checked], by simp [answeredSince]⟩
    | error error => trivial
  | install origin result | ready origin result | reinstall result =>
    cases result <;> trivial
  | restoreTargets result | targetsReady result | removeWakePath result =>
    cases result <;> trivial
  | _ => trivial

end

end

/-- The three conditions under which the answers can be relied on. -/
def GuardLaw (event : Event) : Prop :=
  ResumesRequest before event ∧ RequestsAfresh before event ∧ RollsBack before event

theorem guards_of_traces {history : History} {stage : Stage} (traces : Traces history stage)
    (law : Always GuardLaw history) : Guards history stage := by
  refine traces.invariant (P := Guards) ?_ ?_ law
  · exact ⟨Bool.noConfusion, Bool.noConfusion, fun _ stored => absurd rfl stored,
      Bool.noConfusion, trivial⟩
  · intro before stage after event traces guards move _ law
    have shielded : Shielded before stage :=
      shielded_of_traces traces (law.2.imp fun _ _ law => law.2.1)
    obtain ⟨resumes, _, rolls_back⟩ := law.1
    exact ⟨guards.guarded_step shielded move, guards.kept_step traces move resumes,
      guards.clean_step shielded move rolls_back, guards.due_step move, guards.told_step move⟩

/-- **A guarded commit rests on the answers to the withdrawal in force.** In every
run in which recovery takes up no record but that of a request, no request
takes over a withdrawal that a restoration has given up, and no refusal of the
tenant is cut off before its rollback is recorded, a step that puts the tenant
to sleep on a guarded request comes after a withdrawal since which the activity
check for the recorded time and the end of the withdrawal were answered without
an error, no restoration was called, and no activity was found. -/
theorem guarded_commit {s s' : State} {label : Label} {tenant : Tenant}
    (reached : (machine true).Reaches (fun s label => (s.resumesRequest label &&
      s.requestsAfresh label && s.rollsBack tenant label) = true) s)
    (stepped : (machine true).step s label = some s')
    (awake : (s.stored tenant).value.sleep = none)
    (asleep : (s'.stored tenant).value.sleep ≠ none)
    (guarded : latestGuarded (s.history tenant) = some true) :
    ∃ withdrawalAt, (s.stored tenant).progress.withdrawalAt = some withdrawalAt ∧
      answeredSince (.checkActivity withdrawalAt) (s.history tenant) = true ∧
      answeredSince .finishTargetWithdrawal (s.history tenant) = true ∧
      cleanSince (s.history tenant) = true := by
  have lawful := lawful_of_reaches reached tenant
  obtain ⟨origin, point, traces, settled⟩ := step_falls_asleep lawful stepped awake asleep
  have law : Always GuardLaw (s.history tenant) := by
    refine always_of_reaches (fun lawful ok cause => ?_) reached
    simp only [Bool.and_eq_true] at ok
    exact ⟨resumesRequest_sound lawful ok.1.1 cause, requestsAfresh_sound lawful ok.1.2 cause,
      rollsBack_sound ok.2 cause⟩
  have requested := requested_of_traces traces (law.imp fun _ _ law => law.1)
  have shielded := shielded_of_traces traces (law.imp fun _ _ law => law.2.1)
  have guards := guards_of_traces traces law
  rw [lawful.replay] at settled ⊢
  -- The record is guarded, so the unguarded way to the commit is closed.
  have finished : point = .finished := by
    rcases settled with finished | ⟨_, unguarded⟩
    · exact finished
    have stored := guards.guarded (requested.underway rfl) (guards.kept rfl)
    rw [guarded, unguarded] at stored
    cases stored
  subst finished
  obtain ⟨stored, blocked⟩ := shielded.knows.of_settled settled
  obtain ⟨withdrawalAt, recorded, checked, ended⟩ := guards.told
  exact ⟨withdrawalAt, recorded, checked, ended,
    guards.clean (guards.not_due (by simp) (by simp)) stored blocked⟩

theorem refusedThenAsked_checked :
    ∃ s s', (machine true).runWithin (fun s label => s.resumesRequest label &&
        s.requestsAfresh label && s.rollsBack "red" label) (machine true).start
        refusedThenAsked = some s ∧
      (machine true).step s (.perform "red" .ok) = some s' ∧
      (s'.stored "red").value.sleep = some ⟨none⟩ ∧
      ∃ withdrawalAt, (s.stored "red").progress.withdrawalAt = some withdrawalAt ∧
        answeredSince (.checkActivity withdrawalAt) (s.history "red") = true ∧
        answeredSince .finishTargetWithdrawal (s.history "red") = true ∧
        cleanSince (s.history "red") = true := by
  refine ⟨_, _, rfl, rfl, rfl, ?_⟩
  exact guarded_commit (Machine.reaches_of_runWithin refusedThenAsked .start rfl)
    (show (machine true).step _ (.perform "red" .ok) = some _ from rfl) rfl (by decide) rfl

/-- A guarded tenant sleeps, is woken after a restart, and then the resume
goroutine of the restart comes to the commit of a sleep. -/
def resumeAfterWake : List Label :=
  boot ++ .acquire "red" (.sleep none true .callback) :: succeed "red" 17 ++
    .finish "red" :: .crash :: boot ++ .acquire "red" .wake :: succeed "red" 10 ++
    .finish "red" :: .acquire "red" .resume :: succeed "red" 13

/-- Recovery commits a sleep without an activity check although the latest
request was guarded. -/
theorem resumeAfterWake_unchecked :
    ∃ s s', (machine true).run (machine true).start resumeAfterWake = some s ∧
      (machine true).step s (.perform "red" .ok) = some s' ∧
      (s.stored "red").value.sleep = none ∧ (s'.stored "red").value.sleep ≠ none ∧
      latestGuarded (s.history "red") = some true ∧
      ∀ withdrawalAt, answeredSince (.checkActivity withdrawalAt) (s.history "red") = false :=
  ⟨_, _, rfl, rfl, rfl, Option.some_ne_none _, rfl, fun _ => rfl⟩

end Nstance.TenantState
