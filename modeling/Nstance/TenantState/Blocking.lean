import Nstance.TenantState.Refinement

/-!
# Withdrawn targets stay blocked

From a successful withdrawal of a tenant's targets to the write that begins their
restoration, and while a withdrawal is being called, the stored entry and the cached copy
block ordinary registration (`blocked_of_withdrawn`, `blocked_of_withdrawing`). While a
restoration is being called no withdrawal is open (`not_withdrawn_of_restoring`).
-/

namespace Nstance.TenantState

open Interaction

/-- The targets were withdrawn, and no restoration was recorded since. -/
def withdrawn : History → Bool
  | [] => false
  | .called .beginTargetWithdrawal (.ok _) :: _ => true
  | .wrote .beginRestore :: _ => false
  | _ :: before => withdrawn before

/-- The stages in which targets are registered again. -/
def Stage.restores : Stage → Bool
  | .restoring .begun => false
  | .restoring _ => true
  | .restored => true
  | _ => false

/-- A withdrawal is open only before the restoration is recorded, and the entry
then blocks registration. -/
structure Stage.Blocks (history : History) (stage : Stage) : Prop where
  closed : stage.restores = true → withdrawn history = false
  blocked : withdrawn history = true → (entryOf history).blocked = true

section

variable {before : History} {stage after : Stage} {event : Event}

theorem Stage.Blocks.step (blocks : stage.Blocks before)
    (move : Moves stage (entryOf before) event after) : after.Blocks (event :: before) := by
  obtain ⟨closed, blocked⟩ := blocks
  cases move with
  | withdraw origin result unrecorded holds =>
    cases result with
    | ok => exact ⟨(Bool.noConfusion ·), fun _ => holds⟩
    | error error => exact ⟨(Bool.noConfusion ·), blocked⟩
  | beginRestore => exact ⟨fun _ => rfl, (Bool.noConfusion ·)⟩
  | clear =>
    refine ⟨fun _ => closed rfl, fun open_ => ?_⟩
    rw [show withdrawn (.wrote .clear :: before) = withdrawn before from rfl, closed rfl] at open_
    cases open_
  | request wakeAt guarded may awake =>
    refine ⟨(Bool.noConfusion ·), fun open_ => ?_⟩
    rw [entryOf, Entry.blocked, Update.value_requestSleep _ _ awake]
    exact blocked open_
  | postpone wakeAt guarded may asleep =>
    refine ⟨(Bool.noConfusion ·), fun open_ => ?_⟩
    rw [entryOf, Entry.blocked, Update.value_postpone _ _ asleep]
    exact blocked open_
  | block origin unrecorded =>
    refine ⟨(Bool.noConfusion ·), fun _ => ?_⟩
    rw [entryOf, Entry.blocked, Update.value_blockTargetRegistration]
  | commitResumed settled recorded =>
    refine ⟨(Bool.noConfusion ·), fun open_ => ?_⟩
    rw [entryOf, Entry.blocked, Update.value_commitResumed recorded]
    exact blocked open_
  | wake wakes engaged =>
    refine ⟨(Bool.noConfusion ·), fun open_ => ?_⟩
    rw [entryOf, Entry.blocked, Update.value_wake engaged]
    exact blocked open_
  | mark | commit => exact ⟨(Bool.noConfusion ·), blocked⟩
  | restoreTargets result | targetsReady result | removeWakePath result =>
    exact ⟨fun _ => closed rfl, blocked⟩
  | install origin result | ready origin result | check origin result | finish origin result =>
    cases result <;> exact ⟨(Bool.noConfusion ·), blocked⟩
  | reinstall result =>
    cases result <;> exact ⟨(Bool.noConfusion ·), blocked⟩
  | remove id => exact ⟨closed, blocked⟩
  | _ => exact ⟨(Bool.noConfusion ·), blocked⟩

theorem blocks_of_traces {history : History} (traces : Traces history stage) :
    stage.Blocks history := by
  induction traces with
  | nil => exact ⟨(Bool.noConfusion ·), (Bool.noConfusion ·)⟩
  | cons _ move _ ih => exact ih.step move

end

section

variable {s s' after : State} {tenant owner : Tenant} {label : Label}

theorem Effect.cached {action : Action} {outcome : Outcome}
    (effect : Effect s owner action outcome after) (tenant : Tenant) :
    after.cached tenant = s.cached tenant ∨ after.cached tenant = after.stored tenant := by
  cases effect with
  | wrote | reread => exact .inr rfl
  | _ => exact .inl rfl

/-- A step of a process that stays up leaves the cached entry of a tenant or
refreshes it. -/
theorem step_cached (stepped : s.step true label = some s') (alive : label ≠ .crash)
    (tenant : Tenant) :
    s'.cached tenant = s.cached tenant ∨ s'.cached tenant = s'.stored tenant := by
  cases step_change stepped with
  | crash => exact absurd rfl alive
  | perform runs performed =>
    have kept := (perform_effect performed).cached tenant
    exact kept
  | refresh => exact .inr rfl
  | _ => exact .inl rfl

variable {operation : Operation}

section

variable (lawful : Lawful s tenant)
include lawful

/-- What the program that holds the lock is about to do is a move, from a stage
the history has reached. -/
theorem Lawful.calls {call : CutoverCall} {next : Reply (.call call) → Code Unit}
    (runs : s.running tenant = some (operation, .perform (.call call) next)) :
    ∃ stage after, Traces (s.history tenant) stage ∧
      Moves stage (s.stored tenant) (.called call (.ok ())) after ∧
      (call = .beginTargetWithdrawal → s.cached tenant = s.stored tenant) := by
  cases lawful with
  | idle free => exact absurd (free.symm.trans runs) (by simp)
  | busy _ _ running held v follows complies =>
    cases running.symm.trans runs
    obtain ⟨fresh, emits⟩ := complies
    obtain ⟨after, move, _⟩ := emits (.ok ())
    rw [follows.entry] at move
    exact ⟨v.stage, after, follows.traces, move, fun same => follows.current (fresh same)⟩

theorem blocked_of_withdrawing {next : Reply (.call .beginTargetWithdrawal) → Code Unit}
    (runs : s.running tenant = some (operation, .perform (.call .beginTargetWithdrawal) next)) :
    (s.stored tenant).blocked = true ∧ (s.cached tenant).blocked = true := by
  obtain ⟨stage, after, _, move, current⟩ := lawful.calls runs
  rw [current rfl]
  cases move with
  | withdraw origin result unrecorded blocked => exact ⟨blocked, blocked⟩

theorem not_withdrawn_of_restoring {next : Reply (.call .restoreTargets) → Code Unit}
    (runs : s.running tenant = some (operation, .perform (.call .restoreTargets) next)) :
    withdrawn (s.history tenant) = false := by
  obtain ⟨stage, after, traces, move, _⟩ := lawful.calls runs
  cases move with
  | restoreTargets => exact (blocks_of_traces traces).closed rfl

theorem stored_blocked_of_withdrawn
    (open_ : withdrawn (s.history tenant) = true) : (s.stored tenant).blocked = true := by
  obtain ⟨stage, traces⟩ := lawful.traces
  rw [lawful.replay]
  exact (blocks_of_traces traces).blocked open_

end

theorem withdrawn_back (stepped : s.step true label = some s')
    (open_ : withdrawn (s'.history tenant) = true) :
    withdrawn (s.history tenant) = true ∨ label = .perform tenant .ok ∧
      ∃ operation next, s.running tenant =
        some (operation, .perform (.call .beginTargetWithdrawal) next) := by
  rcases step_history stepped tenant with same | ⟨event, history, cause⟩
  · exact .inl (same ▸ open_)
  rw [history] at open_
  cases cause with
  | @perform operation action next outcome _ runs records =>
    cases records with
    | call call result =>
      cases call with
      | beginTargetWithdrawal =>
        cases outcome with
        | ok => exact .inr ⟨rfl, operation, next, runs⟩
        | fail error =>
          simp only [State.step, runs, State.perform, Option.some.injEq] at stepped
          subst stepped
          cases (Function.update_self ..).symm.trans history
          exact .inl open_
        | lost | insert => simp [State.step, runs, State.perform] at stepped
      | _ => exact .inl open_
    | update u =>
      cases u with
      | beginRestore => cases open_
      | _ => exact .inl open_
    | _ => exact .inl open_
  | _ => exact .inl open_

/-- **While a withdrawal is open, registration is blocked**, in the document and
in the copy of a process that stays up. -/
theorem blocked_of_withdrawn (reached : (machine true).Reaches (fun _ label => label ≠ .crash) s)
    (open_ : withdrawn (s.history tenant) = true) :
    (s.stored tenant).blocked = true ∧ (s.cached tenant).blocked = true := by
  refine ⟨stored_blocked_of_withdrawn (lawful_of_reaches reached tenant) open_, ?_⟩
  induction reached with
  | start => cases open_
  | @step s s' label before alive stepped ih =>
    have lawful := lawful_of_reaches before tenant
    have moved : s.step true label = some s' := stepped
    have stored := stored_blocked_of_withdrawn (lawful.step moved) open_
    have earlier : (s.cached tenant).blocked = true := by
      rcases withdrawn_back moved open_ with already | ⟨_, operation, next, runs⟩
      · exact ih already
      · exact (blocked_of_withdrawing lawful runs).2
    rcases step_cached moved alive tenant with same | fresh
    · rw [same]
      exact earlier
    · rw [fresh]
      exact stored

/-- **Withdrawn targets are blocked in the document.** In every run, whatever fails or crashes,
from a withdrawal of a tenant's targets to the record of their restoration the stored entry
blocks registration, and no restoration is called. -/
theorem registration_blocked (reached : (machine true).Reachable s)
    (open_ : withdrawn (s.history tenant) = true) :
    (s.stored tenant).blocked = true ∧
      ∀ operation next,
        s.running tenant ≠ some (operation, .perform (.call .restoreTargets) next) := by
  have lawful := lawful_of_reaches reached tenant
  refine ⟨stored_blocked_of_withdrawn lawful open_, fun operation next runs => ?_⟩
  rw [not_withdrawn_of_restoring lawful runs] at open_
  cases open_

/-- A sleep is cut off by a crash after the withdrawal. -/
def crashedSleep : List Label :=
  boot ++ .acquire "red" (.sleep none false .callback) :: succeed "red" 12 ++ [.crash]

theorem crashedSleep_blocked :
    ∃ s, (machine true).run (machine true).start crashedSleep = some s ∧
      withdrawn (s.history "red") = true ∧ (s.stored "red").blocked = true :=
  ⟨_, rfl, rfl, (registration_blocked (Machine.reachable_of_run crashedSleep .start rfl) rfl).1⟩

end

end Nstance.TenantState
