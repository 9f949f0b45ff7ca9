import Nstance.TenantState.Refinement

/-!
# The handover between targets and wake path

`continueSleep` withdraws the targets only after the wake path is ready, and `restore`
removes the wake path only after the targets are back. So at every point of every run,
whatever fails or crashes, one of the two routes is open (`no_empty_route`).
-/

namespace Nstance.TenantState

open Interaction

/-! ## Routes in a history -/

/-- The routine that runs, with what happened since it was entered. -/
def invocation : History → Option (Routine × List Event)
  | [] => none
  | .entered routine :: _ => some (routine, [])
  | .acquired _ :: _ => none
  | .released :: _ => none
  | event :: before => (invocation before).map fun (routine, events) => (routine, event :: events)

/-- The wake path was installed, and no removal of it was called since. -/
def wakePathInstalled : History → Bool
  | [] => false
  | .called .installWakePath (.ok _) :: _ => true
  | .called .removeWakePath _ :: _ => false
  | _ :: before => wakePathInstalled before

/-- The installed wake path was found ready, and no removal of it was called
since. -/
def wakePathReady : History → Bool
  | [] => false
  | .called .waitWakePathReady (.ok _) :: before => wakePathInstalled before || wakePathReady before
  | .called .removeWakePath _ :: _ => false
  | _ :: before => wakePathReady before

/-- The targets were restored, and no withdrawal of them was called since. -/
def targetsRestored : History → Bool
  | [] => false
  | .called .restoreTargets (.ok _) :: _ => true
  | .called .beginTargetWithdrawal _ :: _ => false
  | _ :: before => targetsRestored before

/-- No withdrawal of the targets was ever called, or the restored targets were
found ready and none was called since. -/
def targetsReady : History → Bool
  | [] => true
  | .called .waitTargetsReady (.ok _) :: before => targetsRestored before || targetsReady before
  | .called .beginTargetWithdrawal _ :: _ => false
  | _ :: before => targetsReady before

/-- In the running invocation of the routine the calls were answered without an
error, and no withdrawal was called. -/
def Within (routine : Routine) (answered : List CutoverCall) (history : History) : Prop :=
  ∃ events, invocation history = some (routine, events) ∧
    (∀ call ∈ answered, .called call (.ok ()) ∈ events) ∧
    ∀ result, .called .beginTargetWithdrawal result ∉ events

/-- A withdrawal follows the two wake path calls in the same invocation of
`continueSleep`, and a removal of the wake path follows the two target calls in
the same invocation of `restore`, with no withdrawal among its calls. -/
def Ordered (before : History) : Event → Prop
  | .called .beginTargetWithdrawal _ =>
    Within .continueSleep [.installWakePath, .waitWakePathReady] before
  | .called .removeWakePath _ => Within .restore [.restoreTargets, .waitTargetsReady] before
  | _ => True

section

variable {routine : Routine} {answered : List CutoverCall} {history : History}

theorem Within.entered : Within routine [] (.entered routine :: history) :=
  ⟨[], rfl, fun _ member => absurd member List.not_mem_nil, fun _ => List.not_mem_nil⟩

section

variable (within : Within routine answered history)
include within

theorem Within.add {event : Event} {answered' : List CutoverCall}
    (inner : invocation (event :: history) =
      (invocation history).map fun (routine, events) => (routine, event :: events))
    (other : ∀ result, event ≠ .called .beginTargetWithdrawal result)
    (calls : ∀ call ∈ answered', event = .called call (.ok ()) ∨ call ∈ answered) :
    Within routine answered' (event :: history) := by
  obtain ⟨events, runs, called, none_called⟩ := within
  refine ⟨event :: events, by rw [inner, runs]; rfl, fun call member => ?_, fun result member => ?_⟩
  · rcases calls call member with rfl | earlier
    · exact List.mem_cons_self
    · exact List.mem_cons_of_mem _ (called call earlier)
  · rcases List.mem_cons.mp member with same | earlier
    · exact other result same.symm
    · exact none_called result earlier

theorem Within.removed (id : String) : Within routine answered (.removed id :: history) :=
  within.add rfl (by simp) fun _ => .inr

theorem Within.wrote (u : Update) : Within routine answered (.wrote u :: history) :=
  within.add rfl (by simp) fun _ => .inr

theorem Within.called (call : CutoverCall) (other : call ≠ .beginTargetWithdrawal) :
    Within routine (answered ++ [call]) (.called call (.ok ()) :: history) := by
  refine within.add rfl (by simp [other]) fun made member => ?_
  rcases List.mem_append.mp member with earlier | last
  · exact .inr earlier
  · exact .inl (by rw [List.mem_singleton.mp last])

end

end

/-! ## The invariant -/

/-- What an operation has called in its invocation, and the route it opened. -/
def Stage.Routed (history : History) : Stage → Prop
  | .sleeping _ .begun => Within .continueSleep [] history
  | .sleeping _ .installed =>
    wakePathInstalled history = true ∧ Within .continueSleep [.installWakePath] history
  | .sleeping _ .ready => wakePathReady history = true ∧
      Within .continueSleep [.installWakePath, .waitWakePathReady] history
  | .restoring .begun | .restoring .recorded => Within .restore [] history
  | .restoring .restored =>
    targetsRestored history = true ∧ Within .restore [.restoreTargets] history
  | .restoring .ready => targetsReady history = true ∧
      Within .restore [.restoreTargets, .waitTargetsReady] history
  | _ => True

/-- Requests of the tenant reach something. -/
def Routable (history : History) : Prop :=
  wakePathReady history = true ∨ targetsReady history = true

section

variable {before : History} {stage after : Stage} {event : Event} (routed : stage.Routed before)
include routed

theorem Ordered.step (move : Moves stage (entryOf before) event after) : Ordered before event := by
  cases move with
  | withdraw | removeWakePath => exact routed.2
  | _ => trivial

theorem Routable.step (routable : Routable before)
    (move : Moves stage (entryOf before) event after) : Routable (event :: before) := by
  cases move with
  -- The call that may close a route is made when the other one is open.
  | withdraw origin result unrecorded blocked => exact .inl routed.1
  | removeWakePath result => exact .inr routed.1
  | ready origin result | reready result =>
    cases result with
    | ok => exact routable.imp_left fun ready => by simp [wakePathReady, ready]
    | error error => exact routable
  | targetsReady result =>
    cases result with
    | ok => exact routable.imp_right fun ready => by simp [TenantState.targetsReady, ready]
    | error error => exact routable
  | _ => exact routable

theorem Stage.Routed.removed (id : String) : stage.Routed (.removed id :: before) := by
  cases stage with
  | sleeping origin point =>
    cases point with
    | begun => exact Within.removed routed id
    | installed | ready => exact ⟨routed.1, routed.2.removed id⟩
    | _ => trivial
  | restoring point =>
    cases point with
    | begun | recorded => exact Within.removed routed id
    | restored | ready => exact ⟨routed.1, routed.2.removed id⟩
    | _ => trivial
  | _ => trivial

theorem Stage.Routed.step
    (move : Moves stage (entryOf before) event after) : after.Routed (event :: before) := by
  cases move with
  | remove id => exact routed.removed id
  | continueRequested | continueResumed | rollBack | restoreWoken | restoreResumed =>
    exact Within.entered
  | install origin result =>
    cases result with
    | ok => exact ⟨rfl, Within.called routed .installWakePath (by simp)⟩
    | error error => trivial
  | ready origin result =>
    cases result with
    | ok =>
      exact ⟨by simp [wakePathReady, routed.1], routed.2.called .waitWakePathReady (by simp)⟩
    | error error => trivial
  | block origin unrecorded => exact ⟨routed.1, routed.2.wrote _⟩
  | beginRestore => exact Within.wrote routed _
  | restoreTargets result =>
    cases result with
    | ok => exact ⟨rfl, Within.called routed .restoreTargets (by simp)⟩
    | error error => trivial
  | targetsReady result =>
    cases result with
    | ok =>
      exact ⟨by simp [TenantState.targetsReady, routed.1],
        routed.2.called .waitTargetsReady (by simp)⟩
    | error error => trivial
  | withdraw origin result | check origin result | finish origin result =>
    cases result <;> trivial
  | removeWakePath result | reinstall result => cases result <;> trivial
  | _ => trivial

end

theorem routed_of_traces {history : History} {stage : Stage} (traces : Traces history stage) :
    stage.Routed history ∧ Always Ordered history ∧ Routable history := by
  induction traces with
  | nil => exact ⟨trivial, trivial, .inr rfl⟩
  | cons _ move _ ih =>
    obtain ⟨routed, ordered, routable⟩ := ih
    exact ⟨routed.step move, ⟨.step routed move, ordered⟩, routable.step routed move⟩

/-- **No empty route.** In every run, a withdrawal follows the successful
installation of a wake path that was found ready, in the same invocation of
`continueSleep`; a removal of the wake path follows the successful restoration
of targets that were found ready, in the same invocation of `restore`; and one
of the two routes is open. -/
theorem no_empty_route {s : State} (reached : (machine true).Reachable s) (tenant : Tenant) :
    Always Ordered (s.history tenant) ∧
      (wakePathReady (s.history tenant) = true ∨ targetsReady (s.history tenant) = true) := by
  obtain ⟨stage, traces⟩ := (lawful_of_reaches reached tenant).traces
  exact (routed_of_traces traces).2

/-- A sleep, and a wake after it. -/
def sleepThenWake : List Label :=
  boot ++ .acquire "red" (.sleep none true .callback) :: succeed "red" 17 ++
    .finish "red" :: .acquire "red" .wake :: succeed "red" 8

theorem sleepThenWake_routed :
    ∃ s, (machine true).run (machine true).start sleepThenWake = some s ∧
      Always Ordered (s.history "red") ∧
      (wakePathReady (s.history "red") = true ∨ targetsReady (s.history "red") = true) :=
  ⟨_, rfl, no_empty_route (Machine.reachable_of_run sleepThenWake .start rfl) "red"⟩

end Nstance.TenantState
