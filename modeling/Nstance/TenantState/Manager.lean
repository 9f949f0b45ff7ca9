import Nstance.Interaction.Program
import Nstance.TenantState.Document

/-!
# The operations of the tenant state manager

The methods of `tenantstate.Manager` as programs. A program runs for the one tenant whose
lock it holds. `Operation` lists the ways the lock is taken, and `Operation.program` is what
runs under it. `Action.enter` marks the start of `continueSleep` and of `restore` and does
nothing.
-/

namespace Nstance.TenantState

open Interaction

/-- The errors that are told apart. -/
inductive Err where
  /-- `ErrBusy`: fresh observations found active connections. -/
  | busy
  /-- `errSleepBlocked`: an on-demand instance prevents sleep. -/
  | sleepBlocked
  /-- `ErrInactive`: this server does not own the active leadership term. -/
  | inactive
  /-- `context.Canceled`. -/
  | canceled
  /-- `ErrInstanceNotFound` of the provider. -/
  | instanceNotFound
  /-- `ErrInstanceTenantMismatch`: the instance belongs to another tenant. -/
  | instanceTenantMismatch
  | message (text : String)
  | wrap (context : String) (cause : Err)
  | join (first second : Err)
  | nilDereference
deriving DecidableEq

/-- `errors.Is`: the error, or one it wraps or joins, is the given one. -/
def Err.is : Err → Err → Bool
  | .wrap context cause, target => (Err.wrap context cause = target) || cause.is target
  | .join first second, target =>
    (Err.join first second = target) || first.is target || second.is target
  | error, target => error = target

/-- The methods of the `Cutover` interface. -/
inductive CutoverCall where
  | installWakePath
  | waitWakePathReady
  | beginTargetWithdrawal
  | checkActivity (withdrawalAt : Time)
  | finishTargetWithdrawal
  | restoreTargets
  | waitTargetsReady
  | removeWakePath
deriving DecidableEq

/-- The two multi-step sequences of the manager. -/
inductive Routine where
  | continueSleep
  | restore

/-- What the operations call. -/
inductive Action where
  | update (update : Update)
  | transition
  /-- Read the cached sleep entry. -/
  | isAsleep
  | now
  | ctxErr
  | call (call : CutoverCall)
  | enter (routine : Routine)
  /-- A closure of the caller that does not touch the manager. -/
  | callback
  /-- The query in the closure `SleepTenant` passes as its check. -/
  | hasOnDemandInstances
  /-- The closure the operator's `CreateInstance` passes to `CreateOnDemand`. -/
  | createInstance

/-- The `check` argument of `Sleep`. -/
inductive Check where
  /-- No check, or a closure that does not touch the manager. -/
  | callback
  /-- The closure of `SleepTenant`. -/
  | onDemand
deriving DecidableEq

/-- The entry before and after a write. -/
structure Updated where
  before : Entry
  after : Entry

/-- What each of them answers. -/
def Reply : Action → Type
  | .update _ => Except Err Updated
  | .transition => TransitionProgress
  | .isAsleep => Bool
  | .now => Time
  | .ctxErr => Except Err Unit
  | .call _ => Except Err Unit
  | .enter _ => Unit
  | .callback => Except Err Unit
  | .hasOnDemandInstances => Except Err Bool
  | .createInstance => Except Err Unit

/-- Actions with their replies. -/
abbrev interface : Interface := ⟨Action, Reply⟩

/-- A program of the manager, run under the lock of one tenant. -/
abbrev Code := Program interface Err

namespace Manager

/-! ## Actions as programs -/

/-- Write to the document. -/
def update (u : Update) : Code Updated :=
  Program.perform (I := interface) (.update u) fun reply => .ofExcept reply

/-- The cached progress. -/
def transition : Code TransitionProgress := Program.act (I := interface) .transition

/-- The cached sleep entry. -/
def isAsleep : Code Bool := Program.act (I := interface) .isAsleep

/-- Read the clock. -/
def now : Code Time := Program.act (I := interface) .now

/-- Whether the context has ended. -/
def ctxErr : Code Unit := Program.perform (I := interface) .ctxErr fun reply => .ofExcept reply

/-- Call the provider's cutover. -/
def cutover (call : CutoverCall) : Code Unit :=
  Program.perform (I := interface) (.call call) fun reply => .ofExcept reply

/-- A routine begins. -/
def enter (routine : Routine) : Code Unit := Program.act (I := interface) (.enter routine)

/-- The check that the caller gave. -/
def callback : Code Unit := Program.perform (I := interface) .callback fun reply => .ofExcept reply

/-- Look for on-demand instances. -/
def hasOnDemandInstances : Code Bool :=
  Program.perform (I := interface) .hasOnDemandInstances fun reply => .ofExcept reply

/-- Create the instance of the call. -/
def createInstance : Code Unit :=
  Program.perform (I := interface) .createInstance fun reply => .ofExcept reply

/-- `fmt.Errorf("context: %w", err)` around the error of a program. -/
def wrapping {α : Type} (context : String) (program : Code α) : Code α :=
  program.recover fun cause => .fail (.wrap context cause)

/-! ## The routines -/

/-- The single durable rollback and wake restoration sequence. -/
def restore : Code Unit := do
  enter .restore
  let _ ← update .beginRestore
  wrapping "restore targets" (cutover .restoreTargets)
  wrapping "wait for restored targets" (cutover .waitTargetsReady)
  wrapping "remove wake path" (cutover .removeWakePath)
  let _ ← update .clear

/-- The error exit of `continueSleep`: restore, and report the error of the
restoration beside the first one. -/
def rollback (error : Err) : Code Unit := do
  restore.recover fun restoreError => .fail (.join error restoreError)
  .fail error

/-- The part of `continueSleep` that runs until a withdrawal is recorded. -/
def withdraw : Code Unit := do
  let _ ← update .blockTargetRegistration
  (cutover .beginTargetWithdrawal).recover rollback
  let withdrawalAt ← now
  (update (.markTransition withdrawalAt) >>= fun _ => pure ()).recover rollback

/-- The part of `continueSleep` that runs for a guarded transition. -/
def guard (withdrawalAt : Option Time) : Code Unit :=
  match withdrawalAt with
  | none => .fail (.message "guarded transition has no withdrawal timestamp")
  | some withdrawalAt => do
      (cutover (.checkActivity withdrawalAt)).recover rollback
      (cutover .finishTargetWithdrawal).recover rollback

/-- Resume the ordered sleep cutover from durable facts. -/
def continueSleep : Code Unit := do
  enter .continueSleep
  cutover .installWakePath
  cutover .waitWakePathReady
  let recorded ← transition
  (if recorded.withdrawalAt = none then withdraw else pure ())
  let progress ← transition
  (if progress.guarded then guard progress.withdrawalAt else pure ())

variable (configured : Bool)

/-- Remove the durable sleep entry; the reply says whether the tenant was
already awake. -/
def wake : Code Bool :=
  if configured then do
    let updated ← update .wake
    if updated.before.value.sleep = none ∧ updated.before.value.transition = none then pure true
    else do
      restore
      pure false
  else do
    let updated ← update .removeSleep
    pure !updated.before.asleep

/-! ## The operations -/

/-- Run the check of `Sleep`. -/
def runCheck : Check → Code Unit
  | .callback => callback
  | .onDemand => do
      let found ← hasOnDemandInstances
      if found then .fail .sleepBlocked else pure ()

/-- The body of `runForTenant` once the tenant's lock is taken. -/
def runForTenant {α : Type} (run : Code α) : Code α := do
  ctxErr
  let _ ← update .reread
  let result ← run
  ctxErr
  pure result

/-- The part of `Sleep` under the tenant's lock: whether the tenant was asleep,
and the entry the last update left. -/
def sleepBody (wakeAt : Option Time) (guarded : Bool) (check : Check) : Code (Bool × Entry) := do
  runCheck check
  if configured then do
    let requested ← update (.requestSleep wakeAt guarded)
    if requested.before.asleep then pure (true, requested.after)
    else do
      continueSleep
      let committed ← update (.commitSleep wakeAt)
      pure (false, committed.after)
  else do
    let updated ← update (.setSleep wakeAt)
    pure (updated.before.asleep, updated.after)

/-- Add or update a tenant's sleep entry. -/
def sleep (wakeAt : Option Time) (guarded : Bool) (check : Check) : Code (Bool × Option Time) := do
  let (alreadyAsleep, entry) ← runForTenant (sleepBody configured wakeAt guarded check)
  match entry.value.sleep with
  | none => .fail .nilDereference
  | some sleep => pure (alreadyAsleep, sleep.wakeAt)

/-- Continue one tenant's interrupted sleep or wake operation. -/
def resumeTenant : Code Unit := runForTenant do
  let progress ← transition
  if progress.restoring then restore
  else do
    let asleep ← isAsleep
    if asleep then do
      cutover .installWakePath
      cutover .waitWakePathReady
    else do
      continueSleep
      let _ ← update .commitResumed

end Manager

/-- The ways a tenant's lock is taken. -/
inductive Operation where
  | sleep (wakeAt : Option Time) (guarded : Bool) (check : Check)
  | wake
  | wakeAndWait
  | createOnDemand
  /-- The `Wake` of a timer that `wakeIfDue` found due. -/
  | timer (expected : Time)
  | resume
deriving DecidableEq

/-- What an operation runs under the tenant's lock. -/
def Operation.program (configured : Bool) : Operation → Code Unit
  | .sleep wakeAt guarded check => do
      let _ ← Manager.sleep configured wakeAt guarded check
  | .wake => Manager.runForTenant do
      let _ ← Manager.wake configured
  | .wakeAndWait => Manager.runForTenant do
      let _ ← Manager.wake configured
      Manager.callback
  | .createOnDemand => Manager.runForTenant do
      let _ ← Manager.wake configured
      Manager.createInstance
  | .timer _ => Manager.runForTenant do
      let _ ← Manager.wake configured
  | .resume => Manager.resumeTenant

end Nstance.TenantState
