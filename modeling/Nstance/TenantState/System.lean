import Nstance.Interaction.Trace
import Nstance.TenantState.Manager

/-!
# The manager as a machine

The state holds the persisted document, the cached copy of the active manager, the operations
that hold a tenant's lock, and the resume goroutines and due timers that wait for one. Every
tenant has a history of what was done to it.

The label of a step decides how it turns out: a call may fail at any point, a write may fail,
or be applied and reported as failed, and a crash may fall between any two steps. After a
crash or `Stop` only `Start` goes on, and it refreshes the cache before it resumes
interrupted cutovers.
-/

namespace Nstance.TenantState

open Interaction

/-- What is recorded of a tenant. -/
inductive Event where
  | acquired (operation : Operation)
  /-- An update of the tenant's entry was written to the document. -/
  | wrote (update : Update)
  | called (call : CutoverCall) (result : Except Err Unit)
  | entered (routine : Routine)
  /-- The on-demand check of `SleepTenant` was answered. -/
  | found (onDemand : Bool)
  | inserted (id : String)
  | removed (id : String)
  /-- The lock was given back, by a return or by a crash. -/
  | released

/-- The history of a tenant, the latest event first. -/
abbrev History := List Event

/-- How far `Start` has come; an operation may begin unless stopped. -/
inductive Phase where
  | stopped
  | starting
  | refreshed
  | started
deriving DecidableEq

/-- The document, its copy, and the operations under way. -/
structure State where
  stored : StateDocument := fun _ => none
  cached : StateDocument := fun _ => none
  phase : Phase := .stopped
  /-- The operation that holds a tenant's lock and what it has left to do. -/
  running : Tenant → Option (Operation × Code Unit) := fun _ => none
  inflight : Nat := 0
  resuming : Tenant → Bool := fun _ => false
  timers : Tenant → Option Time := fun _ => none
  /-- Timers that passed the deadline check and wait for the tenant's lock. -/
  due : Tenant → List Time := fun _ => []
  now : Time := 0
  onDemand : Tenant → List String := fun _ => []
  history : Tenant → History := fun _ => []

namespace State

/-- Record an event. -/
def record (s : State) (tenant : Tenant) (event : Event) : State :=
  { s with history := Function.update s.history tenant (event :: s.history tenant) }

/-- An update is written. -/
def write (s : State) (tenant : Tenant) (update : Update) (after : Entry) : State :=
  { s with stored := Function.update s.stored tenant after }.record tenant (.wrote update)

/-- Replace the cached document by the one just read and rebuild its timers. -/
def install (s : State) : State :=
  { s with
    cached := s.stored
    timers := fun tenant => if s.phase = .stopped then none else (s.stored tenant).deadline }

end State

/-- How an action turns out. -/
inductive Outcome where
  | ok
  | fail (error : Err)
  /-- A write was applied but reported as failed. -/
  | lost (error : Err)
  /-- An instance creation inserted its row and then returned the result. -/
  | insert (id : String) (result : Except Err Unit)

/-- What an action does, and what it answers. -/
def State.perform (s : State) (tenant : Tenant) :
    (action : Action) → Outcome → Option (State × Reply action)
  | .update u, .ok =>
    match u.mutate (s.stored tenant) with
    | .unchanged => some (s.install, .ok ⟨s.stored tenant, s.stored tenant⟩)
    | .write after => some ((s.write tenant u after).install, .ok ⟨s.stored tenant, after⟩)
    | .panic => some (s, .error .nilDereference)
  | .update _, .fail error => some (s, .error error)
  | .update u, .lost error =>
    match u.mutate (s.stored tenant) with
    | .write after => some (s.write tenant u after, .error error)
    | _ => none
  | .transition, .ok => some (s, (s.cached tenant).progress)
  | .isAsleep, .ok => some (s, (s.cached tenant).asleep)
  | .now, .ok => some (s, s.now)
  | .ctxErr, .ok => some (s, .ok ())
  | .ctxErr, .fail error => some (s, .error error)
  | .call call, .ok => some (s.record tenant (.called call (.ok ())), .ok ())
  | .call call, .fail error => some (s.record tenant (.called call (.error error)), .error error)
  | .enter routine, .ok => some (s.record tenant (.entered routine), ())
  | .callback, .ok => some (s, .ok ())
  | .callback, .fail error => some (s, .error error)
  | .hasOnDemandInstances, .ok =>
    let found := !(s.onDemand tenant).isEmpty
    some (s.record tenant (.found found), .ok found)
  | .hasOnDemandInstances, .fail error => some (s, .error error)
  | .createInstance, .insert id result =>
    some ({ s with
      onDemand := Function.update s.onDemand tenant (id :: s.onDemand tenant) }.record
        tenant (.inserted id), result)
  | .createInstance, .fail error => some (s, .error error)
  | _, _ => none

/-- The steps of terms, of operations and of others. -/
inductive Label where
  /-- `Start` begins a term once the old one has no work in flight. -/
  | start
  /-- The `Refresh` of `Start` succeeds or fails. -/
  | refresh
  | refreshFailed
  | resumeTransitions
  | stop
  | crash
  | acquire (tenant : Tenant) (operation : Operation)
  | perform (tenant : Tenant) (outcome : Outcome)
  | finish (tenant : Tenant)
  /-- A timer goes off and `wakeIfDue` checks its deadline. -/
  | fire (tenant : Tenant)
  | tick (elapsed : Nat)
  | remove (tenant : Tenant) (id : String)

namespace State

variable (s : State) (tenant : Tenant)

/-- End the term: no timer, resume goroutine or waiting operation survives it. -/
def halt : State :=
  { s with
    phase := .stopped, resuming := fun _ => false, timers := fun _ => none, due := fun _ => [] }

/-- Lose the process. -/
def crash : State :=
  { s.halt with
    cached := fun _ => none
    running := fun _ => none
    inflight := 0
    history := fun tenant =>
      if (s.running tenant).isSome then .released :: s.history tenant else s.history tenant }

/-- An operation gives the lock back. -/
def release : State :=
  { s with running := Function.update s.running tenant none, inflight := s.inflight - 1 }.record
    tenant .released

/-- An operation may ask for the lock: a timer that was found due, a resume
goroutine of the term, or any request. -/
def asks : Operation → Bool
  | .timer expected => (s.due tenant).contains expected
  | .resume => s.resuming tenant
  | _ => true

/-- The deadline check of `wakeIfDue`, on the cached entry. -/
def isDue (expected : Time) : Bool :=
  (s.cached tenant).asleep && (s.cached tenant).deadline = some expected && expected ≤ s.now

/-- An operation takes the lock. -/
def acquire (configured : Bool) (s : State) (tenant : Tenant) (operation : Operation) : State :=
  { s with
    running := Function.update s.running tenant (some (operation, operation.program configured))
    inflight := s.inflight + 1
    due := match operation with
      | .timer expected => Function.update s.due tenant ((s.due tenant).erase expected)
      | _ => s.due }.record tenant (.acquired operation)

/-- What the goroutine of an operation does after it gave the lock back: a
resumed tenant is done, and a failed timer is armed again. -/
def afterwards : Operation → Except Err Unit → State
  | .resume, .ok _ => { s with resuming := Function.update s.resuming tenant false }
  | .timer expected, .error _ =>
    if s.phase = .stopped then s
    else { s with timers := Function.update s.timers tenant (some expected) }
  | _, _ => s

/-- One step. -/
def step (configured : Bool) (s : State) : Label → Option State
  | .start =>
    if s.phase = .stopped ∧ s.inflight = 0 then some { s with phase := .starting } else none
  | .refresh => if s.phase = .starting then some { s with phase := .refreshed }.install else none
  | .refreshFailed => if s.phase = .starting then some s.halt else none
  | .resumeTransitions =>
    if s.phase = .refreshed then
      some { s with
        phase := .started
        resuming := fun tenant => configured &&
          ((s.cached tenant).value.transition.isSome || (s.cached tenant).asleep) }
    else none
  | .stop => if s.phase = .started then some s.halt else none
  | .crash => some s.crash
  | .acquire tenant operation =>
    if s.phase ≠ .stopped ∧ (s.running tenant).isNone ∧ s.asks tenant operation then
      some (s.acquire configured tenant operation)
    else none
  | .perform tenant outcome =>
    match s.running tenant with
    | some (operation, .perform action next) =>
      match s.perform tenant action outcome with
      | some (after, reply) => some { after with
          running := Function.update after.running tenant (some (operation, next reply)) }
      | none => none
    | _ => none
  | .finish tenant =>
    match s.running tenant with
    | some (operation, .pure _) => some ((s.release tenant).afterwards tenant operation (.ok ()))
    | some (operation, .fail error) =>
      some ((s.release tenant).afterwards tenant operation (.error error))
    | _ => none
  | .fire tenant =>
    match s.timers tenant with
    | some expected =>
      let fired := { s with timers := Function.update s.timers tenant none }
      if s.isDue tenant expected then
        some { fired with due := Function.update s.due tenant (expected :: s.due tenant) }
      else some fired
    | none => none
  | .tick elapsed => some { s with now := s.now + elapsed }
  | .remove tenant id =>
    if (s.onDemand tenant).contains id then
      some ({ s with onDemand :=
        Function.update s.onDemand tenant ((s.onDemand tenant).erase id) }.record
          tenant (.removed id))
    else none

end State

/-- The manager over an empty document, with or without a cutover. -/
def machine (configured : Bool) : Machine State Label where
  start := {}
  step := State.step configured

/-! ## Runs in full -/

/-- The start of a term. -/
def boot : List Label := [.start, .refresh, .resumeTransitions]

/-- The holder of the lock takes some steps, all with success. -/
def succeed (tenant : Tenant) (steps : Nat) : List Label :=
  List.replicate steps (.perform tenant .ok)

end Nstance.TenantState
