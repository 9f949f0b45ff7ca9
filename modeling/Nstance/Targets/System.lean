import Nstance.TenantState.System
import Nstance.Targets.Knowledge

/-!
# The fleet as a machine

The tenant state manager, the local database, the lock `lbMu` and the tasks that work on
targets, step by step. A tenant's operation waits until the task it calls has ended, and
goes on with its result.

The log lists what the provider did and reported. A call to the provider may fail, or take
effect and be reported as failed. Rows appear as instances are created, and another server
may take over at any point, with any database of its own.
-/

namespace Nstance.Targets

open Interaction
open TenantState (Tenant Err)

/-- What is written down of a run. -/
inductive Happening where
  | registered (tenant : Tenant) (target : Target)
  | deregistered (target : Target)
  | reported (target : Target) (state : TargetState)
  /-- The manager's copy of the document was found to record the tenant asleep. -/
  | foundAsleep (tenant : Tenant)
  | destroyed (vm : ProviderID)
  /-- The provider was asked to delete a virtual machine it does not have. -/
  | missing (vm : ProviderID)
  /-- The provider reported an instance as deleting or deleted. -/
  | reportedDeleting (id : InstanceID)
deriving DecidableEq

/-- The virtual machine an entry of the log is about. -/
def Happening.vm : Happening → Option ProviderID
  | .registered _ target => some target.vm
  | .deregistered target => some target.vm
  | .reported target _ => some target.vm
  | .destroyed vm => some vm
  | .missing vm => some vm
  | _ => none

/-- A job of the reconciler, the collector or the API, or the cutover call of a
tenant. -/
inductive TaskID where
  | job (number : Nat)
  | cutover (tenant : Tenant)
deriving DecidableEq

/-- An operation under way, with what it has learnt. -/
structure Task where
  kind : Kind
  program : Code Unit
  notes : List Note := []

/-- The tenant state, the tables, the lock and the tasks. -/
structure State where
  manager : TenantState.State := {}
  instances : List Instance := []
  lbInstances : List LBInstance := []
  lbMu : Option TaskID := none
  tasks : TaskID → Option Task := fun _ => none
  log : List Happening := []

namespace State

/-! ## The local database -/

variable (s : State) (id : InstanceID)

/-- `GetInstance` does not find rows that are marked as deleted. -/
def find : Option Instance :=
  s.instances.find? fun row => row.id = id ∧ row.deleted = false

/-- Change one row. -/
def change (f : Instance → Instance) : State :=
  { s with instances := s.instances.map fun row => if row.id = id then f row else row }

/-- The condition of `GetProviderIDsByGroup`, without on-demand instances. -/
def active (tenant : Tenant) (group : String) (row : Instance) : Bool :=
  row.tenant = tenant && row.group = group && !row.deleted && !row.onDemand &&
    row.providerState ≠ some .deleting && row.providerState ≠ some .deleted

/-- The virtual machines of the active rows of a group. -/
def providerIDs (tenant : Tenant) (group : String) : List ProviderID :=
  (s.instances.filter (active tenant group)).filterMap Instance.providerID

/-- Insert or replace a recorded target. -/
def upsert (row : LBInstance) : State :=
  { s with lbInstances :=
      row :: s.lbInstances.filter fun other => other.lb ≠ row.lb || other.id ≠ row.id }

/-- The recorded targets that are not settled. -/
def pendingOrFailed : List (LBKey × InstanceID) :=
  (s.lbInstances.filter fun row => row.status = .pending || row.status = .failed).map
    fun row => (row.lb, row.id)

/-- The load balancers recorded for an instance. -/
def recordedFor : List LBKey :=
  (s.lbInstances.filter fun row => row.id = id).map LBInstance.lb

/-- The target is recorded. -/
def records (lb : LBKey) (id : InstanceID) : Bool :=
  s.lbInstances.any fun row => row.lb = lb && row.id = id

/-- Write something down. -/
def happen (happening : Happening) : State :=
  { s with log := happening :: s.log }

end State

/-! ## Actions -/

/-- How an action turns out. -/
inductive Outcome where
  | ok
  | fail (error : Err)
  /-- The provider did what it was asked for and reported an error. -/
  | lost (error : Err)
  | state (state : TargetState)
  /-- The load balancers of the merged configuration of a group. -/
  | group (lbs : List LBKey)

variable (s : State)

/-- What an action does, and what it answers. -/
def State.perform (task : TaskID) :
    (action : Action) → Outcome → Option (State × Reply action)
  | .lock, .ok => if s.lbMu = none then some ({ s with lbMu := some task }, ()) else none
  | .unlock, .ok => some ({ s with lbMu := none }, ())
  | .getInstance id, .ok => (s.find id).map fun row => (s, .ok row)
  | .getInstance _, .fail error => some (s, .error error)
  | .markDrainStarted id, .ok =>
    if (s.find id).isSome then
      some (s.change id fun row => { row with drainStarted := true }, .ok ())
    else none
  | .markDrainStarted _, .fail error => some (s, .error error)
  | .deleteInstance id, .ok =>
    if (s.find id).isSome then
      some (s.change id fun row => { row with deleted := true }, .ok ())
    else none
  | .deleteInstance _, .fail error => some (s, .error error)
  | .getProviderIDsByGroup tenant group, .ok => some (s, .ok (s.providerIDs tenant group))
  | .getProviderIDsByGroup _ _, .fail error => some (s, .error error)
  | .upsertLBInstance lb id status, .ok => some (s.upsert ⟨lb, id, status⟩, .ok ())
  | .upsertLBInstance _ _ _, .fail error => some (s, .error error)
  | .getPendingOrFailedLBInstances, .ok => some (s, .ok s.pendingOrFailed)
  | .getPendingOrFailedLBInstances, .fail error => some (s, .error error)
  | .getLBInstancesForInstance id, .ok => some (s, .ok (s.recordedFor id))
  | .getLBInstancesForInstance _, .fail error => some (s, .error error)
  | .deleteLBInstancesForInstance id, .ok =>
    some ({ s with lbInstances := s.lbInstances.filter fun row => row.id ≠ id }, .ok ())
  | .deleteLBInstancesForInstance _, .fail error => some (s, .error error)
  | .getGroup _ _, .group lbs => some (s, .ok lbs)
  | .getGroup _ _, .fail error => some (s, .error error)
  | .targetRegistrationBlocked tenant, .ok => some (s, (s.manager.cached tenant).blocked)
  | .tenantAsleep tenant, .ok =>
    if (s.manager.cached tenant).asleep then some (s.happen (.foundAsleep tenant), true)
    else some (s, false)
  | .getLBTargetState target, .state state => some (s.happen (.reported target state), .ok state)
  | .getLBTargetState _, .fail error => some (s, .error error)
  | .waitNotAccepting target, .state state =>
    if state = .draining ∨ state = .deregistered then
      some (s.happen (.reported target state), .ok ())
    else none
  | .waitNotAccepting _, .fail error => some (s, .error error)
  | .registerWithLB tenant target, .ok => some (s.happen (.registered tenant target), .ok ())
  | .registerWithLB _ _, .fail error => some (s, .error error)
  | .registerWithLB tenant target, .lost error =>
    some (s.happen (.registered tenant target), .error error)
  | .deregisterFromLB target, .ok => some (s.happen (.deregistered target), .ok ())
  | .deregisterFromLB _, .fail error => some (s, .error error)
  | .deregisterFromLB target, .lost error => some (s.happen (.deregistered target), .error error)
  | .deleteVM _ vm, .ok => some (s.happen (.destroyed vm), .ok ())
  | .deleteVM _ vm, .fail error =>
    some (if error.is .instanceNotFound then s.happen (.missing vm) else s, .error error)
  | .deleteVM _ vm, .lost error => some (s.happen (.destroyed vm), .error error)
  | _, _ => none

/-! ## Steps -/

/-- The target operation that the holder of a tenant's lock is calling. -/
def calling (manager : TenantState.State) (tenant : Tenant) : Option Kind :=
  match manager.running tenant with
  | some (_, .perform (.call .beginTargetWithdrawal) _) => some (.withdraw tenant)
  | some (_, .perform (.call .restoreTargets) _) => some (.restore tenant)
  | _ => none

/-- Steps of operations, of the manager and of others. -/
inductive Label where
  /-- A step of the tenant state manager other than a target operation. -/
  | manager (label : TenantState.Label)
  /-- A tenant's operation calls a target operation, and gets its result. -/
  | call (tenant : Tenant)
  | returned (tenant : Tenant)
  /-- A call of `ReconcileLoadBalancers` or `DeleteInstance` begins, and ends. -/
  | reconcile (number : Nat) (id : InstanceID)
  | delete (number : Nat) (tenant : Tenant) (id : InstanceID)
  | done (number : Nat)
  | perform (task : TaskID) (outcome : Outcome)
  /-- The row of a new instance is inserted before the provider is called. -/
  | insert (id : InstanceID) (tenant : Tenant) (group : String) (onDemand : Bool)
  | created (id : InstanceID) (vm : ProviderID)
  | report (id : InstanceID) (status : ProviderStatus)
  /-- The instance is marked for deletion. -/
  | drain (id : InstanceID)
  /-- Another server becomes the leader, with a database of its own. -/
  | takeover (instances : List Instance) (lbInstances : List LBInstance)

namespace State

/-- A step of the manager that is not a target operation. -/
def ownStep : TenantState.Label → Bool
  | .crash => false
  | .perform tenant _ => (calling s.manager tenant).isNone
  | _ => true

/-- A task moves on or ends. -/
def setTask (id : TaskID) (task : Option Task) : State :=
  { s with tasks := Function.update s.tasks id task }

/-- An operation begins. -/
def spawn (config : Config) (s : State) (id : TaskID) (kind : Kind) : State :=
  s.setTask id (some { kind := kind, program := kind.program config })

/-- No row has the provider ID, and nothing ever happened to it. -/
def isNew (vm : ProviderID) : Bool :=
  s.instances.all (fun row => row.providerID ≠ some vm) &&
    s.log.all fun happening => happening.vm ≠ some vm

/-- The entry the log gets when the status of an instance is recorded. -/
def reported (id : InstanceID) : ProviderStatus → State
  | .other => s
  | _ => s.happen (.reportedDeleting id)

/-- One step. -/
def step (config : Config) (s : State) : Label → Option State
  | .manager label =>
    if s.ownStep label then
      (s.manager.step true label).map fun manager => { s with manager := manager }
    else none
  | .call tenant =>
    match s.tasks (.cutover tenant), calling s.manager tenant with
    | none, some kind => some (s.spawn config (.cutover tenant) kind)
    | _, _ => none
  | .returned tenant =>
    match s.tasks (.cutover tenant) with
    | some ⟨_, .pure _, _⟩ => (s.manager.step true (.perform tenant .ok)).map fun manager =>
      { s with manager := manager }.setTask (.cutover tenant) none
    | some ⟨_, .fail error, _⟩ =>
      (s.manager.step true (.perform tenant (.fail error))).map fun manager =>
        { s with manager := manager }.setTask (.cutover tenant) none
    | _ => none
  | .reconcile number id =>
    if (s.tasks (.job number)).isNone then
      some (s.spawn config (.job number) (.reconcile id))
    else none
  | .delete number tenant id =>
    if (s.tasks (.job number)).isNone then
      some (s.spawn config (.job number) (.delete tenant id))
    else none
  | .done number =>
    match s.tasks (.job number) with
    | some ⟨_, .pure _, _⟩ => some (s.setTask (.job number) none)
    | some ⟨_, .fail _, _⟩ => some (s.setTask (.job number) none)
    | _ => none
  | .perform id outcome =>
    match s.tasks id with
    | some ⟨kind, .perform action next, notes⟩ =>
      (s.perform id action outcome).map fun (after, reply) =>
        after.setTask id (some ⟨kind, next reply, learn action reply notes⟩)
    | _ => none
  | .insert id tenant group onDemand =>
    if s.instances.all (fun row => row.id ≠ id) then
      some { s with instances :=
        { id := id, tenant := tenant, group := group, onDemand := onDemand } :: s.instances }
    else none
  | .created id vm =>
    if s.isNew vm ∧ s.instances.any (fun row => row.id = id && row.providerID = none) then
      some (s.change id fun row => { row with
        providerID := some vm, providerState := none, deleted := false })
    else none
  | .report id status =>
    if (s.find id).any (fun row => row.providerID.isSome) then
      some ((s.change id fun row => { row with providerState := some status }).reported id status)
    else none
  | .drain id =>
    if (s.find id).isSome then
      some (s.change id fun row => { row with drainStarted := true })
    else none
  | .takeover instances lbInstances =>
    if (instances.map Instance.id).Nodup then
      some { manager := s.manager.crash, instances := instances, lbInstances := lbInstances,
             log := s.log }
    else none

end State

/-- Runs under a configuration. -/
def fleet (config : Config) : Machine State Label where
  start := {}
  step := State.step config

end Nstance.Targets
