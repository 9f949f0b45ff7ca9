import Nstance.TenantState.Manager

/-!
# The operations on load balancer targets

`ReconcileLoadBalancers` and `DeleteInstance` of `instances.Manager`, and the two calls of
`ProviderCutover` that move the targets of a tenant, as programs. An error that the source
only logs ends the attempt it belongs to (`ignoring`), and a deferred unlock runs however
the body ends (`withLock`).
-/

namespace Nstance.Targets

open Interaction
open TenantState (Tenant Err)

abbrev InstanceID := String

abbrev ProviderID := String

/-- The configuration key of a load balancer. -/
abbrev LBKey := String

/-! ## Configuration and rows -/

/-- What is read of a load balancer. -/
structure LoadBalancer where
  /-- The provider of the load balancer is the tunnel. -/
  tunnel : Bool

/-- What is read of a group. -/
structure Group where
  size : Option Int
  loadBalancers : List LBKey

/-- The group is to have instances. -/
def Group.sized (group : Group) : Bool :=
  match group.size with
  | none => false
  | some size => 0 < size

/-- The current configuration; the groups of a tenant come in the order of
their names. -/
structure Config where
  loadBalancers : List (LBKey × LoadBalancer) := []
  groups : Tenant → List (String × Group) := fun _ => []

namespace Config

/-- Indexing the load balancers by a key that is not configured gives the zero
value, which is not a tunnel. -/
def isTunnel (config : Config) (lb : LBKey) : Bool :=
  ((config.loadBalancers.lookup lb).map LoadBalancer.tunnel).getD false

/-- Some group of positive size has a load balancer that is not a tunnel. -/
def hasProviderLoadBalancer (config : Config) (tenant : Tenant) : Bool :=
  (config.groups tenant).any fun (_, group) =>
    group.sized && group.loadBalancers.any fun lb => !config.isTunnel lb

end Config

/-- The status the provider reported for an instance, as far as it matters. -/
inductive ProviderStatus where
  | deleting
  | deleted
  | other
deriving DecidableEq

/-- A row of `instances`. -/
structure Instance where
  id : InstanceID
  tenant : Tenant
  group : String
  onDemand : Bool := false
  providerID : Option ProviderID := none
  providerState : Option ProviderStatus := none
  /-- `drain_started_at` is set. -/
  drainStarted : Bool := false
  /-- `deleted_at` is set. -/
  deleted : Bool := false
deriving DecidableEq

/-- The status of a recorded target. -/
inductive LBStatus where
  | pending
  | registered
  | deregistered
  | failed
deriving DecidableEq

/-- A row of the table of load balancer registrations. -/
structure LBInstance where
  lb : LBKey
  id : InstanceID
  status : LBStatus

/-- The provider-observed lifecycle of a target. -/
inductive TargetState where
  | registered
  | partially
  | healthy
  | draining
  | deregistered
deriving DecidableEq

/-- As errors say it. -/
def TargetState.text : TargetState → String
  | .registered => "registered"
  | .partially => "partial"
  | .healthy => "healthy"
  | .draining => "draining"
  | .deregistered => "deregistered"

/-- An instance target: a virtual machine behind a load balancer. -/
structure Target where
  lb : LBKey
  vm : ProviderID
deriving DecidableEq

/-! ## Actions -/

/-- What the manager calls. -/
inductive Action where
  /-- Take and give back `lbMu`. -/
  | lock
  | unlock
  | getInstance (id : InstanceID)
  | markDrainStarted (id : InstanceID)
  | deleteInstance (id : InstanceID)
  | getProviderIDsByGroup (tenant : Tenant) (group : String)
  | upsertLBInstance (lb : LBKey) (id : InstanceID) (status : LBStatus)
  | getPendingOrFailedLBInstances
  | getLBInstancesForInstance (id : InstanceID)
  | deleteLBInstancesForInstance (id : InstanceID)
  /-- The load balancers of the merged configuration of a group. -/
  | getGroup (tenant : Tenant) (group : String)
  /-- Reads of the tenant state manager. -/
  | targetRegistrationBlocked (tenant : Tenant)
  | tenantAsleep (tenant : Tenant)
  | getLBTargetState (target : Target)
  /-- Poll the state of a target until it is draining or deregistered. -/
  | waitNotAccepting (target : Target)
  | registerWithLB (tenant : Tenant) (target : Target)
  | deregisterFromLB (target : Target)
  /-- `DeleteInstance` of the provider. -/
  | deleteVM (id : InstanceID) (vm : ProviderID)

/-- What each of them answers. -/
def Reply : Action → Type
  | .lock => Unit
  | .unlock => Unit
  | .getInstance _ => Except Err Instance
  | .markDrainStarted _ => Except Err Unit
  | .deleteInstance _ => Except Err Unit
  | .getProviderIDsByGroup _ _ => Except Err (List ProviderID)
  | .upsertLBInstance _ _ _ => Except Err Unit
  | .getPendingOrFailedLBInstances => Except Err (List (LBKey × InstanceID))
  | .getLBInstancesForInstance _ => Except Err (List LBKey)
  | .deleteLBInstancesForInstance _ => Except Err Unit
  | .getGroup _ _ => Except Err (List LBKey)
  | .targetRegistrationBlocked _ => Bool
  | .tenantAsleep _ => Bool
  | .getLBTargetState _ => Except Err TargetState
  | .waitNotAccepting _ => Except Err Unit
  | .registerWithLB _ _ => Except Err Unit
  | .deregisterFromLB _ => Except Err Unit
  | .deleteVM _ _ => Except Err Unit

/-- Actions with their replies. -/
abbrev interface : Interface := ⟨Action, Reply⟩

/-- The programs of the manager. -/
abbrev Code := Program interface Err

/-- Perform an action whose reply may carry an error. -/
def call {α : Type} (action : Action) (result : Reply action → Except Err α) : Code α :=
  Program.perform (I := interface) action fun reply => .ofExcept (result reply)

/-- Take `lbMu`. -/
def lock : Code Unit := Program.act (I := interface) .lock

/-- Give `lbMu` back. -/
def unlock : Code Unit := Program.act (I := interface) .unlock

/-- The row of an instance. -/
def getInstance (id : InstanceID) : Code Instance := call (.getInstance id) fun reply => reply

/-- Mark the start of a drain. -/
def markDrainStarted (id : InstanceID) : Code Unit :=
  call (.markDrainStarted id) fun reply => reply

variable (tenant : Tenant)

/-- The virtual machines of a group. -/
def getProviderIDsByGroup (group : String) : Code (List ProviderID) :=
  call (.getProviderIDsByGroup tenant group) id

/-- Record a target with a status. -/
def upsertLBInstance (lb : LBKey) (id : InstanceID) (status : LBStatus) : Code Unit :=
  call (.upsertLBInstance lb id status) fun reply => reply

/-- The targets that are to be tried again. -/
def getPendingOrFailedLBInstances : Code (List (LBKey × InstanceID)) :=
  call .getPendingOrFailedLBInstances id

/-- The load balancers recorded for an instance. -/
def getLBInstancesForInstance (id : InstanceID) : Code (List LBKey) :=
  call (.getLBInstancesForInstance id) fun reply => reply

/-- Forget the targets of an instance. -/
def deleteLBInstancesForInstance (id : InstanceID) : Code Unit :=
  call (.deleteLBInstancesForInstance id) fun reply => reply

/-- The load balancers of a group. -/
def getGroup (group : String) : Code (List LBKey) :=
  call (.getGroup tenant group) id

/-- Whether a sleep forbids registrations. -/
def targetRegistrationBlocked : Code Bool :=
  Program.act (I := interface) (.targetRegistrationBlocked tenant)

/-- Whether the tenant is asleep. -/
def tenantAsleep : Code Bool :=
  Program.act (I := interface) (.tenantAsleep tenant)

/-- What the load balancer says of a target. -/
def getLBTargetState (target : Target) : Code TargetState :=
  call (.getLBTargetState target) id

/-- Wait until a target gets no new connections. -/
def waitNotAccepting (target : Target) : Code Unit :=
  call (.waitNotAccepting target) id

/-- Register a target. -/
def registerWithLB (target : Target) : Code Unit :=
  call (.registerWithLB tenant target) id

/-- Deregister a target. -/
def deregisterFromLB (target : Target) : Code Unit :=
  call (.deregisterFromLB target) id

/-- Delete a virtual machine. -/
def deleteVM (id : InstanceID) (vm : ProviderID) : Code Unit :=
  call (.deleteVM id vm) fun reply => reply

/-- `fmt.Errorf("context: %w", err)` around the error of a program. -/
def wrapping {α : Type} (context : String) (program : Code α) : Code α :=
  program.recover fun cause => .fail (.wrap context cause)

/-- Run a program whose error is only logged. -/
def ignoring (program : Code Unit) : Code Unit := program.recover fun _ => pure ()

/-- Run a program with `lbMu` held; the unlock is deferred. -/
def withLock (body : Code Unit) : Code Unit := do
  lock
  body.recover fun error => do
    unlock
    .fail error
  unlock

/-! ## Registration -/

variable (config : Config) (inst : Instance) (tenant : Tenant) (vm : ProviderID) (lb : LBKey)

/-- Advance one provider target towards healthy registration. -/
def reconcileLoadBalancerTarget : Code Unit :=
  match inst.providerID with
  | none => .fail (.message "instance has no provider ID")
  | some vm =>
    match config.loadBalancers.lookup lb with
    | none => .fail (.message ("load balancer " ++ lb ++ " is not configured"))
    | some balancer =>
      if balancer.tunnel then pure ()
      else do
        let found ← wrapping "checking target state" (getLBTargetState ⟨lb, vm⟩)
        if found ≠ .deregistered ∧ found ≠ .partially ∧ found ≠ .healthy then pure ()
        else do
          let state ← (if found = .healthy then pure found else do
            (registerWithLB inst.tenant ⟨lb, vm⟩).recover fun cause => do
              ignoring (upsertLBInstance lb inst.id .failed)
              .fail (.wrap "registering target" cause)
            wrapping "confirming target state" (getLBTargetState ⟨lb, vm⟩))
          if state ≠ .healthy then pure ()
          else
            wrapping "recording target registration"
              (upsertLBInstance lb inst.id .registered)

/-- Register an instance with the load balancers of its group. -/
def registerGroup (config : Config) (inst : Instance) : List LBKey → Code Unit
  | [] => pure ()
  | lb :: rest => do
      ignoring do
        upsertLBInstance lb inst.id .pending
        reconcileLoadBalancerTarget config inst lb
      registerGroup config inst rest

/-- The loop over the pending and failed registrations of all instances. -/
def retryPending (config : Config) : List (LBKey × InstanceID) → Code Unit
  | [] => pure ()
  | (lb, id) :: rest => do
      ignoring do
        let inst ← getInstance id
        if inst.providerID = none ∨ inst.drainStarted then pure ()
        else do
          let blocked ← targetRegistrationBlocked inst.tenant
          if blocked then pure () else reconcileLoadBalancerTarget config inst lb
      retryPending config rest

/-- The first part of `ReconcileLoadBalancers`, for the instance itself; the
reply says whether the second part is to run. -/
def reconcileOwn : Code Bool := do
  let blocked ← targetRegistrationBlocked inst.tenant
  if blocked then pure true
  else do
    let group ← (getGroup inst.tenant inst.group >>= fun lbs => pure (some lbs)).recover
      fun _ => pure none
    match group with
    | none => pure false
    | some lbs => do
        registerGroup config inst lbs
        pure true

/-- Register healthy instances without racing deletion. -/
def reconcileLoadBalancers (id : InstanceID) : Code Unit := withLock do
  let inst ← wrapping "getting instance" (getInstance id)
  if inst.drainStarted then pure ()
  else if config.loadBalancers.isEmpty then pure ()
  else do
    let goOn ← reconcileOwn config inst
    if goOn then do
      let pending ← wrapping "getting pending load balancer registrations"
        getPendingOrFailedLBInstances
      retryPending config pending
    else pure ()

/-! ## Deletion -/

/-- Ask the load balancer to drop a target that it still has; the reply is the
state of the target afterwards. -/
def dropTarget (found : TargetState) : Code TargetState :=
  if found = .deregistered then pure found
  else do
    (deregisterFromLB ⟨lb, vm⟩).recover fun cause => do
      ignoring (upsertLBInstance lb inst.id .failed)
      .fail (.wrap ("deregistering instance " ++ inst.id ++ " from load balancer " ++ lb) cause)
    wrapping ("confirming instance " ++ inst.id ++ " deregistration from load balancer " ++ lb)
      (getLBTargetState ⟨lb, vm⟩)

/-- Accept a target that is deregistered, or draining while its tenant sleeps. -/
def acceptDropped (state : TargetState) : Code Unit := do
  let excused ← (if state = .draining then tenantAsleep inst.tenant else pure false)
  if excused then pure ()
  else if state ≠ .deregistered then
    .fail (.message ("instance " ++ inst.id ++ " target is still " ++ state.text ++
      " in load balancer " ++ lb))
  else
    wrapping ("recording instance " ++ inst.id ++ " deregistration from load balancer " ++ lb)
      (upsertLBInstance lb inst.id .deregistered)

/-- Deregister from one load balancer. -/
def deregisterFrom : Code Unit :=
  match config.loadBalancers.lookup lb with
  | none => .fail (.message ("load balancer " ++ lb ++
      " is no longer configured; cannot safely deregister instance " ++ inst.id))
  | some balancer =>
    if balancer.tunnel then pure ()
    else do
      let found ← wrapping
        ("checking instance " ++ inst.id ++ " load balancer " ++ lb ++ " target state")
        (getLBTargetState ⟨lb, vm⟩)
      let state ← dropTarget inst vm lb found
      acceptDropped inst lb state

/-- The loop over the recorded load balancers of an instance. -/
def deregisterFromEach (config : Config) (inst : Instance) (vm : ProviderID) :
    List LBKey → Code Unit
  | [] => pure ()
  | lb :: rest => do
      deregisterFrom config inst vm lb
      deregisterFromEach config inst vm rest

/-- Remove an instance from all its registered load balancers. -/
def deregisterInstanceFromLB : Code Unit := do
  let lbs ← wrapping "getting LB instances" (getLBInstancesForInstance inst.id)
  deregisterFromEach config inst vm lbs

/-- The part of `DeleteInstance` under `lbMu`. -/
def deleteWithdrawn : Code Unit := do
  wrapping "failed to withdraw instance from load balancers"
    (deregisterInstanceFromLB config inst vm)
  (deleteVM inst.id vm).recover fun cause =>
    if cause.is .instanceNotFound then pure () else .fail (.wrap "failed to delete instance" cause)
  ignoring (deleteLBInstancesForInstance inst.id)
  ignoring (call (.deleteInstance inst.id) id)

/-- Drain, deregister, delete, and mark the row. -/
def deleteInstance (id : InstanceID) : Code Unit := do
  let inst ← wrapping "instance not found in local DB" (getInstance id)
  if inst.tenant ≠ tenant then .fail .instanceTenantMismatch
  else
    match inst.providerID with
    | none => .fail (.message "instance has no provider ID")
    | some vm =>
      if vm = "" then .fail (.message "instance has no provider ID")
      else do
        (if inst.drainStarted then pure ()
          else wrapping "marking instance deletion intent" (markDrainStarted id))
        withLock (deleteWithdrawn config inst vm)

/-! ## Cutover -/

/-- Add the targets of some virtual machines behind the load balancers of their
group, each target once. -/
def addTargets (lbs : List LBKey) (vms : List ProviderID) (targets : List Target) : List Target :=
  lbs.foldl (fun targets lb =>
    if config.isTunnel lb then targets
    else vms.foldl (fun targets vm =>
      if ⟨lb, vm⟩ ∈ targets then targets else targets ++ [⟨lb, vm⟩]) targets) targets

/-- The loop of `instanceTargets` over the groups of a tenant. -/
def groupTargets (config : Config) (tenant : Tenant) :
    List (String × Group) → List Target → Code (List Target)
  | [], targets => pure targets
  | (name, group) :: rest, targets =>
    if group.sized then do
      let vms ← wrapping ("list provider targets for group " ++ name)
        (getProviderIDsByGroup tenant name)
      groupTargets config tenant rest (addTargets config group.loadBalancers vms targets)
    else groupTargets config tenant rest targets

/-- The de-duplicated instance targets of a tenant. -/
def instanceTargets : Code (List Target) :=
  groupTargets config tenant (config.groups tenant) []

/-- Register under the lock. -/
def registerTarget (target : Target) : Code Unit :=
  withLock (registerWithLB tenant target)

/-- Deregister under the lock. -/
def deregisterTarget (target : Target) : Code Unit := withLock (deregisterFromLB target)

/-- A loop over targets that ends at the first error. -/
def eachTarget (run : Target → Code Unit) : List Target → Code Unit
  | [] => pure ()
  | target :: rest => do
      run target
      eachTarget run rest

/-- Withdraw all targets of a tenant. -/
def beginTargetWithdrawal : Code Unit := do
  let targets ← instanceTargets config tenant
  if config.hasProviderLoadBalancer tenant ∧ targets = [] then
    .fail (.message "refusing to withdraw instance targets without an observed target")
  else do
    eachTarget deregisterTarget targets
    eachTarget waitNotAccepting targets

/-- Register all currently available instance targets. -/
def restoreTargets : Code Unit := do
  let targets ← instanceTargets config tenant
  eachTarget (registerTarget tenant) targets

end Nstance.Targets
