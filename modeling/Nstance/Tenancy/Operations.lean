import Nstance.Tenancy.Server

/-!
# Operator calls and reconciliation

The calls of the operator service that change something, the instance manager below them, and
the event handlers that they set off, as programs. The tenant state manager and the NAT
manager are the programs of their own models, carried out on the server. A call is
authenticated: its tenant is the one of the client's certificate.
-/

namespace Nstance.Tenancy

open Interaction Objects
open Nstance.Configuration (GroupConfig validateIdentifier quoted)
open Nstance.Instances (InstanceID Tenant GroupKey ProviderID Time Duration Row InstanceRecord
  Claims Setting ProviderResponse numericDate)
open TenantState (Err)

variable {T J F : Type}

/-! ## Actions as programs -/

/-- An action whose reply is a value. -/
def act (action : Action T J F) : Code T J F (Reply action) :=
  Program.act (I := interface T J F) action

/-- Perform an action whose reply may carry an error. -/
def call {α : Type} (action : Action T J F) (result : Reply action → Except Err α) : Code T J F α :=
  Program.perform (I := interface T J F) action fun reply => .ofExcept (result reply)

/-- `fmt.Errorf("context: %w", err)` around the error of a program. -/
def wrapping {α : Type} (context : String) (program : Code T J F α) : Code T J F α :=
  program.recover fun cause => .fail (.wrap context cause)

/-- The configuration. -/
def getCurrent : Code T J F (Config F) := act .getCurrent

/-- The effective group. -/
def getGroup (tenant : Tenant) (key : GroupKey) :
    Code T J F (Except Err (GroupConfig Unit)) := act (.getGroup tenant key)

/-- Whether the tenant is asleep. -/
def isAsleep (tenant : Tenant) : Code T J F Bool := act (.isAsleep tenant)

/-- A live row. -/
def getInstance (id : InstanceID) : Code T J F (Except Err (Row T)) :=
  act (.getInstance id)

/-- The active instances of a group. -/
def getGroupInstances (tenant : Tenant) (key : GroupKey) :
    Code T J F (Except Err (List InstanceID)) := act (.getInstancesByGroup tenant key)

/-- Read the clock. -/
def now : Code T J F Time := act .now

/-- Whether this server leads. -/
def isLeader : Code T J F Bool := act .isLeader

/-- Queue an event. -/
def enqueue (event : Event) : Code T J F Unit := act (.enqueue event)

/-! ## The instance manager -/

/-- What is asked for; an empty field is not set. -/
structure CreateInstanceRequest where
  instanceID : InstanceID := ""
  tenant : Tenant
  group : GroupKey
  template : String := ""
  instanceType : String := ""
  subnetPool : String := ""
  vars : Dict String String := .empty
  onDemand : Bool := false

/-- What a creation returns. -/
structure CreateInstanceResponse (T : Type) where
  instanceID : InstanceID
  group : GroupKey
  provider : ProviderResponse
  registrationJWT : T

/-- A text, or the default if it is empty. -/
def override (text default : String) : String := if text ≠ "" then text else default

/-- The group configuration of a single instance, with the overrides of the request. -/
def CreateInstanceRequest.finalGroup (request : CreateInstanceRequest)
    (group : GroupConfig Unit) (template : String) : GroupConfig Unit where
  template := template
  size := some 1
  instanceType := override request.instanceType group.instanceType
  subnetPool := override request.subnetPool group.subnetPool
  vars := group.vars.assign request.vars.entries
  args := some ()

section

variable (D : Setting T)

/-- What the nonce of a new instance says. -/
def claims (request : CreateInstanceRequest) (id : InstanceID) (now : Time) (expiry : Duration) :
    Claims where
  subject := id
  kind := "agent"
  clusterID := D.clusterID
  shard := D.shard
  group := request.group
  onDemand := request.onDemand
  tenant := request.tenant
  notBefore := numericDate now
  issuedAt := numericDate now
  expiresAt := numericDate (now + expiry)

/-- The part of `createInstance` from the first write on: the row is inserted and the
record is stored before the provider is called, and both are completed after. -/
def provision (record : InstanceRecord T) : Code T J F (CreateInstanceResponse T) := do
  wrapping "failed to pre-insert instance record"
    (call (.createInstance record.instanceID record.preInserted) id)
  wrapping "failed to store pending instance record"
    (call (.storeInstanceRecord record) fun reply => reply)
  let response ← wrapping "failed to create instance"
    (call (.createVM record) fun reply => reply)
  if response.providerInstanceID = "" then
    .fail (.message ("provider returned empty instance ID for " ++ record.instanceID))
  else do
    let launchedAt ← now
    let launched := record.launched launchedAt response
    -- an instance without a complete record goes on: its provider ID is filled in later
    let _ ← act (.storeInstanceRecord launched)
    let providerAt ← now
    wrapping "failed to update instance in local DB"
      (call (.updateInstance record.instanceID (launched.updated providerAt)) fun reply => reply)
    pure ⟨record.instanceID, record.group, response, record.registrationJWT⟩

variable (prepareSubnet : Tenant → String → Code T J F Unit)

/-- The subnet of an instance, prepared by the NAT manager. Another subnet of the pool is
tried if the first has no capacity for its dependencies. -/
def placement (tenant : Tenant) (pool : String) : Code T J F String := do
  let subnetID ← wrapping "failed to select subnet"
    (call (.selectSubnetWithCapacity tenant pool false) id)
  let prepared ← (prepareSubnet tenant subnetID).tried
  match prepared with
  | .ok () => pure subnetID
  | .error error =>
    let refused : Err := .wrap ("prepare subnet " ++ subnetID) error
    if error.is subnetDependencyCapacity then do
      let fallback ← (call (.selectSubnetWithCapacity tenant pool true)
        fun reply => reply).recover fun _ => .fail refused
      if fallback = subnetID then .fail refused
      else do
        wrapping ("prepare fallback subnet " ++ fallback) (prepareSubnet tenant fallback)
        pure fallback
    else .fail refused

/-- `createInstance`, with what prepares its subnet. -/
def createPlaced (request : CreateInstanceRequest) : Code T J F (CreateInstanceResponse T) :=
  if request.group = "" then .fail (.message "group is required for on-demand instances")
  else if request.tenant = "" then .fail (.message "tenant is required")
  else do
    let currentConfig ← getCurrent
    let found ← getGroup request.tenant request.group
    match found with
    | .error _ => .fail (.message ("group not found: " ++ request.group))
    | .ok group =>
      let templateName := override request.template group.template
      match currentConfig.templates.get templateName with
      | none => .fail (.message ("template not found: " ++ templateName))
      | some template => do
          let id ← (if request.instanceID ≠ "" then pure request.instanceID
            else wrapping "failed to generate instance ID"
              (call (.newID template.kind) fun reply => reply))
          let merged ← wrapping "failed to merge instance configuration"
            (call (.getMergedConfig templateName (request.finalGroup group templateName))
              fun reply => reply)
          let signedAt ← now
          let registrationJWT ← wrapping "failed to generate registration nonce"
            (call (.sign (claims D request id signedAt currentConfig.registrationTimeout))
              fun reply => reply)
          wrapping "failed to process userdata template"
            (call (.processTemplate id) fun reply => reply)
          wrapping "failed to process args" (call (.processTemplate id) fun reply => reply)
          let pool := override request.subnetPool merged.subnetPool
          if pool = "" then .fail (.message "no subnet pool specified for instance")
          else do
            let subnetID ← placement prepareSubnet request.tenant pool
            let createdAt ← now
            provision
              { instanceID := id
                tenant := request.tenant
                group := request.group
                onDemand := request.onDemand
                subnetID
                instanceType := merged.instanceType
                createdAt
                lastUpdated := createdAt
                registrationJWT
                infraConfigHash := merged.infraConfigHash }

end

/-- Withdraw, delete, and mark record and row. -/
def deleteInstance (tenant : Tenant) (id : InstanceID) : Code T J F Unit := do
  let inst ← wrapping "instance not found in local DB"
    (call (.getInstance id) fun reply => reply)
  if inst.tenant ≠ tenant then .fail .instanceTenantMismatch
  else
    match inst.providerID.filter (· ≠ "") with
    | none => .fail (.message "instance has no provider ID")
    | some vm => do
        (if inst.drainStartedAt.isSome then pure ()
          else wrapping "marking instance deletion intent"
            (call (.markDrainStarted id) fun reply => reply))
        wrapping "failed to withdraw instance from load balancers"
          (call (.deregisterInstanceFromLB id) fun reply => reply)
        (call (.deleteVM id vm) fun reply => reply).recover fun cause =>
          if cause.is .instanceNotFound then pure ()
          else .fail (.wrap "failed to delete instance" cause)
        let _ ← act (.deleteLBInstancesForInstance id)
        (do
          let record ← call (.getInstanceRecord inst.tenant id) fun reply => reply
          let updatedAt ← now
          call (.storeInstanceRecord { record with status := "deleting", lastUpdated := updatedAt })
            fun reply => reply).recover fun _ => pure ()
        let _ ← act (.deleteInstance id)

/-- The row is the tenant's. -/
def validateInstanceTenant (tenant : Tenant) (id : InstanceID) : Code T J F Unit := do
  let inst ← wrapping "instance not found in local DB"
    (call (.getInstance id) fun reply => reply)
  if inst.tenant ≠ tenant then .fail .instanceTenantMismatch else pure ()

/-- The provider's status of a tenant's instance. -/
def getInstanceStatus (tenant : Tenant) (id : InstanceID) : Code T J F String := do
  let inst ← wrapping "instance not found in local DB"
    (call (.getInstance id) fun reply => reply)
  if inst.tenant ≠ tenant then .fail .instanceTenantMismatch
  else
    match inst.providerID.filter (· ≠ "") with
    | none => .fail (.message "instance has no provider ID yet")
    | some vm =>
      wrapping "failed to get instance status from provider"
        (call (.getInstanceStatus id vm) fun reply => reply)

/-! ## The NAT manager -/

/-- An error of the NAT manager, as one here. -/
def ofNATError : NAT.Err → Err
  | .publicAddressesExhausted => .message "public addresses exhausted"
  | .notReady => .message "managed NAT is not ready"
  | .subnetDependencyCapacity => subnetDependencyCapacity
  | .noRows => noRows
  | .message text => .message text
  | .wrap context cause => .wrap context (ofNATError cause)
  | .join first second => .join (ofNATError first) (ofNATError second)

/-- The errors of the instance manager, of which the NAT manager only recognises that a
row is missing. -/
def toNATError : Err → NAT.Err
  | .message text => if .message text = noRows then .noRows else .message text
  | .wrap context cause => .wrap context (toNATError cause)
  | .join first second => .join (toNATError first) (toNATError second)
  | .instanceNotFound => .message "instance not found"
  | .instanceTenantMismatch => .message "instance belongs to another tenant"
  | .busy => .message "tenant has active connections"
  | .sleepBlocked => .message "on-demand instance prevents sleep"
  | .inactive => .message "tenant state is inactive"
  | .canceled => .message "context canceled"
  | .nilDereference => .message "nil pointer dereference"

/-- An answer, as the NAT manager sees it. -/
def natResult {α : Type} : Except Err α → Except NAT.Err α
  | .ok value => .ok value
  | .error error => .error (toNATError error)

/-- A row, as the NAT manager sees it. -/
def natInstance (id : InstanceID) (row : Row T) : NAT.Instance where
  id := id
  tenant := row.tenant
  subnetID := row.subnetID
  providerID := row.providerID
  status := row.providerState
  registeredAt := row.registeredAt
  healthAt := row.healthAt

section

variable (D : Setting T)

/-- Create an instance of a tenant's NAT group, in a subnet that needs no preparation. -/
def createNATInstance (request : NAT.CreateInstanceRequest) : Code T J F Unit := do
  let current ← getCurrent
  match (current.nat request.tenant).filter fun group => group ≠ "" ∧ request.group = group with
  | none =>
    .fail (.message ("group " ++ quoted request.group ++ " is not the tenant NAT group"))
  | some _ => do
      let _ ← createPlaced D (fun _ _ => pure ())
        { instanceID := request.instanceID
          tenant := request.tenant
          group := request.group
          instanceType := request.instanceType }

/-- The actions of the NAT manager as programs. -/
def onNAT : (action : NAT.Action) → Code T J F (NAT.Reply action)
  | .getInstance id => do
      let found ← getInstance id
      pure (natResult (found.map (natInstance id)))
  | .createNATInstance request => do
      let result ← (createNATInstance D request).tried
      pure (natResult result)
  | .deleteInstance tenant id => do
      let result ← (deleteInstance tenant id).tried
      pure (natResult result)
  | .tenantAsleep tenant => isAsleep tenant
  | .now => now
  | action => act (.nat action)

/-- Ensure a healthy NAT instance before a dependent instance is created. -/
def prepareSubnet (tenant : Tenant) (subnetID : String) : Code T J F Unit :=
  (NAT.Manager.prepareSubnet tenant subnetID).interpret (onNAT D) ofNATError

/-- Replace an instance of the NAT manager. -/
def natReplacementHandler (id : InstanceID) : Code T J F Unit :=
  (NAT.Manager.replaceInstance id).interpret (onNAT D) ofNATError

/-- `CreateInstance` of the instance manager. -/
def createInstance (request : CreateInstanceRequest) : Code T J F (CreateInstanceResponse T) :=
  createPlaced D (prepareSubnet D) request

end

/-! ## The tenant state manager -/

/-- Whether an update changes the durable sleep state, so that the change is announced to
the reconciler. `Sleep` announces it when it has given back the lock of the tenant. -/
def announces (update : TenantState.Update) (before : TenantState.Entry) : Bool :=
  update.mutate before ≠ .unchanged &&
    match update with
    | .setSleep _ | .commitSleep _ | .commitResumed | .removeSleep | .wake | .clear => true
    | .requestSleep _ _ => before.asleep
    | .reread | .beginRestore | .blockTargetRegistration | .markTransition _ => false

/-- `notifyChanged`, after an update that changed something. -/
def notifyChanged (tenant : Tenant) (update : TenantState.Update) :
    Except Err TenantState.Updated → Code T J F Unit
  | .ok updated =>
    if announces update updated.before then enqueue { type := .tenantChanged tenant }
    else pure ()
  | .error _ => pure ()

/-- An action of the tenant state manager, carried out on the server. The closure that
creates an instance is a program of its own. -/
def onTenant (tenant : Tenant) (create : Code T J F Unit) :
    (action : TenantState.Action) → Code T J F (TenantState.Reply action)
  | .update update => do
      let reply ← act (.tenantState tenant (.update update))
      notifyChanged tenant update reply
      pure reply
  | .hasOnDemandInstances => act (.hasOnDemandInstances tenant)
  | .createInstance => create.tried
  | action => act (.tenantState tenant action)

/-! ## The reconciler -/

section

variable (D : Setting T)

/-- The maximum number of extra instances during a replacement. -/
def maxOversizePadding : Int := 1

variable (event : Event) (tenant : Tenant) (key : GroupKey) (inst : Row T)
  (group : GroupConfig Unit)

/-- Create an instance, unless the group is full. -/
def createInstanceForGroup (allowOversize : Bool) : Code T J F (CreateInstanceResponse T) := do
  let asleep ← isAsleep tenant
  if asleep then .fail tenantAsleep
  else do
    let currentCount ← wrapping "failed to get current instance count"
      (call (.getInstanceCountByGroup tenant key) id)
    let maxSize := group.getSize + if allowOversize then maxOversizePadding else 0
    if maxSize ≤ currentCount then
      .fail (.message ("group already at or above max size (current: " ++ toString currentCount ++
        ", max: " ++ toString maxSize ++ ")"))
    else do
      let asleep ← isAsleep tenant
      if asleep then .fail tenantAsleep
      else wrapping "failed to create instance" (createInstance D
        { tenant
          group := key
          template := group.template
          instanceType := group.instanceType
          subnetPool := group.subnetPool
          vars := group.vars })

/-- Create one after another; a failure ends it. -/
def scaleUp (tenant : Tenant) (key : GroupKey) (group : GroupConfig Unit) :
    Nat → Code T J F Unit
  | 0 => pure ()
  | count + 1 => do
      let created ← (createInstanceForGroup D tenant key group false).tried
      match created with
      | .ok _ => scaleUp tenant key group count
      | .error error =>
        if error.is tenantAsleep then pure ()
        else .fail (.wrap ("failed to create instance for group " ++ key) error)

/-- Delete instances of a group; an instance that cannot be deleted is passed over. -/
def scaleDown (tenant : Tenant) : List InstanceID → Code T J F Unit
  | [] => pure ()
  | id :: rest => do
      let deleted ← (deleteInstance tenant id).tried
      let others ← (scaleDown tenant rest).tried
      match deleted, others with
      | .ok (), .ok () => pure ()
      | .ok (), .error error => .fail error
      | .error error, .ok () => .fail (.wrap ("delete instance " ++ id) error)
      | .error error, .error error' => .fail (.join (.wrap ("delete instance " ++ id) error) error')

/-- Delete; an error is only logged. -/
def deleteLogged (id : InstanceID) : Code T J F Unit := do
  let _ ← (deleteInstance tenant id).tried

/-- Whether the NAT manager owns the group, and if so what it made of the replacement. -/
def replaceNATInstance (id : InstanceID) (tenant : Tenant) (key : GroupKey) :
    Code T J F (Option (Except Err Unit)) := do
  let cfg ← getCurrent
  if cfg.nat tenant = some key then do
    let result ← (natReplacementHandler D id).tried
    pure (some result)
  else pure none

/-- The group's, or else the default. -/
def drainTimeout (cfg : Config F) (group : GroupConfig Unit) : Duration :=
  group.drainTimeout.getD cfg.defaultDrainTimeout

/-- Mark an instance for drain; an error is logged. -/
def initiateInstanceDrain (id : InstanceID) (alreadyDraining : Bool) : Code T J F Unit :=
  if alreadyDraining then pure ()
  else do
    let _ ← act (.markDrainStarted id)

/-- Create a replacement, then drain or delete. -/
def replaceAndDrain (id : InstanceID) (tenant : Tenant) (key : GroupKey) (group : GroupConfig Unit)
    (skipDrain : Bool) : Code T J F Unit := do
  let handled ← replaceNATInstance D id tenant key
  if handled.isSome then pure ()
  else do
    let cfg ← getCurrent
    let created ← (createInstanceForGroup D tenant key group true).tried
    match created with
    | .error _ => pure ()
    | .ok _ =>
      if skipDrain ∨ drainTimeout cfg group = 0 then deleteLogged tenant id
      else do
        initiateInstanceDrain id false
        let timestamp ← now
        enqueue { type := .checkInstance id, timestamp }

/-- The loop of `checkGroupConfigDrift`: the first instance whose hash differs, unless an
instance is draining. -/
def findDrifted (hash : String) :
    List InstanceID → Option InstanceID → Code T J F (Option InstanceID)
  | [], drifted => pure drifted
  | id :: rest, drifted => do
      let found ← getInstance id
      match found with
      | .error _ => findDrifted hash rest drifted
      | .ok inst =>
        if inst.drainStartedAt.isSome then pure none
        else if inst.infraConfigHash.getD "" ≠ hash then
          findDrifted hash rest (drifted.or (some id))
        else findDrifted hash rest drifted

/-- Replace an instance of a group whose infrastructure configuration has changed. -/
def checkGroupConfigDrift : Code T J F Unit := do
  let cached ← act (.getCachedGroup tenant key)
  match (cached : Except Err (Option String)) with
  | .error _ => pure ()
  | .ok none => pure ()
  | .ok (some hash) => do
      let current ← getGroupInstances tenant key
      match current with
      | .error _ => pure ()
      | .ok ids => do
          let drifted ← findDrifted hash ids none
          match drifted with
          | none => pure ()
          | some id => replaceAndDrain D id tenant key group false

/-- Replace an instance that is too old. -/
def expireInstance (id : InstanceID) : Code T J F Unit := do
  let found ← getInstance id
  match found with
  | .error _ => pure ()
  | .ok inst => do
      let group ← getGroup inst.tenant inst.group
      match group with
      | .error _ => pure ()
      | .ok group => replaceAndDrain D id inst.tenant inst.group group false

/-- How many of the instances drain. -/
def countDraining : List InstanceID → Code T J F Nat
  | [] => pure 0
  | id :: rest => do
      let found ← getInstance id
      let others ← countDraining rest
      match found with
      | .error _ => pure others
      | .ok inst => pure (if inst.drainStartedAt.isSome then others + 1 else others)

/-- Expire the oldest instance of a group above an age. It tells whether the check is over:
an instance was expired, or the query failed. -/
def expireOlderThan (age : Duration) : Code T J F Bool := do
  let found ← act (.getInstancesOlderThan age)
  match (found : Except Err (List (InstanceID × Row T))) with
  | .error _ => pure true
  | .ok instances =>
    match instances.find? fun entry => entry.2.tenant = tenant ∧ entry.2.group = key with
    | none => pure false
    | some entry => do
        expireInstance D entry.1
        pure true

/-- Replace instances that are too old, a few at a time. -/
def checkGroupExpiry : Code T J F Unit := do
  let cfg ← getCurrent
  if cfg.eligibleAge = 0 ∧ cfg.forcedAge = 0 then pure ()
  else do
    let current ← getGroupInstances tenant key
    match current with
    | .error _ => pure ()
    | .ok ids => do
        let drainingCount ← countDraining ids
        let expired ← (if 0 < cfg.forcedAge then expireOlderThan D tenant key cfg.forcedAge
          else pure false)
        if expired = false ∧ drainingCount = 0 ∧ 0 < cfg.eligibleAge then do
          let _ ← expireOlderThan D tenant key cfg.eligibleAge
        else pure ()

/-- Have the group looked at again when its oldest instance expires. -/
def scheduleGroupExpiry : Code T J F Unit := do
  let cfg ← getCurrent
  if cfg.eligibleAge = 0 ∧ cfg.forcedAge = 0 then pure ()
  else do
    let oldest ← act (.getOldestManagedInstanceByGroup tenant key)
    match (oldest : Except Err (Option (InstanceID × Row T))) with
    | .error _ => pure ()
    | .ok none => pure ()
    | .ok (some _) => enqueue { type := .groupChanged tenant key }

/-- Bring a group to its size. -/
def handleGroupChanged : Code T J F Unit := do
  let cfg ← getCurrent
  if cfg.nat tenant = some key then pure ()
  else do
    let current ← wrapping ("failed to get current instances for group " ++ key)
      (call (.getInstancesByGroup tenant key) id)
    let found ← getGroup tenant key
    match found with
    | .error _ => scaleDown tenant current
    | .ok group => do
        let asleep ← isAsleep tenant
        let desired : Int := if asleep then 0 else group.getSize
        (if (current.length : Int) < desired then
            scaleUp D tenant key group (desired - current.length).toNat
          else pure ())
        (if desired < current.length then
            scaleDown tenant (current.take (current.length - desired).toNat)
          else pure ())
        if asleep then pure ()
        else do
          checkGroupConfigDrift D tenant key group
          checkGroupExpiry D tenant key
          scheduleGroupExpiry tenant key

/-- Reconcile groups one after another, and return the first error. -/
def handleGroups (tenant : Tenant) : List GroupKey → Code T J F Unit
  | [] => pure ()
  | key :: rest => do
      let first ← (handleGroupChanged D tenant key).tried
      let others ← (handleGroups tenant rest).tried
      match first, others with
      | .ok (), .ok () => pure ()
      | .error error, _ => .fail error
      | .ok (), .error error => .fail error

/-- The groups of a tenant, each once. -/
def keysOf (identities : List (Tenant × GroupKey)) : List GroupKey :=
  ((identities.filter fun identity => identity.1 = tenant).map Prod.snd).dedup

/-- Reconcile every configured or active managed group of one tenant. -/
def handleTenantChanged : Code T J F Unit := do
  let groups ← wrapping "failed to get groups for tenant reconciliation"
    (call .getAllGroups id)
  let managed ← wrapping "failed to get active managed groups for tenant reconciliation"
    (call .getActiveManagedGroupIdentities fun reply => reply)
  let keys ← act (.range (keysOf tenant (groups ++ managed)))
  handleGroups D tenant keys

/-- Proceed with the deletion of an instance that an operator has drained. -/
def handleDrainAcked (id : InstanceID) : Code T J F Unit := do
  -- a failure to record the acknowledgement is logged
  let _ ← act (.markDrainAcked id)
  wrapping ("failed to delete drained instance " ++ id) (deleteInstance tenant id)

/-- Delete a draining instance if its drain is acknowledged or has lasted long enough, or
if the provider says that it does not run. -/
def handleDrainCompletion (id : InstanceID) (inst : Row T) (timeout : Duration) :
    Code T J F Unit := do
  let time ← now
  if inst.drainAckedAt.isSome then deleteLogged inst.tenant id
  else if timeout ≤ time - inst.drainStartedAt.getD time then deleteLogged inst.tenant id
  else
    match inst.providerID.filter (· ≠ "") with
    | none => pure ()
    | some vm => do
        let status ← act (.getInstanceStatus id vm)
        match (status : Except Err String) with
        | .error error =>
          if error.is .instanceNotFound then deleteLogged inst.tenant id else pure ()
        | .ok status => if NAT.isUnhealthy status then deleteLogged inst.tenant id else pure ()

/-- Replace an instance, with or without a drain. -/
def replaceInstance (id : InstanceID) (skipDrain : Bool) : Code T J F Unit := do
  let found ← getInstance id
  match found with
  | .error _ => pure ()
  | .ok inst => do
      let group ← getGroup inst.tenant inst.group
      match group with
      | .error _ => pure ()
      | .ok group =>
        if inst.drainStartedAt.isSome then do
          let cfg ← getCurrent
          handleDrainCompletion id inst (drainTimeout cfg group)
        else replaceAndDrain D id inst.tenant inst.group group skipDrain

/-- Retries of a disconnected instance. -/
def disconnectMaxAttempts : Nat := 8

/-- Look at an instance again, unless its agent has reported since. -/
def scheduleDisconnectFollowUp (id : InstanceID) : Code T J F Unit :=
  if inst.healthAt.any (event.timestamp < ·) then pure ()
  else if disconnectMaxAttempts ≤ event.attempt then pure ()
  else enqueue
    { type := .checkInstance id
      timestamp := event.timestamp
      cause := "disconnect"
      attempt := event.attempt + 1 }

/-- Whether the agent has missed three health reports. -/
def missedReports (cfg : Config F) (inst : Row T) (time : Time) : Bool :=
  inst.healthAt.any fun healthAt =>
    0 < cfg.healthCheckInterval && 3 ≤ (time - healthAt).tdiv cfg.healthCheckInterval

/-- The part of `handleCheckInstance` for an instance that is not draining. -/
def checkProvisioned (id : InstanceID) (inst : Row T) : Code T J F Unit :=
  match inst.providerID.filter (· ≠ "") with
  | none => pure ()
  | some vm => do
      let status ← act (.getInstanceStatus id vm)
      match (status : Except Err String) with
      | .error error =>
        if error.is .instanceNotFound then do
          let _ ← act (.updateInstanceProviderState id "deleted")
          replaceInstance D id true
        else scheduleDisconnectFollowUp event inst id
      | .ok status =>
        if NAT.isUnhealthy status then do
          let _ ← act (.updateInstanceProviderState id status)
          replaceInstance D id true
        else do
          let cfg ← getCurrent
          let time ← now
          if missedReports cfg inst time then replaceInstance D id false
          else if event.cause = "disconnect" then scheduleDisconnectFollowUp event inst id
          else pure ()

/-- Check an instance and replace it if it is unhealthy. The event names it by its
identifier alone. -/
def handleCheckInstance (id : InstanceID) : Code T J F Unit := do
  let found ← getInstance id
  match found with
  | .error _ => pure ()
  | .ok inst =>
    if inst.drainStartedAt.isSome then do
      let group ← getGroup inst.tenant inst.group
      match group with
      | .error _ => pure ()
      | .ok group => do
          let cfg ← getCurrent
          handleDrainCompletion id inst (drainTimeout cfg group)
    else checkProvisioned D event id inst

/-- Retries of an event. -/
def maxAttempts : Nat := 8

/-- Queue the event again, up to a limit. -/
def scheduleRetry : Code T J F Unit :=
  if maxAttempts ≤ event.attempt then pure ()
  else enqueue { event with attempt := event.attempt + 1 }

/-- The handler of an event, on the leader. -/
def handleEvent : Code T J F Unit := do
  let leader ← isLeader
  if leader = false then pure ()
  else
    let handle : Code T J F Unit := match event.type with
      | .tenantChanged tenant => handleTenantChanged D tenant
      | .groupChanged tenant key => handleGroupChanged D tenant key
      | .checkInstance id => handleCheckInstance D event id
      | .drainAcked tenant id => handleDrainAcked tenant id
    handle.recover fun _ => scheduleRetry event

end

/-! ## The operator service -/

/-- The group that an operator asks for. -/
structure GroupSpec where
  template : String := ""
  size : Int := 0
  instanceType : String := ""
  subnetPool : String := ""
  vars : Dict String String := .empty

/-- The instance that an operator asks for. -/
structure InstanceSpec where
  group : GroupKey
  template : String := ""
  instanceType : String := ""
  subnetPool : String := ""
  vars : Dict String String := .empty

/-- The calls that change something, with their arguments. -/
inductive Request where
  | upsertGroup (key : GroupKey) (config : Option GroupSpec)
  | deleteGroup (key : GroupKey)
  | createInstance (id : InstanceID) (config : Option InstanceSpec)
  | deleteInstance (id : InstanceID)
  | acknowledgeDrained (id : InstanceID)
  | sleepTenant (tenant : Tenant) (wakeAt : Option TenantState.Time) (ifNotBusy : Bool)
  | wakeTenant (tenant : Tenant) (listener : Bool)

section

variable (D : Setting T) (sleepReady : Bool) (client : Tenant)

/-- `identifiers.Validate` in a request. -/
def validated (what kind value : String) : Code T J F Unit :=
  match validateIdentifier kind value with
  | .ok () => pure ()
  | .error error => .fail (.message ("invalid " ++ what ++ " " ++ quoted value ++ ": " ++ error))

/-- The group that a request gives to `UpsertGroup`. -/
def GroupSpec.group (spec : GroupSpec) : GroupConfig (Dict String J) where
  template := spec.template
  size := some spec.size
  instanceType := spec.instanceType
  subnetPool := spec.subnetPool
  vars := spec.vars

/-- `UpsertGroup` of the operator. -/
def upsertGroup (key : GroupKey) (config : Option GroupSpec) : Code T J F Unit :=
  if key = "" then .fail (.message "group key is required")
  else do
    validated "tenant" "tenant ID" client
    validated "group key" "group ID" key
    match config with
    | none => .fail (.message "group config is required")
    | some spec => do
        let c ← getCurrent
        wrapping "failed to upsert group"
          (call (.updateDynamicGroup c client key spec.group) id)
        enqueue { type := .groupChanged client key }

/-- `DeleteGroup` of the operator. -/
def deleteGroup (key : GroupKey) : Code T J F Unit :=
  if key = "" then .fail (.message "group key is required")
  else do
    validated "tenant" "tenant ID" client
    validated "group key" "group ID" key
    wrapping "failed to delete group"
      (call (.deleteDynamicGroup client key) id)
    enqueue { type := .groupChanged client key }

/-- `CreateInstance` of the operator. -/
def createOnDemand (id : InstanceID) (config : Option InstanceSpec) : Code T J F Unit :=
  match config with
  | none => .fail (.message "instance config is required")
  | some spec =>
    if spec.group = "" then .fail (.message "group is required")
    else
      let create : Code T J F Unit := do
        let _ ← createInstance D
          { instanceID := id
            tenant := client
            group := spec.group
            template := spec.template
            instanceType := spec.instanceType
            subnetPool := spec.subnetPool
            vars := spec.vars
            onDemand := true }
      wrapping "failed to create instance"
        ((TenantState.Operation.program sleepReady .createOnDemand).interpret
          (onTenant client create) fun error => error)

/-- The `DeleteInstance` call; an instance that cannot be found counts as deleted. -/
def deleteOwned (id : InstanceID) : Code T J F Unit :=
  if id = "" then .fail (.message "instance_id is required")
  else do
    let found ← (getInstanceStatus client id).tried
    match found with
    | .error error =>
      if error.is .instanceTenantMismatch then
        .fail (.message "instance belongs to another tenant")
      else pure ()
    | .ok status =>
      if status = "deleted" ∨ status = "deleting" then pure ()
      else wrapping "failed to delete instance" (deleteInstance client id)

/-- `AcknowledgeDrained` of the operator. -/
def acknowledgeDrained (id : InstanceID) : Code T J F Unit :=
  if id = "" then .fail (.message "instance_id is required")
  else do
    validateInstanceTenant client id
    enqueue { type := .drainAcked client id }

variable (requested : Tenant)

/-- The tenant of the call is that of the certificate. -/
def authorizedTenant : Code T J F Unit :=
  if requested = "" then .fail (.message "tenant is required")
  else do
    validated "tenant" "tenant ID" requested
    if client ≠ requested then .fail (.message "tenant does not match operator certificate")
    else pure ()

/-- `SleepTenant` of the operator. -/
def sleepTenant (wakeAt : Option TenantState.Time) (ifNotBusy : Bool) : Code T J F Unit := do
  authorizedTenant client requested
  if sleepReady = false then
    .fail (.message "tenant sleep is unavailable until provider cutover is configured")
  else do
    let _ ← (TenantState.Manager.sleep sleepReady wakeAt ifNotBusy .onDemand).interpret
      (onTenant requested (pure ())) id

/-- `WakeTenant` of the operator. -/
def wakeTenant (listener : Bool) : Code T J F Unit := do
  authorizedTenant client requested
  if sleepReady = false then
    .fail (.message "tenant wake is unavailable until provider cutover is configured")
  else if listener then
    .fail (.message
      "listener-scoped wake is not available until proxy listeners are configured")
  else
    (TenantState.Operation.program sleepReady .wake).interpret (onTenant requested (pure ()))
      id

/-- A call, authenticated as the client's tenant. -/
def serve : Request → Code T J F Unit
  | .upsertGroup key config => upsertGroup client key config
  | .deleteGroup key => deleteGroup client key
  | .createInstance id config => createOnDemand D sleepReady client id config
  | .deleteInstance id => deleteOwned client id
  | .acknowledgeDrained id => acknowledgeDrained client id
  | .sleepTenant requested wakeAt ifNotBusy =>
    sleepTenant sleepReady client requested wakeAt ifNotBusy
  | .wakeTenant requested listener => wakeTenant sleepReady client requested listener

end

end Nstance.Tenancy
