import Nstance.Configuration.Dynamic
import Nstance.Instances.Lifecycle
import Nstance.NAT.Manager
import Nstance.TenantState.Manager

/-!
# The server that the tenants share

One server keeps the groups, the sleep entries, the instance rows and records and the virtual
machines of all tenants. `Server.perform` says what each of the calls on it does, and with
what reply; what its data does not decide is decided by the environment (`Outcome`).

Groups and sleep entries are stored, and the server has copies of them in memory. Most
statements find a row by the identifier of its instance alone. A virtual machine is named by
that and by the identifier of the provider: some providers take the first for the second,
others use the second again.
-/

namespace Nstance.Tenancy

open Interaction Objects
open Nstance.Configuration (Groups GroupConfig DynamicGroups ServerConfig bareGroups mergeGroups
  upsertedGroup)
open Nstance.Instances (InstanceID Tenant GroupKey ProviderID Time Duration Row Rows
  InstanceRecord Records Claims Setting ProviderResponse)
open TenantState (Err StateDocument)

-- The tokens, the JSON values and the files.
variable {T J F : Type}

/-! ## Errors -/

/-- `errTenantAsleep`: stops stale scale-up and replacement work after a tenant sleeps. -/
def tenantAsleep : Err := .message "tenant is asleep"

/-- `sql.ErrNoRows`. -/
def noRows : Err := .message "sql: no rows in result set"

/-- `ErrSubnetDependencyCapacity`. -/
def subnetDependencyCapacity : Err := .message "subnet dependency has no capacity"

/-- A call that cannot be made. -/
def unavailable : Err := .message "unavailable"

/-! ## Configuration and events -/

/-- What is read of the configuration. -/
structure Config (F : Type) extends ServerConfig F where
  /-- The group of a tenant's managed NAT, if the tenant has one. -/
  nat : Tenant → Option GroupKey := fun _ => none
  registrationTimeout : Duration := 0
  healthCheckInterval : Duration := 0
  defaultDrainTimeout : Duration := 0
  eligibleAge : Duration := 0
  forcedAge : Duration := 0

/-- What an event is about. -/
inductive EventType where
  | checkInstance (id : InstanceID)
  | groupChanged (tenant : Tenant) (key : GroupKey)
  | drainAcked (tenant : Tenant) (id : InstanceID)
  | tenantChanged (tenant : Tenant)

/-- An event of the queue. -/
structure Event where
  type : EventType
  timestamp : Time := 0
  cause : String := ""
  attempt : Nat := 0

/-- What the instance manager takes from the merged configuration of an instance. -/
structure Merged where
  instanceType : String
  subnetPool : String
  infraConfigHash : String

/-! ## Actions -/

/-- What the operations call. -/
inductive Action (T J F : Type) where
  | getCurrent
  /-- Reload, merge and save one dynamic group, with the configuration read before. -/
  | updateDynamicGroup (c : Config F) (tenant : Tenant) (key : GroupKey)
      (group : GroupConfig (Dict String J))
  | deleteDynamicGroup (tenant : Tenant) (key : GroupKey)
  | getGroup (tenant : Tenant) (key : GroupKey)
  | getAllGroups
  /-- The hash of the infrastructure configuration of a group. -/
  | getCachedGroup (tenant : Tenant) (key : GroupKey)
  /-- An action of the tenant state manager under the lock of a tenant. -/
  | tenantState (tenant : Tenant) (action : TenantState.Action)
  | isAsleep (tenant : Tenant)
  | getInstance (id : InstanceID)
  /-- Without the on-demand instances, as below. -/
  | getInstancesByGroup (tenant : Tenant) (key : GroupKey)
  | getInstanceCountByGroup (tenant : Tenant) (key : GroupKey)
  | getInstancesOlderThan (maxAge : Duration)
  | getOldestManagedInstanceByGroup (tenant : Tenant) (key : GroupKey)
  | getActiveManagedGroupIdentities
  | hasOnDemandInstances (tenant : Tenant)
  | createInstance (id : InstanceID) (row : Row T)
  | updateInstance (id : InstanceID) (given : Row T)
  | updateInstanceProviderState (id : InstanceID) (status : String)
  | markDrainStarted (id : InstanceID)
  | markDrainAcked (id : InstanceID)
  | deleteInstance (id : InstanceID)
  | deleteLBInstancesForInstance (id : InstanceID)
  | storeInstanceRecord (record : InstanceRecord T)
  | getInstanceRecord (tenant : Tenant) (id : InstanceID)
  /-- `CreateInstance`, `DeleteInstance` and `GetInstanceStatus` of the provider. -/
  | createVM (record : InstanceRecord T)
  | deleteVM (id : InstanceID) (vm : ProviderID)
  | getInstanceStatus (id : InstanceID) (vm : ProviderID)
  | deregisterInstanceFromLB (id : InstanceID)
  /-- `GetMergedConfig` of the configuration. -/
  | getMergedConfig (template : String) (group : GroupConfig Unit)
  /-- `generateRegistrationNonce`. -/
  | sign (claims : Claims)
  /-- Fill in the templates of the user data or of the arguments. -/
  | processTemplate (id : InstanceID)
  | selectSubnetWithCapacity (tenant : Tenant) (pool : String) (populatedOnly : Bool)
  /-- `puidv7.New`. -/
  | newID (kind : String)
  | now
  /-- A loop over the keys of a map, in an order of its own. -/
  | range (keys : List GroupKey)
  /-- An action of the NAT manager other than a call of the instance manager. -/
  | nat (action : NAT.Action)
  | isLeader
  /-- Give an event to the queue of the reconciler, at once or after a delay. -/
  | enqueue (event : Event)

/-- What each of them answers. -/
def Reply : Action T J F → Type
  | .getCurrent => Config F
  | .updateDynamicGroup _ _ _ _ => Except Err Unit
  | .deleteDynamicGroup _ _ => Except Err Unit
  | .getGroup _ _ => Except Err (GroupConfig Unit)
  | .getAllGroups => Except Err (List (Tenant × GroupKey))
  | .getCachedGroup _ _ => Except Err (Option String)
  | .tenantState _ action => TenantState.Reply action
  | .isAsleep _ => Bool
  | .getInstance _ => Except Err (Row T)
  | .getInstancesByGroup _ _ => Except Err (List InstanceID)
  | .getInstanceCountByGroup _ _ => Except Err Nat
  | .getInstancesOlderThan _ => Except Err (List (InstanceID × Row T))
  | .getOldestManagedInstanceByGroup _ _ => Except Err (Option (InstanceID × Row T))
  | .getActiveManagedGroupIdentities => Except Err (List (Tenant × GroupKey))
  | .hasOnDemandInstances _ => Except Err Bool
  | .createInstance _ _ => Except Err Unit
  | .updateInstance _ _ => Except Err Unit
  | .updateInstanceProviderState _ _ => Except Err Unit
  | .markDrainStarted _ => Except Err Unit
  | .markDrainAcked _ => Except Err Unit
  | .deleteInstance _ => Except Err Unit
  | .deleteLBInstancesForInstance _ => Except Err Unit
  | .storeInstanceRecord _ => Except Err Unit
  | .getInstanceRecord _ _ => Except Err (InstanceRecord T)
  | .createVM _ => Except Err ProviderResponse
  | .deleteVM _ _ => Except Err Unit
  | .getInstanceStatus _ _ => Except Err String
  | .deregisterInstanceFromLB _ => Except Err Unit
  | .getMergedConfig _ _ => Except Err Merged
  | .sign _ => Except Err T
  | .processTemplate _ => Except Err Unit
  | .selectSubnetWithCapacity _ _ _ => Except Err String
  | .newID _ => Except Err InstanceID
  | .now => Time
  | .range _ => List GroupKey
  | .nat action => NAT.Reply action
  | .isLeader => Bool
  | .enqueue _ => Unit

/-- Actions with their replies. -/
abbrev interface (T J F : Type) : Interface := ⟨Action T J F, Reply⟩

/-- The operations of the server. -/
abbrev Code (T J F : Type) := Program (interface T J F) Err

/-! ## The server -/

/-- What is stored, what is in memory, and what the provider has. -/
structure Server (T J F : Type) where
  config : Config F
  /-- The stored document of dynamic groups, and the copy in memory. -/
  stored : DynamicGroups J := .empty
  groups : DynamicGroups J := .empty
  /-- The stored tenant state, and the copy in memory. -/
  entries : StateDocument := fun _ => none
  cached : StateDocument := fun _ => none
  rows : Rows T := .empty
  records : Records T := .empty
  /-- The virtual machines, each with the tenant it was created for. -/
  vms : Dict (InstanceID × ProviderID) Tenant := .empty
  assignments : NAT.Assignments := .empty

/-- How a call turns out; a call that is `lost` takes effect and fails. -/
inductive Fate where
  | done
  | refused
  | lost
deriving DecidableEq

/-- What is decided outside of the server when an action is performed. -/
structure Outcome (T J F : Type) where
  fate : Fate := .done
  now : Time := 0
  /-- The replies that the data of the server does not determine. -/
  answer : (action : Action T J F) → Reply action

/-- The replies when everything outside of the server is out of reach. -/
def unreachableState : (action : TenantState.Action) → TenantState.Reply action
  | .transition => {}
  | .isAsleep => false
  | .now => (0 : TenantState.Time)
  | .enter _ => ()
  | .update _ | .ctxErr | .call _ | .callback | .hasOnDemandInstances | .createInstance =>
    .error unavailable

/-- The NAT manager's calls, when nothing answers. -/
def unreachableNAT : (action : NAT.Action) → NAT.Reply action
  | .getCurrent => {}
  | .now => (0 : NAT.Time)
  | .tenantAsleep _ => false
  | .range _ => []
  | .readMemory => {}
  | .remember _ => ()
  | .assignments | .listInstances | .getInstance _ | .newID _ | .store _ | .createNATInstance _
  | .deleteInstance _ _ | .ensureNATRoute _ | .removeNATRoute _ => .error (.message "unavailable")

/-- The server is the leader. -/
def unreachable (config : Config F) : (action : Action T J F) → Reply action
  | .isLeader => true
  | .getCurrent => config
  | .tenantState _ action => unreachableState action
  | .nat action => unreachableNAT action
  | .isAsleep _ => false
  | .now => (0 : Int)
  | .range _ => []
  | .enqueue _ => ()
  | .updateDynamicGroup _ _ _ _ | .deleteDynamicGroup _ _ | .getGroup _ _ | .getAllGroups
  | .getCachedGroup _ _ | .getInstance _ | .getInstancesByGroup _ _
  | .getInstanceCountByGroup _ _ | .getInstancesOlderThan _
  | .getOldestManagedInstanceByGroup _ _ | .getActiveManagedGroupIdentities
  | .hasOnDemandInstances _ | .createInstance _ _ | .updateInstance _ _
  | .updateInstanceProviderState _ _ | .markDrainStarted _ | .markDrainAcked _
  | .deleteInstance _ | .deleteLBInstancesForInstance _ | .storeInstanceRecord _
  | .getInstanceRecord _ _ | .createVM _ | .deleteVM _ _ | .getInstanceStatus _ _
  | .deregisterInstanceFromLB _ | .getMergedConfig _ _ | .sign _ | .processTemplate _
  | .selectSubnetWithCapacity _ _ _ | .newID _ => .error unavailable

/-- A setting in which the nonces are their claims. -/
def unsigned (storageKey : InstanceID → Option Instances.StorageKey) : Setting Claims where
  clusterID := "cluster"
  shard := "east"
  sign claims := claims
  verify := some
  verify_sign _ := rfl
  storageKey

/-- A read, which may fail. -/
def Outcome.read {α : Type} (outcome : Outcome T J F) (result : Except Err α) : Except Err α :=
  if outcome.fate = .done then result else .error unavailable

namespace Server

variable (s : Server T J F)

/-! ### Groups -/

variable (tenant : Tenant)

/-- Static and dynamic groups, as they are in memory. -/
def effectiveGroups : Groups Unit :=
  mergeGroups (bareGroups (s.config.groups.ofTenant tenant))
    (bareGroups (s.groups.ofTenant tenant))

/-- The effective group of a tenant. -/
def getGroup (key : GroupKey) : Except Err (GroupConfig Unit) :=
  match Configuration.getGroup (fun tenant => bareGroups (s.config.groups.ofTenant tenant))
      (fun tenant => bareGroups (s.groups.ofTenant tenant)) tenant key with
  | .ok group => .ok group
  | .error error => .error (.message error)

/-- The groups of all tenants. -/
def getAllGroups : List (Tenant × GroupKey) :=
  ((s.config.groups.entries.map Prod.fst ++ s.groups.entries.map Prod.fst).dedup).flatMap
    fun tenant => (s.effectiveGroups tenant).entries.map fun entry => (tenant, entry.1)

/-- Save a document and publish it. A write may be lost: then it is saved, but the copy in
memory stays as it was. -/
def saveDynamicGroups (doc : DynamicGroups J) :
    Fate → Server T J F × Except Err Unit
  | .done => ({ s with stored := doc, groups := doc }, .ok ())
  | .refused => (s, .error unavailable)
  | .lost => ({ s with stored := doc }, .error unavailable)

/-- Merge one group into the stored document, and publish it. -/
def updateDynamicGroup (c : Config F) (tenant : Tenant) (key : GroupKey)
    (group : GroupConfig (Dict String J)) (fate : Fate) : Server T J F × Except Err Unit :=
  match upsertedGroup c.toServerConfig tenant key group ((s.stored.ofTenant tenant).get key) with
  | .error error => (s, .error (.message error))
  | .ok merged => s.saveDynamicGroups (s.stored.put tenant key merged) fate

/-- A document without the group is not saved again, but it is published. -/
def deleteDynamicGroup (key : GroupKey) (fate : Fate) : Server T J F × Except Err Unit :=
  if ((s.stored.ofTenant tenant).get key).isNone then
    if fate = .done then ({ s with groups := s.stored }, .ok ()) else (s, .error unavailable)
  else s.saveDynamicGroups (s.stored.remove tenant key) fate

/-! ### Tenant state -/

/-- Every update reads the stored document, and if it succeeds the copy is that. -/
def updateTenantState (update : TenantState.Update) (fate : Fate) :
    Server T J F × Except Err TenantState.Updated :=
  let before := s.entries tenant
  match update.mutate before, fate with
  | .panic, _ => (s, .error .nilDereference)
  | _, .refused => (s, .error unavailable)
  | .unchanged, _ => ({ s with cached := s.entries }, .ok ⟨before, before⟩)
  | .write after, .done =>
    let entries := Function.update s.entries tenant after
    ({ s with entries := entries, cached := entries }, .ok ⟨before, after⟩)
  | .write after, .lost =>
    ({ s with entries := Function.update s.entries tenant after }, .error unavailable)

/-- The calls of the tenant state manager. -/
def onTenantState : (action : TenantState.Action) →
    Outcome T J F → Server T J F × TenantState.Reply action
  | .update update, outcome => s.updateTenantState tenant update outcome.fate
  | .transition, _ => (s, (s.cached tenant).progress)
  | .isAsleep, _ => (s, (s.cached tenant).asleep)
  | action, outcome => (s, outcome.answer (.tenantState tenant action))

/-! ### Rows, records and virtual machines -/

/-- A statement, which may fail or be lost. -/
def statement (rows : Option (Rows T)) (fate : Fate) (refused : Err) :
    Server T J F × Except Err Unit :=
  match fate, rows with
  | .done, some rows => ({ s with rows := rows }, .ok ())
  | .done, none => (s, .error refused)
  | .refused, _ => (s, .error unavailable)
  | .lost, some rows => ({ s with rows := rows }, .error unavailable)
  | .lost, none => (s, .error unavailable)

/-- Store what the provider says. -/
def updateInstanceProviderState (now : Time) (id : InstanceID) (status : String) :
    Option (Rows T) :=
  s.rows.updateLive id fun row =>
    { row with providerState := some status, providerAt := some now, updatedAt := some now }

/-- `GetInstancesOlderThan` for the managed instances. -/
def olderThan (now : Time) (maxAge : Duration) : List (InstanceID × Row T) :=
  (s.rows.rows.entries.filter fun entry =>
    entry.2.createdAt < now - maxAge && entry.2.live && Rows.active entry.2 &&
      !entry.2.onDemand).insertionSort Rows.Older

variable {s : Server T J F} {D : Setting T} {outcome : Outcome T J F}

theorem get_of_mem_olderThan {now : Time} {maxAge : Duration} {entry : InstanceID × Row T}
    (mem : entry ∈ s.olderThan now maxAge) : s.rows.get entry.1 = some entry.2 :=
  Dict.get_eq_some_iff.mpr (List.mem_filter.mp ((List.mem_insertionSort Rows.Older).mp mem)).1

/-- The oldest instance that counts. -/
def oldestManaged (tenant : Tenant) (key : GroupKey) : Option (InstanceID × Row T) :=
  ((s.rows.rows.entries.filter fun entry =>
    entry.2.tenant = tenant && entry.2.group = key && entry.2.live && !entry.2.onDemand &&
      entry.2.drainStartedAt.isNone && Rows.active entry.2).insertionSort Rows.Older).head?

/-- The groups that have instances. -/
def managedGroups : List (Tenant × GroupKey) :=
  ((s.rows.rows.entries.filter fun entry =>
    !entry.2.onDemand && entry.2.group ≠ "" && entry.2.live && Rows.active entry.2).map
      fun entry => (entry.2.tenant, entry.2.group)).dedup

/-- The tenant has an on-demand instance. -/
def hasOnDemandInstances (tenant : Tenant) : Bool :=
  s.rows.rows.entries.any fun entry =>
    entry.2.tenant = tenant && entry.2.onDemand && entry.2.live

/-- `storeInstanceRecord`, which stores nothing without a key. -/
def storeInstanceRecord (D : Setting T) (record : InstanceRecord T) (fate : Fate) :
    Server T J F × Except Err Unit :=
  match D.keyOf record, fate with
  | none, _ => (s, .error (.message "failed to generate storage key"))
  | some key, .done => ({ s with records := s.records.set key (some record) }, .ok ())
  | some _, .refused => (s, .error unavailable)
  | some key, .lost =>
    ({ s with records := s.records.set key (some record) }, .error unavailable)

/-- The record under the key of an instance. -/
def getInstanceRecord (D : Setting T) (tenant : Tenant) (id : InstanceID) :
    Except Err (InstanceRecord T) :=
  match (D.keyFor tenant id).bind fun key => (s.records.get key).join with
  | some record => .ok record
  | none => .error (.message "failed to get instance record")

/-- The provider does not give the name of one virtual machine to another. A call that is lost
has created the virtual machine. -/
def createVM (record : InstanceRecord T) :
    Fate → Except Err ProviderResponse → Server T J F × Except Err ProviderResponse
  | .refused, _ => (s, .error unavailable)
  | _, .error error => (s, .error error)
  | fate, .ok response =>
    if (s.vms.get (record.instanceID, response.providerInstanceID)).isSome then
      (s, .error (.message "already exists"))
    else
      ({ s with vms :=
          s.vms.set (record.instanceID, response.providerInstanceID) record.tenant },
        if fate = .lost then .error unavailable else .ok response)

/-! ### NAT -/

/-- The calls of the NAT manager. -/
def onNAT : (action : NAT.Action) → Outcome T J F →
    Server T J F × NAT.Reply action
  | .assignments, outcome =>
    (s, if outcome.fate = .done then .ok s.assignments else .error (.message "unavailable"))
  | .store call, outcome =>
    match outcome.fate, call.apply s.assignments with
    | .refused, _ => (s, .error (.message "unavailable"))
    | _, .error error => (s, .error error)
    | .done, .ok (result, after) => ({ s with assignments := after }, .ok result)
    | .lost, .ok (_, after) => ({ s with assignments := after }, .error (.message "unavailable"))
  | action, outcome => (s, outcome.answer (.nat action))

/-! ### One action -/

/-- What an action does, and what it answers. -/
def perform [DecidableEq T] (D : Setting T) (s : Server T J F) :
    (action : Action T J F) → Outcome T J F →
      Server T J F × Reply action
  | .getCurrent, _ => (s, s.config)
  | .updateDynamicGroup c tenant key group, outcome =>
    s.updateDynamicGroup c tenant key group outcome.fate
  | .deleteDynamicGroup tenant key, outcome => s.deleteDynamicGroup tenant key outcome.fate
  | .getGroup tenant key, outcome => (s, outcome.read (s.getGroup tenant key))
  | .getAllGroups, outcome => (s, outcome.read (.ok s.getAllGroups))
  | .tenantState tenant action, outcome => s.onTenantState tenant action outcome
  | .isAsleep tenant, _ => (s, (s.cached tenant).asleep)
  | .getInstance id, outcome =>
    (s, outcome.read (match s.rows.getInstance id with
      | some row => .ok row
      | none => .error noRows))
  | .getInstancesByGroup tenant key, outcome =>
    (s, outcome.read (.ok (s.rows.getInstancesByGroup tenant key true)))
  | .getInstanceCountByGroup tenant key, outcome =>
    (s, outcome.read (.ok (s.rows.getInstancesByGroup tenant key true).length))
  | .getInstancesOlderThan maxAge, outcome =>
    (s, outcome.read (.ok (s.olderThan outcome.now maxAge)))
  | .getOldestManagedInstanceByGroup tenant key, outcome =>
    (s, outcome.read (.ok (s.oldestManaged tenant key)))
  | .getActiveManagedGroupIdentities, outcome => (s, outcome.read (.ok s.managedGroups))
  | .hasOnDemandInstances tenant, outcome =>
    (s, outcome.read (.ok (s.hasOnDemandInstances tenant)))
  | .createInstance id row, outcome =>
    s.statement (s.rows.createInstance id row) outcome.fate
      (.message "UNIQUE constraint failed")
  | .updateInstance id given, outcome =>
    s.statement (s.rows.updateInstance outcome.now id given) outcome.fate noRows
  | .updateInstanceProviderState id status, outcome =>
    s.statement (s.updateInstanceProviderState outcome.now id status) outcome.fate noRows
  | .markDrainStarted id, outcome =>
    s.statement (s.rows.markDrainStarted outcome.now id) outcome.fate noRows
  | .markDrainAcked id, outcome =>
    s.statement (s.rows.markDrainAcked outcome.now id) outcome.fate noRows
  | .deleteInstance id, outcome =>
    s.statement (s.rows.deleteInstance outcome.now id) outcome.fate noRows
  | .storeInstanceRecord record, outcome => s.storeInstanceRecord D record outcome.fate
  | .getInstanceRecord tenant id, outcome =>
    (s, outcome.read (s.getInstanceRecord D tenant id))
  | .createVM record, outcome => s.createVM record outcome.fate (outcome.answer (.createVM record))
  | .deleteVM id vm, outcome =>
    (if outcome.fate = .refused then s else { s with vms := s.vms.erase (id, vm) },
      outcome.answer (.deleteVM id vm))
  | .sign claims, outcome => (s, outcome.read (.ok (D.sign claims)))
  | .now, outcome => (s, outcome.now)
  | .range keys, outcome =>
    let order : List GroupKey := outcome.answer (.range keys)
    (s, if order.isPerm keys then order else keys)
  | .nat action, outcome => s.onNAT action outcome
  | .enqueue _, _ => (s, ())
  | action, outcome => (s, outcome.answer action)

variable {id : InstanceID} {row : Row T} {action : Action T J F}

theorem get_of_getInstance [DecidableEq T]
    (reply : (s.perform D (.getInstance id) outcome).2 = (.ok row : Except Err _)) :
    s.rows.get id = some row := by
  have read : outcome.read (match s.rows.getInstance id with
      | some row => .ok row
      | none => .error noRows) = Except.ok row := reply
  unfold Outcome.read at read
  split at read
  · split at read <;> cases read
    rename_i found
    exact (Option.filter_eq_some_iff.mp found).1
  · cases read

theorem perform_getInstance [DecidableEq T] (found : s.rows.getInstance id = some row)
    (done : outcome.fate = .done) :
    s.perform D (.getInstance id) outcome = (s, (.ok row : Except Err _)) := by
  have read : s.perform D (.getInstance id) outcome = (s, outcome.read
      (match s.rows.getInstance id with
        | some row => .ok row
        | none => .error noRows)) := rfl
  rw [read, found, Outcome.read, if_pos done]

/-- Actions on the rows. -/
def writesRows : Action T J F → Bool
  | .createInstance _ _ => true
  | .updateInstance _ _ => true
  | .updateInstanceProviderState _ _ => true
  | .markDrainStarted _ => true
  | .markDrainAcked _ => true
  | .deleteInstance _ => true
  | _ => false

theorem rows_perform [DecidableEq T] (reads : writesRows action = false) :
    (s.perform D action outcome).1.rows = s.rows := by
  cases action with
  | updateDynamicGroup c tenant key group =>
    show (s.updateDynamicGroup c tenant key group outcome.fate).1.rows = s.rows
    unfold updateDynamicGroup saveDynamicGroups
    split
    · rfl
    · split <;> rfl
  | deleteDynamicGroup tenant key =>
    show (s.deleteDynamicGroup tenant key outcome.fate).1.rows = s.rows
    unfold deleteDynamicGroup saveDynamicGroups
    split
    · split <;> rfl
    · split <;> rfl
  | tenantState tenant action =>
    cases action with
    | update update =>
      show (s.updateTenantState tenant update outcome.fate).1.rows = s.rows
      unfold updateTenantState
      dsimp only
      split <;> rfl
    | _ => rfl
  | createInstance _ _ | updateInstance _ _ | updateInstanceProviderState _ _ | markDrainStarted _
  | markDrainAcked | deleteInstance => cases reads
  | storeInstanceRecord record =>
    show (s.storeInstanceRecord D record outcome.fate).1.rows = s.rows
    unfold storeInstanceRecord
    split <;> rfl
  | createVM record =>
    show (s.createVM record outcome.fate (outcome.answer (.createVM record))).1.rows = s.rows
    unfold createVM
    split
    · rfl
    · rfl
    · split <;> rfl
  | deleteVM id vm =>
    show (if outcome.fate = .refused then s else _).rows = s.rows
    split <;> rfl
  | nat action =>
    show (s.onNAT action outcome).1.rows = s.rows
    unfold onNAT
    split
    · rfl
    · split <;> rfl
    · rfl
  | _ => rfl

theorem records_perform [DecidableEq T] (reads : ∀ record, action ≠ .storeInstanceRecord record)
    : (s.perform D action outcome).1.records = s.records := by
  cases action with
  | updateDynamicGroup c tenant key group =>
    show (s.updateDynamicGroup c tenant key group outcome.fate).1.records = s.records
    unfold updateDynamicGroup saveDynamicGroups
    split
    · rfl
    · split <;> rfl
  | deleteDynamicGroup tenant key =>
    show (s.deleteDynamicGroup tenant key outcome.fate).1.records = s.records
    unfold deleteDynamicGroup saveDynamicGroups
    split
    · split <;> rfl
    · split <;> rfl
  | tenantState tenant action =>
    cases action with
    | update update =>
      show (s.updateTenantState tenant update outcome.fate).1.records = s.records
      unfold updateTenantState
      dsimp only
      split <;> rfl
    | _ => rfl
  | createInstance _ _ | updateInstance _ _ | updateInstanceProviderState _ _ | markDrainStarted _
  | markDrainAcked | deleteInstance =>
    show (s.statement _ outcome.fate _).1.records = s.records
    unfold statement
    split <;> rfl
  | storeInstanceRecord record => exact absurd rfl (reads record)
  | createVM record =>
    show (s.createVM record outcome.fate (outcome.answer (.createVM record))).1.records = s.records
    unfold createVM
    split
    · rfl
    · rfl
    · split <;> rfl
  | deleteVM id vm =>
    show (if outcome.fate = .refused then s else _).records = s.records
    split <;> rfl
  | nat action =>
    show (s.onNAT action outcome).1.records = s.records
    unfold onNAT
    split
    · rfl
    · split <;> rfl
    · rfl
  | _ => rfl

end Server

end Nstance.Tenancy
