import Mathlib.Data.Rat.Defs
import Mathlib.Algebra.Order.Ring.Rat
import Nstance.Interaction.Program
import Nstance.NAT.Assignments

/-!
# The operations of the NAT manager

The methods of `nat.Manager` as programs. Each runs under the manager's mutex, on a copy of
the assignments that it reads when it begins. A loop over a Go map visits the entries in an
order of its own: in `Action.range` the environment chooses it.
-/

namespace Nstance.NAT

open Interaction

abbrev Duration := Int

/-! ## Configuration, instances and metrics -/

/-- When an instance counts as loaded. -/
structure Thresholds where
  conntrackPercent : Rat := 0
  cpuPercent : Rat := 0
  packetDropsPerSecond : Rat := 0

/-- The managed NAT of one tenant; the fields not given are zero. -/
structure NATConfig where
  group : String := ""
  mode : String := ""
  publicAddresses : List PublicAddress := []
  lastInstanceGracePeriod : Duration := 0
  instanceTypeLadder : List String := []
  scaleUpThresholds : Thresholds := {}
  scaleDownThresholds : Thresholds := {}
  scaleUpWindow : Duration := 0
  scaleDownWindow : Duration := 0
  cooldown : Duration := 0
  replacementTimeout : Duration := 0

/-- What is read of a group. -/
structure GroupConfig where
  template : String := ""
  instanceType : String := ""

/-- What is read of the configuration. -/
structure Config where
  clusterID : String := ""
  healthCheckInterval : Duration := 0
  nat : String → Option NATConfig := fun _ => none
  /-- The group of a tenant, the zero value when there is none. -/
  groups : String → String → GroupConfig := fun _ _ => {}
  kinds : String → String := fun _ => ""

namespace Config

variable (cfg : Config) (tenant : String)

/-- Indexing the map at a tenant without an entry gives the zero value. -/
def natConfig : NATConfig := (cfg.nat tenant).getD {}

/-- `configured && natConfig.Group != ""`. -/
def dedicated : Bool :=
  (cfg.nat tenant).isSome && (cfg.natConfig tenant).group ≠ ""

/-- The kind of instance that a NAT group has. -/
def kind (natConfig : NATConfig) : String :=
  cfg.kinds (cfg.groups tenant natConfig.group).template

end Config

/-- What is read of an instance row. -/
structure Instance where
  id : String
  tenant : String
  subnetID : String
  providerID : Option String := none
  /-- The status in the provider state, when that decodes. -/
  status : Option String := none
  registeredAt : Option Time := none
  healthAt : Option Time := none
deriving DecidableEq

/-- The status of the provider means that the instance needs a replacement. -/
def isUnhealthy (status : String) : Bool :=
  status ∈ ["stopping", "stopped", "suspending", "suspended", "deleting", "deleted", "repairing"]

/-- A missing instance or a failure confirmed by the provider. -/
def instanceFailed : Option Instance → Bool
  | none => true
  | some inst => inst.status.any isUnhealthy

/-- Registered, and healthy within the threshold of missed reports. -/
def instanceReady (found : Option Instance) (healthInterval : Duration) (now : Time) : Bool :=
  match found with
  | none => false
  | some inst =>
    !instanceFailed (some inst) && inst.providerID.isSome && inst.registeredAt.isSome &&
      match inst.healthAt with
      | none => false
      | some healthAt => healthInterval ≤ 0 || now - healthAt < 3 * healthInterval

/-- `*instance.ProviderID`, of an instance that is ready. -/
def providerOf (found : Option Instance) : String :=
  (found.bind Instance.providerID).getD ""

/-- The drops of an interface. -/
structure InterfaceMetrics where
  rxDrops : Nat
  txDrops : Nat

/-- A report of an instance. -/
structure Metrics where
  networkInterface : Option InterfaceMetrics := none
  networkInterfaceError : Option String := none
  cpuUsage : Option Rat := none
  conntrackCount : Option Nat := none
  conntrackMax : Option Nat := none

/-- One server-side scaling observation for a NAT instance. -/
structure MetricSample where
  observedAt : Time
  drops : Nat
  cpu : Rat
  conntrack : Rat
deriving DecidableEq

/-- The observation in a health report, if the report is complete. -/
def Metrics.sample (metrics : Metrics) (observedAt : Time) : Option MetricSample :=
  match metrics.networkInterface, metrics.networkInterfaceError, metrics.cpuUsage,
      metrics.conntrackCount, metrics.conntrackMax with
  | some interface, none, some cpu, some count, some max =>
    if max = 0 then none
    else some
      { observedAt
        drops := (interface.rxDrops + interface.txDrops) % 2 ^ 64
        cpu
        conntrack := 100 * (count : Rat) / (max : Rat) }
  | _, _, _, _, _ => none

/-- The zero value of `time.Time`, in nanoseconds from the Unix epoch. A missing entry of a map
of times reads like it. -/
def zeroTime : Time := -62135596800000000000

/-- The maps of the manager, by instance. -/
structure Memory where
  metrics : String → Option MetricSample := fun _ => none
  scaleUpSince : String → Option Time := fun _ => none
  scaleDownSince : String → Option Time := fun _ => none

namespace Memory

variable (memory : Memory) (instanceID : String)

/-- Open or close the window for scaling up. -/
def setScaleUp (since : Option Time) : Memory :=
  { memory with scaleUpSince := Function.update memory.scaleUpSince instanceID since }

/-- Open or close the window for scaling down. -/
def setScaleDown (since : Option Time) : Memory :=
  { memory with scaleDownSince := Function.update memory.scaleDownSince instanceID since }

/-- Remember the last report. -/
def setMetrics (sample : MetricSample) : Memory :=
  { memory with metrics := Function.update memory.metrics instanceID (some sample) }

end Memory

/-! ## Actions -/

/-- The closures the manager passes to `AssignmentStore.Update`. -/
inductive Closure where
  /-- The last update of `PrepareSubnet`. -/
  | prepared (instanceType : String)
  /-- The subnet has instances again. -/
  | occupied
  /-- The subnet was found without instances. -/
  | emptied (now : Time)
  /-- The route of the instance was restored, or given up. -/
  | routed (value : Bool)
  /-- The update of `ensureRoute`. -/
  | provider (providerID : String)
  /-- The last update of `deleteAssignment`. -/
  | deleting
deriving DecidableEq

/-- What each closure changes. -/
def Closure.change : Closure → Change
  | .prepared instanceType =>
    ⟨fun a => { a with instanceType, emptySince := none, deleting := false, routed := true },
      fun _ => rfl⟩
  | .occupied => ⟨fun a => { a with emptySince := none }, fun _ => rfl⟩
  | .emptied now => ⟨fun a => { a with emptySince := some now }, fun _ => rfl⟩
  | .routed value => ⟨fun a => { a with routed := value }, fun _ => rfl⟩
  | .provider providerID => ⟨fun a => { a with providerID }, fun _ => rfl⟩
  | .deleting => ⟨fun a => { a with deleting := true, routed := false }, fun _ => rfl⟩

/-- The writing methods of the store. -/
inductive StoreCall where
  | claim (addresses : List PublicAddress)
      (tenant instanceSubnetID instanceID instanceType : String) (createdAt : Time)
  | claimReplacement (current : Assignment) (instanceID instanceType : String) (createdAt : Time)
  | update (instanceID : String) (closure : Closure)
  | promote (instanceID : String) (scaledAt : Time)
  | release (instanceID : String)

namespace StoreCall

/-- What each of them returns besides an error. -/
def Result : StoreCall → Type
  | .claim .. => Assignment
  | .claimReplacement .. => Assignment
  | _ => Unit

/-- Their effect on the document. -/
def apply : (call : StoreCall) → Assignments → Except Err (call.Result × Assignments)
  | .claim addresses tenant instanceSubnetID instanceID instanceType createdAt, s =>
    NAT.claim addresses tenant instanceSubnetID instanceID instanceType createdAt s
  | .claimReplacement current instanceID instanceType createdAt, s =>
    NAT.claimReplacement current instanceID instanceType createdAt s
  | .update instanceID closure, s =>
    (NAT.update instanceID closure.change s).map fun after => ((), after)
  | .promote instanceID scaledAt, s =>
    (NAT.promote instanceID scaledAt s).map fun after => ((), after)
  | .release instanceID, s => .ok ((), NAT.release instanceID s)

end StoreCall

/-- A NAT instance to create. -/
structure CreateInstanceRequest where
  instanceID : String
  tenant : String
  group : String
  instanceType : String := ""

/-- A route of a subnet, and where it leads. -/
structure NATRouteRequest where
  clusterID : String
  tenant : String
  instanceSubnetID : String
  destinationCIDR : String
  providerInstanceID : String
  previousProviderInstanceID : String := ""
  publicAddress : Option PublicAddress := none

/-- What the manager calls. -/
inductive Action where
  | getCurrent
  | assignments
  | listInstances
  | getInstance (instanceID : String)
  | now
  | tenantAsleep (tenant : String)
  /-- A loop over the entries of a map. -/
  | range (entries : List Assignment)
  /-- `puidv7.New`. -/
  | newID (kind : String)
  | store (call : StoreCall)
  | createNATInstance (request : CreateInstanceRequest)
  | deleteInstance (tenant instanceID : String)
  | ensureNATRoute (request : NATRouteRequest)
  | removeNATRoute (request : NATRouteRequest)
  | readMemory
  | remember (memory : Memory)

/-- What each of them answers. -/
def Reply : Action → Type
  | .getCurrent => Config
  | .assignments => Except Err Assignments
  | .listInstances => Except Err (List Instance)
  | .getInstance _ => Except Err Instance
  | .now => Time
  | .tenantAsleep _ => Bool
  | .range _ => List Assignment
  | .newID _ => Except Err String
  | .store call => Except Err call.Result
  | .createNATInstance _ => Except Err Unit
  | .deleteInstance _ _ => Except Err Unit
  | .ensureNATRoute _ => Except Err Unit
  | .removeNATRoute _ => Except Err Unit
  | .readMemory => Memory
  | .remember _ => Unit

/-- Actions with their replies. -/
abbrev interface : Interface := ⟨Action, Reply⟩

/-- The methods of the manager. -/
abbrev Code := Program interface Err

/-- `errors.Is`: the error, or one it wraps or joins, is the given one. -/
def Err.is : Err → Err → Bool
  | .wrap context cause, target => (Err.wrap context cause = target) || cause.is target
  | .join first second, target =>
    (Err.join first second = target) || first.is target || second.is target
  | error, target => error = target

namespace Manager

/-! ## Actions as programs -/

/-- An action whose reply is a value. -/
def act (action : Action) : Code (Reply action) := Program.act (I := interface) action

/-- An action whose reply carries an error. -/
def attempt {α : Type} (action : Action) (read : Reply action → Except Err α) : Code α :=
  Program.perform (I := interface) action fun reply => .ofExcept (read reply)

/-- Load the document. -/
def assignments : Code Assignments := attempt .assignments id

/-- The rows of the shard. -/
def listInstances : Code (List Instance) := attempt .listInstances id

variable (instanceID : String)

/-- A row, or why there is none. -/
def getInstance : Code (Except Err Instance) := act (.getInstance instanceID)

/-- A new ID. -/
def newID (kind : String) : Code String := attempt (.newID kind) id

/-- `Claim` of the store. -/
def claim (addresses : List PublicAddress)
    (tenant instanceSubnetID instanceID instanceType : String) (createdAt : Time) :
    Code Assignment :=
  attempt (.store (.claim addresses tenant instanceSubnetID instanceID instanceType createdAt)) id

/-- `ClaimReplacement` of the store. -/
def claimReplacement (current : Assignment) (instanceID instanceType : String)
    (createdAt : Time) : Code Assignment :=
  attempt (.store (.claimReplacement current instanceID instanceType createdAt)) id

/-- `Update` of the store. -/
def update (closure : Closure) : Code Unit :=
  attempt (.store (.update instanceID closure)) id

/-- `Promote` of the store. -/
def promote (scaledAt : Time) : Code Unit :=
  attempt (.store (.promote instanceID scaledAt)) id

/-- `Release` of the store. -/
def release : Code Unit := attempt (.store (.release instanceID)) id

/-- Have the instance created. -/
def createNATInstance (request : CreateInstanceRequest) : Code Unit :=
  attempt (.createNATInstance request) id

/-- Have the instance deleted. -/
def deleteInstance (tenant instanceID : String) : Code Unit :=
  attempt (.deleteInstance tenant instanceID) id

/-- Set the route. -/
def ensureNATRoute (request : NATRouteRequest) : Code Unit := attempt (.ensureNATRoute request) id

/-- Remove the route. -/
def removeNATRoute (request : NATRouteRequest) : Code Unit := attempt (.removeNATRoute request) id

/-- Read the clock. -/
def now : Code Time := act .now

/-- The entries of a map in any order. -/
def range (entries : List Assignment) : Code (List Assignment) := act (.range entries)

/-- `fmt.Errorf("context: %w", err)` around the error of a program. -/
def wrapping {α : Type} (context : String) (program : Code α) : Code α :=
  program.recover fun cause => .fail (.wrap context cause)

/-- The reply of a query; a missing row is not an error. -/
def found (context : String) : Except Err Instance → Code (Option Instance)
  | .ok inst => pure (some inst)
  | .error error => if error.is .noRows then pure none else .fail (.wrap context error)

/-- The first entry of a loop that ends at the first match. -/
def pick (wanted : Assignment → Bool) (entries : List Assignment) : Option Assignment :=
  (entries.find? wanted).filter (·.instanceID ≠ "")

/-! ## Routes -/

variable (cfg : Config) (instanceID : String) (natConfig : NATConfig) (tenant : String)
  (snapshot : Assignments) (a : Assignment) (subnetID : String) (assignment : Assignment)

/-- The route to an assignment's VM. -/
def routeRequest (s : Assignments) (a : Assignment) : NATRouteRequest where
  clusterID := cfg.clusterID
  tenant := a.tenant
  instanceSubnetID := a.instanceSubnetID
  destinationCIDR :=
    if (cfg.natConfig a.tenant).mode = "nat64" then "64:ff9b::/96" else "0.0.0.0/0"
  providerInstanceID := a.providerID
  previousProviderInstanceID := ((s.get a.replaces).map Assignment.providerID).getD ""
  publicAddress := a.publicAddress

/-- Record the VM, then set the route. -/
def ensureRoute (request : NATRouteRequest) : Code Unit := do
  wrapping "record NAT provider instance" (update instanceID (.provider request.providerInstanceID))
  ensureNATRoute request

/-! ## Replacements -/

/-- Create a second NAT instance before traffic is moved to it. -/
def startReplacement (current : Assignment) (instanceType : String) (now : Time) : Code Unit := do
  let instanceID ← wrapping "generate replacement NAT instance ID"
    (newID (cfg.kind current.tenant natConfig))
  let replacement ← claimReplacement current instanceID instanceType now
  if replacement.instanceID ≠ instanceID then pure ()
  else do
    (createNATInstance
      { instanceID, tenant := current.tenant, group := natConfig.group, instanceType }).recover
      fun error => do
        (release instanceID).recover fun releaseError =>
          .fail (.join (.wrap "create replacement NAT instance" error)
            (.wrap "release replacement NAT assignment" releaseError))
        .fail (.wrap "create replacement NAT instance" error)
    let memory ← act .readMemory
    act (.remember ((memory.setScaleUp current.instanceID none).setScaleDown
      current.instanceID none))

/-- The part of `Observe` that follows a scaling signal: remember when it began, and
replace the instance once it has lasted for the window. -/
def scaleAfter (since : Option Time) (window : Duration) (observedAt : Time) (started : Memory)
    (replace : Code Unit) : Code Unit :=
  match since.filter (· ≠ zeroTime) with
  | none => act (.remember started)
  | some began => if window ≤ observedAt - began then replace else pure ()

/-- The part of `Observe` after the assignment and the ladder position are known. -/
def scale (index : Nat) (previous current : MetricSample) : Code Unit := do
  let instanceID := assignment.instanceID
  let seconds : Rat := ((current.observedAt - previous.observedAt : Int) : Rat) / 1000000000
  let drops : Rat := ((current.drops - previous.drops : Nat) : Rat) / seconds
  let up := natConfig.scaleUpThresholds
  let down := natConfig.scaleDownThresholds
  let scaleUp := decide (up.cpuPercent < current.cpu ∨ up.conntrackPercent < current.conntrack ∨
    up.packetDropsPerSecond < drops)
  let scaleDown := decide (current.cpu ≤ down.cpuPercent ∧
    current.conntrack ≤ down.conntrackPercent ∧ drops ≤ down.packetDropsPerSecond)
  let memory ← act .readMemory
  match scaleUp, natConfig.instanceTypeLadder[index + 1]? with
  | true, some larger => do
      let memory := memory.setScaleDown instanceID none
      act (.remember memory)
      scaleAfter (memory.scaleUpSince instanceID) natConfig.scaleUpWindow current.observedAt
        (memory.setScaleUp instanceID (some current.observedAt))
        (startReplacement cfg natConfig assignment larger current.observedAt)
  | _, _ => do
      let memory := memory.setScaleUp instanceID none
      act (.remember memory)
      if scaleDown ∧ 0 < index then
        scaleAfter (memory.scaleDownSince instanceID) natConfig.scaleDownWindow
          current.observedAt (memory.setScaleDown instanceID (some current.observedAt))
          (startReplacement cfg natConfig assignment
            (natConfig.instanceTypeLadder.getD (index - 1) "") current.observedAt)
      else act (.remember (memory.setScaleDown instanceID none))

/-- The part of `Observe` after the assignment was found. -/
def evaluate (previous current : MetricSample) : Code Unit :=
  if ¬ cfg.dedicated assignment.tenant then pure ()
  else
    let natConfig := cfg.natConfig assignment.tenant
    match natConfig.instanceTypeLadder.findIdx? (· = assignment.instanceType) with
    | none => .fail (.message ("NAT instance type " ++ quoted assignment.instanceType ++
        " is not in the configured ladder"))
    | some index =>
      if assignment.lastScaleAt.any (current.observedAt - · < natConfig.cooldown) then pure ()
      else scale cfg natConfig assignment index previous current

/-- Evaluate one dedicated NAT health report for vertical scaling. -/
def observe (metrics : Option Metrics) (observedAt : Time) : Code Unit := do
  let memory ← act .readMemory
  match metrics.bind (·.sample observedAt) with
  | none => act (.remember ((memory.setScaleUp instanceID none).setScaleDown instanceID none))
  | some current => do
      act (.remember (memory.setMetrics instanceID current))
      match memory.metrics instanceID with
      | none => pure ()
      | some previous =>
        if current.observedAt ≤ previous.observedAt ∨ current.drops < previous.drops then
          pure ()
        else do
          let snapshot ← assignments
          let entries ← range snapshot.entries
          match pick (fun candidate => candidate.instanceID = instanceID ∧
              candidate.replaces = "" ∧ ¬ candidate.deleting) entries with
          | none => pure ()
          | some assignment => do
              let cfg ← act .getCurrent
              evaluate cfg assignment previous current

/-- Start a replacement without changing its subnet or fixed address. -/
def replaceInstance : Code Unit := do
  let snapshot ← assignments
  match snapshot.get instanceID with
  | none => pure ()
  | some assignment =>
    if assignment.deleting ∨ assignment.retiring ∨ assignment.replaces ≠ "" then pure ()
    else do
      let cfg ← act .getCurrent
      if ¬ cfg.dedicated assignment.tenant then pure ()
      else do
        let now ← now
        startReplacement cfg (cfg.natConfig assignment.tenant) assignment
          assignment.instanceType now

/-! ## Preparation -/

/-- The instance that serves a subnet: neither a replacement, nor on its way out. -/
def active : Bool := a.replaces = "" && !a.deleting && !a.retiring

/-- An assignment of the subnet. -/
def serves (a : Assignment) : Bool :=
  a.tenant = tenant && a.instanceSubnetID = subnetID

/-- The first assignment of a subnet. -/
def claimFirst : Code Assignment := do
  let instanceID ← wrapping "generate NAT instance ID" (newID (cfg.kind tenant natConfig))
  let now ← now
  (claim natConfig.publicAddresses tenant subnetID instanceID
    (cfg.groups tenant natConfig.group).instanceType now).recover fun error =>
      if error.is .publicAddressesExhausted then .fail (.join .subnetDependencyCapacity error)
      else .fail error

/-- The end of `PrepareSubnet`, for an instance that is ready. -/
def takeRoute (inst : Option Instance) : Code Unit := do
  ensureRoute assignment.instanceID
    (routeRequest cfg snapshot { assignment with providerID := providerOf inst })
  wrapping "record NAT provider instance" (update assignment.instanceID (.prepared
    (if assignment.instanceType = "" then (cfg.groups tenant natConfig.group).instanceType
      else assignment.instanceType)))

/-- The part of `PrepareSubnet` after the assignment of the subnet is known. -/
def prepareAssignment : Code Unit := do
  let reply ← getInstance assignment.instanceID
  let inst ← found "read NAT instance" reply
  if inst = none ∧ ¬ assignment.routed ∧ assignment.providerID = "" then do
    wrapping "create NAT instance" (createNATInstance
      { instanceID := assignment.instanceID, tenant, group := natConfig.group })
    .fail .notReady
  else if instanceFailed inst then do
    let now ← now
    startReplacement cfg natConfig assignment assignment.instanceType now
    .fail .notReady
  else do
    let now ← now
    if ¬ instanceReady inst cfg.healthCheckInterval now then .fail .notReady
    -- keep using the healthy active route while its replacement boots or cuts over
    else if assignment.routed ∧ snapshot.entries.any
        (fun candidate => candidate.replaces = assignment.instanceID ∧ ¬ candidate.deleting) then
      pure ()
    else takeRoute cfg natConfig tenant snapshot assignment inst

/-- Ensure a healthy NAT instance and its route before a dependent instance is
created. -/
def prepareSubnet : Code Unit := do
  let cfg ← act .getCurrent
  match cfg.nat tenant with
  | none => pure ()
  | some natConfig => do
      let snapshot ← assignments
      let entries ← range snapshot.entries
      match pick (fun candidate => serves tenant subnetID candidate ∧ active candidate)
          entries with
      | some assignment => prepareAssignment cfg natConfig tenant snapshot assignment
      | none => do
          let assignment ← claimFirst cfg natConfig tenant subnetID
          prepareAssignment cfg natConfig tenant snapshot assignment

/-! ## Removal -/

/-- The route goes back to the predecessor of an interrupted replacement, or stays
until a healthy instance can take over. -/
def restorePrevious (previous assignment : Assignment) : Code Unit := do
  let reply ← getInstance previous.instanceID
  let inst ← found "read previous NAT instance" reply
  let now ← now
  if instanceReady inst cfg.healthCheckInterval now then do
    wrapping "restore previous NAT route" (ensureRoute previous.instanceID
      { routeRequest cfg snapshot { previous with providerID := providerOf inst } with
        previousProviderInstanceID := assignment.providerID })
    update previous.instanceID (.routed true)
  else update previous.instanceID (.routed false)

/-- The part of `deleteAssignment` that decides about the route. -/
def withdrawRoute : Code Unit :=
  match snapshot.get assignment.replaces with
  | some previous =>
    if cfg.dedicated assignment.tenant ∧ ¬ previous.deleting ∧ ¬ previous.retiring then
      restorePrevious cfg snapshot previous assignment
    else wrapping "remove NAT route" (removeNATRoute (routeRequest cfg snapshot assignment))
  | none => wrapping "remove NAT route" (removeNATRoute (routeRequest cfg snapshot assignment))

/-- The part of `deleteAssignment` for an assignment that is not marked yet. -/
def condemn : Code Unit := do
  -- a pending replacement may have changed the route only after recording its provider ID
  (if ¬ assignment.retiring ∧ (assignment.replaces = "" ∨ assignment.providerID ≠ "") then
    withdrawRoute cfg snapshot assignment
  else pure ())
  (deleteInstance assignment.tenant assignment.instanceID).recover fun error =>
    if error.is .noRows then pure () else .fail (.wrap "delete NAT instance" error)
  update assignment.instanceID .deleting

/-- Remove an unused NAT route and instance. -/
def deleteAssignment : Code Unit := do
  (if assignment.deleting then pure () else condemn cfg snapshot assignment)
  release assignment.instanceID

/-! ## Reconciliation -/

/-- Make the replacement the target of the route. -/
def switchRoute (inst : Option Instance) (now : Time) : Code Unit := do
  wrapping "switch NAT route to replacement" (ensureRoute assignment.instanceID
    (routeRequest cfg snapshot { assignment with providerID := providerOf inst }))
  promote assignment.instanceID now

/-- The first loop of `Reconcile`. It returns whether that returned from
`Reconcile`. -/
def cutover (cfg : Config) (snapshot : Assignments) (now : Time) : List Assignment → Code Bool
  | [] => pure false
  | assignment :: rest =>
    if assignment.replaces = "" ∨ assignment.deleting then cutover cfg snapshot now rest
    else do
      let reply ← getInstance assignment.instanceID
      if ¬ cfg.dedicated assignment.tenant then do
        deleteAssignment cfg snapshot assignment
        pure true
      else if instanceReady reply.toOption cfg.healthCheckInterval now then do
        switchRoute cfg snapshot assignment reply.toOption now
        pure true
      else if (cfg.natConfig assignment.tenant).replacementTimeout ≤ now - assignment.createdAt
        then do
          deleteAssignment cfg snapshot assignment
          pure true
      else cutover cfg snapshot now rest

/-- An instance in the subnet of an assignment that is not a NAT instance. -/
def dependsOn (inst : Instance) : Bool :=
  inst.tenant = assignment.tenant && inst.subnetID = assignment.instanceSubnetID &&
    inst.id ∉ snapshot.entries.map Assignment.instanceID

/-- The second loop of `Reconcile`, for an assignment with dependants. -/
def tend (now : Time) (assignment : Assignment) : Code Unit := do
  (if assignment.emptySince ≠ none then update assignment.instanceID .occupied else pure ())
  let reply ← getInstance assignment.instanceID
  let inst ← found "read NAT instance" reply
  if instanceFailed inst then
    startReplacement cfg (cfg.natConfig assignment.tenant) assignment assignment.instanceType now
  else if ¬ assignment.routed ∧ instanceReady inst cfg.healthCheckInterval now then do
    wrapping "restore active NAT route" (ensureRoute assignment.instanceID
      (routeRequest cfg snapshot { assignment with providerID := providerOf inst }))
    update assignment.instanceID (.routed true)
  else pure ()

/-- The second loop of `Reconcile`, for an assignment that may be unused. -/
def visit (localInstances : List Instance) (now : Time) (assignment : Assignment) : Code Unit :=
  if assignment.replaces ≠ "" ∧ ¬ assignment.deleting then pure ()
  else if localInstances.any (dependsOn snapshot assignment) ∧ cfg.dedicated assignment.tenant ∧
      ¬ assignment.deleting ∧ ¬ assignment.retiring then
    tend cfg snapshot now assignment
  else do
    let asleep : Bool ← act (.tenantAsleep assignment.tenant)
    if ¬ assignment.deleting ∧ cfg.dedicated assignment.tenant ∧ ¬ assignment.retiring ∧ ¬ asleep
      then
        match assignment.emptySince with
        | none => update assignment.instanceID (.emptied now)
        | some since =>
          if now - since < (cfg.natConfig assignment.tenant).lastInstanceGracePeriod then
            pure ()
          else deleteAssignment cfg snapshot assignment
    else deleteAssignment cfg snapshot assignment

/-- Visit one assignment after another. -/
def sweep (cfg : Config) (snapshot : Assignments) (localInstances : List Instance) (now : Time) :
    List Assignment → Code Unit
  | [] => pure ()
  | assignment :: rest => do
      visit cfg snapshot localInstances now assignment
      sweep cfg snapshot localInstances now rest

/-- Replace and remove dedicated NAT instances as demand changes. -/
def reconcile : Code Unit := do
  let cfg ← act .getCurrent
  let snapshot ← assignments
  let localInstances ← wrapping "list instances" listInstances
  let now ← now
  let pending ← range snapshot.entries
  let returned ← cutover cfg snapshot now pending
  if returned then pure ()
  else do
    let entries ← range snapshot.entries
    sweep cfg snapshot localInstances now entries

end Manager

/-- The methods that take the manager's mutex. -/
inductive Call where
  | prepareSubnet (tenant subnetID : String)
  | observe (instanceID : String) (metrics : Option Metrics) (observedAt : Time)
  | replaceInstance (instanceID : String)
  | reconcile

/-- The method behind a call. -/
def Call.program : Call → Code Unit
  | .prepareSubnet tenant subnetID => Manager.prepareSubnet tenant subnetID
  | .observe instanceID metrics observedAt => Manager.observe instanceID metrics observedAt
  | .replaceInstance instanceID => Manager.replaceInstance instanceID
  | .reconcile => Manager.reconcile

end Nstance.NAT
