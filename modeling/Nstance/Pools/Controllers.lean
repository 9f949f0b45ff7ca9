import Mathlib.Data.List.Sort
import Mathlib.Data.String.Basic
import Nstance.Objects.Dict
import Nstance.TenantState.Manager

/-!
# The controllers of a machine pool

The sync manager sees a group on the shards (`aggregateGroups`) and makes sure that an
NstanceMachinePool and a MachinePool of its name exist (`ensureMachinePool`). The pool
controller distributes the replicas of the MachinePool over the shards (`reconcile`), and
creates the MachinePool as well if it does not find it. Sizes are 32-bit integers, which
overflow silently.
-/

namespace Nstance.Pools

open Interaction
open Objects (Dict)
open TenantState (Err)

/-- A shard, by its name. -/
abbrev Shard := String

/-- The value of an `int32` that is computed with unbounded integers. -/
def wrap32 (value : Int) : Int := value.bmod (2 ^ 32)

/-- In order. -/
def sorted (texts : List String) : List String := texts.insertionSort fun a b => a ≤ b

/-! ## The group on the shards -/

/-- The status of a group on one shard, as `ListGroups` returns it. -/
structure GroupStatus where
  size : Int
  instanceType : String := ""
  vars : List (String × String) := []
  providerIDs : List String := []

/-- A group over all shards. -/
structure AggregatedGroup where
  totalReplicas : Int := 0
  shards : List Shard := []
  instanceType : String := ""
  vars : List (String × String) := []
  providerIDs : List String := []

/-- Add what one shard says. -/
def AggregatedGroup.add (agg : AggregatedGroup) (entry : Shard × GroupStatus) : AggregatedGroup :=
  { agg with
    shards := agg.shards ++ [entry.1]
    totalReplicas := wrap32 (agg.totalReplicas + entry.2.size)
    providerIDs := agg.providerIDs ++ entry.2.providerIDs }

/-- `aggregateGroups` for one key: the cached shards that have the group, in the order in
which the map is iterated. -/
def aggregateGroups : List (Shard × GroupStatus) → Option AggregatedGroup
  | [] => none
  | first :: rest => some ((first :: rest).foldl AggregatedGroup.add
      { instanceType := first.2.instanceType, vars := first.2.vars })

/-! ## Objects -/

/-- What a pool asks for. -/
structure PoolSpec where
  group : String
  shards : List Shard
  instanceType : Option String := none
  vars : List (String × String) := []
  providerIDList : List String := []
deriving DecidableEq

/-- What a pool reports. -/
structure PoolStatus where
  ready : Bool := false
  replicas : Int := 0
  observedGeneration : Nat := 0
  observedOwnerGeneration : Nat := 0
deriving DecidableEq

/-- The object of the pool. -/
structure Pool where
  spec : PoolSpec
  /-- The annotation says that the operator manages the pool. -/
  managed : Bool := false
  finalizer : Bool := false
  generation : Nat := 1
  resourceVersion : Nat := 1
  status : PoolStatus := {}
deriving DecidableEq

/-- The object of CAPI. -/
structure MachinePool where
  replicas : Option Int
  generation : Nat := 1

/-- The object of a group in one shard. -/
structure ShardGroup where
  size : Int
  ready : Bool := false

/-! ## Actions -/

/-- What the two controllers call. -/
inductive Action where
  | getPool
  | createPool (pool : Pool)
  | updatePool (pool : Pool)
  | updatePoolStatus (pool : Pool)
  /-- List the pools; is there another one of the group? -/
  | listPools
  | getMachinePool
  | createMachinePool (replicas : Option Int)
  /-- The shards of `ConnProvider.Get()`, unless it is nil. -/
  | connections
  /-- `PauseReconciliation` of the sync manager, before the loop over the shards with
  their sizes. -/
  | pauseReconciliation (plan : List (Shard × Int))
  | resumeReconciliation
  | getShardGroup (shard : Shard)
  | createShardGroup (shard : Shard) (size : Int)
  | updateShardGroup (shard : Shard) (size : Int)
  | listShardGroups
  | deleteShardGroup (shard : Shard)
deriving DecidableEq

/-- What each of them answers. -/
def Reply : Action → Type
  | .getPool => Except Err (Option Pool)
  | .createPool _ => Except Err Pool
  | .updatePool _ => Except Err Pool
  | .updatePoolStatus _ => Except Err Unit
  | .listPools => Except Err Bool
  | .getMachinePool => Except Err (Option MachinePool)
  | .createMachinePool _ => Except Err MachinePool
  | .connections => Option (List Shard)
  | .pauseReconciliation _ => Unit
  | .resumeReconciliation => Unit
  | .getShardGroup _ => Except Err (Option ShardGroup)
  | .createShardGroup _ _ => Except Err ShardGroup
  | .updateShardGroup _ _ => Except Err ShardGroup
  | .listShardGroups => Except Err (List Shard)
  | .deleteShardGroup _ => Except Err Unit

/-- Actions with their replies. -/
abbrev interface : Interface := ⟨Action, Reply⟩

/-- The programs of the controllers. -/
abbrev Code := Program interface Err

/-- Perform an action whose reply may carry an error. -/
def call {α : Type} (action : Action) (result : Reply action → Except Err α) : Code α :=
  Program.perform (I := interface) action fun reply => .ofExcept (result reply)

/-- Errors get a context. -/
def wrapping {α : Type} (context : String) (program : Code α) : Code α :=
  program.recover fun cause => .fail (.wrap context cause)

/-- Errors are dropped. -/
def ignoring (program : Code Unit) : Code Unit := program.recover fun _ => pure ()

/-! ## The sync manager -/

variable (group : String)

/-- The pool that `ensureMachinePool` creates. -/
def AggregatedGroup.pool (agg : AggregatedGroup) : Pool where
  spec.group := group
  spec.shards := agg.shards
  spec.instanceType := if agg.instanceType = "" then none else some agg.instanceType
  spec.vars := agg.vars
  spec.providerIDList := sorted agg.providerIDs
  managed := true

/-- The pool with what has changed; the shards are left as they are. -/
def AggregatedGroup.revise (agg : AggregatedGroup) (pool : Pool) : Pool :=
  { pool with spec := { pool.spec with
      group := group
      instanceType := if pool.spec.instanceType.getD "" = agg.instanceType
        then pool.spec.instanceType
        else if agg.instanceType = "" then none else some agg.instanceType
      vars := agg.vars
      providerIDList := sorted agg.providerIDs } }

/-- The pool of a group, created if it is missing. -/
def ensurePool (agg : AggregatedGroup) : Code Pool := do
  let found ← call .getPool fun reply => reply
  match found with
  | none =>
    wrapping "create NstanceMachinePool" (call (.createPool (agg.pool group)) fun reply => reply)
  | some pool =>
    if agg.revise group pool = pool then pure pool
    else
      wrapping "update NstanceMachinePool"
        (call (.updatePool (agg.revise group pool)) fun reply => reply)

/-- Report the size, if it has changed. -/
def reportReplicas (replicas : Int) (pool : Pool) : Code Unit :=
  if pool.status.replicas = replicas then pure ()
  else do
    let found ← wrapping "re-read NstanceMachinePool for status update"
      (call .getPool fun reply => reply)
    match found with
    | none => .fail (.wrap "re-read NstanceMachinePool for status update" (.message "not found"))
    | some pool =>
      wrapping "update NstanceMachinePool status" (call
        (.updatePoolStatus { pool with status := { pool.status with replicas := replicas } })
        fun reply => reply)

/-- The replicas are only set on creation. -/
def ensureMachinePool (agg : AggregatedGroup) : Code Unit := do
  let pool ← ensurePool group agg
  reportReplicas (wrap32 agg.providerIDs.length) pool
  let found ← call .getMachinePool fun reply => reply
  match found with
  | some _ => pure ()
  | none => do
      let _ ← wrapping "create MachinePool"
        (call (.createMachinePool (some agg.totalReplicas)) fun reply => reply)
      pure ()

/-! ## The pool controller -/

/-- Distribute the replicas; the first shards take the remainder. -/
def distributeReplicas (total : Int) (shards : List Shard) : Dict Shard Int :=
  let n := wrap32 shards.length
  if n = 0 then .empty
  else
    let base := total.tdiv n
    let remainder := total.tmod n
    Dict.empty.assign (shards.zipIdx.map fun entry =>
      (entry.1, if wrap32 entry.2 < remainder then wrap32 (base + 1) else base))

/-- The size of each shard. -/
def plan (total : Int) (shards : List Shard) : List (Shard × Int) :=
  let shardSizes := distributeReplicas total shards
  shards.map fun shard => (shard, (shardSizes.get shard).getD 0)

/-- The object of a shard with its size. -/
def ensureShardGroup (shard : Shard) (size : Int) : Code ShardGroup := do
  let found ← call (.getShardGroup shard) fun reply => reply
  match found with
  | none =>
    wrapping "create NstanceShardGroup" (call (.createShardGroup shard size) fun reply => reply)
  | some group =>
    if group.size = size then pure group
    else
      wrapping "update NstanceShardGroup"
        (call (.updateShardGroup shard size) fun reply => reply)

variable (pool : Pool)

/-- Report that the pool is not ready. -/
def reportNotReady (ownerGeneration : Nat) : Code Unit :=
  call (.updatePoolStatus { pool with status := { pool.status with
      ready := false
      observedGeneration := pool.generation
      observedOwnerGeneration := ownerGeneration } })
    fun reply => reply

/-- The loop over the shards: whether all shard groups are ready, unless one of them could
not be ensured. -/
def ensureShardGroups : List (Shard × Int) → Bool → Code (Option Bool)
  | [], allReady => pure (some allReady)
  | (shard, size) :: rest, allReady => do
      let ensured ← (ensureShardGroup shard size >>= fun group => pure (some group)).recover
        fun _ => pure none
      match ensured with
      | none => pure none
      | some group => ensureShardGroups rest (allReady && group.ready)

/-- Delete one after another. -/
def deleteEach : List Shard → Code Unit
  | [] => pure ()
  | shard :: rest => do
      wrapping ("failed to delete orphaned shard group " ++ shard)
        (call (.deleteShardGroup shard) fun reply => reply)
      deleteEach rest

/-- Delete the objects of shards that are not wanted. -/
def deleteOrphanedShardGroups (desired : List Shard) : Code Unit := do
  let owned ← wrapping "failed to list shard groups" (call .listShardGroups fun reply => reply)
  deleteEach (owned.filter fun shard => !desired.contains shard)

variable (machinePool : MachinePool)

/-- The part of `Reconcile` after the loop. -/
def conclude (allReady : Bool) : Code Unit := do
  deleteOrphanedShardGroups pool.spec.shards
  let pool ← (if pool.managed then pure pool
    else call (.updatePool { pool with managed := true }) fun reply => reply)
  call (.updatePoolStatus { pool with status := { pool.status with
      ready := allReady
      observedGeneration := pool.generation
      observedOwnerGeneration := machinePool.generation } })
    fun reply => reply

variable (sizes : List (Shard × Int))

/-- The part of `Reconcile` while the sync manager is paused. -/
def distribute : Code Unit := do
  let ended ← ensureShardGroups sizes true
  match ended with
  | none => ignoring (reportNotReady pool machinePool.generation)
  | some allReady => conclude pool machinePool allReady

/-- Pause the sync manager; the resumption is deferred. -/
def pausing (body : Code Unit) : Code Unit := do
  Program.act (I := interface) (.pauseReconciliation sizes)
  body.recover fun error => do
    Program.act (I := interface) .resumeReconciliation
    .fail error
  Program.act (I := interface) .resumeReconciliation

/-- The CAPI object, created if it is missing. -/
def findMachinePool : Code MachinePool := do
  let found ← call .getMachinePool fun reply => reply
  match found with
  | some machinePool => pure machinePool
  | none => call (.createMachinePool none) fun reply => reply

/-- Both generations were reconciled, and the pool was ready. -/
def observed : Bool :=
  pool.status.observedGeneration = pool.generation &&
    pool.status.observedOwnerGeneration = machinePool.generation && pool.status.ready

/-- The part of `Reconcile` with a pool and its MachinePool. -/
def reconcileShards : Code Unit :=
  if observed pool machinePool then pure ()
  else do
    let connections ← Program.act (I := interface) .connections
    match (connections : Option (List Shard)) with
    | none => pure ()
    | some connected =>
      if pool.spec.shards.all connected.contains then
        if pool.spec.shards = [] then
          reportNotReady pool pool.status.observedOwnerGeneration
        else
          -- The slice of the pool is sorted in place.
          let shards := sorted pool.spec.shards
          let pool := { pool with spec := { pool.spec with shards := shards } }
          let sizes := plan (machinePool.replicas.getD 0) shards
          pausing sizes (distribute pool machinePool sizes)
      else reportNotReady pool pool.status.observedOwnerGeneration

/-- `Reconcile` of the pool controller, for a pool that is not being deleted. -/
def reconcile : Code Unit := do
  let found ← call .getPool fun reply => reply
  match found with
  | none => pure ()
  | some pool => do
      let pool ← (if pool.finalizer then pure pool
        else call (.updatePool { pool with finalizer := true }) fun reply => reply)
      let duplicate ← call .listPools fun reply => reply
      if duplicate then reportNotReady pool pool.status.observedOwnerGeneration
      else do
        let machinePool ← findMachinePool
        reconcileShards pool machinePool

end Nstance.Pools
