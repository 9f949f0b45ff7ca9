import Nstance.Interaction.Program
import Mathlib.Data.List.Sort

/-!
# The sleep controller of the operator

`SleepReconciler.Reconcile` and the functions it calls, as programs. A patch is made against
the object as it was read: it sends what differs from there and brings the object up to
date. So the object is a value that the functions pass on.
-/

namespace Nstance.Operator

open Interaction

/-- A shard, by its name. -/
abbrev Shard := String

/-- Times and durations in nanoseconds. -/
abbrev Time := Int

/-! ## Annotations -/

/-- How far a sleep has got. -/
inductive Phase where
  | sleeping
  | finalizing
  | compensating
deriving DecidableEq

/-- The value of the progress annotation, which remains on the Cluster until
every shard is awake again. -/
structure Progress where
  request : String
  phase : Phase
  accepted : List Shard := []
  finalShard : Shard := ""
  reason : String := ""
deriving DecidableEq

/-- The two annotations of the Cluster. A request that is absent reads as the
empty text. -/
structure Annotations where
  request : String := ""
  progress : Option Progress := none

/-- Neither of the two is there. -/
def Annotations.bare (annotations : Annotations) : Bool :=
  annotations.request = "" && annotations.progress = none

/-- What a patch changes: the request that the controller makes, the progress, or both
annotations, which it removes. -/
inductive Edit where
  | request (value : String)
  | progress (value : Progress)
  | finish
deriving DecidableEq

/-- What an edit makes of the annotations. -/
def Edit.apply : Edit → Annotations → Annotations
  | .request value, cluster => { cluster with request := value }
  | .progress value, cluster => { cluster with progress := some value }
  | .finish, _ => {}

/-! ## Replies -/

/-- What the check of a normal sleep finds. -/
structure Eligibility where
  wakeAt : Option Time := none
  shard : Shard := ""

/-- `TenantSleepStatus` of the operator protocol. -/
inductive SleepStatus where
  | unspecified
  | awake
  | asleep
deriving DecidableEq

/-- `SleepTenantResponse.Result` of the operator protocol. -/
inductive SleepResult where
  | unspecified
  | slept
  | alreadyAsleep
  | busy
deriving DecidableEq

/-- The answer of `SleepTenant`. -/
structure SleepResponse where
  result : SleepResult
  status : SleepStatus

/-- The shard says that it is asleep. -/
def SleepResponse.confirmed (response : SleepResponse) : Bool :=
  (response.result = .slept || response.result = .alreadyAsleep) && response.status = .asleep

/-- An error, as far as its kind matters. -/
inductive Err where
  | notFound
  | failed (message : String)

/-- What an error says. -/
def Err.message : Err → String
  | .notFound => "not found"
  | .failed message => message

/-- `errors.Join`. -/
def Err.join (errs : List Err) : Err :=
  .failed ("\n".intercalate (errs.map Err.message))

/-- `ctrl.Result`. -/
structure Result where
  requeue : Bool := false
  requeueAfter : Time := 0

/-- Nanoseconds. -/
def second : Time := 1000000000

/-! ## The controller -/

/-- What the controller is configured with. `parsesTime` says which texts
`time.Parse` takes for a time, and `formatTime` writes one. No shard has an
empty name: loading the configuration fails on one. -/
structure SleepReconciler where
  clusterName : String
  shards : List Shard
  enabled : Bool
  reconcilePeriod : Time
  nodeName : String := ""
  /-- Whether the Cluster has annotations of others. The operator creates it with none. -/
  annotated : Bool := false
  parsesTime : String → Bool
  formatTime : Time → String
  named : "" ∉ shards

/-- What the controller calls. -/
inductive Action where
  | get
  | connections
  | eligible (connections : List Shard)
  | getNode
  | now
  | patch (base : Annotations) (edit : Edit)
  | sleepTenant (shard : Shard) (ifNotBusy : Bool) (wakeAt : Option Time)
  | wakeTenant (shard : Shard)
  | getTenantStatus (shard : Shard)
  | event (reason : String)

/-- The connections are the shards there is one to, if they are ready at all;
the node answers with its topology zone; a patch answers with the object as it
then is. -/
abbrev Reply : Action → Type
  | .get => Except Err Annotations
  | .connections => Option (List Shard)
  | .eligible _ => Except Err Eligibility
  | .getNode => Except Err String
  | .now => Time
  | .patch _ _ => Except Err Annotations
  | .sleepTenant _ _ _ => Except Err SleepResponse
  | .wakeTenant _ => Except Err SleepStatus
  | .getTenantStatus _ => Except Err SleepStatus
  | .event _ => Unit

/-- Actions with their replies. -/
def interface : Interface := ⟨Action, Reply⟩

/-- The programs of the controller. -/
abbrev Code (α : Type) := Program interface Err α

open Program hiding pure bind

/-- An action whose reply is a value. -/
def act (action : Action) : Code (Reply action) :=
  Program.act (I := interface) action

variable (r : SleepReconciler) (request : String) (cluster : Annotations) (progress : Progress)

/-- Write progress to the Cluster. -/
def storeProgress : Code Annotations := do
  ofExcept (← act (.patch cluster (.progress progress)))

/-- Remove both annotations. -/
def finish (cluster : Annotations) : Code Annotations := do
  ofExcept (← act (.patch cluster .finish))

/-- Remove the request, and say why. -/
def reject (reason : String) : Code Result := do
  let _ ← finish cluster
  act (.event reason)
  pure {}

/-- The loop of `compensate`: the shards that remain, and why. -/
def wakeEach (connections : List Shard) : List Shard → Code (List Shard × List Err)
  | [] => pure ([], [])
  | shard :: rest =>
    if shard ∈ connections then do
      let response ← act (.wakeTenant shard)
      let (remaining, errs) ← wakeEach connections rest
      match response with
      | .ok .awake => pure (remaining, errs)
      | .ok _ => pure (shard :: remaining,
          .failed ("wake shard " ++ shard ++ ": shard returned non-awake status") :: errs)
      | .error error => pure (shard :: remaining,
          .failed ("wake shard " ++ shard ++ ": " ++ error.message) :: errs)
    else do
      let (remaining, errs) ← wakeEach connections rest
      pure (shard :: remaining, .failed ("shard " ++ shard ++ " has no connection") :: errs)

/-- Wake what was put to sleep, and finish if all is awake. -/
def compensate : Code Result := do
  let connections ← act .connections
  let (remaining, errs) ← wakeEach (connections.getD []) progress.accepted
  if remaining = [] then
    let _ ← finish cluster
    if progress.reason ≠ "" then act (.event progress.reason)
    pure {}
  else
    let _ ← storeProgress cluster { progress with accepted := remaining }
    .fail (.join errs)

/-- The first loop of `restoreAfterWake`: every shard that answers is asleep, and
some shard has no connection. -/
def readStatuses (connections : List Shard) : List Shard → Bool → Bool → Code (Bool × Bool)
  | [], allAsleep, missing => pure (allAsleep, missing)
  | shard :: rest, allAsleep, missing =>
    if shard ∈ connections then do
      match ← act (.getTenantStatus shard) with
      | .ok status => readStatuses connections rest (allAsleep && status = .asleep) missing
      | .error error =>
        .fail (.failed ("read shard " ++ shard ++ " sleep status: " ++ error.message))
    else readStatuses connections rest allAsleep true

/-- Wake the rest when a shard is found awake. -/
def restoreAfterWake : Code Result := do
  match ← act .connections with
  | none => pure { requeueAfter := second }
  | some connections => do
      let (allAsleep, missing) ← readStatuses connections r.shards true false
      if allAsleep then
        pure { requeueAfter := if missing then second else r.reconcilePeriod }
      else
        let progress := { progress with
          phase := .compensating, accepted := r.shards.insertionSort (· ≤ ·), reason := "" }
        let cluster ← storeProgress cluster progress
        compensate cluster progress

/-- `decodeProgress`. The annotation holds what `storeProgress` encoded, so its
phase is one of the three. -/
def decodeProgress (value : Option Progress) (request : String) : Except Err Progress :=
  match value with
  | none => .ok { request := request, phase := .sleeping }
  | some progress =>
    if progress.request ≠ request then .error (.failed "progress does not match request")
    else if progress.phase = .finalizing ∧ progress.finalShard = "" then
      .error (.failed "finalizing progress has no final shard")
    else .ok progress

/-- The shard of the operator comes last. -/
def orderedShards (connections : List Shard) (coordinating : Shard) : List Shard :=
  (connections.filter (· ≠ coordinating)).insertionSort (· ≤ ·) ++
    if coordinating ∈ connections then [coordinating] else []

/-- The last one, if any. -/
def lastShard (shards : List Shard) : Shard :=
  shards.getLastD ""

/-! ## Forward progress -/

/-- The progress stored before a shard is put to sleep. Until success is durably
recorded, a restart must compensate even if the call never arrived or its
response was lost. -/
def Progress.announce (shard finalShard : Shard) : Progress :=
  if shard = finalShard then { progress with phase := .finalizing, finalShard := shard }
  else { progress with
    phase := .compensating
    reason := "sleep interrupted before shard confirmation"
    accepted := progress.accepted ++ [shard] }

/-- The progress stored after a shard did not confirm. -/
def Progress.abandon (shard : Shard) (reason : String) : Progress :=
  { progress with
    phase := .compensating
    accepted := if shard ∈ progress.accepted then progress.accepted
      else progress.accepted ++ [shard]
    reason := reason }

/-- Store the progress, then wake. -/
def rollBack : Code Result := do
  let cluster ← storeProgress cluster progress
  compensate cluster progress

/-- The loop of `Reconcile` over the shards. -/
def sleepShards (r : SleepReconciler) (force : Bool) (state : Eligibility) (finalShard : Shard) :
    List Shard → Annotations → Progress → Code Result
  | [], _, _ => pure { requeueAfter := r.reconcilePeriod }
  | shard :: rest, cluster, progress =>
    if shard ∈ progress.accepted then
      sleepShards r force state finalShard rest cluster progress
    else do
      let progress := progress.announce shard finalShard
      let cluster ← storeProgress cluster progress
      match ← act (.sleepTenant shard (!force)
        (if shard = finalShard then state.wakeAt else none)) with
      | .error error =>
        if shard = finalShard then pure { requeueAfter := second }
        else rollBack cluster (progress.abandon shard error.message)
      | .ok response =>
        if response.confirmed then
          if shard = finalShard then pure { requeueAfter := r.reconcilePeriod }
          else
            let progress := { progress with phase := .sleeping, reason := "" }
            let cluster ← storeProgress cluster progress
            sleepShards r force state finalShard rest cluster progress
        else
          rollBack cluster (progress.abandon shard
            (if response.result = .busy then "shard rejected sleep as busy"
              else "shard " ++ shard ++ " did not confirm sleep"))

/-- The part of `Reconcile` that looks for the coordinating shard. -/
def coordinate (state : Eligibility) : Code Eligibility :=
  if r.nodeName = "" then pure state
  else do
    match ← act .getNode with
    | .error error => .fail (.failed ("read coordinating node: " ++ error.message))
    | .ok zone =>
      if zone = "" then
        .fail (.failed ("coordinating node " ++ r.nodeName ++ " has no topology zone"))
      else pure { state with shard := zone }

/-- The part of `Reconcile` that puts the shards to sleep. -/
def sleepAll (force : Bool) (connections : List Shard) (cluster : Annotations) (progress : Progress)
    (state : Eligibility) : Code Result := do
  let state ← coordinate r state
  let shards := orderedShards connections state.shard
  sleepShards r force state (lastShard shards) shards cluster progress

/-! ## Requests -/

/-- `strings.HasPrefix(request, "force:")`. -/
def isForced : Bool :=
  "force:".toList.isPrefixOf request.toList

/-- `strings.TrimPrefix(request, "force:")`. -/
def requestTime : String :=
  if isForced request then .ofList (request.toList.drop "force:".toList.length) else request

/-- The part of `Reconcile` for forward progress. -/
def proceed : Code Result := do
  match ← act .connections with
  | none => pure { requeueAfter := second }
  | some connections =>
    if isForced cluster.request then sleepAll r true connections cluster progress {}
    else do
      match ← act (.eligible connections) with
      | .ok state => sleepAll r false connections cluster progress state
      | .error error =>
        if progress.accepted = [] then reject cluster error.message
        else
          rollBack cluster { progress with
            phase := .compensating, reason := error.message }

/-- The part of `Reconcile` for a cluster without a request. -/
def requestSleep : Code Result :=
  if r.enabled then do
    match ← act .connections with
    | none => pure { requeueAfter := second }
    | some connections => do
        match ← act (.eligible connections) with
        | .error _ => pure { requeueAfter := r.reconcilePeriod }
        | .ok _ => do
            let time ← act .now
            let _ ← ofExcept (← act (.patch cluster (.request (r.formatTime time))))
            pure { requeue := true }
  else pure { requeueAfter := r.reconcilePeriod }

/-- The part of `Reconcile` for a request. -/
def serve : Code Result :=
  if r.parsesTime (requestTime cluster.request) then
    match decodeProgress cluster.progress cluster.request with
    | .error error => reject cluster ("invalid sleep progress: " ++ error.message)
    | .ok progress =>
      match progress.phase with
      | .finalizing => restoreAfterWake r cluster progress
      | .compensating => compensate cluster progress
      | .sleeping => proceed r cluster progress
  else reject cluster "invalid sleep request"

/-- `Reconcile` of a Cluster. -/
def reconcile (name : String) : Code Result :=
  if name ≠ r.clusterName then pure {}
  else do
    match ← act .get with
    | .error .notFound => pure {}
    | .error error => .fail error
    | .ok cluster =>
      if cluster.request = "" then requestSleep r cluster
      else serve r cluster

end Nstance.Operator
