import Nstance.Interaction.Trace
import Nstance.Operator.SleepController

/-!
# The sleep controller at work

The controller is invoked for the Cluster again and again, one invocation at a time, and may
crash at any point. Somebody may edit the request between any two actions, and a read gives
any version of the Cluster. The log says which shards were told to sleep and which answered
since that they are awake; a call that fails may have reached the shard or not.
-/

namespace Nstance.Operator

open Interaction

/-- What shards were asked, or have answered. -/
inductive Happening where
  | sleepTenant (shard : Shard)
  | awake (shard : Shard)
deriving DecidableEq

/-- The shards that may have been put to sleep and did not answer since that they
are awake. -/
def sleepers : List Happening → List Shard
  | [] => []
  | .sleepTenant shard :: before => shard :: sleepers before
  | .awake shard :: before => (sleepers before).filter (· ≠ shard)

/-- The Cluster with its earlier versions, and the invocation under way. -/
structure State where
  cluster : Annotations := {}
  earlier : List Annotations := []
  running : Option (Code Result) := none
  log : List Happening := []

/-- How an action turns out. -/
inductive Outcome where
  | ok
  | fail (error : Err)
  /-- A read gives a version of the Cluster, the latest being number zero. -/
  | version (number : Nat)
  | connections (shards : Option (List Shard))
  | eligible (state : Eligibility)
  | zone (name : String)
  | time (now : Time)
  | slept (response : SleepResponse)
  | status (status : SleepStatus)

/-- Invocations, crashes and edits by others. -/
inductive Label where
  | invoke (name : String)
  | perform (outcome : Outcome)
  | done
  | crash
  | edit (request : String)

/-- A patch from the last annotation to none has `null` for all annotations. -/
def clears (r : SleepReconciler) (base modified : Annotations) : Bool :=
  !r.annotated && modified.bare && !base.bare

/-- A merge patch sets the keys that it changes. One that has `null` for all annotations also
removes those that it has not seen. -/
def merge (r : SleepReconciler) (base modified server : Annotations) : Annotations :=
  if clears r base modified then {}
  else
    { request := if base.request = modified.request then server.request else modified.request
      progress :=
        if base.progress = modified.progress then server.progress else modified.progress }

namespace State

/-- A new version of the Cluster. -/
def update (s : State) (annotations : Annotations) : State :=
  { s with cluster := annotations, earlier := s.cluster :: s.earlier }

/-- Write something down. -/
def happen (s : State) (happening : Happening) : State :=
  { s with log := happening :: s.log }

/-- An action, with the outcome the environment gives it. The connections are to
configured shards. -/
def perform (r : SleepReconciler) (s : State) :
    (action : Action) → Outcome → Option (State × Reply action)
  | .get, .version number => ((s.cluster :: s.earlier)[number]?).map fun found => (s, .ok found)
  | .get, .fail error => some (s, .error error)
  | .connections, .connections shards =>
    if (shards.getD []).all (· ∈ r.shards) then some (s, shards) else none
  | .eligible _, .eligible state => some (s, .ok state)
  | .eligible _, .fail error => some (s, .error error)
  | .getNode, .zone name => some (s, .ok name)
  | .getNode, .fail error => some (s, .error error)
  | .now, .time now => some (s, now)
  | .patch base edit, .ok =>
    let merged := merge r base (edit.apply base) s.cluster
    some (s.update merged, .ok merged)
  | .patch _ _, .fail error => some (s, .error error)
  | .sleepTenant shard _ _, .slept response => some (s.happen (.sleepTenant shard), .ok response)
  | .sleepTenant shard _ _, .fail error => some (s.happen (.sleepTenant shard), .error error)
  | .wakeTenant shard, .status .awake => some (s.happen (.awake shard), .ok .awake)
  | .wakeTenant _, .status status => some (s, .ok status)
  | .wakeTenant _, .fail error => some (s, .error error)
  | .getTenantStatus _, .status status => some (s, .ok status)
  | .getTenantStatus _, .fail error => some (s, .error error)
  | .event _, .ok => some (s, ())
  | _, _ => none

/-- One step. -/
def step (r : SleepReconciler) (s : State) : Label → Option State
  | .invoke name =>
    if s.running.isNone then some { s with running := some (reconcile r name) } else none
  | .perform outcome =>
    match s.running with
    | some (.perform action next) =>
      (s.perform r action outcome).map fun (after, reply) =>
        { after with running := some (next reply) }
    | _ => none
  | .done =>
    match s.running with
    | some (.pure _) => some { s with running := none }
    | some (.fail _) => some { s with running := none }
    | _ => none
  | .crash => some { s with running := none }
  | .edit request => some (s.update { s.cluster with request := request })

/-- The action that comes next. -/
def issues (s : State) : Option Action :=
  s.running.bind Program.next?

end State

/-- Runs of the operator. -/
def operator (r : SleepReconciler) : Machine State Label where
  start := {}
  step := State.step r

/-! ## What a step can do -/

section

variable {r : SleepReconciler} {s s' after : State}

/-- What an action does, with its reply. -/
inductive Effect (r : SleepReconciler) (s : State) :
    (action : Action) → Outcome → State → Reply action → Prop
  | read {number : Nat} {found : Annotations} :
      (s.cluster :: s.earlier)[number]? = some found →
        Effect r s .get (.version number) s (.ok found)
  | unread (error : Err) : Effect r s .get (.fail error) s (.error error)
  | connected {shards : Option (List Shard)} : (∀ shard ∈ shards.getD [], shard ∈ r.shards) →
      Effect r s .connections (.connections shards) s shards
  | judged (connections : List Shard) (state : Eligibility) :
      Effect r s (.eligible connections) (.eligible state) s (.ok state)
  | unjudged (connections : List Shard) (error : Err) :
      Effect r s (.eligible connections) (.fail error) s (.error error)
  | located (name : String) : Effect r s .getNode (.zone name) s (.ok name)
  | unlocated (error : Err) : Effect r s .getNode (.fail error) s (.error error)
  | timed (now : Time) : Effect r s .now (.time now) s now
  | patched (base : Annotations) (edit : Edit) :
      Effect r s (.patch base edit) .ok (s.update (merge r base (edit.apply base) s.cluster))
        (.ok (merge r base (edit.apply base) s.cluster))
  | unpatched (base : Annotations) (edit : Edit) (error : Err) :
      Effect r s (.patch base edit) (.fail error) s (.error error)
  | told (shard : Shard) (ifNotBusy : Bool) (wakeAt : Option Time) (response : SleepResponse) :
      Effect r s (.sleepTenant shard ifNotBusy wakeAt) (.slept response)
        (s.happen (.sleepTenant shard)) (.ok response)
  | untold (shard : Shard) (ifNotBusy : Bool) (wakeAt : Option Time) (error : Err) :
      Effect r s (.sleepTenant shard ifNotBusy wakeAt) (.fail error)
        (s.happen (.sleepTenant shard)) (.error error)
  | woken (shard : Shard) :
      Effect r s (.wakeTenant shard) (.status .awake) (s.happen (.awake shard)) (.ok .awake)
  | unwoken (shard : Shard) {status : SleepStatus} : status ≠ .awake →
      Effect r s (.wakeTenant shard) (.status status) s (.ok status)
  | unreached (shard : Shard) (error : Err) :
      Effect r s (.wakeTenant shard) (.fail error) s (.error error)
  | asked (shard : Shard) (status : SleepStatus) :
      Effect r s (.getTenantStatus shard) (.status status) s (.ok status)
  | unasked (shard : Shard) (error : Err) :
      Effect r s (.getTenantStatus shard) (.fail error) s (.error error)
  | recorded (reason : String) : Effect r s (.event reason) .ok s ()

theorem perform_effect {action : Action} {outcome : Outcome} {reply : Reply action}
    (performed : s.perform r action outcome = some (after, reply)) :
    Effect r s action outcome after reply := by
  cases action with
  | get =>
    cases outcome with
    | version number =>
      obtain ⟨found, present, same⟩ := Option.map_eq_some_iff.mp performed
      cases same
      exact .read present
    | fail error =>
      cases performed
      exact .unread error
    | _ => cases performed
  | connections =>
    cases outcome with
    | connections shards =>
      simp only [State.perform] at performed
      split at performed <;> cases performed
      rename_i configured
      exact .connected (by simpa using configured)
    | _ => cases performed
  | wakeTenant shard =>
    cases outcome with
    | status status =>
      cases status with
      | awake =>
        cases performed
        exact .woken shard
      | unspecified | asleep =>
        cases performed
        exact .unwoken shard (by decide)
    | fail error =>
      cases performed
      exact .unreached shard error
    | _ => cases performed
  | eligible | getNode | now | patch | sleepTenant | getTenantStatus | event =>
    cases outcome <;> cases performed <;> constructor

/-- What a step does, with what it found before. -/
inductive Change (r : SleepReconciler) (s : State) : Label → State → Prop
  | invoked (name : String) : s.running = none →
      Change r s (.invoke name) { s with running := some (reconcile r name) }
  | performed {action : Action} {next : Reply action → Code Result} {outcome : Outcome}
      {after : State} {reply : Reply action} : s.running = some (.perform action next) →
      Effect r s action outcome after reply →
        Change r s (.perform outcome) { after with running := some (next reply) }
  | ended : Change r s .done { s with running := none }
  | crashed : Change r s .crash { s with running := none }
  | edited (request : String) :
      Change r s (.edit request) (s.update { s.cluster with request := request })

theorem step_change {label : Label} (stepped : s.step r label = some s') : Change r s label s' := by
  cases label with
  | invoke name =>
    simp only [State.step] at stepped
    split at stepped <;> cases stepped
    exact .invoked name (Option.isNone_iff_eq_none.mp ‹_›)
  | perform outcome =>
    simp only [State.step] at stepped
    split at stepped
    · rename_i action next runs
      obtain ⟨⟨after, reply⟩, performed, rfl⟩ := Option.map_eq_some_iff.mp stepped
      exact .performed runs (perform_effect performed)
    · cases stepped
  | done =>
    simp only [State.step] at stepped
    split at stepped <;> cases stepped
    all_goals exact .ended
  | crash =>
    cases stepped
    exact .crashed
  | edit request =>
    cases stepped
    exact .edited request

theorem issues_of_runs {action : Action} {next : Reply action → Code Result}
    (runs : s.running = some (.perform action next)) : s.issues = some action := by
  rw [State.issues, runs]
  rfl

end

end Nstance.Operator
