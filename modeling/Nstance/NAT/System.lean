import Mathlib.Data.List.Perm.Basic
import Nstance.NAT.Manager

/-!
# The NAT manager at work

One manager runs its methods one at a time. Between any two actions of a method the clock
moves, the configuration changes, and instances of tenants come and go; a crash loses what
is in memory. Every call may fail, and a write or a change of a route may take effect and be
reported as failed. Of the creation of an ordinary instance only the preparation of the
subnet and, later, the insertion of the row are in the model.

The view holds the assignments and the routes, with what the running method has read so
far.
-/

namespace Nstance.NAT

open Interaction

/-- What does not change during a run. -/
structure Environment where
  vm : String → String
  /-- The tenants that are never asleep. -/
  awake : String → Bool := fun _ => false

/-- What is stored and routed, and what the method under way has read. -/
structure View where
  records : Assignments := .empty
  /-- The target of the route of a subnet of a tenant. -/
  routes : String → String → Option String := fun _ _ => none
  /-- The IDs that were generated for NAT instances. -/
  issued : List String := []
  config : Option Config := none
  listed : Option (List Instance) := none
  read : Option Time := none

namespace View

/-- The provider changes a route. -/
def setRoute (v : View) (request : NATRouteRequest) (target : Option String) : View :=
  { v with
    routes := Function.update v.routes request.tenant
      (Function.update (v.routes request.tenant) request.instanceSubnetID target) }

/-- The route of an assignment's subnet. -/
def route (v : View) (a : Assignment) : Option String := v.routes a.tenant a.instanceSubnetID

end View

/-- An instance row, with the time its subnet was prepared. -/
structure Row where
  inst : Instance
  /-- When `PrepareSubnet` returned. -/
  since : Time
  insertedAt : Time

/-- An ordinary instance that is past `PrepareSubnet` and has no row. -/
structure Creation where
  tenant : String
  subnetID : String
  since : Time
deriving DecidableEq

/-- The manager, with at most one method under way. -/
structure State where
  config : Config
  view : View := {}
  memory : Memory := {}
  running : Option (Call × Code Unit) := none
  now : Time := 0
  rows : List Row := []
  creations : List Creation := []

/-- How an action turns out. -/
inductive Outcome where
  | ok
  | fail (error : Err)
  /-- The action took effect and is reported as failed. -/
  | lost (error : Err)
  | inst (found : Instance)
  | instances (listed : List Instance)
  | order (entries : List Assignment)
  | id (instanceID : String)
  | asleep (value : Bool)

/-- The steps of the manager and of what is around it. -/
inductive Label where
  | begin (call : Call)
  | perform (outcome : Outcome)
  | done
  | crash
  | configure (config : Config)
  | tick (elapsed : Nat)
  | insert (creation : Creation) (instanceID : String)
  /-- A creation fails before its row is inserted. -/
  | abandon (creation : Creation)
  /-- The row of an ordinary instance is marked as deleted. -/
  | remove (instanceID : String)

/-- A row that tells the truth about its VM. -/
def Genuine (E : Environment) (instanceID : String) (inst : Instance) : Prop :=
  inst.id = instanceID ∧ ∀ providerID ∈ inst.providerID,
    providerID = E.vm instanceID ∧ providerID ≠ ""

instance (E : Environment) (instanceID : String) (inst : Instance) :
    Decidable (Genuine E instanceID inst) :=
  inferInstanceAs (Decidable (inst.id = instanceID ∧ ∀ providerID ∈ inst.providerID,
    providerID = E.vm instanceID ∧ providerID ≠ ""))

namespace State

variable (E : Environment) (s : State)

/-- What an action does, and what it answers. -/
def perform : (action : Action) → Outcome → Option (State × Reply action)
  | .getCurrent, .ok => some ({ s with view.config := some s.config }, s.config)
  | .assignments, .ok => some (s, .ok s.view.records)
  | .assignments, .fail error => some (s, .error error)
  | .listInstances, .instances listed =>
    if s.rows.all (·.inst ∈ listed) then
      some ({ s with view.listed := some listed }, .ok listed)
    else none
  | .listInstances, .fail error => some (s, .error error)
  | .getInstance instanceID, .inst found =>
    if Genuine E instanceID found then some (s, .ok found) else none
  | .getInstance _, .fail error => some (s, .error error)
  | .now, .ok => some ({ s with view.read := s.view.read.or (some s.now) }, s.now)
  | .tenantAsleep tenant, .asleep value =>
    if value ∧ E.awake tenant then none else some (s, value)
  | .range entries, .order order => if order.isPerm entries then some (s, order) else none
  | .newID _, .id instanceID =>
    if instanceID ≠ "" ∧ instanceID ∉ s.view.issued ∧
        s.rows.all (·.inst.id ≠ instanceID) then
      some ({ s with view.issued := instanceID :: s.view.issued }, .ok instanceID)
    else none
  | .newID _, .fail error => some (s, .error error)
  | .store call, .ok =>
    match call.apply s.view.records with
    | .ok (result, after) => some ({ s with view.records := after }, .ok result)
    | .error error => some (s, .error error)
  | .store _, .fail error => some (s, .error error)
  | .store call, .lost error =>
    match call.apply s.view.records with
    | .ok (_, after) => some ({ s with view.records := after }, .error error)
    | .error _ => none
  | .createNATInstance _, .ok => some (s, .ok ())
  | .createNATInstance _, .fail error => some (s, .error error)
  | .deleteInstance _ _, .ok => some (s, .ok ())
  | .deleteInstance _ _, .fail error => some (s, .error error)
  | .ensureNATRoute request, .ok =>
    some ({ s with view := s.view.setRoute request (some request.providerInstanceID) }, .ok ())
  | .ensureNATRoute _, .fail error => some (s, .error error)
  | .ensureNATRoute request, .lost error =>
    some ({ s with view := s.view.setRoute request (some request.providerInstanceID) },
      .error error)
  | .removeNATRoute request, .ok => some ({ s with view := s.view.setRoute request none }, .ok ())
  | .removeNATRoute _, .fail error => some (s, .error error)
  | .removeNATRoute request, .lost error =>
    some ({ s with view := s.view.setRoute request none }, .error error)
  | .readMemory, .ok => some (s, s.memory)
  | .remember memory, .ok => some ({ s with memory }, ())
  | _, _ => none

/-- What a method leaves behind: a preparation lets a creation go on. -/
def finish : Call → State
  | .prepareSubnet tenant subnetID =>
    { s with running := none, creations := ⟨tenant, subnetID, s.now⟩ :: s.creations }
  | _ => { s with running := none }

/-- A prepared creation inserts its row. -/
def insert (creation : Creation) (instanceID : String) : State :=
  { s with
    rows := ⟨{ id := instanceID, tenant := creation.tenant, subnetID := creation.subnetID },
      creation.since, s.now⟩ :: s.rows
    creations := s.creations.erase creation }

/-- One step. -/
def step : Label → Option State
  | .begin call =>
    match s.running with
    | none => some
        { s with
          running := some (call, call.program)
          view.config := none
          view.listed := none
          view.read := none }
    | some _ => none
  | .perform outcome =>
    match s.running with
    | some (call, .perform action next) =>
      (s.perform E action outcome).map fun performed =>
        { performed.1 with running := some (call, next performed.2) }
    | _ => none
  | .done =>
    match s.running with
    | some (call, .pure _) => some (s.finish call)
    | some (_, .fail _) => some { s with running := none }
    | _ => none
  | .crash => some { s with running := none, memory := {}, creations := [] }
  | .configure config => some { s with config }
  | .tick elapsed => some { s with now := s.now + elapsed }
  | .insert creation instanceID =>
    if creation ∈ s.creations ∧ instanceID ∉ s.view.issued then
      some (s.insert creation instanceID)
    else none
  | .abandon creation => some { s with creations := s.creations.erase creation }
  | .remove instanceID => some { s with rows := s.rows.filter (·.inst.id ≠ instanceID) }

/-- The action that comes next. -/
def issues : Option Action :=
  match s.running with
  | some (_, program) => program.next?
  | none => none

end State

/-- Runs under a configuration. -/
def manager (E : Environment) (config : Config) : Machine State Label where
  start := { config }
  step := State.step E

/-! ## What a step can do -/

/-- What a method learns from an action, and what has changed. -/
inductive Seen (E : Environment) (v : View) : (action : Action) → Reply action → View → Prop
  | configured (config : Config) : Seen E v .getCurrent config { v with config := some config }
  | loaded : Seen E v .assignments (.ok v.records) v
  | notLoaded (error : Err) : Seen E v .assignments (.error error) v
  | listed (found : List Instance) :
      Seen E v .listInstances (.ok found) { v with listed := some found }
  | notListed (error : Err) : Seen E v .listInstances (.error error) v
  | inst {instanceID : String} {found : Instance} : Genuine E instanceID found →
      Seen E v (.getInstance instanceID) (.ok found) v
  | noInst (instanceID : String) (error : Err) : Seen E v (.getInstance instanceID) (.error error) v
  | time (now : Time) : Seen E v .now now { v with read := v.read.or (some now) }
  | asleep {tenant : String} {value : Bool} : (value = true → E.awake tenant = false) →
      Seen E v (.tenantAsleep tenant) value v
  | order {entries order : List Assignment} : order.Perm entries → Seen E v (.range entries) order v
  | id (kind : String) {instanceID : String} : instanceID ≠ "" → instanceID ∉ v.issued →
      Seen E v (.newID kind) (.ok instanceID) { v with issued := instanceID :: v.issued }
  | noID (kind : String) (error : Err) : Seen E v (.newID kind) (.error error) v
  | stored {call : StoreCall} {result : call.Result} {after : Assignments} :
      call.apply v.records = .ok (result, after) →
      Seen E v (.store call) (.ok result) { v with records := after }
  | storedLost {call : StoreCall} {result : call.Result} {after : Assignments} (error : Err) :
      call.apply v.records = .ok (result, after) →
      Seen E v (.store call) (.error error) { v with records := after }
  | notStored (call : StoreCall) (error : Err) : Seen E v (.store call) (.error error) v
  | created (request : CreateInstanceRequest) (reply : Except Err Unit) :
      Seen E v (.createNATInstance request) reply v
  | deleted (tenant instanceID : String) (reply : Except Err Unit) :
      Seen E v (.deleteInstance tenant instanceID) reply v
  | routed (request : NATRouteRequest) (reply : Except Err Unit) :
      Seen E v (.ensureNATRoute request) reply
        (v.setRoute request (some request.providerInstanceID))
  | notRouted (request : NATRouteRequest) (error : Err) :
      Seen E v (.ensureNATRoute request) (.error error) v
  | removed (request : NATRouteRequest) (reply : Except Err Unit) :
      Seen E v (.removeNATRoute request) reply (v.setRoute request none)
  | notRemoved (request : NATRouteRequest) (error : Err) :
      Seen E v (.removeNATRoute request) (.error error) v
  | memoryRead (memory : Memory) : Seen E v .readMemory memory v
  | remembered (memory : Memory) : Seen E v (.remember memory) () v

/-- Nothing outside of the view and the memory was changed. -/
structure Undisturbed (s s' : State) : Prop where
  config : s'.config = s.config
  now : s'.now = s.now
  rows : s'.rows = s.rows
  creations : s'.creations = s.creations

section

variable {E : Environment} {s s' : State} {action : Action} {outcome : Outcome}
  {reply : Reply action}

theorem perform_seen (performed : s.perform E action outcome = some (s', reply)) :
    Seen E s.view action reply s'.view := by
  cases action with
  | getCurrent =>
    cases outcome <;> cases performed
    exact .configured _
  | assignments =>
    cases outcome <;> cases performed
    · exact .loaded
    · exact .notLoaded _
  | listInstances =>
    cases outcome with
    | instances listed =>
      simp only [State.perform] at performed
      split at performed <;> cases performed
      exact .listed listed
    | fail error =>
      cases performed
      exact .notListed error
    | _ => cases performed
  | getInstance instanceID =>
    cases outcome with
    | inst found =>
      simp only [State.perform] at performed
      split at performed <;> cases performed
      exact .inst ‹_›
    | fail error =>
      cases performed
      exact .noInst instanceID error
    | _ => cases performed
  | now =>
    cases outcome <;> cases performed
    exact .time _
  | tenantAsleep tenant =>
    cases outcome with
    | asleep value =>
      simp only [State.perform] at performed
      split at performed <;> cases performed
      rename_i possible
      exact .asleep (by simpa using possible)
    | _ => cases performed
  | range entries =>
    cases outcome with
    | order order =>
      simp only [State.perform] at performed
      split at performed <;> cases performed
      rename_i same
      exact .order (List.isPerm_iff.mp same)
    | _ => cases performed
  | newID kind =>
    cases outcome with
    | id instanceID =>
      simp only [State.perform] at performed
      split at performed <;> cases performed
      rename_i fresh
      exact .id kind fresh.1 fresh.2.1
    | fail error =>
      cases performed
      exact .noID kind error
    | _ => cases performed
  | store call =>
    cases outcome with
    | ok =>
      simp only [State.perform] at performed
      split at performed <;> cases performed
      · rename_i applied
        exact .stored applied
      · exact .notStored call _
    | fail error =>
      cases performed
      exact .notStored call error
    | lost error =>
      simp only [State.perform] at performed
      split at performed <;> cases performed
      rename_i applied
      exact .storedLost error applied
    | _ => cases performed
  | createNATInstance request =>
    cases outcome <;> cases performed <;> exact .created request _
  | deleteInstance tenant instanceID =>
    cases outcome <;> cases performed <;> exact .deleted tenant instanceID _
  | ensureNATRoute request =>
    cases outcome <;> cases performed
    · exact .routed request _
    · exact .notRouted request _
    · exact .routed request _
  | removeNATRoute request =>
    cases outcome <;> cases performed
    · exact .removed request _
    · exact .notRemoved request _
    · exact .removed request _
  | readMemory =>
    cases outcome <;> cases performed
    exact .memoryRead _
  | remember memory =>
    cases outcome <;> cases performed
    exact .remembered memory

theorem perform_undisturbed (performed : s.perform E action outcome = some (s', reply)) :
    Undisturbed s s' := by
  cases action <;> cases outcome <;> simp only [State.perform, reduceCtorEq] at performed
  all_goals first
    | (cases performed; exact ⟨rfl, rfl, rfl, rfl⟩)
    | (split at performed <;> cases performed <;> exact ⟨rfl, rfl, rfl, rfl⟩)

theorem rows_listed {reply : Reply .listInstances} {found : List Instance}
    (performed : s.perform E .listInstances outcome = some (s', reply))
    (answer : reply = .ok found) : ∀ row ∈ s.rows, row.inst ∈ found := by
  cases outcome with
  | instances listed =>
    simp only [State.perform] at performed
    split at performed <;> cases performed
    rename_i complete
    cases answer
    simpa using complete
  | fail error =>
    cases performed
    cases answer
  | _ => cases performed

theorem reply_config {reply : Reply .getCurrent}
    (performed : s.perform E .getCurrent outcome = some (s', reply)) : reply = s.config := by
  cases outcome <;> cases performed
  rfl

theorem reply_now {reply : Reply .now} (performed : s.perform E .now outcome = some (s', reply)) :
    reply = s.now := by
  cases outcome <;> cases performed
  rfl

theorem newID_not_row {kind : String} {reply : Reply (.newID kind)} {instanceID : String}
    (performed : s.perform E (.newID kind) outcome = some (s', reply))
    (answer : reply = .ok instanceID) : ∀ row ∈ s.rows, row.inst.id ≠ instanceID := by
  cases outcome with
  | id given =>
    simp only [State.perform] at performed
    split at performed <;> cases performed
    rename_i fresh
    cases answer
    simpa using fresh.2.2
  | fail error =>
    cases performed
    cases answer
  | _ => cases performed

/-- What a step does, with what it found before. -/
inductive Moved (E : Environment) (s : State) : Label → State → Prop
  | began (call : Call) : s.running = none → Moved E s (.begin call)
      { s with
        running := some (call, call.program)
        view.config := none
        view.listed := none
        view.read := none }
  | performed {call : Call} {action : Action} {next : Reply action → Code Unit}
      {outcome : Outcome} {after : State} {reply : Reply action} :
      s.running = some (call, .perform action next) →
      s.perform E action outcome = some (after, reply) →
      Moved E s (.perform outcome) { after with running := some (call, next reply) }
  | returned (call : Call) : s.running = some (call, .pure ()) → Moved E s .done (s.finish call)
  | failed {call : Call} {error : Err} : s.running = some (call, .fail error) →
      Moved E s .done { s with running := none }
  | crashed : Moved E s .crash { s with running := none, memory := {}, creations := [] }
  | configured (config : Config) : Moved E s (.configure config) { s with config }
  | ticked (elapsed : Nat) : Moved E s (.tick elapsed) { s with now := s.now + elapsed }
  | inserted {creation : Creation} {instanceID : String} : creation ∈ s.creations →
      instanceID ∉ s.view.issued →
      Moved E s (.insert creation instanceID) (s.insert creation instanceID)
  | abandoned (creation : Creation) : Moved E s (.abandon creation)
      { s with creations := s.creations.erase creation }
  | removed (instanceID : String) : Moved E s (.remove instanceID)
      { s with rows := s.rows.filter (·.inst.id ≠ instanceID) }

theorem step_moved {label : Label} (stepped : s.step E label = some s') : Moved E s label s' := by
  cases label with
  | begin call =>
    simp only [State.step] at stepped
    split at stepped <;> cases stepped
    exact .began call ‹_›
  | perform outcome =>
    simp only [State.step] at stepped
    split at stepped
    · rename_i runs
      obtain ⟨⟨after, reply⟩, performed, rfl⟩ := Option.map_eq_some_iff.mp stepped
      exact .performed runs performed
    · cases stepped
  | done =>
    simp only [State.step] at stepped
    split at stepped <;> cases stepped
    · exact .returned _ ‹_›
    · exact .failed ‹_›
  | crash =>
    cases stepped
    exact .crashed
  | configure config =>
    cases stepped
    exact .configured config
  | tick elapsed =>
    cases stepped
    exact .ticked elapsed
  | insert creation instanceID =>
    simp only [State.step] at stepped
    split at stepped <;> cases stepped
    rename_i possible
    exact .inserted possible.1 possible.2
  | abandon creation =>
    cases stepped
    exact .abandoned creation
  | remove instanceID =>
    cases stepped
    exact .removed instanceID

end

end Nstance.NAT
