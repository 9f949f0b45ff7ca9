import Mathlib.Data.List.Sort
import Mathlib.Data.String.Basic
import Nstance.Configuration.Groups
import Nstance.Interaction.Execution
import Nstance.Targets.Invariants

/-!
# Which groups are live

The reconciler takes the merged groups of a tenant, static and dynamic. The cutover takes the
static groups and their static sizes. They agree if and only if a group that only its
dynamic size makes live has no load balancer that takes targets, and the load balancers that
come or go with it belong to other live groups as well (`agrees_iff_aligned`). Otherwise
the reconciler registers targets which a sleeping tenant keeps.
-/

namespace Nstance.Targets

open Interaction
open Program hiding pure bind
open Objects (Dict)
open Nstance.Configuration (GroupConfig Groups)
open TenantState (Tenant Err)

variable {Args : Type}

/-! ## The configuration of a server -/

/-- The static configuration of a server and the document of dynamic groups. -/
structure Server (Args : Type) where
  loadBalancers : Dict LBKey LoadBalancer := .empty
  groups : Tenant → Groups Args := fun _ => .empty
  dynamicGroups : Tenant → Groups Args := fun _ => .empty

/-- What is read of a group. -/
def Group.ofConfig (group : GroupConfig Args) : Group := ⟨group.size, group.loadBalancers⟩

variable {group : GroupConfig Args}

theorem Group.sized_ofConfig : (Group.ofConfig group).sized = true ↔ 0 < group.getSize := by
  rw [Group.sized, GroupConfig.getSize, Group.ofConfig]
  cases group.size <;> simp

namespace Server

variable (server : Server Args)

/-- The configuration that `options.Config()` and `GetCurrent` return: static groups,
which `instanceTargets` sorts by name. -/
def config : Config where
  loadBalancers := server.loadBalancers.entries
  groups tenant := ((server.groups tenant).entries.insertionSort fun a b => a.1 ≤ b.1).map
    fun entry => (entry.1, Group.ofConfig entry.2)

/-- Indexing by a name that is not configured gives the zero value. -/
def loadBalancer (name : LBKey) : LoadBalancer :=
  (server.loadBalancers.get name).getD ⟨false⟩

/-- The body of the loop of `loadBalancers` over the groups. -/
def collect (set : Dict LBKey LoadBalancer)
    (entry : String × GroupConfig Args) : Dict LBKey LoadBalancer :=
  if (Group.ofConfig entry.2).sized then
    entry.2.loadBalancers.foldl (fun set name => set.set name (server.loadBalancer name)) set
  else set

end Server

variable (server : Server Args) (tenant : Tenant)

/-- The load balancers referenced by the groups of a tenant, sorted by name. -/
def loadBalancers : List (LBKey × LoadBalancer) :=
  let set := (server.groups tenant).entries.foldl server.collect .empty
  ((set.entries.map Prod.fst).insertionSort fun a b => a ≤ b).map fun name =>
    (name, (set.get name).getD ⟨false⟩)

namespace Server

/-- A group that the cutover takes for live. -/
def Static (key : String) (group : GroupConfig Args) : Prop :=
  (server.groups tenant).get key = some group ∧ 0 < group.getSize

/-- A live group: the size of the merged group is positive. -/
def Live (key : String) (group : GroupConfig Args) : Prop :=
  Configuration.getGroup server.groups server.dynamicGroups tenant key = .ok group ∧
    0 < group.getSize

/-- A load balancer of the provider. -/
def Routed (lb : LBKey) : Prop :=
  ∃ balancer, server.loadBalancers.get lb = some balancer ∧ balancer.tunnel = false

end Server

section

variable {server : Server Args} {tenant : Tenant} {lb : LBKey}

theorem mem_keys_foldl_set (names : List LBKey) : ∀ {set : Dict LBKey LoadBalancer},
    lb ∈ (names.foldl (fun set name => set.set name (server.loadBalancer name)) set).entries.map
        Prod.fst ↔ lb ∈ names ∨ lb ∈ set.entries.map Prod.fst := by
  induction names with
  | nil => simp
  | cons name names ih =>
    intro set
    rw [List.foldl_cons, ih, Dict.set, Dict.mem_keys_assigned, List.mem_cons, or_left_comm,
      or_assoc]

theorem mem_keys_collect (entries : List (String × GroupConfig Args)) :
    ∀ {set : Dict LBKey LoadBalancer},
      lb ∈ (entries.foldl server.collect set).entries.map Prod.fst ↔
        (∃ entry ∈ entries, 0 < entry.2.getSize ∧ lb ∈ entry.2.loadBalancers) ∨
          lb ∈ set.entries.map Prod.fst := by
  induction entries with
  | nil => simp
  | cons entry entries ih =>
    intro set
    rw [List.foldl_cons, ih, Server.collect, List.exists_mem_cons_iff]
    by_cases sized : (Group.ofConfig entry.2).sized = true
    · rw [if_pos sized, mem_keys_foldl_set]
      simp only [Group.sized_ofConfig.mp sized, true_and]
      rw [or_left_comm, or_assoc]
    · rw [if_neg sized]
      simp only [mt Group.sized_ofConfig.mpr sized, false_and, false_or]

theorem mem_loadBalancers : lb ∈ (loadBalancers server tenant).map Prod.fst ↔
    ∃ key group, server.Static tenant key group ∧ lb ∈ group.loadBalancers := by
  have names : lb ∈ (loadBalancers server tenant).map Prod.fst ↔
      lb ∈ ((server.groups tenant).entries.foldl server.collect .empty).entries.map Prod.fst := by
    rw [loadBalancers, List.map_map]
    show lb ∈ List.map id _ ↔ _
    rw [List.map_id, List.mem_insertionSort]
  rw [names, mem_keys_collect]
  constructor
  · rintro (⟨⟨key, group⟩, mem, sized, behind⟩ | none)
    · exact ⟨key, group, ⟨Dict.get_eq_some_iff.mpr mem, sized⟩, behind⟩
    · exact absurd none List.not_mem_nil
  · rintro ⟨key, group, ⟨found, sized⟩, behind⟩
    exact .inl ⟨(key, group), Dict.get_eq_some_iff.mp found, sized, behind⟩

theorem mem_config_groups {key : String} {group : Group} :
    (key, group) ∈ server.config.groups tenant ↔
      ∃ base, (server.groups tenant).get key = some base ∧ Group.ofConfig base = group := by
  rw [Server.config, List.mem_map]
  constructor
  · rintro ⟨⟨name, base⟩, mem, same⟩
    cases same
    exact ⟨base, Dict.get_eq_some_iff.mpr ((List.mem_insertionSort _).mp mem), rfl⟩
  · rintro ⟨base, found, rfl⟩
    exact ⟨(key, base), (List.mem_insertionSort _).mpr (Dict.get_eq_some_iff.mp found), rfl⟩

theorem Server.Live.loadBalancers_eq {key : String} {group base : GroupConfig Args}
    (live : server.Live tenant key group) (static : server.Static tenant key base) :
    group.loadBalancers = base.loadBalancers := by
  have named : tenant ≠ "" := (Configuration.getGroup_eq_ok.mp live.1).1
  obtain ⟨other, found, same, _⟩ := Configuration.getGroup_static named static.1
  cases live.1.symm.trans found
  exact same

theorem Server.Routed.isTunnel (routed : server.Routed lb) : server.config.isTunnel lb = false := by
  obtain ⟨balancer, configured, provider⟩ := routed
  have there : server.config.loadBalancers.lookup lb = some balancer := configured
  exact (isTunnel_eq there).trans provider

end

/-! ## The environment of the operations -/

/-- `GetGroup` returns the merged group. -/
def Server.Gives : (action : Action) → Reply action → Prop
  | .getGroup tenant key, .ok lbs => ∃ group,
      Configuration.getGroup server.groups server.dynamicGroups tenant key = .ok group ∧
        group.loadBalancers = lbs
  | _, _ => True

/-- The database, the lock, the provider and the tenant state manager as a task meets
them under a configuration. -/
def Server.environment (task : TaskID) : Environment interface State :=
  fun s action reply after =>
    (∃ outcome, s.perform task action outcome = some (after, reply)) ∧ server.Gives action reply

section

variable {server : Server Args} {task : TaskID} {s last : State} {tenant : Tenant}

theorem ends_call {α : Type} {action : Action} {reply : Reply action}
    {result : Reply action → Except Err α} {given : Except Err α}
    (replied : server.environment task s action reply last) (same : given = result reply) :
    (call action result).Ends (server.environment task) given last s :=
  ⟨reply, last, replied, ends_ofExcept.mpr ⟨same, rfl⟩⟩

/-! ### The targets of the cutover -/

/-- The targets of the rows of a database, as the loop of `instanceTargets` gathers
them. -/
def listTargets (config : Config) (s : State) (tenant : Tenant) :
    List (String × Group) → List Target → List Target
  | [], targets => targets
  | (name, group) :: rest, targets =>
    if group.sized then
      listTargets config s tenant rest
        (addTargets config group.loadBalancers (s.providerIDs tenant name) targets)
    else listTargets config s tenant rest targets

variable (groups : List (String × Group)) {config : Config}

theorem mem_listTargets {target : Target} :
    ∀ {targets : List Target}, target ∈ listTargets config s tenant groups targets ↔
      target ∈ targets ∨ ∃ name group, (name, group) ∈ groups ∧ group.sized = true ∧
        target.lb ∈ group.loadBalancers ∧ config.isTunnel target.lb = false ∧
        target.vm ∈ s.providerIDs tenant name := by
  induction groups with
  | nil => simp [listTargets]
  | cons entry groups ih =>
    obtain ⟨name, group⟩ := entry
    intro targets
    rw [listTargets]
    constructor
    · intro mem
      by_cases sized : group.sized = true
      · rw [if_pos sized, ih, mem_addTargets] at mem
        rcases mem with (old | ⟨behind, provider, running⟩) | ⟨name', group', there, rest⟩
        · exact .inl old
        · exact .inr ⟨name, group, List.mem_cons_self, sized, behind, provider, running⟩
        · exact .inr ⟨name', group', List.mem_cons_of_mem _ there, rest⟩
      rw [if_neg sized, ih] at mem
      rcases mem with old | ⟨name', group', there, rest⟩
      · exact .inl old
      · exact .inr ⟨name', group', List.mem_cons_of_mem _ there, rest⟩
    · rintro (old | ⟨name', group', there, sized', rest⟩)
      · split
        · exact ih.mpr (.inl ((mem_addTargets _ _).mpr (.inl old)))
        · exact ih.mpr (.inl old)
      · rcases List.mem_cons.mp there with here | later
        · cases here
          rw [if_pos sized']
          exact ih.mpr (.inl ((mem_addTargets _ _).mpr (.inr rest)))
        split
        · exact ih.mpr (.inr ⟨name', group', later, sized', rest⟩)
        · exact ih.mpr (.inr ⟨name', group', later, sized', rest⟩)

theorem ends_getProviderIDsByGroup {name : String} {vms : List ProviderID} :
    (getProviderIDsByGroup tenant name).Ends (server.environment task) (.ok vms) last s ↔
      vms = s.providerIDs tenant name ∧ last = s := by
  constructor
  · rintro ⟨reply, after, ⟨⟨outcome, performed⟩, _⟩, ends⟩
    obtain ⟨same, rfl⟩ := ends_ofExcept.mp ends
    subst same
    cases outcome <;> cases performed
    exact ⟨rfl, rfl⟩
  · rintro ⟨rfl, rfl⟩
    have replied : server.environment task last (.getProviderIDsByGroup tenant name)
        (.ok (last.providerIDs tenant name)) last := ⟨⟨.ok, rfl⟩, trivial⟩
    exact ends_call replied rfl

variable {all : List Target}

theorem ends_groupTargets : ∀ {targets : List Target},
      (groupTargets config tenant groups targets).Ends (server.environment task) (.ok all) last s ↔
        all = listTargets config s tenant groups targets ∧ last = s := by
  induction groups with
  | nil =>
    intro targets
    constructor
    · rintro ⟨same, still⟩
      exact ⟨Except.ok.inj same, still⟩
    · rintro ⟨same, still⟩
      exact ⟨congrArg Except.ok same, still⟩
  | cons entry groups ih =>
    obtain ⟨name, group⟩ := entry
    intro targets
    rw [groupTargets, listTargets]
    by_cases sized : group.sized = true
    · rw [if_pos sized, if_pos sized, ends_bind]
      simp only [wrapping, ends_recover_fail, ends_getProviderIDsByGroup]
      constructor
      · rintro ⟨_, _, ⟨rfl, rfl⟩, ends⟩
        exact ih.mp ends
      · intro ends
        exact ⟨_, _, ⟨rfl, rfl⟩, ih.mpr ends⟩
    · rw [if_neg sized, if_neg sized]
      exact ih

theorem ends_instanceTargets :
    (instanceTargets config tenant).Ends (server.environment task) (.ok all) last s ↔
      all = listTargets config s tenant (config.groups tenant) [] ∧ last = s :=
  ends_groupTargets _

/-! ### The registrations of the reconciler -/

/-- Targets are only registered with load balancers that take them. -/
def Server.Routes (server : Server Args) : Action → Prop
  | .registerWithLB _ target => server.Routed target.lb
  | _ => True

variable {inst : Instance}

theorem reconcileLoadBalancerTarget_routes {lb : LBKey} :
    Uses server.Routes (reconcileLoadBalancerTarget server.config inst lb) :=
  reconcileLoadBalancerTarget_uses (fun _ => trivial)
    (fun _ balancer _ configured provider => ⟨balancer, configured, provider⟩) (fun _ => trivial)

theorem registerGroup_routes (lbs : List LBKey) :
    Uses server.Routes (registerGroup server.config inst lbs) := by
  induction lbs with
  | nil => trivial
  | cons lb lbs ih =>
    refine Uses.bind (uses_ignoring ?_) fun _ => ih
    exact (uses_call _ trivial).bind fun _ => reconcileLoadBalancerTarget_routes

theorem retryPending_routes (rows : List (LBKey × InstanceID)) :
    Uses server.Routes (retryPending server.config rows) := by
  induction rows with
  | nil => trivial
  | cons row rows ih =>
    refine Uses.bind (uses_ignoring ?_) fun _ => ih
    refine (uses_call _ trivial).bind fun inst => ?_
    split
    · trivial
    refine Uses.bind ⟨trivial, fun _ => trivial⟩ fun blocked => ?_
    split
    · trivial
    · exact reconcileLoadBalancerTarget_routes

theorem reconcileOwn_routes : Uses server.Routes (reconcileOwn server.config inst) := by
  refine Uses.bind ⟨trivial, fun _ => trivial⟩ fun blocked => ?_
  split
  · trivial
  refine Uses.bind (Uses.recover ((uses_call _ trivial).bind fun _ => trivial) fun _ => trivial)
    fun group => ?_
  cases group with
  | none => trivial
  | some lbs => exact (registerGroup_routes lbs).bind fun _ => trivial

theorem reconcileLoadBalancers_routes {id : InstanceID} :
    Uses server.Routes (reconcileLoadBalancers server.config id) := by
  refine uses_withLock trivial trivial ?_
  refine (uses_wrapping _ (uses_call _ trivial)).bind fun inst => ?_
  split
  · trivial
  split
  · trivial
  refine reconcileOwn_routes.bind fun goOn => ?_
  split
  · exact (uses_wrapping _ (uses_call _ trivial)).bind fun rows => retryPending_routes rows
  · trivial

section

variable {inst : Instance} {lb : LBKey} {vm : ProviderID}

theorem issues_reconcileLoadBalancerTarget (provided : inst.providerID = some vm)
    (routed : server.Routed lb) :
    (reconcileLoadBalancerTarget server.config inst lb).Issues (server.environment task)
      (.registerWithLB inst.tenant ⟨lb, vm⟩) s := by
  obtain ⟨balancer, configured, provider⟩ := routed
  have there : server.config.loadBalancers.lookup lb = some balancer := configured
  have polled : server.environment task s (.getLBTargetState ⟨lb, vm⟩) (.ok .deregistered)
      (s.happen (.reported ⟨lb, vm⟩ .deregistered)) := ⟨⟨.state .deregistered, rfl⟩, trivial⟩
  unfold reconcileLoadBalancerTarget
  simp only [provided, there, provider, Bool.false_eq_true, if_false]
  refine Issues.bind_next ((ends_recover_fail _).mpr (ends_call polled rfl)) ?_
  exact Issues.bind (Issues.bind (Issues.recover (.inl rfl)))

theorem ends_ignoring_unrecorded (lb : LBKey) : (ignoring do
      upsertLBInstance lb inst.id .pending
      reconcileLoadBalancerTarget server.config inst lb).Ends (server.environment task)
        (.ok ()) s s := by
  have failed : server.environment task s (.upsertLBInstance lb inst.id .pending)
      (.error (.message "")) s := ⟨⟨.fail _, rfl⟩, trivial⟩
  exact Ends.recover (Ends.bind_fail (ends_call failed rfl)) ⟨rfl, rfl⟩

theorem ends_registerGroup (lbs : List LBKey) :
    (registerGroup server.config inst lbs).Ends (server.environment task) (.ok ()) s s := by
  induction lbs with
  | nil => exact ⟨rfl, rfl⟩
  | cons lb lbs ih => exact (ends_bind _).mpr ⟨(), s, ends_ignoring_unrecorded lb, ih⟩

theorem issues_registerGroup (provided : inst.providerID = some vm) (routed : server.Routed lb)
    (lbs : List LBKey) (behind : lb ∈ lbs) :
    (registerGroup server.config inst lbs).Issues (server.environment task)
      (.registerWithLB inst.tenant ⟨lb, vm⟩) s := by
  induction lbs with
  | nil => cases behind
  | cons first lbs ih =>
    rcases List.mem_cons.mp behind with rfl | later
    · have recorded : server.environment task s (.upsertLBInstance lb inst.id .pending) (.ok ())
          (s.upsert ⟨lb, inst.id, .pending⟩) := ⟨⟨.ok, rfl⟩, trivial⟩
      refine Issues.bind (Issues.recover (Issues.bind_next (ends_call recorded rfl) ?_))
      exact issues_reconcileLoadBalancerTarget provided routed
    · exact Issues.bind_next (ends_ignoring_unrecorded first) (ih later)

theorem environment_read (found : s.find inst.id = some inst) :
    server.environment task s (.getInstance inst.id) (.ok inst) s := by
  refine ⟨⟨.ok, ?_⟩, trivial⟩
  rw [State.perform, found]
  rfl

theorem environment_unblocked (unblocked : (s.manager.cached tenant).blocked = false) :
    server.environment task s (.targetRegistrationBlocked tenant) false s := by
  refine ⟨⟨.ok, ?_⟩, trivial⟩
  rw [State.perform, unblocked]

theorem issues_retryPending (found : s.find inst.id = some inst)
    (staying : inst.drainStarted = false)
    (unblocked : (s.manager.cached inst.tenant).blocked = false)
    (provided : inst.providerID = some vm) (routed : server.Routed lb)
    (rows : List (LBKey × InstanceID)) (pending : (lb, inst.id) ∈ rows) :
    (retryPending server.config rows).Issues (server.environment task)
      (.registerWithLB inst.tenant ⟨lb, vm⟩) s := by
  induction rows with
  | nil => cases pending
  | cons row rows ih =>
    rcases List.mem_cons.mp pending with rfl | later
    · refine Issues.bind (Issues.recover
        (Issues.bind_next (ends_call (environment_read found) rfl) ?_))
      simp only [provided, staying, reduceCtorEq, Bool.false_eq_true, or_self, if_false]
      refine Issues.bind_next (ends_act (environment_unblocked unblocked)) ?_
      exact issues_reconcileLoadBalancerTarget provided routed
    have failed : server.environment task s (.getInstance row.2) (.error (.message "")) s :=
      ⟨⟨.fail _, rfl⟩, trivial⟩
    exact Issues.bind_next
      (Ends.recover (Ends.bind_fail (ends_call failed rfl)) ⟨rfl, rfl⟩) (ih later)

/-- The state while a task holds `lbMu`. -/
def State.lockedBy (s : State) (task : TaskID) : State := { s with lbMu := some task }

theorem issues_of_part {wanted : Action} (free : s.lbMu = none)
    (found : s.find inst.id = some inst) (staying : inst.drainStarted = false)
    (some_ : server.config.loadBalancers.isEmpty = false)
    (part : (reconcileOwn server.config inst).Issues (server.environment task) wanted
        (s.lockedBy task) ∨
      (reconcileOwn server.config inst).Ends (server.environment task) (.ok true)
          (s.lockedBy task) (s.lockedBy task) ∧
        (retryPending server.config s.pendingOrFailed).Issues (server.environment task) wanted
          (s.lockedBy task)) :
    (reconcileLoadBalancers server.config inst.id).Issues (server.environment task) wanted s := by
  have locked : server.environment task s .lock () (s.lockedBy task) := by
    refine ⟨⟨.ok, ?_⟩, trivial⟩
    rw [State.perform, if_pos free]
    rfl
  have read : server.environment task (s.lockedBy task) (.getInstance inst.id) (.ok inst)
      (s.lockedBy task) := environment_read found
  have listed : server.environment task (s.lockedBy task) .getPendingOrFailedLBInstances
      (.ok s.pendingOrFailed) (s.lockedBy task) := ⟨⟨.ok, rfl⟩, trivial⟩
  refine Issues.bind_next (ends_act locked) (Issues.bind (Issues.recover ?_))
  refine Issues.bind_next ((ends_recover_fail _).mpr (ends_call read rfl)) ?_
  simp only [staying, some_, Bool.false_eq_true, if_false]
  rcases part with own | ⟨passed, retried⟩
  · exact Issues.bind own
  refine Issues.bind_next passed ?_
  exact Issues.bind_next ((ends_recover_fail _).mpr (ends_call listed rfl)) retried

theorem Server.Routed.not_isEmpty (routed : server.Routed lb) :
    server.config.loadBalancers.isEmpty = false := by
  obtain ⟨balancer, configured, _⟩ := routed
  have there : server.config.loadBalancers.lookup lb = some balancer := configured
  cases entries : server.config.loadBalancers with
  | nil =>
    rw [entries] at there
    cases there
  | cons => rfl

section

variable {group : GroupConfig Args} (free : s.lbMu = none) (found : s.find inst.id = some inst)
  (staying : inst.drainStarted = false) (unblocked : (s.manager.cached inst.tenant).blocked = false)
  (merged : Configuration.getGroup server.groups server.dynamicGroups inst.tenant inst.group = .ok group)

include merged in
theorem ends_getGroup : ((getGroup inst.tenant inst.group >>= fun lbs => pure (some lbs)).recover
    fun _ => pure none).Ends (server.environment task) (.ok (some group.loadBalancers)) s s := by
  have grouped : server.environment task s (.getGroup inst.tenant inst.group)
      (.ok group.loadBalancers) s := ⟨⟨.group _, rfl⟩, group, merged, rfl⟩
  exact Ends.recover_of_ok ((ends_bind _).mpr ⟨_, _, ends_call grouped rfl, rfl, rfl⟩)

include unblocked merged in
theorem ends_reconcileOwn : (reconcileOwn server.config inst).Ends (server.environment task)
    (.ok true) s s := by
  refine (ends_bind _).mpr ⟨false, s, ends_act (environment_unblocked unblocked), ?_⟩
  refine (ends_bind _).mpr ⟨_, s, ends_getGroup merged, ?_⟩
  exact (ends_bind _).mpr ⟨(), s, ends_registerGroup _, rfl, rfl⟩

include free found staying unblocked merged

/-- `ReconcileLoadBalancers` may register an instance with every load balancer of its
merged group that takes targets. -/
theorem issues_reconcileLoadBalancers (behind : lb ∈ group.loadBalancers)
    (provided : inst.providerID = some vm) (routed : server.Routed lb) :
    (reconcileLoadBalancers server.config inst.id).Issues (server.environment task)
      (.registerWithLB inst.tenant ⟨lb, vm⟩) s := by
  refine issues_of_part free found staying routed.not_isEmpty (.inl ?_)
  refine Issues.bind_next (ends_act (environment_unblocked unblocked)) ?_
  refine Issues.bind_next (ends_getGroup merged) ?_
  exact Issues.bind (issues_registerGroup provided routed _ behind)

theorem issues_reconcileLoadBalancers_pending (pending : (lb, inst.id) ∈ s.pendingOrFailed)
    (provided : inst.providerID = some vm) (routed : server.Routed lb) :
    (reconcileLoadBalancers server.config inst.id).Issues (server.environment task)
      (.registerWithLB inst.tenant ⟨lb, vm⟩) s := by
  refine issues_of_part free found staying routed.not_isEmpty (.inr ⟨?_, ?_⟩)
  · exact ends_reconcileOwn unblocked merged
  · have there : (s.lockedBy task).find inst.id = some inst := found
    exact issues_retryPending there staying unblocked provided routed _ pending

end

end

end

/-! ## What a registration is made for -/

variable (s : State)

/-- The load balancer is one of the merged group of the instance, or the registration
is recorded to be tried again. -/
def Server.Candidate (lb : LBKey) (id : InstanceID) : Prop :=
  (lb, id) ∈ s.pendingOrFailed ∨ ∃ inst group, s.find id = some inst ∧
    Configuration.getGroup server.groups server.dynamicGroups inst.tenant inst.group = .ok group ∧
    lb ∈ group.loadBalancers

/-- The target is that of an instance that may serve. -/
def Server.Of (target : Target) (inst : Instance) : Prop :=
  s.find inst.id = some inst ∧ inst.providerID = some target.vm ∧
    server.Candidate s target.lb inst.id

/-- What the notes of `ReconcileLoadBalancers` say about the database it started on. -/
def Server.Justifies : Note → Prop
  | .read inst => s.find inst.id = some inst
  | .grouped tenant key lbs => ∃ group,
      Configuration.getGroup server.groups server.dynamicGroups tenant key = .ok group ∧
        group.loadBalancers = lbs
  | .recorded lb id => server.Candidate s lb id
  | .pending rows => ∀ lb id, (lb, id) ∈ rows → server.Candidate s lb id
  | _ => True

/-- The notes are justified, and the database has changed only in registrations that
are candidates. -/
structure Server.Truth (server : Server Args) (s : State) (notes : List Note) (world : State) :
    Prop where
  instances : world.instances = s.instances
  notes : ∀ noted ∈ notes, server.Justifies s noted
  rows : ∀ lb id, (lb, id) ∈ world.pendingOrFailed → server.Candidate s lb id

section

variable {server : Server Args} {task : TaskID} {s world after : State} {notes : List Note}
  {lb : LBKey} {id : InstanceID}

theorem Server.Truth.known (truth : server.Truth s notes world) (known : Known lb id notes) :
    server.Candidate s lb id := by
  rcases known with recorded | ⟨rows, listed, row⟩
  · exact truth.notes _ (held_subset recorded)
  · exact truth.notes _ (held_subset listed) lb id row

theorem Server.Truth.grouped (truth : server.Truth s notes world) (grouped : Grouped lb id notes) :
    server.Candidate s lb id := by
  obtain ⟨inst, lbs, read, rfl, found, behind⟩ := grouped
  obtain ⟨group, merged, same⟩ := truth.notes _ (held_subset found)
  exact .inr ⟨inst, group, truth.notes _ (held_subset read), merged, same ▸ behind⟩

theorem Effect.pending_back {action : Action} {outcome : Outcome} {reply : Reply action}
    (effect : Effect world task action outcome reply after)
    (pending : (lb, id) ∈ after.pendingOrFailed) :
    (lb, id) ∈ world.pendingOrFailed ∨ ∃ status, action = .upsertLBInstance lb id status := by
  obtain ⟨row, kept, same⟩ := List.mem_map.mp pending
  obtain ⟨member, open_⟩ := List.mem_filter.mp kept
  have old : row ∈ world.lbInstances → (lb, id) ∈ world.pendingOrFailed :=
    fun member => List.mem_map.mpr ⟨row, List.mem_filter.mpr ⟨member, open_⟩, same⟩
  cases effect with
  | recorded lb' id' status =>
    rcases List.mem_cons.mp member with rfl | kept
    · cases same
      exact .inr ⟨status, rfl⟩
    · exact .inl (old (List.mem_filter.mp kept).1)
  | forgotten => exact .inl (old (List.mem_filter.mp member).1)
  | _ => exact .inl (old member)

theorem environment_keeps {config : Config} : Keeps (server.environment task)
    (contract config (.reconcile id)) (server.Truth s) := by
  intro action notes world Q truth demand reply after replied
  obtain ⟨pre, promise⟩ := demand
  obtain ⟨⟨outcome, performed⟩, gives⟩ := replied
  have effect := perform_effect performed
  have upserted : ∀ {lb id status}, action = .upsertLBInstance lb id status →
      server.Candidate s lb id := by
    intro lb id status same
    subst same
    exact pre.2.elim truth.known truth.grouped
  refine ⟨learn action reply notes, ⟨?_, ?_, ?_⟩, promise reply effect.answers⟩
  · refine Eq.trans ?_ truth.instances
    cases effect with
    | drained | deleted => exact pre.elim
    | _ => rfl
  · intro noted mem
    rcases mem_learn.mp mem with taken | old
    · have means := effect.means taken
      have of := note_of taken
      cases noted with
      | read inst =>
        show State.find s inst.id = some inst
        rw [State.find, ← truth.instances]
        exact means
      | recorded lb id =>
        obtain ⟨status, same⟩ := of
        exact upserted same
      | pending rows =>
        intro lb id row
        have listed : rows = world.pendingOrFailed := means
        exact truth.rows lb id (listed ▸ row)
      | grouped tenant key lbs =>
        have same : action = .getGroup tenant key := of
        subst same
        cases (reply : Except Err (List LBKey)) <;> cases taken
        exact gives
      | _ => trivial
    · exact truth.notes noted old
  · intro lb id row
    rcases effect.pending_back row with old | ⟨status, same⟩
    · exact truth.rows lb id old
    · exact upserted same

theorem of_registration {tenant : Tenant} {target : Target}
    (issues : (reconcileLoadBalancers server.config id).Issues (server.environment task)
      (.registerWithLB tenant target) s) :
    ∃ inst, server.Of s target inst ∧ inst.tenant = tenant := by
  have start : server.Truth s [] s :=
    ⟨rfl, fun _ none => absurd none List.not_mem_nil, fun _ _ row => .inl row⟩
  obtain ⟨notes, world, Q, truth, ⟨_, inst, cleared, owner, _, provided, known, _⟩, _⟩ :=
    issues.demand environment_keeps start reconcileLoadBalancers_spec
  have read := truth.notes _ (held_subset cleared.earlier_mem)
  exact ⟨inst, ⟨read, provided, truth.known known⟩, owner⟩

end

/-! ## Agreement -/

namespace Server

/-- The registrations that are to be tried again are of the present configuration. -/
def Current : Prop :=
  ∀ inst group lb, s.find inst.id = some inst → (lb, inst.id) ∈ s.pendingOrFailed →
    Configuration.getGroup server.groups server.dynamicGroups inst.tenant inst.group = .ok group →
      lb ∈ group.loadBalancers

/-- **The cutover and the reconciler agree** about a tenant on a database: they know
the same load balancers, and the cutover lists every target that the reconciler may
register for an active managed instance of a live group. -/
structure Agrees (server : Server Args) (tenant : Tenant) (s : State) : Prop where
  loadBalancers : ∀ lb, lb ∈ (Targets.loadBalancers server tenant).map Prod.fst ↔
    ∃ key group, server.Live tenant key group ∧ lb ∈ group.loadBalancers
  listed : ∀ task, ∃ all,
    (instanceTargets server.config tenant).Ends (server.environment task) (.ok all) s s
  registered : ∀ {task : TaskID} {id : InstanceID} {target : Target},
    (reconcileLoadBalancers server.config id).Issues (server.environment task)
        (.registerWithLB tenant target) s →
      ∃ inst, server.Of s target inst ∧ inst.tenant = tenant
  targets : ∀ {task : TaskID} {id : InstanceID} {target : Target} {inst : Instance}
      {group : GroupConfig Args} {all : List Target} {last : State},
    (reconcileLoadBalancers server.config id).Issues (server.environment task)
        (.registerWithLB tenant target) s →
      server.Of s target inst → State.active tenant inst.group inst = true →
      server.Live tenant inst.group group →
      (instanceTargets server.config tenant).Ends (server.environment task) (.ok all) last s →
        target ∈ all

/-- Dynamic groups make no difference to the load balancers of a tenant. A group that
is live by its dynamic size only has none that takes targets, and its load balancers
are those of statically live groups too; a group that its dynamic size stops shares
its load balancers with live groups. -/
structure Aligned (server : Server Args) (tenant : Tenant) : Prop where
  started : ∀ key group, server.Live tenant key group → (∀ base, ¬ server.Static tenant key base) →
    ∀ lb ∈ group.loadBalancers, ¬ server.Routed lb ∧
      ∃ other base, server.Static tenant other base ∧ lb ∈ base.loadBalancers
  stopped : ∀ key base, server.Static tenant key base → (∀ group, ¬ server.Live tenant key group) →
    ∀ lb ∈ base.loadBalancers, ∃ other group, server.Live tenant other group ∧
      lb ∈ group.loadBalancers

end Server

section

variable {server : Server Args} {tenant : Tenant} {s : State}

theorem Server.Aligned.loadBalancers (aligned : server.Aligned tenant) (lb : LBKey) :
    lb ∈ (Targets.loadBalancers server tenant).map Prod.fst ↔
      ∃ key group, server.Live tenant key group ∧ lb ∈ group.loadBalancers := by
  rw [mem_loadBalancers]
  constructor
  · rintro ⟨key, base, static, behind⟩
    by_cases live : ∃ group, server.Live tenant key group
    · obtain ⟨group, live⟩ := live
      exact ⟨key, group, live, live.loadBalancers_eq static ▸ behind⟩
    · exact aligned.stopped key base static (not_exists.mp live) lb behind
  · rintro ⟨key, group, live, behind⟩
    by_cases static : ∃ base, server.Static tenant key base
    · obtain ⟨base, static⟩ := static
      exact ⟨key, base, static, live.loadBalancers_eq static ▸ behind⟩
    · exact (aligned.started key group live (not_exists.mp static) lb behind).2

/-- In a current database the targets of an instance are behind the load balancers of
its merged group. -/
theorem Server.Of.behind {target : Target} {inst : Instance}
    (of : server.Of s target inst) (current : server.Current s)
    (merged : Configuration.getGroup server.groups server.dynamicGroups inst.tenant inst.group =
      .ok group) : target.lb ∈ group.loadBalancers := by
  obtain ⟨found, _, pending | ⟨other, group', found', merged', behind⟩⟩ := of
  · exact current inst group target.lb found pending merged
  cases found.symm.trans found'
  cases merged.symm.trans merged'
  exact behind

theorem tenant_of_active {group : String} {inst : Instance}
    (active : State.active tenant group inst = true) :
    inst.tenant = tenant ∧ inst.group = group := by
  simp only [State.active, Bool.and_eq_true, decide_eq_true_eq] at active
  exact ⟨active.1.1.1.1.1, active.1.1.1.1.2⟩

theorem Server.Aligned.agrees (aligned : server.Aligned tenant) (current : server.Current s) :
    server.Agrees tenant s where
  loadBalancers := aligned.loadBalancers
  listed task := ⟨_, ends_instanceTargets.mpr ⟨rfl, rfl⟩⟩
  registered issues := of_registration issues
  targets := by
    intro task id target inst group all last issues of active live ends
    have owner : inst.tenant = tenant := (tenant_of_active active).1
    have behind : target.lb ∈ group.loadBalancers := of.behind current (owner ▸ live.1)
    have routed : server.Routed target.lb := reconcileLoadBalancers_routes.of_issues issues
    have static : ∃ base, server.Static tenant inst.group base := by
      by_contra none
      exact (aligned.started _ _ live (not_exists.mp none) _ behind).1 routed
    obtain ⟨base, static⟩ := static
    rw [(ends_instanceTargets.mp ends).1, mem_listTargets]
    refine .inr ⟨inst.group, Group.ofConfig base, mem_config_groups.mpr ⟨base, static.1, rfl⟩,
      Group.sized_ofConfig.mpr static.2, ?_, routed.isTunnel, mem_providerIDs.mpr ?_⟩
    · show target.lb ∈ base.loadBalancers
      rw [← live.loadBalancers_eq static]
      exact behind
    · exact ⟨inst, (find_mem of.1).1, active, of.2.1⟩

/-- An instance alone in its group. -/
def lone (tenant : Tenant) (key : String) : Instance :=
  { id := "i", tenant, group := key, providerID := some "vm" }

/-- It is the only row. -/
def alone (tenant : Tenant) (key : String) : State := { instances := [lone tenant key] }

variable {key : String}

theorem find_alone : (alone tenant key).find (lone tenant key).id = some (lone tenant key) := by
  simp [State.find, alone, lone]

theorem active_lone : State.active tenant key (lone tenant key) = true := by
  simp [State.active, lone]

theorem current_alone : server.Current (alone tenant key) := by
  intro _ _ _ _ pending
  exact absurd pending List.not_mem_nil

theorem not_routed_of_agrees (agrees : ∀ s, server.Current s → server.Agrees tenant s)
    (live : server.Live tenant key group) (absent : ∀ base, ¬ server.Static tenant key base)
    {lb : LBKey} (behind : lb ∈ group.loadBalancers) : ¬ server.Routed lb := by
  intro routed
  have issues : (reconcileLoadBalancers server.config "i").Issues
      (server.environment (.job 0)) (.registerWithLB tenant ⟨lb, "vm"⟩) (alone tenant key) :=
    issues_reconcileLoadBalancers rfl find_alone rfl rfl live.1 behind rfl routed
  have of : server.Of (alone tenant key) ⟨lb, "vm"⟩ (lone tenant key) :=
    ⟨find_alone, rfl, .inr ⟨_, group, find_alone, live.1, behind⟩⟩
  have missing := (agrees (alone tenant key) current_alone).targets issues of
    active_lone live (ends_instanceTargets.mpr ⟨rfl, rfl⟩)
  rw [mem_listTargets] at missing
  obtain none | ⟨name, _, member, sized, _, _, running⟩ := missing
  · exact absurd none List.not_mem_nil
  obtain ⟨row, there, active, _⟩ := mem_providerIDs.mp running
  obtain rfl : row = lone tenant key := List.mem_singleton.mp there
  obtain rfl : key = name := (tenant_of_active active).2
  obtain ⟨base, found, rfl⟩ := mem_config_groups.mp member
  exact absent base ⟨found, Group.sized_ofConfig.mp sized⟩

/-- **The cutover and the reconciler agree exactly if the configuration is aligned.** -/
theorem agrees_iff_aligned (server : Server Args) (tenant : Tenant) :
    (∀ s, server.Current s → server.Agrees tenant s) ↔ server.Aligned tenant := by
  constructor
  · intro agrees
    have same := (agrees (alone tenant "") current_alone).loadBalancers
    constructor
    · intro key group live absent lb behind
      refine ⟨not_routed_of_agrees agrees live absent behind, ?_⟩
      exact mem_loadBalancers.mp ((same lb).mpr ⟨key, group, live, behind⟩)
    · intro key base static _ lb behind
      exact (same lb).mp (mem_loadBalancers.mpr ⟨key, base, static, behind⟩)
  · intro aligned s current
    exact aligned.agrees current

end

/-! ## Disagreement -/

/-- A group of size zero that the API has scaled up. -/
def scaled : Server Unit where
  loadBalancers := ⟨[("web", ⟨false⟩)], by decide⟩
  groups _ := ⟨[("app", { template := "t", size := some 0, loadBalancers := ["web"] })], by decide⟩
  dynamicGroups _ := ⟨[("app", { size := some 2 })], by decide⟩

/-- A group that was taken off its load balancer. -/
def moved : Server Unit where
  loadBalancers := ⟨[("web", ⟨false⟩)], by decide⟩
  groups _ := ⟨[("app", { template := "t", size := some 1 })], by decide⟩

/-- A registration of its instance had failed before that. -/
def leftover : State := { alone "acme" "app" with lbInstances := [⟨"web", "i", .failed⟩] }

theorem aligned_moved : moved.Aligned "acme" := by
  have bare : ∀ key group, (moved.groups "acme").get key = some group →
      group.loadBalancers = [] := by
    intro key group found
    rw [Dict.get_eq_some_iff] at found
    rw [(Prod.mk.inj (List.mem_singleton.mp found)).2]
  constructor
  · intro key group live _ lb behind
    rw [bare key group (Configuration.getGroup_eq_ok.mp live.1).2] at behind
    cases behind
  · intro key base static _ lb behind
    rw [bare key base static.1] at behind
    cases behind

/-- A target of a group that was scaled up is registered, and the cutover knows
neither it nor the load balancer. Neither does it know a target of a registration
that was left to be tried again when the group was taken off its load balancer. -/
theorem cutover_misses_targets :
    (∃ group, scaled.Live "acme" "app" group ∧ "web" ∈ group.loadBalancers ∧
      (reconcileLoadBalancers scaled.config "i").Issues (scaled.environment (.job 0))
        (.registerWithLB "acme" ⟨"web", "vm"⟩) (alone "acme" "app") ∧
      loadBalancers scaled "acme" = [] ∧
      (instanceTargets scaled.config "acme").Ends (scaled.environment (.job 0)) (.ok [])
        (alone "acme" "app") (alone "acme" "app")) ∧
    moved.Aligned "acme" ∧
      (reconcileLoadBalancers moved.config "i").Issues (moved.environment (.job 0))
        (.registerWithLB "acme" ⟨"web", "vm"⟩) leftover ∧
      (instanceTargets moved.config "acme").Ends (moved.environment (.job 0)) (.ok [])
        leftover leftover := by
  have scaledRouted : scaled.Routed "web" := ⟨⟨false⟩, rfl, rfl⟩
  have movedRouted : moved.Routed "web" := ⟨⟨false⟩, rfl, rfl⟩
  have found : leftover.find (lone "acme" "app").id = some (lone "acme" "app") := find_alone
  refine ⟨⟨_, ⟨rfl, by decide⟩, List.mem_cons_self, ?_, rfl, ?_⟩, aligned_moved, ?_, ?_⟩
  · exact issues_reconcileLoadBalancers rfl find_alone rfl rfl rfl List.mem_cons_self rfl
      scaledRouted
  · exact ends_instanceTargets.mpr ⟨rfl, rfl⟩
  · exact issues_reconcileLoadBalancers_pending rfl found rfl rfl rfl List.mem_cons_self rfl
      movedRouted
  · exact ends_instanceTargets.mpr ⟨rfl, rfl⟩

end Nstance.Targets
