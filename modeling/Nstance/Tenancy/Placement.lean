import Nstance.Configuration.Subnets
import Nstance.Tenancy.Operations

/-!
# The subnet pools of instances

The subnet pool of an instance is that of the request, or else that of its group, or else
that of its template, and the request may name another template. What `CreateInstance`
overrides is not checked, so an operator can place an instance in any pool
(`Override.placed_elsewhere`). A call keeps inside the allowed pools if and only if the pool
that its overrides ask for is allowed or that of the static group (`placed_inside`).
-/

namespace Nstance.Tenancy

open Interaction Objects
open Program hiding pure bind act
open Nstance.Configuration (ShardConfig GroupConfig DynamicGroups TemplateConfig Decoder Digests
  Change history)
open Nstance.Instances (InstanceID Tenant GroupKey Setting)
open TenantState (Err)

variable {T Json Leaf Files : Type}

/-! ## The pool of a request -/

/-- The pool that `createInstance` places an instance in. -/
def instancePool (c : ShardConfig Files) (doc : DynamicGroups Json)
    (request : CreateInstanceRequest) : Except String String :=
  if request.group = "" then .error "group is required for on-demand instances"
  else if request.tenant = "" then .error "tenant is required"
  else
    match c.effective doc request.tenant request.group with
    | none => .error ("group not found: " ++ request.group)
    | some group =>
      let templateName := override request.template group.template
      match c.templates.get templateName with
      | none => .error ("template not found: " ++ templateName)
      | some template =>
        let merged := override (request.finalGroup group templateName).subnetPool
          template.subnetPool
        let pool := override request.subnetPool merged
        if pool = "" then .error "no subnet pool specified for instance" else .ok pool

/-- The request of the reconciler for a group. -/
def managedRequest (tenant : Tenant) (key : GroupKey) (group : GroupConfig Unit) :
    CreateInstanceRequest where
  tenant
  group := key
  template := group.template
  instanceType := group.instanceType
  subnetPool := group.subnetPool
  vars := group.vars

/-- The request of the NAT manager. -/
def natRequest (tenant : Tenant) (key : GroupKey) (id : InstanceID) (instanceType : String) :
    CreateInstanceRequest where
  instanceID := id
  tenant
  group := key
  instanceType

/-! ## Allowed pools -/

section

variable (c : ShardConfig Files)

/-- The pool is allowed for external requests, or is that of the static group. -/
def Permitted (tenant : Tenant) (key : GroupKey) (pool : String) : Prop :=
  pool ∈ c.dynamicSubnetPools ∨ ((c.groups.ofTenant tenant).get key).map c.placement = some pool

instance (tenant : Tenant) (key : GroupKey) (pool : String) :
    Decidable (Permitted c tenant key pool) := inferInstanceAs (Decidable (_ ∨ _))

variable (request : CreateInstanceRequest)

/-- The pool that the overrides of a request ask for: its own, or that of its template for a
static group that takes the pool of the template. -/
def overridePool : Option String :=
  if request.subnetPool ≠ "" then some request.subnetPool
  else
    match (c.groups.ofTenant request.tenant).get request.group with
    | some static =>
      if static.subnetPool = "" ∧ request.template ≠ "" then
        some (((c.templates.get request.template).map TemplateConfig.subnetPool).getD "")
      else none
    | none => none

/-- The overrides of the request ask for permitted pools only. -/
def Restrained : Prop :=
  ∀ pool ∈ overridePool c request, Permitted c request.tenant request.group pool

variable {c} {doc : DynamicGroups Json} {request : CreateInstanceRequest} {pool : String}

theorem override_eq {text default : String} : override text default =
    if text = "" then default else text := by
  rw [override]
  split <;> simp_all

section

variable (allowed : c.Allowed doc) (listed : c.dynamicSubnetPools ≠ [])
include allowed listed

/-- An instance is placed in the pool that the overrides ask for, or else in that of the
static group, or in an allowed one. -/
theorem pool_cases (placed : instancePool c doc request = .ok pool) :
    overridePool c request = some pool ∨
      overridePool c request = none ∧ Permitted c request.tenant request.group pool := by
  rw [instancePool] at placed
  split at placed
  · cases placed
  split at placed
  · cases placed
  split at placed
  · cases placed
  rename_i group effective
  dsimp only at placed
  split at placed
  · cases placed
  rename_i template defined
  split at placed <;> cases placed
  by_cases own : request.subnetPool = ""
  case neg =>
    left
    rw [overridePool, if_pos own, override_eq, if_neg own]
  simp only [override_eq, own, if_true, CreateInstanceRequest.finalGroup]
  rcases ShardConfig.effective_cases effective with
    ⟨static, there, sameTemplate, samePool⟩ | ⟨alone, dynamic, there, sameTemplate, samePool⟩
  · by_cases named : static.subnetPool = ""
    case neg =>
      right
      rw [samePool, if_neg named]
      refine ⟨?_, .inr ?_⟩
      · rw [overridePool, if_neg (not_not.mpr own), there]
        exact if_neg fun both => named both.1
      · rw [there, Option.map_some, ShardConfig.placement_of_named named]
    rw [samePool, if_pos named]
    by_cases kept : request.template = ""
    · right
      rw [override_eq, if_pos kept, sameTemplate] at defined
      refine ⟨?_, .inr ?_⟩
      · rw [overridePool, if_neg (not_not.mpr own), there]
        exact if_neg fun both => both.2 kept
      · rw [there, Option.map_some, ShardConfig.placement, if_neg (not_not.mpr named), defined]
        rfl
    left
    rw [override_eq, if_neg kept] at defined
    rw [overridePool, if_neg (not_not.mpr own), there]
    refine (if_pos ⟨named, kept⟩).trans ?_
    rw [defined]
    rfl
  · obtain ⟨named, valid⟩ := allowed _ _ _ there alone
    right
    rw [samePool, if_neg named]
    refine ⟨?_, .inl ?_⟩
    · rw [overridePool, if_neg (not_not.mpr own), alone]
    · exact (Configuration.validateDynamicSubnetKey_spec valid named).2.resolve_left listed

/-- A placed instance is in a permitted pool if and only if the overrides of its request are
restrained. -/
theorem permitted_iff_restrained (placed : instancePool c doc request = .ok pool) :
    Permitted c request.tenant request.group pool ↔ Restrained c request := by
  rw [Restrained]
  rcases pool_cases allowed listed placed with asked | ⟨none, permitted⟩
  · simp [asked]
  · simp [none, permitted]

theorem restrained_managedRequest {tenant : Tenant} {key : GroupKey} {group : GroupConfig Unit}
    (there : c.effective doc tenant key = some group) :
    Restrained c (managedRequest tenant key group) := by
  intro pool asked
  rw [Option.mem_def, overridePool] at asked
  rcases ShardConfig.effective_cases there with
    ⟨static, there, sameTemplate, samePool⟩ | ⟨alone, dynamic, there, _, samePool⟩
  · simp only [managedRequest, samePool, sameTemplate, there] at asked
    refine .inr ?_
    show ((c.groups.ofTenant tenant).get key).map c.placement = some pool
    rw [there, Option.map_some]
    by_cases named : static.subnetPool = ""
    · rw [if_neg (not_not.mpr named)] at asked
      split at asked
      · rw [ShardConfig.placement, if_neg (not_not.mpr named), asked]
      · cases asked
    · rw [if_pos named] at asked
      rw [ShardConfig.placement_of_named named, asked]
  · obtain ⟨named, valid⟩ := allowed _ _ _ there alone
    simp only [managedRequest, samePool] at asked
    rw [if_pos named] at asked
    cases asked
    exact .inl ((Configuration.validateDynamicSubnetKey_spec valid named).2.resolve_left listed)

end

theorem restrained_natRequest (tenant : Tenant) (key : GroupKey) (id : InstanceID)
    (instanceType : String) : Restrained c (natRequest tenant key id instanceType) := by
  intro pool asked
  simp only [overridePool, natRequest, ne_eq, not_true_eq_false, and_false, if_false,
    Option.mem_def] at asked
  split at asked <;> cases asked

end

/-! ## Calls and instances -/

section

/-- The document of dynamic groups, the requests under way and the instances placed. -/
structure Placements (Json : Type) where
  doc : DynamicGroups Json := .empty
  pending : List CreateInstanceRequest := []
  placed : List (CreateInstanceRequest × String) := []

/-- Calls, and requests that are carried out later. -/
inductive Step (Json Leaf : Type) where
  /-- `UpsertGroup` and `DeleteGroup` of any tenant. -/
  | upsertGroup (fuel : Nat) (heap : Heap String Leaf) (tenant : Tenant) (key : GroupKey)
      (group : GroupConfig (Dict String Json))
  | deleteGroup (fuel : Nat) (heap : Heap String Leaf) (tenant : Tenant) (key : GroupKey)
  /-- `CreateInstance` of any tenant. -/
  | createInstance (request : CreateInstanceRequest)
  | reconcile (tenant : Tenant) (key : GroupKey)
  | prepareNAT (tenant : Tenant) (id : InstanceID) (instanceType : String)
  | carryOut (i : Nat)

variable (D : Decoder Json Leaf) (digests : Digests Leaf Files) (c : ShardConfig Files)

/-- One step. -/
def Placements.step (s : Placements Json) : Step Json Leaf → Option (Placements Json)
  | .upsertGroup fuel heap tenant key group =>
    ((history D digests).step s.doc (.upsert fuel c.toServerConfig ⟨c.toServerConfig, heap⟩
      tenant key group)).map fun doc => { s with doc }
  | .deleteGroup fuel heap tenant key =>
    ((history D digests).step s.doc (.delete fuel ⟨c.toServerConfig, heap⟩ tenant key)).map
      fun doc => { s with doc }
  | .createInstance request =>
    some { s with pending := { request with onDemand := true } :: s.pending }
  | .reconcile tenant key =>
    (c.effective s.doc tenant key).map fun group =>
      { s with pending := managedRequest tenant key group :: s.pending }
  | .prepareNAT tenant id instanceType =>
    (c.nat.get tenant).map fun key =>
      { s with pending := natRequest tenant key id instanceType :: s.pending }
  | .carryOut i =>
    match s.pending[i]? with
    | none => none
    | some request =>
      some { s with
        pending := s.pending.eraseIdx i
        placed :=
          match instancePool c s.doc request with
          | .ok pool => (request, pool) :: s.placed
          | .error _ => s.placed }

/-- Runs under a configuration. -/
def placing : Machine (Placements Json) (Step Json Leaf) where
  start := {}
  step := Placements.step D digests c

end

/-! ## Placed instances -/

section

variable {D : Decoder Json Leaf} {digests : Digests Leaf Files} {c : ShardConfig Files}

/-- The condition, for the calls of the operator. -/
def Step.Restrained (c : ShardConfig Files) : Step Json Leaf → Prop
  | .createInstance request => Tenancy.Restrained c request
  | _ => True

variable {s s' : Placements Json} {label : Step Json Leaf}

theorem allowed_step (allowed : c.Allowed s.doc)
    (stepped : (placing D digests c).step s label = some s') : c.Allowed s'.doc := by
  cases label with
  | upsertGroup fuel heap tenant key group =>
    obtain ⟨doc, changed, rfl⟩ := Option.map_eq_some_iff.mp stepped
    have inForce : c.InForce (.upsert fuel c.toServerConfig ⟨c.toServerConfig, heap⟩ tenant key
      group) := ⟨rfl, rfl⟩
    exact allowed.step inForce changed
  | deleteGroup fuel heap tenant key =>
    obtain ⟨doc, changed, rfl⟩ := Option.map_eq_some_iff.mp stepped
    have inForce : c.InForce (.delete fuel ⟨c.toServerConfig, heap⟩ tenant key :
      Change Json Leaf Files) := rfl
    exact allowed.step inForce changed
  | createInstance request =>
    cases stepped
    exact allowed
  | reconcile tenant key =>
    obtain ⟨group, _, rfl⟩ := Option.map_eq_some_iff.mp stepped
    exact allowed
  | prepareNAT tenant id instanceType =>
    obtain ⟨key, _, rfl⟩ := Option.map_eq_some_iff.mp stepped
    exact allowed
  | carryOut i =>
    simp only [placing, Placements.step] at stepped
    split at stepped <;> cases stepped
    exact allowed

theorem allowed_of_reachable (reached : (placing D digests c).Reachable s) : c.Allowed s.doc :=
  Machine.Reaches.invariant (P := fun s : Placements Json => c.Allowed s.doc)
    ShardConfig.allowed_empty (fun _ allowed _ stepped => allowed_step allowed stepped) reached

/-- The requests under way are restrained, and the placed instances in permitted pools. -/
structure Inside (c : ShardConfig Files) (s : Placements Json) : Prop where
  restrained : ∀ request ∈ s.pending, Restrained c request
  permitted : ∀ entry ∈ s.placed, Permitted c entry.1.tenant entry.1.group entry.2

theorem Inside.step (inside : Inside c s) (allowed : c.Allowed s.doc)
    (listed : c.dynamicSubnetPools ≠ []) (restrained : label.Restrained c)
    (stepped : (placing D digests c).step s label = some s') : Inside c s' := by
  cases label with
  | upsertGroup | deleteGroup =>
    obtain ⟨doc, _, rfl⟩ := Option.map_eq_some_iff.mp stepped
    exact ⟨inside.restrained, inside.permitted⟩
  | createInstance request =>
    cases stepped
    exact ⟨List.forall_mem_cons.mpr ⟨restrained, inside.restrained⟩, inside.permitted⟩
  | reconcile tenant key =>
    obtain ⟨group, there, rfl⟩ := Option.map_eq_some_iff.mp stepped
    exact ⟨List.forall_mem_cons.mpr ⟨restrained_managedRequest allowed listed there,
      inside.restrained⟩, inside.permitted⟩
  | prepareNAT tenant id instanceType =>
    obtain ⟨key, _, rfl⟩ := Option.map_eq_some_iff.mp stepped
    exact ⟨List.forall_mem_cons.mpr ⟨restrained_natRequest _ _ _ _, inside.restrained⟩,
      inside.permitted⟩
  | carryOut i =>
    simp only [placing, Placements.step] at stepped
    split at stepped <;> cases stepped
    rename_i request found
    refine ⟨fun other mem => inside.restrained other (List.mem_of_mem_eraseIdx mem), ?_⟩
    split
    · rename_i pool placed
      refine List.forall_mem_cons.mpr ⟨?_, inside.permitted⟩
      exact (permitted_iff_restrained allowed listed placed).mpr
        (inside.restrained request (List.mem_of_getElem? found))
    · exact inside.permitted

/-- **Instances stay inside the allowed pools.** Under a configuration that lists the pools
for external requests, every instance is placed in one of them or in the pool of its static
group, after every history in which the overrides of the calls are restrained; and of a
request that is placed at any time, this is so only if its overrides are. -/
theorem placed_inside (D : Decoder Json Leaf) (digests : Digests Leaf Files)
    (c : ShardConfig Files) (listed : c.dynamicSubnetPools ≠ []) :
    (∀ s, (placing D digests c).Reaches (fun _ label => label.Restrained c) s →
        ∀ entry ∈ s.placed, Permitted c entry.1.tenant entry.1.group entry.2) ∧
      ∀ s, (placing D digests c).Reachable s → ∀ request pool,
        instancePool c s.doc request = .ok pool →
          (Permitted c request.tenant request.group pool ↔ Restrained c request) := by
  constructor
  · intro s reached
    refine (Machine.Reaches.invariant (P := Inside c) ⟨?_, ?_⟩ ?_ reached).permitted
    · rintro _ ⟨⟩
    · rintro _ ⟨⟩
    · intro s s' label before inside restrained stepped
      have allowed := allowed_of_reachable (before.mono fun _ _ _ => trivial)
      exact inside.step allowed listed restrained stepped
  · intro s reached request pool placed
    exact permitted_iff_restrained (allowed_of_reachable reached) listed placed

end

/-! ## Overrides of an operator -/

namespace Override

open Nstance.Configuration (TenantGroups)
open Nstance.Configuration.Removal (plain digests)

/-- External requests are allowed in the pool `apps`. The group `web` takes the pool of its
template. -/
def config : ShardConfig Unit where
  defaults := {}
  templates := ⟨[("t", { kind := "knc", arch := "arm64", files := (), subnetPool := "apps" }),
    ("db", { kind := "knc", arch := "arm64", files := (), subnetPool := "data" })], by decide⟩
  groups := TenantGroups.put .empty "a" "web" { template := "t", size := some 1 }
  subnetPools := ⟨[("apps", ["subnet-1"]), ("edge", ["subnet-2"]), ("data", ["subnet-3"])],
    by decide⟩
  dynamicSubnetPools := ["apps"]
  bindHealthAddr := "10.0.0.1:8990"
  advertise := ⟨"10.0.0.1:8990", "10.0.0.1:8991", "10.0.0.1:8992", "10.0.0.1:8993", "10.0.0.1:8994"⟩

/-- A call for the group of the tenant. -/
def web (subnetPool template : String) : CreateInstanceRequest where
  tenant := "a"
  group := "web"
  template
  subnetPool
  onDemand := true

/-- Two calls, each carried out. -/
def calls (first second : CreateInstanceRequest) : List (Step Empty String) :=
  [.createInstance first, .carryOut 0, .createInstance second, .carryOut 0]

/-- Without overrides, and with one that is allowed. -/
theorem placed_in_apps : config.validateAll = .ok () ∧
    ∃ s, (placing (plain String) digests config).Reaches
        (fun _ label => label.Restrained config) s ∧ s.placed.length = 2 ∧
        ∀ entry ∈ s.placed, Permitted config entry.1.tenant entry.1.group entry.2 := by
  have none : Restrained config (web "" "") := by rintro pool ⟨⟩
  have apps : Restrained config (web "apps" "db") := by
    rintro pool ⟨⟩
    decide
  have first : (placing (plain String) digests config).Reaches
      (fun _ label => label.Restrained config) ⟨.empty, [], [(web "" "", "apps")]⟩ :=
    (Machine.Reaches.extend .start (.createInstance (web "" "")) none rfl).extend (.carryOut 0)
      trivial rfl
  have second := (first.extend (.createInstance (web "apps" "db")) apps rfl).extend (.carryOut 0)
    trivial rfl
  exact ⟨rfl, _, second, rfl, (placed_inside (plain String) digests config (by decide)).1 _ second⟩

/-- The pool of a call and the pool of its template are taken as they are. -/
theorem placed_elsewhere : config.validateAll = .ok () ∧ config.dynamicSubnetPools = ["apps"] ∧
    (placing (plain String) digests config).run {} (calls (web "edge" "") (web "" "db")) =
      some ⟨.empty, [], [(web "" "db", "data"), (web "edge" "", "edge")]⟩ ∧
    ¬ Permitted config "a" "web" "data" ∧ ¬ Permitted config "a" "web" "edge" := by
  refine ⟨rfl, rfl, rfl, ?_, ?_⟩ <;> decide

end Override

end Nstance.Tenancy
