import Nstance.Configuration.Loader

/-!
# Subnet pools

A group is placed in the subnet pool it names, or else in that of its template. The static
groups of a tenant with managed NAT are checked to share no pool with another tenant
(`static_apart`). `UpsertGroup` only checks that a pool is known and allowed for external
requests, so that dynamic groups can be placed in a pool of another tenant
(`Intruder.pool_shared`). As long as no update asks for such a pool, no pool is shared
(`nat_pools_exclusive`).
-/

namespace Nstance.Configuration

open Objects Interaction

variable {Args Json Leaf Files : Type}

/-- The server configuration with managed NAT. -/
structure ShardConfig (Files : Type) extends ServerConfig Files where
  /-- The NAT group of each tenant that has managed NAT. -/
  nat : Dict String String := .empty

/-! ## Validation -/

/-- Note the pool of a provider subnet, which may have one only. -/
def checkSubnet (key : String) (seen : Dict String String) (subnetID : String) :
    Except String (Dict String String) :=
  match seen.get subnetID with
  | some existing =>
    .error ("provider subnet ID " ++ quoted subnetID ++ " appears in multiple subnet pools: " ++
      quoted existing ++ ", " ++ quoted key)
  | none => .ok (seen.set subnetID key)

/-- Check a pool. No subnet is in two of them. -/
def checkPool (seen : Dict String String) (entry : String × List String) :
    Except String (Dict String String) :=
  match validateIdentifier "subnet pool" entry.1 with
  | .error error => .error ("subnet pool ID " ++ quoted entry.1 ++ ": " ++ error)
  | .ok () =>
    if entry.2 = [] then
      .error ("subnet pool ID " ++ quoted entry.1 ++ " has no associated subnet IDs")
    else entry.2.foldlM (checkSubnet entry.1) seen

namespace ShardConfig

variable (c : ShardConfig Files)

/-- The checks of `validateNAT` that read the groups. -/
def validateNATTenant (entry : String × String) : Except String Unit :=
  match validateIdentifier "tenant ID" entry.1 with
  | .error error => .error ("nat tenant " ++ quoted entry.1 ++ ": " ++ error)
  | .ok () =>
    if entry.2 = "" then .error ("nat tenant " ++ quoted entry.1 ++ " group is required")
    else
      match (c.groups.ofTenant entry.1).get entry.2 with
      | none =>
        .error ("nat tenant " ++ quoted entry.1 ++ " references unknown group " ++
          quoted entry.2)
      | some group =>
        if group.size.isSome then
          .error ("nat group " ++ quoted entry.2 ++ " in tenant " ++ quoted entry.1 ++
            " cannot specify size")
        else if group.instanceType = "" then
          .error ("nat group " ++ quoted entry.2 ++ " in tenant " ++ quoted entry.1 ++
            " requires instance_type")
        else .ok ()

/-- The subnet pool of a group: its own, or that of its template. -/
def placement (group : GroupConfig Args) : String :=
  if group.subnetPool ≠ "" then group.subnetPool
  else ((c.templates.get group.template).map TemplateConfig.subnetPool).getD ""

/-- A pool for operators must exist. -/
def checkDynamicPool (key : String) : Except String Unit :=
  match validateIdentifier "subnet pool" key with
  | .error error => .error ("dynamic_subnet_pools subnet pool " ++ quoted key ++ ": " ++ error)
  | .ok () =>
    if (c.subnetPools.get key).isSome then .ok ()
    else
      .error ("dynamic_subnet_pools references unknown subnet pool " ++ quoted key ++
        " (not in shard.subnet_pools)")

/-- The pool of a template must exist. -/
def checkTemplatePool (entry : String × TemplateConfig Files) : Except String Unit :=
  if entry.2.subnetPool ≠ "" ∧ (c.subnetPools.get entry.2.subnetPool).isNone then
    .error ("template " ++ quoted entry.1 ++ " references unknown subnet pool " ++
      quoted entry.2.subnetPool)
  else .ok ()

/-- The pool of a group must exist. -/
def checkGroupPool (tenant : String) (entry : String × GroupConfig Ref) : Except String Unit :=
  if entry.2.subnetPool ≠ "" ∧ (c.subnetPools.get entry.2.subnetPool).isNone then
    .error ("group " ++ quoted entry.1 ++ " (tenant " ++ quoted tenant ++
      ") references unknown subnet pool " ++ quoted entry.2.subnetPool)
  else .ok ()

/-- A pool that a tenant with managed NAT uses becomes its own. -/
def claimPool (tenant natGroup : String) (owned : Dict String String)
    (entry : String × GroupConfig Ref) : Except String (Dict String String) :=
  if entry.1 = natGroup then .ok owned
  else if c.placement entry.2 = "" then .ok owned
  else
    match owned.get (c.placement entry.2) with
    | some owner =>
      if owner ≠ tenant then
        .error ("NAT subnet pool " ++ quoted (c.placement entry.2) ++
          " is used by groups in multiple tenants: " ++ quoted owner ++ ", " ++ quoted tenant)
      else .ok (owned.set (c.placement entry.2) tenant)
    | none => .ok (owned.set (c.placement entry.2) tenant)

variable (owned : Dict String String)

/-- The pools of one tenant with managed NAT. -/
def claimPools (entry : String × String) : Except String (Dict String String) :=
  (c.groups.ofTenant entry.1).entries.foldlM (c.claimPool entry.1 entry.2) owned

/-- A group stays out of the pools that another tenant owns. -/
def checkOwner (tenant : String) (entry : String × GroupConfig Ref) : Except String Unit :=
  if c.nat.get tenant = some entry.1 then .ok ()
  else
    let key := c.placement entry.2
    let owner := (owned.get key).getD ""
    if key ≠ "" ∧ owner ≠ "" ∧ owner ≠ tenant then
      .error ("NAT subnet pool " ++ quoted key ++ " for tenant " ++ quoted owner ++
        " is used by group " ++ quoted entry.1 ++ " in tenant " ++ quoted tenant)
    else .ok ()

/-- The checks of pools and their users, in order. -/
def validateSubnetConfig : Except String Unit :=
  if c.subnetPools.entries = [] then
    .error "shard.subnet_pools must be configured with at least one subnet pool"
  else do
    let _ ← c.subnetPools.entries.foldlM checkPool .empty
    checkAll c.checkDynamicPool c.dynamicSubnetPools
    checkAll c.checkTemplatePool c.templates.entries
    checkAll (fun entry => checkAll (c.checkGroupPool entry.1) entry.2.entries) c.groups.entries
    let owned ← c.nat.entries.foldlM c.claimPools .empty
    checkAll (fun entry => checkAll (c.checkOwner owned entry.1) entry.2.entries) c.groups.entries

/-- The parts of `Validate` that read the groups and the subnet pools. -/
def validateAll : Except String Unit := do
  c.validate
  checkAll c.validateNATTenant c.nat.entries
  c.validateSubnetConfig

end ShardConfig

section

variable {α β ε : Type}

theorem bind_eq_ok {x : Except ε α} {f : α → Except ε β} {value : β} :
    (x >>= f) = .ok value ↔ ∃ first, x = .ok first ∧ f first = .ok value := by
  cases x with
  | error error =>
    constructor
    · intro bad
      cases bad
    · rintro ⟨_, bad, _⟩
      cases bad
  | ok first =>
    refine ⟨fun rest => ⟨first, rfl, rest⟩, ?_⟩
    rintro ⟨_, same, rest⟩
    cases same
    exact rest

variable {P : α → Prop} {step : α → β → Except ε α}

theorem loop_keeps
    (kept : ∀ {before after : α} {item : β}, step before item = .ok after → P before → P after)
    (list : List β) : ∀ {before after : α}, list.foldlM step before = .ok after →
      P before → P after := by
  induction list with
  | nil =>
    intro before after done holds
    cases done
    exact holds
  | cons first rest ih =>
    intro before after done holds
    rw [List.foldlM_cons, bind_eq_ok] at done
    obtain ⟨middle, stepped, done⟩ := done
    exact ih done (kept stepped holds)

theorem loop_brings {list : List β} {item : β} (mem : item ∈ list)
    (kept : ∀ {before after : α} {item : β}, step before item = .ok after → P before → P after)
    (brought : ∀ {before after : α}, step before item = .ok after → P after) :
    ∀ {before after : α}, list.foldlM step before = .ok after → P after := by
  induction list with
  | nil => cases mem
  | cons first rest ih =>
    intro before after done
    rw [List.foldlM_cons, bind_eq_ok] at done
    obtain ⟨middle, stepped, done⟩ := done
    rcases List.mem_cons.mp mem with rfl | later
    · exact loop_keeps kept rest done (brought stepped)
    · exact ih later done

end

/-! ## Static groups -/

namespace ShardConfig

variable {c : ShardConfig Files} {tenant key : String}

/-- A valid configuration names the tenants with managed NAT, and their groups are static. -/
theorem nat_static (valid : c.validateAll = .ok ()) (managed : c.nat.get tenant = some key) :
    tenant ≠ "" ∧ (c.groups.ofTenant tenant).get key ≠ none := by
  rw [validateAll, bind_eq_ok] at valid
  obtain ⟨_, _, valid⟩ := valid
  rw [bind_eq_ok] at valid
  obtain ⟨_, checked, _⟩ := valid
  have passed := checkAll_eq_ok.mp checked _ (Dict.get_eq_some_iff.mp managed)
  rw [validateNATTenant] at passed
  split at passed
  · cases passed
  rename_i named
  constructor
  · rintro rfl
    exact validateIdentifier_empty _ named
  · split at passed
    · cases passed
    intro absent
    simp only [absent] at passed
    cases passed

variable {natGroup : String} {owned owned' : Dict String String} {entry : String × GroupConfig Ref}

theorem claimPool_keeps {tenant pool owner : String}
    (claimed : c.claimPool tenant natGroup owned entry = .ok owned')
    (owns : owned.get pool = some owner) : owned'.get pool = some owner := by
  rw [claimPool] at claimed
  split at claimed
  · cases claimed
    exact owns
  split at claimed
  · cases claimed
    exact owns
  by_cases same : pool = c.placement entry.2
  · subst same
    rw [owns] at claimed
    simp only at claimed
    split at claimed <;> cases claimed
    rename_i mine
    rw [Dict.get_set_self, not_not.mp mine]
  split at claimed
  · split at claimed <;> cases claimed
    rw [Dict.get_set_of_ne same, owns]
  · cases claimed
    rw [Dict.get_set_of_ne same, owns]

theorem claimPool_claims {tenant : String}
    (claimed : c.claimPool tenant natGroup owned entry = .ok owned') (ordinary : entry.1 ≠ natGroup)
    (placed : c.placement entry.2 ≠ "") : owned'.get (c.placement entry.2) = some tenant := by
  rw [claimPool, if_neg ordinary, if_neg placed] at claimed
  split at claimed
  · split at claimed <;> cases claimed
    exact Dict.get_set_self
  · cases claimed
    exact Dict.get_set_self

theorem owner_of_claimed {group : GroupConfig Ref}
    (claimed : c.nat.entries.foldlM c.claimPools .empty = .ok owned)
    (managed : c.nat.get tenant = some natGroup)
    (there : (c.groups.ofTenant tenant).get key = some group) (ordinary : key ≠ natGroup)
    (placed : c.placement group ≠ "") : owned.get (c.placement group) = some tenant := by
  refine loop_brings (P := fun owned => owned.get (c.placement group) = some tenant)
    (Dict.get_eq_some_iff.mp managed) ?_ ?_ claimed
  · intro before after entry stepped
    exact loop_keeps claimPool_keeps _ stepped
  · intro before after stepped
    refine loop_brings (P := fun owned => owned.get (c.placement group) = some tenant)
      (Dict.get_eq_some_iff.mp there) claimPool_keeps ?_ stepped
    intro before after stepped
    exact claimPool_claims stepped ordinary placed

/-- In a valid configuration, a static group of a tenant with managed NAT and a static group
of another tenant are placed apart. -/
theorem static_apart (valid : c.validateAll = .ok ()) {group : GroupConfig Ref}
    (managed : c.nat.get tenant = some natGroup)
    (there : (c.groups.ofTenant tenant).get key = some group) (ordinary : key ≠ natGroup)
    (placed : c.placement group ≠ "") {other otherKey : String} {otherGroup : GroupConfig Ref}
    (different : other ≠ tenant) (otherOrdinary : c.nat.get other ≠ some otherKey)
    (otherThere : (c.groups.ofTenant other).get otherKey = some otherGroup) :
    c.placement otherGroup ≠ c.placement group := by
  have named := (nat_static valid managed).1
  rw [validateAll, bind_eq_ok] at valid
  obtain ⟨_, _, valid⟩ := valid
  rw [bind_eq_ok] at valid
  obtain ⟨_, _, valid⟩ := valid
  rw [validateSubnetConfig] at valid
  split at valid
  · cases valid
  simp only [bind_eq_ok] at valid
  obtain ⟨_, _, _, _, _, _, _, _, owned, claimed, checked⟩ := valid
  intro same
  cases found : c.groups.get other with
  | none => simp [TenantGroups.ofTenant, found] at otherThere
  | some groups =>
    rw [TenantGroups.ofTenant, found] at otherThere
    have inTenant := checkAll_eq_ok.mp checked _ (Dict.get_eq_some_iff.mp found)
    have passed := checkAll_eq_ok.mp inTenant _ (Dict.get_eq_some_iff.mp otherThere)
    rw [checkOwner, if_neg otherOrdinary] at passed
    simp only [same, owner_of_claimed claimed managed there ordinary placed,
      Option.getD_some] at passed
    rw [if_pos ⟨placed, named, different.symm⟩] at passed
    cases passed

/-! ## Effective groups -/

variable (c) (doc : DynamicGroups Json)

/-- The group that the static configuration and the document give together. -/
def effective (tenant key : String) : Option (GroupConfig Unit) :=
  (mergeGroups (bareGroups (c.groups.ofTenant tenant)) (bareGroups (doc.ofTenant tenant))).get key

/-- An effective group other than the NAT group is placed in the pool. -/
structure Placed (tenant key pool : String) : Prop where
  group : ∃ group, c.effective doc tenant key = some group ∧ c.placement group = pool
  ordinary : c.nat.get tenant ≠ some key
  named : pool ≠ ""

/-- No pool in which a tenant with managed NAT has a group is a pool of another tenant. -/
def Exclusive : Prop :=
  ∀ tenant key other otherKey pool, (c.nat.get tenant).isSome = true → other ≠ tenant →
    c.Placed doc tenant key pool → ¬ c.Placed doc other otherKey pool

/-- The pool that an update asks for, if it places a group that is not static. -/
def requestedPool (tenant key : String) (group : GroupConfig (Dict String Json)) : Option String :=
  if ((c.groups.ofTenant tenant).get key).isSome then none
  else
    match dynamicSubnetPool c.toServerConfig tenant group
        ((doc.ofTenant tenant).get key).isSome with
    | .error _ => none
    | .ok pool => if pool = "" then none else some pool

/-- The pool that an update asks for has no group of another tenant in it, unless neither
tenant has managed NAT. -/
def Apart : Change Json Leaf Files → Prop
  | .upsert _ _ _ tenant key group =>
    ∀ pool ∈ c.requestedPool doc tenant key group, ∀ other otherKey, other ≠ tenant →
      c.Placed doc other otherKey pool → c.nat.get tenant = none ∧ c.nat.get other = none
  | .delete _ _ _ _ => True

/-- The configuration is in force. -/
def InForce : Change Json Leaf Files → Prop
  | .upsert _ given memory _ _ _ => given = c.toServerConfig ∧ memory.config = c.toServerConfig
  | .delete _ memory _ _ => memory.config = c.toServerConfig

variable {c doc} {pool : String}

/-- The pool of an effective group is that of the static group, or else that of the
dynamic one. -/
theorem placement_effective : (c.effective doc tenant key).map c.placement =
      (((c.groups.ofTenant tenant).get key).map c.placement).or
        (((doc.ofTenant tenant).get key).map c.placement) := by
  rw [effective, get_mergeGroups, get_bareGroups, get_bareGroups]
  cases (c.groups.ofTenant tenant).get key <;> cases (doc.ofTenant tenant).get key <;> rfl

/-- An effective group has the template and the pool of the static group, or else those of
the dynamic one. -/
theorem effective_cases {group : GroupConfig Unit}
    (there : c.effective doc tenant key = some group) :
    (∃ static, (c.groups.ofTenant tenant).get key = some static ∧
        group.template = static.template ∧ group.subnetPool = static.subnetPool) ∨
      (c.groups.ofTenant tenant).get key = none ∧
        ∃ dynamic, (doc.ofTenant tenant).get key = some dynamic ∧
          group.template = dynamic.template ∧ group.subnetPool = dynamic.subnetPool := by
  rw [effective, get_mergeGroups, get_bareGroups, get_bareGroups] at there
  cases static : (c.groups.ofTenant tenant).get key with
  | some base =>
    rw [static] at there
    refine .inl ⟨base, rfl, ?_⟩
    cases dynamic : (doc.ofTenant tenant).get key <;> rw [dynamic] at there <;> cases there <;>
      exact ⟨rfl, rfl⟩
  | none =>
    rw [static] at there
    refine .inr ⟨rfl, ?_⟩
    cases dynamic : (doc.ofTenant tenant).get key with
    | none =>
      rw [dynamic] at there
      cases there
    | some stored =>
      rw [dynamic] at there
      cases there
      exact ⟨stored, rfl, rfl, rfl⟩

theorem placed_iff : c.Placed doc tenant key pool ↔ c.nat.get tenant ≠ some key ∧ pool ≠ "" ∧
      (((c.groups.ofTenant tenant).get key).map c.placement).or
        (((doc.ofTenant tenant).get key).map c.placement) = some pool := by
  rw [← placement_effective, Option.map_eq_some_iff]
  exact ⟨fun placed => ⟨placed.ordinary, placed.named, placed.group⟩,
    fun ⟨ordinary, named, group⟩ => ⟨group, ordinary, named⟩⟩

end ShardConfig

/-! ## Updates -/

section

variable {c : ServerConfig Files} {tenant key : String}
  {group merged : GroupConfig (Dict String Json)}
  {existing : Option (GroupConfig (Dict String Json))}

theorem validateDynamicSubnetKey_spec {key : String}
    (allowed : validateDynamicSubnetKey c key = .ok ()) (named : key ≠ "") :
    (c.subnetPools.get key).isSome = true ∧
      (c.dynamicSubnetPools = [] ∨ key ∈ c.dynamicSubnetPools) := by
  rw [validateDynamicSubnetKey, if_neg named] at allowed
  split at allowed
  · cases allowed
  split at allowed
  · cases allowed
  rename_i known
  constructor
  · rwa [Option.isNone_iff_eq_none, ← ne_eq, Option.ne_none_iff_isSome] at known
  · split at allowed
    · exact .inl ‹_›
    split at allowed
    · exact .inr ‹_›
    · cases allowed

/-- An update of a group that is not static moves it to an allowed pool that it asks for, and
otherwise leaves it where it is. A new group asks for a pool. -/
theorem subnetPool_upserted (upserted : upsertedGroup c tenant key group existing = .ok merged)
    (alone : (c.groups.ofTenant tenant).get key = none) :
    ∃ pool, dynamicSubnetPool c tenant group existing.isSome = .ok pool ∧
      validateDynamicSubnetKey c pool = .ok () ∧ (existing = none → pool ≠ "") ∧
        merged.subnetPool = if pool = "" then (existing.getD {}).subnetPool else pool := by
  rw [upsertedGroup, alone] at upserted
  simp only at upserted
  split at upserted
  · cases upserted
  rename_i pool pooled
  split at upserted <;> cases upserted
  rename_i allowed
  refine ⟨pool, pooled, allowed, ?_, ?_⟩
  · rintro rfl
    rw [Option.isSome_none, dynamicSubnetPool, if_neg Bool.false_ne_true] at pooled
    split at pooled
    · cases pooled
    split at pooled
    · cases pooled
      assumption
    split at pooled
    · cases pooled
    split at pooled <;> cases pooled
    assumption
  · simp only [mergeGroupConfig]
    by_cases empty : pool = "" <;> simp [empty]

end

namespace ShardConfig

section

variable {D : Decoder Json Leaf} {digests : Digests Leaf Files} {c : ShardConfig Files}
  {doc doc' : DynamicGroups Json}

/-- A dynamic group that is not static names a pool that is allowed for external requests. -/
def Allowed (c : ShardConfig Files) (doc : DynamicGroups Json) : Prop :=
  ∀ tenant key group, (doc.ofTenant tenant).get key = some group →
    (c.groups.ofTenant tenant).get key = none →
      group.subnetPool ≠ "" ∧ validateDynamicSubnetKey c.toServerConfig group.subnetPool = .ok ()

variable {tenant key : String} {group merged : GroupConfig (Dict String Json)} {pool : String}

theorem Allowed.put (allowed : c.Allowed doc)
    (upserted : upsertedGroup c.toServerConfig tenant key group
      ((doc.ofTenant tenant).get key) = .ok merged) : c.Allowed (doc.put tenant key merged) := by
  intro other otherKey stored there alone
  rw [get_put] at there
  split at there
  · rename_i same
    obtain ⟨rfl, rfl⟩ := same
    cases there
    obtain ⟨pool, _, valid, new, moved⟩ := subnetPool_upserted upserted alone
    rw [moved]
    split
    · rename_i kept
      cases found : (doc.ofTenant other).get otherKey with
      | none => exact absurd kept (new found)
      | some before => exact allowed _ _ _ found alone
    · exact ⟨‹_›, valid⟩
  · exact allowed _ _ _ there alone

theorem Allowed.step {label : Change Json Leaf Files} (allowed : c.Allowed doc)
    (inForce : c.InForce label) (stepped : (history D digests).step doc label = some doc') :
    c.Allowed doc' := by
  cases written stepped with
  | put _ upserted =>
    rw [inForce.1] at upserted
    exact allowed.put upserted
  | dropped kept =>
    intro tenant key group there
    exact allowed _ _ _ (kept _ _ _ there)

theorem allowed_empty : c.Allowed (.empty : DynamicGroups Json) := by
  intro tenant key group there
  cases there

theorem allowed_of_reaches
    (reached : (history D digests).Reaches (fun _ label => c.InForce label) doc) :
    c.Allowed doc := by
  refine Machine.Reaches.invariant (P := c.Allowed) allowed_empty ?_ reached
  intro doc doc' label _ allowed inForce stepped
  exact allowed.step inForce stepped

theorem placement_of_named {group : GroupConfig Args} (named : group.subnetPool ≠ "") :
    c.placement group = group.subnetPool := if_pos named

theorem requestedPool_eq_some : c.requestedPool doc tenant key group = some pool ↔
      (c.groups.ofTenant tenant).get key = none ∧ pool ≠ "" ∧
        dynamicSubnetPool c.toServerConfig tenant group
          ((doc.ofTenant tenant).get key).isSome = .ok pool := by
  rw [requestedPool]
  cases (c.groups.ofTenant tenant).get key with
  | some base => simp
  | none =>
    cases dynamicSubnetPool c.toServerConfig tenant group
        ((doc.ofTenant tenant).get key).isSome with
    | error error => simp
    | ok asked =>
      by_cases empty : asked = ""
      · simp only [Option.isSome_none, Bool.false_eq_true, if_false, empty, if_true, true_and,
          Except.ok.injEq]
        constructor
        · intro none
          cases none
        · rintro ⟨named, rfl⟩
          exact absurd rfl named
      simp only [Option.isSome_none, Bool.false_eq_true, if_false, empty, true_and,
        Option.some.injEq, Except.ok.injEq]
      constructor
      · rintro rfl
        exact ⟨empty, rfl⟩
      · exact And.right

variable {other otherKey : String}

/-- After an update, groups are placed as before, or the updated group in the pool that it
asked for. -/
theorem placed_put (allowed : c.Allowed doc)
    (upserted : upsertedGroup c.toServerConfig tenant key group
      ((doc.ofTenant tenant).get key) = .ok merged)
    (placed : c.Placed (doc.put tenant key merged) other otherKey pool) :
    c.Placed doc other otherKey pool ∨
      other = tenant ∧ pool ∈ c.requestedPool doc tenant key group := by
  obtain ⟨ordinary, named, there⟩ := placed_iff.mp placed
  rw [placed_iff]
  by_cases same : other = tenant ∧ otherKey = key
  case neg =>
    rw [get_put, if_neg same] at there
    exact .inl ⟨ordinary, named, there⟩
  obtain ⟨rfl, rfl⟩ := same
  have stored : ((doc.put other otherKey merged).ofTenant other).get otherKey = some merged := by
    rw [get_put, if_pos ⟨rfl, rfl⟩]
  rw [stored] at there
  cases static : (c.groups.ofTenant other).get otherKey with
  | some base =>
    rw [static] at there
    exact .inl ⟨ordinary, named, there⟩
  | none =>
    rw [static, Option.map_none, Option.none_or, Option.map_some, Option.some.injEq,
      placement_of_named (allowed.put upserted _ _ _ stored static).1] at there
    obtain ⟨asked, pooled, _, new, moved⟩ := subnetPool_upserted upserted static
    rw [moved] at there
    split at there
    · rename_i kept
      cases found : (doc.ofTenant other).get otherKey with
      | none => exact absurd kept (new found)
      | some before =>
        rw [found] at there
        refine .inl ⟨ordinary, named, ?_⟩
        rw [Option.map_none, Option.none_or, Option.map_some,
          placement_of_named (allowed _ _ _ found static).1, ← there]
        rfl
    · exact .inr ⟨rfl, requestedPool_eq_some.mpr ⟨static, named, there ▸ pooled⟩⟩

theorem placed_of_requested (valid : c.validateAll = .ok ())
    (upserted : upsertedGroup c.toServerConfig tenant key group
      ((doc.ofTenant tenant).get key) = .ok merged)
    (requested : pool ∈ c.requestedPool doc tenant key group) :
    c.Placed (doc.put tenant key merged) tenant key pool := by
  obtain ⟨static, named, pooled⟩ := requestedPool_eq_some.mp requested
  obtain ⟨asked, pooled', _, _, moved⟩ := subnetPool_upserted upserted static
  cases pooled.symm.trans pooled'
  rw [if_neg named] at moved
  refine placed_iff.mpr ⟨?_, named, ?_⟩
  · intro managed
    exact (nat_static valid managed).2 static
  · rw [static, get_put, if_pos ⟨rfl, rfl⟩, Option.map_none, Option.none_or, Option.map_some,
      placement_of_named (moved ▸ named), moved]

theorem placed_put_other (different : other ≠ tenant) :
    c.Placed (doc.put tenant key merged) other otherKey pool ↔
      c.Placed doc other otherKey pool := by
  rw [placed_iff, placed_iff, get_put, if_neg fun same => different same.1]

theorem Placed.of_kept (kept : ∀ tenant key group, (doc'.ofTenant tenant).get key = some group →
      (doc.ofTenant tenant).get key = some group) (placed : c.Placed doc' tenant key pool) :
    c.Placed doc tenant key pool := by
  obtain ⟨ordinary, named, there⟩ := placed_iff.mp placed
  refine placed_iff.mpr ⟨ordinary, named, ?_⟩
  cases static : (c.groups.ofTenant tenant).get key with
  | some base =>
    rw [static] at there
    exact there
  | none =>
    rw [static, Option.map_none, Option.none_or] at there
    obtain ⟨group, stored, same⟩ := Option.map_eq_some_iff.mp there
    rw [kept _ _ _ stored, Option.map_none, Option.none_or, Option.map_some, same]

theorem exclusive_empty (valid : c.validateAll = .ok ()) :
    c.Exclusive (.empty : DynamicGroups Json) := by
  intro tenant key other otherKey pool managed different placed placed'
  obtain ⟨natGroup, managed⟩ := Option.isSome_iff_exists.mp managed
  obtain ⟨ordinary, named, there⟩ := placed_iff.mp placed
  obtain ⟨ordinary', _, there'⟩ := placed_iff.mp placed'
  have nothing : ∀ tenant key, ((TenantGroups.ofTenant (.empty : DynamicGroups Json) tenant).get
      key).map c.placement = none := fun _ _ => rfl
  rw [nothing, Option.or_none, Option.map_eq_some_iff] at there there'
  obtain ⟨group, there, rfl⟩ := there
  obtain ⟨group', there', same⟩ := there'
  refine static_apart valid managed there ?_ named different ordinary' there' same
  rintro rfl
  exact ordinary managed

theorem Exclusive.put {fuel : Nat} {given : ServerConfig Files} {memory : Memory Leaf Files}
    (exclusive : c.Exclusive doc) (allowed : c.Allowed doc)
    (apart : c.Apart doc (.upsert fuel given memory tenant key group))
    (upserted : upsertedGroup c.toServerConfig tenant key group
      ((doc.ofTenant tenant).get key) = .ok merged) : c.Exclusive (doc.put tenant key merged) := by
  intro first firstKey second secondKey pool managed different placed placed'
  rcases placed_put allowed upserted placed with old | ⟨rfl, requested⟩
  · rcases placed_put allowed upserted placed' with old' | ⟨rfl, requested⟩
    · exact exclusive _ _ _ _ _ managed different old old'
    have free := (apart _ requested _ _ different.symm old).2
    rw [free] at managed
    cases managed
  have old' := (placed_put_other different).mp placed'
  have free := (apart _ requested _ _ different old').1
  rw [free] at managed
  cases managed

end

/-- **A pool of a tenant with managed NAT belongs to it.** Under a valid configuration, this
holds after every history of updates none of which asks for a pool of another tenant, where
one of the two has managed NAT; and an update after which it holds asks for none. -/
theorem nat_pools_exclusive (D : Decoder Json Leaf) (digests : Digests Leaf Files)
    (c : ShardConfig Files) (valid : c.validateAll = .ok ()) :
    (∀ doc, (history D digests).Reaches (fun doc label => c.InForce label ∧ c.Apart doc label) doc →
        c.Exclusive doc) ∧
      ∀ doc label doc', c.InForce label → (history D digests).step doc label = some doc' →
        c.Exclusive doc' → c.Apart doc label := by
  constructor
  · intro doc reached
    refine Machine.Reaches.invariant (P := c.Exclusive) (exclusive_empty valid) ?_ reached
    rintro doc doc' label before exclusive ⟨inForce, apart⟩ stepped
    have allowed : c.Allowed doc := allowed_of_reaches (before.mono fun _ _ => And.left)
    cases written stepped with
    | put _ upserted =>
      rw [inForce.1] at upserted
      exact exclusive.put allowed apart upserted
    | dropped kept =>
      intro tenant key other otherKey pool managed different placed placed'
      exact exclusive _ _ _ _ _ managed different (placed.of_kept kept) (placed'.of_kept kept)
  · intro doc label doc' inForce stepped exclusive
    cases written stepped with
    | dropped => trivial
    | @put _ _ _ tenant key _ merged _ upserted =>
      rw [inForce.1] at upserted
      intro pool requested other otherKey different placed
      have here := placed_of_requested valid upserted requested
      have there : c.Placed (doc.put tenant key merged) other otherKey pool :=
        (placed_put_other different).mpr placed
      constructor
      · rw [← Option.not_isSome_iff_eq_none]
        intro managed
        exact exclusive _ _ _ _ _ managed different here there
      · rw [← Option.not_isSome_iff_eq_none]
        intro managed
        exact exclusive _ _ _ _ _ managed different.symm there here

end ShardConfig

/-! ## A pool of two tenants -/

namespace Intruder

open Removal (plain digests heap)

/-- The tenant `a` has a NAT group and a group in the pool of its template. -/
def groups : TenantGroups Ref :=
  (TenantGroups.put .empty "a" "nat"
    { template := "t", instanceType := "small", subnetPool := "edge" }).put "a" "web"
      { template := "t", size := some 1 }

/-- Three pools, and a tenant with managed NAT. -/
def config : ShardConfig Unit where
  defaults := {}
  templates := ⟨[("t", { kind := "knc", arch := "arm64", files := (), subnetPool := "apps" })],
    by decide⟩
  groups
  subnetPools := ⟨[("apps", ["subnet-1"]), ("edge", ["subnet-2"]), ("jobs", ["subnet-3"])],
    by decide⟩
  bindHealthAddr := "10.0.0.1:8990"
  advertise := ⟨"10.0.0.1:8990", "10.0.0.1:8991", "10.0.0.1:8992", "10.0.0.1:8993", "10.0.0.1:8994"⟩
  nat := ⟨[("a", "nat")], by decide⟩

/-- The tenant `b` adds a group, in the given pool or in that of the template. -/
def added (subnetPool : String) : Change Empty String Unit :=
  .upsert 1 config.toServerConfig ⟨config.toServerConfig, heap⟩ "b" "api"
    { template := "t", size := some 1, subnetPool }

/-- The document with the group of the tenant `b`. -/
def document (subnetPool : String) : DynamicGroups Empty :=
  TenantGroups.put .empty "b" "api" { template := "t", size := some 1, subnetPool }

/-- A group in a pool of its own is placed apart. -/
theorem exclusive_jobs : config.validateAll = .ok () ∧ config.Exclusive (document "jobs") := by
  have valid : config.validateAll = .ok () := by rfl
  refine ⟨valid, (ShardConfig.nat_pools_exclusive (plain String) digests config valid).1 _ ?_⟩
  refine Machine.Reaches.extend .start (added "jobs") ⟨⟨rfl, rfl⟩, ?_⟩ rfl
  rintro pool ⟨⟩ other otherKey _ placed
  obtain ⟨_, _, there⟩ := ShardConfig.placed_iff.mp placed
  -- no static group is in the pool, and nothing is stored yet
  have static : ((config.groups.ofTenant other).get otherKey).map config.placement =
      some "jobs" := by
    rw [← there, show ((TenantGroups.ofTenant (history (plain String) digests).start other).get
      otherKey) = none from rfl, Option.map_none, Option.or_none]
  rw [show config.groups = groups from rfl, groups, get_put, get_put] at static
  split at static
  · exact absurd static (by decide)
  split at static
  · exact absurd static (by decide)
  · cases static

/-- A group that takes the pool of its template gets into that of the tenant `a`. -/
theorem pool_shared : config.validateAll = .ok () ∧ config.InForce (added "") ∧
    (history (plain String) digests).run .empty [added ""] = some (document "apps") ∧
      ¬ config.Exclusive (document "apps") := by
  refine ⟨rfl, ⟨rfl, rfl⟩, rfl, fun exclusive => ?_⟩
  have web : config.Placed (document "apps") "a" "web" "apps" := by
    refine ⟨⟨_, rfl, rfl⟩, ?_, ?_⟩ <;> decide
  have api : config.Placed (document "apps") "b" "api" "apps" := by
    refine ⟨⟨_, rfl, rfl⟩, ?_, ?_⟩ <;> decide
  exact exclusive "a" "web" "b" "api" "apps" rfl (by decide) web api

end Intruder

end Nstance.Configuration
