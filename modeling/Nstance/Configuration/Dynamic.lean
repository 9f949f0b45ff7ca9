import Mathlib.Data.List.Dedup
import Nstance.Configuration.Merge
import Nstance.Interaction.Trace

/-!
# The document of dynamic groups

`UpsertGroup` and `DeleteGroup` write the document of dynamic groups, after the hashes of
the groups that it gives with the server configuration could be computed. It changes one
group of one tenant at a time (`Written`). A dynamic group that overrides a static one is
stored with what it overrides only, and without a template.
-/

namespace Nstance.Configuration

open Objects Interaction

variable {Args Json Leaf Files : Type}

/-! ## Identifiers -/

/-- `%q`. -/
def quoted (text : String) : String := "\"" ++ text ++ "\""

/-- The longest identifier. -/
def validateMaxLength : Nat := 32

/-- The characters after a letter or a digit: more of them, or single hyphens between
them. -/
def identifierTail : List Char → Bool
  | [] => true
  | '-' :: char :: rest => (char.isLower || char.isDigit) && identifierTail rest
  | char :: rest => (char.isLower || char.isDigit) && identifierTail rest

/-- The text matches `^[a-z0-9]+(?:-[a-z0-9]+)*$`. -/
def matchesIdentifier : List Char → Bool
  | [] => false
  | char :: rest => (char.isLower || char.isDigit) && identifierTail rest

/-- `identifiers.Validate`. -/
def validateIdentifier (kind value : String) : Except String Unit :=
  if value = "" then .error (kind ++ " cannot be empty")
  else if validateMaxLength < value.utf8ByteSize then
    .error (kind ++ " " ++ quoted value ++ " exceeds maximum length of 32 characters")
  else if matchesIdentifier value.toList = false then
    .error (kind ++ " " ++ quoted value ++ " must contain only lowercase alphanumeric " ++
      "characters and hyphens, with no leading/trailing/consecutive hyphens")
  else .ok ()

theorem validateIdentifier_empty (kind : String) : validateIdentifier kind "" ≠ .ok () := by
  rintro ⟨⟩

/-! ## The server configuration -/

/-- The addresses that other processes are told. -/
structure AdvertiseConfig where
  healthAddr : String
  electionAddr : String
  registrationAddr : String
  operatorAddr : String
  agentAddr : String

/-- The groups of every tenant. -/
abbrev TenantGroups (Args : Type) := Dict String (Groups Args)

variable (groups : TenantGroups Args)

/-- `groups[tenant]`, which is nil for a tenant without groups. -/
def TenantGroups.ofTenant (tenant : String) : Groups Args :=
  (groups.get tenant).getD .empty

/-- Store one group of a tenant. -/
def TenantGroups.put (tenant key : String) (group : GroupConfig Args) : TenantGroups Args :=
  groups.set tenant ((groups.ofTenant tenant).set key group)

/-- The groups without one of them, and without its tenant if that was the last one. -/
def TenantGroups.remove (tenant key : String) : TenantGroups Args :=
  let rest := (groups.ofTenant tenant).erase key
  if rest.entries.isEmpty then groups.erase tenant else groups.set tenant rest

section

variable {groups : TenantGroups Args} {tenant key other otherKey : String}
  {group : GroupConfig Args}

theorem ofTenant_set {own : Groups Args} : TenantGroups.ofTenant (groups.set tenant own) other =
      if other = tenant then own else groups.ofTenant other := by
  by_cases same : other = tenant
  · subst same
    simp [TenantGroups.ofTenant]
  · rw [if_neg same, TenantGroups.ofTenant, Dict.get_set_of_ne same]
    rfl

theorem get_put : ((groups.put tenant key group).ofTenant other).get otherKey =
    if other = tenant ∧ otherKey = key then some group
    else (groups.ofTenant other).get otherKey := by
  rw [TenantGroups.put, ofTenant_set]
  by_cases same : other = tenant
  · by_cases sameKey : otherKey = key
    · simp [same, sameKey]
    · rw [if_pos same, Dict.get_set_of_ne sameKey, if_neg (fun both => sameKey both.2), same]
  · rw [if_neg same, if_neg (fun both => same both.1)]

theorem get_remove : ((groups.remove tenant key).ofTenant other).get otherKey =
    if other = tenant ∧ otherKey = key then none else (groups.ofTenant other).get otherKey := by
  have erased : ((groups.ofTenant tenant).erase key).get otherKey =
      if otherKey = key then none else (groups.ofTenant tenant).get otherKey := by
    by_cases sameKey : otherKey = key
    · rw [if_pos sameKey, sameKey, Dict.get_erase_self]
    · rw [if_neg sameKey, Dict.get_erase_of_ne sameKey]
  by_cases same : other = tenant
  · subst same
    simp only [true_and]
    rw [← erased, TenantGroups.remove]
    split
    · -- the last group of the tenant
      rename_i last
      have nothing : ((groups.ofTenant other).erase key).get otherKey = none := by
        rw [Dict.get, List.isEmpty_iff.mp last]
        rfl
      rw [nothing, TenantGroups.ofTenant, Dict.get_erase_self]
      rfl
    · rw [ofTenant_set, if_pos rfl]
  · rw [if_neg (fun both => same both.1), TenantGroups.remove]
    split
    · rw [TenantGroups.ofTenant, Dict.get_erase_of_ne same]
      rfl
    · rw [ofTenant_set, if_neg same]

end

/-- The parts of the configuration that groups depend on, and the addresses. -/
structure ServerConfig (Files : Type) extends Config Files where
  groups : TenantGroups Ref := .empty
  loadBalancers : List String := []
  subnetPools : Dict String (List String) := .empty
  dynamicSubnetPools : List String := []
  bindHealthAddr : String
  advertise : AdvertiseConfig

/-- A loop that ends at the first error. -/
def checkAll {α : Type} (check : α → Except String Unit) : List α → Except String Unit
  | [] => .ok ()
  | item :: rest =>
    match check item with
    | .error error => .error error
    | .ok () => checkAll check rest

theorem checkAll_eq_ok {α : Type} {check : α → Except String Unit} {list : List α} :
    checkAll check list = .ok () ↔ ∀ item ∈ list, check item = .ok () := by
  induction list with
  | nil => simp [checkAll]
  | cons item rest ih =>
    rw [checkAll, List.forall_mem_cons, ← ih]
    cases check item <;> simp

namespace ServerConfig

variable (c : ServerConfig Files)

/-- The checks of `Validate` on one group; the message names tenant and key in this
order. -/
def validateGroup (tenant : String) (entry : String × GroupConfig Ref) : Except String Unit :=
  match validateIdentifier "group ID" entry.1 with
  | .error error => .error ("group key " ++ quoted entry.1 ++ " in tenant " ++ quoted tenant ++
      ": " ++ error)
  | .ok () =>
    if (c.templates.get entry.2.template).isNone then
      .error ("group " ++ tenant ++ " in tenant " ++ entry.1 ++
        " references unknown template: " ++ entry.2.template)
    else
      checkAll (fun lb =>
        if lb ∈ c.loadBalancers then .ok ()
        else .error ("group " ++ tenant ++ " in tenant " ++ entry.1 ++
          " references unknown load balancer: " ++ lb)) entry.2.loadBalancers

/-- Check a tenant's name and its groups. -/
def validateTenant (entry : String × Groups Ref) : Except String Unit :=
  match validateIdentifier "tenant ID" entry.1 with
  | .error error => .error ("group tenant " ++ quoted entry.1 ++ ": " ++ error)
  | .ok () => checkAll (c.validateGroup entry.1) entry.2.entries

/-- The part of `Validate` that reads the groups. -/
def validate : Except String Unit := checkAll c.validateTenant c.groups.entries

variable {c}

theorem validate_spec (valid : c.validate = .ok ()) {tenant key : String}
    {group : GroupConfig Ref} (there : (c.groups.ofTenant tenant).get key = some group) :
    tenant ≠ "" ∧ (c.templates.get group.template).isSome = true := by
  cases found : c.groups.get tenant with
  | none => simp [TenantGroups.ofTenant, found] at there
  | some groups =>
    rw [TenantGroups.ofTenant, found] at there
    have passed := checkAll_eq_ok.mp valid _ (Dict.get_eq_some_iff.mp found)
    rw [validateTenant] at passed
    split at passed
    · cases passed
    rename_i named
    constructor
    · rintro rfl
      exact validateIdentifier_empty _ named
    · have checked := checkAll_eq_ok.mp passed _ (Dict.get_eq_some_iff.mp there)
      rw [validateGroup] at checked
      split at checked
      · cases checked
      split at checked
      · cases checked
      · rename_i defined
        rwa [Option.isNone_iff_eq_none, ← ne_eq, Option.ne_none_iff_isSome] at defined

end ServerConfig

/-- The check of a pool that an operator names. -/
def validateDynamicSubnetKey (c : ServerConfig Files) (key : String) : Except String Unit :=
  if key = "" then .ok ()
  else
    match validateIdentifier "subnet pool" key with
    | .error error => .error ("subnet pool ID " ++ quoted key ++ ": " ++ error)
    | .ok () =>
      if (c.subnetPools.get key).isNone then
        .error ("unknown subnet pool ID " ++ quoted key ++ " (not defined in shard.subnet_pools)")
      else if c.dynamicSubnetPools = [] then .ok ()
      else if key ∈ c.dynamicSubnetPools then .ok ()
      else
        .error ("subnet pool ID " ++ quoted key ++ " is not allowed for external requests " ++
          "(allowed: [" ++ " ".intercalate c.dynamicSubnetPools ++ "])")

/-! ## Dynamic groups -/

/-- The document of the dynamic groups, with arguments as JSON objects. -/
abbrev DynamicGroups (Json : Type) := TenantGroups (Dict String Json)

/-- A group without the contents of its arguments. -/
def GroupConfig.bare (group : GroupConfig Args) : GroupConfig Unit :=
  { group with args := group.args.map fun _ => () }

/-- Groups without the contents of their arguments. -/
def bareGroups (groups : Groups Args) : Groups Unit :=
  groups.filterMap fun _ group => some group.bare

@[simp] theorem get_bareGroups {groups : Groups Args} {key : String} :
    (bareGroups groups).get key = (groups.get key).map GroupConfig.bare := by
  rw [bareGroups, Dict.get_filterMap]
  cases groups.get key <;> rfl

/-- The JSON decoder for the document. It returns the fields of the document, and for
the arguments of a group a new object, whose levels are bounded. -/
structure Decoder (Json Leaf : Type) where
  parseGroups : Heap String Leaf → DynamicGroups Json → TenantGroups Ref × Heap String Leaf
  fields : ∀ h doc tenant key,
    (((parseGroups h doc).1.ofTenant tenant).get key).map GroupConfig.bare =
      ((doc.ofTenant tenant).get key).map GroupConfig.bare
  graded : ∀ {h : Heap String Leaf} (doc : DynamicGroups Json) {level : Ref → Nat} {bound : Nat},
    h.Graded level bound → ∃ level' bound', bound ≤ bound' ∧
      (parseGroups h doc).2.Graded level' bound' ∧ h.next ≤ (parseGroups h doc).2.next ∧
      (∀ ref < h.next, level' ref = level ref) ∧
      ∀ tenant key group, ((parseGroups h doc).1.ofTenant tenant).get key = some group →
        AtTop level' (parseGroups h doc).2.next group.args

/-- The static groups with the dynamic ones laid over them. -/
def effectiveGroups (static dynamic : TenantGroups Ref) : List TenantGroup :=
  ((static.entries ++ dynamic.entries).map Prod.fst).dedup.flatMap fun tenant =>
    (mergeGroups (static.ofTenant tenant) (dynamic.ofTenant tenant)).entries.map fun entry =>
      ⟨tenant, entry.1, entry.2⟩

theorem mem_keys_of_ofTenant {groups : TenantGroups Args} {tenant key : String}
    {group : GroupConfig Args} (there : (groups.ofTenant tenant).get key = some group) :
    tenant ∈ groups.entries.map Prod.fst := by
  cases found : groups.get tenant with
  | none => simp [TenantGroups.ofTenant, found] at there
  | some own => exact List.mem_map_of_mem (Dict.get_eq_some_iff.mp found)

theorem mem_effectiveGroups {static dynamic : TenantGroups Ref} {group : TenantGroup} :
    group ∈ effectiveGroups static dynamic ↔
      (mergeGroups (static.ofTenant group.tenant) (dynamic.ofTenant group.tenant)).get group.key =
        some group.config := by
  rw [Dict.get_eq_some_iff, effectiveGroups, List.mem_flatMap]
  constructor
  · rintro ⟨tenant, _, mem⟩
    obtain ⟨entry, listed, rfl⟩ := List.mem_map.mp mem
    exact listed
  · intro mem
    refine ⟨group.tenant, ?_, List.mem_map.mpr ⟨_, mem, rfl⟩⟩
    rw [← Dict.get_eq_some_iff, get_mergeGroups] at mem
    rw [List.mem_dedup, List.map_append, List.mem_append]
    cases found : (dynamic.ofTenant group.tenant).get group.key with
    | some override => exact .inr (mem_keys_of_ofTenant found)
    | none =>
      rw [found] at mem
      exact .inl (mem_keys_of_ofTenant mem)

/-- The database takes no hash without a tenant. -/
def replaceGroupHashes (hashes : List GroupHashes) : Except String Unit :=
  checkAll (fun hash => if hash.tenant = "" then .error "tenant is required" else .ok ()) hashes

theorem replaceGroupHashes_eq_ok {hashes : List GroupHashes} :
    replaceGroupHashes hashes = .ok () ↔ ∀ tenant ∈ hashes.map GroupHashes.tenant, tenant ≠ "" := by
  rw [replaceGroupHashes, checkAll_eq_ok, List.forall_mem_map]
  refine forall₂_congr fun hash _ => ?_
  by_cases empty : hash.tenant = "" <;> simp [empty]

/-- Merge the fields that an update gives into a stored group. For a static group only
the size, the instance type and the variables are taken over. -/
def mergeGroupConfig (existing update : GroupConfig (Dict String Json)) (isStaticGroup : Bool) :
    GroupConfig (Dict String Json) :=
  { existing with
    template :=
      if isStaticGroup = false ∧ update.template ≠ "" then update.template else existing.template
    size := update.size.or existing.size
    instanceType :=
      if update.instanceType ≠ "" then update.instanceType else existing.instanceType
    subnetPool :=
      if isStaticGroup = false ∧ update.subnetPool ≠ "" then update.subnetPool
      else existing.subnetPool
    vars := existing.vars.assign update.vars.entries
    args :=
      match isStaticGroup, update.args with
      | false, some args =>
        if args.entries.isEmpty then existing.args
        else some ((existing.args.getD .empty).assign args.entries)
      | _, _ => existing.args }

/-- The subnet pool of an update of a group that is not static: a new group takes that
of its template if it gives none. -/
def dynamicSubnetPool (c : ServerConfig Files) (tenant : String)
    (group : GroupConfig (Dict String Json)) (existsInDynamic : Bool) : Except String String :=
  if existsInDynamic then .ok group.subnetPool
  else if group.template = "" then
    .error ("template is required for new group in tenant " ++ tenant)
  else if group.subnetPool ≠ "" then .ok group.subnetPool
  else
    match c.templates.get group.template with
    | none => .error ("template " ++ group.template ++ " not found")
    | some template =>
      if template.subnetPool = "" then
        .error ("template " ++ group.template ++ " has no subnet pool configured")
      else .ok template.subnetPool

/-- What `UpsertGroup` makes of the stored group. -/
def upsertedGroup (c : ServerConfig Files) (tenant key : String)
    (group : GroupConfig (Dict String Json)) (existing : Option (GroupConfig (Dict String Json))) :
    Except String (GroupConfig (Dict String Json)) :=
  let refused (what : String) : Except String (GroupConfig (Dict String Json)) :=
    .error ("cannot override " ++ what ++ " for static group " ++ key ++ " in tenant " ++ tenant)
  match (c.groups.ofTenant tenant).get key with
  | some static =>
    if group.template ≠ "" ∧ group.template ≠ static.template then refused "template"
    else if group.subnetPool ≠ "" then refused "subnet pool"
    else if (group.args.getD .empty).entries.isEmpty = false then refused "args"
    else if group.drainTimeout.isSome then refused "drainTimeout"
    else .ok (mergeGroupConfig (existing.getD {}) group true)
  | none =>
    match dynamicSubnetPool c tenant group existing.isSome with
    | .error error => .error error
    | .ok subnetPool =>
      match validateDynamicSubnetKey c subnetPool with
      | .error error => .error error
      | .ok () => .ok (mergeGroupConfig (existing.getD {}) { group with subnetPool } false)

/-- A configuration in memory: the arguments are objects of the heap. -/
structure Memory (Leaf Files : Type) where
  config : ServerConfig Files
  heap : Heap String Leaf

section

variable (D : Decoder Json Leaf) (digests : Digests Leaf Files) (fuel : Nat)
  (memory : Memory Leaf Files) (doc : DynamicGroups Json)

/-- Parse a document and compute the hashes of all groups. -/
def syncGroupHashes : Option (Except String (TenantGroups Ref × List GroupHashes)) :=
  let parsed := D.parseGroups memory.heap doc
  (computeGroupHashes digests fuel memory.config.toConfig parsed.2
    (effectiveGroups memory.config.groups parsed.1)).map fun done =>
      match done.1 with
      | .error error => .error ("failed to compute group hashes: " ++ error)
      | .ok hashes =>
        match replaceGroupHashes hashes with
        | .error error => .error ("failed to sync groups to cache: " ++ error)
        | .ok () => .ok (parsed.1, hashes)

/-- `saveDynamicGroupsLocked`, if nothing fails in the storage: the document is written
once its hashes are computed. -/
def saveDynamicGroups : Option (Except String (DynamicGroups Json)) :=
  (syncGroupHashes D digests fuel memory doc).map fun result => result.map fun _ => doc

/-- Create or update a group of a tenant. The configuration that the checks read may be
older than the one in memory when the document is written. -/
def upsertGroup (c : ServerConfig Files) (memory : Memory Leaf Files) (doc : DynamicGroups Json)
    (tenant key : String) (group : GroupConfig (Dict String Json)) :
    Option (Except String (DynamicGroups Json)) :=
  if tenant = "" then some (.error "tenant is required")
  else
    match upsertedGroup c tenant key group ((doc.ofTenant tenant).get key) with
    | .error error => some (.error error)
    | .ok group => saveDynamicGroups D digests fuel memory (doc.put tenant key group)

/-- Remove a dynamic group of a tenant; a static group loses its overrides only. -/
def deleteGroup (tenant key : String) : Option (Except String (DynamicGroups Json)) :=
  if tenant = "" then some (.error "tenant is required")
  else if ((doc.ofTenant tenant).get key).isNone then saveDynamicGroups D digests fuel memory doc
  else saveDynamicGroups D digests fuel memory (doc.remove tenant key)

/-! ## Histories of the document -/

/-- An accepted call, with the configurations in force and the fuel that was enough. -/
inductive Change (Json Leaf Files : Type) where
  | upsert (fuel : Nat) (c : ServerConfig Files) (memory : Memory Leaf Files)
      (tenant key : String) (group : GroupConfig (Dict String Json))
  | delete (fuel : Nat) (memory : Memory Leaf Files) (tenant key : String)

/-- The document that an answer leaves, if the call was accepted. -/
def accepted : Option (Except String (DynamicGroups Json)) → Option (DynamicGroups Json)
  | some (.ok doc) => some doc
  | _ => none

/-- The document under accepted calls. All configurations were validated. -/
def history : Machine (DynamicGroups Json) (Change Json Leaf Files) where
  start := .empty
  step doc
    | .upsert fuel c memory tenant key group =>
      if c.validate.isOk && memory.config.validate.isOk then
        accepted (upsertGroup D digests fuel c memory doc tenant key group)
      else none
    | .delete fuel memory tenant key =>
      if memory.config.validate.isOk then
        accepted (deleteGroup D digests fuel memory doc tenant key)
      else none

end

section

variable {D : Decoder Json Leaf} {digests : Digests Leaf Files} {doc doc' : DynamicGroups Json}

theorem eq_of_accepted_save {fuel : Nat} {memory : Memory Leaf Files}
    (saved : accepted (saveDynamicGroups D digests fuel memory doc) = some doc') : doc' = doc := by
  rw [saveDynamicGroups] at saved
  cases synced : syncGroupHashes D digests fuel memory doc with
  | none => rw [synced] at saved; cases saved
  | some result =>
    rw [synced] at saved
    cases result with
    | error error => cases saved
    | ok done => exact (Option.some.inj saved).symm

/-- What an accepted call does to the document: it puts the merged group of a named
tenant, or nothing is left that was not there. -/
inductive Written (doc : DynamicGroups Json) :
    Change Json Leaf Files → DynamicGroups Json → Prop where
  | put {fuel : Nat} {c : ServerConfig Files} {memory : Memory Leaf Files} {tenant key : String}
      {group merged : GroupConfig (Dict String Json)} (named : tenant ≠ "")
      (upserted : upsertedGroup c tenant key group ((doc.ofTenant tenant).get key) = .ok merged) :
      Written doc (.upsert fuel c memory tenant key group) (doc.put tenant key merged)
  | dropped {fuel : Nat} {memory : Memory Leaf Files} {tenant key : String}
      {doc' : DynamicGroups Json}
      (kept : ∀ tenant key group, (doc'.ofTenant tenant).get key = some group →
        (doc.ofTenant tenant).get key = some group) :
      Written doc (.delete fuel memory tenant key) doc'

theorem written {label : Change Json Leaf Files}
    (stepped : (history D digests).step doc label = some doc') : Written doc label doc' := by
  cases label with
  | upsert fuel c memory tenant key group =>
    simp only [history] at stepped
    split at stepped
    · rw [upsertGroup] at stepped
      split at stepped
      · cases stepped
      rename_i named
      split at stepped
      · cases stepped
      rename_i merged upserted
      rw [eq_of_accepted_save stepped]
      exact .put named upserted
    · cases stepped
  | delete fuel memory tenant key =>
    simp only [history] at stepped
    split at stepped
    · rw [deleteGroup] at stepped
      split at stepped
      · cases stepped
      split at stepped
      · rw [eq_of_accepted_save stepped]
        exact .dropped fun _ _ _ there => there
      rw [eq_of_accepted_save stepped]
      refine .dropped fun tenant' key' group there => ?_
      rw [get_remove] at there
      split at there
      · cases there
      · exact there
    · cases stepped

theorem named_of_reachable (reached : (history D digests).Reachable doc) {tenant key : String}
    {group : GroupConfig (Dict String Json)}
    (there : (doc.ofTenant tenant).get key = some group) : tenant ≠ "" := by
  revert tenant key group
  refine Machine.Reaches.invariant (P := fun doc : DynamicGroups Json => ∀ {tenant key : String}
      {group : GroupConfig (Dict String Json)},
        (doc.ofTenant tenant).get key = some group → tenant ≠ "") ?_ ?_ reached
  · intro tenant key group there
    cases there
  · intro doc doc' label _ ih _ stepped
    cases written stepped with
    | put named =>
      intro tenant key group there
      rw [get_put] at there
      split at there
      · rename_i same
        exact same.1 ▸ named
      · exact ih there
    | dropped kept =>
      intro tenant key group there
      exact ih (kept _ _ _ there)

end

end Nstance.Configuration
