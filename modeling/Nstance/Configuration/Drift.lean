import Nstance.Configuration.Dynamic

/-!
# A fresh instance is not drifted

`createInstance` puts the group of its instance together anew: it copies the arguments and lays
those of the request over them. The reconciler takes these from the same group, so nothing
changes, and the hash of the instance is the one that is stored for the group
(`fresh_not_drifted`). The arguments of groups are immutable values here: documents.
-/

namespace Nstance.Configuration

open Objects

/-- A group whose arguments are a JSON document. -/
abbrev ValueGroup (Leaf : Type) := GroupConfig (Document String Leaf)

variable {Leaf Files : Type}

/-- What the merged configuration depends on in a `CreateInstanceRequest`. -/
structure InstanceRequest (Leaf : Type) where
  tenant : String
  group : String
  template : String
  instanceType : String
  subnetPool : String
  vars : Dict String String
  args : Option (Document String Leaf)

/-- The request of `createInstanceForGroup`. -/
def requestFor (tenant key : String) (group : ValueGroup Leaf) : InstanceRequest Leaf :=
  ⟨tenant, key, group.template, group.instanceType, group.subnetPool, group.vars, group.args⟩

/-- Copy the entries of a map into another; a nil map has none. -/
def assignArgs (dst : Document String Leaf) (src : Option (Document String Leaf)) :
    Document String Leaf
  | [] => dst []
  | key :: path =>
    if (src.getD blank [key]).isSome then src.getD blank (key :: path) else dst (key :: path)

/-- The group that a request is hashed as: its own fields win over the group's. -/
def InstanceRequest.finalGroupConfig (request : InstanceRequest Leaf) (group : ValueGroup Leaf)
    (template : String) : ValueGroup Leaf where
  template
  size := some 1
  instanceType :=
    if request.instanceType ≠ "" then request.instanceType else group.instanceType
  subnetPool := if request.subnetPool ≠ "" then request.subnetPool else group.subnetPool
  vars := (Dict.empty.assign group.vars.entries).assign request.vars.entries
  args := some (assignArgs (assignArgs blank group.args) request.args)

section

variable (digests : Digests Leaf Files) (c : Config Files) (h : Heap String Leaf)

/-- `GetMergedConfig` of values; those of the defaults and templates are read from the heap. -/
def mergedValues (template : String) (group : ValueGroup Leaf) :
    Except String (MergedConfig (Document String Leaf) Files) :=
  match c.templates.get template with
  | none => .error ("template not found: " ++ template)
  | some templateConfig => .ok (mergeFields c.defaults templateConfig { group with args := none }
      (overlay (overlay (document h c.defaults.args) (document h templateConfig.args))
        (group.args.getD blank)))

/-- `createInstance`, from the lookup of the group to the hash that it records. -/
def createdHash (static dynamic : String → Groups (Document String Leaf))
    (request : InstanceRequest Leaf) : Except String String :=
  match getGroup static dynamic request.tenant request.group with
  | .error _ => .error ("group not found: " ++ request.group)
  | .ok group =>
    let template := if request.template ≠ "" then request.template else group.template
    if (c.templates.get template).isNone then .error ("template not found: " ++ template)
    else
      match mergedValues c h template (request.finalGroupConfig group template) with
      | .error error => .error ("failed to merge instance configuration: " ++ error)
      | .ok merged => .ok (hashInfraConfig digests merged)

/-- The hashes of one group in `computeGroupHashes`. -/
def hashesOf (tenant key : String) (group : ValueGroup Leaf) : Except String GroupHashes :=
  if group.template = "" then .error (key ++ " in tenant " ++ tenant ++ ": no template")
  else
    match mergedValues c h group.template group with
    | .error error => .error (key ++ " in tenant " ++ tenant ++ ": " ++ error)
    | .ok merged => .ok (groupHashes digests ⟨tenant, key, { group with args := none }⟩ merged)

/-- `computeGroupHashes` of values, for the groups of the tenants in some order. -/
def valueHashes (static dynamic : String → Groups (Document String Leaf)) (tenants : List String) :
    Except String (List GroupHashes) :=
  (tenants.flatMap fun tenant => (mergeGroups (static tenant) (dynamic tenant)).entries.map
    (tenant, ·)).mapM fun group => hashesOf digests c h group.1 group.2.1 group.2.2

end

/-- The comparison of `checkGroupConfigDrift`, of the hash of the group and of an instance. -/
def drifted (group inst : Option String) : Bool :=
  match group with
  | none => false
  | some hash => inst.getD "" ≠ hash

theorem assignArgs_self {args : Option (Document String Leaf)} (formed : ∀ d ∈ args, Formed d) :
    assignArgs (assignArgs blank args) args = args.getD blank := by
  have formed : Formed (args.getD blank) := by
    cases args with
    | none => exact .blank
    | some d => exact formed d rfl
  funext path
  cases path with
  | nil => exact formed.root.symm
  | cons key path =>
    cases there : args.getD blank [key] with
    | some shape => simp [assignArgs, there]
    | none =>
      have below : args.getD blank (key :: path) = none := by
        cases path with
        | nil => exact there
        | cons next rest => exact formed.below [key] (by simp [there]) next rest
      simp [assignArgs, there, below, blank]

theorem finalGroupConfig_requestFor {g : ValueGroup Leaf} (formed : ∀ d ∈ g.args, Formed d)
    {tenant key : String} : (requestFor tenant key g).finalGroupConfig g g.template =
      { template := g.template, size := some 1, instanceType := g.instanceType
        subnetPool := g.subnetPool
        vars := (Dict.empty.assign g.vars.entries).assign g.vars.entries
        args := some (g.args.getD blank) } := by
  unfold InstanceRequest.finalGroupConfig requestFor
  dsimp only
  rw [ite_self, ite_self, assignArgs_self formed]

theorem mem_mapM {α β ε : Type} {f : α → Except ε β} {list : List α} {results : List β}
    (mapped : list.mapM f = .ok results) :
    (∀ a ∈ list, ∃ b ∈ results, f a = .ok b) ∧ ∀ b ∈ results, ∃ a ∈ list, f a = .ok b := by
  induction list generalizing results with
  | nil =>
    cases mapped
    simp
  | cons a rest ih =>
    rw [List.mapM_cons] at mapped
    cases first : f a with
    | error error => simp [first, bind, Except.bind] at mapped
    | ok b =>
      cases others : rest.mapM f with
      | error error => simp [first, others, bind, Except.bind] at mapped
      | ok tail =>
        simp only [first, others, bind, Except.bind, pure, Except.pure, Except.ok.injEq] at mapped
        have := ih others
        grind

theorem countP_rotated {hash : String} {old : Option String} {instances : List (Option String)}
    (mem : old ∈ instances) (stale : drifted (some hash) old = true) :
    (some hash :: instances.erase old).countP (drifted (some hash)) + 1 =
      instances.countP (drifted (some hash)) := by
  rw [(List.perm_cons_erase mem).countP_eq, List.countP_cons_of_pos stale,
    List.countP_cons_of_neg (by simp [drifted])]

/-- **A fresh instance is not drifted.** If the hashes of the groups are computed, then the
instance that the reconciler requests for a group is recorded with the infra hash that is stored
for the group. So it is not drifted, and a rotation leaves one drifted instance less. -/
theorem fresh_not_drifted (digests : Digests Leaf Files) (c : Config Files) (h : Heap String Leaf)
    (static dynamic : String → Groups (Document String Leaf)) {tenants : List String}
    {tenant key : String} (listed : tenant ∈ tenants) {g : ValueGroup Leaf}
    (found : getGroup static dynamic tenant key = .ok g) (formed : ∀ d ∈ g.args, Formed d)
    {hashes : List GroupHashes}
    (computed : valueHashes digests c h static dynamic tenants = .ok hashes) :
    ∃ hash, createdHash digests c h static dynamic (requestFor tenant key g) = .ok hash ∧
      (∃ stored ∈ hashes, stored.tenant = tenant ∧ stored.groupKey = key) ∧
      (∀ stored ∈ hashes, stored.tenant = tenant → stored.groupKey = key →
        stored.infraHash = hash) ∧ drifted (some hash) (some hash) = false ∧
      ∀ instances : List (Option String), ∀ old ∈ instances, drifted (some hash) old = true →
        (some hash :: instances.erase old).countP (drifted (some hash)) + 1 =
          instances.countP (drifted (some hash)) := by
  have effective := (getGroup_eq_ok.mp found).2
  obtain ⟨complete, sound⟩ := mem_mapM computed
  obtain ⟨own, mem, hashed⟩ := complete (tenant, key, g) (List.mem_flatMap.mpr
    ⟨tenant, listed, List.mem_map.mpr ⟨(key, g), Dict.get_eq_some_iff.mp effective, rfl⟩⟩)
  simp only [hashesOf, mergedValues] at hashed sound
  split at hashed
  · cases hashed
  cases template : c.templates.get g.template with
  | none => simp [template] at hashed
  | some templateConfig =>
    simp only [template, Except.ok.injEq] at hashed
    subst hashed
    refine ⟨hashInfraConfig digests (mergeFields c.defaults templateConfig { g with args := none }
      (overlay (overlay (document h c.defaults.args) (document h templateConfig.args))
        (g.args.getD blank))), ?_, ⟨_, mem, rfl, rfl⟩, ?_, by simp [drifted],
      fun _ _ => countP_rotated⟩
    · have asked : (if (requestFor tenant key g).template ≠ "" then
          (requestFor tenant key g).template else g.template) = g.template := ite_self _
      rw [createdHash, show getGroup static dynamic (requestFor tenant key g).tenant
        (requestFor tenant key g).group = .ok g from found]
      simp only [asked, finalGroupConfig_requestFor formed, mergedValues, template]
      rfl
    · rintro stored there rfl rfl
      obtain ⟨⟨tenant', key', g'⟩, there, from_⟩ := sound stored there
      obtain ⟨_, -, there⟩ := List.mem_flatMap.mp there
      obtain ⟨_, entry, same⟩ := List.mem_map.mp there
      cases same
      split at from_
      · cases from_
      split at from_ <;> cases from_
      rename_i merged
      cases effective.symm.trans (Dict.get_eq_some_iff.mpr entry)
      simp only [template, Except.ok.injEq] at merged
      subst merged
      rfl

/-! A group with nested arguments, whose instance type is overridden. -/

/-- The arguments `net.mtu`. -/
def netArgs : Document String Nat
  | [] | ["net"] => some .object
  | ["net", "mtu"] => some (.leaf 1400)
  | _ => none

theorem formed_netArgs : Formed netArgs := by
  refine ⟨rfl, ?_⟩
  intro path leaf key rest
  match path with
  | [] => exact absurd rfl leaf
  | [first] =>
    by_cases net : first = "net"
    · exact absurd (net ▸ rfl) leaf
    · simp [netArgs, net]
  | _ :: _ :: _ => simp [netArgs]

/-- A group with nested arguments. -/
def webGroup : ValueGroup Nat :=
  { template := "base", instanceType := "small", args := some netArgs }

/-- Every tenant has the group. -/
def webGroups : String → Groups (Document String Nat) := fun _ => Dict.empty.set "web" webGroup

/-- An override of the instance type alone. -/
def largeWeb : String → Groups (Document String Nat) :=
  fun _ => Dict.empty.set "web" { instanceType := "large" }

/-- A configuration with one template. -/
def baseConfig : Config Unit :=
  ⟨{}, Dict.empty.set "base" ⟨"vm", "arm64", (), none, none, "", "", .empty⟩⟩

/-- Digests that tell the instance type, if the arguments are there. -/
def typeDigests : Digests Nat Unit where
  runtime _ := ""
  infra config := if config.args ["net", "mtu"] = some (.leaf 1400) then config.instanceType else ""

theorem web_not_drifted :
    ∃ hash, createdHash typeDigests baseConfig ⟨fun _ => .empty, 0⟩ webGroups largeWeb
      (requestFor "acme" "web" { webGroup with instanceType := "large" }) = .ok hash ∧
        "large" = hash := by
  obtain ⟨hash, created, ⟨stored, mem, tenant, key⟩, same, -⟩ := fresh_not_drifted
    typeDigests baseConfig ⟨fun _ => .empty, 0⟩ webGroups largeWeb (List.mem_singleton_self "acme")
    (rfl : getGroup webGroups largeWeb "acme" "web" = .ok { webGroup with instanceType := "large" })
    (by rintro _ ⟨⟩; exact formed_netArgs) rfl
  cases List.mem_singleton.mp mem
  exact ⟨hash, created, same _ mem rfl rfl⟩

end Nstance.Configuration
