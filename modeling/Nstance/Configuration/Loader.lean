import Nstance.Configuration.Dynamic

/-!
# Loading a configuration over dynamic groups

`LoadConfigAndGroups` computes the hashes of the groups that a new configuration and the
dynamic groups give together, before it takes either over. A group that overrode a static
one has no template, and when the static group is removed the new configuration, valid as
it is, cannot be loaded any more. That is the only way in which the two disagree
(`loads_iff`).
-/

namespace Nstance.Configuration

open Objects Interaction

variable {Args Json Leaf Files : Type}

/-! ## Advertised addresses -/

/-- What is used of the package `net`. -/
structure Net where
  splitHostPort : String → Except String (String × String)
  joinHostPort : String → String → String
  detectPrimaryIP : String → Except String String

/-- A host that stands for every interface. -/
def isWildcardHost (host : String) : Bool := host = "" || host = "0.0.0.0" || host = "::"

/-- Put the host of the command line into one address. -/
def overrideHost (net : Net) (advertiseHost name addr : String) : Except String String :=
  match net.splitHostPort addr with
  | .error error => .error ("failed to parse advertise " ++ name ++ ": " ++ error)
  | .ok (host, port) =>
    if isWildcardHost host then .ok (net.joinHostPort advertiseHost port)
    else
      .error ("--advertise-host cannot be used when advertise." ++ name ++
        " already specifies a host (" ++ host ++ "); use port-only format (e.g. \":" ++ port ++
        "\")")

/-- Whether the host of an address is yet to be found. -/
def needsDetection (net : Net) (addr : String) : Bool :=
  match net.splitHostPort addr with
  | .error _ => false
  | .ok (host, _) => isWildcardHost host

/-- Put the detected host in place of a wildcard. -/
def completeHost (net : Net) (detected addr : String) : String :=
  match net.splitHostPort addr with
  | .error _ => addr
  | .ok (host, port) => if isWildcardHost host then net.joinHostPort detected port else addr

/-- Give every address the host of the flag. -/
def overrideHosts (net : Net) (advertiseHost : String) (advertise : AdvertiseConfig) :
    Except String AdvertiseConfig :=
  if advertiseHost = "" then .ok advertise
  else
    match overrideHost net advertiseHost "health_addr" advertise.healthAddr with
    | .error error => .error error
    | .ok healthAddr =>
      match overrideHost net advertiseHost "election_addr" advertise.electionAddr with
      | .error error => .error error
      | .ok electionAddr => .ok { advertise with healthAddr, electionAddr }

/-- Find the primary address once, if an address needs it. -/
def detectHosts (net : Net) (bindHealthAddr : String) (advertise : AdvertiseConfig) :
    Except String AdvertiseConfig :=
  if ([advertise.healthAddr, advertise.electionAddr, advertise.registrationAddr,
      advertise.operatorAddr, advertise.agentAddr].any (needsDetection net)) = false then
    .ok advertise
  else
    match net.splitHostPort bindHealthAddr with
    | .error error => .error ("failed to parse bind health addr for auto-detection: " ++ error)
    | .ok (bindHost, _) =>
      match net.detectPrimaryIP bindHost with
      | .error error => .error ("failed to auto-detect advertise host: " ++ error)
      | .ok detected =>
        .ok
          { healthAddr := completeHost net detected advertise.healthAddr
            electionAddr := completeHost net detected advertise.electionAddr
            registrationAddr := completeHost net detected advertise.registrationAddr
            operatorAddr := completeHost net detected advertise.operatorAddr
            agentAddr := completeHost net detected advertise.agentAddr }

/-- The flag first, then what can be detected. -/
def autoDetectAdvertiseHosts (net : Net) (advertiseHost : String) (c : ServerConfig Files) :
    Except String AdvertiseConfig :=
  match overrideHosts net advertiseHost c.advertise with
  | .error error => .error error
  | .ok advertise => detectHosts net c.bindHealthAddr advertise

/-! ## Loading -/

/-- What a load publishes. -/
structure Loaded (Files : Type) where
  config : ServerConfig Files
  groups : TenantGroups Ref
  hashes : List GroupHashes

/-- A configuration as the parser leaves it: the arguments are objects at the top of a
heap whose levels are bounded. -/
structure ParsedConfig (Leaf Files : Type) extends Memory Leaf Files where
  level : Ref → Nat
  bound : Nat
  positive : 0 < bound
  graded : heap.Graded level bound
  top : config.toConfig.AtTop level heap.next
  own : ∀ tenant key group, (config.groups.ofTenant tenant).get key = some group →
    AtTop level heap.next group.args

section

variable (D : Decoder Json Leaf) (digests : Digests Leaf Files) (net : Net) (advertiseHost : String)

/-- `LoadConfigAndGroups` with `forceRefresh`, if nothing fails in the storage. Both
files are read anew; a missing document has no groups. -/
def loadConfigAndGroups (fuel : Nat) (memory : Memory Leaf Files) (doc : DynamicGroups Json) :
    Option (Except String (Loaded Files)) :=
  match memory.config.validate with
  | .error error =>
    some (.error ("configuration validation failed: validation errors: " ++ error))
  | .ok () =>
    match autoDetectAdvertiseHosts net advertiseHost memory.config with
    | .error error => some (.error error)
    | .ok advertise =>
      (syncGroupHashes D digests fuel memory doc).map fun result =>
        result.map fun done => ⟨{ memory.config with advertise }, done.1, done.2⟩

/-- Loading returns without an error, whatever fuel is given as long as it is enough. -/
def Loads (memory : Memory Leaf Files) (doc : DynamicGroups Json) : Prop :=
  ∃ enough, ∀ fuel, enough ≤ fuel → ∃ loaded,
    loadConfigAndGroups D digests net advertiseHost fuel memory doc = some (.ok loaded)

end

section

variable {D : Decoder Json Leaf} {digests : Digests Leaf Files} {net : Net}
  {advertiseHost : String} {P : ParsedConfig Leaf Files} {doc : DynamicGroups Json}
  (c : ServerConfig Files)

/-- A group after the merge, if there is one. -/
def effectiveGroup (groups : TenantGroups Ref) (tenant key : String) : Option (GroupConfig Ref) :=
  (mergeGroups (c.groups.ofTenant tenant) (groups.ofTenant tenant)).get key

variable {tenant key : String} {group : GroupConfig Ref}

/-- The arguments of an effective group are those of the static group, or of the dynamic
group where there is no static one. -/
theorem effectiveGroup_own {level : Ref → Nat} {next : Ref} {c : ServerConfig Files}
    {groups : TenantGroups Ref} (static : ∀ group, (c.groups.ofTenant tenant).get key = some group →
      AtTop level next group.args)
    (dynamic : ∀ group, (groups.ofTenant tenant).get key = some group →
      AtTop level next group.args) (there : effectiveGroup c groups tenant key = some group) :
    AtTop level next group.args := by
  rw [effectiveGroup, get_mergeGroups] at there
  cases foundDynamic : (groups.ofTenant tenant).get key with
  | none =>
    rw [foundDynamic] at there
    exact static group there
  | some override =>
    rw [foundDynamic] at there
    cases foundStatic : (c.groups.ofTenant tenant).get key with
    | none =>
      rw [foundStatic] at there
      cases there
      exact dynamic override foundDynamic
    | some base =>
      rw [foundStatic] at there
      cases there
      exact static base foundStatic

/-- Enough fuel computes and stores the hashes, if and only if every effective group has
a template that is defined and a tenant with a name. -/
theorem syncGroupHashes_ends (P : ParsedConfig Leaf Files) (D : Decoder Json Leaf)
    (digests : Digests Leaf Files) (doc : DynamicGroups Json) :
    ∃ enough, ∀ fuel, enough ≤ fuel → ∃ result,
      syncGroupHashes D digests fuel P.toMemory doc = some result ∧
      (result.isOk = true ↔ ∀ group ∈ effectiveGroups P.config.groups (D.parseGroups P.heap doc).1,
          Templated P.config.toConfig group ∧ group.tenant ≠ "") := by
  obtain ⟨level', bound', larger, graded', more, same, dynamicTop⟩ := D.graded doc P.graded
  refine ⟨bound', ?_⟩
  intro fuel enough
  have groupsTop : ∀ group ∈ effectiveGroups P.config.groups (D.parseGroups P.heap doc).1,
      AtTop level' (D.parseGroups P.heap doc).2.next group.config.args := by
    intro group mem
    refine effectiveGroup_own ?_ (dynamicTop group.tenant group.key) (mem_effectiveGroups.mp mem)
    intro base found
    exact (P.own group.tenant group.key base found).mono more same
  obtain ⟨result, h', computed, allOk, tenantsOf⟩ := computeGroupHashes_ends digests
    (Nat.lt_of_lt_of_le P.positive larger) enough _ graded' (P.top.mono more same) groupsTop
  rw [syncGroupHashes, computed]
  cases result with
  | error error =>
    refine ⟨_, rfl, ?_⟩
    have missing : ¬ ∀ group ∈ effectiveGroups P.config.groups (D.parseGroups P.heap doc).1,
        Templated P.config.toConfig group := fun all => by cases allOk.mpr all
    refine ⟨fun impossible => (by cases impossible), ?_⟩
    intro all
    exact absurd (fun group mem => (all group mem).1) missing
  | ok hashes =>
    have templated := allOk.mp rfl
    have named : replaceGroupHashes hashes = .ok () ↔
        ∀ group ∈ effectiveGroups P.config.groups (D.parseGroups P.heap doc).1,
          group.tenant ≠ "" := by
      rw [replaceGroupHashes_eq_ok, tenantsOf hashes rfl, List.forall_mem_map]
    cases stored : replaceGroupHashes hashes with
    | error error =>
      refine ⟨_, by simp only [Option.map_some, stored]; rfl, ?_⟩
      refine ⟨fun impossible => (by cases impossible), ?_⟩
      intro all
      rw [named.mpr fun group mem => (all group mem).2] at stored
      cases stored
    | ok done =>
      refine ⟨_, by simp only [Option.map_some, stored]; rfl, fun _ => ?_, fun _ => rfl⟩
      intro group mem
      exact ⟨templated group mem, named.mp stored group mem⟩

theorem loads_iff_effective (valid : P.config.validate = .ok ()) :
    Loads D digests net advertiseHost P.toMemory doc ↔
      (autoDetectAdvertiseHosts net advertiseHost P.config).isOk = true ∧
      ∀ group ∈ effectiveGroups P.config.groups (D.parseGroups P.heap doc).1,
        Templated P.config.toConfig group ∧ group.tenant ≠ "" := by
  obtain ⟨enough, ends⟩ := syncGroupHashes_ends P D digests doc
  cases detected : autoDetectAdvertiseHosts net advertiseHost P.config with
  | error error =>
    refine ⟨?_, fun impossible => (by cases impossible.1)⟩
    rintro ⟨least, loads⟩
    obtain ⟨loaded, done⟩ := loads least (Nat.le_refl least)
    rw [loadConfigAndGroups, valid, detected] at done
    cases done
  | ok advertise =>
    have loading : ∀ fuel, loadConfigAndGroups D digests net advertiseHost fuel P.toMemory doc =
        (syncGroupHashes D digests fuel P.toMemory doc).map fun result =>
          result.map fun done => ⟨{ P.config with advertise }, done.1, done.2⟩ := by
      intro fuel
      rw [loadConfigAndGroups, valid, detected]
    refine ⟨?_, ?_⟩
    · rintro ⟨least, loads⟩
      obtain ⟨loaded, done⟩ := loads (max enough least) (Nat.le_max_right _ _)
      obtain ⟨result, synced, allOk⟩ := ends (max enough least) (Nat.le_max_left _ _)
      rw [loading, synced] at done
      cases result with
      | error error => cases done
      | ok result => exact ⟨rfl, allOk.mp rfl⟩
    · rintro ⟨_, all⟩
      refine ⟨enough, ?_⟩
      intro fuel more
      obtain ⟨result, synced, allOk⟩ := ends fuel more
      rw [loading, synced]
      cases result with
      | error error => cases allOk.mpr all
      | ok result => exact ⟨_, rfl⟩

/-- The static groups have templates with a name. -/
def StaticsNamed : Prop :=
  ∀ tenant key group, (c.groups.ofTenant tenant).get key = some group → group.template ≠ ""

/-- Every dynamic group without a static group of its key has a template of its own. -/
def StandsAlone (doc : DynamicGroups Json) : Prop :=
  ∀ tenant key group, (doc.ofTenant tenant).get key = some group →
    (c.groups.ofTenant tenant).get key = none → group.template ≠ ""

/-- The templates of the groups that are dynamic only exist. -/
def DefinesTemplates (doc : DynamicGroups Json) : Prop :=
  ∀ tenant key group, (doc.ofTenant tenant).get key = some group →
    (c.groups.ofTenant tenant).get key = none → group.template ≠ "" →
      (c.templates.get group.template).isSome = true

variable {h : Heap String Leaf}

theorem stored_of_parsed (there : ((D.parseGroups h doc).1.ofTenant tenant).get key = some group) :
    ∃ stored, (doc.ofTenant tenant).get key = some stored ∧ stored.template = group.template := by
  have fields := D.fields h doc tenant key
  rw [there] at fields
  cases found : (doc.ofTenant tenant).get key with
  | none => rw [found] at fields; cases fields
  | some stored =>
    rw [found] at fields
    exact ⟨stored, rfl, (congrArg GroupConfig.template (Option.some.inj fields)).symm⟩

theorem parsed_of_stored {stored : GroupConfig (Dict String Json)}
    (there : (doc.ofTenant tenant).get key = some stored) :
    ∃ group, ((D.parseGroups h doc).1.ofTenant tenant).get key = some group ∧
      group.template = stored.template := by
  have fields := D.fields h doc tenant key
  rw [there] at fields
  cases found : ((D.parseGroups h doc).1.ofTenant tenant).get key with
  | none => rw [found] at fields; cases fields
  | some group =>
    rw [found] at fields
    exact ⟨group, rfl, congrArg GroupConfig.template (Option.some.inj fields)⟩

/-- The template of an effective group is that of the static group if there is one, and
of the stored group otherwise. -/
theorem template_effective
    (there : effectiveGroup P.config (D.parseGroups P.heap doc).1 tenant key = some group) :
    (∃ base, (P.config.groups.ofTenant tenant).get key = some base ∧
      group.template = base.template) ∨
    ((P.config.groups.ofTenant tenant).get key = none ∧
      ∃ stored, (doc.ofTenant tenant).get key = some stored ∧
        group.template = stored.template) := by
  rw [effectiveGroup, get_mergeGroups] at there
  cases foundStatic : (P.config.groups.ofTenant tenant).get key with
  | some base =>
    refine .inl ⟨base, rfl, ?_⟩
    rw [foundStatic] at there
    cases foundDynamic : ((D.parseGroups P.heap doc).1.ofTenant tenant).get key <;>
      rw [foundDynamic] at there <;> cases there <;> rfl
  | none =>
    refine .inr ⟨rfl, ?_⟩
    rw [foundStatic] at there
    cases foundDynamic : ((D.parseGroups P.heap doc).1.ofTenant tenant).get key with
    | none => rw [foundDynamic] at there; cases there
    | some override =>
      rw [foundDynamic] at there
      cases there
      obtain ⟨stored, found, same⟩ := stored_of_parsed foundDynamic
      exact ⟨stored, found, same.symm⟩

/-- The effective groups have templates and tenants, if and only if the static groups
have templates with a name and so have the dynamic groups that are not static. -/
theorem effective_templated_iff (valid : P.config.validate = .ok ())
    (defined : DefinesTemplates P.config doc)
    (tenants : ∀ tenant key group, (doc.ofTenant tenant).get key = some group → tenant ≠ "") :
    (∀ group ∈ effectiveGroups P.config.groups (D.parseGroups P.heap doc).1,
      Templated P.config.toConfig group ∧ group.tenant ≠ "") ↔
      StaticsNamed P.config ∧ StandsAlone P.config doc := by
  refine ⟨?_, ?_⟩
  · intro all
    -- every group of either file is behind an effective group
    refine ⟨?_, ?_⟩
    · intro tenant key base found
      obtain ⟨group, there, same⟩ : ∃ group,
          effectiveGroup P.config (D.parseGroups P.heap doc).1 tenant key = some group ∧
            group.template = base.template := by
        rw [effectiveGroup, get_mergeGroups, found]
        cases ((D.parseGroups P.heap doc).1.ofTenant tenant).get key with
        | none => exact ⟨base, rfl, rfl⟩
        | some override => exact ⟨base.overridden override, rfl, rfl⟩
      have named := (all ⟨tenant, key, group⟩ (mem_effectiveGroups.mpr there)).1.1
      rwa [same] at named
    · intro tenant key stored found alone
      obtain ⟨group, foundDynamic, same⟩ := parsed_of_stored (D := D) (h := P.heap) found
      have there : effectiveGroup P.config (D.parseGroups P.heap doc).1 tenant key =
          some group := by
        rw [effectiveGroup, get_mergeGroups, alone, foundDynamic]
        rfl
      have named := (all ⟨tenant, key, group⟩ (mem_effectiveGroups.mpr there)).1.1
      rwa [same] at named
  · rintro ⟨statics, alone⟩ group mem
    rcases template_effective (mem_effectiveGroups.mp mem) with
      ⟨base, found, same⟩ | ⟨none, stored, found, same⟩
    · obtain ⟨named, isDefined⟩ := ServerConfig.validate_spec valid found
      refine ⟨⟨?_, ?_⟩, named⟩
      · rw [same]
        exact statics _ _ _ found
      · rw [same]
        exact isDefined
    have named := alone _ _ _ found none
    refine ⟨⟨?_, ?_⟩, tenants _ _ _ found⟩
    · rw [same]
      exact named
    · rw [same]
      exact defined _ _ _ found none named

end

section

variable {D : Decoder Json Leaf} {digests : Digests Leaf Files} {next : ServerConfig Files}
  {doc : DynamicGroups Json}

/-- **When a valid configuration is loaded.** After any history of the document, a
valid configuration that defines the templates of the dynamic-only groups is loaded if
and only if its advertised addresses can be completed, its static groups have templates
with a name, and so have the dynamic groups that are not static in it. -/
theorem loads_iff {net : Net} {advertiseHost : String} {P : ParsedConfig Leaf Files}
    (reached : (history D digests).Reachable doc) (valid : P.config.validate = .ok ())
    (defined : DefinesTemplates P.config doc) :
    Loads D digests net advertiseHost P.toMemory doc ↔
      (autoDetectAdvertiseHosts net advertiseHost P.config).isOk = true ∧
      StaticsNamed P.config ∧ StandsAlone P.config doc := by
  rw [loads_iff_effective valid,
    effective_templated_iff valid defined fun _ _ _ => named_of_reachable reached]

end

/-! ## A group that loses its static definition -/

namespace Removal

/-- A decoder whose arguments are always empty objects. -/
def plain (Leaf : Type) : Decoder Empty Leaf where
  parseGroups h doc :=
    (doc.filterMap fun _ groups => some (groups.filterMap fun _ group =>
      some { group with args := group.args.map fun _ => h.next }), h.alloc)
  fields h doc tenant key := by
    simp only [TenantGroups.ofTenant, Dict.get_filterMap]
    cases doc.get tenant with
    | none => rfl
    | some groups =>
      simp only [Option.bind_some, Option.getD_some, Dict.get_filterMap]
      cases groups.get key with
      | none => rfl
      | some group =>
        simp [GroupConfig.bare, Function.comp_def]
  graded {h} doc level bound graded := by
    refine ⟨_, bound, Nat.le_refl bound, graded.alloc, Nat.le_succ _, ?_, ?_⟩
    · intro ref inside
      exact Function.update_of_ne (Nat.ne_of_lt inside) _ _
    · intro tenant key group there ref mem
      simp only [TenantGroups.ofTenant, Dict.get_filterMap] at there
      cases found : doc.get tenant with
      | none => simp [found] at there
      | some groups =>
        simp only [found, Option.bind_some, Option.getD_some, Dict.get_filterMap] at there
        cases stored : groups.get key with
        | none => simp [stored] at there
        | some stored =>
          rw [stored] at there
          cases there
          obtain ⟨_, _, rfl⟩ := Option.map_eq_some_iff.mp mem
          exact ⟨Nat.lt_succ_self _, Function.update_self _ _ _⟩

/-- Digests that tell nothing apart. -/
def digests : Digests String Unit := ⟨fun _ => "", fun _ => ""⟩

/-- A host whose addresses all name it. -/
def net : Net where
  splitHostPort _ := .ok ("10.0.0.1", "8990")
  joinHostPort host port := host ++ ":" ++ port
  detectPrimaryIP _ := .error "no suitable IPv4 address found"

/-- A configuration with one template and one pool. -/
def config (groups : TenantGroups Ref) : ServerConfig Unit where
  defaults := {}
  templates := ⟨[("t", { kind := "knc", arch := "arm64", files := (), subnetPool := "p" })],
    by decide⟩
  groups
  subnetPools := ⟨[("p", ["subnet-1"])], by decide⟩
  bindHealthAddr := "10.0.0.1:8990"
  advertise := ⟨"10.0.0.1:8990", "10.0.0.1:8991", "10.0.0.1:8992", "10.0.0.1:8993", "10.0.0.1:8994"⟩

/-- The static group `web` of the tenant `acme`. -/
def web : TenantGroups Ref :=
  TenantGroups.put .empty "acme" "web" { template := "t", size := some 1 }

/-- No object yet. -/
def heap : Heap String String := ⟨fun _ => .empty, 0⟩

/-- The static group is scaled to three. -/
def scale : List (Change Empty String Unit) :=
  [.upsert 1 (config web) ⟨config web, heap⟩ "acme" "web" { size := some 3 }]

/-- What the call stored: the size alone. -/
def scaled : DynamicGroups Empty := TenantGroups.put .empty "acme" "web" { size := some 3 }

/-- A valid configuration with the group removed cannot be loaded after that. -/
theorem removal_not_loaded :
    (history (plain String) digests).run .empty scale = some scaled ∧
      (config .empty).validate = .ok () ∧ DefinesTemplates (config .empty) scaled ∧
      ∀ fuel, loadConfigAndGroups (plain String) digests net "" fuel ⟨config .empty, heap⟩ scaled =
        some (.error "failed to compute group hashes: web in tenant acme: no template") := by
  refine ⟨rfl, rfl, ?_, fun fuel => rfl⟩
  intro tenant key group there _ named
  rw [scaled, get_put] at there
  split at there <;> cases there
  exact absurd rfl named

/-- The configuration that still has the group. -/
def withWeb : ParsedConfig String Unit where
  config := config web
  heap
  level _ := 0
  bound := 1
  positive := Nat.one_pos
  graded := by
    intro ref key child there
    cases there
  top := by
    refine ⟨?_, ?_⟩
    · intro ref mem
      cases mem
    · intro name template there ref mem
      rw [Dict.get_eq_some_iff] at there
      rw [(Prod.mk.inj (List.mem_singleton.mp there)).2] at mem
      cases mem
  own := by
    intro tenant key group there ref mem
    rw [show (config web).groups = web from rfl, web, get_put] at there
    split at there <;> cases there
    cases mem

/-- While the group is static it is loaded with its new size. -/
theorem loads_iff_withWeb : Loads (plain String) digests net "" withWeb.toMemory scaled := by
  have reached : (history (plain String) digests).Reachable scaled :=
    Machine.reachable_of_run scale .start rfl
  have static : (withWeb.config.groups.ofTenant "acme").get "web" ≠ none := by
    rw [show withWeb.config.groups = web from rfl, web, get_put, if_pos ⟨rfl, rfl⟩]
    simp
  have onlyWeb : ∀ {tenant key : String} {group : GroupConfig (Dict String Empty)},
      (scaled.ofTenant tenant).get key = some group → tenant = "acme" ∧ key = "web" := by
    intro tenant key group there
    rw [scaled, get_put] at there
    split at there
    · assumption
    · cases there
  refine (loads_iff reached rfl ?_).mpr ⟨rfl, ?_, ?_⟩
  · intro tenant key group there none
    obtain ⟨rfl, rfl⟩ := onlyWeb there
    exact absurd none static
  · intro tenant key group there
    rw [show withWeb.config.groups = web from rfl, web, get_put] at there
    split at there <;> cases there
    decide
  · intro tenant key group there none
    obtain ⟨rfl, rfl⟩ := onlyWeb there
    exact absurd none static

end Removal

end Nstance.Configuration
