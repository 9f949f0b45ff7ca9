import Nstance.Objects.Dict

/-!
# Static and dynamic groups

`mergeGroups` lays the document of dynamic groups over the static configuration. A
dynamic group overrides the size, the instance type and single variables of a static
group of its name and leaves the rest as it is (`getGroup_static`); under another name
it stands for itself.
-/

namespace Nstance.Configuration

open Objects

variable {Args : Type}

/-- A group of instances. An empty field is not set. -/
structure GroupConfig (Args : Type) where
  template : String := ""
  /-- Missing in a dynamic group that keeps the static size. -/
  size : Option Int := none
  instanceType : String := ""
  subnetPool : String := ""
  vars : Dict String String := .empty
  args : Option Args := none
  drainTimeout : Option Int := none
  loadBalancers : List String := []

namespace GroupConfig

/-- A missing size is zero. -/
def getSize (group : GroupConfig Args) : Int := group.size.getD 0

/-- A static group with what a dynamic group of its name overrides. -/
def overridden (static dynamic : GroupConfig Args) : GroupConfig Args :=
  { static with
    size := dynamic.size.or static.size
    instanceType :=
      if dynamic.instanceType ≠ "" then dynamic.instanceType else static.instanceType
    vars := static.vars.assign dynamic.vars.entries }

/-- What a dynamic group makes of the static group of its name, if there is one. -/
def effective (dynamic : GroupConfig Args) : Option (GroupConfig Args) → GroupConfig Args
  | some static => static.overridden dynamic
  | none => dynamic

end GroupConfig

/-- The groups of one tenant, by key. -/
abbrev Groups (Args : Type) := Dict String (GroupConfig Args)

/-- Dynamic groups override static ones key by key. -/
def mergeGroups (static dynamic : Groups Args) : Groups Args :=
  static.assign (dynamic.entries.map fun entry => (entry.1, entry.2.effective (static.get entry.1)))

/-- The effective group of a tenant. -/
def getGroup (static dynamic : String → Groups Args) (tenant key : String) :
    Except String (GroupConfig Args) :=
  if tenant = "" then .error "tenant is required"
  else
    match (mergeGroups (static tenant) (dynamic tenant)).get key with
    | none => .error ("group not found for key '" ++ key ++ "' in tenant '" ++ tenant ++ "'")
    | some group => .ok group

section

variable {static dynamic : Groups Args} {key : String}

theorem get_mergeGroups : (mergeGroups static dynamic).get key =
    ((dynamic.get key).map fun group => group.effective (static.get key)).or (static.get key) := by
  have keys : (dynamic.entries.map fun entry =>
      (entry.1, entry.2.effective (static.get entry.1))).map Prod.fst =
        dynamic.entries.map Prod.fst := by
    rw [List.map_map]
    rfl
  rw [mergeGroups, Dict.get_assign (keys ▸ dynamic.nodup),
    Dict.lookup_map fun (key : String) (group : GroupConfig Args) =>
      group.effective (static.get key)]
  rfl

variable {statics dynamics : String → Groups Args} {tenant : String} {group : GroupConfig Args}

theorem getGroup_eq_ok : getGroup statics dynamics tenant key = .ok group ↔
    tenant ≠ "" ∧ (mergeGroups (statics tenant) (dynamics tenant)).get key = some group := by
  rw [getGroup]
  by_cases empty : tenant = ""
  · simp [empty]
  · cases (mergeGroups (statics tenant) (dynamics tenant)).get key <;> simp [empty]

/-- A group of the static configuration keeps its load balancers; its size is the
dynamic one if there is one. -/
theorem getGroup_static {base : GroupConfig Args} (named : tenant ≠ "")
    (there : (statics tenant).get key = some base) :
    ∃ group, getGroup statics dynamics tenant key = .ok group ∧
      group.loadBalancers = base.loadBalancers ∧
      group.size = (((dynamics tenant).get key).bind GroupConfig.size).or base.size := by
  cases found : (dynamics tenant).get key with
  | none =>
    refine ⟨base, getGroup_eq_ok.mpr ⟨named, ?_⟩, rfl, rfl⟩
    rw [get_mergeGroups, found, there]
    rfl
  | some override =>
    refine ⟨base.overridden override, getGroup_eq_ok.mpr ⟨named, ?_⟩, rfl, rfl⟩
    rw [get_mergeGroups, found, there]
    rfl

end

end Nstance.Configuration
