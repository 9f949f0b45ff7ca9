import Mathlib.Data.List.Sort
import Mathlib.Data.Prod.Lex
import Mathlib.Data.String.Basic
import Nstance.Objects.Dict

/-!
# The choice of a subnet

`selectSubnetWithCapacity` fills the subnets of a pool in the order of their identifiers, and
then balances them by their counts. It sorts the list that the configuration holds, so that the
configuration is left as it was exactly when it lists the pool in order (`selection_iff`).
-/

namespace Nstance.Instances

open Objects

/-- The subnets of each pool. -/
abbrev SubnetPools := Dict String (List String)

/-- The subnets of a pool. An empty key has none. -/
def resolveSubnetKey (pools : SubnetPools) (key : String) : Except String (List String) :=
  if key = "" then .ok []
  else
    match pools.get key with
    | none => .error ("unknown subnet pool ID \"" ++ key ++
        "\" (key not defined in shard.subnet_pools)")
    | some subnetIDs => .ok subnetIDs

/-- A subnet with fewer instances is filled first. -/
def fillLimit : Nat := 53

theorem find?_insertionSort {α : Type} (r : α → α → Prop) [DecidableRel r] [Std.Total r]
    [IsTrans α r] {p : α → Bool} {list : List α} {a : α}
    (found : (list.insertionSort r).find? p = some a) :
    a ∈ list ∧ p a = true ∧ ∀ b ∈ list, p b = true → r a b := by
  obtain ⟨holds, before, after, split, passed⟩ := List.find?_eq_some_iff_append.mp found
  have member := fun b => (List.mem_insertionSort r : b ∈ list.insertionSort r ↔ b ∈ list)
  have sorted := List.pairwise_insertionSort r list
  rw [split] at sorted member
  have later := List.pairwise_cons.mp (List.pairwise_append.mp sorted).2.1
  refine ⟨(member a).mp (by simp), holds, fun b mem ok => ?_⟩
  rcases List.mem_append.mp ((member b).mpr mem) with early | late
  · simpa [ok] using passed b early
  rcases List.mem_cons.mp late with rfl | late
  · exact (Std.Total.total b b).elim id id
  · exact later.1 b late

/-- The instances of the tenant in every subnet, what the provider answers about its capacity,
and whether empty subnets are passed over. -/
structure Search where
  counts : String → Nat
  capacity : String → Except String Bool
  populatedOnly : Bool

namespace Search

variable (q : Search)

/-- The order of the candidates: by count, and then by identifier. -/
def Before (a b : String) : Prop := toLex (q.counts a, a) ≤ toLex (q.counts b, b)

instance : DecidableRel q.Before :=
  fun a b => inferInstanceAs (Decidable (toLex (q.counts a, a) ≤ toLex (q.counts b, b)))

instance : Std.Total q.Before := ⟨fun _ _ => le_total _ _⟩

instance : IsTrans String q.Before := ⟨fun _ _ _ => le_trans⟩

/-- The subnet is not passed over, and has capacity. -/
def available (id : String) : Bool :=
  !(q.populatedOnly && q.counts id = 0) &&
    match q.capacity id with
    | .ok hasCapacity => hasCapacity
    | .error _ => false

/-- `selectSubnetWithCapacity`: the choice, and the pools as the call leaves them. -/
def selectSubnetWithCapacity (pools : SubnetPools) (pool : String) :
    Except String String × SubnetPools :=
  match resolveSubnetKey pools pool with
  | .error error => (.error ("failed to resolve subnet pool \"" ++ pool ++ "\": " ++ error), pools)
  | .ok [] => (.error ("subnet pool \"" ++ pool ++ "\" has no provider subnet IDs"), pools)
  | .ok subnetIDs =>
    -- The list is sorted where it is, in the configuration.
    let sorted := subnetIDs.insertionSort (· ≤ ·)
    let candidates := sorted.insertionSort q.Before
    let filling := sorted.find? fun id => q.counts id < fillLimit && q.available id
    (match filling.or (candidates.find? q.available) with
      | some id => .ok id
      | none => .error ("no subnets with available capacity for subnet pool \"" ++ pool ++ "\""),
      pools.set pool sorted)

/-- The subnets of a pool that may be chosen. -/
def Eligible (ids : List String) (id : String) : Prop := id ∈ ids ∧ q.available id = true

/-- The choice that is described: the least subnet that is not filled or, if there is none, the
one that is least by count and identifier. -/
def Chosen (ids : List String) (id : String) : Prop :=
  q.Eligible ids id ∧ (q.counts id < fillLimit ∧
      (∀ other, q.Eligible ids other → q.counts other < fillLimit → id ≤ other) ∨
    ∀ other, q.Eligible ids other → fillLimit ≤ q.counts other ∧ q.Before id other)

/-- What a selection returns, in terms of the subnets with room. -/
structure Selects (pools : SubnetPools) (pool : String) (ids : List String) : Prop where
  chosen : ∀ id, (q.selectSubnetWithCapacity pools pool).1 = .ok id ↔ q.Chosen ids id
  fails : (∃ error, (q.selectSubnetWithCapacity pools pool).1 = .error error) ↔
    ∀ id, ¬ q.Eligible ids id
  orderless : ∀ other id, other.Perm ids →
    ((q.selectSubnetWithCapacity (pools.set pool other) pool).1 = .ok id ↔
      (q.selectSubnetWithCapacity pools pool).1 = .ok id)
  unchanged : (q.selectSubnetWithCapacity pools pool).2 = pools

variable {q} {pools : SubnetPools} {pool : String} {ids : List String} {a b : String}

theorem Chosen.unique (first : q.Chosen ids a) (second : q.Chosen ids b) : a = b := by
  obtain ⟨mine, least⟩ := first
  obtain ⟨mine', least'⟩ := second
  rcases least with ⟨low, least⟩ | least <;> rcases least' with ⟨low', least'⟩ | least'
  · exact le_antisymm (least b mine' low') (least' a mine low)
  · exact absurd (least' a mine).1 (by omega)
  · exact absurd (least b mine').1 (by omega)
  · exact congrArg (fun pair => (ofLex pair).2) (le_antisymm (least b mine').2 (least' a mine).2)

theorem select_spec (named : pool ≠ "") (found : pools.get pool = some ids) :
    (match (q.selectSubnetWithCapacity pools pool).1 with
      | .ok id => q.Chosen ids id
      | .error _ => ∀ id, ¬ q.Eligible ids id) ∧
      (q.selectSubnetWithCapacity pools pool).2 = pools.set pool (ids.insertionSort (· ≤ ·)) := by
  rw [selectSubnetWithCapacity, resolveSubnetKey, if_neg named, found]
  cases ids with
  | nil => exact ⟨by simp [Eligible], (Dict.set_get found).symm⟩
  | cons first rest =>
    refine ⟨?_, rfl⟩
    dsimp only
    generalize first :: rest = ids
    cases filling : (ids.insertionSort (· ≤ ·)).find? fun id =>
        q.counts id < fillLimit && q.available id with
    | some id =>
      have := find?_insertionSort (· ≤ ·) filling
      simp_all [Chosen, Eligible]
    | none =>
      have filled : ∀ id, q.Eligible ids id → fillLimit ≤ q.counts id := by
        rintro id ⟨mem, ok⟩
        simpa [ok] using List.find?_eq_none.mp filling id ((List.mem_insertionSort _).mpr mem)
      cases balanced : ((ids.insertionSort (· ≤ ·)).insertionSort q.Before).find? q.available with
      | some id =>
        have := find?_insertionSort q.Before balanced
        simp_all [Chosen, Eligible]
      | none => simpa [Eligible] using balanced

theorem select_eq_ok_iff (named : pool ≠ "") (found : pools.get pool = some ids) :
    (q.selectSubnetWithCapacity pools pool).1 = .ok a ↔ q.Chosen ids a := by
  have choice := (select_spec (q := q) named found).1
  split at choice
  · rename_i id same
    rw [same, Except.ok.injEq]
    exact ⟨fun equal => equal ▸ choice, fun other => choice.unique other⟩
  · rename_i same
    rw [same]
    exact ⟨nofun, fun chosen => absurd chosen.1 (choice a)⟩

/-- **The choice is the one that is described**, for every pool, every table of counts and every
capacity, **and the configuration is left as it was exactly when the pool is in order.** -/
theorem selection_iff (q : Search) (named : pool ≠ "") (found : pools.get pool = some ids) :
    q.Selects pools pool ids ↔ ids.Pairwise (· ≤ ·) := by
  obtain ⟨choice, left⟩ := select_spec (q := q) named found
  constructor
  · intro selects
    have same := congrArg (Dict.get · pool) (left.symm.trans selects.unchanged)
    rw [Dict.get_set_self, found, Option.some.injEq] at same
    exact same ▸ List.pairwise_insertionSort _ ids
  · intro sorted
    refine ⟨fun id => select_eq_ok_iff named found, ?_, fun other id perm => ?_, ?_⟩
    · split at choice
      · rename_i same
        rw [same]
        exact ⟨nofun, fun none => absurd choice.1 (none _)⟩
      · rename_i error same
        exact ⟨fun _ => choice, fun _ => ⟨error, same⟩⟩
    · rw [select_eq_ok_iff named Dict.get_set_self, select_eq_ok_iff named found]
      simp only [Chosen, Eligible, perm.mem_iff]
    · rw [left, sorted.insertionSort_eq, Dict.set_get found]

end Search

/-- Every subnet has room. -/
def roomy : Search := ⟨fun _ => 0, fun _ => .ok true, false⟩

theorem ordered_pool_selects :
    roomy.Selects (Dict.empty.set "nodes" ["a", "b"]) "nodes" ["a", "b"] :=
  (roomy.selection_iff (by decide) rfl).mpr (by decide)

/-- The pool is listed in another order after the call. -/
theorem reordered_pool :
    ((roomy.selectSubnetWithCapacity (Dict.empty.set "nodes" ["b", "a"]) "nodes").2.get "nodes") =
      some ["a", "b"] ∧ ¬ roomy.Selects (Dict.empty.set "nodes" ["b", "a"]) "nodes" ["b", "a"] := by
  have moved : (roomy.selectSubnetWithCapacity (Dict.empty.set "nodes" ["b", "a"]) "nodes").2.get
      "nodes" = some ["a", "b"] := by decide +kernel
  exact ⟨moved, fun selects => absurd (selects.unchanged ▸ moved) (by decide)⟩

end Nstance.Instances
