import Mathlib.Algebra.BigOperators.Ring.Finset
import Mathlib.Algebra.Order.BigOperators.Group.List
import Mathlib.Tactic.Ring
import Nstance.Interaction.Tasks
import Nstance.Interaction.Trace
import Nstance.Pools.Controllers

/-!
# The adoption of a group

The sync manager and the pool controller run side by side, any number of times, on an API
server at which every call may fail, take effect and fail, or read an old version.

The pool controller creates the MachinePool without replicas if it comes first, and then the
group is resized to the default of the API server (`Race.group_resized`). If it does so only
when there is one already, or when the default is the size of the group, every distribution
over the shards has the size of the group (`adoption_keeps_size`).
-/

namespace Nstance.Pools

open Interaction
open Program hiding pure bind
open Objects (Dict)
open TenantState (Err)

/-! ## Distribution -/

section

variable {total : Int} {shards : List Shard}

theorem wrap32_of_lt {value : Int} (nonneg : 0 ≤ value) (small : value < 2 ^ 31) :
    wrap32 value = value := by
  exact Int.bmod_eq_of_le (by omega) (by omega)

theorem sum_shares (base : Int) (remainder : Nat) (count : Nat) :
    ((List.range count).map fun i => if i < remainder then base + 1 else base).sum =
      count * base + min count remainder := by
  induction count with
  | zero => simp
  | succ count ih =>
    rw [List.range_succ, List.map_append, List.sum_append, ih, List.map_singleton,
      List.sum_singleton]
    split
    · rw [Nat.min_eq_left (by omega), Nat.min_eq_left (by omega)]
      push_cast
      ring
    rw [Nat.min_eq_right (by omega), Nat.min_eq_right (by omega)]
    push_cast
    ring

/-- The size of the shard at an index, if nothing overflows. -/
def share (total count i : Nat) : Int :=
  if i < total % count then (total / count : Nat) + 1 else (total / count : Nat)

variable {count i : Nat} {shard : Shard} {total : Nat}

theorem sum_share (some_ : 0 < count) :
    ((List.range count).map (share total count)).sum = total := by
  have below : total % count ≤ count := (Nat.mod_lt total some_).le
  have whole : count * (total / count) + total % count = total := Nat.div_add_mod total count
  calc ((List.range count).map (share total count)).sum
      = count * (total / count : Nat) + min count (total % count) :=
        sum_shares (total / count : Nat) (total % count) count
    _ = (count * (total / count) + total % count : Nat) := by
        rw [Nat.min_eq_right below]
        push_cast
        rfl
    _ = total := by rw [whole]

/-- Without overflow a share is what the loop of `distributeReplicas` computes. -/
theorem share_eq (fits : total < 2 ^ 31) (few : count < 2 ^ 31) (bound : i < count) :
    (if wrap32 i < (total : Int).tmod count then wrap32 ((total : Int).tdiv count + 1)
      else (total : Int).tdiv count) = share total count i := by
  have quotient : (total : Int).tdiv count = (total / count : Nat) := rfl
  have remainder : (total : Int).tmod count = (total % count : Nat) := rfl
  have index : wrap32 i = i := wrap32_of_lt (by omega) (by omega)
  rw [quotient, remainder, index, share]
  by_cases early : i < total % count
  · have part : total / count + total % count ≤ total := by
      calc total / count + total % count
          ≤ count * (total / count) + total % count :=
            Nat.add_le_add_right (Nat.le_mul_of_pos_left _ (by omega)) _
        _ = total := Nat.div_add_mod total count
    have small : total / count + 1 < 2 ^ 31 := by omega
    have next : wrap32 ((total / count : Nat) + 1) = (total / count : Nat) + 1 :=
      wrap32_of_lt (by exact_mod_cast Nat.zero_le _) (by exact_mod_cast small)
    rw [if_pos (Int.ofNat_lt.mpr early), if_pos early, next]
  · rw [if_neg (mt Int.ofNat_lt.mp early), if_neg early]

variable {shards : List Shard}

theorem get_assign_zipIdx (size : Nat → Int) (distinct : shards.Nodup)
    (there : shards[i]? = some shard) :
    (Dict.empty.assign (shards.zipIdx.map fun entry => (entry.1, size entry.2))).get shard =
      some (size i) := by
  have keys : ((shards.zipIdx.map fun entry => (entry.1, size entry.2)).map Prod.fst).Nodup := by
    rw [List.map_map]
    show (shards.zipIdx.map Prod.fst).Nodup
    rw [List.zipIdx_map_fst]
    exact distinct
  rw [Dict.get_assign keys, Dict.get_empty, Option.or_none, Dict.lookup_eq_some_iff keys,
    List.mem_map]
  exact ⟨(shard, i), List.mem_zipIdx_iff_getElem?.mpr there, rfl⟩

theorem get_distributeReplicas (fits : total < 2 ^ 31)
    (distinct : shards.Nodup) (few : shards.length < 2 ^ 31) (there : shards[i]? = some shard) :
    (distributeReplicas total shards).get shard = some (share total shards.length i) := by
  have bound : i < shards.length := (List.getElem?_eq_some_iff.mp there).1
  have count : wrap32 shards.length = shards.length := wrap32_of_lt (by omega) (by omega)
  have nonzero : (shards.length : Int) ≠ 0 := by omega
  rw [distributeReplicas, count]
  simp only [nonzero, if_false]
  rw [← share_eq fits few bound]
  exact get_assign_zipIdx (fun j => if wrap32 j < (total : Int).tmod shards.length
    then wrap32 ((total : Int).tdiv shards.length + 1) else (total : Int).tdiv shards.length)
    distinct there

theorem plan_shards (total : Int) (shards : List Shard) :
    (plan total shards).map Prod.fst = shards := by
  rw [plan, List.map_map]
  exact List.map_id shards

/-- **The sizes of a distribution sum to what is distributed.** -/
theorem sum_plan (fits : total < 2 ^ 31)
    (distinct : shards.Nodup) (few : shards.length < 2 ^ 31) (some_ : shards ≠ []) :
    ((plan total shards).map Prod.snd).sum = total := by
  have sizes : (plan total shards).map Prod.snd =
      (List.range shards.length).map (share total shards.length) := by
    apply List.ext_getElem?
    intro i
    rw [plan, List.map_map, List.getElem?_map, List.getElem?_map]
    cases there : shards[i]? with
    | none =>
      rw [List.getElem?_eq_none_iff.mpr]
      · rfl
      · rw [List.length_range]
        exact List.getElem?_eq_none_iff.mp there
    | some shard =>
      have got := get_distributeReplicas fits distinct few there
      rw [List.getElem?_range (List.getElem?_eq_some_iff.mp there).1, Option.map_some,
        Option.map_some, Function.comp_apply, got, Option.getD_some]
  rw [sizes, sum_share (List.length_pos_iff.mpr some_)]

/-- **Replicas are distributed evenly.** Every shard of a pool is planned once, the sizes sum to
the replicas and differ by one at most, and the order of the shards in the pool does not matter. -/
theorem plan_even (fits : total < 2 ^ 31)
    (distinct : shards.Nodup) (few : shards.length < 2 ^ 31) (some_ : shards ≠ []) :
    ((plan total (sorted shards)).map Prod.fst).Perm shards ∧
      ((plan total (sorted shards)).map Prod.snd).sum = total ∧
      (∀ entry ∈ plan total (sorted shards),
        entry.2 = (total / shards.length : Nat) ∨ entry.2 = (total / shards.length : Nat) + 1) ∧
      ∀ other, other.Perm shards → plan total (sorted other) = plan total (sorted shards) := by
  have perm : (sorted shards).Perm shards := List.perm_insertionSort ..
  have nodup := perm.nodup_iff.mpr distinct
  rw [← perm.length_eq] at few ⊢
  refine ⟨by rwa [plan_shards], sum_plan fits nodup few fun empty => ?_, fun entry mem => ?_,
    fun other same => ?_⟩
  · rw [empty] at perm
    exact some_ perm.nil_eq.symm
  · obtain ⟨shard, there, rfl⟩ := List.mem_map.mp mem
    obtain ⟨i, there⟩ := List.getElem?_of_mem there
    rw [get_distributeReplicas fits nodup few there, Option.getD_some, share]
    split
    · exact .inr rfl
    · exact .inl rfl
  · have sorts : sorted other = sorted shards :=
      List.Perm.eq_of_sortedLE List.sortedLE_insertionSort List.sortedLE_insertionSort
        ((List.perm_insertionSort ..).trans (same.trans perm.symm))
    rw [sorts]

theorem five_planned : (plan 5 (sorted ["b", "a"])).map Prod.snd = [3, 2] ∧
    ((plan 5 (sorted ["b", "a"])).map Prod.snd).sum = 5 :=
  ⟨by decide, (plan_even (by decide) (by decide) (by decide) (by decide)).2.1⟩

end

/-! ## The group -/

/-- A group with its size in every shard. -/
structure Group where
  name : String
  sizes : List (Shard × Nat)
  distinct : (sizes.map Prod.fst).Nodup
  /-- The number of shards is an `int32`. -/
  few : sizes.length < 2 ^ 31

namespace Group

variable (group : Group)

/-- The shards of the group. -/
def shards : List Shard := group.sizes.map Prod.fst

/-- The size of the group. -/
def total : Nat := (group.sizes.map Prod.snd).sum

/-- The cache has every shard with its size. -/
def covers (cached : List (Shard × GroupStatus)) : Bool :=
  (cached.map fun entry => (entry.1, entry.2.size)).isPerm
    (group.sizes.map fun entry => (entry.1, (entry.2 : Int)))

end Group

section

variable (cached : List (Shard × GroupStatus))

theorem shards_foldl_add : ∀ agg : AggregatedGroup,
    (cached.foldl AggregatedGroup.add agg).shards = agg.shards ++ cached.map Prod.fst := by
  induction cached with
  | nil => simp
  | cons entry rest ih =>
    intro agg
    rw [List.foldl_cons, ih, AggregatedGroup.add, List.append_assoc]
    rfl

theorem totalReplicas_foldl_add
    (natural : ∀ entry ∈ cached, 0 ≤ entry.2.size) : ∀ {agg : AggregatedGroup},
    0 ≤ agg.totalReplicas →
      agg.totalReplicas + (cached.map fun entry => entry.2.size).sum < 2 ^ 31 →
        (cached.foldl AggregatedGroup.add agg).totalReplicas =
          agg.totalReplicas + (cached.map fun entry => entry.2.size).sum := by
  induction cached with
  | nil => simp
  | cons entry rest ih =>
    intro agg nonneg small
    have first : 0 ≤ entry.2.size := natural entry List.mem_cons_self
    have others : ∀ entry ∈ rest, 0 ≤ entry.2.size :=
      fun entry mem => natural entry (List.mem_cons_of_mem _ mem)
    have behind : 0 ≤ (rest.map fun entry => entry.2.size).sum :=
      List.sum_nonneg (List.forall_mem_map.mpr others)
    rw [List.map_cons, List.sum_cons] at small ⊢
    have added : (agg.add entry).totalReplicas = agg.totalReplicas + entry.2.size :=
      wrap32_of_lt (by omega) (by omega)
    rw [List.foldl_cons, ih others (by omega) (by omega), added, Int.add_assoc]

variable {group : Group} {cached : List (Shard × GroupStatus)} {agg : AggregatedGroup}

theorem aggregate_covers (fits : group.total < 2 ^ 31) (covers : group.covers cached = true)
    (aggregated : aggregateGroups cached = some agg) :
    agg.shards.Perm group.shards ∧ agg.totalReplicas = group.total := by
  have perm := List.isPerm_iff.mp covers
  have names : (cached.map Prod.fst).Perm group.shards := by
    simpa [Group.shards, Function.comp_def] using perm.map Prod.fst
  have sum : (cached.map fun entry => entry.2.size).sum = group.total := by
    have sizes := (perm.map Prod.snd).sum_eq
    simpa [Group.total, Nat.cast_list_sum, Function.comp_def] using sizes
  have natural : ∀ entry ∈ cached, 0 ≤ entry.2.size := by
    intro entry mem
    have there := perm.mem_iff.mp (List.mem_map_of_mem mem)
    obtain ⟨other, _, same⟩ := List.mem_map.mp there
    have size : (other.2 : Int) = entry.2.size := congrArg Prod.snd same
    omega
  cases cached with
  | nil => cases aggregated
  | cons first rest =>
    cases aggregated
    constructor
    · rw [shards_foldl_add]
      exact names
    · rw [totalReplicas_foldl_add _ natural (Int.le_refl 0), sum, Int.zero_add]
      rw [sum, Int.zero_add]
      omega

end

/-! ## The API server -/

/-- The versions of the objects, the latest first. -/
structure Store where
  pools : List Pool := []
  machinePools : List MachinePool := []
  shardGroups : Dict Shard ShardGroup := .empty

/-- How a call turns out; a call that is `unsure` takes effect and fails. -/
inductive Fate where
  | ok
  | lost
  | unsure
deriving DecidableEq

/-- What is decided outside of the controllers when an action is performed. -/
structure Outcome where
  fate : Fate := .ok
  /-- The version that a read sees; there may be none yet. -/
  version : Nat := 0
  connected : Option (List Shard) := none

/-- A call that fails. -/
def unavailable : Err := .message "unavailable"

variable {α : Type}

/-- A read, which may fail. -/
def Outcome.read (outcome : Outcome) (value : α) : Except Err α :=
  if outcome.fate = .ok then .ok value else .error unavailable

/-- A write with its effect, unless the server refuses it. -/
def Outcome.write (outcome : Outcome) (store : Store)
    (effect : Except Err (Store × α)) : Store × Except Err α :=
  match outcome.fate, effect with
  | .lost, _ => (store, .error unavailable)
  | .ok, .ok (after, value) => (after, .ok value)
  | .unsure, .ok (after, _) => (after, .error unavailable)
  | _, .error error => (store, .error error)

namespace Store

variable (store : Store)

/-- Create the pool, unless there is one. -/
def createPool (pool : Pool) : Except Err (Store × Pool) :=
  if store.pools = [] then
    let stored := { pool with generation := 1, resourceVersion := 1, status := {} }
    .ok ({ store with pools := [stored] }, stored)
  else .error (.message "already exists")

/-- `Update` does not touch the status. It is refused if the object has changed since it
was read. -/
def updatePool (pool : Pool) : Except Err (Store × Pool) :=
  match store.pools with
  | [] => .error (.message "not found")
  | current :: older =>
    if pool.resourceVersion = current.resourceVersion then
      let stored := { pool with
        status := current.status
        generation := if pool.spec = current.spec then current.generation
          else current.generation + 1
        resourceVersion := current.resourceVersion + 1 }
      .ok ({ store with pools := stored :: current :: older }, stored)
    else .error (.message "conflict")

/-- Update the status of the latest version. -/
def updatePoolStatus (pool : Pool) : Except Err (Store × Unit) :=
  match store.pools with
  | [] => .error (.message "not found")
  | current :: older =>
    if pool.resourceVersion = current.resourceVersion then
      let stored := { current with
        status := pool.status
        resourceVersion := current.resourceVersion + 1 }
      .ok ({ store with pools := stored :: current :: older }, ())
    else .error (.message "conflict")

/-- A MachinePool that is created without replicas gets the default of the server. -/
def createMachinePool (default : Option Int) (replicas : Option Int) :
    Except Err (Store × MachinePool) :=
  if store.machinePools = [] then
    let stored : MachinePool := { replicas := replicas.or default }
    .ok ({ store with machinePools := [stored] }, stored)
  else .error (.message "already exists")

/-- Create or update the object of a shard. -/
def putShardGroup (shard : Shard) (group : ShardGroup) : Except Err (Store × ShardGroup) :=
  .ok ({ store with shardGroups := store.shardGroups.set shard group }, group)

/-- Delete the object of a shard. -/
def deleteShardGroup (shard : Shard) : Except Err (Store × Unit) :=
  .ok ({ store with shardGroups := store.shardGroups.erase shard }, ())

/-- What an action does, and what it answers. -/
def perform (default : Option Int) : (action : Action) → Outcome → Store × Reply action
  | .getPool, outcome => (store, outcome.read store.pools[outcome.version]?)
  | .createPool pool, outcome => outcome.write store (store.createPool pool)
  | .updatePool pool, outcome => outcome.write store (store.updatePool pool)
  | .updatePoolStatus pool, outcome => outcome.write store (store.updatePoolStatus pool)
  | .listPools, outcome => (store, outcome.read false)
  | .getMachinePool, outcome => (store, outcome.read store.machinePools[outcome.version]?)
  | .createMachinePool replicas, outcome =>
    outcome.write store (store.createMachinePool default replicas)
  | .connections, outcome => (store, outcome.connected)
  | .pauseReconciliation _, _ => (store, ())
  | .resumeReconciliation, _ => (store, ())
  | .getShardGroup shard, outcome => (store, outcome.read (store.shardGroups.get shard))
  | .createShardGroup shard size, outcome =>
    outcome.write store (store.putShardGroup shard { size })
  | .updateShardGroup shard size, outcome => outcome.write store (store.putShardGroup shard
      { size, ready := ((store.shardGroups.get shard).map ShardGroup.ready).getD false })
  | .listShardGroups, outcome =>
    (store, outcome.read (store.shardGroups.entries.map Prod.fst))
  | .deleteShardGroup shard, outcome => outcome.write store (store.deleteShardGroup shard)

end Store

/-! ## The machine -/

/-- The reconciliations under way and the objects. -/
abbrev State := Team interface Err Store

/-- Reconciliations begin, take a step, or others act. -/
inductive Label where
  /-- `reconcileMachinePools` gets to the group, with these cached shards. -/
  | sync (cached : List (Shard × GroupStatus))
  /-- `Reconcile` of the pool controller begins. -/
  | reconcile
  | perform (j : Nat) (outcome : Outcome)
  /-- Another controller changes the MachinePool, but not its replicas. -/
  | touch
  /-- The controller of the shard groups finds one of them ready or not. -/
  | observe (shard : Shard) (ready : Bool)

variable (store : Store)

/-- Both objects of the group exist. -/
def Store.complete : Bool := store.pools ≠ [] && store.machinePools ≠ []

section

variable (group : Group) (default : Option Int)

/-- Another writer touches the CAPI object. -/
def Store.touch : Option Store :=
  match store.machinePools with
  | [] => none
  | current :: older => some { store with
      machinePools := { current with generation := current.generation + 1 } :: current :: older }

/-- A shard reports. -/
def Store.observe (shard : Shard) (ready : Bool) : Option Store :=
  (store.shardGroups.get shard).map fun found =>
    { store with shardGroups := store.shardGroups.set shard { found with ready := ready } }

/-- Once the objects exist, the sizes on the shards may be changing. -/
def step (s : State) : Label → Option State
  | .sync cached =>
    if group.covers cached || s.store.complete then
      (aggregateGroups cached).map fun agg => s.launch (ensureMachinePool group.name agg)
    else none
  | .reconcile => some (s.launch reconcile)
  | .perform j outcome =>
    s.advance (fun store action outcome => store.perform default action outcome) j outcome
  | .touch => s.store.touch.map fun store => { s with store := store }
  | .observe shard ready =>
    (s.store.observe shard ready).map fun store => { s with store := store }

/-- The group runs on its shards, and there are no objects. -/
def adoption : Machine State Label where
  start := ⟨{}, []⟩
  step := step group default

end

/-! ## What the controllers keep to -/

section

variable (group : Group)

/-- The pool names the shards of the group. -/
abbrev Pool.Of (pool : Pool) : Prop := pool.spec.shards.Perm group.shards

/-- What a run may do; it is late if it began when the objects existed. -/
def Allowed (late : Bool) : Action → Prop
  | .createPool pool => late = true ∨ pool.Of group
  | .updatePool pool => pool.Of group
  | .createMachinePool (some replicas) => late = true ∨ replicas = group.total
  | .pauseReconciliation sizes =>
    (sizes.map Prod.fst).Perm group.shards ∧ (sizes.map Prod.snd).sum = group.total
  | _ => True

/-- Replies that fit the group. -/
def Honest : (action : Action) → Reply action → Prop
  | .getPool, .ok (some pool) => pool.Of group
  | .createPool _, .ok pool => pool.Of group
  | .updatePool _, .ok pool => pool.Of group
  | .getMachinePool, .ok (some machinePool) => machinePool.replicas = some (group.total : Int)
  | .createMachinePool _, .ok machinePool => machinePool.replicas = some (group.total : Int)
  | _, _ => True

/-- Replies fit if the actions are allowed. -/
def contract : Contract interface Bool where
  demand action Q late :=
    Allowed group late action ∧ ∀ reply, Honest group action reply → Q reply late
  mono := by
    rintro action P Q weaker late ⟨allowed, answered⟩
    exact ⟨allowed, fun reply honest => weaker reply late (answered reply honest)⟩

end

section

variable {group : Group} {late : Bool} {α : Type} {action : Action}
  {result : Reply action → Except Err α} {program : Code α} {P : α → Prop}

theorem wp_call {post : Except Err α → Bool → Prop} :
    wp (contract group) post (call action result) late ↔ Allowed group late action ∧
        ∀ reply, Honest group action reply → post (result reply) late := by
  constructor
  · rintro ⟨allowed, answered⟩
    exact ⟨allowed, fun reply honest => (wp_ofExcept _ _).mp (answered reply honest)⟩
  · rintro ⟨allowed, answered⟩
    exact ⟨allowed, fun reply honest => (wp_ofExcept _ _).mpr (answered reply honest)⟩

/-- What a program returns, with the phase unchanged. -/
def Returns (late : Bool) (P : α → Prop) (result : Except Err α) (world : Bool) : Prop :=
  world = late ∧ ∀ value, result = .ok value → P value

theorem wp_of_uses (uses : Uses (Allowed group late) program) :
    wp (contract group) (Returns late fun _ => True) program late := by
  have kept := uses.wp_of_keeps (C := contract group) (J := fun world => world = late)
    (fun _ allowed _ same => ⟨same ▸ allowed, fun _ _ => same⟩) late rfl
  exact wp_mono (fun _ _ same => ⟨same, fun _ _ => trivial⟩) _ _ kept

theorem wp_bind_returns {β : Type} {Q : β → Prop} {rest : α → Code β}
    (first : wp (contract group) (Returns late P) program late)
    (second : ∀ value, P value → wp (contract group) (Returns late Q) (rest value) late) :
    wp (contract group) (Returns late Q) (program >>= rest) late := by
  refine wp_then (wp_mono ?_ _ _ first)
  rintro (error | value) _ ⟨rfl, returned⟩
  · refine ⟨rfl, fun _ impossible => ?_⟩
    cases impossible
  · exact second value (returned value rfl)

theorem wp_pure_returns {value : α} (holds : P value) :
    wp (contract group) (Returns late P) (pure value : Code α) late := by
  refine ⟨rfl, fun other same => ?_⟩
  cases same
  exact holds

theorem wp_call_returns (allowed : Allowed group late action)
    (told : ∀ reply value, Honest group action reply → result reply = .ok value → P value) :
    wp (contract group) (Returns late P) (call action result) late :=
  wp_call.mpr ⟨allowed, fun reply honest => ⟨rfl, fun value => told reply value honest⟩⟩

theorem uses_call {P : Action → Prop} (allowed : P action) : Uses P (call action result) :=
  ⟨allowed, fun reply => uses_ofExcept (result reply)⟩

theorem uses_wrapping {P : Action → Prop} {context : String} (uses : Uses P program) :
    Uses P (wrapping context program) :=
  uses.recover fun _ => uses_fail _

theorem wp_getPool : wp (contract group)
    (Returns late fun found => ∀ pool, found = some pool → pool.Of group)
    (call .getPool fun reply => reply) late := by
  refine wp_call_returns trivial ?_
  rintro _ found honest rfl pool rfl
  exact honest

theorem wp_updatePool {pool : Pool} (of : pool.Of group) : wp (contract group)
    (Returns late fun stored => stored.Of group)
    (call (.updatePool pool) fun reply => reply) late := by
  refine wp_call_returns of ?_
  rintro _ stored honest rfl
  exact honest

/-! ### The sync manager -/

variable {agg : AggregatedGroup}

theorem ensurePool_spec (covering : late = true ∨ agg.shards.Perm group.shards) :
    wp (contract group) (Returns late fun _ => True) (ensurePool group.name agg) late := by
  refine wp_bind_returns wp_getPool fun found of => ?_
  cases found with
  | none => exact wp_of_uses (uses_wrapping (uses_call covering))
  | some pool =>
    have kept : (agg.revise group.name pool).Of group := of pool rfl
    refine wp_of_uses ?_
    show Uses (I := interface) (Allowed group late)
      (if agg.revise group.name pool = pool then _ else _)
    split
    · exact uses_pure _
    · exact uses_wrapping (uses_call kept)

theorem ensureMachinePool_spec
    (covering : late = true ∨ agg.shards.Perm group.shards ∧ agg.totalReplicas = group.total) :
    wp (contract group) (Returns late fun _ => True) (ensureMachinePool group.name agg) late := by
  refine wp_bind_returns (ensurePool_spec (covering.imp_right And.left)) fun pool _ => ?_
  have reports : Uses (Allowed group late)
      (reportReplicas (wrap32 agg.providerIDs.length) pool) := by
    unfold reportReplicas
    split
    · exact uses_pure _
    refine (uses_wrapping (uses_call trivial)).bind fun found => ?_
    cases found with
    | none => exact uses_fail _
    | some pool => exact uses_wrapping (uses_call trivial)
  refine wp_of_uses (reports.bind fun _ => (uses_call trivial).bind fun found => ?_)
  cases found with
  | some machinePool => exact uses_pure _
  | none =>
    exact (uses_wrapping (uses_call (covering.imp_right And.right))).bind fun _ => uses_pure _

/-! ### The pool controller -/

variable {pool : Pool} {machinePool : MachinePool}

theorem findMachinePool_spec : wp (contract group)
    (Returns late fun found => found.replicas = some (group.total : Int)) findMachinePool late := by
  have read : wp (contract group) (Returns late fun found => ∀ machinePool : MachinePool,
      found = some machinePool → machinePool.replicas = some (group.total : Int))
      (call .getMachinePool id) late := by
    refine wp_call_returns trivial ?_
    rintro _ found honest rfl machinePool rfl
    exact honest
  refine wp_bind_returns read fun found of => ?_
  cases found with
  | some machinePool => exact wp_pure_returns (of machinePool rfl)
  | none =>
    refine wp_call_returns trivial ?_
    rintro _ created honest rfl
    exact honest

theorem ensureShardGroups_uses (sizes : List (Shard × Int)) : ∀ allReady : Bool,
    Uses (Allowed group late) (ensureShardGroups sizes allReady) := by
  induction sizes with
  | nil => exact fun _ => uses_pure _
  | cons entry rest ih =>
    intro allReady
    have ensures : Uses (Allowed group late) (ensureShardGroup entry.1 entry.2) := by
      refine (uses_call trivial).bind fun found => ?_
      cases found with
      | none => exact uses_wrapping (uses_call trivial)
      | some shardGroup =>
        show Uses (I := interface) (Allowed group late) (if shardGroup.size = entry.2 then _ else _)
        split
        · exact uses_pure _
        · exact uses_wrapping (uses_call trivial)
    refine ((ensures.bind fun _ => uses_pure _).recover fun _ => uses_pure _).bind fun ensured => ?_
    cases ensured with
    | none => exact uses_pure _
    | some shardGroup => exact ih _

theorem deleteEach_uses (shards : List Shard) : Uses (Allowed group late) (deleteEach shards) := by
  induction shards with
  | nil => exact uses_pure _
  | cons shard rest ih => exact (uses_wrapping (uses_call trivial)).bind fun _ => ih

theorem distribute_uses (of : pool.Of group) (sizes : List (Shard × Int)) :
    Uses (Allowed group late) (distribute pool machinePool sizes) := by
  refine (ensureShardGroups_uses sizes true).bind fun ended => ?_
  cases ended with
  | none => exact (uses_call trivial).recover fun _ => uses_pure _
  | some allReady =>
    refine ((uses_wrapping (uses_call trivial)).bind fun _ => deleteEach_uses _).bind fun _ => ?_
    refine Uses.bind ?_ fun _ => uses_call trivial
    split
    · exact uses_pure _
    · exact uses_call of

theorem pausing_uses {sizes : List (Shard × Int)} {body : Code Unit}
    (planned : Allowed group late (.pauseReconciliation sizes))
    (uses : Uses (Allowed group late) body) : Uses (Allowed group late) (pausing sizes body) := by
  refine (uses_act planned).bind fun _ => ?_
  refine (uses.recover fun _ => (uses_act trivial).bind fun _ => uses_fail _).bind fun _ => ?_
  exact uses_act trivial

theorem reconcileShards_uses (fits : group.total < 2 ^ 31) (of : pool.Of group)
    (sized : machinePool.replicas = some (group.total : Int)) :
    Uses (Allowed group late) (reconcileShards pool machinePool) := by
  have perm : (sorted pool.spec.shards).Perm group.shards :=
    (List.perm_insertionSort _ _).trans of
  have few : (sorted pool.spec.shards).length < 2 ^ 31 := by
    rw [perm.length_eq, Group.shards, List.length_map]
    exact group.few
  unfold reconcileShards
  split
  · exact uses_pure _
  refine (uses_act trivial).bind fun connections => ?_
  cases (connections : Option (List Shard)) with
  | none => exact uses_pure _
  | some connected =>
    show Uses (I := interface) (Allowed group late) (if _ then _ else _)
    split
    · split
      · exact uses_call trivial
      rename_i shards
      have planned : Allowed group late (.pauseReconciliation
          (plan (machinePool.replicas.getD 0) (sorted pool.spec.shards))) := by
        rw [sized]
        refine ⟨by rw [plan_shards]; exact perm, ?_⟩
        refine sum_plan fits (perm.nodup_iff.mpr group.distinct) few ?_
        intro empty
        exact shards (List.Perm.eq_nil (empty ▸ (List.perm_insertionSort _ _).symm))
      exact pausing_uses planned (distribute_uses perm _)
    · exact uses_call trivial

theorem reconcile_spec (fits : group.total < 2 ^ 31) :
    wp (contract group) (Returns late fun _ => True) reconcile late := by
  refine wp_bind_returns wp_getPool fun found of => ?_
  cases found with
  | none => exact wp_of_uses (uses_pure _)
  | some pool =>
    have held : wp (contract group) (Returns late fun stored : Pool => stored.Of group)
        (if pool.finalizer then pure pool
          else call (.updatePool { pool with finalizer := true }) id) late := by
      split
      · exact wp_pure_returns (of pool rfl)
      · exact wp_updatePool (of pool rfl)
    refine wp_bind_returns held fun pool of => ?_
    refine wp_bind_returns (wp_of_uses (uses_call trivial)) fun duplicate _ => ?_
    split
    · exact wp_of_uses (uses_call trivial)
    · refine wp_bind_returns findMachinePool_spec fun machinePool sized => ?_
      exact wp_of_uses (reconcileShards_uses fits of sized)

end

/-! ## What the objects keep -/

section

variable {group : Group} {default : Option Int} {late : Bool} {store after : Store}

/-- The objects fit the group. -/
structure Good (group : Group) (store : Store) : Prop where
  pools : ∀ pool ∈ store.pools, pool.Of group
  machinePools : ∀ machinePool ∈ store.machinePools,
    machinePool.replicas = some (group.total : Int)

/-- A late run began when the objects existed. -/
def Timely (late : Bool) (store : Store) : Prop := late = true → store.complete = true

theorem complete_iff : store.complete = true ↔ store.pools ≠ [] ∧ store.machinePools ≠ [] := by
  simp [Store.complete]

/-- Nothing that fits is lost. -/
structure Keeps (group : Group) (store after : Store) : Prop where
  good : Good group store → Good group after
  complete : store.complete = true → after.complete = true

theorem Keeps.refl (store : Store) : Keeps group store store := ⟨id, id⟩

theorem Keeps.pool {pool : Pool} (of : Good group store → pool.Of group) :
    Keeps group store { store with pools := pool :: store.pools } where
  good good := by
    refine ⟨fun other mem => ?_, good.machinePools⟩
    rcases List.mem_cons.mp mem with rfl | mem
    · exact of good
    · exact good.pools other mem
  complete held := complete_iff.mpr ⟨List.cons_ne_nil _ _, (complete_iff.mp held).2⟩

theorem Keeps.machinePool {machinePool : MachinePool}
    (of : Good group store → machinePool.replicas = some (group.total : Int)) :
    Keeps group store { store with machinePools := machinePool :: store.machinePools } where
  good good := by
    refine ⟨good.pools, fun other mem => ?_⟩
    rcases List.mem_cons.mp mem with rfl | mem
    · exact of good
    · exact good.machinePools other mem
  complete held := complete_iff.mpr ⟨(complete_iff.mp held).1, List.cons_ne_nil _ _⟩

theorem keeps_shardGroups {shardGroups : Dict Shard ShardGroup} :
    Keeps group store { store with shardGroups := shardGroups } :=
  ⟨fun good => ⟨good.pools, good.machinePools⟩, id⟩

theorem write_keeps {P : α → Prop} (store : Store) (outcome : Outcome)
    {effect : Except Err (Store × α)}
    (effects : ∀ after value, effect = .ok (after, value) →
      Keeps group store after ∧ (Good group store → P value)) :
    Keeps group store (outcome.write store effect).1 ∧
      (Good group store → ∀ value, (outcome.write store effect).2 = .ok value → P value) := by
  obtain ⟨fate, _, _⟩ := outcome
  rcases effect with error | ⟨after, value⟩
  · cases fate <;> exact ⟨.refl store, by rintro _ _ ⟨⟩⟩
  have kept := effects after value rfl
  cases fate with
  | lost => exact ⟨.refl store, by rintro _ _ ⟨⟩⟩
  | unsure => exact ⟨kept.1, by rintro _ _ ⟨⟩⟩
  | ok =>
    refine ⟨kept.1, fun good other same => ?_⟩
    cases same
    exact kept.2 good

variable {outcome : Outcome} {s : State}

theorem eq_of_read {value found : α} (read : outcome.read value = .ok found) : found = value := by
  unfold Outcome.read at read
  split at read <;> cases read
  rfl

theorem honest_getPool {reply : Except Err (Option Pool)}
    (told : ∀ pool, reply = .ok (some pool) → pool.Of group) : Honest group .getPool reply := by
  rcases reply with error | _ | pool
  · trivial
  · trivial
  · exact told pool rfl

theorem honest_getMachinePool {reply : Except Err (Option MachinePool)}
    (told : ∀ machinePool, reply = .ok (some machinePool) →
      machinePool.replicas = some (group.total : Int)) : Honest group .getMachinePool reply := by
  rcases reply with error | _ | machinePool
  · trivial
  · trivial
  · exact told machinePool rfl

variable {value : Pool} {j : Nat}

theorem createPool_keeps {pool : Pool} (timely : Timely late store)
    (allowed : late = true ∨ pool.Of group) (effect : store.createPool pool = .ok (after, value)) :
    Keeps group store after ∧ (Good group store → value.Of group) := by
  unfold Store.createPool at effect
  split at effect <;> cases effect
  rename_i none_
  have of : pool.Of group := by
    refine allowed.resolve_left fun late => ?_
    exact (complete_iff.mp (timely late)).1 none_
  rw [← none_]
  exact ⟨.pool fun _ => of, fun _ => of⟩

theorem updatePool_keeps {pool : Pool} (of : pool.Of group)
    (effect : store.updatePool pool = .ok (after, value)) :
    Keeps group store after ∧ (Good group store → value.Of group) := by
  unfold Store.updatePool at effect
  split at effect
  · cases effect
  rename_i current older versions
  split at effect <;> cases effect
  rw [← versions]
  exact ⟨.pool fun _ => of, fun _ => of⟩

theorem updatePoolStatus_keeps {pool : Pool} {value : Unit}
    (effect : store.updatePoolStatus pool = .ok (after, value)) : Keeps group store after := by
  unfold Store.updatePoolStatus at effect
  split at effect
  · cases effect
  rename_i current older versions
  split at effect <;> cases effect
  rw [← versions]
  refine .pool fun good => ?_
  exact good.pools current (versions ▸ List.mem_cons_self)

theorem createMachinePool_keeps {replicas : Option Int} {value : MachinePool}
    (timely : Timely late store) (allowed : Allowed group late (.createMachinePool replicas))
    (careful : replicas = none → store.machinePools ≠ [] ∨ default = some (group.total : Int))
    (effect : store.createMachinePool default replicas = .ok (after, value)) :
    Keeps group store after ∧ (Good group store → value.replicas = some (group.total : Int)) := by
  unfold Store.createMachinePool at effect
  split at effect <;> cases effect
  rename_i none_
  have sized : replicas.or default = some (group.total : Int) := by
    cases replicas with
    | none => exact (careful rfl).resolve_left fun there => there none_
    | some given =>
      have same : given = group.total := by
        refine allowed.resolve_left fun late => ?_
        exact (complete_iff.mp (timely late)).2 none_
      rw [Option.some_or, same]
  rw [← none_]
  exact ⟨.machinePool fun _ => sized, fun _ => sized⟩

/-- **Every action that is allowed keeps the objects**, and its reply is honest, if a
MachinePool is not created with another default. -/
theorem perform_keeps {action : Action} (outcome : Outcome) (timely : Timely late store)
    (allowed : Allowed group late action)
    (careful : action = .createMachinePool none →
      store.machinePools ≠ [] ∨ default = some (group.total : Int)) :
    Keeps group store (store.perform default action outcome).1 ∧
      (Good group store → Honest group action (store.perform default action outcome).2) := by
  cases action with
  | getPool =>
    refine ⟨.refl store, fun good => honest_getPool fun pool read => ?_⟩
    exact good.pools pool (List.mem_of_getElem? (eq_of_read read).symm)
  | getMachinePool =>
    refine ⟨.refl store, fun good => honest_getMachinePool fun machinePool read => ?_⟩
    exact good.machinePools machinePool (List.mem_of_getElem? (eq_of_read read).symm)
  | createPool pool =>
    have kept := write_keeps (P := fun stored : Pool => stored.Of group) store outcome
      fun after value => createPool_keeps timely allowed
    refine ⟨kept.1, fun good => ?_⟩
    cases replied : (store.perform default (.createPool pool) outcome).2 with
    | error error => trivial
    | ok stored => exact kept.2 good stored replied
  | updatePool pool =>
    have kept := write_keeps (P := fun stored : Pool => stored.Of group) store outcome
      fun after value => updatePool_keeps allowed
    refine ⟨kept.1, fun good => ?_⟩
    cases replied : (store.perform default (.updatePool pool) outcome).2 with
    | error error => trivial
    | ok stored => exact kept.2 good stored replied
  | createMachinePool replicas =>
    have kept := write_keeps
      (P := fun stored : MachinePool => stored.replicas = some (group.total : Int)) store outcome
      fun after value => createMachinePool_keeps timely allowed fun none_ =>
        careful (none_ ▸ rfl)
    refine ⟨kept.1, fun good => ?_⟩
    cases replied : (store.perform default (.createMachinePool replicas) outcome).2 with
    | error error => trivial
    | ok stored => exact kept.2 good stored replied
  | updatePoolStatus pool =>
    exact ⟨(write_keeps (P := fun _ => True) store outcome fun after value effect =>
      ⟨updatePoolStatus_keeps effect, fun _ => trivial⟩).1, fun _ => trivial⟩
  | createShardGroup shard size | updateShardGroup shard size | deleteShardGroup shard =>
    refine ⟨(write_keeps (P := fun _ => True) store outcome ?_).1, fun _ => trivial⟩
    rintro after value ⟨⟩
    exact ⟨keeps_shardGroups, fun _ => trivial⟩
  | _ => exact ⟨.refl store, fun _ => trivial⟩

/-- A MachinePool is created without replicas only when there is one already, or when
the default is the size of the group. -/
def careful (group : Group) (default : Option Int) (s : State) : Label → Bool
  | .perform j _ =>
    match (s.tasks[j]?).bind Program.next? with
    | some (.createMachinePool none) =>
      s.store.machinePools ≠ [] || default = some (group.total : Int)
    | _ => true
  | _ => true

theorem careful_create {next : Reply (.createMachinePool none) → Code Unit}
    (there : s.tasks[j]? = some (.perform (.createMachinePool none) next))
    (ok : careful group default s (.perform j outcome) = true) :
    s.store.machinePools ≠ [] ∨ default = some (group.total : Int) := by
  simpa [careful, there, Program.next?] using ok

/-- The objects are those of the group, and every run keeps to its contract. -/
structure Sound (group : Group) (s : State) : Prop where
  good : Good group s.store
  conforms : s.Conforms (contract group) Timely

theorem Keeps.timely (kept : Keeps group store after) (timely : Timely late store) :
    Timely late after := fun is => kept.complete (timely is)

theorem Sound.replace (sound : Sound group s) (kept : Keeps group s.store after) :
    Sound group { s with store := after } := by
  refine ⟨kept.good sound.good, fun task mem => ?_⟩
  obtain ⟨late, timely, spec⟩ := sound.conforms task mem
  exact ⟨late, kept.timely timely, spec⟩

theorem Sound.launch {program : Code Unit} (sound : Sound group s) (late : Bool)
    (timely : Timely late s.store)
    (spec : wp (contract group) (Returns late fun _ => True) program late) :
    Sound group (s.launch program) := by
  have weak := wp_mono (fun _ _ _ => trivial) _ _ spec
  exact ⟨sound.good, sound.conforms.launch timely weak⟩

theorem Sound.advance {s' : State} (sound : Sound group s)
    (ok : careful group default s (.perform j outcome) = true)
    (advanced : s.advance (fun store action outcome => store.perform default action outcome) j
      outcome = some s') : Sound group s' := by
  have kept : ∀ {action late}, (∃ next, s.tasks[j]? = some (.perform action next)) →
      Timely late s.store → Allowed group late action →
        Keeps group s.store (s.store.perform default action outcome).1 ∧ (Good group s.store →
            Honest group action (s.store.perform default action outcome).2) := by
    rintro action late ⟨next, there⟩ timely allowed
    refine perform_keeps outcome timely allowed ?_
    rintro rfl
    exact careful_create there ok
  obtain ⟨action, next, mem, there, stored, -⟩ := Team.advance_eq_some advanced
  obtain ⟨late, timely, allowed, _⟩ := sound.conforms.next_demand mem
  have keeps : Keeps group s.store s'.store := by
    rw [stored]
    exact (kept ⟨next, there⟩ timely allowed).1
  refine ⟨keeps.good sound.good, sound.conforms.advance (fun _ => keeps.timely) ?_ advanced⟩
  intro action Q late there _ timely demand
  exact ⟨late, keeps.timely timely, demand.2 _ ((kept there timely demand.1).2 sound.good)⟩

theorem touch_keeps (touched : store.touch = some after) : Keeps group store after := by
  unfold Store.touch at touched
  split at touched <;> cases touched
  rename_i current older versions
  rw [← versions]
  exact .machinePool fun good => good.machinePools current (versions ▸ List.mem_cons_self)

/-- **Every state of a careful run is sound.** -/
theorem sound_of_reaches (fits : group.total < 2 ^ 31) (reached : (adoption group default).Reaches
      (fun s label => careful group default s label = true) s) : Sound group s := by
  refine reached.invariant (P := Sound group) ⟨⟨?_, ?_⟩, ?_⟩ ?_
  · rintro pool ⟨⟩
  · rintro machinePool ⟨⟩
  · rintro task ⟨⟩
  · intro s s' label _ sound ok stepped
    cases label with
    | sync cached =>
      change (if _ then _ else none) = some s' at stepped
      split at stepped
      · rename_i begins
        obtain ⟨agg, aggregated, rfl⟩ := Option.map_eq_some_iff.mp stepped
        rcases Bool.or_eq_true_iff.mp begins with covers | complete
        · exact sound.launch false (by rintro ⟨⟩)
            (ensureMachinePool_spec (.inr (aggregate_covers fits covers aggregated)))
        · exact sound.launch true (fun _ => complete) (ensureMachinePool_spec (.inl rfl))
      · cases stepped
    | reconcile =>
      cases stepped
      exact sound.launch false (by rintro ⟨⟩) (reconcile_spec fits)
    | perform j outcome => exact sound.advance ok stepped
    | touch =>
      obtain ⟨store, touched, rfl⟩ := Option.map_eq_some_iff.mp stepped
      exact sound.replace (touch_keeps touched)
    | observe shard ready =>
      obtain ⟨store, observed, rfl⟩ := Option.map_eq_some_iff.mp stepped
      obtain ⟨found, _, rfl⟩ := Option.map_eq_some_iff.mp observed
      exact sound.replace keeps_shardGroups

end

/-- **Adoption does not resize the group.** In a careful run, whenever `Reconcile` gets to
its loop over the shards, the sizes it is about to assign are for the shards of the group
and sum to its size. -/
theorem adoption_keeps_size (group : Group) (default : Option Int) (fits : group.total < 2 ^ 31)
    {s : State} (reached : (adoption group default).Reaches
      (fun s label => careful group default s label = true) s) {task : Code Unit}
    (running : task ∈ s.tasks) {sizes : List (Shard × Int)}
    (loop : task.next? = some (.pauseReconciliation sizes)) :
    (sizes.map Prod.fst).Perm group.shards ∧ (sizes.map Prod.snd).sum = group.total := by
  cases task with
  | pure | fail => cases loop
  | perform action next =>
    cases loop
    obtain ⟨late, _, planned, _⟩ := (sound_of_reaches fits reached).conforms.next_demand running
    exact planned

/-! ## The pool controller comes first -/

namespace Race

/-- A group of three in one shard. -/
def group : Group where
  name := "web"
  sizes := [("s1", 3)]
  distinct := by decide
  few := by decide

/-- The default of the Cluster API. -/
def default : Option Int := some 1

/-- The sync manager creates the NstanceMachinePool. -/
def created : List Label :=
  [.sync [("s1", { size := 3 })], .perform 0 {}, .perform 0 {}]

/-- `Reconcile` gets from the start to its loop, where it finds the MachinePool or
creates it. -/
def reconciled (creates : List Label) : List Label :=
  [.reconcile, .perform 1 {}, .perform 1 {}, .perform 1 {}, .perform 1 {}] ++ creates ++
    [.perform 1 { connected := some ["s1"] }]

/-- The next action assigns these sizes. -/
def assigns (sizes : List (Shard × Int)) (s : State) : Bool :=
  (s.tasks[1]?).bind Program.next? = some (Action.pauseReconciliation sizes)

theorem exists_of_assigns {sizes : List (Shard × Int)} {s : State}
    (found : assigns sizes s = true) :
    ∃ task ∈ s.tasks, task.next? = some (.pauseReconciliation sizes) := by
  obtain ⟨task, there, next⟩ := Option.bind_eq_some_iff.mp (of_decide_eq_true found)
  exact ⟨task, List.mem_of_getElem? there, next⟩

/-- A group of three is assigned the default size of one. -/
theorem group_resized :
    ∃ s, (adoption group default).Reachable s ∧ (∃ task ∈ s.tasks,
      task.next? = some (.pauseReconciliation [("s1", 1)])) ∧ group.total = 3 := by
  have ran : ((adoption group default).run (adoption group default).start
      (created ++ reconciled [.perform 1 {}])).any (assigns [("s1", 1)]) = true := by
    decide +kernel
  obtain ⟨s, reached, found⟩ := Machine.exists_reachable_of_run _ ran
  exact ⟨s, reached, exists_of_assigns found, rfl⟩

/-- A group on two shards. -/
def pair : Group where
  name := "web"
  sizes := [("s1", 3), ("s2", 2)]
  distinct := by decide
  few := by decide

/-- The sync manager creates the MachinePool while `Reconcile` is on its way to look for it. -/
def overlapping : List Label :=
  [.sync [("s1", { size := 3 }), ("s2", { size := 2 })], .perform 0 {}, .perform 0 {},
    .reconcile, .perform 1 {}, .perform 1 {}, .perform 1 {}, .perform 0 {}, .perform 0 {},
    .perform 1 {}, .perform 1 { connected := some ["s1", "s2"] }]

theorem reaches_loop :
    ∃ s, (adoption pair default).Reaches (fun s label => careful pair default s label = true) s ∧
      ∃ task ∈ s.tasks, task.next? = some (.pauseReconciliation [("s1", 3), ("s2", 2)]) := by
  have ran : ((adoption pair default).runWithin (careful pair default)
      (adoption pair default).start overlapping).any (assigns [("s1", 3), ("s2", 2)]) = true := by
    decide +kernel
  obtain ⟨s, reached, found⟩ := Machine.exists_reaches_of_runWithin _ ran
  exact ⟨s, reached, exists_of_assigns found⟩

theorem group_kept :
    ∃ s, (adoption pair default).Reaches (fun s label => careful pair default s label = true) s ∧
      (∃ task ∈ s.tasks, task.next? = some (.pauseReconciliation [("s1", 3), ("s2", 2)])) ∧
      ["s1", "s2"].Perm pair.shards ∧ (3 + 2 : Int) = pair.total := by
  obtain ⟨s, reached, task, running, loop⟩ := reaches_loop
  exact ⟨s, reached, ⟨task, running, loop⟩,
    adoption_keeps_size pair default (by decide) reached running loop⟩

end Race

end Nstance.Pools
