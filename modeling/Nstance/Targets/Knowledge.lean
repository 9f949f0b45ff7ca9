import Mathlib.Data.List.Basic
import Nstance.Targets.Manager

/-!
# What a task knows, and what it may do with it

A task is one run of an operation on targets. The replies it got are its notes, the latest
first; `held` are those of the present critical section under `lbMu`. `Pre` states what each
kind of task must have noted before an action, for instance that every load balancer
recorded for a virtual machine released it before it is deleted.
-/

namespace Nstance.Targets

open Interaction
open TenantState (Tenant Err)

/-! ## Notes -/

/-- What a program has learnt. -/
inductive Note where
  | locked
  | unlocked
  | read (inst : Instance)
  | drainStarted (id : InstanceID)
  | listed (tenant : Tenant) (group : String) (vms : List ProviderID)
  | recorded (lb : LBKey) (id : InstanceID)
  | pending (rows : List (LBKey × InstanceID))
  | attached (id : InstanceID) (lbs : List LBKey)
  | grouped (tenant : Tenant) (group : String) (lbs : List LBKey)
  | unblocked (tenant : Tenant)
  | asleep (tenant : Tenant)
  | reported (target : Target) (state : TargetState)
  | withdrawn (target : Target)
  /-- The provider deleted the virtual machine or does not have it. -/
  | gone (vm : ProviderID)

/-- What a reply teaches. -/
def note : (action : Action) → Reply action → Option Note
  | .lock, _ => some .locked
  | .unlock, _ => some .unlocked
  | .getInstance _, .ok inst => some (.read inst)
  | .markDrainStarted id, .ok _ => some (.drainStarted id)
  | .getProviderIDsByGroup tenant group, .ok vms => some (.listed tenant group vms)
  | .upsertLBInstance lb id _, .ok _ => some (.recorded lb id)
  | .getPendingOrFailedLBInstances, .ok rows => some (.pending rows)
  | .getLBInstancesForInstance id, .ok lbs => some (.attached id lbs)
  | .getGroup tenant group, .ok lbs => some (.grouped tenant group lbs)
  | .targetRegistrationBlocked tenant, false => some (.unblocked tenant)
  | .tenantAsleep tenant, true => some (.asleep tenant)
  | .getLBTargetState target, .ok state => some (.reported target state)
  | .deregisterFromLB target, .ok _ => some (.withdrawn target)
  | .deleteVM _ vm, .ok _ => some (.gone vm)
  | .deleteVM _ vm, .error error => if error.is .instanceNotFound then some (.gone vm) else none
  | _, _ => none

/-- Add what a reply teaches. -/
def learn (action : Action) (reply : Reply action) (notes : List Note) : List Note :=
  (note action reply).toList ++ notes

/-- The task holds `lbMu`. -/
def holding : List Note → Bool
  | [] => false
  | .locked :: _ => true
  | .unlocked :: _ => false
  | _ :: earlier => holding earlier

/-- The notes since `lbMu` was last taken or given back. -/
def held : List Note → List Note
  | [] => []
  | .locked :: _ => []
  | .unlocked :: _ => []
  | note :: earlier => note :: held earlier

/-- A note that is not about `lbMu`. -/
def Note.plain : Note → Bool
  | .locked => false
  | .unlocked => false
  | _ => true

/-! ## Growing notes -/

/-- Plain notes were added: the lock was neither taken nor given back. -/
def Grown (notes notes' : List Note) : Prop :=
  ∃ more, notes' = more ++ notes ∧ ∀ note ∈ more, note.plain = true

/-- In the present critical section the first note came after the second. -/
def After (later earlier : Note) (notes : List Note) : Prop :=
  ∃ front back, held notes = front ++ later :: back ∧ earlier ∈ back

section

variable {notes notes' notes'' : List Note} {x y : Note}

theorem Note.plain_held (plain : x.plain = true) : held (x :: notes) = x :: held notes := by
  cases x <;> first | rfl | cases plain

theorem Note.plain_holding (plain : x.plain = true) : holding (x :: notes) = holding notes := by
  cases x <;> first | rfl | cases plain

theorem Grown.refl (notes : List Note) : Grown notes notes :=
  ⟨[], rfl, fun _ member => absurd member List.not_mem_nil⟩

theorem Grown.trans (first : Grown notes notes') (second : Grown notes' notes'') :
    Grown notes notes'' := by
  obtain ⟨more, rfl, plain⟩ := first
  obtain ⟨further, rfl, plain'⟩ := second
  refine ⟨further ++ more, (List.append_assoc ..).symm, fun note member => ?_⟩
  rcases List.mem_append.mp member with new | old
  · exact plain' note new
  · exact plain note old

section

variable (grown : Grown notes notes')
include grown

theorem Grown.cons (plain : x.plain = true) : Grown notes (x :: notes') :=
  grown.trans ⟨[x], rfl, fun note member => by rw [List.mem_singleton.mp member]; exact plain⟩

theorem Grown.mem (member : x ∈ notes) : x ∈ notes' := by
  obtain ⟨more, rfl, _⟩ := grown
  exact List.mem_append_right _ member

theorem Grown.held_eq : ∃ more, held notes' = more ++ held notes := by
  obtain ⟨more, rfl, plain⟩ := grown
  induction more with
  | nil => exact ⟨[], rfl⟩
  | cons note more ih =>
    obtain ⟨front, eq⟩ := ih fun note member => plain note (List.mem_cons_of_mem _ member)
    refine ⟨note :: front, ?_⟩
    rw [List.cons_append, Note.plain_held (plain note List.mem_cons_self), eq, List.cons_append]

theorem Grown.holding : holding notes' = holding notes := by
  obtain ⟨more, rfl, plain⟩ := grown
  induction more with
  | nil => rfl
  | cons note more ih =>
    rw [List.cons_append, Note.plain_holding (plain note List.mem_cons_self)]
    exact ih fun note member => plain note (List.mem_cons_of_mem _ member)

theorem Grown.held (member : x ∈ held notes) : x ∈ Targets.held notes' := by
  obtain ⟨more, eq⟩ := grown.held_eq
  rw [eq]
  exact List.mem_append_right _ member

theorem Grown.after (after : After x y notes) : After x y notes' := by
  obtain ⟨more, eq⟩ := grown.held_eq
  obtain ⟨front, back, split, member⟩ := after
  exact ⟨more ++ front, back, by rw [eq, split, List.append_assoc], member⟩

end

theorem After.cons (plain : x.plain = true) (member : y ∈ held notes) : After x y (x :: notes) :=
  ⟨[], Targets.held notes, Note.plain_held plain, member⟩

theorem after_cons {z : Note} (plain : z.plain = true) :
    After x y (z :: notes) ↔ (z = x ∧ y ∈ held notes) ∨ After x y notes := by
  constructor
  · rintro ⟨front, back, split, member⟩
    rw [Note.plain_held plain] at split
    cases front with
    | nil =>
      cases split
      exact .inl ⟨rfl, member⟩
    | cons _ front =>
      rw [List.cons_append, List.cons.injEq] at split
      exact .inr ⟨front, back, split.2, member⟩
  · rintro (⟨rfl, member⟩ | after)
    · exact .cons plain member
    · exact ((Grown.refl notes).cons plain).after after

theorem held_subset : ∀ {notes : List Note} {x : Note}, x ∈ held notes → x ∈ notes
  | note :: notes, x, member => by
      by_cases plain : note.plain = true
      · rw [Note.plain_held plain] at member
        rcases List.mem_cons.mp member with rfl | earlier
        · exact List.mem_cons_self
        · exact List.mem_cons_of_mem _ (held_subset earlier)
      · cases note <;> first | exact absurd rfl plain | cases member

theorem After.later_mem (after : After x y notes) : x ∈ held notes := by
  obtain ⟨front, back, split, _⟩ := after
  rw [split]
  exact List.mem_append_right _ List.mem_cons_self

theorem After.earlier_mem (after : After x y notes) : y ∈ held notes := by
  obtain ⟨front, back, split, member⟩ := after
  rw [split]
  exact List.mem_append_right _ (List.mem_cons_of_mem _ member)

end

/-! ## Knowledge -/

/-- The row was read, and its tenant then found unblocked. -/
def Cleared (inst : Instance) (notes : List Note) : Prop :=
  After (.unblocked inst.tenant) (.read inst) notes

variable (lb : LBKey) (config : Config) (tenant : Tenant) (target : Target) (notes : List Note)
  (id : InstanceID)

/-- The registration was seen in the table or put there. -/
def Known (notes : List Note) : Prop :=
  .recorded lb id ∈ held notes ∨ ∃ rows, .pending rows ∈ held notes ∧ (lb, id) ∈ rows

/-- The load balancer was found among those recorded for the instance. -/
def Attached (notes : List Note) : Prop :=
  ∃ lbs, .attached id lbs ∈ held notes ∧ lb ∈ lbs

/-- The load balancer was found in the group of the row. -/
def Grouped (notes : List Note) : Prop :=
  ∃ inst lbs, .read inst ∈ held notes ∧ inst.id = id ∧
    .grouped inst.tenant inst.group lbs ∈ held notes ∧ lb ∈ lbs

/-- The target no longer gets traffic: it was reported deregistered, or reported
draining and its tenant then found asleep. -/
def Released : Prop :=
  .reported target .deregistered ∈ held notes ∨
    After (.asleep tenant) (.reported target .draining) notes

/-- The drain of the instance has started. -/
def Drained (vm : ProviderID) (notes : List Note) : Prop :=
  ∃ inst, .read inst ∈ notes ∧ inst.id = id ∧ inst.tenant = tenant ∧ inst.providerID = some vm ∧
    (inst.drainStarted = true ∨ .drainStarted id ∈ notes)

/-- Every load balancer recorded for the instance released its target. -/
def Detached (vm : ProviderID) (notes : List Note) : Prop :=
  ∃ lbs, .attached id lbs ∈ held notes ∧
    ∀ lb ∈ lbs, config.isTunnel lb = false → Released tenant ⟨lb, vm⟩ notes

/-- The target is behind a load balancer of a group it was listed for. -/
def Listed : Prop :=
  ∃ name group vms, (name, group) ∈ config.groups tenant ∧ group.sized = true ∧
    .listed tenant name vms ∈ notes ∧ target.lb ∈ group.loadBalancers ∧
    config.isTunnel target.lb = false ∧ target.vm ∈ vms

/-- The target is one of a row that is fit for registration. -/
def Registrable : Prop :=
  ∃ inst, Cleared inst notes ∧ inst.tenant = tenant ∧ inst.drainStarted = false ∧
    inst.providerID = some target.vm ∧ Known target.lb inst.id notes ∧
    config.isTunnel target.lb = false

/-- Every target of the tenant was listed and withdrawn, and there was one if
there is a load balancer to have one behind. -/
def Withdrawn : Prop :=
  (∀ name group, (name, group) ∈ config.groups tenant → group.sized = true →
    ∃ vms, .listed tenant name vms ∈ notes ∧ ∀ lb ∈ group.loadBalancers,
      config.isTunnel lb = false → ∀ vm ∈ vms, .withdrawn ⟨lb, vm⟩ ∈ notes) ∧
  (config.hasProviderLoadBalancer tenant = true → ∃ target, .withdrawn target ∈ notes)

section

variable {config : Config} {tenant : Tenant} {id : InstanceID} {vm : ProviderID} {lb : LBKey}
  {target : Target} {notes notes' : List Note}

theorem Known.grown (known : Known lb id notes) (grown : Grown notes notes') :
    Known lb id notes' := by
  rcases known with member | ⟨rows, member, row⟩
  · exact .inl (grown.held member)
  · exact .inr ⟨rows, grown.held member, row⟩

theorem Attached.grown (attached : Attached lb id notes) (grown : Grown notes notes') :
    Attached lb id notes' := by
  obtain ⟨lbs, member, row⟩ := attached
  exact ⟨lbs, grown.held member, row⟩

theorem Released.grown (released : Released tenant target notes) (grown : Grown notes notes') :
    Released tenant target notes' :=
  released.imp grown.held grown.after

theorem Drained.mono (drained : Drained tenant id vm notes)
    (subset : ∀ note ∈ notes, note ∈ notes') : Drained tenant id vm notes' := by
  obtain ⟨inst, read, same, owner, provided, marked⟩ := drained
  exact ⟨inst, subset _ read, same, owner, provided, marked.imp_right (subset _)⟩

theorem Detached.grown (detached : Detached config tenant id vm notes)
    (grown : Grown notes notes') : Detached config tenant id vm notes' := by
  obtain ⟨lbs, attached, released⟩ := detached
  exact ⟨lbs, grown.held attached, fun lb member provider =>
    (released lb member provider).grown grown⟩

theorem Registrable.grown (registrable : Registrable config tenant target notes)
    (grown : Grown notes notes') : Registrable config tenant target notes' := by
  obtain ⟨inst, cleared, owner, live, provided, known, provider⟩ := registrable
  exact ⟨inst, grown.after cleared, owner, live, provided, known.grown grown, provider⟩

theorem Listed.mono (listed : Listed config tenant target notes)
    (subset : ∀ note ∈ notes, note ∈ notes') : Listed config tenant target notes' := by
  obtain ⟨name, group, vms, member, sized, noted, rest⟩ := listed
  exact ⟨name, group, vms, member, sized, subset _ noted, rest⟩

end

/-! ## The contract of the actions -/

/-- The operations on targets. -/
inductive Kind where
  | reconcile (id : InstanceID)
  | delete (tenant : Tenant) (id : InstanceID)
  | withdraw (tenant : Tenant)
  | restore (tenant : Tenant)

variable (config : Config)

/-- The program of an operation. -/
def Kind.program : Kind → Code Unit
  | .reconcile id => reconcileLoadBalancers config id
  | .delete tenant id => deleteInstance config tenant id
  | .withdraw tenant => beginTargetWithdrawal config tenant
  | .restore tenant => restoreTargets config tenant

/-- What a task must have noted before an action. Reads of rows that may change
at any time need no lock; the other kinds of action are not taken at all. -/
def Pre : Kind → Action → List Note → Prop
  | _, .lock, notes => holding notes = false
  | _, .unlock, notes => holding notes = true
  | .reconcile _, .getInstance _, _ => True
  | .reconcile _, .targetRegistrationBlocked _, _ => True
  | .reconcile _, .getGroup _ _, _ => True
  | .reconcile _, .getLBTargetState _, _ => True
  | .reconcile _, .getPendingOrFailedLBInstances, notes => holding notes = true
  | .reconcile _, .upsertLBInstance lb id _, notes =>
    holding notes = true ∧ (Known lb id notes ∨ Grouped lb id notes)
  | .reconcile _, .registerWithLB tenant target, notes =>
    holding notes = true ∧ Registrable config tenant target notes
  | .delete _ _, .getInstance _, _ => True
  | .delete _ id, .markDrainStarted id', _ => id' = id
  | .delete _ _, .getLBTargetState _, _ => True
  | .delete _ _, .tenantAsleep _, _ => True
  | .delete _ id, .getLBInstancesForInstance id', notes =>
    id' = id ∧ holding notes = true ∧ ∀ lbs, .attached id lbs ∉ held notes
  | .delete _ id, .upsertLBInstance lb id' _, notes =>
    id' = id ∧ holding notes = true ∧ Attached lb id notes
  | .delete _ _, .deregisterFromLB _, notes => holding notes = true
  | .delete tenant id, .deleteVM id' vm, notes => id' = id ∧ holding notes = true ∧
      Drained tenant id vm notes ∧ Detached config tenant id vm notes
  | .delete tenant id, .deleteLBInstancesForInstance id', notes => id' = id ∧
      holding notes = true ∧ ∃ vm, Drained tenant id vm notes ∧ Detached config tenant id vm notes
  | .delete tenant id, .deleteInstance id', notes => id' = id ∧
      holding notes = true ∧ ∃ vm, Drained tenant id vm notes ∧ .gone vm ∈ notes
  | .withdraw tenant, .getProviderIDsByGroup tenant' _, _ => tenant' = tenant
  | .withdraw _, .deregisterFromLB _, notes => holding notes = true
  | .withdraw _, .waitNotAccepting _, _ => True
  | .restore tenant, .getProviderIDsByGroup tenant' _, _ => tenant' = tenant
  | .restore tenant, .registerWithLB tenant' target, notes =>
    tenant' = tenant ∧ holding notes = true ∧ Listed config tenant target notes
  | _, _, _ => False

/-- A row is the one that was asked for. -/
def Answers : (action : Action) → Reply action → Prop
  | .getInstance id, .ok inst => inst.id = id
  | _, _ => True

/-- How a task of each kind may end. -/
def Post (kind : Kind) (result : Except Err Unit) (notes : List Note) : Prop :=
  holding notes = false ∧
    ∀ tenant, kind = .withdraw tenant → result = .ok () → Withdrawn config tenant notes

/-- **The contract of the actions with the notes of a task.** -/
def contract (kind : Kind) : Contract interface (List Note) where
  demand action Q notes := Pre config kind action notes ∧
    ∀ reply, Answers action reply → Q reply (learn action reply notes)
  mono := fun _ _ _ implied _ ⟨allowed, answered⟩ =>
    ⟨allowed, fun reply answers => implied _ _ (answered reply answers)⟩

end Nstance.Targets
