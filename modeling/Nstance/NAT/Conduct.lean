import Nstance.NAT.System

/-!
# What the manager does to the assignments and the routes

A method of the manager works on the copy of the assignments that it read. Nobody else
writes while it runs, so at every write the copy tells what is stored, apart from the
method's own writes. `Justified` says of every action what the method knows when it takes
it, and the properties of the manager are proved from this. Some facts hold of the
assignments whatever the manager does (`Base`).
-/

namespace Nstance.NAT

open Interaction Manager
open Program hiding act pure

/-! ## What always holds of the assignments -/

/-- IDs are generated ones, and a predecessor has one replacement. -/
structure Base (v : View) : Prop where
  issued : ∀ a ∈ v.records, a.instanceID ∈ v.issued
  predecessor : ∀ a ∈ v.records, a.replaces ≠ "" → a.replaces ∈ v.issued
  nonempty : "" ∉ v.issued
  named : ∀ r ∈ v.records, ∀ p ∈ v.records, r.replaces = p.instanceID → p.replaces = ""
  unique : ∀ r ∈ v.records, ∀ q ∈ v.records, r.replaces ≠ "" → r.replaces = q.replaces → r = q
  retiring : ∀ a ∈ v.records, a.retiring = true → a.replaces = ""
  unstamped : ∀ a ∈ v.records, a.replaces ≠ "" → a.emptySince = none

namespace Base

variable {v : View} {a b : Assignment}

theorem get_empty (base : Base v) : v.records.get "" = none := by
  rw [Assignments.get_eq_none]
  intro a mem same
  exact base.nonempty (same ▸ base.issued a mem)

theorem set (base : Base v) (mem : a ∈ v.records) (same : b.instanceID = a.instanceID)
    (replaces : b.replaces = a.replaces ∨ b.replaces = "")
    (retiring : b.retiring = true → b.replaces = "")
    (unstamped : b.replaces ≠ "" → b.emptySince = none) :
    Base { v with records := v.records.set b } where
  issued c stored := by
    rcases Assignments.mem_set.mp stored with rfl | ⟨stored, _⟩
    · exact same ▸ base.issued a mem
    · exact base.issued c stored
  predecessor c stored named := by
    rcases Assignments.mem_set.mp stored with rfl | ⟨stored, _⟩
    · rcases replaces with replaces | replaces
      · exact replaces ▸ base.predecessor a mem (replaces ▸ named)
      · exact absurd replaces named
    · exact base.predecessor c stored named
  nonempty := base.nonempty
  named r storedr p storedp names := by
    have replacesb : ∀ p ∈ v.records, b.replaces = p.instanceID → p.replaces = "" := by
      intro p memp names
      rcases replaces with replaces | replaces
      · exact base.named a mem p memp (replaces ▸ names)
      · rw [replaces] at names
        exact absurd (names ▸ base.issued p memp) base.nonempty
    have asName : ∀ r ∈ v.records, r.replaces = b.instanceID → b.replaces = "" := by
      intro r memr names
      rcases replaces with replaces | replaces
      · rw [replaces]
        exact base.named r memr a mem (names.trans same)
      · exact replaces
    rcases Assignments.mem_set.mp storedp with rfl | ⟨memp, _⟩
    · rcases Assignments.mem_set.mp storedr with rfl | ⟨memr, _⟩
      · rcases replaces with replaces | replaces
        · rw [replaces]
          exact base.named a mem a mem (replaces ▸ names.trans same)
        · exact replaces
      · exact asName r memr names
    rcases Assignments.mem_set.mp storedr with rfl | ⟨memr, _⟩
    · exact replacesb p memp names
    · exact base.named r memr p memp names
  unique r storedr q storedq pending equal := by
    have alone : ∀ q ∈ v.records, q.instanceID ≠ b.instanceID → b.replaces ≠ "" →
        b.replaces ≠ q.replaces := by
      intro q memq other pending equal
      rcases replaces with replaces | replaces
      · exact other (same ▸ congrArg Assignment.instanceID
          (base.unique a mem q memq (replaces ▸ pending) (replaces ▸ equal)).symm)
      · exact pending replaces
    rcases Assignments.mem_set.mp storedr with rfl | ⟨memr, otherr⟩
    · rcases Assignments.mem_set.mp storedq with rfl | ⟨memq, otherq⟩
      · rfl
      · exact absurd equal (alone q memq otherq pending)
    rcases Assignments.mem_set.mp storedq with rfl | ⟨memq, _⟩
    · exact absurd equal.symm (alone r memr otherr (equal ▸ pending))
    · exact base.unique r memr q memq pending equal
  retiring c stored leaves := by
    rcases Assignments.mem_set.mp stored with rfl | ⟨stored, _⟩
    · exact retiring leaves
    · exact base.retiring c stored leaves
  unstamped c stored pending := by
    rcases Assignments.mem_set.mp stored with rfl | ⟨stored, _⟩
    · exact unstamped pending
    · exact base.unstamped c stored pending

theorem erase (base : Base v) (instanceID : String) :
    Base { v with records := v.records.erase instanceID } where
  issued a stored := base.issued a (Assignments.mem_erase.mp stored).1
  predecessor a stored := base.predecessor a (Assignments.mem_erase.mp stored).1
  nonempty := base.nonempty
  named r storedr p storedp :=
    base.named r (Assignments.mem_erase.mp storedr).1 p (Assignments.mem_erase.mp storedp).1
  unique r storedr q storedq :=
    base.unique r (Assignments.mem_erase.mp storedr).1 q (Assignments.mem_erase.mp storedq).1
  retiring a stored := base.retiring a (Assignments.mem_erase.mp stored).1
  unstamped a stored := base.unstamped a (Assignments.mem_erase.mp stored).1

end Base

/-! ## What a method knows when it acts -/

/-- An ID that was generated and stands in no assignment yet. -/
structure Fresh (v : View) (instanceID : String) : Prop where
  nonempty : instanceID ≠ ""
  issued : instanceID ∈ v.issued
  unused : ∀ a ∈ v.records, a.instanceID ≠ instanceID ∧ a.replaces ≠ instanceID

variable (E : Environment) (v : View) (a : Assignment)

/-- The instance that serves its subnet, or a replacement that is to. -/
def Routable : Prop :=
  a.deleting = false ∧ (a.replaces = "" → a.retiring = false)

/-- The route of the subnet leads to the recorded VM of the instance. -/
structure Routed (E : Environment) (v : View) (a : Assignment) : Prop where
  nonempty : E.vm a.instanceID ≠ ""
  recorded : a.providerID = E.vm a.instanceID
  route : v.route a = some (E.vm a.instanceID)

/-- The tenant has no managed NAT any more. -/
def Undedicated (tenant : String) : Prop :=
  ∃ cfg, v.config = some cfg ∧ cfg.dedicated tenant = false

/-- An active instance has been without dependants for the grace period, going by
the list of instances and the clock that the method has read. -/
def Expired : Prop :=
  ∃ cfg listed now since, v.config = some cfg ∧ v.listed = some listed ∧ v.read = some now ∧
    a.emptySince = some since ∧
    (cfg.natConfig a.tenant).lastInstanceGracePeriod ≤ now - since ∧
    ∀ inst ∈ listed, inst.tenant = a.tenant → inst.subnetID = a.instanceSubnetID →
      inst.id ∈ v.issued

/-- Why an active instance may be removed. -/
def Unused : Prop :=
  E.awake a.tenant = false ∨ Undedicated v a.tenant ∨ Expired v a

/-- The predecessor of a replacement cannot take the route back. -/
def Orphaned : Prop :=
  Undedicated v a.tenant ∨ ∀ p ∈ v.records, p.instanceID = a.replaces →
    p.deleting = true ∨ p.retiring = true

/-- What the manager knows when it calls the store. -/
def Warranted : StoreCall → Prop
  | .claim _ tenant subnetID instanceID _ _ =>
    Fresh v instanceID ∧ ∀ a ∈ v.records, serves tenant subnetID a = true → active a = false
  | .claimReplacement current instanceID _ _ =>
    Fresh v instanceID ∧ ∃ a ∈ v.records, a.ownership = current.ownership ∧ a.replaces = "" ∧
      a.deleting = false ∧ a.retiring = current.retiring
  | .update instanceID (.prepared _) =>
    ∃ a ∈ v.records, a.instanceID = instanceID ∧ active a = true ∧ Routed E v a
  | .update instanceID .occupied =>
    ∃ a ∈ v.records, a.instanceID = instanceID ∧ active a = true
  | .update instanceID (.emptied now) =>
    ∃ a ∈ v.records, a.instanceID = instanceID ∧ active a = true ∧ v.read = some now
  | .update instanceID (.routed value) =>
    ∃ a ∈ v.records, a.instanceID = instanceID ∧ active a = true ∧ (value = true → Routed E v a)
  | .update instanceID (.provider providerID) =>
    ∃ a ∈ v.records, a.instanceID = instanceID ∧ Routable a ∧ providerID = E.vm instanceID ∧
      providerID ≠ ""
  | .update instanceID .deleting =>
    ∃ a ∈ v.records, a.instanceID = instanceID ∧
      (a.replaces ≠ "" → a.providerID ≠ "" → v.route a = none ∨
        ∀ p ∈ v.records, p.instanceID = a.replaces → p.routed = true → Routed E v p)
  | .promote instanceID _ =>
    ∃ a ∈ v.records, a.instanceID = instanceID ∧ a.replaces ≠ "" ∧ a.deleting = false ∧
      Routed E v a
  | .release instanceID =>
    (∀ a ∈ v.records, a.instanceID = instanceID → a.deleting = true) ∨
      ∃ a ∈ v.records, a.instanceID = instanceID ∧ a.replaces ≠ "" ∧ a.providerID = ""

/-- Why each call with an effect is made. -/
def Justified : Action → Prop
  | .store call => Warranted E v call
  | .ensureNATRoute request =>
    ∃ a ∈ v.records, request.tenant = a.tenant ∧ request.instanceSubnetID = a.instanceSubnetID ∧
      Routable a ∧ a.providerID = E.vm a.instanceID ∧ E.vm a.instanceID ≠ "" ∧
      request.providerInstanceID = E.vm a.instanceID
  | .removeNATRoute request =>
    ∃ a ∈ v.records, request.tenant = a.tenant ∧ request.instanceSubnetID = a.instanceSubnetID ∧
      request.providerInstanceID = a.providerID ∧ a.deleting = false ∧ a.retiring = false ∧
      (a.replaces = "" → Unused E v a) ∧ (a.replaces ≠ "" → Orphaned v a)
  | .deleteInstance tenant instanceID =>
    ∃ a ∈ v.records, a.tenant = tenant ∧ a.instanceID = instanceID ∧
      (active a = true → Unused E v a)
  | _ => True

/-! ## The base facts are kept -/

section

variable {E : Environment} {v v' : View}

/-- A call of the store as an operation. -/
def StoreCall.operation : StoreCall → Operation
  | .claim addresses tenant instanceSubnetID instanceID instanceType createdAt =>
    .claim addresses tenant instanceSubnetID instanceID instanceType createdAt
  | .claimReplacement current instanceID instanceType createdAt =>
    .claimReplacement current instanceID instanceType createdAt
  | .update instanceID closure => .update instanceID closure.change
  | .promote instanceID scaledAt => .promote instanceID scaledAt
  | .release instanceID => .release instanceID

variable {call : StoreCall} {result : call.Result} {after : Assignments}

theorem StoreCall.applied {s : Assignments} (done : call.apply s = .ok (result, after)) :
    Applied s call.operation after := by
  cases call with
  | claim => exact claim_applied done
  | claimReplacement => exact claimReplacement_applied done
  | update instanceID closure =>
    obtain ⟨stored, updates, same⟩ := Except.map_eq_ok.mp done
    cases same
    exact update_applied updates
  | promote instanceID scaledAt =>
    obtain ⟨stored, promotes, same⟩ := Except.map_eq_ok.mp done
    cases same
    exact promote_applied promotes
  | release instanceID =>
    cases done
    exact .released instanceID

variable {a : Assignment}

theorem active_iff :
    active a = true ↔ a.replaces = "" ∧ a.deleting = false ∧ a.retiring = false := by
  simp [active, and_assoc]

theorem Base.update (base : Base v) {closure : Closure} (mem : a ∈ v.records)
    (warranted : Warranted E v (.update a.instanceID closure)) :
    Base { v with records := v.records.set (closure.change.apply a) } := by
  cases closure with
  | prepared | occupied | routed | provider | deleting =>
    refine base.set mem rfl (.inl rfl) (base.retiring a mem) ?_
    first
      | exact base.unstamped a mem
      | exact fun _ => rfl
  | emptied now =>
    obtain ⟨b, memb, same, activeb, _⟩ := warranted
    cases Assignments.eq_of_mem memb mem same
    have replaces : a.replaces = "" := (active_iff.mp activeb).1
    exact base.set mem rfl (.inl rfl) (base.retiring a mem) fun pending => absurd replaces pending

theorem Base.add (base : Base v) (fresh : Fresh v a.instanceID)
    (retiring : a.retiring = false) (unstamped : a.emptySince = none)
    (predecessor : a.replaces ≠ "" →
      (∃ p ∈ v.records, p.instanceID = a.replaces ∧ p.replaces = "") ∧
      ∀ r ∈ v.records, r.replaces ≠ a.replaces) : Base { v with records := v.records.set a } where
  issued b stored := by
    rcases Assignments.mem_set.mp stored with rfl | ⟨stored, _⟩
    · exact fresh.issued
    · exact base.issued b stored
  predecessor b stored named := by
    rcases Assignments.mem_set.mp stored with rfl | ⟨stored, _⟩
    · obtain ⟨⟨p, mem, same, _⟩, _⟩ := predecessor named
      exact same ▸ base.issued p mem
    · exact base.predecessor b stored named
  nonempty := base.nonempty
  named r storedr p storedp names := by
    rcases Assignments.mem_set.mp storedr with rfl | ⟨memr, _⟩
    · have pending : r.replaces ≠ "" := by
        intro none
        rw [none] at names
        rcases Assignments.mem_set.mp storedp with rfl | ⟨memp, _⟩
        · exact fresh.nonempty names.symm
        · exact base.nonempty (names ▸ base.issued p memp)
      obtain ⟨⟨q, memq, same, empty⟩, _⟩ := predecessor pending
      rcases Assignments.mem_set.mp storedp with rfl | ⟨memp, _⟩
      · exact absurd (same.trans names) (fresh.unused q memq).1
      · rw [Assignments.eq_of_mem memp memq (names.symm.trans same.symm)]
        exact empty
    · rcases Assignments.mem_set.mp storedp with rfl | ⟨memp, _⟩
      · exact absurd names (fresh.unused r memr).2
      · exact base.named r memr p memp names
  unique r storedr q storedq pending equal := by
    rcases Assignments.mem_set.mp storedr with rfl | ⟨memr, _⟩
    · rcases Assignments.mem_set.mp storedq with rfl | ⟨memq, _⟩
      · rfl
      · exact absurd equal.symm ((predecessor pending).2 q memq)
    rcases Assignments.mem_set.mp storedq with rfl | ⟨memq, _⟩
    · exact absurd equal ((predecessor (equal ▸ pending)).2 r memr)
    · exact base.unique r memr q memq pending equal
  retiring b stored leaves := by
    rcases Assignments.mem_set.mp stored with rfl | ⟨stored, _⟩
    · rw [retiring] at leaves
      cases leaves
    · exact base.retiring b stored leaves
  unstamped b stored pending := by
    rcases Assignments.mem_set.mp stored with rfl | ⟨stored, _⟩
    · exact unstamped
    · exact base.unstamped b stored pending

theorem instanceID_of_ownership {a b : Assignment} (owned : a.ownership = b.ownership) :
    a.instanceID = b.instanceID :=
  congrArg Ownership.instanceID owned

theorem Base.stored (base : Base v) (warranted : Warranted E v call)
    (done : call.apply v.records = .ok (result, after)) : Base { v with records := after } := by
  have applied := StoreCall.applied done
  cases call with
  | claim =>
    cases applied with
    | same => exact base
    | claimed =>
      exact base.add warranted.1 rfl rfl fun pending => absurd rfl pending
  | claimReplacement =>
    cases applied with
    | same => exact base
    | replacing _ alone =>
      obtain ⟨fresh, a, mem, owned, empty, _⟩ := warranted
      exact base.add fresh rfl rfl fun _ =>
        ⟨⟨a, mem, instanceID_of_ownership owned, empty⟩, alone⟩
  | update =>
    cases applied with
    | same => exact base
    | updated stored =>
      obtain ⟨mem, rfl⟩ := Assignments.get_eq_some.mp stored
      exact base.update mem warranted
  | promote =>
    cases applied with
    | same => exact base
    | @promoted _ scaledAt replacement previous stored named present =>
      obtain ⟨memr, rfl⟩ := Assignments.get_eq_some.mp stored
      obtain ⟨memp, same⟩ := Assignments.get_eq_some.mp present
      have empty : previous.replaces = "" := base.named replacement memr previous memp same.symm
      have retired : Base { v with records := v.records.set previous.retire } :=
        base.set memp rfl (.inl rfl) (fun _ => empty) fun pending => absurd empty pending
      have other : replacement.instanceID ≠ previous.instanceID := by
        intro equal
        rw [Assignments.eq_of_mem memr memp equal] at named
        exact named empty
      have kept : replacement ∈ v.records.set previous.retire :=
        Assignments.mem_set.mpr (.inr ⟨memr, other⟩)
      exact retired.set kept rfl (.inr rfl) (fun _ => rfl) fun pending => absurd rfl pending
  | release instanceID =>
    cases applied with
    | same => exact base
    | released => exact base.erase instanceID

theorem Base.seen (base : Base v) {action : Action} {reply : Reply action}
    (justified : Justified E v action) (seen : Seen E v action reply v') : Base v' := by
  cases seen with
  | stored done | storedLost _ done => exact base.stored justified done
  | @id _ instanceID nonempty fresh =>
    refine ⟨?_, ?_, ?_, base.named, base.unique, base.retiring, base.unstamped⟩
    · intro a mem
      exact List.mem_cons_of_mem _ (base.issued a mem)
    · intro a mem named
      exact List.mem_cons_of_mem _ (base.predecessor a mem named)
    · intro mem
      rcases List.mem_cons.mp mem with same | mem
      · exact nonempty same.symm
      · exact base.nonempty mem
  | _ => exact ⟨base.issued, base.predecessor, base.nonempty, base.named, base.unique,
      base.retiring, base.unstamped⟩

end

/-! ## The contract of the actions -/

/-- An action is justified, given the base facts, and anything may come of it that
the environment allows. -/
def contract (E : Environment) : Contract interface View where
  demand action Q v := Base v → Justified E v action ∧
    ∀ reply v', Seen E v action reply v' → Q reply v'
  mono := by
    intro action P Q implied v holds base
    refine ⟨(holds base).1, ?_⟩
    intro reply v' seen
    exact implied reply v' ((holds base).2 reply v' seen)

/-- A condition on the value of a program that ends without an error. -/
def Done {α : Type} (Q : α → View → Prop) : Except Err α → View → Prop
  | .ok value, v => Q value v
  | .error _, _ => True

section

variable {E : Environment} {v : View} {α β : Type} {Q : α → View → Prop} {program : Code α}
  {context instanceID : String}

theorem wp_bind_done {P : β → View → Prop} {rest : α → Code β}
    (holds : wp (contract E) (Done fun value => wp (contract E) (Done P) (rest value)) program v) :
    wp (contract E) (Done P) (program >>= rest) v := by
  refine wp_then (wp_mono ?_ program v holds)
  intro result after
  cases result with
  | ok value => exact id
  | error error => exact fun _ => trivial

theorem wp_wrapping (holds : wp (contract E) (Done Q) program v) :
    wp (contract E) (Done Q) (wrapping context program) v := by
  refine wp_else (wp_mono ?_ program v holds)
  intro result after
  cases result with
  | ok value => exact id
  | error error => exact fun _ => trivial

theorem wp_done_mono {P : α → View → Prop} (implied : ∀ value after, P value after → Q value after)
    (holds : wp (contract E) (Done P) program v) : wp (contract E) (Done Q) program v := by
  refine wp_mono ?_ program v holds
  intro result after
  cases result with
  | ok value => exact implied value after
  | error error => exact fun _ => trivial

variable {post : Except Err α → View → Prop}

theorem wp_attempt {action : Action} {read : Reply action → Except Err α}
    (holds : Base v → Justified E v action ∧
      ∀ reply v', Seen E v action reply v' → post (read reply) v') :
    wp (contract E) post (attempt action read) v := by
  intro base
  refine ⟨(holds base).1, ?_⟩
  intro reply v' seen
  exact (wp_ofExcept _ _).mpr ((holds base).2 reply v' seen)

theorem wp_act_bind (action : Action) (rest : Reply action → Code α)
    (holds : Base v → Justified E v action ∧
      ∀ reply v', Seen E v action reply v' → wp (contract E) post (rest reply) v') :
    wp (contract E) post (act action >>= rest) v :=
  holds

theorem wp_getCurrent_bind {rest : Config → Code α}
    (holds : Base v → ∀ cfg, wp (contract E) (Done Q) (rest cfg) { v with config := some cfg }) :
    wp (contract E) (Done Q) (act .getCurrent >>= rest) v := by
  refine wp_act_bind .getCurrent rest ?_
  intro base
  refine ⟨trivial, ?_⟩
  intro reply v' seen
  cases seen
  exact holds base _

theorem wp_assignments_bind {rest : Assignments → Code α}
    (holds : Base v → wp (contract E) (Done Q) (rest v.records) v) :
    wp (contract E) (Done Q) (assignments >>= rest) v := by
  refine wp_bind_done (wp_attempt ?_)
  intro base
  refine ⟨trivial, ?_⟩
  intro reply v' seen
  cases seen with
  | loaded => exact holds base
  | notLoaded => trivial

theorem wp_getInstance_bind {rest : Except Err Instance → Code α}
    (holds : Base v → ∀ reply, (∀ inst, reply = .ok inst → Genuine E instanceID inst) →
      wp (contract E) (Done Q) (rest reply) v) :
    wp (contract E) (Done Q) (getInstance instanceID >>= rest) v := by
  refine wp_act_bind (.getInstance instanceID) rest ?_
  intro base
  refine ⟨trivial, ?_⟩
  intro reply v' seen
  cases seen with
  | inst genuine =>
    refine holds base _ ?_
    intro inst same
    cases same
    exact genuine
  | noInst => exact holds base _ (by simp)

theorem wp_now_bind {rest : Time → Code α} (holds : Base v → ∀ now,
      wp (contract E) (Done Q) (rest now) { v with read := v.read.or (some now) }) :
    wp (contract E) (Done Q) (now >>= rest) v := by
  refine wp_act_bind .now rest ?_
  intro base
  refine ⟨trivial, ?_⟩
  intro reply v' seen
  cases seen
  exact holds base _

theorem wp_tenantAsleep_bind {tenant : String} {rest : Bool → Code α}
    (holds : ∀ asleep : Bool, (asleep = true → E.awake tenant = false) →
      wp (contract E) (Done Q) (rest asleep) v) :
    wp (contract E) (Done Q) (act (.tenantAsleep tenant) >>= rest) v := by
  refine wp_act_bind (.tenantAsleep tenant) rest ?_
  intro _
  refine ⟨trivial, ?_⟩
  intro reply v' seen
  cases seen with
  | asleep possible => exact holds _ possible

theorem wp_range_bind {entries : List Assignment} {rest : List Assignment → Code α}
    (holds : Base v → ∀ order, order.Perm entries → wp (contract E) (Done Q) (rest order) v) :
    wp (contract E) (Done Q) (range entries >>= rest) v := by
  refine wp_act_bind (.range entries) rest ?_
  intro base
  refine ⟨trivial, ?_⟩
  intro reply v' seen
  cases seen with
  | order same => exact holds base _ same

theorem wp_readMemory_bind {rest : Memory → Code α}
    (holds : ∀ memory, wp (contract E) (Done Q) (rest memory) v) :
    wp (contract E) (Done Q) (act .readMemory >>= rest) v := by
  refine wp_act_bind .readMemory rest ?_
  intro base
  refine ⟨trivial, ?_⟩
  intro reply v' seen
  cases seen
  exact holds _

variable {post : Except Err Unit → View → Prop}

theorem wp_remember {memory : Memory}
    (holds : post (.ok ()) v) : wp (contract E) post (act (.remember memory)) v := by
  intro base
  refine ⟨trivial, ?_⟩
  intro reply v' seen
  cases seen
  exact holds

theorem wp_found {reply : Except Err Instance} {Q : Option Instance → View → Prop}
    (holds : ∀ found, (∀ inst, found = some inst → reply = .ok inst) → Q found v) :
    wp (contract E) (Done Q) (found context reply) v := by
  cases reply with
  | ok inst => exact holds (some inst) (by simp)
  | error error =>
    rw [found]
    split
    · exact holds none (by simp)
    · trivial

/-- The rule for a call of the store: it is warranted, and where it ends without an
error the document is the one it leaves. -/
theorem wp_store {call : StoreCall} {Q : call.Result → View → Prop}
    (warranted : Base v → Warranted E v call)
    (done : Base v → ∀ result after, call.apply v.records = .ok (result, after) →
      Q result { v with records := after }) :
    wp (contract E) (Done Q) (attempt (.store call) id) v := by
  refine wp_attempt ?_
  intro base
  refine ⟨warranted base, ?_⟩
  intro reply v' seen
  cases seen with
  | stored applied => exact done base _ _ applied
  | storedLost | notStored => trivial

theorem wp_update {closure : Closure} {a : Assignment} {Q : Unit → View → Prop}
    (mem : a ∈ v.records) (same : a.instanceID = instanceID)
    (warranted : Base v → Warranted E v (.update instanceID closure))
    (done : Q () { v with records := v.records.set (closure.change.apply a) }) :
    wp (contract E) (Done Q) (Manager.update instanceID closure) v := by
  refine wp_store warranted ?_
  intro base result after applied
  have stored : v.records.get instanceID = some a := Assignments.get_eq_some.mpr ⟨mem, same⟩
  simp only [StoreCall.apply, NAT.update, stored, Except.map, Except.ok.injEq] at applied
  cases applied
  exact done

theorem wp_release {Q : Unit → View → Prop}
    (warranted : Base v → Warranted E v (.release instanceID))
    (done : Q () { v with records := v.records.erase instanceID }) :
    wp (contract E) (Done Q) (Manager.release instanceID) v := by
  refine wp_store warranted ?_
  intro base result after applied
  cases applied
  exact done

theorem wp_newID_bind {kind : String} {rest : String → Code α}
    (holds : ∀ instanceID, Fresh { v with issued := instanceID :: v.issued } instanceID →
      wp (contract E) (Done Q) (rest instanceID) { v with issued := instanceID :: v.issued }) :
    wp (contract E) (Done Q) (wrapping context (newID kind) >>= rest) v := by
  refine wp_bind_done (wp_wrapping (wp_attempt ?_))
  intro base
  refine ⟨trivial, ?_⟩
  intro reply v' seen
  cases seen with
  | @id _ instanceID nonempty fresh =>
    refine holds instanceID ⟨nonempty, List.mem_cons_self, ?_⟩
    intro a mem
    refine ⟨fun same => fresh (same ▸ base.issued a mem), ?_⟩
    intro same
    exact fresh (same ▸ base.predecessor a mem (same ▸ nonempty))
  | noID => trivial

theorem wp_createNATInstance {request : CreateInstanceRequest} (holds : ∀ reply, post reply v) :
    wp (contract E) post (createNATInstance request) v := by
  refine wp_attempt ?_
  intro base
  refine ⟨trivial, ?_⟩
  intro reply v' seen
  cases seen
  exact holds _

end

end Nstance.NAT
