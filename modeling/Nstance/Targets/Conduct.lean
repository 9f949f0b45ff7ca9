import Nstance.Targets.Knowledge

/-!
# The operations keep to their contract

One specification for each function, up to the four kinds of task (`program_conducts`).
Most of a function only adds to what its task knows (`Grown`); the specifications say what
the rest of the task relies on.
-/

namespace Nstance.Targets

open Interaction
open Program hiding pure bind
open TenantState (Tenant Err)

/-! ## Actions -/

/-- An action other than those on `lbMu`. -/
def Action.plain : Action → Bool
  | .lock => false
  | .unlock => false
  | _ => true

section

variable {config : Config} {kind : Kind} {α : Type} {notes base : List Note}

/-- The actions that leave a note. -/
def Note.Of : Note → Action → Prop
  | .locked, action => action = .lock
  | .unlocked, action => action = .unlock
  | .read _, action => ∃ id, action = .getInstance id
  | .drainStarted id, action => action = .markDrainStarted id
  | .listed tenant group _, action => action = .getProviderIDsByGroup tenant group
  | .recorded lb id, action => ∃ status, action = .upsertLBInstance lb id status
  | .pending _, action => action = .getPendingOrFailedLBInstances
  | .attached id _, action => action = .getLBInstancesForInstance id
  | .grouped tenant group _, action => action = .getGroup tenant group
  | .unblocked tenant, action => action = .targetRegistrationBlocked tenant
  | .asleep tenant, action => action = .tenantAsleep tenant
  | .reported target _, action => action = .getLBTargetState target
  | .withdrawn target, action => action = .deregisterFromLB target
  | .gone vm, action => ∃ id, action = .deleteVM id vm

variable {action : Action} {program : Code α} {P : Action → Prop} {noted : Note}
  {post : Except Err α → List Note → Prop} {body : Code Unit}

theorem note_of {reply : Reply action} (taken : note action reply = some noted) :
    noted.Of action := by
  cases action with
  | lock | unlock =>
    cases taken
    rfl
  | waitNotAccepting | registerWithLB | deleteLBInstancesForInstance | deleteInstance => cases taken
  | targetRegistrationBlocked tenant | tenantAsleep tenant =>
    cases (reply : Bool) <;> cases taken
    rfl
  | deleteVM id vm =>
    cases (reply : Except Err Unit) with
    | ok =>
      cases taken
      exact ⟨id, rfl⟩
    | error error =>
      simp only [note] at taken
      split at taken <;> cases taken
      exact ⟨id, rfl⟩
  | getInstance | upsertLBInstance =>
    cases (reply : Except Err _) <;> cases taken
    exact ⟨_, rfl⟩
  | _ =>
    cases (reply : Except Err _) <;> cases taken
    rfl

theorem note_plain (plain : action.plain = true) {reply : Reply action}
    (taken : note action reply = some noted) : noted.plain = true := by
  have of := note_of taken
  cases noted with
  | locked | unlocked =>
    cases of
    cases plain
  | _ => rfl

theorem learn_grown (action : Action) (plain : action.plain = true) (reply : Reply action)
    (notes : List Note) : Grown notes (learn action reply notes) := by
  cases taken : note action reply with
  | none =>
    rw [learn, taken]
    exact .refl notes
  | some noted =>
    rw [learn, taken]
    exact (Grown.refl notes).cons (note_plain plain taken)

theorem wp_call {result : Reply action → Except Err α} :
    wp (contract config kind) post (call action result) notes ↔
      Pre config kind action notes ∧ ∀ reply, Answers action reply →
        post (result reply) (learn action reply notes) := by
  constructor
  · rintro ⟨allowed, answered⟩
    exact ⟨allowed, fun reply answers => (wp_ofExcept _ _).mp (answered reply answers)⟩
  · rintro ⟨allowed, answered⟩
    exact ⟨allowed, fun reply answers => (wp_ofExcept _ _).mpr (answered reply answers)⟩

theorem wp_wrapping {context : String}
    (same : ∀ error after, post (.error error) after → post (.error (.wrap context error)) after)
    (spec : wp (contract config kind) post program notes) :
    wp (contract config kind) post (wrapping context program) notes := by
  refine wp_else (wp_mono (fun result after holds => ?_) _ _ spec)
  cases result with
  | ok value => exact holds
  | error error => exact same error after holds

variable {post : Except Err Unit → List Note → Prop}

theorem wp_ignoring {program : Code Unit}
    (spec : wp (contract config kind) (fun _ => post (.ok ())) program notes) :
    wp (contract config kind) post (ignoring program) notes := by
  refine wp_else (wp_mono (fun result after holds => ?_) _ _ spec)
  cases result with
  | ok | error => exact holds

theorem wp_withLock (free : holding notes = false) (spec : wp (contract config kind)
      (fun result after => holding after = true ∧ post result (.unlocked :: after)) body
      (.locked :: notes)) : wp (contract config kind) post (withLock body) notes := by
  refine wp_then ⟨free, fun _ _ => wp_then (wp_else ?_)⟩
  refine wp_mono (fun result after holds => ?_) _ _ spec
  cases result with
  | ok value => exact ⟨holds.1, fun _ _ => holds.2⟩
  | error error => exact wp_then ⟨holds.1, fun _ _ => holds.2⟩

/-- The task may take the action, now and whatever plain notes it adds. -/
def Allowed (config : Config) (kind : Kind) (base : List Note) (action : Action) : Prop :=
  action.plain = true ∧ ∀ notes, Grown base notes → Pre config kind action notes

theorem wp_of_uses (uses : Uses (Allowed config kind base) program) :
    wp (contract config kind) (fun _ after => Grown base after) program base :=
  uses.wp_of_keeps (C := contract config kind) (J := Grown base)
    (fun action ⟨plain, allowed⟩ notes grown =>
    ⟨allowed notes grown, fun reply _ => grown.trans (learn_grown action plain reply notes)⟩)
    base (.refl base)

theorem uses_call (result : Reply action → Except Err α) (allowed : P action) :
    Uses P (call action result) :=
  ⟨allowed, fun reply => uses_ofExcept (result reply)⟩

theorem uses_wrapping (context : String) (uses : Uses P program) :
    Uses P (wrapping context program) :=
  uses.recover fun _ => trivial

theorem uses_ignoring {program : Code Unit} (uses : Uses P program) : Uses P (ignoring program) :=
  uses.recover fun _ => trivial

theorem uses_withLock (locks : P .lock) (unlocks : P .unlock) (uses : Uses P body) :
    Uses P (withLock body) := by
  have unlocking : Uses P unlock := ⟨unlocks, fun _ => trivial⟩
  refine Uses.bind ⟨locks, fun _ => trivial⟩ fun _ => Uses.bind ?_ fun _ => unlocking
  exact uses.recover fun _ => unlocking.bind fun _ => trivial

end

theorem Post.error {config : Config} {kind : Kind} {error error' : Err} {notes : List Note}
    (post : Post config kind (.error error) notes) : Post config kind (.error error') notes :=
  ⟨post.1, fun _ _ impossible => nomatch impossible⟩

theorem isTunnel_eq {config : Config} {lb : LBKey} {balancer : LoadBalancer}
    (configured : config.loadBalancers.lookup lb = some balancer) :
    config.isTunnel lb = balancer.tunnel := by
  rw [Config.isTunnel, configured]
  rfl

/-! ## Registration -/

section

variable {config : Config} {id : InstanceID} {inst : Instance} {lb : LBKey} {notes : List Note}

theorem reconcileLoadBalancerTarget_uses {P : Action → Prop}
    (polls : ∀ target, P (.getLBTargetState target))
    (registers : ∀ vm balancer, inst.providerID = some vm →
      config.loadBalancers.lookup lb = some balancer → balancer.tunnel = false →
        P (.registerWithLB inst.tenant ⟨lb, vm⟩))
    (records : ∀ status, P (.upsertLBInstance lb inst.id status)) :
    Uses P (reconcileLoadBalancerTarget config inst lb) := by
  unfold reconcileLoadBalancerTarget
  cases provided : inst.providerID with
  | none => trivial
  | some vm =>
    cases configured : config.loadBalancers.lookup lb with
    | none => trivial
    | some balancer =>
      dsimp only
      split
      · trivial
      rename_i cloud
      have provider : balancer.tunnel = false := Bool.eq_false_iff.mpr cloud
      have polled : Uses P (getLBTargetState ⟨lb, vm⟩) := uses_call _ (polls _)
      refine (uses_wrapping _ polled).bind fun found => ?_
      split
      · trivial
      refine Uses.bind ?_ fun state => ?_
      · split
        · trivial
        refine Uses.bind ?_ fun _ => uses_wrapping _ polled
        have registered := registers vm balancer provided configured provider
        refine Uses.recover (uses_call _ registered) fun cause => ?_
        exact (uses_ignoring (uses_call _ (records _))).bind fun _ => trivial
      · split
        · trivial
        · exact uses_wrapping _ (uses_call _ (records _))

theorem reconcileLoadBalancerTarget_spec (holds : holding notes = true)
    (cleared : Cleared inst notes) (live : inst.drainStarted = false)
    (known : Known lb inst.id notes) :
    wp (contract config (.reconcile id)) (fun _ after => Grown notes after)
      (reconcileLoadBalancerTarget config inst lb) notes := by
  refine wp_of_uses (reconcileLoadBalancerTarget_uses ?_ ?_ ?_)
  · exact fun target => ⟨rfl, fun _ _ => trivial⟩
  · intro vm balancer provided configured provider
    refine ⟨rfl, fun after grown => ⟨grown.holding.trans holds, ?_⟩⟩
    have registrable : Registrable config inst.tenant ⟨lb, vm⟩ notes :=
      ⟨inst, cleared, rfl, live, provided, known, (isTunnel_eq configured).trans provider⟩
    exact registrable.grown grown
  · exact fun status =>
      ⟨rfl, fun after grown => ⟨grown.holding.trans holds, .inl (known.grown grown)⟩⟩

theorem registerGroup_spec {lbs : List LBKey} (rest : List LBKey) :
    ∀ {notes : List Note}, rest ⊆ lbs → holding notes = true → Cleared inst notes →
      inst.drainStarted = false → .grouped inst.tenant inst.group lbs ∈ held notes →
      wp (contract config (.reconcile id)) (fun _ after => Grown notes after)
        (registerGroup config inst rest) notes := by
  induction rest with
  | nil => exact fun _ _ _ _ _ => .refl _
  | cons lb rest ih =>
    intro notes subset holds cleared live grouped
    have here : Grouped lb inst.id notes :=
      ⟨inst, lbs, cleared.earlier_mem, rfl, grouped, subset List.mem_cons_self⟩
    have later : ∀ after, Grown notes after →
        wp (contract config (.reconcile id)) (fun _ end_ => Grown notes end_)
          (registerGroup config inst rest) after := by
      intro after grown
      refine wp_mono (fun _ _ further => grown.trans further) _ _ ?_
      exact ih (fun lb member => subset (List.mem_cons_of_mem _ member))
        (grown.holding.trans holds) (grown.after cleared) live (grown.held grouped)
    refine wp_then (wp_ignoring (wp_then (wp_call.mpr ⟨⟨holds, .inr here⟩, ?_⟩)))
    intro (reply : Except Err Unit) _
    have grown := learn_grown (.upsertLBInstance lb inst.id .pending) rfl reply notes
    cases reply with
    | error error => exact later _ grown
    | ok =>
      refine wp_mono (fun _ _ further => later _ (grown.trans further)) _ _ ?_
      refine reconcileLoadBalancerTarget_spec (grown.holding.trans holds)
        (grown.after cleared) live (.inl ?_)
      exact List.mem_cons_self

theorem retryPending_spec {rows : List (LBKey × InstanceID)} (rest : List (LBKey × InstanceID)) :
    ∀ {notes : List Note}, rest ⊆ rows → holding notes = true → .pending rows ∈ held notes →
      wp (contract config (.reconcile id)) (fun _ after => Grown notes after)
        (retryPending config rest) notes := by
  induction rest with
  | nil => exact fun _ _ _ => .refl _
  | cons row rest ih =>
    obtain ⟨lb, other⟩ := row
    intro notes subset holds pending
    have later : ∀ after, Grown notes after →
        wp (contract config (.reconcile id)) (fun _ end_ => Grown notes end_)
          (retryPending config rest) after := by
      intro after grown
      refine wp_mono (fun _ _ further => grown.trans further) _ _ ?_
      exact ih (fun row member => subset (List.mem_cons_of_mem _ member))
        (grown.holding.trans holds) (grown.held pending)
    refine wp_then (wp_ignoring (wp_then (wp_call.mpr ⟨trivial, ?_⟩)))
    intro (reply : Except Err Instance) answers
    have read := learn_grown (.getInstance other) rfl reply notes
    cases reply with
    | error error => exact later _ read
    | ok inst =>
      obtain rfl : inst.id = other := answers
      rw [then_ok]
      split
      · exact later _ read
      rename_i fit
      refine wp_then ⟨trivial, ?_⟩
      intro (blocked : Bool) _
      have asked := read.trans (learn_grown (.targetRegistrationBlocked inst.tenant) rfl blocked _)
      cases blocked with
      | true => exact later _ asked
      | false =>
        refine wp_mono (fun _ _ further => later _ (asked.trans further)) _ _ ?_
        refine reconcileLoadBalancerTarget_spec (asked.holding.trans holds)
          (.cons rfl List.mem_cons_self) (by simpa using (not_or.mp fit).2) ?_
        exact .inr ⟨rows, asked.held pending, subset List.mem_cons_self⟩

theorem reconcileOwn_spec (holds : holding notes = true) (read : .read inst ∈ held notes)
    (live : inst.drainStarted = false) :
    wp (contract config (.reconcile id)) (fun _ after => Grown notes after)
      (reconcileOwn config inst) notes := by
  refine wp_then ⟨trivial, ?_⟩
  intro (blocked : Bool) _
  have asked := learn_grown (.targetRegistrationBlocked inst.tenant) rfl blocked notes
  cases blocked with
  | true => exact asked
  | false =>
    have cleared : Cleared inst (.unblocked inst.tenant :: notes) := .cons rfl read
    refine wp_then (wp_else (wp_then (wp_call.mpr ⟨trivial, ?_⟩)))
    intro (reply : Except Err (List LBKey)) _
    have looked := learn_grown (.getGroup inst.tenant inst.group) rfl reply
      (.unblocked inst.tenant :: notes)
    cases reply with
    | error error => exact asked.trans looked
    | ok lbs =>
      have grown := asked.trans looked
      exact wp_seq (registerGroup_spec lbs (List.Subset.refl lbs) (grown.holding.trans holds)
        (looked.after cleared) live List.mem_cons_self) (fun _ _ => grown.trans)
        fun _ _ => grown.trans

theorem reconcileLoadBalancers_spec :
    wp (contract config (.reconcile id)) (Post config (.reconcile id))
      (reconcileLoadBalancers config id) [] := by
  have done : ∀ {result : Except Err Unit} {after : List Note}, Grown [.locked] after →
      holding after = true ∧ Post config (.reconcile id) result (.unlocked :: after) :=
    fun grown => ⟨grown.holding, rfl, nofun⟩
  refine wp_withLock rfl (wp_then (wp_wrapping (fun _ _ ⟨on, post⟩ => ⟨on, post.error⟩) ?_))
  refine wp_call.mpr ⟨trivial, ?_⟩
  intro (reply : Except Err Instance) _
  have read := learn_grown (.getInstance id) rfl reply [.locked]
  cases reply with
  | error error => exact done read
  | ok inst =>
    rw [then_ok]
    split
    · exact done read
    rename_i live
    split
    · exact done read
    refine wp_then (wp_mono (fun result after further => ?_) _ _
      (reconcileOwn_spec rfl List.mem_cons_self (Bool.eq_false_iff.mpr live)))
    have grown := read.trans further
    cases result with
    | error error => exact done grown
    | ok goOn =>
      cases goOn with
      | false => exact done grown
      | true =>
        refine wp_then (wp_wrapping (fun _ _ ⟨on, post⟩ => ⟨on, post.error⟩)
          (wp_call.mpr ⟨grown.holding, ?_⟩))
        intro (reply : Except Err (List (LBKey × InstanceID))) _
        have found := grown.trans (learn_grown .getPendingOrFailedLBInstances rfl reply after)
        cases reply with
        | error error => exact done found
        | ok rows =>
          refine wp_mono (fun _ _ further => done (found.trans further)) _ _ ?_
          exact retryPending_spec rows (List.Subset.refl rows) found.holding List.mem_cons_self

end

/-! ## Deletion -/

section

variable {config : Config} {inst : Instance} {vm : ProviderID} {lb : LBKey} {notes : List Note}

theorem polls_spec {kind : Kind} {target : Target} {context : String}
    (allowed : Pre config kind (.getLBTargetState target) notes) :
    wp (contract config kind) (fun result after => Grown notes after ∧
        ∀ state, result = .ok state → .reported target state ∈ held after)
      (wrapping context (getLBTargetState target)) notes := by
  refine wp_wrapping (fun _ _ holds => ⟨holds.1, nofun⟩) (wp_call.mpr ⟨allowed, ?_⟩)
  intro (reply : Except Err TargetState) _
  refine ⟨learn_grown (.getLBTargetState target) rfl reply notes, ?_⟩
  rintro state rfl
  exact List.mem_cons_self

section

variable (holds : holding notes = true) (attached : Attached lb inst.id notes)
include holds attached

theorem dropTarget_spec {found : TargetState} (reported : .reported ⟨lb, vm⟩ found ∈ held notes) :
    wp (contract config (.delete inst.tenant inst.id)) (fun result after => Grown notes after ∧
        ∀ state, result = .ok state → .reported ⟨lb, vm⟩ state ∈ held after)
      (dropTarget inst vm lb found) notes := by
  unfold dropTarget
  split
  · refine ⟨.refl notes, fun state same => ?_⟩
    cases same
    exact reported
  refine wp_then (wp_else (wp_call.mpr ⟨holds, ?_⟩))
  intro (reply : Except Err Unit) _
  have asked := learn_grown (.deregisterFromLB ⟨lb, vm⟩) rfl reply notes
  cases reply with
  | ok =>
    exact wp_mono (fun _ _ ⟨more, rest⟩ => ⟨asked.trans more, rest⟩) _ _ (polls_spec trivial)
  | error error =>
    refine wp_then (wp_ignoring (wp_call.mpr
      ⟨⟨rfl, asked.holding.trans holds, attached.grown asked⟩, fun reply _ => ?_⟩))
    exact ⟨asked.trans (learn_grown (.upsertLBInstance lb inst.id .failed) rfl reply _), nofun⟩

theorem acceptDropped_spec {state : TargetState} (reported : .reported ⟨lb, vm⟩ state ∈ held notes)
    :
    wp (contract config (.delete inst.tenant inst.id)) (fun result after => Grown notes after ∧
        (result = .ok () → Released inst.tenant ⟨lb, vm⟩ after))
      (acceptDropped inst lb state) notes := by
  unfold acceptDropped
  by_cases draining : state = .draining
  · subst draining
    refine wp_then ⟨trivial, ?_⟩
    intro (excused : Bool) _
    have asked := learn_grown (.tenantAsleep inst.tenant) rfl excused notes
    cases excused with
    | true => exact ⟨asked, fun _ => .inr (.cons rfl reported)⟩
    | false => exact ⟨asked, nofun⟩
  rw [if_neg draining]
  by_cases gone : state = .deregistered
  · subst gone
    refine wp_wrapping (fun _ _ holds => ⟨holds.1, nofun⟩)
      (wp_call.mpr ⟨⟨rfl, holds, attached⟩, fun reply _ => ?_⟩)
    have grown := learn_grown (.upsertLBInstance lb inst.id .deregistered) rfl reply notes
    exact ⟨grown, fun _ => .inl (grown.held reported)⟩
  · simp only [ne_eq, gone, not_false_eq_true, if_true]
    exact ⟨.refl notes, nofun⟩

theorem deregisterFrom_spec :
    wp (contract config (.delete inst.tenant inst.id)) (fun result after => Grown notes after ∧
        (result = .ok () → config.isTunnel lb = false → Released inst.tenant ⟨lb, vm⟩ after))
      (deregisterFrom config inst vm lb) notes := by
  unfold deregisterFrom
  cases configured : config.loadBalancers.lookup lb with
  | none => exact ⟨.refl notes, nofun⟩
  | some balancer =>
    dsimp only
    split
    · rename_i tunnel
      refine ⟨.refl notes, fun _ provider => ?_⟩
      rw [isTunnel_eq configured, tunnel] at provider
      cases provider
    refine wp_seq (polls_spec trivial) (fun _ _ polled => ⟨polled.1, nofun⟩) ?_
    intro found first ⟨grown, reported⟩
    refine wp_seq (dropTarget_spec (grown.holding.trans holds) (attached.grown grown)
      (reported found rfl))
      (fun _ _ dropped => ⟨grown.trans dropped.1, nofun⟩) ?_
    intro state second ⟨further, confirmed⟩
    have grown := grown.trans further
    refine wp_mono (fun _ _ rest => ?_) _ _
      (acceptDropped_spec (grown.holding.trans holds) (attached.grown grown) (confirmed state rfl))
    exact ⟨grown.trans rest.1, fun ok _ => rest.2 ok⟩

end

theorem deregisterFromEach_spec (lbs : List LBKey) :
    ∀ {notes : List Note}, holding notes = true → (∀ lb ∈ lbs, Attached lb inst.id notes) →
      wp (contract config (.delete inst.tenant inst.id)) (fun result after => Grown notes after ∧
          (result = .ok () → ∀ lb ∈ lbs, config.isTunnel lb = false →
            Released inst.tenant ⟨lb, vm⟩ after))
        (deregisterFromEach config inst vm lbs) notes := by
  induction lbs with
  | nil => exact fun _ _ => ⟨.refl _, fun _ _ member => absurd member List.not_mem_nil⟩
  | cons lb lbs ih =>
    intro notes holds attached
    refine wp_seq (deregisterFrom_spec holds (attached lb List.mem_cons_self))
      (fun _ _ dropped => ⟨dropped.1, nofun⟩) ?_
    intro _ first ⟨grown, released⟩
    refine wp_mono (fun result last rest => ?_) _ _
      (ih (grown.holding.trans holds) fun other member =>
        (attached other (List.mem_cons_of_mem _ member)).grown grown)
    refine ⟨grown.trans rest.1, fun ok other member provider => ?_⟩
    rcases List.mem_cons.mp member with rfl | earlier
    · exact (released rfl provider).grown rest.1
    · exact rest.2 ok other earlier provider

theorem deregisterInstanceFromLB_spec (holds : holding notes = true)
    (first : ∀ lbs, .attached inst.id lbs ∉ held notes) :
    wp (contract config (.delete inst.tenant inst.id)) (fun result after => Grown notes after ∧
        (result = .ok () → Detached config inst.tenant inst.id vm after))
      (deregisterInstanceFromLB config inst vm) notes := by
  refine wp_then (wp_wrapping (fun _ _ holds => ⟨holds.1, nofun⟩)
    (wp_call.mpr ⟨⟨rfl, holds, first⟩, ?_⟩))
  intro (reply : Except Err (List LBKey)) _
  have grown := learn_grown (.getLBInstancesForInstance inst.id) rfl reply notes
  cases reply with
  | error error => exact ⟨grown, nofun⟩
  | ok lbs =>
    have attached : .attached inst.id lbs ∈
        held (learn (.getLBInstancesForInstance inst.id) (.ok lbs) notes) := List.mem_cons_self
    refine wp_mono (fun result last rest => ?_) _ _ (deregisterFromEach_spec lbs
      (grown.holding.trans holds) fun lb member => ⟨lbs, attached, member⟩)
    exact ⟨grown.trans rest.1, fun ok => ⟨lbs, rest.1.held attached, rest.2 ok⟩⟩

theorem wp_ignoring_call {kind : Kind} {action : Action} {result : Reply action → Except Err Unit}
    (plain : action.plain = true) (allowed : Pre config kind action notes) :
    wp (contract config kind) (fun result after => result = .ok () ∧ Grown notes after)
      (ignoring (call action result)) notes :=
  wp_ignoring (wp_call.mpr ⟨allowed, fun reply _ => ⟨rfl, learn_grown action plain reply notes⟩⟩)

theorem deleteWithdrawn_spec (holds : holding notes = true)
    (first : ∀ lbs, .attached inst.id lbs ∉ held notes)
    (drained : Drained inst.tenant inst.id vm notes) :
    wp (contract config (.delete inst.tenant inst.id)) (fun _ after => Grown notes after)
      (deleteWithdrawn config inst vm) notes := by
  refine wp_then (wp_wrapping (fun _ _ grown => grown) (wp_mono
    (fun result second withdrawn => ?_) _ _ (deregisterInstanceFromLB_spec holds first)))
  obtain ⟨grown, detached⟩ := withdrawn
  cases result with
  | error error => exact grown
  | ok =>
    have detached := detached rfl
    have cleanUp : ∀ {last : List Note}, Grown second last → .gone vm ∈ last →
        wp (contract config (.delete inst.tenant inst.id)) (fun _ after => Grown notes after) (do
            ignoring (deleteLBInstancesForInstance inst.id)
            ignoring (call (.deleteInstance inst.id) id)) last := by
      intro last further gone
      have grown' := grown.trans further
      have drained' := drained.mono fun _ => grown'.mem
      refine wp_then (wp_mono (fun result after ⟨ok, more⟩ => ?_) _ _ (wp_ignoring_call rfl
          ⟨rfl, grown'.holding.trans holds, vm, drained', detached.grown further⟩))
      subst ok
      refine wp_mono (fun _ _ ⟨_, most⟩ => (grown'.trans more).trans most) _ _
        (wp_ignoring_call rfl ⟨rfl, (grown'.trans more).holding.trans holds, vm,
          drained'.mono fun _ => more.mem, more.mem gone⟩)
    refine wp_then (wp_else (wp_call.mpr ⟨⟨rfl, grown.holding.trans holds,
      drained.mono fun _ => grown.mem, detached⟩, ?_⟩))
    intro (reply : Except Err Unit) _
    have deleted := learn_grown (.deleteVM inst.id vm) rfl reply second
    cases reply with
    | ok => exact cleanUp deleted List.mem_cons_self
    | error error =>
      rw [else_error]
      split
      · rename_i missing
        refine cleanUp deleted ?_
        simp [learn, note, missing]
      · exact grown.trans deleted

theorem deleteInstance_spec {tenant : Tenant} {id : InstanceID} :
    wp (contract config (.delete tenant id)) (Post config (.delete tenant id))
      (deleteInstance config tenant id) [] := by
  have done : ∀ {result : Except Err Unit} {after : List Note}, holding after = false →
      Post config (.delete tenant id) result after :=
    fun free => ⟨free, nofun⟩
  refine wp_then (wp_wrapping (fun _ _ holds => holds.error) (wp_call.mpr ⟨trivial, ?_⟩))
  intro (reply : Except Err Instance) answers
  have read := learn_grown (.getInstance id) rfl reply []
  cases reply with
  | error error => exact done read.holding
  | ok inst =>
    obtain rfl : inst.id = id := answers
    rw [then_ok]
    split
    · exact done read.holding
    rename_i owner
    obtain rfl : inst.tenant = tenant := not_not.mp owner
    cases provided : inst.providerID with
    | none => exact done read.holding
    | some vm =>
      dsimp only
      split
      · exact done read.holding
      refine wp_then ?_
      have delete : ∀ {notes : List Note}, holding notes = false →
          Drained inst.tenant inst.id vm notes →
          wp (contract config (.delete inst.tenant inst.id))
            (Post config (.delete inst.tenant inst.id))
            (withLock (deleteWithdrawn config inst vm)) notes := by
        intro notes free drained
        refine wp_withLock free (wp_mono (fun _ _ grown => ⟨grown.holding, done rfl⟩) _ _
          (deleteWithdrawn_spec rfl (fun _ => List.not_mem_nil)
            (drained.mono fun _ => List.mem_cons_of_mem _)))
      split
      · rename_i marked
        exact delete read.holding ⟨inst, List.mem_cons_self, rfl, rfl, provided, .inl marked⟩
      refine wp_wrapping (fun _ _ holds => holds.error) (wp_call.mpr ⟨rfl, ?_⟩)
      intro (reply : Except Err Unit) _
      have marked := learn_grown (.markDrainStarted inst.id) rfl reply [.read inst]
      cases reply with
      | error error => exact done marked.holding
      | ok =>
        exact delete marked.holding ⟨inst, marked.mem List.mem_cons_self, rfl, rfl,
          provided, .inr List.mem_cons_self⟩

end

/-! ## Cutover -/

section

variable {config : Config} {kind : Kind} {tenant : Tenant} {notes : List Note} {target : Target}

theorem mem_foldl_vms {lb : LBKey} (vms : List ProviderID) : ∀ targets : List Target,
      target ∈ vms.foldl (fun targets vm =>
          if ⟨lb, vm⟩ ∈ targets then targets else targets ++ [⟨lb, vm⟩]) targets ↔
        target ∈ targets ∨ target.lb = lb ∧ target.vm ∈ vms := by
  induction vms with
  | nil => simp
  | cons vm vms ih =>
    intro targets
    rw [List.foldl_cons, ih]
    have here : target = ⟨lb, vm⟩ ↔ target.lb = lb ∧ target.vm = vm := by
      cases target
      simp
    by_cases known : (⟨lb, vm⟩ : Target) ∈ targets
    · rw [if_pos known, List.mem_cons, and_or_left, ← here, ← or_assoc]
      refine or_congr_left ⟨.inl, fun either => either.elim id ?_⟩
      rintro rfl
      exact known
    · rw [if_neg known, List.mem_append, List.mem_singleton, List.mem_cons, and_or_left, here,
        or_assoc]

theorem mem_addTargets {vms : List ProviderID} (lbs : List LBKey) :
    ∀ targets : List Target, target ∈ addTargets config lbs vms targets ↔
      target ∈ targets ∨ target.lb ∈ lbs ∧ config.isTunnel target.lb = false ∧ target.vm ∈ vms := by
  induction lbs with
  | nil => simp [addTargets]
  | cons lb lbs ih =>
    intro targets
    rw [addTargets, List.foldl_cons, ← addTargets, ih]
    by_cases tunnel : config.isTunnel lb = true
    · rw [if_pos tunnel, List.mem_cons]
      refine or_congr_right ⟨fun ⟨member, rest⟩ => ⟨.inr member, rest⟩, ?_⟩
      rintro ⟨rfl | member, provider, rest⟩
      · rw [tunnel] at provider
        cases provider
      · exact ⟨member, provider, rest⟩
    rw [if_neg tunnel, mem_foldl_vms, List.mem_cons, or_assoc]
    refine or_congr_right ⟨?_, ?_⟩
    · rintro (⟨rfl, member⟩ | ⟨member, rest⟩)
      · exact ⟨.inl rfl, Bool.eq_false_iff.mpr tunnel, member⟩
      · exact ⟨.inr member, rest⟩
    · rintro ⟨rfl | member, provider, rest⟩
      · exact .inl ⟨rfl, rest⟩
      · exact .inr ⟨member, provider, rest⟩

/-- The targets are those of the listed virtual machines, and none is missing. -/
def Enumerates (config : Config) (tenant : Tenant) (groups : List (String × Group))
    (targets : List Target) (notes : List Note) : Prop :=
  (∀ target ∈ targets, Listed config tenant target notes) ∧
    ∀ name group, (name, group) ∈ groups → group.sized = true →
      ∃ vms, .listed tenant name vms ∈ notes ∧ ∀ lb ∈ group.loadBalancers,
        config.isTunnel lb = false → ∀ vm ∈ vms, ⟨lb, vm⟩ ∈ targets

section

variable (allowed : ∀ group notes, Pre config kind (.getProviderIDsByGroup tenant group) notes)
include allowed

theorem groupTargets_spec (rest : List (String × Group)) :
    ∀ {targets : List Target} {notes : List Note}, rest ⊆ config.groups tenant →
      (∀ target ∈ targets, Listed config tenant target notes) →
      wp (contract config kind) (fun result after => Grown notes after ∧
          ∀ all, result = .ok all → targets ⊆ all ∧ Enumerates config tenant rest all after)
        (groupTargets config tenant rest targets) notes := by
  induction rest with
  | nil =>
    intro targets notes _ listed
    refine ⟨.refl notes, fun all same => ?_⟩
    cases same
    exact ⟨List.Subset.refl _, listed, fun _ _ member => absurd member List.not_mem_nil⟩
  | cons entry rest ih =>
    obtain ⟨name, group⟩ := entry
    intro targets notes subset listed
    have later : rest ⊆ config.groups tenant :=
      fun entry member => subset (List.mem_cons_of_mem _ member)
    unfold groupTargets
    split
    · rename_i sized
      refine wp_then (wp_wrapping (fun _ _ holds => ⟨holds.1, nofun⟩)
        (wp_call.mpr ⟨allowed name notes, ?_⟩))
      intro (reply : Except Err (List ProviderID)) _
      have grown := learn_grown (.getProviderIDsByGroup tenant name) rfl reply notes
      cases reply with
      | error error => exact ⟨grown, nofun⟩
      | ok vms =>
        have noted : .listed tenant name vms ∈
            learn (.getProviderIDsByGroup tenant name) (.ok vms) notes := List.mem_cons_self
        refine wp_mono (fun result after found => ?_) _ _ (ih later fun target member => ?_)
        · refine ⟨grown.trans found.1, fun all same => ?_⟩
          obtain ⟨added, sound, complete⟩ := found.2 all same
          refine ⟨fun target member => added ((mem_addTargets _ _).mpr (.inl member)), sound,
            fun name' group' member sized' => ?_⟩
          rcases List.mem_cons.mp member with here | there
          · cases here
            refine ⟨vms, found.1.mem noted, fun lb behind provider vm running => ?_⟩
            exact added ((mem_addTargets _ _).mpr (.inr ⟨behind, provider, running⟩))
          · exact complete name' group' there sized'
        · rcases (mem_addTargets _ _).mp member with old | ⟨behind, provider, running⟩
          · exact (listed target old).mono fun _ => grown.mem
          · exact ⟨name, group, vms, subset List.mem_cons_self, sized, noted, behind, provider,
              running⟩
    · rename_i unsized
      refine wp_mono (fun result after found => ⟨found.1, fun all same => ?_⟩) _ _ (ih later listed)
      obtain ⟨added, sound, complete⟩ := found.2 all same
      refine ⟨added, sound, fun name' group' member sized' => ?_⟩
      rcases List.mem_cons.mp member with here | there
      · cases here
        exact absurd sized' unsized
      · exact complete name' group' there sized'

theorem instanceTargets_spec :
    wp (contract config kind) (fun result after => Grown notes after ∧ ∀ all, result = .ok all →
        Enumerates config tenant (config.groups tenant) all after)
      (instanceTargets config tenant) notes := by
  refine wp_mono (fun result after found => ⟨found.1, fun all same => (found.2 all same).2⟩) _ _
    (groupTargets_spec allowed _ (List.Subset.refl _) fun _ member => ?_)
  exact absurd member List.not_mem_nil

end

/-- The lock is free again, and nothing was forgotten. -/
def Rested (notes after : List Note) : Prop :=
  holding after = false ∧ notes ⊆ after

theorem eachTarget_spec {run : Target → Code Unit} {R : Target → List Note → Prop}
    (lasting : ∀ {target : Target} {notes after : List Note}, R target notes → notes ⊆ after →
      R target after) {base : List Note} (targets : List Target)
    (spec : ∀ target ∈ targets, ∀ notes, holding notes = false → base ⊆ notes →
      wp (contract config kind) (fun result after => Rested notes after ∧
        (result = .ok () → R target after)) (run target) notes) :
    ∀ notes, holding notes = false → base ⊆ notes →
      wp (contract config kind) (fun result after => Rested notes after ∧
        (result = .ok () → ∀ target ∈ targets, R target after)) (eachTarget run targets) notes := by
  induction targets with
  | nil =>
    exact fun notes free _ => ⟨⟨free, List.Subset.refl _⟩,
      fun _ _ member => absurd member List.not_mem_nil⟩
  | cons target targets ih =>
    intro notes free known
    refine wp_seq (spec target List.mem_cons_self notes free known)
      (fun _ _ ran => ⟨ran.1, nofun⟩) ?_
    intro _ first ⟨⟨free', kept⟩, achieved⟩
    refine wp_mono (fun result last rest => ?_) _ _ (ih
      (fun other member => spec other (List.mem_cons_of_mem _ member)) first free'
      (List.Subset.trans known kept))
    obtain ⟨⟨free'', kept'⟩, others⟩ := rest
    refine ⟨⟨free'', List.Subset.trans kept kept'⟩, fun ok other member => ?_⟩
    rcases List.mem_cons.mp member with rfl | later
    · exact lasting (achieved rfl) kept'
    · exact others ok other later

section

variable (free : holding notes = false)
include free

theorem deregisterTarget_spec :
    wp (contract config (.withdraw tenant)) (fun result after => Rested notes after ∧
        (result = .ok () → .withdrawn target ∈ after)) (deregisterTarget target) notes := by
  refine wp_withLock free (wp_call.mpr ⟨rfl, ?_⟩)
  intro (reply : Except Err Unit) _
  have grown := learn_grown (.deregisterFromLB target) rfl reply (.locked :: notes)
  refine ⟨grown.holding, ⟨rfl, fun _ member => ?_⟩, ?_⟩
  · exact List.mem_cons_of_mem _ (grown.mem (List.mem_cons_of_mem _ member))
  · rintro rfl
    exact List.mem_cons_of_mem _ List.mem_cons_self

theorem registerTarget_spec (listed : Listed config tenant target notes) :
    wp (contract config (.restore tenant)) (fun result after => Rested notes after ∧
        (result = .ok () → True)) (registerTarget tenant target) notes := by
  refine wp_withLock free (wp_call.mpr
    ⟨⟨rfl, rfl, listed.mono fun _ => List.mem_cons_of_mem _⟩, fun reply _ => ?_⟩)
  have grown := learn_grown (.registerWithLB tenant target) rfl reply (.locked :: notes)
  refine ⟨grown.holding, ⟨rfl, fun _ member => ?_⟩, fun _ => trivial⟩
  exact List.mem_cons_of_mem _ (grown.mem (List.mem_cons_of_mem _ member))

theorem waitNotAccepting_spec :
    wp (contract config (.withdraw tenant)) (fun result after => Rested notes after ∧
        (result = .ok () → True)) (waitNotAccepting target) notes := by
  refine wp_call.mpr ⟨trivial, fun reply _ => ?_⟩
  have grown := learn_grown (.waitNotAccepting target) rfl reply notes
  exact ⟨⟨grown.holding.trans free, fun _ => grown.mem⟩, fun _ => trivial⟩

end

theorem beginTargetWithdrawal_spec :
    wp (contract config (.withdraw tenant)) (Post config (.withdraw tenant))
      (beginTargetWithdrawal config tenant) [] := by
  have failed : ∀ {error : Err} {after : List Note}, holding after = false →
      Post config (.withdraw tenant) (.error error) after :=
    fun free => ⟨free, fun _ _ impossible => nomatch impossible⟩
  refine wp_seq (instanceTargets_spec fun _ _ => rfl) (fun _ _ found => failed found.1.holding) ?_
  intro targets listed ⟨grown, enumerated⟩
  obtain ⟨sound, complete⟩ := enumerated targets rfl
  split
  · exact failed grown.holding
  rename_i observed
  refine wp_seq (eachTarget_spec (R := fun target notes => .withdrawn target ∈ notes)
    (fun member subset => subset member) targets
    (fun _ _ _ free _ => deregisterTarget_spec free) listed grown.holding
    (List.Subset.refl _)) (fun _ _ ran => failed ran.1.1) ?_
  intro _ dropped ⟨⟨free, kept⟩, withdrawn⟩
  refine wp_mono (fun result after ran => ?_) _ _ (eachTarget_spec (fun _ _ => trivial)
    targets (fun _ _ _ free _ => waitNotAccepting_spec free) dropped free
    (List.Subset.refl _))
  obtain ⟨⟨free', kept'⟩, _⟩ := ran
  refine ⟨free', fun other same _ => ?_⟩
  cases same
  refine ⟨fun name group member sized => ?_, fun provider => ?_⟩
  · obtain ⟨vms, noted, behind⟩ := complete name group member sized
    exact ⟨vms, kept' (kept noted), fun lb member provider vm running =>
      kept' (withdrawn rfl _ (behind lb member provider vm running))⟩
  · obtain ⟨target, member⟩ := List.exists_mem_of_ne_nil targets
      fun none => observed ⟨provider, none⟩
    exact ⟨target, kept' (withdrawn rfl target member)⟩

theorem restoreTargets_spec : wp (contract config (.restore tenant)) (Post config (.restore tenant))
      (restoreTargets config tenant) [] := by
  have done : ∀ {result : Except Err Unit} {after : List Note}, holding after = false →
      Post config (.restore tenant) result after :=
    fun free => ⟨free, nofun⟩
  refine wp_seq (instanceTargets_spec fun _ _ => rfl) (fun _ _ found => done found.1.holding) ?_
  intro targets listed ⟨grown, enumerated⟩
  refine wp_mono (fun _ _ ran => done ran.1.1) _ _ (eachTarget_spec (fun _ _ => trivial)
    targets (fun target member notes free known => ?_) listed grown.holding
    (List.Subset.refl _))
  exact registerTarget_spec free (((enumerated targets rfl).1 target member).mono
    fun _ noted => known noted)

end

/-- **Every kind of task keeps to its contract.** -/
theorem program_conducts (config : Config) (kind : Kind) :
    wp (contract config kind) (Post config kind) (kind.program config) [] := by
  cases kind with
  | reconcile id => exact reconcileLoadBalancers_spec
  | delete tenant id => exact deleteInstance_spec
  | withdraw tenant => exact beginTargetWithdrawal_spec
  | restore tenant => exact restoreTargets_spec

end Nstance.Targets
