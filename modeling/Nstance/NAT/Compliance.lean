import Nstance.NAT.Conduct

/-!
# The methods of the manager keep to the contract

One specification for every function of the manager, up to the four methods (`Call.spec`).
What the second loop of `Reconcile` has not come to is as it was read (`Frame`). So in every
run whatever a method is about to do is justified, and what justified actions keep holds
throughout (`view_of_reaches`, `records_of_reaches`).
-/

namespace Nstance.NAT

open Interaction Manager
open Program hiding act pure

/-! ## Frames -/

/-- What a part of a method leaves alone: the assignments of the other instances,
and what the method has read. -/
structure Frame (touched : String) (v v' : View) : Prop where
  records : ∀ a ∈ v.records, a.instanceID ≠ touched → a ∈ v'.records
  issued : ∀ instanceID ∈ v.issued, instanceID ∈ v'.issued
  config : v'.config = v.config
  listed : v'.listed = v.listed
  read : v'.read = v.read

namespace Frame

variable {touched : String} {v v' v'' : View}

theorem refl (touched : String) (v : View) : Frame touched v v :=
  ⟨fun _ mem _ => mem, fun _ mem => mem, rfl, rfl, rfl⟩

theorem trans (first : Frame touched v v') (second : Frame touched v' v'') :
    Frame touched v v'' where
  records a mem other := second.records a (first.records a mem other) other
  issued instanceID mem := second.issued instanceID (first.issued instanceID mem)
  config := second.config.trans first.config
  listed := second.listed.trans first.listed
  read := second.read.trans first.read

theorem set {a : Assignment} (own : a.instanceID = touched) :
    Frame touched v { v with records := v.records.set a } where
  records _ mem other := Assignments.mem_set.mpr (.inr ⟨mem, own ▸ other⟩)
  issued _ mem := mem
  config := rfl
  listed := rfl
  read := rfl

theorem setRoute (request : NATRouteRequest) (target : Option String) :
    Frame touched v (v.setRoute request target) :=
  ⟨fun _ mem _ => mem, fun _ mem => mem, rfl, rfl, rfl⟩

theorem update (a : Assignment) (closure : Closure) :
    Frame a.instanceID v { v with records := v.records.set (closure.change.apply a) } :=
  .set (closure.change.instanceID_apply a)

theorem erase : Frame touched v { v with records := v.records.erase touched } where
  records _ mem other := Assignments.mem_erase.mpr ⟨mem, other⟩
  issued _ mem := mem
  config := rfl
  listed := rfl
  read := rfl

end Frame

/-! ## Replacements -/

section

variable {E : Environment} {v : View} {cfg : Config} {natConfig : NATConfig}

/-- The instance to be replaced is stored, and replaces nothing itself. -/
def Replaceable (v : View) (current : Assignment) : Prop :=
  ∃ a ∈ v.records, a.ownership = current.ownership ∧ a.replaces = "" ∧ a.deleting = false ∧
    a.retiring = current.retiring

variable {current : Assignment} {instanceID instanceType : String} {wanted : Assignment → Bool}
  {order : List Assignment} {assignment : Assignment}

theorem claimReplacement_result {s after : Assignments} {r : Assignment} {createdAt : Time}
    (done : NAT.claimReplacement current instanceID instanceType createdAt s = .ok (r, after))
    (fresh : ∀ a ∈ s, a.instanceID ≠ instanceID) :
    after = s ∧ r.instanceID ≠ instanceID ∨
      after = s.set r ∧ r.instanceID = instanceID ∧ r.replaces = current.instanceID ∧
        r.providerID = "" := by
  have absent : s.get instanceID = none := Assignments.get_eq_none.mpr fresh
  rw [NAT.claimReplacement, absent] at done
  cases found : s.entries.find? (·.replaces = current.instanceID) with
  | some pending =>
    rw [found] at done
    cases done
    exact .inl ⟨rfl, fresh r (List.mem_of_find?_eq_some found)⟩
  | none =>
    rw [found] at done
    cases present : s.get current.instanceID with
    | none =>
      rw [present] at done
      cases done
    | some =>
      rw [present] at done
      cases done
      exact .inr ⟨rfl, rfl, rfl, rfl⟩

theorem wp_releaseAndFail {error : Err} {wrapped : Err → Err} {Q : Unit → View → Prop}
    (warranted : Base v → Warranted E v (.release instanceID)) :
    wp (contract E) (Done Q) (((Manager.release instanceID).recover fun releaseError =>
      .fail (wrapped releaseError)) >>= fun _ => .fail error) v := by
  refine wp_bind_done (wp_else (wp_attempt ?_))
  intro base
  refine ⟨warranted base, ?_⟩
  intro reply v' seen
  cases reply <;> trivial

theorem startReplacement_spec {at' : Time} (replaceable : Replaceable v current) (touched : String)
    :
    wp (contract E) (Done fun _ v' => Frame touched v v')
      (startReplacement cfg natConfig current instanceType at') v := by
  refine wp_newID_bind ?_
  intro instanceID fresh
  obtain ⟨a, mem, owned, empty, kept, leaves⟩ := replaceable
  refine wp_bind_done (wp_store (fun _ => ⟨fresh, a, mem, owned, empty, kept, leaves⟩) ?_)
  intro base r after applied
  rcases claimReplacement_result applied (fun b memb => (fresh.unused b memb).1) with
    ⟨same, other⟩ | ⟨same, own, replaces, unrecorded⟩
  · rw [if_pos other, same]
    exact ⟨fun _ mem _ => mem, fun _ mem => List.mem_cons_of_mem _ mem, rfl, rfl, rfl⟩
  subst same
  rw [if_neg (not_not.mpr own)]
  have framed : Frame touched v
      { v with issued := instanceID :: v.issued, records := v.records.set r } := by
    refine ⟨?_, fun _ mem => List.mem_cons_of_mem _ mem, rfl, rfl, rfl⟩
    intro b memb _
    exact Assignments.mem_set.mpr (.inr ⟨memb, own ▸ (fresh.unused b memb).1⟩)
  have newborn : r.replaces ≠ "" := by
    rw [replaces, ← instanceID_of_ownership owned]
    intro same
    exact base.nonempty (same ▸ base.issued a mem)
  refine wp_bind_done (wp_else (wp_createNATInstance ?_))
  intro reply
  cases reply with
  | ok created =>
    refine wp_readMemory_bind ?_
    intro memory
    exact wp_remember framed
  | error error =>
    refine wp_releaseAndFail fun _ => .inr ⟨r, ?_, own, newborn, unrecorded⟩
    exact Assignments.mem_set.mpr (.inl rfl)

theorem mem_of_pick {entries : List Assignment} {a : Assignment}
    (picked : pick wanted order = some a) (same : order.Perm entries) :
    a ∈ entries ∧ wanted a = true := by
  obtain ⟨found, _⟩ := Option.filter_eq_some_iff.mp picked
  exact ⟨same.mem_iff.mp (List.mem_of_find?_eq_some found), List.find?_some found⟩

theorem not_wanted_of_pick (base : Base v) (picked : pick wanted order = none)
    (same : order.Perm v.records.entries) : ∀ a ∈ v.records, wanted a = false := by
  intro a mem
  rw [pick, Option.filter_eq_none_iff] at picked
  have absent : order.find? wanted = none := by
    cases found : order.find? wanted with
    | none => rfl
    | some b =>
      have empty := picked b found
      rw [decide_eq_true_eq, not_not] at empty
      have stored : b ∈ v.records := same.mem_iff.mp (List.mem_of_find?_eq_some found)
      exact absurd (empty ▸ base.issued b stored) base.nonempty
  simpa using List.find?_eq_none.mp absent a (same.mem_iff.mpr mem)

theorem scaleAfter_spec {since : Option Time} {window : Duration} {observedAt : Time}
    {started : Memory} {replace : Code Unit}
    (replaces : wp (contract E) (Done fun _ _ => True) replace v) :
    wp (contract E) (Done fun _ _ => True)
      (scaleAfter since window observedAt started replace) v := by
  rw [scaleAfter]
  split
  · exact wp_remember trivial
  split
  · exact replaces
  · trivial

variable {previous current : MetricSample}

theorem scale_spec {index : Nat} (replaceable : Replaceable v assignment) :
    wp (contract E) (Done fun _ _ => True)
      (scale cfg natConfig assignment index previous current) v := by
  have replaces : ∀ instanceType at', wp (contract E) (Done fun _ _ => True)
      (startReplacement cfg natConfig assignment instanceType at') v := by
    intro instanceType at'
    exact wp_done_mono (fun _ _ _ => trivial) (startReplacement_spec replaceable "")
  refine wp_readMemory_bind ?_
  intro memory
  split
  · exact wp_bind_done (wp_remember (scaleAfter_spec (replaces _ _)))
  refine wp_bind_done (wp_remember (wp_ite ?_ ?_))
  · intro _
    exact scaleAfter_spec (replaces _ _)
  · intro _
    exact wp_remember trivial

theorem evaluate_spec (replaceable : Replaceable v assignment) :
    wp (contract E) (Done fun _ _ => True) (evaluate cfg assignment previous current) v := by
  rw [evaluate]
  split
  · trivial
  dsimp only
  split
  · trivial
  split
  · trivial
  · exact scale_spec replaceable

theorem replaceable_of_mem {a : Assignment} (mem : a ∈ v.records) (empty : a.replaces = "")
    (kept : a.deleting = false) : Replaceable v a :=
  ⟨a, mem, rfl, empty, kept, rfl⟩

theorem observe_spec (instanceID : String) (metrics : Option Metrics) (observedAt : Time) :
    wp (contract E) (Done fun _ _ => True) (observe instanceID metrics observedAt) v := by
  refine wp_readMemory_bind ?_
  intro memory
  split
  · exact wp_remember trivial
  refine wp_bind_done (wp_remember ?_)
  cases memory.metrics instanceID with
  | none => trivial
  | some previous =>
    refine wp_ite (fun _ => trivial) fun _ => ?_
    · refine wp_assignments_bind ?_
      intro _
      refine wp_range_bind ?_
      intro _ order same
      split
      · trivial
      rename_i assignment picked
      obtain ⟨mem, wanted⟩ := mem_of_pick picked same
      simp only [decide_eq_true_eq, Bool.not_eq_true] at wanted
      refine wp_getCurrent_bind ?_
      intro _ cfg
      exact evaluate_spec (replaceable_of_mem mem wanted.2.1 wanted.2.2)

theorem replaceInstance_spec (instanceID : String) :
    wp (contract E) (Done fun _ _ => True) (replaceInstance instanceID) v := by
  refine wp_assignments_bind ?_
  intro _
  split
  · trivial
  rename_i assignment stored
  split
  · trivial
  rename_i wanted
  simp only [not_or, not_not, Bool.not_eq_true] at wanted
  refine wp_getCurrent_bind ?_
  intro _ cfg
  split
  · trivial
  refine wp_now_bind ?_
  intro _ at'
  refine wp_done_mono (fun _ _ _ => trivial) (startReplacement_spec ?_ "")
  exact replaceable_of_mem (Assignments.get_eq_some.mp stored).1 wanted.2.2 wanted.1

end

/-! ## Routes -/

section

variable {E : Environment} {v : View} {cfg : Config} {snapshot : Assignments} {a : Assignment}

/-- The route is moved, and the record knows the VM. -/
def View.moveRoute (E : Environment) (v : View) (a : Assignment) (request : NATRouteRequest) :
    View :=
  { v with records := v.records.set { a with providerID := E.vm a.instanceID } }.setRoute request
    (some (E.vm a.instanceID))

variable {request : NATRouteRequest}

theorem route_setRoute (target : Option String) (tenant : request.tenant = a.tenant)
    (subnet : request.instanceSubnetID = a.instanceSubnetID) :
    (v.setRoute request target).route a = target := by
  simp [View.setRoute, View.route, tenant, subnet]

/-- The route is moved to the VM of an instance that is ready. -/
structure Leads (E : Environment) (a : Assignment) (request : NATRouteRequest) : Prop where
  nonempty : E.vm a.instanceID ≠ ""
  tenant : request.tenant = a.tenant
  subnet : request.instanceSubnetID = a.instanceSubnetID
  target : request.providerInstanceID = E.vm a.instanceID

theorem Leads.routed (leads : Leads E a request) :
    Routed E (v.moveRoute E a request) { a with providerID := E.vm a.instanceID } :=
  ⟨leads.nonempty, rfl, route_setRoute _ leads.tenant leads.subnet⟩

theorem mem_moveRoute (request : NATRouteRequest) :
    { a with providerID := E.vm a.instanceID } ∈ (v.moveRoute E a request).records :=
  Assignments.mem_set.mpr (.inl rfl)

theorem frame_moveRoute (request : NATRouteRequest) :
    Frame a.instanceID v (v.moveRoute E a request) :=
  (Frame.update a (.provider (E.vm a.instanceID))).trans (.setRoute _ _)

theorem wp_ensureRoute {instanceID : String} {Q : Unit → View → Prop} (mem : a ∈ v.records)
    (same : a.instanceID = instanceID) (routable : Routable a) (leads : Leads E a request)
    (done : Q () (v.moveRoute E a request)) :
    wp (contract E) (Done Q) (ensureRoute instanceID request) v := by
  subst same
  refine wp_bind_done (wp_wrapping (wp_update mem rfl ?_ ?_))
  · intro _
    rw [leads.target]
    exact ⟨a, mem, rfl, routable, rfl, leads.nonempty⟩
  · refine wp_attempt ?_
    intro _
    constructor
    · refine ⟨{ a with providerID := request.providerInstanceID }, ?_, leads.tenant, leads.subnet,
        routable, leads.target, leads.nonempty, leads.target⟩
      exact Assignments.mem_set.mpr (.inl rfl)
    · intro reply v' seen
      cases seen with
      | routed =>
        cases reply with
        | ok =>
          rw [leads.target]
          exact done
        | error => trivial
      | notRouted => trivial

theorem leads_of_ready {inst : Option Instance} {interval : Duration} {at' : Time}
    (genuine : ∀ found, inst = some found → Genuine E a.instanceID found)
    (ready : instanceReady inst interval at' = true) (tenant : request.tenant = a.tenant)
    (subnet : request.instanceSubnetID = a.instanceSubnetID)
    (target : request.providerInstanceID = providerOf inst) : Leads E a request := by
  cases inst with
  | none => cases ready
  | some found =>
    cases named : found.providerID with
    | none => simp [instanceReady, named] at ready
    | some providerID =>
      obtain ⟨same, nonempty⟩ := (genuine found rfl).2 providerID named
      have provider : providerOf (some found) = E.vm a.instanceID := by
        simp [providerOf, named, same]
      exact ⟨same ▸ nonempty, tenant, subnet, target.trans provider⟩

theorem active_moved {providerID : String} (serving : active a = true) :
    active { a with providerID } = true := serving

theorem routable_of_active (serving : active a = true) : Routable a :=
  ⟨(active_iff.mp serving).2.1, fun _ => (active_iff.mp serving).2.2⟩

end

/-! ## Preparation -/

section

variable {E : Environment} {v : View} {cfg : Config} {natConfig : NATConfig}
  {tenant subnetID : String} {snapshot : Assignments} {a : Assignment}

/-- What a preparation that returned without an error leaves: the active instance of
the subnet is not stamped as unused, unless a replacement of it is pending. -/
def Prepared (tenant subnetID : String) (v : View) : Prop :=
  (∃ cfg, v.config = some cfg ∧ cfg.nat tenant = none) ∨
    ∃ a ∈ v.records, serves tenant subnetID a = true ∧ active a = true ∧
      (a.emptySince = none ∨ ∃ r ∈ v.records, r.replaces = a.instanceID ∧ r.deleting = false)

theorem takeRoute_spec {inst : Option Instance} {interval : Duration} {at' : Time}
    (mem : a ∈ v.records) (serving : active a = true) (own : serves tenant subnetID a = true)
    (genuine : ∀ found, inst = some found → Genuine E a.instanceID found)
    (ready : instanceReady inst interval at' = true) :
    wp (contract E) (Done fun _ v' => Prepared tenant subnetID v')
      (takeRoute cfg natConfig tenant snapshot a inst) v := by
  have leads : Leads E a (routeRequest cfg snapshot { a with providerID := providerOf inst }) :=
    leads_of_ready genuine ready rfl rfl rfl
  refine wp_bind_done (wp_ensureRoute mem rfl (routable_of_active serving) leads ?_)
  refine wp_wrapping (wp_update (mem_moveRoute _) rfl ?_ ?_)
  · intro _
    exact ⟨_, mem_moveRoute _, rfl, active_moved serving, leads.routed⟩
  · refine .inr ⟨_, Assignments.mem_set.mpr (.inl rfl), own, ?_, .inl rfl⟩
    exact active_iff.mpr ⟨(active_iff.mp serving).1, rfl, (active_iff.mp serving).2.2⟩

theorem prepareAssignment_spec (mem : a ∈ v.records) (serving : active a = true)
    (own : serves tenant subnetID a = true) (known : ∀ r ∈ snapshot, r ∈ v.records) :
    wp (contract E) (Done fun _ v' => Prepared tenant subnetID v')
      (prepareAssignment cfg natConfig tenant snapshot a) v := by
  refine wp_getInstance_bind ?_
  intro _ reply genuine
  refine wp_bind_done (wp_found ?_)
  intro inst answered
  have row : ∀ found, inst = some found → Genuine E a.instanceID found :=
    fun found same => genuine found (answered found same)
  refine wp_ite ?_ fun _ => wp_ite ?_ ?_
  · intro _
    exact wp_bind_done (wp_wrapping (wp_createNATInstance fun reply => by cases reply <;> trivial))
  · intro _
    refine wp_now_bind ?_
    intro _ at'
    refine wp_bind_done (wp_done_mono (fun _ _ _ => trivial) (startReplacement_spec ?_ ""))
    exact replaceable_of_mem mem (active_iff.mp serving).1 (active_iff.mp serving).2.1
  · intro _
    refine wp_now_bind ?_
    intro _ at'
    refine wp_ite (fun _ => trivial) fun ready => wp_ite ?_ ?_
    · intro kept
      obtain ⟨r, memr, names, undeleted⟩ : ∃ r ∈ snapshot.entries, r.replaces = a.instanceID ∧
          r.deleting = false := by
        simpa using kept.2
      exact .inr ⟨a, mem, own, serving, .inr ⟨r, known r memr, names, undeleted⟩⟩
    · intro _
      exact takeRoute_spec mem serving own row (not_not.mp ready)

theorem claim_result {s after : Assignments} {addresses : List PublicAddress} {claimed : Assignment}
    {instanceID instanceType : String} {createdAt : Time}
    (done : NAT.claim addresses tenant subnetID instanceID instanceType createdAt s =
      .ok (claimed, after)) (fresh : ∀ b ∈ s, b.instanceID ≠ instanceID) :
    after = s.set claimed ∧ claimed.instanceID = instanceID ∧ active claimed = true ∧
      serves tenant subnetID claimed = true := by
  have absent : s.get instanceID = none := Assignments.get_eq_none.mpr fresh
  rw [NAT.claim, absent] at done
  split at done
  · cases done
  simp only at done
  split at done <;> cases done
  exact ⟨rfl, rfl, rfl, by simp [serves]⟩

theorem claimFirst_spec {Q : Assignment → View → Prop}
    (unserved : ∀ b ∈ v.records, serves tenant subnetID b = true → active b = false)
    (done : ∀ claimed v', claimed ∈ v'.records → active claimed = true →
      serves tenant subnetID claimed = true → (∀ b ∈ v.records, b ∈ v'.records) → Q claimed v') :
    wp (contract E) (Done Q) (claimFirst cfg natConfig tenant subnetID) v := by
  refine wp_newID_bind ?_
  intro instanceID fresh
  refine wp_now_bind ?_
  intro _ at'
  have unused : ∀ b ∈ v.records, b.instanceID ≠ instanceID := fun b mem => (fresh.unused b mem).1
  refine wp_else (wp_attempt ?_)
  intro _
  refine ⟨⟨⟨fresh.nonempty, fresh.issued, fresh.unused⟩, unserved⟩, ?_⟩
  intro reply v' seen
  cases seen with
  | stored applied =>
    obtain ⟨same, own, serving, served⟩ := claim_result applied unused
    subst same
    refine done _ _ (Assignments.mem_set.mpr (.inl rfl)) serving served ?_
    intro b mem
    exact Assignments.mem_set.mpr (.inr ⟨mem, own ▸ unused b mem⟩)
  | storedLost | notStored => exact wp_ite (fun _ => trivial) fun _ => trivial

theorem prepareSubnet_spec (tenant subnetID : String) :
    wp (contract E) (Done fun _ v' => Prepared tenant subnetID v')
      (prepareSubnet tenant subnetID) v := by
  refine wp_getCurrent_bind ?_
  intro _ cfg
  cases configured : cfg.nat tenant with
  | none => exact .inl ⟨cfg, rfl, configured⟩
  | some natConfig =>
    refine wp_assignments_bind ?_
    intro base
    refine wp_range_bind ?_
    intro _ order same
    cases picked : pick (fun candidate =>
        serves tenant subnetID candidate ∧ active candidate) order with
    | some assignment =>
      obtain ⟨mem, wanted⟩ := mem_of_pick picked same
      simp only [decide_eq_true_eq] at wanted
      exact prepareAssignment_spec mem wanted.2 wanted.1 fun r memr => memr
    | none =>
      have unserved : ∀ b ∈ v.records, serves tenant subnetID b = true → active b = false := by
        intro b mem served
        have unwanted := not_wanted_of_pick base picked same b mem
        simpa [served] using unwanted
      refine wp_bind_done (claimFirst_spec unserved ?_)
      intro claimed v' mem serving served kept
      exact prepareAssignment_spec mem serving served kept

end

/-! ## Removal -/

section

variable {E : Environment} {v : View} {cfg : Config} {snapshot : Assignments}
  {a previous : Assignment}

/-- No instance relies on the route of a replacement that is being removed. -/
def Settled (E : Environment) (v : View) (a : Assignment) : Prop :=
  v.route a = none ∨
    ∀ p ∈ v.records, p.instanceID = a.replaces → p.routed = true → Routed E v p

variable {Q : Unit → View → Prop}

theorem wp_removeNATRoute {request : NATRouteRequest}
    (justified : Base v → Justified E v (.removeNATRoute request))
    (done : Q () (v.setRoute request none)) :
    wp (contract E) (Done Q) (removeNATRoute request) v := by
  refine wp_attempt ?_
  intro base
  refine ⟨justified base, ?_⟩
  intro reply v' seen
  cases seen with
  | removed =>
    cases reply with
    | ok => exact done
    | error => trivial
  | notRemoved => trivial

theorem wp_deleteInstance {tenant instanceID context : String}
    (justified : Base v → Justified E v (.deleteInstance tenant instanceID)) (done : Q () v) :
    wp (contract E) (Done Q) ((deleteInstance tenant instanceID).recover fun error =>
      if error.is .noRows then pure () else .fail (.wrap context error)) v := by
  refine wp_else (wp_attempt ?_)
  intro base
  refine ⟨justified base, ?_⟩
  intro reply v' seen
  cases seen
  cases reply with
  | ok => exact done
  | error error => exact wp_ite (fun _ => done) fun _ => trivial

theorem Base.replaces_ne (base : Base v) (mem : a ∈ v.records) (stored : previous ∈ v.records)
    (names : a.replaces = previous.instanceID) : a.instanceID ≠ previous.instanceID := by
  intro same
  have empty : previous.replaces = "" := base.named a mem previous stored names
  rw [Assignments.eq_of_mem mem stored same, empty] at names
  exact base.nonempty (names ▸ base.issued previous stored)

theorem restorePrevious_spec (mem : a ∈ v.records) (stored : previous ∈ v.records)
    (names : a.replaces = previous.instanceID) (serving : previous.deleting = false ∧
      previous.retiring = false) :
    wp (contract E) (Done fun _ v' => a ∈ v'.records ∧ Settled E v' a)
      (restorePrevious cfg snapshot previous a) v := by
  refine wp_getInstance_bind ?_
  intro base reply genuine
  have activep : active previous = true :=
    active_iff.mpr ⟨base.named a mem previous stored names, serving.1, serving.2⟩
  have other : a.instanceID ≠ previous.instanceID := base.replaces_ne mem stored names
  refine wp_bind_done (wp_found ?_)
  intro inst answered
  refine wp_now_bind ?_
  intro _ at'
  refine wp_ite ?_ ?_
  · intro ready
    have leads : Leads E previous { routeRequest cfg snapshot
        { previous with providerID := providerOf inst } with
          previousProviderInstanceID := a.providerID } :=
      leads_of_ready (fun found same => genuine found (answered found same)) ready rfl rfl rfl
    refine wp_bind_done (wp_wrapping
      (wp_ensureRoute stored rfl (routable_of_active activep) leads ?_))
    refine wp_update (mem_moveRoute _) rfl ?_ ?_
    · intro _
      exact ⟨_, mem_moveRoute _, rfl, active_moved activep, fun _ => leads.routed⟩
    · refine ⟨?_, .inr ?_⟩
      · exact Assignments.mem_set.mpr (.inr ⟨Assignments.mem_set.mpr (.inr ⟨mem, other⟩), other⟩)
      · intro p memp same _
        rcases Assignments.mem_set.mp memp with rfl | ⟨_, different⟩
        · exact ⟨leads.nonempty, rfl, route_setRoute _ leads.tenant leads.subnet⟩
        · exact absurd (same.trans names) different
  · intro _
    refine wp_update stored rfl ?_ ?_
    · intro _
      exact ⟨previous, stored, rfl, activep, by simp⟩
    · refine ⟨Assignments.mem_set.mpr (.inr ⟨mem, other⟩), .inr ?_⟩
      intro p memp same routed
      rcases Assignments.mem_set.mp memp with rfl | ⟨_, different⟩
      · cases routed
      · exact absurd (same.trans names) different

theorem withdrawRoute_spec (mem : a ∈ v.records) (pending : a.replaces ≠ "")
    (kept : a.deleting = false) (config : v.config = some cfg) :
    wp (contract E) (Done fun _ v' => a ∈ v'.records ∧ Settled E v' a)
      (withdrawRoute cfg v.records a) v := by
  have remove : Orphaned v a → wp (contract E) (Done fun _ v' => a ∈ v'.records ∧ Settled E v' a)
      (wrapping "remove NAT route" (removeNATRoute (routeRequest cfg v.records a))) v := by
    intro orphaned
    refine wp_wrapping (wp_removeNATRoute ?_ ⟨mem, .inl (route_setRoute _ rfl rfl)⟩)
    intro base
    have stays : a.retiring = false := by
      cases leaves : a.retiring with
      | false => rfl
      | true => exact absurd (base.retiring a mem leaves) pending
    exact ⟨a, mem, rfl, rfl, rfl, kept, stays, fun none => absurd none pending, fun _ => orphaned⟩
  rw [withdrawRoute]
  cases found : v.records.get a.replaces with
  | none =>
    refine remove (.inr ?_)
    intro p memp same
    exact absurd same (Assignments.get_eq_none.mp found p memp)
  | some previous =>
    obtain ⟨stored, same⟩ := Assignments.get_eq_some.mp found
    refine wp_ite ?_ ?_
    · intro restores
      simp only [Bool.not_eq_true] at restores
      exact restorePrevious_spec mem stored same.symm restores.2
    · intro unable
      refine remove ?_
      cases dedicated : cfg.dedicated a.tenant with
      | false => exact .inl ⟨cfg, config, dedicated⟩
      | true =>
        refine .inr ?_
        intro p memp names
        rw [Assignments.eq_of_mem memp stored (names.trans same.symm)]
        by_contra neither
        rw [not_or, Bool.not_eq_true, Bool.not_eq_true] at neither
        exact unable ⟨dedicated, by simp [neither.1], by simp [neither.2]⟩

theorem wp_mark (mem : a ∈ v.records)
    (settled : Base v → a.replaces ≠ "" → a.providerID ≠ "" → Settled E v a)
    (done : Q () { v with records := v.records.set { a with deleting := true, routed := false } }) :
    wp (contract E) (Done Q) (Manager.update a.instanceID .deleting) v :=
  wp_update mem rfl (fun base => ⟨a, mem, rfl, settled base⟩) done

/-- The record is marked for deletion. -/
def Marked (instanceID : String) (v : View) : Prop :=
  ∀ b ∈ v.records, b.instanceID = instanceID → b.deleting = true

theorem marked_set : Marked a.instanceID
    { v with records := v.records.set { a with deleting := true, routed := false } } := by
  intro b stored same
  rcases Assignments.mem_set.mp stored with rfl | ⟨_, other⟩
  · rfl
  · exact absurd same other

theorem wp_condemned (mem : a ∈ v.records) (unused : Base v → active a = true → Unused E v a)
    (settled : Base v → a.replaces ≠ "" → a.providerID ≠ "" → Settled E v a)
    (done : Q () { v with records := v.records.set { a with deleting := true, routed := false } }) :
    wp (contract E) (Done Q) (((deleteInstance a.tenant a.instanceID).recover fun error =>
        if error.is .noRows then pure () else .fail (.wrap "delete NAT instance" error)) >>=
        fun _ => Manager.update a.instanceID .deleting) v := by
  refine wp_bind_done (wp_deleteInstance ?_ (wp_mark mem settled done))
  intro base
  exact ⟨a, mem, rfl, rfl, unused base⟩

theorem condemn_pending_spec (mem : a ∈ v.records) (pending : a.replaces ≠ "")
    (kept : a.deleting = false) (config : v.config = some cfg) :
    wp (contract E) (Done fun _ v' => Marked a.instanceID v') (condemn cfg v.records a) v := by
  have replaces : active a = true → False := fun serving => pending (active_iff.mp serving).1
  refine wp_bind_done (wp_ite ?_ ?_)
  · intro _
    refine wp_done_mono ?_ (withdrawRoute_spec mem pending kept config)
    intro _ v' ends
    exact wp_condemned ends.1 (fun _ serving => (replaces serving).elim) (fun _ _ _ => ends.2)
      marked_set
  · intro unchanged
    refine wp_condemned mem (fun _ serving => (replaces serving).elim) ?_ marked_set
    -- the route is left alone only where the replacement never recorded its VM
    intro base _ recorded
    refine absurd ⟨?_, .inr recorded⟩ unchanged
    intro leaves
    exact pending (base.retiring a mem leaves)

theorem condemn_sole_spec (absent : snapshot.get "" = none) (mem : a ∈ v.records)
    (sole : a.replaces = "") (kept : a.deleting = false)
    (unused : active a = true → Unused E v a) :
    wp (contract E) (Done fun _ v' => Marked a.instanceID v' ∧ Frame a.instanceID v v')
      (condemn cfg snapshot a) v := by
  refine wp_bind_done (wp_ite ?_ ?_)
  · intro serves
    have stays : a.retiring = false := Bool.eq_false_iff.mpr serves.1
    have unusedNow : Unused E v a := unused (active_iff.mpr ⟨sole, kept, stays⟩)
    rw [withdrawRoute, sole, absent]
    refine wp_wrapping (wp_removeNATRoute ?_ ?_)
    · intro _
      exact ⟨a, mem, rfl, rfl, rfl, kept, stays, fun _ => unusedNow,
        fun pending => absurd sole pending⟩
    · refine wp_condemned mem (fun _ _ => unusedNow) (fun _ pending => absurd sole pending) ?_
      exact ⟨marked_set, (Frame.setRoute _ _).trans (.set rfl)⟩
  · intro _
    exact wp_condemned mem (fun _ => unused) (fun _ pending => absurd sole pending)
      ⟨marked_set, .set rfl⟩

theorem deleteAssignment_pending_spec (mem : a ∈ v.records) (pending : a.replaces ≠ "")
    (kept : a.deleting = false) (config : v.config = some cfg) :
    wp (contract E) (Done fun _ _ => True) (deleteAssignment cfg v.records a) v := by
  rw [deleteAssignment, if_neg (Bool.eq_false_iff.mp kept)]
  refine wp_bind_done (wp_done_mono ?_ (condemn_pending_spec mem pending kept config))
  intro _ v' marked
  exact wp_release (fun _ => .inl marked) trivial

theorem deleteAssignment_spec (absent : snapshot.get "" = none) (mem : a ∈ v.records)
    (sole : a.deleting = false → a.replaces = "")
    (unused : active a = true → Unused E v a) :
    wp (contract E) (Done fun _ v' => Frame a.instanceID v v')
      (deleteAssignment cfg snapshot a) v := by
  rw [deleteAssignment]
  cases deleting : a.deleting with
  | true =>
    refine wp_bind_done (wp_release ?_ .erase)
    intro _
    refine .inl ?_
    intro b stored same
    rw [Assignments.eq_of_mem stored mem same]
    exact deleting
  | false =>
    refine wp_bind_done (wp_done_mono ?_
      (condemn_sole_spec absent mem (sole deleting) deleting unused))
    intro _ v' ends
    exact wp_release (fun _ => .inl ends.1) (ends.2.trans .erase)

end

/-! ## Reconciliation -/

section

variable {E : Environment} {v : View} {cfg : Config} {snapshot : Assignments} {a : Assignment}
  {at' : Time}

theorem switchRoute_spec {inst : Option Instance} {interval : Duration} (mem : a ∈ v.records)
    (pending : a.replaces ≠ "") (kept : a.deleting = false)
    (genuine : ∀ found, inst = some found → Genuine E a.instanceID found)
    (ready : instanceReady inst interval at' = true) :
    wp (contract E) (Done fun _ _ => True) (switchRoute cfg snapshot a inst at') v := by
  have leads : Leads E a (routeRequest cfg snapshot { a with providerID := providerOf inst }) :=
    leads_of_ready genuine ready rfl rfl rfl
  refine wp_bind_done (wp_wrapping
    (wp_ensureRoute mem rfl ⟨kept, fun none => absurd none pending⟩ leads ?_))
  refine wp_store ?_ fun _ _ _ _ => trivial
  intro _
  exact ⟨_, mem_moveRoute _, rfl, pending, kept, leads.routed⟩

theorem cutover_spec (config : v.config = some cfg) (same : snapshot = v.records)
    (entries : List Assignment) (stored : ∀ a ∈ entries, a ∈ v.records) :
    wp (contract E) (Done fun returned v' => returned = false → v' = v)
      (cutover cfg snapshot at' entries) v := by
  subst same
  induction entries with
  | nil => exact fun _ => rfl
  | cons assignment rest ih =>
    have mem : assignment ∈ v.records := stored assignment List.mem_cons_self
    have later := ih fun a tail => stored a (List.mem_cons_of_mem _ tail)
    refine wp_ite (fun _ => later) fun pending => ?_
    rw [not_or, Bool.not_eq_true] at pending
    have removed : wp (contract E) (Done fun returned v' => returned = false → v' = v)
        (deleteAssignment cfg v.records assignment >>= fun _ => pure true) v := by
      refine wp_bind_done (wp_done_mono ?_
        (deleteAssignment_pending_spec mem pending.1 pending.2 config))
      intro _ _ _ returned
      cases returned
    refine wp_getInstance_bind ?_
    intro _ reply genuine
    refine wp_ite (fun _ => removed) fun _ => wp_ite ?_ fun _ => wp_ite (fun _ => removed)
      fun _ => later
    intro ready
    refine wp_bind_done (wp_done_mono ?_ (switchRoute_spec mem pending.1 pending.2 ?_ ready))
    · intro _ _ _ returned
      cases returned
    · intro found same
      cases reply with
      | ok inst =>
        cases same
        exact genuine found rfl
      | error error => cases same

/-- The part of `tend` after the stamp was seen to; the stored version may differ
in the stamp. -/
theorem tend_rest_spec {stored : Assignment} (mem : stored ∈ v.records)
    (owned : stored.ownership = a.ownership) (serving : active stored = true)
    (stays : a.retiring = false) :
    wp (contract E) (Done fun _ v' => Frame a.instanceID v v')
      (getInstance a.instanceID >>= fun reply => found "read NAT instance" reply >>= fun inst =>
        if instanceFailed inst then
          startReplacement cfg (cfg.natConfig a.tenant) a a.instanceType at'
        else if ¬ a.routed ∧ instanceReady inst cfg.healthCheckInterval at' then do
          wrapping "restore active NAT route" (ensureRoute a.instanceID
            (routeRequest cfg snapshot { a with providerID := providerOf inst }))
          Manager.update a.instanceID (.routed true)
        else pure ()) v := by
  have same : stored.instanceID = a.instanceID := instanceID_of_ownership owned
  refine wp_getInstance_bind ?_
  intro _ reply genuine
  refine wp_bind_done (wp_found ?_)
  intro inst answered
  refine wp_ite ?_ fun _ => wp_ite ?_ fun _ => .refl _ _
  · intro _
    refine startReplacement_spec ⟨stored, mem, owned, (active_iff.mp serving).1,
      (active_iff.mp serving).2.1, ?_⟩ _
    rw [stays]
    exact (active_iff.mp serving).2.2
  · intro ready
    let request := routeRequest cfg snapshot { a with providerID := providerOf inst }
    have leads : Leads E stored request := by
      refine leads_of_ready ?_ ready.2 (congrArg Ownership.tenant owned).symm
        (congrArg Ownership.instanceSubnetID owned).symm rfl
      intro found answer
      rw [same]
      exact genuine found (answered found answer)
    have moved : Frame stored.instanceID v (v.moveRoute E stored request) := frame_moveRoute request
    refine wp_bind_done (wp_wrapping
      (wp_ensureRoute mem same (routable_of_active serving) leads ?_))
    refine wp_update (mem_moveRoute _) same ?_ ?_
    · intro _
      exact ⟨_, mem_moveRoute _, same, active_moved serving, fun _ => leads.routed⟩
    · rw [← same]
      exact moved.trans
        (.update { stored with providerID := E.vm stored.instanceID } (.routed true))

theorem tend_spec (mem : a ∈ v.records) (serving : active a = true) :
    wp (contract E) (Done fun _ v' => Frame a.instanceID v v') (tend cfg snapshot at' a) v := by
  have stays : a.retiring = false := (active_iff.mp serving).2.2
  refine wp_bind_done (wp_ite ?_ ?_)
  · intro _
    refine wp_update mem rfl (fun _ => ⟨a, mem, rfl, serving⟩) ?_
    refine wp_done_mono ?_ (tend_rest_spec (Assignments.mem_set.mpr (.inl rfl)) rfl serving stays)
    intro _ v' framed
    exact (Frame.update a .occupied).trans framed
  · intro _
    exact tend_rest_spec mem rfl serving stays

/-- What the second loop of `Reconcile` knows throughout. -/
structure Sweeping (cfg : Config) (snapshot : Assignments) (listed : List Instance) (now : Time)
    (v : View) : Prop where
  config : v.config = some cfg
  listed : v.listed = some listed
  read : v.read = some now
  issued : ∀ b ∈ snapshot, b.instanceID ∈ v.issued

variable {listed : List Instance}

theorem Sweeping.frame {touched : String} {v' : View}
    (sweeping : Sweeping cfg snapshot listed at' v) (framed : Frame touched v v') :
    Sweeping cfg snapshot listed at' v' where
  config := framed.config.trans sweeping.config
  listed := framed.listed.trans sweeping.listed
  read := framed.read.trans sweeping.read
  issued b mem := framed.issued _ (sweeping.issued b mem)

theorem expired_of_sweeping {since : Time} (sweeping : Sweeping cfg snapshot listed at' v)
    (stamped : a.emptySince = some since)
    (passed : ¬ at' - since < (cfg.natConfig a.tenant).lastInstanceGracePeriod)
    (free : listed.any (dependsOn snapshot a) = false) : Expired v a := by
  refine ⟨cfg, listed, at', since, sweeping.config, sweeping.listed, sweeping.read, stamped,
    not_lt.mp passed, ?_⟩
  intro inst mem tenant subnet
  have independent := List.any_eq_false.mp free inst mem
  simp only [dependsOn, tenant, subnet, decide_true, Bool.true_and, decide_eq_true_eq,
    not_not] at independent
  obtain ⟨b, stored, same⟩ := List.mem_map.mp independent
  exact same ▸ sweeping.issued b stored

theorem visit_spec (absent : snapshot.get "" = none) (sweeping : Sweeping cfg snapshot listed at' v)
    (mem : a ∈ v.records) :
    wp (contract E) (Done fun _ v' => Frame a.instanceID v v')
      (visit cfg snapshot listed at' a) v := by
  refine wp_ite (fun _ => .refl _ _) fun unskipped => wp_ite ?_ ?_
  · intro used
    simp only [Bool.not_eq_true] at used
    refine tend_spec mem (active_iff.mpr ⟨?_, used.2.2.1, used.2.2.2⟩)
    by_contra pending
    exact unskipped ⟨pending, by simp [used.2.2.1]⟩
  · intro unused
    have sole : a.deleting = false → a.replaces = "" := by
      intro kept
      by_contra pending
      exact unskipped ⟨pending, by simp [kept]⟩
    refine wp_tenantAsleep_bind ?_
    intro asleep possible
    refine wp_ite ?_ ?_
    · intro wanted
      simp only [Bool.not_eq_true] at wanted
      have serving : active a = true := active_iff.mpr ⟨sole wanted.1, wanted.1, wanted.2.2.1⟩
      cases stamp : a.emptySince with
      | none =>
        refine wp_update mem rfl ?_ (.update a _)
        intro _
        exact ⟨a, mem, rfl, serving, sweeping.read⟩
      | some since =>
        refine wp_ite (fun _ => .refl _ _) fun passed => ?_
        refine deleteAssignment_spec absent mem sole fun _ => .inr (.inr ?_)
        refine expired_of_sweeping sweeping stamp passed ?_
        by_contra used
        rw [Bool.not_eq_false] at used
        exact unused ⟨used, wanted.2.1, by simp [wanted.1], by simp [wanted.2.2.1]⟩
    · intro unwanted
      refine deleteAssignment_spec absent mem sole ?_
      intro serving
      obtain ⟨_, kept, stays⟩ := active_iff.mp serving
      cases dedicated : cfg.dedicated a.tenant with
      | false => exact .inr (.inl ⟨cfg, sweeping.config, dedicated⟩)
      | true =>
        refine .inl (possible ?_)
        by_contra awake
        exact unwanted ⟨by simp [kept], dedicated, by simp [stays], awake⟩

theorem sweep_spec (absent : snapshot.get "" = none) (entries : List Assignment)
    (distinct : (entries.map Assignment.instanceID).Nodup) :
    ∀ {v : View}, Sweeping cfg snapshot listed at' v → (∀ a ∈ entries, a ∈ v.records) →
      wp (contract E) (Done fun _ _ => True) (sweep cfg snapshot listed at' entries) v := by
  induction entries with
  | nil =>
    intro v _ _
    trivial
  | cons assignment rest ih =>
    intro v sweeping stored
    rw [List.map_cons, List.nodup_cons] at distinct
    refine wp_bind_done (wp_done_mono ?_
      (visit_spec absent sweeping (stored assignment List.mem_cons_self)))
    intro _ v' framed
    refine ih distinct.2 (sweeping.frame framed) ?_
    intro a tail
    refine framed.records a (stored a (List.mem_cons_of_mem _ tail)) ?_
    intro same
    exact distinct.1 (same ▸ List.mem_map_of_mem tail)

theorem reconcile_spec : v.read = none → wp (contract E) (Done fun _ _ => True) reconcile v := by
  intro unread
  refine wp_getCurrent_bind ?_
  intro _ cfg
  refine wp_assignments_bind ?_
  intro base
  refine wp_bind_done (wp_wrapping (wp_attempt ?_))
  intro _
  refine ⟨trivial, ?_⟩
  intro reply v' seen
  cases seen with
  | notListed => trivial
  | listed listed =>
    refine wp_now_bind ?_
    intro _ at'
    refine wp_range_bind ?_
    intro _ pending same
    refine wp_bind_done (wp_done_mono ?_ (cutover_spec ?_ ?_ pending ?_))
    · intro returned v' unchanged
      refine wp_ite (fun _ => trivial) fun continues => ?_
      rw [unchanged (Bool.eq_false_iff.mpr continues)]
      refine wp_range_bind ?_
      intro _ entries order
      have distinct : (entries.map Assignment.instanceID).Nodup :=
        (order.map _).nodup_iff.mpr v.records.nodup
      refine sweep_spec base.get_empty entries distinct ?_ fun a mem => order.mem_iff.mp mem
      exact ⟨rfl, rfl, by simp [unread], base.issued⟩
    · rfl
    · rfl
    · intro a mem
      exact same.mem_iff.mp mem

end

/-- What a method has achieved when it returns without an error. -/
def Call.achieves : Call → View → Prop
  | .prepareSubnet tenant subnetID, v => Prepared tenant subnetID v
  | _, _ => True

/-- **Every method keeps to the contract.** -/
theorem Call.spec {E : Environment} {v : View} (call : Call) (unread : v.read = none) :
    Program.wp (contract E) (Done fun _ v' => call.achieves v') call.program v := by
  cases call with
  | prepareSubnet tenant subnetID => exact prepareSubnet_spec tenant subnetID
  | observe instanceID metrics observedAt => exact observe_spec instanceID metrics observedAt
  | replaceInstance instanceID => exact replaceInstance_spec instanceID
  | reconcile => exact reconcile_spec unread

/-! ## Every run -/

section

variable {E : Environment} {config : Config} {allowed : State → Label → Prop} {s s' : State}

/-- The base facts hold, and what the running method has left to do keeps to the
contract. -/
structure Conduct (E : Environment) (s : State) : Prop where
  base : Base s.view
  program : ∀ call program, s.running = some (call, program) →
    Program.wp (contract E) (Done fun _ v' => call.achieves v') program s.view

theorem Base.empty : Base {} := by
  refine ⟨?_, ?_, List.not_mem_nil, ?_, ?_, ?_, ?_⟩
  all_goals
    intro a mem
    exact absurd mem Assignments.not_mem_empty

variable {call : Call} {action : Action}

section

variable (conduct : Conduct E s)
include conduct

theorem Conduct.justified {next : Reply action → Code Unit}
    (runs : s.running = some (call, .perform action next)) : Justified E s.view action :=
  ((conduct.program call _ runs) conduct.base).1

theorem Conduct.achieved (runs : s.running = some (call, .pure ())) : call.achieves s.view :=
  conduct.program call _ runs

theorem Conduct.step {label : Label} (moved : Moved E s label s') : Conduct E s' := by
  have idle : ∀ {s' : State}, s'.view = s.view → s'.running = none → Conduct E s' := by
    intro s' same stopped
    exact ⟨same ▸ conduct.base, by simp [stopped]⟩
  cases moved with
  | began call =>
    refine ⟨⟨conduct.base.issued, conduct.base.predecessor, conduct.base.nonempty,
      conduct.base.named, conduct.base.unique, conduct.base.retiring,
      conduct.base.unstamped⟩, ?_⟩
    intro call program runs
    cases runs
    exact call.spec rfl
  | @performed call action next outcome after reply runs performed =>
    have seen := perform_seen performed
    refine ⟨conduct.base.seen (conduct.justified runs) seen, ?_⟩
    intro call program same
    cases same
    exact ((conduct.program call _ runs) conduct.base).2 reply _ seen
  | returned call => exact idle (by cases call <;> rfl) (by cases call <;> rfl)
  | failed | crashed => exact idle rfl rfl
  | configured | ticked | inserted | abandoned | removed => exact ⟨conduct.base, conduct.program⟩

theorem Conduct.issued (issues : s.issues = some action) :
    s.running.isSome = true ∧ Justified E s.view action := by
  cases runs : s.running with
  | none =>
    rw [State.issues, runs] at issues
    cases issues
  | some held =>
    obtain ⟨method, program⟩ := held
    rw [State.issues, runs] at issues
    cases program with
    | pure | fail => cases issues
    | perform action next =>
      cases issues
      exact ⟨rfl, conduct.justified runs⟩

end

theorem conduct_of_reaches (reached : (manager E config).Reaches allowed s) : Conduct E s := by
  refine reached.invariant ⟨Base.empty, by simp [manager]⟩ ?_
  intro s s' label _ conduct _ stepped
  exact conduct.step (step_moved stepped)

/-- What justified actions keep, and what does not depend on what a method has read,
holds in every run. -/
theorem view_of_reaches {P : View → Prop} (start : P {})
    (began : ∀ v : View, P v → P { v with config := none, listed := none, read := none })
    (kept : ∀ {s : State} {call : Call} {action : Action} {next : Reply action → Code Unit}
      {outcome : Outcome} {reply : Reply action} {v' : View},
      (manager E config).Reaches allowed s → Base s.view → P s.view →
      s.running = some (call, .perform action next) → allowed s (.perform outcome) →
      Justified E s.view action → Seen E s.view action reply v' → P v')
    (reached : (manager E config).Reaches allowed s) : P s.view := by
  refine reached.invariant (P := fun s => P s.view) start ?_
  intro s s' label before holds ok stepped
  have conduct := conduct_of_reaches before
  cases step_moved stepped with
  | began call => exact began _ holds
  | performed runs performed =>
    have seen := perform_seen performed
    exact kept before conduct.base holds runs ok (conduct.justified runs) seen
  | returned call => cases call <;> exact holds
  | failed | crashed | configured | ticked | inserted | abandoned | removed => exact holds

theorem records_of_reaches {P : Assignments → Prop} (start : P .empty)
    (kept : ∀ {s : State} {call : StoreCall} {outcome : Outcome} {result : call.Result}
      {after : Assignments}, Base s.view → P s.view.records → s.issues = some (.store call) →
      allowed s (.perform outcome) → Warranted E s.view call →
      call.apply s.view.records = .ok (result, after) → P after)
    (reached : (manager E config).Reaches allowed s) : P s.view.records := by
  refine view_of_reaches (P := fun v => P v.records) start (fun _ holds => holds) ?_ reached
  intro s call action next outcome reply v' _ base holds runs ok justified seen
  cases seen with
  | stored done => exact kept base holds (by rw [State.issues, runs]; rfl) ok justified done
  | storedLost _ done => exact kept base holds (by rw [State.issues, runs]; rfl) ok justified done
  | _ => exact holds

end

end Nstance.NAT
