import Nstance.NAT.Replacements

/-!
# What the mark of a routed instance says

An instance that is marked as routed has the route of its subnet, or its replacement has it,
in the middle of a cutover. This holds in every run in which replacements keep their
predecessors, retiring instances are not replaced, and a route is removed only after the
mark was cleared (`routed_means_routed`). `deleteAssignment` clears the mark last, and if
the deletion of the instance fails before, the mark stays without a route.
-/

namespace Nstance.NAT

open Interaction Manager

section

variable {E : Environment} {v : View} {a b c : Assignment}

/-- A replacement to which the route of the instance was moved. -/
structure Heir (E : Environment) (v : View) (a r : Assignment) : Prop where
  stored : r ∈ v.records
  names : r.replaces = a.instanceID
  kept : r.deleting = false
  recorded : r.providerID = E.vm r.instanceID
  nonempty : E.vm r.instanceID ≠ ""
  route : v.route a = some (E.vm r.instanceID)

/-- The route leads to the instance or to its replacement. -/
def Backed (E : Environment) (v : View) (a : Assignment) : Prop :=
  v.route a = some (E.vm a.instanceID) ∨ ∃ r, Heir E v a r

/-- What the mark of an instance stands for. -/
structure Upheld (E : Environment) (v : View) (a : Assignment) : Prop where
  serving : active a = true
  recorded : a.providerID = E.vm a.instanceID
  backed : Backed E v a

/-- What is marked as routed is. -/
def Marks (E : Environment) (v : View) : Prop :=
  ∀ a ∈ v.records, a.routed = true → Upheld E v a

theorem Heir.not_active (heir : Heir E v a b) (base : Base v) (mem : a ∈ v.records) :
    active b = false := by
  rw [Bool.eq_false_iff]
  intro serving
  have empty : a.instanceID = "" := heir.names.symm.trans (active_iff.mp serving).1
  exact base.nonempty (empty ▸ base.issued a mem)

variable {v' : View} {target : Option String}

theorem Backed.transfer (backed : Backed E v a) (stored : ∀ r ∈ v.records, r ∈ v'.records)
    (same : b.instanceID = a.instanceID) (route : v'.route b = v.route a) : Backed E v' b := by
  rcases backed with own | ⟨r, heir⟩
  · rw [← same] at own
    exact .inl (route.trans own)
  · exact .inr ⟨r, stored r heir.stored, heir.names.trans same.symm, heir.kept, heir.recorded,
      heir.nonempty, route.trans heir.route⟩

variable {after : Assignments} {request : NATRouteRequest}

theorem Backed.keep (backed : Backed E v a)
    (stays : ∀ r, Heir E v a r → v.route a = some (E.vm a.instanceID) ∨
      ∃ r' ∈ after, r'.instanceID = r.instanceID ∧ r'.replaces = r.replaces ∧
        r'.deleting = false ∧ r'.providerID = r.providerID) :
    Backed E { v with records := after } a := by
  rcases backed with own | ⟨r, heir⟩
  · exact .inl own
  rcases stays r heir with own | ⟨r', mem, same, replaces, kept, providerID⟩
  · exact .inl own
  refine .inr ⟨r', mem, replaces.trans heir.names, kept, ?_, ?_, ?_⟩
  · rw [providerID, same]
    exact heir.recorded
  · rw [same]
    exact heir.nonempty
  · rw [same]
    exact heir.route

theorem Upheld.keep (upheld : Upheld E v a)
    (stays : ∀ r, Heir E v a r → v.route a = some (E.vm a.instanceID) ∨
      ∃ r' ∈ after, r'.instanceID = r.instanceID ∧ r'.replaces = r.replaces ∧
        r'.deleting = false ∧ r'.providerID = r.providerID) :
    Upheld E { v with records := after } a :=
  ⟨upheld.serving, upheld.recorded, upheld.backed.keep stays⟩

/-- A new version of a stored assignment. Its own mark is upheld, and as an heir it
is as good as the old one, or not needed. -/
theorem Marks.set (marks : Marks E v) (base : Base v) (mem : b ∈ v.records)
    (same : c.instanceID = b.instanceID) (own : c.routed = true → Upheld E v c)
    (heir : ∀ a ∈ v.records, a.routed = true → Heir E v a b → v.route a = some (E.vm a.instanceID) ∨
        c.replaces = b.replaces ∧ c.deleting = false ∧ c.providerID = b.providerID) :
    Marks E { v with records := v.records.set c } := by
  have other : ∀ r ∈ v.records, r.instanceID ≠ b.instanceID → r ∈ v.records.set c := by
    intro r memr different
    refine Assignments.mem_set.mpr (.inr ⟨memr, ?_⟩)
    rw [same]
    exact different
  intro a stored routed
  rcases Assignments.mem_set.mp stored with rfl | ⟨memA, _⟩
  · refine (own routed).keep ?_
    intro r inherits
    have different : r.instanceID ≠ b.instanceID :=
      base.replaces_ne inherits.stored mem (inherits.names.trans same)
    exact .inr ⟨r, other r inherits.stored different, rfl, rfl, inherits.kept, rfl⟩
  refine (marks a memA routed).keep ?_
  intro r inherits
  by_cases isOld : r.instanceID = b.instanceID
  · cases Assignments.eq_of_mem inherits.stored mem isOld
    refine (heir a memA routed inherits).imp id ?_
    rintro ⟨replaces, kept, providerID⟩
    exact ⟨c, Assignments.mem_set.mpr (.inl rfl), same, replaces, kept, providerID⟩
  · exact .inr ⟨r, other r inherits.stored isOld, rfl, rfl, inherits.kept, rfl⟩

theorem Marks.add (marks : Marks E v) (fresh : Fresh v b.instanceID) (unmarked : b.routed = false) :
    Marks E { v with records := v.records.set b } := by
  intro a stored routed
  rcases Assignments.mem_set.mp stored with rfl | ⟨mem, _⟩
  · rw [unmarked] at routed
    cases routed
  refine (marks a mem routed).keep ?_
  intro r heir
  exact .inr ⟨r, Assignments.mem_set.mpr (.inr ⟨heir.stored, (fresh.unused r heir.stored).1⟩),
    rfl, rfl, heir.kept, rfl⟩

theorem Marks.erase {instanceID : String} (marks : Marks E v)
    (unneeded : ∀ a ∈ v.records, ∀ r, Heir E v a r → r.instanceID ≠ instanceID) :
    Marks E { v with records := v.records.erase instanceID } := by
  intro a stored routed
  obtain ⟨mem, _⟩ := Assignments.mem_erase.mp stored
  refine (marks a mem routed).keep ?_
  intro r heir
  exact .inr ⟨r, Assignments.mem_erase.mpr ⟨heir.stored, unneeded a mem r heir⟩, rfl, rfl,
    heir.kept, rfl⟩

theorem Marks.set_active (marks : Marks E v) (base : Base v) (mem : b ∈ v.records)
    (same : c.instanceID = b.instanceID) (serving : active b = true)
    (own : c.routed = true → Upheld E v c) : Marks E { v with records := v.records.set c } := by
  refine marks.set base mem same own ?_
  intro a memA _ inherits
  rw [inherits.not_active base memA] at serving
  cases serving

theorem Upheld.stamped {emptySince : Option Time} (upheld : Upheld E v b) :
    Upheld E v { b with emptySince } :=
  ⟨upheld.serving, upheld.recorded, upheld.backed.transfer (fun _ mem => mem) rfl rfl⟩

theorem route_of_settled (ordered : Ordered v.records) (memA : a ∈ v.records)
    (routed : a.routed = true) (inherits : Heir E v a b)
    (settled : b.replaces ≠ "" → b.providerID ≠ "" → v.route b = none ∨
      ∀ p ∈ v.records, p.instanceID = b.replaces → p.routed = true → Routed E v p)
    (base : Base v) : v.route a = some (E.vm a.instanceID) := by
  have pending : b.replaces ≠ "" := by
    intro empty
    exact base.nonempty (empty ▸ inherits.names ▸ base.issued a memA)
  have recorded : b.providerID ≠ "" := by
    rw [inherits.recorded]
    exact inherits.nonempty
  rcases settled pending recorded with gone | restored
  · obtain ⟨p, memp, names, tenant, subnet, _⟩ :=
      ordered.attached b inherits.stored pending inherits.kept
    cases Assignments.eq_of_mem memp memA (names.trans inherits.names)
    have route : v.route a = v.route b := by rw [View.route, tenant, subnet, View.route]
    rw [← route, inherits.route] at gone
    cases gone
  · exact (restored a memA inherits.names.symm routed).route

section

variable (marks : Marks E v) (base : Base v)
include marks base

theorem Marks.update (ordered : Ordered v.records) {closure : Closure} (mem : b ∈ v.records)
    (warranted : Warranted E v (.update b.instanceID closure)) :
    Marks E { v with records := v.records.set (closure.change.apply b) } := by
  cases closure with
  | prepared instanceType =>
    obtain ⟨d, memd, same, serving, routed⟩ := warranted
    cases Assignments.eq_of_mem memd mem same
    obtain ⟨replaces, _, stays⟩ := active_iff.mp serving
    refine marks.set_active base mem rfl serving fun _ => ?_
    exact ⟨active_iff.mpr ⟨replaces, rfl, stays⟩, routed.recorded, .inl routed.route⟩
  | occupied =>
    obtain ⟨d, memd, same, serving⟩ := warranted
    cases Assignments.eq_of_mem memd mem same
    exact marks.set_active base mem rfl serving fun routed => (marks b mem routed).stamped
  | emptied now =>
    obtain ⟨d, memd, same, serving, _⟩ := warranted
    cases Assignments.eq_of_mem memd mem same
    exact marks.set_active base mem rfl serving fun routed => (marks b mem routed).stamped
  | routed value =>
    obtain ⟨d, memd, same, serving, routed⟩ := warranted
    cases Assignments.eq_of_mem memd mem same
    refine marks.set_active base mem rfl serving fun mark => ?_
    have routed := routed mark
    exact ⟨serving, routed.recorded, .inl routed.route⟩
  | provider providerID =>
    obtain ⟨_, _, _, _, recorded, _⟩ := warranted
    refine marks.set base mem rfl ?_ ?_
    · intro routed
      have upheld := marks b mem routed
      exact ⟨upheld.serving, recorded, upheld.backed.transfer (fun _ mem => mem) rfl rfl⟩
    · intro a _ _ inherits
      exact .inr ⟨rfl, inherits.kept, recorded.trans inherits.recorded.symm⟩
  | deleting =>
    obtain ⟨d, memd, same, settled⟩ := warranted
    cases Assignments.eq_of_mem memd mem same
    refine marks.set base mem rfl (fun routed => by cases routed) ?_
    intro a memA routed inherits
    exact .inl (route_of_settled ordered memA routed inherits settled base)

theorem Marks.promote {replacement previous : Assignment}
    (memr : replacement ∈ v.records) (memp : previous ∈ v.records)
    (pending : replacement.replaces ≠ "") (names : previous.instanceID = replacement.replaces)
    (kept : replacement.deleting = false) (routed : Routed E v replacement) (scaledAt : Time) :
    Marks E { v with
      records := (v.records.set previous.retire).set (replacement.takeOver scaledAt) } := by
  have empty : previous.replaces = "" := base.named replacement memr previous memp names.symm
  have retired : Marks E { v with records := v.records.set previous.retire } := by
    refine marks.set base memp rfl (fun routed => by cases routed) ?_
    intro a memA _ inherits
    have none : a.instanceID = "" := inherits.names.symm.trans empty
    exact absurd (none ▸ base.issued a memA) base.nonempty
  have retiredBase : Base { v with records := v.records.set previous.retire } :=
    base.set memp rfl (.inl rfl) (fun _ => empty) fun still => absurd empty still
  have other : replacement.instanceID ≠ previous.instanceID :=
    base.replaces_ne memr memp names.symm
  have stored : replacement ∈ v.records.set previous.retire :=
    Assignments.mem_set.mpr (.inr ⟨memr, other⟩)
  have stays : replacement.retiring = false := by
    cases leaves : replacement.retiring with
    | false => rfl
    | true => exact absurd (base.retiring replacement memr leaves) pending
  refine retired.set retiredBase stored rfl ?_ ?_
  · intro _
    exact ⟨active_iff.mpr ⟨rfl, kept, stays⟩, routed.recorded, .inl routed.route⟩
  · intro a storedA mark inherits
    -- the predecessor lost its mark, and nothing else has this heir
    rcases Assignments.mem_set.mp storedA with rfl | ⟨_, other⟩
    · cases mark
    · exact absurd (inherits.names.symm.trans names.symm) other

theorem Marks.stored (ordered : Ordered v.records)
    {call : StoreCall} {result : call.Result} (warranted : Warranted E v call)
    (done : call.apply v.records = .ok (result, after)) : Marks E { v with records := after } := by
  have applied := StoreCall.applied done
  cases call with
  | claim =>
    cases applied with
    | same => exact marks
    | claimed => exact marks.add warranted.1 rfl
  | claimReplacement =>
    cases applied with
    | same => exact marks
    | replacing => exact marks.add warranted.1 rfl
  | update =>
    cases applied with
    | same => exact marks
    | updated found =>
      obtain ⟨mem, rfl⟩ := Assignments.get_eq_some.mp found
      exact marks.update base ordered mem warranted
  | promote =>
    cases applied with
    | same => exact marks
    | promoted found pending present =>
      obtain ⟨memr, rfl⟩ := Assignments.get_eq_some.mp found
      obtain ⟨memp, names⟩ := Assignments.get_eq_some.mp present
      obtain ⟨r, mem, same, _, kept, routed⟩ := warranted
      cases Assignments.eq_of_mem mem memr same
      exact marks.promote base memr memp pending names kept routed _
  | release instanceID =>
    cases applied with
    | same => exact marks
    | released =>
      refine marks.erase ?_
      intro a _ r heir same
      rcases warranted with marked | ⟨b, mem, own, _, unrecorded⟩
      · have kept := heir.kept
        rw [marked r heir.stored same] at kept
        cases kept
      · cases Assignments.eq_of_mem mem heir.stored (own.trans same.symm)
        exact heir.nonempty (heir.recorded.symm.trans unrecorded)

end

theorem Marks.congr (marks : Marks E v) (records : v'.records = v.records)
    (routes : v'.routes = v.routes) : Marks E v' := by
  intro a mem routed
  have upheld := marks a (records ▸ mem) routed
  have route : v'.route a = v.route a := by rw [View.route, routes, View.route]
  exact ⟨upheld.serving, upheld.recorded,
    upheld.backed.transfer (fun _ mem => records ▸ mem) rfl route⟩

/-! ## Changes of the routes -/

theorem route_setRoute_of_ne (other : serves request.tenant request.instanceSubnetID a = false) :
    (v.setRoute request target).route a = v.route a := by
  have different : a.tenant = request.tenant → a.instanceSubnetID ≠ request.instanceSubnetID := by
    simpa [serves] using other
  simp only [View.route, View.setRoute]
  by_cases tenant : a.tenant = request.tenant
  · rw [tenant, Function.update_self, Function.update_of_ne (different tenant)]
  · rw [Function.update_of_ne tenant]

theorem Marks.setRoute (marks : Marks E v) (here : ∀ a ∈ v.records, a.routed = true →
      serves request.tenant request.instanceSubnetID a = true →
        Backed E (v.setRoute request target) a) : Marks E (v.setRoute request target) := by
  intro a mem routed
  have upheld := marks a mem routed
  refine ⟨upheld.serving, upheld.recorded, ?_⟩
  cases served : serves request.tenant request.instanceSubnetID a with
  | true => exact here a mem routed served
  | false =>
    have same : (v.setRoute request target).route a = v.route a := route_setRoute_of_ne served
    exact upheld.backed.transfer (fun _ mem => mem) rfl same

theorem Marks.ensured (marks : Marks E v) (ordered : Ordered v.records)
    (justified : Justified E v (.ensureNATRoute request)) :
    Marks E (v.setRoute request (some request.providerInstanceID)) := by
  obtain ⟨b, mem, tenantb, subnetb, routable, recorded, nonempty, target⟩ := justified
  refine marks.setRoute ?_
  intro a memA routed served
  obtain ⟨tenant, subnet⟩ : a.tenant = request.tenant ∧
      a.instanceSubnetID = request.instanceSubnetID := by simpa [serves] using served
  have serving := (marks a memA routed).serving
  have route : (v.setRoute request (some request.providerInstanceID)).route a =
      some (E.vm b.instanceID) := by
    rw [target]
    exact route_setRoute _ tenant.symm subnet.symm
  by_cases sole : b.replaces = ""
  · have serves : active b = true := active_iff.mpr ⟨sole, routable.1, routable.2 sole⟩
    cases ordered.one a memA b mem serving serves (tenant.trans tenantb) (subnet.trans subnetb)
    exact .inl route
  obtain ⟨p, memp, names, tenantp, subnetp, servingp⟩ := ordered.attached b mem sole routable.1
  cases ordered.one p memp a memA servingp serving (tenantp.trans (tenantb.symm.trans tenant.symm))
    (subnetp.trans (subnetb.symm.trans subnet.symm))
  exact .inr ⟨b, mem, names.symm, routable.1, recorded, nonempty, route⟩

end

/-! ## Every run -/

section

variable {E : Environment} {config : Config} {s : State}

/-- A route is removed only when the instance that has it is not marked, and for a
tenant without managed NAT only when no instance of the subnet is. -/
def clearsMark (s : State) : Label → Bool
  | .perform _ =>
    match s.issues with
    | some (.removeNATRoute request) =>
      s.view.records.entries.all fun a =>
        !(a.routed && serves request.tenant request.instanceSubnetID a &&
          (a.providerID = request.providerInstanceID ||
            s.view.config.any fun cfg => !cfg.dedicated request.tenant))
    | _ => true
  | _ => true

theorem Marks.removed {request : NATRouteRequest} {outcome : Outcome} (marks : Marks E s.view)
    (ordered : Ordered s.view.records) (issues : s.issues = some (.removeNATRoute request))
    (clears : clearsMark s (.perform outcome) = true)
    (justified : Justified E s.view (.removeNATRoute request)) :
    Marks E (s.view.setRoute request none) := by
  obtain ⟨b, mem, tenantb, subnetb, provider, kept, stays, _, orphaned⟩ := justified
  refine marks.setRoute ?_
  intro a memA routed served
  exfalso
  simp only [clearsMark, issues, List.all_eq_true] at clears
  have unmarked := clears a memA
  simp only [routed, served, Bool.true_and, Bool.not_eq_true', Bool.or_eq_false_iff,
    decide_eq_false_iff_not] at unmarked
  obtain ⟨tenant, subnet⟩ : a.tenant = request.tenant ∧
      a.instanceSubnetID = request.instanceSubnetID := by simpa [serves] using served
  have serving := (marks a memA routed).serving
  by_cases sole : b.replaces = ""
  · have serves : active b = true := active_iff.mpr ⟨sole, kept, stays⟩
    cases ordered.one a memA b mem serving serves (tenant.trans tenantb) (subnet.trans subnetb)
    exact unmarked.1 provider.symm
  rcases orphaned sole with ⟨cfg, read, undedicated⟩ | leaving
  · rw [← tenantb] at undedicated
    simp [read, undedicated] at unmarked
  obtain ⟨p, memp, names, _, _, servingp⟩ := ordered.attached b mem sole kept
  obtain ⟨_, keptp, staysp⟩ := active_iff.mp servingp
  simpa [keptp, staysp] using leaving p memp names

theorem marks_of_reaches {allowed : State → Label → Prop}
    (spares : ∀ s outcome, allowed s (.perform outcome) →
      sparesNamed s (.perform outcome) = true ∧ sparesRetiring s (.perform outcome) = true)
    (clears : ∀ s outcome, allowed s (.perform outcome) → clearsMark s (.perform outcome) = true)
    (reached : (manager E config).Reaches allowed s) : Marks E s.view := by
  refine view_of_reaches ?_ (fun _ marks => ?_) ?_ reached
  · intro a mem
    exact absurd mem Assignments.not_mem_empty
  · exact marks.congr rfl rfl
  · intro s call action next outcome reply v' before base marks runs ok justified seen
    have ordered := ordered_of_reaches spares before
    cases seen with
    | stored done | storedLost _ done => exact marks.stored base ordered justified done
    | routed request => exact marks.ensured ordered justified
    | removed request =>
      exact marks.removed ordered (by rw [State.issues, runs]; rfl) (clears s outcome ok) justified
    | _ => exact marks.congr rfl rfl

/-- **Routed means routed.** In every run in which replacements keep their
predecessors, retiring instances are not replaced and routes are removed only after
the mark was cleared, the route of the subnet of a marked instance leads to it or to
its replacement. -/
theorem routed_means_routed
    (reached : (manager E config).Reaches
      (fun s label => (sparesNamed s label && sparesRetiring s label && clearsMark s label) = true)
      s) :
    ∀ a ∈ s.view.records, a.routed = true →
      s.view.routes a.tenant a.instanceSubnetID = some a.providerID ∨
        ∃ r ∈ s.view.records, r.replaces = a.instanceID ∧
          s.view.routes a.tenant a.instanceSubnetID = some r.providerID := by
  have marks : Marks E s.view := by
    refine marks_of_reaches ?_ ?_ reached
    · intro s outcome ok
      exact (Bool.and_eq_true_iff.mp (Bool.and_eq_true_iff.mp ok).1)
    · intro s outcome ok
      exact (Bool.and_eq_true_iff.mp ok).2
  intro a mem routed
  have upheld := marks a mem routed
  rcases upheld.backed with own | ⟨r, heir⟩
  · rw [upheld.recorded]
    exact .inl own
  refine .inr ⟨r, heir.stored, heir.names, ?_⟩
  rw [heir.recorded]
  exact heir.route

end

/-- The route was moved to the replacement, and the manager stops before it records
that. -/
def interruptedCutover : List Label :=
  prepares ++ startsReplacement ++
    reconciles [.order [nat1 0, nat0Routed], .inst (healthy "nat1"), .ok, .ok] ++ [.crash]

theorem interruptedCutover_routed :
    ∃ s, (manager lab labConfig).runWithin
        (fun s label => sparesNamed s label && sparesRetiring s label && clearsMark s label)
        (manager lab labConfig).start interruptedCutover = some s ∧
      s.view.routes "acme" "net" = some "nat1" ∧ nat0Routed ∈ s.view.records ∧
      (s.view.routes "acme" "net" = some "nat0" ∨
        ∃ r ∈ s.view.records, r.replaces = "nat0" ∧
          s.view.routes "acme" "net" = some r.providerID) :=
  ⟨_, rfl, rfl, .tail _ (.head _), routed_means_routed
    (Machine.reaches_of_runWithin (M := manager lab labConfig) interruptedCutover .start rfl)
      nat0Routed (.tail _ (.head _)) rfl⟩

/-- The grace period has ended; the route is removed and the deletion of the instance
fails. -/
def failedDeletion : List Label :=
  prepares ++ stamps ++ [.tick 10] ++
    reconciles [.order [{ nat0Routed with emptySince := some 0 }],
      .order [{ nat0Routed with emptySince := some 0 }], .asleep false, .ok,
      .fail (.message "provider unavailable")] ++ [.done]

/-- The assignment still claims the route that was removed. -/
theorem failedDeletion_unrouted :
    ∃ s, (manager lab labConfig).run (manager lab labConfig).start failedDeletion = some s ∧
      s.view.records.entries = [{ nat0Routed with emptySince := some 0 }] ∧
      nat0Routed.routed = true ∧ s.view.routes "acme" "net" = none :=
  ⟨_, rfl, rfl, rfl, rfl⟩

end Nstance.NAT
