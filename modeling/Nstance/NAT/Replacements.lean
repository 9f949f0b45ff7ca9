import Nstance.NAT.Compliance

/-!
# Replacements and the instances they replace

A replacement that is not being deleted has a predecessor in the same subnet, as long as no
instance is marked as deleting that a pending replacement names (`replacements_attached`).
A subnet has one active instance at most if, moreover, no replacement is started for a
retiring instance (`one_active_per_subnet`).

`Reconcile` removes an unused instance also while a replacement of it is pending, and
`Observe` replaces a retiring instance that reports its health. A run shows each failure.
-/

namespace Nstance.NAT

open Interaction Manager

/-- Every pending replacement names a stored instance of its subnet, of which the
given condition holds. -/
def Attached (K : Assignment → Prop) (s : Assignments) : Prop :=
  ∀ r ∈ s, r.replaces ≠ "" → r.deleting = false →
    ∃ p ∈ s, p.instanceID = r.replaces ∧ p.tenant = r.tenant ∧
      p.instanceSubnetID = r.instanceSubnetID ∧ K p

namespace Attached

variable {K : Assignment → Prop} {v : View} {a b : Assignment}

/-- A new version of a stored assignment. As a predecessor it is as good as the old
one, or no pending replacement names it. -/
theorem set (attached : Attached K v.records) (base : Base v) (mem : a ∈ v.records)
    (same : b.instanceID = a.instanceID) (tenant : b.tenant = a.tenant)
    (subnet : b.instanceSubnetID = a.instanceSubnetID)
    (replaces : b.replaces ≠ "" → b.replaces = a.replaces)
    (kept : b.replaces ≠ "" → b.deleting = false → a.deleting = false)
    (good : (K a → K b) ∨ ∀ r ∈ v.records, r.replaces = a.instanceID → r.instanceID ≠ a.instanceID →
      r.deleting = true) : Attached K (v.records.set b) := by
  intro r stored pending undeleted
  rcases Assignments.mem_set.mp stored with rfl | ⟨memr, other⟩
  · obtain ⟨p, memp, names, tenantp, subnetp, holds⟩ :=
      attached a mem (replaces pending ▸ pending) (kept pending undeleted)
    have different : a.instanceID ≠ p.instanceID := base.replaces_ne mem memp names.symm
    refine ⟨p, Assignments.mem_set.mpr (.inr ⟨memp, ?_⟩), names.trans (replaces pending).symm,
      tenantp.trans tenant.symm, subnetp.trans subnet.symm, holds⟩
    rw [same]
    exact different.symm
  obtain ⟨p, memp, names, tenantp, subnetp, holds⟩ := attached r memr pending undeleted
  by_cases own : p.instanceID = b.instanceID
  · have found : p = a := Assignments.eq_of_mem memp mem (own.trans same)
    subst found
    rcases good with good | unnamed
    · exact ⟨b, Assignments.mem_set.mpr (.inl rfl), same.trans names, tenant.trans tenantp,
        subnet.trans subnetp, good holds⟩
    · rw [unnamed r memr names.symm (same ▸ other)] at undeleted
      cases undeleted
  · exact ⟨p, Assignments.mem_set.mpr (.inr ⟨memp, own⟩), names, tenantp, subnetp, holds⟩

theorem add (attached : Attached K v.records) (fresh : Fresh v a.instanceID)
    (predecessor : a.replaces ≠ "" → ∃ p ∈ v.records, p.instanceID = a.replaces ∧
      p.tenant = a.tenant ∧ p.instanceSubnetID = a.instanceSubnetID ∧ K p) :
    Attached K (v.records.set a) := by
  have stays : ∀ p ∈ v.records, p ∈ v.records.set a := fun p mem =>
    Assignments.mem_set.mpr (.inr ⟨mem, (fresh.unused p mem).1⟩)
  intro r stored pending undeleted
  rcases Assignments.mem_set.mp stored with rfl | ⟨memr, _⟩
  · obtain ⟨p, memp, rest⟩ := predecessor pending
    exact ⟨p, stays p memp, rest⟩
  · obtain ⟨p, memp, rest⟩ := attached r memr pending undeleted
    exact ⟨p, stays p memp, rest⟩

theorem erase {s : Assignments} {instanceID : String} (attached : Attached K s)
    (unnamed : ∀ p ∈ s, p.instanceID = instanceID → K p →
      ∀ r ∈ s, r.replaces = instanceID → r.deleting = true) : Attached K (s.erase instanceID) := by
  intro r stored pending undeleted
  obtain ⟨memr, _⟩ := Assignments.mem_erase.mp stored
  obtain ⟨p, memp, names, tenant, subnet, holds⟩ := attached r memr pending undeleted
  refine ⟨p, Assignments.mem_erase.mpr ⟨memp, ?_⟩, names, tenant, subnet, holds⟩
  intro same
  rw [unnamed p memp same holds r memr (names.symm.trans same)] at undeleted
  cases undeleted

end Attached

/-! ## Calls of the store -/

section

variable {E : Environment} {v : View} {K : Assignment → Prop} {a : Assignment}

theorem ownership_apply (closure : Closure) (a : Assignment) :
    (closure.change.apply a).tenant = a.tenant ∧
      (closure.change.apply a).instanceSubnetID = a.instanceSubnetID :=
  ⟨congrArg Ownership.tenant (closure.change.ownership a),
    congrArg Ownership.instanceSubnetID (closure.change.ownership a)⟩

theorem replaces_apply (closure : Closure) (a : Assignment) :
    (closure.change.apply a).replaces = a.replaces := by
  cases closure <;> rfl

variable {closure : Closure}

/-- Only `PrepareSubnet` clears a mark, and it does so on active instances. -/
theorem undeleted_of_apply (mem : a ∈ v.records)
    (warranted : Warranted E v (.update a.instanceID closure))
    (kept : (closure.change.apply a).deleting = false) : a.deleting = false := by
  cases closure with
  | prepared =>
    obtain ⟨b, memb, same, serving, _⟩ := warranted
    rw [← Assignments.eq_of_mem memb mem same]
    exact (active_iff.mp serving).2.1
  | deleting => cases kept
  | occupied | emptied | routed | provider => exact kept

section

variable (attached : Attached K v.records) (base : Base v)
include attached base

theorem Attached.update (mem : a ∈ v.records)
    (warranted : Warranted E v (.update a.instanceID closure))
    (stable : ∀ (closure : Closure) a, closure ≠ .deleting → K a → K (closure.change.apply a))
    (spared : closure = .deleting →
      ∀ r ∈ v.records, r.replaces = a.instanceID → r.deleting = true) :
    Attached K (v.records.set (closure.change.apply a)) := by
  refine attached.set base mem (closure.change.instanceID_apply a) (ownership_apply closure a).1
    (ownership_apply closure a).2 (fun _ => replaces_apply closure a)
    (fun _ => undeleted_of_apply mem warranted) ?_
  by_cases marks : closure = .deleting
  · exact .inr fun r memr names _ => spared marks r memr names
  · exact .inl (stable closure a marks)

theorem Attached.promote {replacement previous : Assignment} (memr : replacement ∈ v.records)
    (memp : previous ∈ v.records) (pending : replacement.replaces ≠ "")
    (names : previous.instanceID = replacement.replaces) (scaledAt : Time) :
    Attached K ((v.records.set previous.retire).set (replacement.takeOver scaledAt)) := by
  intro r stored pendingr undeleted
  -- neither of the two new versions is a pending replacement
  rcases Assignments.mem_set.mp stored with rfl | ⟨stored, otherr⟩
  · exact absurd rfl pendingr
  rcases Assignments.mem_set.mp stored with rfl | ⟨mem, otherp⟩
  · exact absurd (base.named replacement memr previous memp names.symm) pendingr
  obtain ⟨p, stored, namesp, tenant, subnet, holds⟩ := attached r mem pendingr undeleted
  have notPrevious : p.instanceID ≠ previous.instanceID := by
    intro same
    have equal : r = replacement :=
      base.unique r mem replacement memr pendingr (namesp.symm.trans (same.trans names))
    exact otherr (equal ▸ rfl)
  have notReplacement : p.instanceID ≠ replacement.instanceID := by
    intro same
    exact pending (base.named r mem replacement memr (namesp.symm.trans same))
  exact ⟨p, Assignments.mem_set.mpr (.inr ⟨Assignments.mem_set.mpr (.inr ⟨stored, notPrevious⟩),
    notReplacement⟩), namesp, tenant, subnet, holds⟩

theorem Attached.stored {call : StoreCall}
    {result : call.Result} {after : Assignments} (warranted : Warranted E v call)
    (done : call.apply v.records = .ok (result, after))
    (stable : ∀ (closure : Closure) a, closure ≠ .deleting → K a → K (closure.change.apply a))
    (undeleted : ∀ a, K a → a.deleting = false)
    (current : ∀ current instanceID instanceType createdAt,
      call = .claimReplacement current instanceID instanceType createdAt →
      ∀ a : Assignment, a.replaces = "" → a.deleting = false → a.retiring = current.retiring → K a)
    (spared : ∀ instanceID, call = .update instanceID .deleting →
      ∀ r ∈ v.records, r.replaces = instanceID → r.deleting = true) : Attached K after := by
  have applied := StoreCall.applied done
  cases call with
  | claim =>
    cases applied with
    | same => exact attached
    | claimed => exact attached.add warranted.1 fun pending => absurd rfl pending
  | claimReplacement =>
    cases applied with
    | same => exact attached
    | replacing =>
      obtain ⟨fresh, a, mem, owned, empty, kept, leaves⟩ := warranted
      refine attached.add fresh fun _ => ⟨a, mem, instanceID_of_ownership owned,
        congrArg Ownership.tenant owned, congrArg Ownership.instanceSubnetID owned, ?_⟩
      exact current _ _ _ _ rfl a empty kept leaves
  | update =>
    cases applied with
    | same => exact attached
    | updated found =>
      obtain ⟨mem, rfl⟩ := Assignments.get_eq_some.mp found
      refine attached.update base mem warranted stable ?_
      intro marks
      subst marks
      exact spared _ rfl
  | promote =>
    cases applied with
    | same => exact attached
    | promoted found pending present =>
      obtain ⟨memr, rfl⟩ := Assignments.get_eq_some.mp found
      obtain ⟨memp, names⟩ := Assignments.get_eq_some.mp present
      exact attached.promote base memr memp pending names _
  | release instanceID =>
    cases applied with
    | same => exact attached
    | released =>
      refine attached.erase ?_
      intro p memp same holds r memr names
      rcases warranted with marked | ⟨a, mem, own, pending, _⟩
      · have kept := undeleted p holds
        rw [marked p memp same] at kept
        cases kept
      · exact absurd (base.named r memr a mem (names.trans own.symm)) pending

end

end

/-! ## Predecessors -/

section

variable {E : Environment} {config : Config} {s : State}

/-- No instance is marked as deleting that a pending replacement names. -/
def sparesNamed (s : State) : Label → Bool
  | .perform _ =>
    match s.issues with
    | some (.store (.update instanceID .deleting)) =>
      s.view.records.entries.all fun r => r.replaces ≠ instanceID || r.deleting
    | _ => true
  | _ => true

theorem spared_of_issues {outcome : Outcome} {instanceID : String}
    (issues : s.issues = some (.store (.update instanceID .deleting)))
    (spares : sparesNamed s (.perform outcome) = true) :
    ∀ r ∈ s.view.records, r.replaces = instanceID → r.deleting = true := by
  intro r mem names
  simp only [sparesNamed, issues, List.all_eq_true] at spares
  simpa [names] using spares r mem

theorem deleting_apply {closure : Closure} {a : Assignment} (unmarked : closure ≠ .deleting)
    (kept : a.deleting = false) : (closure.change.apply a).deleting = false := by
  cases closure with
  | deleting => exact absurd rfl unmarked
  | prepared => rfl
  | occupied | emptied | routed | provider => exact kept

theorem attached_of_reaches {allowed : State → Label → Prop}
    (spares : ∀ s outcome, allowed s (.perform outcome) → sparesNamed s (.perform outcome) = true)
    (reached : (manager E config).Reaches allowed s) :
    Attached (fun p => p.deleting = false) s.view.records := by
  refine records_of_reaches ?_ ?_ reached
  · intro r mem
    exact absurd mem Assignments.not_mem_empty
  · intro s call outcome result after base attached issues ok warranted done
    refine attached.stored base warranted done (fun _ _ => deleting_apply) (fun _ kept => kept)
      (fun _ _ _ _ _ _ _ kept _ => kept) ?_
    intro instanceID same
    subst same
    exact spared_of_issues issues (spares s outcome ok)

/-- **Replacements keep their predecessors.** In every run in which no instance is
marked as deleting that a pending replacement names, every pending replacement names
a stored instance of its subnet; what `Reconcile` is about to promote is one. -/
theorem replacements_attached
    (reached : (manager E config).Reaches (fun s label => sparesNamed s label = true) s) :
    (∀ r ∈ s.view.records, r.replaces ≠ "" → r.deleting = false →
      ∃ p ∈ s.view.records, p.instanceID = r.replaces ∧ p.tenant = r.tenant ∧
        p.instanceSubnetID = r.instanceSubnetID) ∧
      ∀ instanceID scaledAt, s.issues = some (.store (.promote instanceID scaledAt)) →
        ∃ r ∈ s.view.records, r.instanceID = instanceID ∧
          ∃ p ∈ s.view.records, p.instanceID = r.replaces := by
  have attached := attached_of_reaches (fun _ _ spares => spares) reached
  constructor
  · intro r mem pending kept
    obtain ⟨p, stored, names, tenant, subnet, _⟩ := attached r mem pending kept
    exact ⟨p, stored, names, tenant, subnet⟩
  · intro instanceID scaledAt issues
    obtain ⟨r, mem, same, pending, kept, _⟩ := ((conduct_of_reaches reached).issued issues).2
    obtain ⟨p, stored, names, _⟩ := attached r mem pending kept
    exact ⟨r, mem, same, p, stored, names⟩

end

/-! ## A laboratory: one tenant, one subnet -/

/-- The VMs have the IDs of their instances, and no tenant sleeps. -/
def lab : Environment where
  vm instanceID := instanceID
  awake _ := true

/-- One tenant with managed NAT and two instance types. -/
def labConfig : Config where
  nat tenant :=
    if tenant = "acme" then
      some
        { group := "nat", lastInstanceGracePeriod := 10, replacementTimeout := 100
          instanceTypeLadder := ["small", "large"] }
    else none
  groups _ _ := { template := "router", instanceType := "small" }

/-- The instance that serves. -/
def nat0 : Assignment :=
  { tenant := "acme", instanceSubnetID := "net", instanceID := "nat0", instanceType := "small"
    createdAt := 0 }

/-- It serves the subnet. -/
def nat0Routed : Assignment := { nat0 with providerID := "nat0", routed := true }

/-- A replacement of it as it is claimed. -/
def nat1 (createdAt : Time) : Assignment :=
  { tenant := "acme", instanceSubnetID := "net", instanceID := "nat1", instanceType := "small"
    replaces := "nat0", createdAt }

/-- A registered instance that reports. -/
def healthy (instanceID : String) : Instance :=
  { id := instanceID, tenant := "acme", subnetID := "net", providerID := some instanceID
    registeredAt := some 0, healthAt := some 0 }

/-- A method runs from its beginning, with the outcomes of its actions. -/
def runs (call : Call) (outcomes : List Outcome) : List Label :=
  .begin call :: outcomes.map .perform

/-- The first instance is claimed and created; when it is ready it takes the route. -/
def prepares : List Label :=
  runs (.prepareSubnet "acme" "net")
      [.ok, .ok, .order [], .id "nat0", .ok, .ok, .fail .noRows, .ok] ++ [.done] ++
    runs (.prepareSubnet "acme" "net")
      [.ok, .ok, .order [nat0], .inst (healthy "nat0"), .ok, .ok, .ok, .ok] ++ [.done]

/-- A replacement of the first instance is started. -/
def startsReplacement : List Label :=
  runs (.replaceInstance "nat0") [.ok, .ok, .ok, .id "nat1", .ok, .ok, .ok, .ok] ++ [.done]

/-- `Reconcile` finds no ordinary instances and then does as told. -/
def reconciles (outcomes : List Outcome) : List Label :=
  runs .reconcile ([.ok, .ok, .instances [], .ok] ++ outcomes)

/-- `Reconcile` finds the first instance without dependants for the first time. -/
def stamps : List Label :=
  reconciles [.order [nat0Routed], .order [nat0Routed], .asleep false, .ok] ++ [.done]

theorem pending_replacement_attached :
    ∃ s, (manager lab labConfig).runWithin sparesNamed (manager lab labConfig).start
        (prepares ++ startsReplacement) = some s ∧
      s.view.records.entries = [nat1 0, nat0Routed] ∧
      ∃ p ∈ s.view.records, p.instanceID = "nat0" ∧ p.tenant = "acme" ∧
        p.instanceSubnetID = "net" := by
  refine ⟨_, rfl, rfl, ?_⟩
  exact (replacements_attached (Machine.reaches_of_runWithin (M := manager lab labConfig)
    (prepares ++ startsReplacement) .start rfl)).1 (nat1 0) List.mem_cons_self (by decide) rfl

/-- The grace period of the first instance ends while its replacement boots. It is
removed; the replacement becomes ready, and the route is moved to it. -/
def removedUnderReplacement : List Label :=
  prepares ++ stamps ++ [.tick 5] ++ startsReplacement ++ [.tick 5] ++
    reconciles [.order [nat1 5, { nat0Routed with emptySince := some 0 }], .fail .noRows,
      .order [nat1 5, { nat0Routed with emptySince := some 0 }],
      .asleep false, .ok, .ok, .ok, .ok] ++ [.done] ++
    reconciles [.order [nat1 5], .inst (healthy "nat1"), .ok, .ok]

/-- The predecessor of the replacement is gone, and `Reconcile` is about to promote
it. -/
theorem removedUnderReplacement_dangling :
    ∃ s, (manager lab labConfig).run (manager lab labConfig).start removedUnderReplacement =
        some s ∧
      s.issues = some (.store (.promote "nat1" 10)) ∧
      ∃ r ∈ s.view.records, r.instanceID = "nat1" ∧ r.replaces ≠ "" ∧ r.deleting = false ∧
        s.view.records.get r.replaces = none :=
  ⟨_, rfl, rfl, { nat1 5 with providerID := "nat1" }, List.mem_cons_self, rfl, by decide, rfl, rfl⟩

/-! ## The active instance of a subnet -/

section

variable {E : Environment} {config : Config} {s : State}

/-- A subnet has one active assignment at most. -/
def OneActive (s : Assignments) : Prop :=
  ∀ a ∈ s, ∀ b ∈ s, active a = true → active b = true → a.tenant = b.tenant →
    a.instanceSubnetID = b.instanceSubnetID → a = b

namespace OneActive

variable {s : Assignments} {a b : Assignment}

/-- A new version, or an instance that was not there, is alone if no other active
instance serves the subnet. -/
theorem set (one : OneActive s) (alone : active b = true → ∀ c ∈ s, c.instanceID ≠ b.instanceID →
      active c = true → c.tenant = b.tenant → c.instanceSubnetID ≠ b.instanceSubnetID) :
    OneActive (s.set b) := by
  intro c storedc d storedd activec actived tenant subnet
  rcases Assignments.mem_set.mp storedc with rfl | ⟨memc, otherc⟩
  · rcases Assignments.mem_set.mp storedd with rfl | ⟨memd, otherd⟩
    · rfl
    · exact absurd subnet.symm (alone activec d memd otherd actived tenant.symm)
  rcases Assignments.mem_set.mp storedd with rfl | ⟨memd, _⟩
  · exact absurd subnet (alone actived c memc otherc activec tenant)
  · exact one c memc d memd activec actived tenant subnet

theorem update (one : OneActive s) (mem : a ∈ s) (same : b.instanceID = a.instanceID)
    (tenant : b.tenant = a.tenant) (subnet : b.instanceSubnetID = a.instanceSubnetID)
    (was : active b = true → active a = true) : OneActive (s.set b) := by
  refine one.set ?_
  intro serving c memc other activec tenantc subnetc
  rw [one c memc a mem activec (was serving) (tenantc.trans tenant) (subnetc.trans subnet),
    same] at other
  exact other rfl

theorem erase (one : OneActive s) (instanceID : String) : OneActive (s.erase instanceID) := by
  intro a storeda b storedb
  exact one a (Assignments.mem_erase.mp storeda).1 b (Assignments.mem_erase.mp storedb).1

end OneActive

variable {closure : Closure}

theorem active_of_apply {v : View} {a : Assignment} (mem : a ∈ v.records)
    (warranted : Warranted E v (.update a.instanceID closure))
    (serving : active (closure.change.apply a) = true) : active a = true := by
  obtain ⟨replaces, kept, stays⟩ := active_iff.mp serving
  refine active_iff.mpr ⟨replaces_apply closure a ▸ replaces,
    undeleted_of_apply mem warranted kept, ?_⟩
  cases closure <;> exact stays

theorem OneActive.promote {v : View} {replacement previous : Assignment}
    (one : OneActive v.records) (memp : previous ∈ v.records) (serving : active previous = true)
    (tenant : previous.tenant = replacement.tenant)
    (subnet : previous.instanceSubnetID = replacement.instanceSubnetID) (scaledAt : Time) :
    OneActive ((v.records.set previous.retire).set (replacement.takeOver scaledAt)) := by
  have retired : active previous.retire = false := by simp [active, Assignment.retire]
  have first : OneActive (v.records.set previous.retire) :=
    one.update memp rfl rfl rfl fun still => absurd (retired.symm.trans still) (by decide)
  refine first.set ?_
  intro _ c stored _ activec tenantc subnetc
  rcases Assignments.mem_set.mp stored with rfl | ⟨memc, otherc⟩
  · rw [retired] at activec
    cases activec
  have same := one c memc previous memp activec serving (tenantc.trans tenant.symm)
    (subnetc.trans subnet.symm)
  exact otherc (same ▸ rfl)

/-- A retiring instance is not replaced again. -/
def sparesRetiring (s : State) : Label → Bool
  | .perform _ =>
    match s.issues with
    | some (.store (.claimReplacement current _ _ _)) => !current.retiring
    | _ => true
  | _ => true

theorem stays_of_issues {outcome : Outcome} {current : Assignment}
    {instanceID instanceType : String} {createdAt : Time}
    (issues : s.issues =
      some (.store (.claimReplacement current instanceID instanceType createdAt)))
    (spares : sparesRetiring s (.perform outcome) = true) : current.retiring = false := by
  simpa [sparesRetiring, issues] using spares

/-- What holds as long as predecessors stay and retiring instances are not replaced. -/
structure Ordered (s : Assignments) : Prop where
  attached : Attached (fun p => active p = true) s
  one : OneActive s

theorem active_apply {a : Assignment} (unmarked : closure ≠ .deleting) (serving : active a = true) :
    active (closure.change.apply a) = true := by
  obtain ⟨replaces, kept, stays⟩ := active_iff.mp serving
  refine active_iff.mpr
    ⟨(replaces_apply closure a).trans replaces, deleting_apply unmarked kept, ?_⟩
  cases closure <;> exact stays

theorem OneActive.stored {v : View} {call : StoreCall} {result : call.Result}
    {after : Assignments} (one : OneActive v.records)
    (attached : Attached (fun p => active p = true) v.records) (base : Base v)
    (warranted : Warranted E v call) (done : call.apply v.records = .ok (result, after)) :
    OneActive after := by
  have applied := StoreCall.applied done
  cases call with
  | claim =>
    cases applied with
    | same => exact one
    | claimed =>
      refine one.set ?_
      intro _ c mem _ activec tenant subnet
      have inactive := warranted.2 c mem (by simp [serves, tenant, subnet])
      rw [inactive] at activec
      cases activec
  | claimReplacement current =>
    cases applied with
    | same => exact one
    | replacing =>
      obtain ⟨_, a, mem, owned, _⟩ := warranted
      refine one.set ?_
      intro serving
      have replaces : current.instanceID = "" := (active_iff.mp serving).1
      exact absurd (replaces ▸ instanceID_of_ownership owned ▸ base.issued a mem) base.nonempty
  | update instanceID closure =>
    cases applied with
    | same => exact one
    | updated found =>
      obtain ⟨mem, rfl⟩ := Assignments.get_eq_some.mp found
      exact one.update mem (closure.change.instanceID_apply _) (ownership_apply closure _).1
        (ownership_apply closure _).2 (active_of_apply mem warranted)
  | promote _ scaledAt =>
    cases applied with
    | same => exact one
    | @promoted _ _ replacement previous found pending present =>
      obtain ⟨memr, rfl⟩ := Assignments.get_eq_some.mp found
      obtain ⟨memp, names⟩ := Assignments.get_eq_some.mp present
      obtain ⟨r, mem, same, _, kept, _⟩ := warranted
      rw [Assignments.eq_of_mem mem memr same] at kept
      obtain ⟨p, stored, namesp, tenant, subnet, serving⟩ :=
        attached replacement memr pending kept
      cases Assignments.eq_of_mem stored memp (namesp.trans names.symm)
      exact one.promote memp serving tenant subnet scaledAt
  | release instanceID =>
    cases applied with
    | same => exact one
    | released => exact one.erase instanceID

theorem ordered_of_reaches {allowed : State → Label → Prop}
    (spares : ∀ s outcome, allowed s (.perform outcome) →
      sparesNamed s (.perform outcome) = true ∧ sparesRetiring s (.perform outcome) = true)
    (reached : (manager E config).Reaches allowed s) : Ordered s.view.records := by
  refine records_of_reaches ?_ ?_ reached
  · refine ⟨?_, ?_⟩ <;>
    · intro a mem
      exact absurd mem Assignments.not_mem_empty
  · intro s call outcome result after base ordered issues ok warranted done
    refine ⟨ordered.attached.stored base warranted done (fun _ _ => active_apply)
      (fun _ serving => (active_iff.mp serving).2.1) ?_ ?_,
      ordered.one.stored ordered.attached base warranted done⟩
    · intro current instanceID instanceType createdAt same a replaces kept stays
      subst same
      rw [stays_of_issues issues (spares s outcome ok).2] at stays
      exact active_iff.mpr ⟨replaces, kept, stays⟩
    · intro instanceID same
      subst same
      exact spared_of_issues issues (spares s outcome ok).1

/-- **One active instance.** In every run in which no instance is marked as deleting
that a pending replacement names, and no replacement is started for a retiring
instance, a subnet has one active instance at most, and an instance has one
replacement at most. -/
theorem one_active_per_subnet
    (reached : (manager E config).Reaches
      (fun s label => (sparesNamed s label && sparesRetiring s label) = true) s) :
    (∀ a ∈ s.view.records, ∀ b ∈ s.view.records, active a = true → active b = true →
      a.tenant = b.tenant → a.instanceSubnetID = b.instanceSubnetID → a = b) ∧
      ∀ p ∈ s.view.records, ∀ r ∈ s.view.records, ∀ q ∈ s.view.records,
        r.replaces = p.instanceID → q.replaces = p.instanceID → r = q := by
  refine ⟨(ordered_of_reaches (by simp) reached).one, ?_⟩
  intro p memp r memr q memq namesr namesq
  have base := (conduct_of_reaches reached).base
  refine base.unique r memr q memq ?_ (namesr.trans namesq.symm)
  intro empty
  exact base.nonempty (empty ▸ namesr ▸ base.issued p memp)

end

/-- The replacement of the first instance is ready and takes its place. -/
def promotesReplacement : List Label :=
  reconciles [.order [nat1 0, nat0Routed], .inst (healthy "nat1"), .ok, .ok, .ok] ++ [.done]

/-- The first instance when its replacement was promoted. -/
def nat0Retiring : Assignment := nat0Routed.retire

/-- The replacement after it has taken over. -/
def nat1Routed : Assignment := { nat1 0 with providerID := "nat1" }.takeOver 0

theorem promoted_replacement_alone :
    ∃ s, (manager lab labConfig).runWithin
        (fun s label => sparesNamed s label && sparesRetiring s label)
        (manager lab labConfig).start (prepares ++ startsReplacement ++ promotesReplacement) =
          some s ∧
      s.view.records.entries = [nat1Routed, nat0Retiring] ∧
      ∀ a ∈ s.view.records, active a = true → a.tenant = "acme" → a.instanceSubnetID = "net" →
        a = nat1Routed := by
  refine ⟨_, rfl, rfl, ?_⟩
  intro a mem serving tenant subnet
  exact (one_active_per_subnet (Machine.reaches_of_runWithin (M := manager lab labConfig)
    (prepares ++ startsReplacement ++ promotesReplacement) .start rfl)).1 a mem nat1Routed
      List.mem_cons_self serving rfl tenant subnet

/-- A report of full load. -/
def busy : Metrics :=
  { networkInterface := some ⟨0, 0⟩, cpuUsage := some 1, conntrackCount := some 0
    conntrackMax := some 1 }

/-- The retiring instance sends three reports. The manager starts a larger replacement
of it, and promotes that too. -/
def replacedWhileRetiring : List Label :=
  prepares ++ startsReplacement ++ promotesReplacement ++
    [.tick 1] ++ runs (.observe "nat0" (some busy) 1) [.ok, .ok] ++ [.done] ++
    [.tick 1] ++ runs (.observe "nat0" (some busy) 2)
      [.ok, .ok, .ok, .order [nat1Routed, nat0Retiring], .ok, .ok, .ok, .ok] ++ [.done] ++
    [.tick 1] ++ runs (.observe "nat0" (some busy) 3)
      [.ok, .ok, .ok, .order [nat1Routed, nat0Retiring], .ok, .ok, .ok, .id "nat2", .ok, .ok, .ok,
        .ok] ++ [.done] ++
    reconciles [.order [{ nat1 3 with instanceID := "nat2", instanceType := "large" }, nat1Routed,
      nat0Retiring], .inst (healthy "nat2"), .ok, .ok, .ok] ++ [.done]

/-- One subnet has two active instances. -/
theorem replacedWhileRetiring_two_active :
    ∃ s, (manager lab labConfig).run (manager lab labConfig).start replacedWhileRetiring = some s ∧
      ∃ a ∈ s.view.records, ∃ b ∈ s.view.records, active a = true ∧ active b = true ∧
        a.tenant = b.tenant ∧ a.instanceSubnetID = b.instanceSubnetID ∧
        a.instanceID = "nat1" ∧ b.instanceID = "nat2" :=
  ⟨_, rfl, nat1Routed, .tail _ (.head _),
    { nat1 3 with instanceID := "nat2", instanceType := "large", providerID := "nat2" }.takeOver 3,
    .head _, rfl, rfl, rfl, rfl, rfl, rfl⟩

end Nstance.NAT
