import Nstance.NAT.Replacements

/-!
# NAT instances and those that depend on them

`createInstance` prepares the subnet and inserts the row of the new instance at most one
grace period later. `Reconcile` removes an active NAT instance when it has been without
dependants for the grace period, by its stamp. A preparation clears the stamp, so a stamp
is later than every preparation of the subnet, and when its grace period is over every row
that was prepared is in the list that `Reconcile` read (`dependants_keep_nat`).

Two steps do not fit. `PrepareSubnet` leaves the stamp while a replacement is pending, which
a run shows, and `Reconcile` lists the instances before it reads the clock.
-/

namespace Nstance.NAT

open Interaction Manager

section

variable {E : Environment} {tenant : String} {grace : Duration} {config : Config} {s s' : State}

/-- The tenant has managed NAT, with at least this grace period. -/
def manages (tenant : String) (grace : Duration) (cfg : Config) : Bool :=
  (cfg.nat tenant).any fun natConfig =>
    natConfig.group ≠ "" && grace ≤ natConfig.lastInstanceGracePeriod

theorem dedicated_of_manages {cfg : Config} (managed : manages tenant grace cfg = true) :
    cfg.dedicated tenant = true ∧
      grace ≤ (cfg.natConfig tenant).lastInstanceGracePeriod ∧ cfg.nat tenant ≠ none := by
  rw [manages] at managed
  cases found : cfg.nat tenant with
  | none => simp [found] at managed
  | some natConfig =>
    simp only [found, Option.any_some, Bool.and_eq_true, decide_eq_true_eq] at managed
    simp [Config.dedicated, Config.natConfig, found, managed.1, managed.2]

/-- The tenant keeps its managed NAT, and the row of an instance is inserted within
the grace period after its preparation. -/
def withinGrace (tenant : String) (grace : Duration) (s : State) : Label → Bool
  | .configure config => manages tenant grace config
  | .insert creation _ => creation.tenant ≠ tenant || s.now < creation.since + grace
  | _ => true

/-- No preparation returns with the stamp set because a replacement is pending. -/
def clearsStamp (tenant : String) (s : State) : Label → Bool
  | .done =>
    match s.running with
    | some (.prepareSubnet prepared subnetID, .pure _) =>
      prepared ≠ tenant || s.view.records.entries.all fun a =>
        !(serves prepared subnetID a && active a && a.emptySince.isSome &&
          s.view.records.entries.any fun r => r.replaces = a.instanceID && !r.deleting)
    | _ => true
  | _ => true

/-- No row is inserted between the list of instances and the reading of the clock. -/
def listsLast (tenant : String) (s : State) : Label → Bool
  | .insert creation _ =>
    creation.tenant ≠ tenant ||
      !(s.running.isSome && s.view.listed.isSome && s.view.read.isNone)
  | _ => true

/-! ## What holds throughout -/

/-- Every dependant of a subnet that has a row or may get one was prepared by then. -/
structure Begun (tenant subnetID : String) (s : State) (time : Time) : Prop where
  creations : ∀ c ∈ s.creations, c.tenant = tenant → c.subnetID = subnetID → c.since ≤ time
  rows : ∀ row ∈ s.rows, row.inst.tenant = tenant → row.inst.subnetID = subnetID →
    row.since ≤ time

/-- The stamp of an active instance is later than every preparation of its subnet. -/
def Stamps (tenant : String) (s : State) (records : Assignments) : Prop :=
  ∀ a ∈ records, active a = true → a.tenant = tenant → ∀ time, a.emptySince = some time →
    Begun tenant a.instanceSubnetID s time

/-- What the running method has read: the clock after every preparation, and every
row that was there before the clock was read. -/
structure Informed (tenant : String) (s : State) (v : View) : Prop where
  read : ∀ time, v.read = some time → time ≤ s.now ∧ ∀ subnetID, Begun tenant subnetID s time
  listed : ∀ found, v.listed = some found → ∀ row ∈ s.rows, row.inst.tenant = tenant →
    row.inst ∈ found ∨ ∃ time, v.read = some time ∧ time ≤ row.insertedAt

/-- What every step keeps for the dependants of the tenant. -/
structure Attended (tenant : String) (grace : Duration) (s : State) : Prop where
  managed : manages tenant grace s.config = true
  known : ∀ cfg, s.view.config = some cfg → manages tenant grace cfg = true
  created : ∀ c ∈ s.creations, c.since ≤ s.now
  prepared : ∀ row ∈ s.rows, row.since ≤ s.now
  inserted : ∀ row ∈ s.rows, row.inst.tenant = tenant → row.insertedAt < row.since + grace
  ordinary : ∀ row ∈ s.rows, row.inst.id ∉ s.view.issued
  stamps : Stamps tenant s s.view.records
  informed : s.running.isSome = true → Informed tenant s s.view

variable {subnetID : String} {call : Call} {v : View}

theorem Begun.mono {time : Time} (begun : Begun tenant subnetID s time)
    (creations : ∀ c ∈ s'.creations, c ∈ s.creations) (rows : ∀ row ∈ s'.rows, row ∈ s.rows) :
    Begun tenant subnetID s' time :=
  ⟨fun c mem => begun.creations c (creations c mem), fun row mem => begun.rows row (rows row mem)⟩

theorem Attended.begun_now (attended : Attended tenant grace s) (subnetID : String) :
    Begun tenant subnetID s s.now :=
  ⟨fun c mem _ _ => attended.created c mem, fun row mem _ _ => attended.prepared row mem⟩

/-! ## Calls of the store -/

variable {records : Assignments} {b a : Assignment}

section

variable (stamps : Stamps tenant s records)
include stamps

theorem Stamps.set (own : active b = true → b.tenant = tenant → ∀ time, b.emptySince = some time →
      Begun tenant b.instanceSubnetID s time) : Stamps tenant s (records.set b) := by
  intro a stored
  rcases Assignments.mem_set.mp stored with rfl | ⟨mem, _⟩
  · exact own
  · exact stamps a mem

theorem Stamps.unstamped (clear : b.emptySince = none) : Stamps tenant s (records.set b) := by
  refine stamps.set ?_
  intro _ _ time stamped
  rw [clear] at stamped
  cases stamped

theorem Stamps.update (mem : a ∈ records)
    (owned : b.ownership = a.ownership) (serving : active b = true → active a = true)
    (stamp : b.emptySince = a.emptySince) : Stamps tenant s (records.set b) := by
  refine stamps.set ?_
  intro activeb own time stamped
  have tenantb : b.tenant = a.tenant := congrArg Ownership.tenant owned
  have subnetb : b.instanceSubnetID = a.instanceSubnetID :=
    congrArg Ownership.instanceSubnetID owned
  rw [subnetb]
  exact stamps a mem (serving activeb) (tenantb.symm.trans own) time (stamp.symm.trans stamped)

end

theorem Attended.stored (attended : Attended tenant grace s) (base : Base s.view)
    (runs : s.running.isSome = true) {call : StoreCall} {result : call.Result}
    {after : Assignments} (warranted : Warranted E s.view call)
    (done : call.apply s.view.records = .ok (result, after)) : Stamps tenant s after := by
  have stamps := attended.stamps
  have applied := StoreCall.applied done
  cases call with
  | claim =>
    cases applied with
    | same => exact stamps
    | claimed => exact stamps.unstamped rfl
  | claimReplacement =>
    cases applied with
    | same => exact stamps
    | replacing => exact stamps.unstamped rfl
  | update instanceID closure =>
    cases applied with
    | same => exact stamps
    | @updated _ _ a found =>
      obtain ⟨mem, rfl⟩ := Assignments.get_eq_some.mp found
      have serving := active_of_apply mem warranted
      cases closure with
      | prepared | occupied => exact stamps.unstamped rfl
      | routed | provider | deleting => exact stamps.update mem rfl serving rfl
      | emptied time =>
        obtain ⟨_, _, _, _, read⟩ := warranted
        refine stamps.set ?_
        intro _ _ time' stamped
        cases stamped
        exact ((attended.informed runs).read time read).2 _
  | promote =>
    cases applied with
    | same => exact stamps
    | @promoted _ _ replacement previous found pending present =>
      obtain ⟨memr, rfl⟩ := Assignments.get_eq_some.mp found
      obtain ⟨memp, _⟩ := Assignments.get_eq_some.mp present
      have retired : Stamps tenant s (s.view.records.set previous.retire) :=
        stamps.update memp rfl (by simp [active, Assignment.retire]) rfl
      have clear : replacement.emptySince = none := base.unstamped replacement memr pending
      exact retired.unstamped clear
  | release instanceID =>
    cases applied with
    | same => exact stamps
    | released =>
      intro a stored
      exact stamps a (Assignments.mem_erase.mp stored).1

/-! ## Every step -/

theorem Informed.mono (informed : Informed tenant s v) (now : s.now ≤ s'.now)
    (creations : ∀ c ∈ s'.creations, c ∈ s.creations) (rows : ∀ row ∈ s'.rows, row ∈ s.rows) :
    Informed tenant s' v where
  read time read :=
    ⟨(informed.read time read).1.trans now,
      fun subnetID => ((informed.read time read).2 subnetID).mono creations rows⟩
  listed found listed row mem := informed.listed found listed row (rows row mem)

section

variable (attended : Attended tenant grace s)
include attended

theorem Attended.mono (managed : manages tenant grace s'.config = true) (view : s'.view = s.view)
    (now : s.now ≤ s'.now) (creations : ∀ c ∈ s'.creations, c ∈ s.creations)
    (rows : ∀ row ∈ s'.rows, row ∈ s.rows)
    (running : s'.running.isSome = true → s.running.isSome = true) : Attended tenant grace s' where
  managed := managed
  known := view ▸ attended.known
  created c mem := (attended.created c (creations c mem)).trans now
  prepared row mem := (attended.prepared row (rows row mem)).trans now
  inserted row mem := attended.inserted row (rows row mem)
  ordinary row mem := view ▸ attended.ordinary row (rows row mem)
  stamps a mem serving own time stamped :=
    (attended.stamps a (view ▸ mem) serving own time stamped).mono creations rows
  informed runs := view ▸ (attended.informed (running runs)).mono now creations rows

theorem Attended.look (calm : Undisturbed s s')
    (known : ∀ cfg, s'.view.config = some cfg → manages tenant grace cfg = true)
    (ordinary : ∀ row ∈ s.rows, row.inst.id ∉ s'.view.issued)
    (stamps : Stamps tenant s s'.view.records) (informed : Informed tenant s s'.view) :
    Attended tenant grace s' := by
  have creations : ∀ c ∈ s'.creations, c ∈ s.creations := by
    intro c mem
    exact calm.creations ▸ mem
  have rows : ∀ row ∈ s'.rows, row ∈ s.rows := by
    intro row mem
    exact calm.rows ▸ mem
  have now : s.now ≤ s'.now := calm.now.ge
  refine ⟨calm.config ▸ attended.managed, known, ?_, ?_, ?_, ?_, ?_, ?_⟩
  · intro c mem
    exact (attended.created c (creations c mem)).trans now
  · intro row mem
    exact (attended.prepared row (rows row mem)).trans now
  · intro row mem
    exact attended.inserted row (rows row mem)
  · intro row mem
    exact ordinary row (rows row mem)
  · intro a mem serving own time stamped
    exact (stamps a mem serving own time stamped).mono creations rows
  · intro _
    exact informed.mono now creations rows

theorem Attended.readNow (informed : Informed tenant s v) :
    Informed tenant s { v with read := v.read.or (some s.now) } := by
  cases reading : v.read with
  | some time =>
    constructor
    · intro time' same
      cases same
      exact informed.read time reading
    · intro found listed row mem own
      refine (informed.listed found listed row mem own).imp id ?_
      rintro ⟨time', same, later⟩
      rw [reading] at same
      exact ⟨time', same, later⟩
  | none =>
    constructor
    · intro time same
      cases same
      exact ⟨le_refl _, attended.begun_now⟩
    · intro found listed row mem own
      rcases informed.listed found listed row mem own with there | ⟨time, same, _⟩
      · exact .inl there
      · rw [reading] at same
        cases same

theorem Attended.performed (conduct : Conduct E s) {action : Action}
    {next : Reply action → Code Unit} {outcome : Outcome} {after : State} {reply : Reply action}
    (runs : s.running = some (call, .perform action next))
    (performed : s.perform E action outcome = some (after, reply)) :
    Attended tenant grace { after with running := some (call, next reply) } := by
  have calm : Undisturbed s { after with running := some (call, next reply) } := by
    have undisturbed := perform_undisturbed performed
    exact ⟨undisturbed.config, undisturbed.now, undisturbed.rows, undisturbed.creations⟩
  have running : s.running.isSome = true := by simp [runs]
  have informed := attended.informed running
  have justified := conduct.justified runs
  have seen := perform_seen performed
  generalize view : after.view = v' at seen
  have known : ∀ cfg, v'.config = some cfg → manages tenant grace cfg = true := by
    intro cfg read
    cases seen with
    | configured config =>
      cases read
      rw [reply_config performed]
      exact attended.managed
    | _ => exact attended.known cfg read
  have ordinary : ∀ row ∈ s.rows, row.inst.id ∉ v'.issued := by
    intro row mem
    cases seen with
    | @id _ instanceID =>
      rw [List.mem_cons, not_or]
      exact ⟨newID_not_row performed rfl row mem, attended.ordinary row mem⟩
    | _ => exact attended.ordinary row mem
  have stamps : Stamps tenant s v'.records := by
    cases seen with
    | stored done | storedLost _ done => exact attended.stored conduct.base running justified done
    | _ => exact attended.stamps
  have informs : Informed tenant s v' := by
    cases seen with
    | listed found =>
      refine ⟨informed.read, ?_⟩
      intro found' same row mem _
      cases same
      exact .inl (rows_listed performed rfl row mem)
    | time now =>
      rw [reply_now performed]
      exact attended.readNow informed
    | _ => exact ⟨informed.read, informed.listed⟩
  subst view
  exact attended.look calm known ordinary stamps informs

theorem unstamped_of_prepared (ordered : Ordered s.view.records)
    (prepared : Prepared tenant subnetID s.view)
    (running : s.running = some (.prepareSubnet tenant subnetID, .pure ()))
    (clears : clearsStamp tenant s .done = true) (mem : a ∈ s.view.records)
    (serving : active a = true) (served : serves tenant subnetID a = true) :
    a.emptySince = none := by
  rcases prepared with ⟨cfg, known, absent⟩ | ⟨b, memb, servedb, servingb, clear⟩
  · exact absurd absent (dedicated_of_manages (attended.known cfg known)).2.2
  have own : a.tenant = tenant ∧ a.instanceSubnetID = subnetID := by simpa [serves] using served
  have ownb : b.tenant = tenant ∧ b.instanceSubnetID = subnetID := by
    simpa [serves] using servedb
  cases ordered.one a mem b memb serving servingb (own.1.trans ownb.1.symm)
    (own.2.trans ownb.2.symm)
  rcases clear with clear | ⟨r, memr, names, kept⟩
  · exact clear
  simp only [clearsStamp, running, List.all_eq_true, Bool.or_eq_true, decide_eq_true_eq,
    not_true_eq_false, ne_eq, false_or] at clears
  have unstamped := clears a mem
  have pending : (s.view.records.entries.any fun r =>
      r.replaces = a.instanceID && !r.deleting) = true :=
    List.any_eq_true.mpr ⟨r, memr, by simp [names, kept]⟩
  simpa [serving, served, pending] using unstamped

theorem Attended.returned (conduct : Conduct E s) (ordered : Ordered s.view.records)
    (running : s.running = some (call, .pure ())) (clears : clearsStamp tenant s .done = true) :
    Attended tenant grace (s.finish call) := by
  cases call with
  | prepareSubnet prepared subnetID =>
    have achieved : Prepared prepared subnetID s.view := conduct.achieved running
    refine ⟨attended.managed, attended.known, ?_, attended.prepared, attended.inserted,
      attended.ordinary, ?_, by simp [State.finish]⟩
    · intro c mem
      rcases List.mem_cons.mp mem with rfl | mem
      · exact le_refl _
      · exact attended.created c mem
    · intro a mem serving own time stamped
      have begun := attended.stamps a mem serving own time stamped
      refine ⟨?_, begun.rows⟩
      intro c memc tenantc subnetc
      rcases List.mem_cons.mp memc with rfl | memc
      · cases tenantc
        have served : serves prepared subnetID a = true := by simp [serves, own, subnetc.symm]
        rw [unstamped_of_prepared attended ordered achieved running clears mem serving served]
          at stamped
        cases stamped
      · exact begun.creations c memc tenantc subnetc
  | observe | replaceInstance | reconcile =>
    exact attended.mono attended.managed rfl (le_refl _) (fun _ mem => mem) (fun _ mem => mem)
      (by simp [State.finish])

/-- A row is inserted for a creation, in time and not behind the back of `Reconcile`. -/
theorem Attended.insert {creation : Creation} {instanceID : String} (mem : creation ∈ s.creations)
    (fresh : instanceID ∉ s.view.issued)
    (inTime : withinGrace tenant grace s (.insert creation instanceID) = true)
    (lists : listsLast tenant s (.insert creation instanceID) = true) :
    Attended tenant grace (s.insert creation instanceID) := by
  have begun : ∀ {subnetID : String} {time : Time}, Begun tenant subnetID s time →
      Begun tenant subnetID (s.insert creation instanceID) time := by
    intro subnetID time begun
    refine ⟨fun c memc => begun.creations c (List.mem_of_mem_erase memc), ?_⟩
    intro row memr own subnet
    rcases List.mem_cons.mp memr with rfl | memr
    · exact begun.creations creation mem own subnet
    · exact begun.rows row memr own subnet
  refine ⟨attended.managed, attended.known, ?_, ?_, ?_, ?_, ?_, ?_⟩
  · intro c memc
    exact attended.created c (List.mem_of_mem_erase memc)
  · intro row memr
    rcases List.mem_cons.mp memr with rfl | memr
    · exact attended.created creation mem
    · exact attended.prepared row memr
  · intro row memr own
    rcases List.mem_cons.mp memr with rfl | memr
    · simpa [withinGrace, show creation.tenant = tenant from own] using inTime
    · exact attended.inserted row memr own
  · intro row memr
    rcases List.mem_cons.mp memr with rfl | memr
    · exact fresh
    · exact attended.ordinary row memr
  · intro a memA serving own time stamped
    exact begun (attended.stamps a memA serving own time stamped)
  · intro running
    have informed := attended.informed running
    constructor
    · intro time read
      obtain ⟨past, all⟩ := informed.read time read
      exact ⟨past, fun subnetID => begun (all subnetID)⟩
    · intro found listed row memr own
      rcases List.mem_cons.mp memr with rfl | memr
      · obtain ⟨time, reading⟩ : ∃ time, s.view.read = some time := by
          have same : creation.tenant = tenant := own
          have has : s.view.listed = some found := listed
          have busy : s.running.isSome = true := running
          simpa [listsLast, same, has, busy, ← Option.isSome_iff_exists] using lists
        exact .inr ⟨time, reading, (informed.read time reading).1⟩
      · exact informed.listed found listed row memr own

end

/-! ## Every run -/

/-- The tenant keeps its managed NAT and inserts in time; the manager keeps to the
rules that it does not always keep to. -/
def attends (tenant : String) (grace : Duration) (s : State) (label : Label) : Bool :=
  withinGrace tenant grace s label && sparesNamed s label && sparesRetiring s label &&
    clearsStamp tenant s label && listsLast tenant s label

/-- The conditions together. -/
structure Attends (tenant : String) (grace : Duration) (s : State) (label : Label) : Prop where
  withinGrace : withinGrace tenant grace s label = true
  sparesNamed : sparesNamed s label = true
  sparesRetiring : sparesRetiring s label = true
  clearsStamp : clearsStamp tenant s label = true
  listsLast : listsLast tenant s label = true

theorem attends_iff {label : Label} :
    attends tenant grace s label = true ↔ Attends tenant grace s label := by
  simp only [attends, Bool.and_eq_true]
  exact ⟨fun ok => ⟨ok.1.1.1.1, ok.1.1.1.2, ok.1.1.2, ok.1.2, ok.2⟩,
    fun ok => ⟨⟨⟨⟨ok.withinGrace, ok.sparesNamed⟩, ok.sparesRetiring⟩, ok.clearsStamp⟩,
      ok.listsLast⟩⟩

theorem ordered_of_attends
    (reached : (manager E config).Reaches (fun s label => attends tenant grace s label = true) s) :
    Ordered s.view.records := by
  refine ordered_of_reaches ?_ reached
  intro s outcome ok
  exact ⟨(attends_iff.mp ok).sparesNamed, (attends_iff.mp ok).sparesRetiring⟩

theorem attended_of_reaches (managed : manages tenant grace config = true)
    (reached : (manager E config).Reaches (fun s label => attends tenant grace s label = true) s) :
    Attended tenant grace s := by
  refine reached.invariant ?_ ?_
  · refine ⟨managed, by simp [manager], by simp [manager], by simp [manager], by simp [manager],
      by simp [manager], ?_, by simp [manager]⟩
    intro a mem
    exact absurd mem Assignments.not_mem_empty
  · intro s s' label before attended ok stepped
    have ok := attends_iff.mp ok
    have conduct := conduct_of_reaches before
    cases step_moved stepped with
    | began call =>
      exact attended.look ⟨rfl, rfl, rfl, rfl⟩ (by simp) attended.ordinary attended.stamps
        ⟨by simp, by simp⟩
    | performed runs performed => exact attended.performed conduct runs performed
    | returned call running =>
      exact attended.returned conduct (ordered_of_attends before) running ok.clearsStamp
    | failed =>
      exact attended.mono attended.managed rfl (le_refl _) (fun _ mem => mem)
        (fun _ mem => mem) (by simp)
    | crashed =>
      exact attended.mono attended.managed rfl (le_refl _) (by simp) (fun _ mem => mem) (by simp)
    | configured config =>
      exact attended.mono ok.withinGrace rfl (le_refl _) (fun _ mem => mem) (fun _ mem => mem) id
    | ticked elapsed =>
      refine attended.mono attended.managed rfl ?_ (fun _ mem => mem) (fun _ mem => mem) id
      exact Int.le_add_of_nonneg_right (Int.natCast_nonneg elapsed)
    | inserted mem fresh => exact attended.insert mem fresh ok.withinGrace ok.listsLast
    | abandoned creation =>
      exact attended.mono attended.managed rfl (le_refl _) (fun _ => List.mem_of_mem_erase)
        (fun _ mem => mem) id
    | removed instanceID =>
      exact attended.mono attended.managed rfl (le_refl _) (fun _ mem => mem)
        (fun _ mem => (List.mem_filter.mp mem).1) id

/-- A subnet without dependants: no row is there, and no creation is in time to
insert one. -/
structure Free (tenant subnetID : String) (grace : Duration) (s : State) : Prop where
  rows : ∀ row ∈ s.rows, row.inst.tenant = tenant → row.inst.subnetID ≠ subnetID
  creations : ∀ c ∈ s.creations, c.tenant = tenant → c.subnetID = subnetID →
    ¬ s.now < c.since + grace

theorem Attended.free (attended : Attended tenant grace s) (running : s.running.isSome = true)
    (awake : E.awake tenant = true) (mem : a ∈ s.view.records) (serving : active a = true)
    (own : a.tenant = tenant) (unused : Unused E s.view a) :
    Free tenant a.instanceSubnetID grace s := by
  subst own
  rcases unused with asleep | ⟨cfg, known, undedicated⟩ |
    ⟨cfg, found, time, since, known, listed, read, stamped, passed, independent⟩
  · rw [awake] at asleep
    cases asleep
  · rw [(dedicated_of_manages (attended.known cfg known)).1] at undedicated
    cases undedicated
  have period := (dedicated_of_manages (attended.known cfg known)).2.1
  have begun := attended.stamps a mem serving rfl since stamped
  have informed := attended.informed running
  have due : since + grace ≤ time := by
    rw [add_comm]
    exact le_sub_iff_add_le.mp (period.trans passed)
  constructor
  · intro row memr tenant subnet
    rcases informed.listed found listed row memr tenant with there | ⟨time', read', later⟩
    · exact attended.ordinary row memr (independent row.inst there tenant subnet)
    have began := begun.rows row memr tenant subnet
    have early := attended.inserted row memr tenant
    rw [read] at read'
    cases read'
    exact lt_irrefl time <| calc
      time ≤ row.insertedAt := later
      _ < row.since + grace := early
      _ ≤ since + grace := Int.add_le_add_right began grace
      _ ≤ time := due
  · intro c memc tenant subnet
    have began := begun.creations c memc tenant subnet
    exact not_lt.mpr <| calc
      c.since + grace ≤ since + grace := Int.add_le_add_right began grace
      _ ≤ time := due
      _ ≤ s.now := (informed.read time read).1

/-- **NAT outlives its dependants.** Take a tenant that stays awake and keeps managed
NAT, and runs in which rows are inserted within the grace period after the
preparation, predecessors of replacements stay, retiring instances are not replaced,
preparations clear the stamp, and no row is inserted between the list of instances
and the clock. Whenever the manager is about to remove a route of the tenant or to
delete an active NAT instance, the subnet is free. -/
theorem dependants_keep_nat (awake : E.awake tenant = true)
    (managed : manages tenant grace config = true)
    (reached : (manager E config).Reaches (fun s label => attends tenant grace s label = true) s) :
    (∀ request, s.issues = some (.removeNATRoute request) → request.tenant = tenant →
      Free tenant request.instanceSubnetID grace s) ∧
      ∀ a ∈ s.view.records, active a = true → a.tenant = tenant →
        s.issues = some (.deleteInstance tenant a.instanceID) →
          Free tenant a.instanceSubnetID grace s := by
  have attended := attended_of_reaches managed reached
  have conduct := conduct_of_reaches reached
  have ordered := ordered_of_attends reached
  constructor
  · intro request issues own
    obtain ⟨running, a, mem, tenant', subnet, _, kept, stays, unused, orphaned⟩ :=
      conduct.issued issues
    by_cases sole : a.replaces = ""
    · rw [subnet]
      exact attended.free running awake mem (active_iff.mpr ⟨sole, kept, stays⟩)
        (tenant'.symm.trans own) (unused sole)
    -- a pending replacement has an active predecessor, which keeps the route
    exfalso
    rcases orphaned sole with ⟨cfg, known, undedicated⟩ | leaving
    · rw [← tenant', own, (dedicated_of_manages (attended.known cfg known)).1] at undedicated
      cases undedicated
    obtain ⟨p, memp, names, _, _, serving⟩ := ordered.attached a mem sole kept
    obtain ⟨_, keptp, staysp⟩ := active_iff.mp serving
    simpa [keptp, staysp] using leaving p memp names
  · intro a mem serving own issues
    obtain ⟨running, b, memb, _, same, unused⟩ := conduct.issued issues
    cases Assignments.eq_of_mem memb mem same
    exact attended.free running awake mem serving own (unused serving)

end

/-- The grace period ends, and no instance came. -/
def expires : List Label :=
  prepares ++ stamps ++ [.tick 10] ++
    reconciles [.order [{ nat0Routed with emptySince := some 0 }],
      .order [{ nat0Routed with emptySince := some 0 }], .asleep false]

theorem expires_free :
    ∃ s request, (manager lab labConfig).runWithin (attends "acme" 10)
        (manager lab labConfig).start expires = some s ∧
      s.issues = some (.removeNATRoute request) ∧ Free "acme" "net" 10 s :=
  ⟨_, _, rfl, rfl, (@dependants_keep_nat lab "acme" 10 labConfig _ rfl rfl
    (Machine.reaches_of_runWithin (M := manager lab labConfig) expires .start rfl)).1 _ rfl rfl⟩

/-- A replacement of an unused instance is pending when `createInstance` prepares the
subnet. The preparation returns at once, and the grace period ends one second
later. -/
def preparedUnderReplacement : List Label :=
  prepares ++ [.abandon ⟨"acme", "net", 0⟩] ++ stamps ++ [.tick 5] ++ startsReplacement ++
    [.tick 4] ++
    runs (.prepareSubnet "acme" "net")
      [.ok, .ok, .order [nat1 5, { nat0Routed with emptySince := some 0 }],
        .inst (healthy "nat0"), .ok] ++ [.done, .tick 1] ++
    reconciles [.order [nat1 5, { nat0Routed with emptySince := some 0 }], .fail .noRows,
      .order [nat1 5, { nat0Routed with emptySince := some 0 }], .asleep false]

/-- The route is removed nine seconds before the grace of the prepared subnet ends. -/
theorem preparedUnderReplacement_not_free :
    ∃ s request, (manager lab labConfig).runWithin (withinGrace "acme" 10)
        (manager lab labConfig).start preparedUnderReplacement = some s ∧
      s.issues = some (.removeNATRoute request) ∧ request.tenant = "acme" ∧
      request.instanceSubnetID = "net" ∧ ⟨"acme", "net", 9⟩ ∈ s.creations ∧ s.now < 9 + 10 :=
  ⟨_, _, rfl, rfl, rfl, rfl, .head _, by decide⟩

end Nstance.NAT
