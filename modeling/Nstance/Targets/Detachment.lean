import Nstance.Targets.Deleted

/-!
# Virtual machines behind load balancers

`DeleteInstance` withdraws a virtual machine from the load balancers that the local table
records for it. The cutover records none: a target that `RestoreTargets` registered is
unknown to the deletion, and so is a target of an earlier leader (`restoredThenDeleted`).
Where the table is complete in these respects, a virtual machine is deleted only after every
load balancer released it (`deleted_after_release`).
-/

namespace Nstance.Targets

open Interaction
open TenantState (Tenant Err)

/-! ## Settled registrations -/

/-- The target was reported draining after its last registration. -/
def drainReported (target : Target) : List Happening → Bool
  | [] => false
  | .registered _ other :: before => other ≠ target && drainReported target before
  | .reported other .draining :: before => other = target || drainReported target before
  | _ :: before => drainReported target before

/-- After its last registration, if there was one, the target was reported
deregistered, or reported draining and its tenant found asleep. -/
def settled (tenant : Tenant) (target : Target) : List Happening → Bool
  | [] => true
  | .registered _ other :: before => other ≠ target && settled tenant target before
  | .reported other .deregistered :: before => other = target || settled tenant target before
  | .foundAsleep other :: before =>
    (other = tenant && drainReported target before) || settled tenant target before
  | _ :: before => settled tenant target before

section

variable {tenant : Tenant} {target : Target} {log : List Happening} {happening : Happening}

theorem settled_cons (other : ∀ owner, happening ≠ .registered owner target)
    (before : settled tenant target log = true) :
    settled tenant target (happening :: log) = true := by
  cases happening with
  | registered owner made =>
    have different : made ≠ target := fun same => other owner (by rw [same])
    simp [settled, different, before]
  | reported made state => cases state <;> simp [settled, before]
  | foundAsleep => simp [settled, before]
  | _ => exact before

theorem drainReported_cons (other : ∀ owner, happening ≠ .registered owner target)
    (before : drainReported target log = true) :
    drainReported target (happening :: log) = true := by
  cases happening with
  | registered owner made =>
    have different : made ≠ target := fun same => other owner (by rw [same])
    simp [drainReported, different, before]
  | reported made state => cases state <;> simp [drainReported, before]
  | _ => exact before

theorem exists_registered (unsettled : settled tenant target log = false) :
    ∃ owner, .registered owner target ∈ log := by
  induction log with
  | nil => cases unsettled
  | cons happening log ih =>
    by_cases here : ∃ owner, happening = .registered owner target
    · obtain ⟨owner, rfl⟩ := here
      exact ⟨owner, List.mem_cons_self⟩
    cases before : settled tenant target log with
    | false =>
      obtain ⟨owner, member⟩ := ih before
      exact ⟨owner, List.mem_cons_of_mem _ member⟩
    | true =>
      rw [settled_cons (fun owner same => here ⟨owner, same⟩) before] at unsettled
      cases unsettled

end

/-! ## Complete tables -/

/-- The registrations of rows that are not settled are in the table. -/
def recordsUnsettled (config : Config) (log : List Happening) (instances : List Instance)
    (lbInstances : List LBInstance) : Bool :=
  log.all fun
    | .registered _ target => instances.all fun row =>
      row.providerID ≠ some target.vm || config.isTunnel target.lb ||
        settled row.tenant target log ||
        lbInstances.any fun other => other.lb = target.lb && other.id = row.id
    | _ => true

/-- A new leader has one row for a virtual machine and every registration of it
that is not settled, and a restoration registers only targets that are
recorded. -/
def State.keepsRecords (config : Config) (s : State) : Label → Bool
  | .takeover instances lbInstances =>
    (instances.all fun row => instances.all fun other =>
      row.providerID = none || row.providerID ≠ other.providerID || row = other) &&
      recordsUnsettled config s.log instances lbInstances
  | .perform id _ =>
    match s.tasks id with
    | some ⟨.restore _, .perform (.registerWithLB _ target) _, _⟩ =>
      s.instances.all fun row =>
        row.providerID ≠ some target.vm || s.records target.lb row.id
    | _ => true
  | _ => true

/-- What the notes of a deletion that holds the lock say about the table and the
log. -/
structure Informed (s : State) (notes : List Note) : Prop where
  attached : ∀ {id : InstanceID} {lb : LBKey} {lbs : List LBKey}, .attached id lbs ∈ held notes →
    s.records lb id = true → lb ∈ lbs
  once : ∀ {id : InstanceID} {lbs lbs' : List LBKey}, .attached id lbs ∈ held notes →
    .attached id lbs' ∈ held notes → lbs = lbs'
  reported : ∀ {tenant : Tenant} {target : Target}, .reported target .deregistered ∈ held notes →
    settled tenant target s.log = true
  draining : ∀ {target : Target}, .reported target .draining ∈ held notes →
    drainReported target s.log = true
  excused : ∀ {tenant : Tenant} {target : Target},
    After (.asleep tenant) (.reported target .draining) notes →
      settled tenant target s.log = true

/-- The table has every registration that is not settled, and the task that
holds the lock knows what is in it. -/
structure Accounted (config : Config) (s : State) : Prop where
  unshared : Unshared s
  recorded : ∀ {row : Instance} {vm : ProviderID} {lb : LBKey}, row ∈ s.instances →
    row.providerID = some vm → config.isTunnel lb = false →
      settled row.tenant ⟨lb, vm⟩ s.log = false → s.records lb row.id = true
  reconciling : ∀ {task : TaskID} {program : Code Unit} {notes : List Note} {job : InstanceID},
    s.tasks task = some ⟨.reconcile job, program, notes⟩ → holding notes = true →
      ∀ {lb : LBKey} {id : InstanceID}, Known lb id notes → s.records lb id = true
  deleting : ∀ {task : TaskID} {program : Code Unit} {notes : List Note} {tenant : Tenant}
    {job : InstanceID}, s.tasks task = some ⟨.delete tenant job, program, notes⟩ →
      holding notes = true → Informed s notes

section

variable {config : Config} {s s' after : State} {label : Label} {notes : List Note}

/-! ### The holder of the lock -/

variable {tenant : Tenant} {target : Target}

section

variable (change : Change config s label s')
  (quiet : ∀ tenant target, ¬ Source s label (.registered tenant target))
include change quiet

theorem settled_change (before : settled tenant target s.log = true) :
    settled tenant target s'.log = true := by
  rcases change_log change with same | ⟨happening, added, source⟩
  · rw [same]
    exact before
  · rw [added]
    exact settled_cons (fun owner same => quiet owner target (same ▸ source)) before

theorem drainReported_change (before : drainReported target s.log = true) :
    drainReported target s'.log = true := by
  rcases change_log change with same | ⟨happening, added, source⟩
  · rw [same]
    exact before
  · rw [added]
    exact drainReported_cons (fun owner same => quiet owner target (same ▸ source)) before

end

theorem Informed.quiet (informed : Informed s notes) (change : Change config s label s')
    (quiet : s'.lbInstances = s.lbInstances ∧
      ∀ tenant target, ¬ Source s label (.registered tenant target)) : Informed s' notes where
  attached noted recorded := informed.attached noted (records_congr quiet.1 _ _ ▸ recorded)
  once := informed.once
  reported noted := settled_change change quiet.2 (informed.reported noted)
  draining noted := drainReported_change change quiet.2 (informed.draining noted)
  excused ordered := settled_change change quiet.2 (informed.excused ordered)

variable {task : TaskID} {job : InstanceID} {vm : ProviderID} {lb : LBKey}

theorem Informed.learn {action : Action} {outcome : Outcome} {reply : Reply action}
    (informed : action.plain = true → Informed s notes)
    (allowed : Pre config (.delete tenant job) action notes)
    (effect : Effect s task action outcome reply after) (change : Change config s label s')
    (same : s'.log = after.log ∧ s'.lbInstances = after.lbInstances)
    (quiet : ∀ tenant target, ¬ Source s label (.registered tenant target)) :
    Informed s' (Targets.learn action reply notes) := by
  refine ⟨fun noted recorded => ?_, fun noted noted' => ?_, fun noted => ?_, fun noted => ?_,
    fun ordered => ?_⟩
  · obtain ⟨plain, taken | earlier⟩ := mem_held_learn noted
    all_goals
      rw [records_congr same.2] at recorded
      rcases effect.records_back recorded with old | ⟨status, rfl⟩
    · have found : _ = s.recordedFor _ := effect.means taken
      rw [found]
      exact mem_recordedFor.mpr old
    · cases (reply : Except Err Unit) <;> cases taken
    · exact (informed plain).attached earlier old
    · obtain ⟨rfl, _, lbs', noted', member⟩ := allowed
      rw [(informed plain).once earlier noted']
      exact member
  · obtain ⟨plain, taken | earlier⟩ := mem_held_learn noted
    · obtain ⟨_, taken' | earlier'⟩ := mem_held_learn noted'
      · cases taken.symm.trans taken'
        rfl
      cases note_of taken
      obtain ⟨rfl, _, first⟩ := allowed
      exact absurd earlier' (first _)
    obtain ⟨_, taken' | earlier'⟩ := mem_held_learn noted'
    · cases note_of taken'
      obtain ⟨rfl, _, first⟩ := allowed
      exact absurd earlier (first _)
    · exact (informed plain).once earlier earlier'
  · obtain ⟨plain, taken | earlier⟩ := mem_held_learn noted
    · have reported : after.log = _ := effect.means taken
      rw [same.1, reported]
      simp [settled]
    · exact settled_change change quiet ((informed plain).reported earlier)
  · obtain ⟨plain, taken | earlier⟩ := mem_held_learn noted
    · have reported : after.log = _ := effect.means taken
      rw [same.1, reported]
      simp [drainReported]
    · exact drainReported_change change quiet ((informed plain).draining earlier)
  · obtain ⟨plain, ⟨taken, earlier⟩ | earlier⟩ := after_learn ordered
    · have asleep : after.log = _ := effect.means taken
      rw [same.1, asleep]
      simp [settled, (informed plain).draining earlier]
    · exact settled_change change quiet ((informed plain).excused earlier)

/-! ### The table -/

theorem Accounted.settled_of_detached (accounted : Accounted config s) (faithful : Faithful s)
    {program : Code Unit} {id : InstanceID}
    (runs : s.tasks task = some ⟨.delete tenant job, program, notes⟩) (holds : holding notes = true)
    (drained : Drained tenant id vm notes) (detached : Detached config tenant id vm notes)
    (provider : config.isTunnel lb = false) : settled tenant ⟨lb, vm⟩ s.log = true := by
  have informed := accounted.deleting runs holds
  obtain ⟨row, member, rfl, rfl, provided, _⟩ :=
    (faithful.truthful runs).drained_row faithful.distinct drained
  obtain ⟨lbs, attached, released⟩ := detached
  cases unsettled : settled row.tenant ⟨lb, vm⟩ s.log with
  | true => rfl
  | false =>
    have recorded := accounted.recorded member provided provider unsettled
    rw [← unsettled]
    rcases released lb (informed.attached attached recorded) provider with reported | excused
    · exact informed.reported reported
    · exact informed.excused excused

section

variable (conducted : Conducted config s) (faithful : Faithful s) (accounted : Accounted config s)
include conducted faithful accounted

theorem Accounted.registers (keeps : s.keepsRecords config label = true) {owner : Tenant}
    (source : Source s label (.registered owner target)) {row : Instance}
    (member : row ∈ s.instances) (provided : row.providerID = some target.vm) :
    s.records target.lb row.id = true := by
  cases source with
  | @action task outcome kind action next notes _ runs logs =>
    cases logs
    obtain ⟨holds, ⟨⟨job, rfl⟩, registrable⟩ | ⟨rfl, _⟩⟩ := pre_register (conducted.pre runs)
    · obtain ⟨inst, cleared, _, _, had, known, _⟩ := registrable
      obtain ⟨other, there, evolves⟩ :=
        (faithful.truthful runs).read (held_subset cleared.earlier_mem)
      have same := accounted.unshared member there provided (evolves.provided had)
      rw [same, evolves.id]
      exact accounted.reconciling runs holds known
    simp only [State.keepsRecords, runs] at keeps
    have recorded := List.all_eq_true.mp keeps row member
    simpa [provided] using recorded

theorem Accounted.step_recorded (change : Change config s label s') (stays : label.stays = true)
    (keeps : s.keepsRecords config label = true) {row' : Instance} (member : row' ∈ s'.instances)
    (provided : row'.providerID = some vm) (provider : config.isTunnel lb = false)
    (unsettled : settled row'.tenant ⟨lb, vm⟩ s'.log = false) : s'.records lb row'.id = true := by
  rcases (change_rows faithful.distinct change stays).origin member provided with
    ⟨row, here, evolves, had⟩ | ⟨rfl, new⟩
  · rw [evolves.tenant] at unsettled
    rw [evolves.id]
    have recorded : s.records lb row.id = true := by
      cases before : settled row.tenant ⟨lb, vm⟩ s.log with
      | false => exact accounted.recorded here had provider before
      | true =>
        -- Only a registration of the target itself unsettles it.
        rcases change_log change with same | ⟨happening, added, source⟩
        · rw [same, before] at unsettled
          cases unsettled
        by_cases registers : ∃ owner, happening = .registered owner ⟨lb, vm⟩
        · obtain ⟨owner, rfl⟩ := registers
          exact accounted.registers conducted faithful keeps source here had
        rw [added, settled_cons (fun owner same => registers ⟨owner, same⟩) before] at unsettled
        cases unsettled
    rcases change_lbInstances change stays with
      same | @⟨_, kind, _, _, _, _, _, _, runs, effect, same⟩
    · rw [records_congr same]
      exact recorded
    rw [records_congr same]
    refine effect.records (fun forgets => ?_) recorded
    -- A deletion forgets the registrations of a row when all are settled.
    subst forgets
    have allowed := conducted.pre runs
    cases kind with
    | delete tenant job =>
      obtain ⟨rfl, holds, vm', drained, detached⟩ := allowed
      obtain ⟨other, there, same', owner, had', _⟩ :=
        (faithful.truthful runs).drained_row faithful.distinct drained
      cases faithful.distinct.eq_of_id here there same'.symm
      cases had.symm.trans had'
      have released :=
        accounted.settled_of_detached faithful runs holds drained detached provider
      have silent : s'.log = s.log := by
        rcases change_log change with silent | ⟨_, _, source⟩
        · exact silent
        cases source with
        | action theirs logs =>
          cases runs.symm.trans theirs
          cases logs
      rw [silent, owner, released] at unsettled
      cases unsettled
    | reconcile | withdraw | restore => exact allowed.elim
  · have silent : s'.log = s.log := by
      rcases change_log change with silent | ⟨_, _, source⟩
      · exact silent
      · cases source
    rw [silent] at unsettled
    obtain ⟨owner, registered⟩ := exists_registered unsettled
    exact absurd rfl (isNew_log new registered)

theorem Accounted.step (change : Change config s label s')
    (keeps : s.keepsRecords config label = true) : Accounted config s' := by
  by_cases stays : label.stays = true
  · refine ⟨(change_rows faithful.distinct change stays).unshared faithful.distinct
        accounted.unshared, accounted.step_recorded conducted faithful change stays keeps,
      fun {task program notes job} runs holds {lb id} known => ?_,
      fun {task program notes tenant job} runs holds => ?_⟩
    · rcases change_tasks change stays runs with
        ⟨same, idle⟩ | ⟨_, none⟩ | @⟨_, action, _, before, _, reply, after, began, effect⟩
      · rw [records_congr (conducted.quiet change stays same holds idle).1]
        exact accounted.reconciling same holds known
      · rw [show notes = [] from none] at holds
        cases holds
      have allowed := conducted.pre began
      have later : ∀ {lb : LBKey} {id : InstanceID}, s.records lb id = true →
          after.records lb id = true := by
        intro lb id recorded
        refine effect.records (fun forgets => ?_) recorded
        subst forgets
        exact allowed
      rcases known with noted | ⟨rows, noted, member⟩
      · obtain ⟨plain, taken | earlier⟩ := mem_held_learn noted
        · exact effect.means taken
        · refine later (accounted.reconciling began ?_ (.inl earlier))
          exact (learn_grown action plain reply before).holding.symm.trans holds
      obtain ⟨plain, taken | earlier⟩ := mem_held_learn noted
      · have found : rows = s.pendingOrFailed := effect.means taken
        exact later (mem_pendingOrFailed (found ▸ member))
      · refine later (accounted.reconciling began ?_ (.inr ⟨rows, earlier, member⟩))
        exact (learn_grown action plain reply before).holding.symm.trans holds
    · rcases change_tasks change stays runs with
        ⟨same, idle⟩ | ⟨_, none⟩ | @⟨_, action, _, before, _, reply, _, began, effect⟩
      · exact (accounted.deleting same holds).quiet change
          (conducted.quiet change stays same holds idle)
      · rw [show notes = [] from none] at holds
        cases holds
      refine .learn (fun plain => accounted.deleting began ?_) (conducted.pre began) effect
        change ⟨rfl, rfl⟩ fun owner target source => ?_
      · exact (learn_grown action plain reply before).holding.symm.trans holds
      · cases source with
        | action theirs logs =>
          cases began.symm.trans theirs
          cases logs
          exact conducted.pre began
  · cases change with
    | @takeover instances lbInstances distinct =>
      obtain ⟨different, complete⟩ := Bool.and_eq_true_iff.mp keeps
      refine ⟨?_, ?_, fun impossible => ?_, fun impossible => ?_⟩
      · intro row other vm member member' provided provided'
        have owned := List.all_eq_true.mp (List.all_eq_true.mp different row member) other member'
        simpa [provided, provided'] using owned
      · intro row vm lb member provided provider unsettled
        obtain ⟨owner, registered⟩ := exists_registered unsettled
        have here := List.all_eq_true.mp (List.all_eq_true.mp complete _ registered) row member
        simp only [provided, provider, unsettled] at here
        simpa [State.records] using here
      · cases impossible
      · cases impossible
    | _ => exact absurd rfl stays

end

theorem accounted_of_reaches
    (reached : (fleet config).Reaches (fun s label => s.keepsRecords config label = true) s) :
    Accounted config s := by
  refine reached.invariant (P := Accounted config) ?_ fun before accounted keeps stepped =>
    accounted.step (conducted_of_reaches before) (faithful_of_reaches before)
      (step_change stepped) keeps
  refine ⟨fun impossible => ?_, fun impossible => ?_, fun impossible => ?_, fun impossible => ?_⟩
  all_goals cases impossible

end

/-- **No virtual machine is deleted behind a load balancer.** In every run whose
leaders start with every registration that is not settled in their table, and
whose restorations register only recorded targets, a task that is about to
delete a virtual machine finds all its targets settled. -/
theorem deleted_after_release {config : Config} {s : State}
    (reached : (fleet config).Reaches (fun s label => s.keepsRecords config label = true) s)
    {task : TaskID} {id : InstanceID} {vm : ProviderID}
    (issued : s.issues task = some (.deleteVM id vm)) :
    ∃ row ∈ s.instances, row.id = id ∧ row.providerID = some vm ∧
      ∀ lb, config.isTunnel lb = false → settled row.tenant ⟨lb, vm⟩ s.log = true := by
  have faithful := faithful_of_reaches reached
  have accounted := accounted_of_reaches reached
  obtain ⟨kind, next, notes, runs⟩ := issues_eq_some issued
  obtain ⟨tenant, rfl, holds, drained, detached⟩ :=
    pre_deleteVM ((conducted_of_reaches reached).pre runs)
  obtain ⟨row, member, same, rfl, provided, _⟩ :=
    (faithful.truthful runs).drained_row faithful.distinct drained
  exact ⟨row, member, same, provided, fun lb provider =>
    accounted.settled_of_detached faithful runs holds drained detached provider⟩

/-! ## Runs in full -/

/-- A registered instance comes to its deletion, through its load balancer. -/
def registeredThenDeleted : List Label :=
  create "i-1" "vm-1" ++ reconcileHealthy 0 "i-1" ++
    .delete 1 "red" "i-1" :: advance (.job 1) 4 ++
    [.perform (.job 1) (.state .healthy), .perform (.job 1) .ok,
      .perform (.job 1) (.state .deregistered), .perform (.job 1) .ok]

theorem registeredThenDeleted_released :
    ∃ s, (fleet webConfig).runWithin (State.keepsRecords webConfig) (fleet webConfig).start
        registeredThenDeleted = some s ∧
      .registered "red" ⟨"web", "vm-1"⟩ ∈ s.log ∧
      ∃ row ∈ s.instances, row.id = "i-1" ∧ row.providerID = some "vm-1" ∧
        ∀ lb, webConfig.isTunnel lb = false → settled row.tenant ⟨lb, "vm-1"⟩ s.log = true :=
  ⟨_, rfl, by decide, deleted_after_release
    (Machine.reaches_of_runWithin (M := fleet webConfig) registeredThenDeleted .start rfl)
    (show State.issues _ (.job 1) = some (.deleteVM "i-1" "vm-1") from rfl)⟩

/-- A restoration registers a target that the table does not have, and the
instance comes to its deletion. -/
def restoredThenDeleted : List Label :=
  create "i-1" "vm-1" ++ sleepToWithdrawal ++ rollBackToRestoration ++
    advance (.cutover "red") 4 ++ .delete 0 "red" "i-1" :: advance (.job 0) 4

/-- The virtual machine is deleted while its target is registered. -/
theorem restoredThenDeleted_unsettled :
    ∃ s s', (fleet webConfig).run (fleet webConfig).start restoredThenDeleted = some s ∧
      webConfig.isTunnel "web" = false ∧ settled "red" ⟨"web", "vm-1"⟩ s.log = false ∧
      s.issues (.job 0) = some (.deleteVM "i-1" "vm-1") ∧
      (fleet webConfig).step s (.perform (.job 0) .ok) = some s' :=
  ⟨_, _, rfl, rfl, rfl, rfl, rfl⟩

end Nstance.Targets
