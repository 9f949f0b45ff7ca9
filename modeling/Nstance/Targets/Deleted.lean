import Nstance.Targets.Invariants

/-!
# Deleted virtual machines

`ReconcileLoadBalancers` re-reads a row under `lbMu` and passes over rows marked for
deletion, so it never registers a virtual machine that is gone. The cutover lists its targets
before it asks for the lock: a deletion in between, or one whose row is still listed, has its
target registered again (`restoredAfterDelete`). Where neither happens, no registration is
issued for a deleted virtual machine (`deleted_never_registered`). Targets change only under
the lock (`changed_under_lock`).
-/

namespace Nstance.Targets

open Interaction
open TenantState (Tenant Err)

/-- The action of a task that comes next. -/
def State.issues (s : State) (id : TaskID) : Option Action :=
  (s.tasks id).bind fun task => task.program.next?

/-- A restoration of the tenant is running and has listed the virtual machine. -/
def State.restoring (s : State) (tenant : Tenant) (vm : ProviderID) : Bool :=
  match s.tasks (.cutover tenant) with
  | some ⟨.restore _, _, notes⟩ => notes.any fun
      | .listed _ _ vms => vms.contains vm
      | _ => false
  | _ => false

/-- No virtual machine is deleted while a running restoration has it on its
list, and no restoration lists a deleted one. -/
def State.sparesListed (s : State) : Label → Bool
  | .takeover _ _ => false
  | .perform id _ =>
    match s.tasks id with
    | some ⟨.restore _, .perform (.getProviderIDsByGroup tenant group) _, _⟩ =>
      (s.providerIDs tenant group).all fun vm => .destroyed vm ∉ s.log
    | some ⟨.delete tenant _, .perform (.deleteVM _ vm) _, _⟩ => !s.restoring tenant vm
    | _ => true
  | _ => true

/-- Nobody who may register a virtual machine believes in a deleted one. -/
structure Buried (s : State) : Prop where
  unshared : Unshared s
  drained : ∀ {row : Instance} {vm : ProviderID}, row ∈ s.instances → row.providerID = some vm →
    .destroyed vm ∈ s.log → row.drainStarted = true
  read : ∀ {id : TaskID} {task : Task} {job : InstanceID} {inst : Instance} {vm : ProviderID},
    s.tasks id = some task → task.kind = .reconcile job → holding task.notes = true →
      .read inst ∈ held task.notes → inst.drainStarted = false → inst.providerID = some vm →
        .destroyed vm ∉ s.log
  listed : ∀ {id : TaskID} {task : Task} {tenant : Tenant} {group : String}
    {vms : List ProviderID} {vm : ProviderID}, s.tasks id = some task →
      task.kind = .restore tenant → .listed tenant group vms ∈ task.notes → vm ∈ vms →
        .destroyed vm ∉ s.log

section

variable {config : Config} {s s' : State} {label : Label} {tenant : Tenant} {id : TaskID}
  {vm : ProviderID} {task : Task}

theorem Truthful.drained_row {notes : List Note} {id : InstanceID} (truthful : Truthful s notes)
    (distinct : Distinct s) (drained : Drained tenant id vm notes) :
    ∃ row ∈ s.instances, row.id = id ∧ row.tenant = tenant ∧ row.providerID = some vm ∧
      row.drainStarted = true := by
  obtain ⟨inst, noted, same, owner, provided, marked⟩ := drained
  obtain ⟨row, member, evolves⟩ := truthful.read noted
  refine ⟨row, member, evolves.id.trans same, evolves.tenant.trans owner,
    evolves.provided provided, ?_⟩
  rcases marked with marked | marked
  · exact evolves.drained marked
  obtain ⟨other, member', same', drained⟩ := truthful.drained marked
  rw [distinct.eq_of_id member member' ((evolves.id.trans same).trans same'.symm)]
  exact drained

/-- A deletion that holds the lock and whose row is marked deletes a virtual
machine. -/
inductive Destroys (s : State) (vm : ProviderID) : Label → Prop where
  | intro {id : TaskID} {row : Instance} {instance_ : InstanceID}
      {next : Reply (.deleteVM instance_ vm) → Code Unit} {notes : List Note} {outcome : Outcome}
      (runs : s.tasks id =
        some ⟨.delete row.tenant instance_, .perform (.deleteVM instance_ vm) next, notes⟩)
      (holds : holding notes = true) (member : row ∈ s.instances)
      (provided : row.providerID = some vm) (marked : row.drainStarted = true) :
      Destroys s vm (.perform id outcome)

theorem change_destroyed (conducted : Conducted config s) (faithful : Faithful s)
    (change : Change config s label s') (destroyed : .destroyed vm ∈ s'.log) :
    .destroyed vm ∈ s.log ∨ Destroys s vm label := by
  rcases change_logged change destroyed with old | source
  · exact .inl old
  cases source with
  | action runs logs =>
    cases logs
    obtain ⟨tenant, rfl, holds, drained, _⟩ := pre_deleteVM (conducted.pre runs)
    obtain ⟨row, member, _, rfl, provided, marked⟩ :=
      (faithful.truthful runs).drained_row faithful.distinct drained
    exact .inr (.intro runs holds member provided marked)

theorem State.sparesListed_stays (spares : s.sparesListed label = true) : label.stays = true := by
  cases label with
  | takeover => cases spares
  | _ => rfl

variable {group : String} {vms : List ProviderID}

theorem restoring_of_listed (runs : s.tasks (.cutover tenant) = some task)
    (restores : task.kind = .restore tenant) (noted : .listed tenant group vms ∈ task.notes)
    (member : vm ∈ vms) : s.restoring tenant vm = true := by
  obtain ⟨kind, program, notes⟩ := task
  cases restores
  rw [State.restoring, runs]
  exact List.any_eq_true.mpr ⟨_, noted, List.contains_iff_mem.mpr member⟩

theorem Conducted.restore_id (conducted : Conducted config s) (runs : s.tasks id = some task)
    (restores : task.kind = .restore tenant) : id = .cutover tenant := by
  cases id with
  | job number =>
    have job := conducted.jobs runs
    rw [restores] at job
    cases job
  | cutover owner =>
    have calls := conducted.linked runs
    rw [restores] at calls
    obtain ⟨_, _, _, _, ⟨_, impossible⟩ | ⟨_, same⟩⟩ := calling_eq_some calls
    · cases impossible
    · cases same
      rfl

section

variable (buried : Buried s) (conducted : Conducted config s) (faithful : Faithful s)
  (change : Change config s label s')
include buried conducted faithful change

theorem Buried.step_drained (stays : label.stays = true) {row' : Instance}
    (member : row' ∈ s'.instances) (provided : row'.providerID = some vm)
    (destroyed : .destroyed vm ∈ s'.log) : row'.drainStarted = true := by
  rcases (change_rows faithful.distinct change stays).origin member provided with
    ⟨row, here, evolves, had⟩ | ⟨rfl, new⟩
  · refine evolves.drained ?_
    rcases change_destroyed conducted faithful change destroyed with old | deleted
    · exact buried.drained here had old
    obtain ⟨_, _, there, had', marked⟩ := deleted
    rw [buried.unshared here there had had']
    exact marked
  rcases change_destroyed conducted faithful change destroyed with old | deleted
  · exact absurd rfl (isNew_log new old)
  · cases deleted

theorem Buried.step_read (stays : label.stays = true) {job : InstanceID} {inst : Instance}
    (runs : s'.tasks id = some task) (reconciles : task.kind = .reconcile job)
    (holds : holding task.notes = true) (read : .read inst ∈ held task.notes)
    (live : inst.drainStarted = false) (provided : inst.providerID = some vm) :
    .destroyed vm ∉ s'.log := by
  intro destroyed
  rcases change_destroyed conducted faithful change destroyed with old | deleted
  · rcases change_tasks change stays runs with
      ⟨same, _⟩ | ⟨_, none⟩ | @⟨_, action, _, notes, _, reply, _, began, effect⟩
    · exact buried.read same reconciles holds read live provided old
    · rw [none] at read
      exact absurd read List.not_mem_nil
    obtain ⟨plain, taken | earlier⟩ := mem_held_learn read
    · have found := find_mem (effect.means taken)
      rw [buried.drained found.1 provided old] at live
      cases live
    · have held := (learn_grown action plain reply notes).holding.symm.trans holds
      exact buried.read began reconciles held earlier live provided old
  · -- The deletion holds the lock, so the reconciliation does not.
    obtain ⟨began, locked, _⟩ := deleted
    rcases change_tasks change stays runs with ⟨same, _⟩ | ⟨_, none⟩ | ⟨began', _⟩
    · have mine := conducted.holder_eq same holds began locked
      subst mine
      cases same.symm.trans began
      cases reconciles
    · rw [none] at holds
      cases holds
    · cases began.symm.trans began'
      cases reconciles

theorem Buried.step_listed (spares : s.sparesListed label = true) (runs : s'.tasks id = some task)
    (restores : task.kind = .restore tenant) (noted : .listed tenant group vms ∈ task.notes)
    (member : vm ∈ vms) : .destroyed vm ∉ s'.log := by
  intro destroyed
  have stays := State.sparesListed_stays spares
  rcases change_destroyed conducted faithful change destroyed with old | deleted
  · rcases change_tasks change stays runs with
      ⟨same, _⟩ | ⟨_, none⟩ | @⟨_, action, _, notes, _, reply, _, began, effect⟩
    · exact buried.listed same restores noted member old
    · rw [none] at noted
      exact absurd noted List.not_mem_nil
    rcases mem_learn.mp noted with taken | earlier
    · cases restores
      have listed : vms = s.providerIDs tenant group := effect.means taken
      obtain rfl : action = .getProviderIDsByGroup tenant group := note_of taken
      simp only [State.sparesListed, began] at spares
      have spared := List.all_eq_true.mp spares vm (listed ▸ member)
      exact of_decide_eq_true spared old
    · exact buried.listed began restores earlier member old
  · -- The restoration that has the machine on its list is that of its tenant.
    obtain @⟨_, row, _, _, _, _, began, _, here, provided, _⟩ := deleted
    simp only [State.sparesListed, began] at spares
    have kept : s.tasks id = some task := by
      rcases change_tasks change stays runs with ⟨same, _⟩ | ⟨_, none⟩ | ⟨began', _⟩
      · exact same
      · rw [none] at noted
        exact absurd noted List.not_mem_nil
      · cases began.symm.trans began'
        cases restores
    obtain ⟨row', there, rfl, _, provided'⟩ := (faithful.truthful kept).listed noted vm member
    cases buried.unshared here there provided provided'
    have running := conducted.restore_id kept restores
    subst running
    rw [restoring_of_listed kept restores noted member] at spares
    cases spares

end

theorem Buried.step (conducted : Conducted config s) (faithful : Faithful s) (buried : Buried s)
    (change : Change config s label s') (spares : s.sparesListed label = true) : Buried s' := by
  have stays := State.sparesListed_stays spares
  exact ⟨(change_rows faithful.distinct change stays).unshared faithful.distinct buried.unshared,
    buried.step_drained conducted faithful change stays,
    buried.step_read conducted faithful change stays,
    buried.step_listed conducted faithful change spares⟩

theorem buried_of_reaches
    (reached : (fleet config).Reaches (fun s label => s.sparesListed label = true) s) :
    Buried s := by
  refine reached.invariant (P := Buried) ?_ fun before buried spares stepped =>
    buried.step (conducted_of_reaches before) (faithful_of_reaches before) (step_change stepped)
      spares
  refine ⟨fun impossible => ?_, fun impossible => ?_, fun impossible => ?_, fun impossible => ?_⟩
  all_goals cases impossible

end

theorem issues_eq_some {s : State} {id : TaskID} {action : Action}
    (issued : s.issues id = some action) :
    ∃ kind next notes, s.tasks id = some ⟨kind, .perform action next, notes⟩ := by
  obtain ⟨⟨kind, program, notes⟩, runs, next⟩ := Option.bind_eq_some_iff.mp issued
  cases program with
  | pure | fail => cases next
  | perform action' continue_ =>
    cases next
    exact ⟨kind, continue_, notes, runs⟩

/-- **Targets change under the lock.** In every run, a task that is about to register or
deregister a target, or to change what is recorded of targets, holds `lbMu`. So does one that is
about to delete a virtual machine, and the row of that one is marked as draining. -/
theorem changed_under_lock {config : Config} {s : State} (reached : (fleet config).Reachable s)
    {task : TaskID} :
    (∀ action, s.issues task = some action → action.guarded = true → s.lbMu = some task) ∧
    ∀ id vm, s.issues task = some (.deleteVM id vm) → s.lbMu = some task ∧
      ∃ row ∈ s.instances, row.id = id ∧ row.providerID = some vm ∧ row.drainStarted = true := by
  have conducted := conducted_of_reaches reached
  have faithful := faithful_of_reaches reached
  refine ⟨fun action issued guarded => ?_, fun id vm issued => ?_⟩
  · obtain ⟨kind, next, notes, runs⟩ := issues_eq_some issued
    exact (conducted.holds runs).mp (pre_guarded guarded (conducted.pre runs))
  · obtain ⟨kind, next, notes, runs⟩ := issues_eq_some issued
    obtain ⟨tenant, -, holds, drained, -⟩ := pre_deleteVM (conducted.pre runs)
    obtain ⟨row, member, same, -, provided, marked⟩ :=
      (faithful.truthful runs).drained_row faithful.distinct drained
    exact ⟨(conducted.holds runs).mp holds, row, member, same, provided, marked⟩

/-- **A deleted virtual machine is not registered again.** In every run that
deletes no virtual machine a running restoration has listed, and in which no
restoration lists a deleted one, a task that is about to register a target of a
virtual machine finds that it has not been deleted. -/
theorem deleted_never_registered {config : Config} {s : State}
    (reached : (fleet config).Reaches (fun s label => s.sparesListed label = true) s)
    {id : TaskID} {tenant : Tenant} {target : Target}
    (issued : s.issues id = some (.registerWithLB tenant target)) :
    .destroyed target.vm ∉ s.log := by
  have conducted := conducted_of_reaches reached
  have buried := buried_of_reaches reached
  obtain ⟨kind, next, notes, runs⟩ := issues_eq_some issued
  obtain ⟨holds, ⟨⟨job, rfl⟩, registrable⟩ | ⟨rfl, listed⟩⟩ := pre_register (conducted.pre runs)
  · obtain ⟨inst, cleared, _, live, provided, _⟩ := registrable
    exact buried.read runs rfl holds cleared.earlier_mem live provided
  · obtain ⟨name, group, vms, _, _, noted, _, _, member⟩ := listed
    exact buried.listed runs rfl noted member

/-! ## Runs in full -/

/-- One tenant with one group behind one load balancer. -/
def webConfig : Config where
  loadBalancers := [("web", ⟨false⟩)]
  groups tenant := if tenant = "red" then [("pool", ⟨some 1, ["web"]⟩)] else []

/-- An instance is created. -/
def create (id : InstanceID) (vm : ProviderID) : List Label :=
  [.insert id "red" "pool" false, .created id vm]

/-- A task takes steps that succeed. -/
def advance (id : TaskID) (steps : Nat) : List Label :=
  List.replicate steps (.perform id .ok)

variable (number : Nat)

/-- The deletion of an instance without a recorded target. -/
def deleteUnrecorded (id : InstanceID) : List Label :=
  .delete number "red" id :: advance (.job number) 8 ++ [.done number]

/-- A reconciliation up to the call that registers. -/
def reconcileToRegistration (id : InstanceID) : List Label :=
  .reconcile number id :: advance (.job number) 3 ++
    [.perform (.job number) (.group ["web"]), .perform (.job number) .ok,
      .perform (.job number) (.state .deregistered)]

/-- A reconciliation that finds the target healthy. -/
def reconcileHealthy (id : InstanceID) : List Label :=
  reconcileToRegistration number id ++
    [.perform (.job number) .ok, .perform (.job number) (.state .healthy)] ++
    advance (.job number) 3 ++ [.done number]

/-- An instance is deleted, and its replacement is about to be registered. -/
def replaced : List Label :=
  create "i-1" "vm-1" ++ deleteUnrecorded 0 "i-1" ++ create "i-2" "vm-2" ++
    reconcileToRegistration 1 "i-2"

theorem replaced_not_deleted :
    ∃ s, (fleet webConfig).runWithin State.sparesListed (fleet webConfig).start replaced = some s ∧
      .destroyed "vm-1" ∈ s.log ∧
      s.issues (.job 1) = some (.registerWithLB "red" ⟨"web", "vm-2"⟩) ∧
      .destroyed "vm-2" ∉ s.log :=
  ⟨_, rfl, by decide, rfl,
    deleted_never_registered
      (Machine.reaches_of_runWithin (M := fleet webConfig) replaced .start rfl)
      (show State.issues _ (.job 1) = some (.registerWithLB "red" ⟨"web", "vm-2"⟩) from rfl)⟩

theorem replaced_under_lock :
    ∃ s, (fleet webConfig).run (fleet webConfig).start replaced = some s ∧
      s.issues (.job 1) = some (.registerWithLB "red" ⟨"web", "vm-2"⟩) ∧ s.lbMu = some (.job 1) :=
  ⟨_, rfl, rfl, (changed_under_lock
    (Machine.reachable_of_run (M := fleet webConfig) replaced .start rfl)).1 _ rfl rfl⟩

/-- A sleep up to the withdrawal. -/
def sleepToWithdrawal : List Label :=
  (TenantState.boot ++ .acquire "red" (.sleep none false .callback) ::
    TenantState.succeed "red" 9).map .manager ++ [.call "red"]

/-- The withdrawal fails at its last poll, and the rollback has come to the
restoration of the targets. -/
def rollBackToRestoration : List Label :=
  advance (.cutover "red") 4 ++ [.perform (.cutover "red") (.fail .canceled), .returned "red"] ++
    (TenantState.succeed "red" 2).map .manager ++ [.call "red"]

/-- The restoration lists its target, the instance is deleted, and the
restoration takes the lock. -/
def restoredAfterDelete : List Label :=
  create "i-1" "vm-1" ++ sleepToWithdrawal ++ rollBackToRestoration ++
    advance (.cutover "red") 1 ++ deleteUnrecorded 0 "i-1" ++ advance (.cutover "red") 1

/-- The restoration registers a virtual machine that the provider has deleted. -/
theorem restoredAfterDelete_registered :
    ∃ s s', (fleet webConfig).run (fleet webConfig).start restoredAfterDelete = some s ∧
      .destroyed "vm-1" ∈ s.log ∧
      s.issues (.cutover "red") = some (.registerWithLB "red" ⟨"web", "vm-1"⟩) ∧
      (fleet webConfig).step s (.perform (.cutover "red") .ok) = some s' :=
  ⟨_, _, rfl, by decide, rfl, rfl⟩

end Nstance.Targets
