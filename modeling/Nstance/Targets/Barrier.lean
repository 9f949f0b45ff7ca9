import Nstance.TenantState.Blocking
import Nstance.Targets.Deleted

/-!
# The barrier between withdrawal and restoration

A withdrawal blocks ordinary registration before it lists its targets, and takes `lbMu` for
each of them. A reconciliation that found its tenant unblocked holds the lock until it is
done. So when the first target is deregistered nobody is left who may still register one, and
from then to the next recorded restoration nothing of the tenant is registered
(`target_registration_barrier`). The configuration is static.
-/

namespace Nstance.Targets

open Interaction
open TenantState (Tenant Err)

/-! ## The manager of a fleet -/

section

variable {config : Config} {s s' : State} {label : Label}

theorem change_manager (change : Change config s label s') : s'.manager = s.manager ∨
      ∃ move, s.manager.step true move = some s'.manager ∧
        (label.stays = true → move ≠ .crash) := by
  cases change with
  | manager own moved =>
    refine .inr ⟨_, moved, fun _ same => ?_⟩
    subst same
    cases own
  | returned runs ends moved => exact .inr ⟨_, moved, nofun⟩
  | perform runs effect => exact .inl effect.manager
  | report =>
    unfold State.reported
    split <;> exact .inl rfl
  | takeover => exact .inr ⟨.crash, rfl, nofun⟩
  | _ => exact .inl rfl

theorem manager_of_reaches {allowed : State → Label → Prop}
    (stay : ∀ {s label}, allowed s label → label.stays = true)
    (reached : (fleet config).Reaches allowed s) :
    (TenantState.machine true).Reaches (fun _ move => move ≠ .crash) s.manager := by
  induction reached with
  | start => exact .start
  | step _ ok stepped ih =>
    rcases change_manager (step_change stepped) with same | ⟨move, moved, alive⟩
    · rw [same]
      exact ih
    · exact .step ih (alive (stay ok)) moved

end

/-! ## Targets in the log -/

/-- The target was registered, and not deregistered since. -/
def standing (target : Target) : List Happening → Bool
  | [] => false
  | .registered _ other :: before => other = target || standing target before
  | .deregistered other :: before => other ≠ target && standing target before
  | _ :: before => standing target before

variable {target : Target} {log : List Happening}

theorem standing_cons {happening : Happening} (stands : standing target (happening :: log) = true) :
    standing target log = true ∨ ∃ owner, happening = .registered owner target := by
  cases happening with
  | registered owner other =>
    simp only [standing, Bool.or_eq_true, decide_eq_true_eq] at stands
    rcases stands with rfl | before
    · exact .inr ⟨owner, rfl⟩
    · exact .inl before
  | deregistered other =>
    simp only [standing, Bool.and_eq_true] at stands
    exact .inl stands.2
  | _ => exact .inl stands

theorem exists_registered_of_standing (stands : standing target log = true) :
    ∃ owner, .registered owner target ∈ log := by
  induction log with
  | nil => cases stands
  | cons happening log ih =>
    rcases standing_cons stands with before | ⟨owner, rfl⟩
    · obtain ⟨owner, member⟩ := ih before
      exact ⟨owner, List.mem_cons_of_mem _ member⟩
    · exact ⟨owner, List.mem_cons_self⟩

/-- The virtual machine of an instance is deleted, or the instance was reported
deleting. -/
def Excused (s : State) (id : InstanceID) (vm : ProviderID) : Prop :=
  .reportedDeleting id ∈ s.log ∨ .destroyed vm ∈ s.log ∨ .missing vm ∈ s.log

/-- A managed instance of the tenant with a virtual machine that is neither
deleted nor reported deleting. -/
structure Subject (tenant : Tenant) (s : State) (row : Instance) (vm : ProviderID) : Prop where
  member : row ∈ s.instances
  owner : row.tenant = tenant
  managed : row.onDemand = false
  provided : row.providerID = some vm
  present : ¬ Excused s row.id vm

/-- A reconciliation that holds the lock has cleared the row. -/
def Clears (s : State) (inst : Instance) : Prop :=
  ∃ id job program notes, s.tasks id = some ⟨.reconcile job, program, notes⟩ ∧
    holding notes = true ∧ Cleared inst notes

variable (config : Config) (tenant : Tenant)

/-- A group of the tenant is behind the load balancer. -/
def Behind (name : String) (lb : LBKey) : Prop :=
  ∃ group, (name, group) ∈ config.groups tenant ∧ lb ∈ group.loadBalancers

/-- The group answers of the tenant are those configured, and the server stays. -/
def State.isStatic (s : State) : Label → Bool
  | .takeover _ _ => false
  | .perform id (.group lbs) =>
    match s.tasks id with
    | some ⟨_, .perform (.getGroup owner name) _, _⟩ => owner ≠ tenant ||
        (config.groups tenant).any fun (other, group) =>
          other = name && group.loadBalancers = lbs
    | _ => true
  | _ => true

section

variable {config : Config} {tenant : Tenant} {s s' : State} {label : Label}

theorem State.isStatic_stays (static : s.isStatic config tenant label = true) :
    label.stays = true := by
  cases label with
  | takeover => cases static
  | _ => rfl

theorem change_log_subset (change : Change config s label s') {happening : Happening}
    (member : happening ∈ s.log) : happening ∈ s'.log := by
  rcases change_log change with same | ⟨_, added, _⟩
  · exact same ▸ member
  · rw [added]
    exact List.mem_cons_of_mem _ member

theorem Excused.kept {id : InstanceID} {vm : ProviderID} (excused : Excused s id vm)
    (change : Change config s label s') : Excused s' id vm :=
  excused.imp (change_log_subset change)
    (Or.imp (change_log_subset change) (change_log_subset change))

theorem standing_back (change : Change config s label s') {target : Target}
    (stands : standing target s'.log = true) :
    standing target s.log = true ∨ ∃ owner, Source s label (.registered owner target) := by
  rcases change_log change with same | ⟨happening, added, source⟩
  · exact .inl (same ▸ stands)
  · rw [added] at stands
    exact (standing_cons stands).imp_right fun ⟨owner, same⟩ => ⟨owner, same ▸ source⟩

theorem clears_back (change : Change config s label s') (stays : label.stays = true)
    {inst : Instance} (clears : Clears s' inst) :
    Clears s inst ∨ (s.manager.cached inst.tenant).blocked = false := by
  obtain ⟨id, job, program, notes, runs, holds, cleared⟩ := clears
  rcases change_tasks change stays runs with
    ⟨same, _⟩ | ⟨_, none⟩ | @⟨_, action, _, before, _, reply, _, began, effect⟩
  · exact .inl ⟨id, job, program, notes, same, holds, cleared⟩
  · rw [show notes = [] from none] at holds
    cases holds
  obtain ⟨plain, ⟨taken, _⟩ | earlier⟩ := after_learn cleared
  · exact .inr (effect.means taken)
  · refine .inl ⟨id, job, _, before, began, ?_, earlier⟩
    exact (learn_grown action plain reply before).holding.symm.trans holds

theorem subject_back (distinct : Distinct s) (change : Change config s label s')
    (stays : label.stays = true) {row' : Instance} {vm : ProviderID}
    (subject : Subject tenant s' row' vm) :
    (∃ row, Subject tenant s row vm ∧ row.id = row'.id ∧ row.group = row'.group) ∨
      label = .created row'.id vm ∧ s.isNew vm = true := by
  rcases (change_rows distinct change stays).origin subject.member subject.provided with
    ⟨row, here, evolves, had⟩ | new
  · refine .inl ⟨row, ⟨here, evolves.tenant.symm.trans subject.owner,
      evolves.onDemand.symm.trans subject.managed, had, fun excused => subject.present ?_⟩,
      evolves.id.symm, evolves.group.symm⟩
    rw [evolves.id]
    exact excused.kept change
  · exact .inr new

end

/-! ## Where targets are registered -/

/-- The instance has a row, and the load balancer is one of its group. -/
def Placed (s : State) (lb : LBKey) (id : InstanceID) : Prop :=
  ∃ row ∈ s.instances, row.id = id ∧ (row.tenant = tenant → Behind config tenant row.group lb)

/-- What the notes of a task say about load balancers and deleted machines. -/
structure Apt (config : Config) (tenant : Tenant) (s : State) (notes : List Note) : Prop where
  recorded : ∀ {lb : LBKey} {id : InstanceID}, .recorded lb id ∈ notes →
    Placed config tenant s lb id
  pending : ∀ {rows : List (LBKey × InstanceID)}, .pending rows ∈ notes →
    ∀ lb id, (lb, id) ∈ rows → Placed config tenant s lb id
  attached : ∀ {id : InstanceID} {lbs : List LBKey}, .attached id lbs ∈ notes →
    ∀ lb ∈ lbs, Placed config tenant s lb id
  grouped : ∀ {name : String} {lbs : List LBKey}, .grouped tenant name lbs ∈ notes →
    ∀ lb ∈ lbs, Behind config tenant name lb
  gone : ∀ {vm : ProviderID}, .gone vm ∈ notes → .destroyed vm ∈ s.log ∨ .missing vm ∈ s.log

/-- A row that `GetProviderIDsByGroup` leaves out. -/
def Instance.unlisted (row : Instance) : Prop :=
  row.deleted = true ∨ row.providerState = some .deleting ∨ row.providerState = some .deleted

/-- Registrations are recorded and made only behind the load balancers of an
instance's group, and a row that is not listed has an excuse. -/
structure Orderly (config : Config) (tenant : Tenant) (s : State) : Prop where
  unshared : Unshared s
  apt : ∀ {id : TaskID} {task : Task}, s.tasks id = some task → Apt config tenant s task.notes
  placed : ∀ {lb : LBKey} {id : InstanceID}, s.records lb id = true → Placed config tenant s lb id
  rightful : ∀ {owner : Tenant} {target : Target}, .registered owner target ∈ s.log →
    ∃ row ∈ s.instances, row.providerID = some target.vm ∧ row.tenant = owner ∧
      (owner = tenant → Behind config tenant row.group target.lb ∧
        config.isTunnel target.lb = false)
  excused : ∀ {row : Instance} {vm : ProviderID}, row ∈ s.instances → row.providerID = some vm →
    row.unlisted → Excused s row.id vm

section

variable {config : Config} {tenant : Tenant} {s s' after : State} {label : Label}
  {notes : List Note} {id : InstanceID} {kind : Kind} {row' : Instance} {vm : ProviderID}
  {lb : LBKey} {task : TaskID} {action : Action} {next : Reply action → Code Unit}
  {outcome : Outcome} {reply : Reply action}

theorem Placed.grows (placed : Placed config tenant s lb id) (grows : Grows s s') :
    Placed config tenant s' lb id := by
  obtain ⟨row, member, same, behind⟩ := placed
  obtain ⟨row', member', evolves⟩ := grows row member
  refine ⟨row', member', evolves.id.trans same, fun owner => ?_⟩
  rw [evolves.group]
  exact behind (evolves.tenant.symm.trans owner)

theorem Apt.kept (apt : Apt config tenant s notes) (grows : Grows s s')
    (change : Change config s label s') : Apt config tenant s' notes where
  recorded noted := (apt.recorded noted).grows grows
  pending noted lb id member := (apt.pending noted lb id member).grows grows
  attached noted lb member := (apt.attached noted lb member).grows grows
  grouped := apt.grouped
  gone noted := (apt.gone noted).imp (change_log_subset change) (change_log_subset change)

theorem Apt.upserts (apt : Apt config tenant s notes) (truthful : Truthful s notes)
    {status : LBStatus} (allowed : Pre config kind (.upsertLBInstance lb id status) notes) :
    Placed config tenant s lb id := by
  cases kind with
  | reconcile job =>
    rcases allowed.2 with (noted | ⟨rows, noted, member⟩) | grouped
    · exact apt.recorded (held_subset noted)
    · exact apt.pending (held_subset noted) lb id member
    obtain ⟨inst, lbs, read, rfl, noted, member⟩ := grouped
    obtain ⟨row, here, evolves⟩ := truthful.read (held_subset read)
    refine ⟨row, here, evolves.id, fun owner => ?_⟩
    have same : inst.tenant = tenant := evolves.tenant.symm.trans owner
    rw [same] at noted
    rw [evolves.group]
    exact apt.grouped (held_subset noted) lb member
  | delete owner job =>
    obtain ⟨rfl, _, lbs, noted, member⟩ := allowed
    exact apt.attached (held_subset noted) lb member
  | withdraw | restore => exact allowed.elim

section

variable (orderly : Orderly config tenant s)
include orderly

theorem Apt.learn (conducted : Conducted config s) (faithful : Faithful s)
    (static : s.isStatic config tenant (.perform task outcome) = true)
    (runs : s.tasks task = some ⟨kind, .perform action next, notes⟩)
    (effect : Effect s task action outcome reply after) (grows : Grows s s')
    (change : Change config s (.perform task outcome) s') (same : s'.log = after.log) :
    Apt config tenant s' (Targets.learn action reply notes) := by
  have before : Apt config tenant s notes := orderly.apt runs
  have kept := before.kept grows change
  refine ⟨fun noted => ?_, fun noted lb id member => ?_, fun noted lb member => ?_,
    fun noted lb member => ?_, fun noted => ?_⟩
  · rcases mem_learn.mp noted with taken | earlier
    · obtain ⟨status, rfl⟩ : ∃ status, action = .upsertLBInstance _ _ status := note_of taken
      exact (before.upserts (faithful.truthful runs) (conducted.pre runs)).grows grows
    · exact kept.recorded earlier
  · rcases mem_learn.mp noted with taken | earlier
    · have found : _ = s.pendingOrFailed := effect.means taken
      exact (orderly.placed (mem_pendingOrFailed (found ▸ member))).grows grows
    · exact kept.pending earlier lb id member
  · rcases mem_learn.mp noted with taken | earlier
    · have found : _ = s.recordedFor _ := effect.means taken
      exact (orderly.placed (mem_recordedFor.mp (found ▸ member))).grows grows
    · exact kept.attached earlier lb member
  · rcases mem_learn.mp noted with taken | earlier
    · obtain rfl : action = .getGroup tenant _ := note_of taken
      obtain rfl : outcome = .group _ := effect.means taken
      simp only [State.isStatic, runs, ne_eq, not_true_eq_false, decide_false,
        Bool.false_or] at static
      obtain ⟨⟨name, group⟩, configured, fits⟩ := List.any_eq_true.mp static
      simp only [Bool.and_eq_true, decide_eq_true_eq] at fits
      obtain ⟨rfl, rfl⟩ := fits
      exact ⟨group, configured, member⟩
    · exact kept.grouped earlier lb member
  · rcases mem_learn.mp noted with taken | earlier
    · rw [same]
      rcases effect.means taken with destroyed | missing
      · rw [destroyed]
        exact .inl List.mem_cons_self
      · rw [missing]
        exact .inr List.mem_cons_self
    · exact kept.gone earlier

theorem Orderly.registers (conducted : Conducted config s) (faithful : Faithful s) {owner : Tenant}
    {target : Target} (source : Source s label (.registered owner target)) :
    (∃ row ∈ s.instances, row.providerID = some target.vm ∧ row.tenant = owner ∧
      (owner = tenant → Behind config tenant row.group target.lb ∧
        config.isTunnel target.lb = false)) ∧
    ((∃ inst, Clears s inst ∧ inst.tenant = owner ∧ inst.providerID = some target.vm) ∨
      ∃ task, s.tasks (.cutover owner) = some task ∧ task.kind = .restore owner) := by
  cases source with
  | @action task outcome kind action next notes _ runs logs =>
    cases logs
    have truthful := faithful.truthful runs
    obtain ⟨holds, ⟨⟨job, rfl⟩, registrable⟩ | ⟨rfl, listed⟩⟩ := pre_register (conducted.pre runs)
    · obtain ⟨inst, cleared, rfl, _, provided, known, provider⟩ := registrable
      obtain ⟨row, here, evolves⟩ := truthful.read (held_subset cleared.earlier_mem)
      refine ⟨⟨row, here, evolves.provided provided, evolves.tenant, fun same => ⟨?_, provider⟩⟩,
        .inl ⟨inst, ⟨task, job, _, notes, runs, holds, cleared⟩, rfl, provided⟩⟩
      have placed : Placed config tenant s target.lb inst.id := by
        rcases known with noted | ⟨rows, noted, member⟩
        · exact (orderly.apt runs).recorded (held_subset noted)
        · exact (orderly.apt runs).pending (held_subset noted) _ _ member
      obtain ⟨other, there, same', behind⟩ := placed
      cases faithful.distinct.eq_of_id here there (evolves.id.trans same'.symm)
      exact behind (evolves.tenant.trans same)
    · obtain ⟨name, group, vms, configured, _, noted, behind, provider, member⟩ := listed
      obtain ⟨row, here, owned, grouped, provided⟩ := truthful.listed noted _ member
      refine ⟨⟨row, here, provided, owned, fun same => ⟨?_, provider⟩⟩,
        .inr ⟨_, conducted.restore_id runs rfl ▸ runs, rfl⟩⟩
      subst same
      rw [grouped]
      exact ⟨group, configured, behind⟩

theorem Orderly.excused_drain
    (member : row' ∈ (s.change id fun row => { row with drainStarted := true }).instances)
    (provided : row'.providerID = some vm) (unlisted : row'.unlisted) : Excused s row'.id vm := by
  obtain ⟨row, here, rfl⟩ := mem_change.mp member
  split at provided
  · rename_i same
    rw [if_pos same] at unlisted ⊢
    have had : row.providerID = some vm := provided
    have excused := orderly.excused here had unlisted
    exact excused
  rename_i different
  rw [if_neg different] at unlisted ⊢
  exact orderly.excused here provided unlisted

theorem Orderly.excused_effect (conducted : Conducted config s) (faithful : Faithful s)
    (runs : s.tasks task = some ⟨kind, .perform action next, notes⟩)
    (effect : Effect s task action outcome reply after) (member : row' ∈ after.instances)
    (provided : row'.providerID = some vm) (unlisted : row'.unlisted) : Excused s row'.id vm := by
  cases effect with
  | drained => exact orderly.excused_drain member provided unlisted
  | @deleted id row found =>
    obtain ⟨row, here, rfl⟩ := mem_change.mp member
    split at provided
    · rename_i same
      subst same
      have allowed := conducted.pre runs
      cases kind with
      | delete owner job =>
        obtain ⟨rfl, _, vm', drained, gone⟩ := allowed
        obtain ⟨other, there, same, _, had, _⟩ :=
          (faithful.truthful runs).drained_row faithful.distinct drained
        cases faithful.distinct.eq_of_id here there same.symm
        cases provided.symm.trans had
        exact .inr ((orderly.apt runs).gone gone)
      | reconcile | withdraw | restore => exact allowed.elim
    · rename_i different
      rw [if_neg different] at unlisted ⊢
      exact orderly.excused here provided unlisted
  | _ => exact orderly.excused member provided unlisted

theorem Orderly.excused_report {status : ProviderStatus}
    (member : row' ∈ ((s.change id fun row => { row with providerState := some status }).reported
      id status).instances) (provided : row'.providerID = some vm) (unlisted : row'.unlisted) :
    Excused ((s.change id fun row => { row with providerState := some status }).reported id status)
      row'.id vm := by
  have kept : Excused s row'.id vm → Excused
      ((s.change id fun row => { row with providerState := some status }).reported id status)
        row'.id vm := by
    intro excused
    unfold State.reported
    split
    · exact excused
    · exact excused.imp (List.mem_cons_of_mem _)
        (Or.imp (List.mem_cons_of_mem _) (List.mem_cons_of_mem _))
  rw [instances_reported] at member
  obtain ⟨row, here, rfl⟩ := mem_change.mp member
  by_cases same : row.id = id
  · rw [if_pos same] at provided unlisted kept ⊢
    cases status with
    | deleting | deleted =>
      left
      rw [show row.id = id from same]
      exact List.mem_cons_self
    | other =>
      have had : row.providerID = some vm := provided
      refine kept ?_
      rcases unlisted with deleted | impossible | impossible
      · have excused := orderly.excused here had (.inl deleted)
        exact excused
      · cases impossible
      · cases impossible
  · rw [if_neg same] at provided unlisted kept ⊢
    exact kept (orderly.excused here provided unlisted)

section

variable (conducted : Conducted config s) (faithful : Faithful s)
  (change : Change config s label s')
include conducted faithful change

theorem Orderly.step_excused (stays : label.stays = true) (member : row' ∈ s'.instances)
    (provided : row'.providerID = some vm) (unlisted : row'.unlisted) : Excused s' row'.id vm := by
  have kept : Excused s row'.id vm → Excused s' row'.id vm := fun excused => excused.kept change
  cases change with
  | perform runs effect =>
    exact kept (orderly.excused_effect conducted faithful runs effect member provided unlisted)
  | drain found => exact kept (orderly.excused_drain member provided unlisted)
  | report found => exact orderly.excused_report member provided unlisted
  | insert fresh =>
    rcases List.mem_cons.mp member with rfl | old
    · cases provided
    · exact orderly.excused old provided unlisted
  | created new here same unprovided =>
    obtain ⟨row, there, rfl⟩ := mem_change.mp member
    split at unlisted
    · rcases unlisted with impossible | impossible | impossible <;> cases impossible
    rename_i different
    rw [if_neg different] at provided ⊢
    exact orderly.excused there provided unlisted
  | takeover => cases stays
  | _ => exact orderly.excused member provided unlisted

theorem Orderly.step (static : s.isStatic config tenant label = true) :
    Orderly config tenant s' := by
  have stays := State.isStatic_stays static
  have rows := change_rows faithful.distinct change stays
  refine ⟨rows.unshared faithful.distinct orderly.unshared, fun {id task} runs => ?_,
    fun {lb id} recorded => ?_, fun {owner target} registered => ?_,
    orderly.step_excused conducted faithful change stays⟩
  · rcases change_tasks change stays runs with ⟨same, _⟩ | ⟨_, none⟩ | ⟨began, effect⟩
    · exact (orderly.apt same).kept rows.grows change
    · rw [none]
      refine ⟨fun noted => ?_, fun noted => ?_, fun noted => ?_, fun noted => ?_, fun noted => ?_⟩
      all_goals exact absurd noted List.not_mem_nil
    · exact .learn orderly conducted faithful static began effect rows.grows change rfl
  · rcases change_lbInstances change stays with same | ⟨runs, effect, same⟩
    · rw [records_congr same] at recorded
      exact (orderly.placed recorded).grows rows.grows
    rw [records_congr same] at recorded
    rcases effect.records_back recorded with old | ⟨status, rfl⟩
    · exact (orderly.placed old).grows rows.grows
    · exact ((orderly.apt runs).upserts (faithful.truthful runs) (conducted.pre runs)).grows
        rows.grows
  · have found : ∃ row ∈ s.instances, row.providerID = some target.vm ∧ row.tenant = owner ∧
        (owner = tenant → Behind config tenant row.group target.lb ∧
          config.isTunnel target.lb = false) := by
      rcases change_logged change registered with old | source
      · exact orderly.rightful old
      · exact (orderly.registers conducted faithful source).1
    obtain ⟨row, member, provided, owned, behind⟩ := found
    obtain ⟨row', member', evolves⟩ := rows.grows row member
    refine ⟨row', member', evolves.provided provided, evolves.tenant.trans owned, fun same => ?_⟩
    rw [evolves.group]
    exact behind same

end

end

theorem orderly_of_reaches
    (reached : (fleet config).Reaches (fun s label => s.isStatic config tenant label = true) s) :
    Orderly config tenant s := by
  refine reached.invariant (P := Orderly config tenant) ?_ fun before orderly static stepped =>
    orderly.step (conducted_of_reaches before) (faithful_of_reaches before) (step_change stepped)
      static
  refine ⟨fun impossible => ?_, fun impossible => ?_, fun impossible => ?_, fun impossible => ?_,
    fun impossible => ?_⟩
  all_goals cases impossible

end

/-! ## The barrier -/

/-- What a running withdrawal has achieved: once it has withdrawn a target nobody
is left to register one, what it has withdrawn stays so, and what it did not
list is not registered. -/
structure Withdrawing (tenant : Tenant) (s : State) (notes : List Note) : Prop where
  cleared : ∀ {inst : Instance} {vm : ProviderID}, Clears s inst → inst.tenant = tenant →
    inst.providerID = some vm → (∀ target, .withdrawn target ∉ notes) ∧
      ∀ vms, .listed tenant inst.group vms ∈ notes →
        vm ∈ vms ∨ inst.onDemand = true ∨ Excused s inst.id vm
  withdrawn : ∀ {row : Instance} {vm : ProviderID} {lb : LBKey}, Subject tenant s row vm →
    .withdrawn ⟨lb, vm⟩ ∈ notes → standing ⟨lb, vm⟩ s.log = false
  listed : ∀ {row : Instance} {vm : ProviderID} {lb : LBKey} {vms : List ProviderID},
    Subject tenant s row vm → .listed tenant row.group vms ∈ notes → vm ∉ vms →
      standing ⟨lb, vm⟩ s.log = false

/-- The targets of the tenant were withdrawn. -/
def State.withdrawn (s : State) (tenant : Tenant) : Bool :=
  TenantState.withdrawn (s.manager.history tenant)

/-- While a withdrawal is open nothing of the tenant stands, and nobody is left
to register anything. -/
structure Barred (config : Config) (tenant : Tenant) (s : State) : Prop where
  withdrawing : ∀ {program : Code Unit} {notes : List Note},
    s.tasks (.cutover tenant) = some ⟨.withdraw tenant, program, notes⟩ →
      Withdrawing tenant s notes
  cleared : s.withdrawn tenant = true → ∀ {inst : Instance} {vm : ProviderID}, Clears s inst →
    inst.tenant = tenant → inst.providerID = some vm →
      config.hasProviderLoadBalancer tenant = false
  stands : s.withdrawn tenant = true → ∀ {row : Instance} {vm : ProviderID} {lb : LBKey},
    Subject tenant s row vm → standing ⟨lb, vm⟩ s.log = false

section

variable {config : Config} {tenant : Tenant} {s s' : State} {label : Label} {notes : List Note}
  {inst row : Instance} {vm : ProviderID} {lb : LBKey} {target : Target} {program : Code Unit}

theorem hasProvider_of_behind {name : String}
    (sized : ∀ name group, (name, group) ∈ config.groups tenant → group.sized = true)
    (behind : Behind config tenant name lb) (provider : config.isTunnel lb = false) :
    config.hasProviderLoadBalancer tenant = true := by
  obtain ⟨group, configured, member⟩ := behind
  refine List.any_eq_true.mpr ⟨(name, group), configured, ?_⟩
  rw [Bool.and_eq_true, List.any_eq_true]
  exact ⟨sized name group configured, lb, member, by rw [provider]; rfl⟩

theorem Clears.evolves (clears : Clears s inst) (faithful : Faithful s) (unshared : Unshared s)
    (provided : inst.providerID = some vm)
    (subject : Subject tenant s row vm) : Evolves inst row := by
  obtain ⟨id, job, program, notes, runs, _, cleared⟩ := clears
  obtain ⟨other, there, evolves⟩ :=
    (faithful.truthful runs).read (held_subset cleared.earlier_mem)
  rw [unshared subject.member there subject.provided (evolves.provided provided)]
  exact evolves

section

variable (orderly : Orderly config tenant s) (conducted : Conducted config s)
  (faithful : Faithful s)
include orderly conducted faithful

/-- A target of a subject that stands stood before, or is registered by this
step for the tenant. -/
theorem Orderly.stands_back (change : Change config s label s') (stays : label.stays = true)
    {row' : Instance} {vm : ProviderID} (subject : Subject tenant s' row' vm)
    (stands : standing ⟨lb, vm⟩ s'.log = true) :
    ∃ row, Subject tenant s row vm ∧ row.group = row'.group ∧
      (standing ⟨lb, vm⟩ s.log = true ∨ Source s label (.registered tenant ⟨lb, vm⟩)) := by
  rcases subject_back faithful.distinct change stays subject with
    ⟨row, subject', _, group⟩ | ⟨rfl, new⟩
  · refine ⟨row, subject', group, ?_⟩
    rcases standing_back change stands with before | ⟨owner, source⟩
    · exact .inl before
    obtain ⟨⟨other, there, provided, owned, _⟩, _⟩ :=
      orderly.registers conducted faithful source
    have same := orderly.unshared subject'.member there subject'.provided provided
    obtain rfl : tenant = owner := by rw [← subject'.owner, same, owned]
    exact .inr source
  rcases standing_back change stands with before | ⟨owner, source⟩
  · obtain ⟨owner, registered⟩ := exists_registered_of_standing before
    exact absurd rfl (isNew_log new registered)
  · cases source

/-- A registration for the tenant comes from a row that was cleared, unless its
targets are being restored. -/
theorem Orderly.registers_clears (source : Source s label (.registered tenant target))
    (other : ∀ task, s.tasks (.cutover tenant) = some task → task.kind ≠ .restore tenant) :
    ∃ inst, Clears s inst ∧ inst.tenant = tenant ∧ inst.providerID = some target.vm := by
  rcases (orderly.registers conducted faithful source).2 with cleared | ⟨task, runs, restores⟩
  · exact cleared
  · exact absurd restores (other task runs)

end

theorem Subject.listed (subject : Subject tenant s row vm) (orderly : Orderly config tenant s) :
    vm ∈ s.providerIDs tenant row.group := by
  refine mem_providerIDs.mpr ⟨row, subject.member, ?_, subject.provided⟩
  have listed : ¬ row.unlisted := fun unlisted =>
    subject.present (orderly.excused subject.member subject.provided unlisted)
  simp only [Instance.unlisted, not_or] at listed
  simp [State.active, subject.owner, subject.managed, listed]

/-- What is known of a state that was reached with a static configuration. -/
structure Grounded (config : Config) (tenant : Tenant) (s : State) : Prop where
  conducted : Conducted config s
  faithful : Faithful s
  orderly : Orderly config tenant s
  manager : (TenantState.machine true).Reaches (fun _ move => move ≠ .crash) s.manager

theorem grounded_of_reaches
    (reached : (fleet config).Reaches (fun s label => s.isStatic config tenant label = true) s) :
    Grounded config tenant s :=
  ⟨conducted_of_reaches reached, faithful_of_reaches reached, orderly_of_reaches reached,
    manager_of_reaches State.isStatic_stays reached⟩

theorem Grounded.lawful (grounded : Grounded config tenant s) :
    TenantState.Lawful s.manager tenant :=
  TenantState.lawful_of_reaches grounded.manager tenant

theorem Grounded.blocked (grounded : Grounded config tenant s)
    (closes : s.withdrawn tenant = true ∨ ∃ program notes,
      s.tasks (.cutover tenant) = some ⟨.withdraw tenant, program, notes⟩) :
    (s.manager.cached tenant).blocked = true := by
  rcases closes with open_ | ⟨program, notes, runs⟩
  · exact (TenantState.blocked_of_withdrawn grounded.manager open_).2
  obtain ⟨operation, call, next, running, ⟨rfl, _⟩ | ⟨_, impossible⟩⟩ :=
    calling_eq_some (grounded.conducted.linked runs)
  · exact (TenantState.blocked_of_withdrawing grounded.lawful running).2
  · cases impossible

theorem clears_of_blocked (change : Change config s label s') (stays : label.stays = true)
    (blocked : (s.manager.cached tenant).blocked = true) (clears : Clears s' inst)
    (owner : inst.tenant = tenant) : Clears s inst := by
  rcases clears_back change stays clears with earlier | unblocked
  · exact earlier
  · rw [owner, blocked] at unblocked
    cases unblocked

theorem Grounded.not_restoring (grounded : Grounded config tenant s)
    (open_ : s.withdrawn tenant = true) (task : Task)
    (runs : s.tasks (.cutover tenant) = some task) : task.kind ≠ .restore tenant := by
  intro restores
  obtain ⟨operation, call, next, running, ⟨_, withdraws⟩ | ⟨rfl, _⟩⟩ :=
    calling_eq_some (grounded.conducted.linked runs)
  · cases restores.symm.trans withdraws
  · have closed := TenantState.not_withdrawn_of_restoring grounded.lawful running
    exact absurd (closed.symm.trans open_) (by decide)

/-- **Nothing is registered for the tenant while a withdrawal is open.** -/
theorem Barred.registers_nothing (barred : Barred config tenant s)
    (grounded : Grounded config tenant s)
    (sized : ∀ name group, (name, group) ∈ config.groups tenant → group.sized = true)
    (open_ : s.withdrawn tenant = true) : ¬ Source s label (.registered tenant target) := by
  intro source
  have other := grounded.not_restoring open_
  obtain ⟨conducted, faithful, orderly, _⟩ := grounded
  obtain ⟨⟨row, _, _, _, placed⟩, _⟩ := orderly.registers conducted faithful source
  obtain ⟨behind, provider⟩ := placed rfl
  obtain ⟨inst, clears, owner, provided⟩ :=
    orderly.registers_clears conducted faithful source other
  have missing := barred.cleared open_ clears owner provided
  rw [hasProvider_of_behind sized behind provider] at missing
  cases missing

/-- A running withdrawal keeps what it has achieved, and a note it takes is
justified by the state it is taken in. -/
theorem Withdrawing.carry (withdrawing : Withdrawing tenant s notes)
    (grounded : Grounded config tenant s) (change : Change config s label s')
    (stays : label.stays = true) {notes' : List Note}
    (runs : s.tasks (.cutover tenant) = some ⟨.withdraw tenant, program, notes⟩)
    (withdrawn : ∀ target, .withdrawn target ∈ notes' → .withdrawn target ∈ notes ∨
      (∀ inst, ¬ Clears s inst) ∧ standing target s'.log = false)
    (listed : ∀ name vms, .listed tenant name vms ∈ notes' → .listed tenant name vms ∈ notes ∨
      vms = s.providerIDs tenant name) : Withdrawing tenant s' notes' := by
  have blocked := grounded.blocked (.inr ⟨program, notes, runs⟩)
  obtain ⟨conducted, faithful, orderly, _⟩ := grounded
  have other : ∀ task, s.tasks (.cutover tenant) = some task → task.kind ≠ .restore tenant := by
    rintro task running restores
    cases runs.symm.trans running
    cases restores
  refine ⟨fun {inst vm} clears' owner provided => ?_, fun {row' vm lb} subject' noted => ?_,
    fun {row' vm lb vms} subject' noted missing => ?_⟩
  · have clears := clears_of_blocked change stays blocked clears' owner
    obtain ⟨nothing, seen⟩ := withdrawing.cleared clears owner provided
    refine ⟨fun target noted => ?_, fun vms noted => ?_⟩
    · rcases withdrawn target noted with old | ⟨nobody, _⟩
      · exact nothing target old
      · exact nobody inst clears
    · rcases listed _ vms noted with old | rfl
      · exact (seen vms old).imp_right (Or.imp_right (·.kept change))
      obtain ⟨_, _, _, _, theirs, _, cleared⟩ := clears
      obtain ⟨row, here, evolves⟩ :=
        (faithful.truthful theirs).read (held_subset cleared.earlier_mem)
      cases managed : inst.onDemand with
      | true => exact .inr (.inl rfl)
      | false =>
        by_cases excused : Excused s inst.id vm
        · exact .inr (.inr (excused.kept change))
        have subject : Subject tenant s row vm :=
          ⟨here, evolves.tenant.trans owner, evolves.onDemand.trans managed,
            evolves.provided provided, by rwa [evolves.id]⟩
        rw [← evolves.group]
        exact .inl (subject.listed orderly)
  · by_contra stands
    obtain ⟨row, subject, _, before⟩ := orderly.stands_back conducted faithful change stays
      subject' (by simpa using stands)
    rcases withdrawn _ noted with old | ⟨_, down⟩
    · rcases before with stood | source
      · rw [withdrawing.withdrawn subject old] at stood
        cases stood
      obtain ⟨inst, clears, owner, provided⟩ :=
        orderly.registers_clears conducted faithful source other
      exact (withdrawing.cleared clears owner provided).1 _ old
    · exact stands down
  · by_contra stands
    obtain ⟨row, subject, group, before⟩ := orderly.stands_back conducted faithful change stays
      subject' (by simpa using stands)
    rw [← group] at noted
    rcases listed _ vms noted with old | rfl
    · rcases before with stood | source
      · rw [withdrawing.listed subject old missing] at stood
        cases stood
      obtain ⟨inst, clears, owner, provided⟩ :=
        orderly.registers_clears conducted faithful source other
      have evolves := clears.evolves faithful orderly.unshared provided subject
      rw [evolves.group] at old
      rcases (withdrawing.cleared clears owner provided).2 vms old with member | any | excused
      · exact missing member
      · exact absurd (evolves.onDemand.symm.trans subject.managed) (by simp [any])
      · exact subject.present (by rwa [evolves.id])
    · exact missing (subject.listed orderly)

theorem Withdrawing.nil (tenant : Tenant) (s : State) : Withdrawing tenant s [] :=
  ⟨fun _ _ _ => ⟨fun _ => List.not_mem_nil, fun _ noted => absurd noted List.not_mem_nil⟩,
    fun _ noted => absurd noted List.not_mem_nil, fun _ noted _ => absurd noted List.not_mem_nil⟩

theorem Conducted.clears_nothing (conducted : Conducted config s) {id : TaskID} {task : Task}
    (runs : s.tasks id = some task) (holds : holding task.notes = true)
    (other : ∀ job, task.kind ≠ .reconcile job) (inst : Instance) : ¬ Clears s inst := by
  rintro ⟨id', job, program, notes, theirs, holds', _⟩
  cases conducted.holder_eq runs holds theirs holds'
  cases runs.symm.trans theirs
  exact other job rfl

theorem Barred.step_withdrawing (barred : Barred config tenant s)
    (grounded : Grounded config tenant s) (change : Change config s label s')
    (stays : label.stays = true)
    (runs : s'.tasks (.cutover tenant) = some ⟨.withdraw tenant, program, notes⟩) :
    Withdrawing tenant s' notes := by
  rcases change_tasks change stays runs with
    ⟨same, _⟩ | ⟨_, none⟩ | @⟨_, action, _, before, _, reply, _, began, effect⟩
  · exact (barred.withdrawing same).carry grounded change stays same (fun _ => .inl) fun _ _ => .inl
  · rw [show notes = [] from none]
    exact .nil tenant s'
  refine (barred.withdrawing began).carry grounded change stays began (fun target noted => ?_)
    fun name vms noted => ?_
  · rcases mem_learn.mp noted with taken | old
    · refine .inr ⟨?_, ?_⟩
      · have guarded : action.guarded = true := by
          cases note_of taken
          rfl
        exact grounded.conducted.clears_nothing began
          (pre_guarded guarded (grounded.conducted.pre began)) fun _ => Kind.noConfusion
      · have logged : _ = Happening.deregistered target :: s.log := effect.means taken
        rw [show (State.setTask _ _ _).log = _ from logged]
        simp [standing]
    · exact .inl old
  · rcases mem_learn.mp noted with taken | old
    · exact .inr (effect.means taken)
    · exact .inl old

theorem Grounded.withdrawn_back (grounded : Grounded config tenant s)
    (change : Change config s label s') (stays : label.stays = true)
    (open_ : s'.withdrawn tenant = true) :
    s.withdrawn tenant = true ∨ label = .returned tenant ∧ ∃ program notes,
      s.tasks (.cutover tenant) = some ⟨.withdraw tenant, program, notes⟩ ∧
        Withdrawn config tenant notes := by
  cases change with
  | @manager move manager own moved =>
    rcases TenantState.withdrawn_back moved open_ with already | ⟨rfl, operation, next, running⟩
    · exact .inl already
    · simp [State.ownStep, calling, running] at own
  | @returned owner task result manager runs ends moved =>
    rcases TenantState.withdrawn_back moved open_ with already | ⟨same, operation, next, running⟩
    · exact .inl already
    obtain ⟨rfl, succeeded⟩ : owner = tenant ∧ outcomeOf result = .ok := by
      simpa using same
    have calls := grounded.conducted.linked runs
    rw [calling, running] at calls
    obtain ⟨kind, program, notes⟩ := task
    cases calls
    have sound := grounded.conducted.sound runs
    refine .inr ⟨rfl, program, notes, runs, ?_⟩
    cases result with
    | error error => cases succeeded
    | ok value =>
      cases program with
      | pure value => exact sound.2 owner rfl rfl
      | fail error | perform action next => cases ends
  | perform runs effect =>
    left
    rw [State.withdrawn, ← effect.manager]
    exact open_
  | report =>
    unfold State.reported at open_
    split at open_ <;> exact .inl open_
  | takeover => cases stays
  | _ => exact .inl open_

theorem Barred.step (barred : Barred config tenant s) (grounded : Grounded config tenant s)
    (sized : ∀ name group, (name, group) ∈ config.groups tenant → group.sized = true)
    (change : Change config s label s') (stays : label.stays = true) : Barred config tenant s' := by
  refine ⟨barred.step_withdrawing grounded change stays,
    fun open_ {inst vm} clears' owner provided => ?_,
    fun open_ {row' vm lb} subject' => ?_⟩
  · rcases grounded.withdrawn_back change stays open_ with
      already | ⟨_, program, notes, runs, withdrawn⟩
    · have clears := clears_of_blocked change stays (grounded.blocked (.inl already)) clears' owner
      exact barred.cleared already clears owner provided
    -- Every group is sized, so a load balancer would have had a target withdrawn.
    have clears := clears_of_blocked change stays
      (grounded.blocked (.inr ⟨program, notes, runs⟩)) clears' owner
    have nothing := ((barred.withdrawing runs).cleared clears owner provided).1
    cases provider : config.hasProviderLoadBalancer tenant with
    | false => rfl
    | true =>
      obtain ⟨target, noted⟩ := withdrawn.2 provider
      exact absurd noted (nothing target)
  · by_contra stands
    have orderly := grounded.orderly
    obtain ⟨row, subject, _, before⟩ := orderly.stands_back grounded.conducted grounded.faithful
      change stays subject' (by simpa using stands)
    rcases grounded.withdrawn_back change stays open_ with
      already | ⟨rfl, program, notes, runs, withdrawn⟩
    · rcases before with stood | source
      · rw [barred.stands already subject] at stood
        cases stood
      · exact barred.registers_nothing grounded sized already source
    rcases before with stood | impossible
    · have down : standing ⟨lb, vm⟩ s.log = false := by
        obtain ⟨owner, registered⟩ := exists_registered_of_standing stood
        obtain ⟨other, there, provided, owned, placed⟩ := orderly.rightful registered
        cases orderly.unshared subject.member there subject.provided provided
        obtain ⟨⟨group, configured, behind⟩, provider⟩ := placed (owned.symm.trans subject.owner)
        obtain ⟨vms, listed, noted⟩ :=
          withdrawn.1 row.group group configured (sized _ group configured)
        by_cases member : vm ∈ vms
        · exact (barred.withdrawing runs).withdrawn subject (noted lb behind provider vm member)
        · exact (barred.withdrawing runs).listed subject listed member
      rw [down] at stood
      cases stood
    · cases impossible

theorem barred_of_reaches
    (sized : ∀ name group, (name, group) ∈ config.groups tenant → group.sized = true)
    (reached : (fleet config).Reaches (fun s label => s.isStatic config tenant label = true) s) :
    Barred config tenant s := by
  refine reached.invariant (P := Barred config tenant) ?_ fun before barred static stepped =>
    barred.step (grounded_of_reaches before) sized (step_change stepped)
      (State.isStatic_stays static)
  refine ⟨fun impossible => ?_, fun impossible => ?_, fun impossible => ?_⟩
  all_goals cases impossible

end

/-- **Target registration barrier.** Every group of the tenant has a positive
size, and the groups are those configured. Then from a successful withdrawal to
the next recorded restoration every target of a managed instance of the tenant
that was registered has been deregistered since, unless its virtual machine is
deleted or reported so, and no step registers a target of the tenant. -/
theorem target_registration_barrier {config : Config} {tenant : Tenant} {s : State}
    (sized : ∀ name group, (name, group) ∈ config.groups tenant → group.sized = true)
    (reached : (fleet config).Reaches (fun s label => s.isStatic config tenant label = true) s)
    (open_ : s.withdrawn tenant = true) :
    (∀ row ∈ s.instances, row.tenant = tenant → row.onDemand = false → ∀ vm lb,
      row.providerID = some vm → standing ⟨lb, vm⟩ s.log = true → Excused s row.id vm) ∧
    ∀ label s' target, (fleet config).step s label = some s' →
      s'.log ≠ .registered tenant target :: s.log := by
  have barred := barred_of_reaches sized reached
  refine ⟨fun row member owner managed vm lb provided stands => ?_,
    fun label s' target stepped registered => ?_⟩
  · by_contra present
    rw [barred.stands open_ ⟨member, owner, managed, provided, present⟩] at stands
    cases stands
  · rcases change_log (step_change stepped) with same | ⟨happening, added, source⟩
    · exact absurd (same.symm.trans registered) (by simp)
    · cases added.symm.trans registered
      exact barred.registers_nothing (grounded_of_reaches reached) sized open_ source

/-- A target is registered, and withdrawn for a sleep. -/
def registeredThenWithdrawn : List Label :=
  create "i-1" "vm-1" ++ reconcileHealthy 0 "i-1" ++ sleepToWithdrawal ++
    advance (.cutover "red") 4 ++
    [.perform (.cutover "red") (.state .draining), .returned "red"]

theorem registeredThenWithdrawn_barred :
    ∃ s, (fleet webConfig).runWithin (State.isStatic webConfig "red") (fleet webConfig).start
        registeredThenWithdrawn = some s ∧
      .registered "red" ⟨"web", "vm-1"⟩ ∈ s.log ∧ standing ⟨"web", "vm-1"⟩ s.log = false ∧
      ∀ label s' target, (fleet webConfig).step s label = some s' →
        s'.log ≠ .registered "red" target :: s.log :=
  ⟨_, rfl, by decide, rfl,
    (target_registration_barrier (by simp [webConfig, Group.sized])
      (Machine.reaches_of_runWithin (M := fleet webConfig) registeredThenWithdrawn .start rfl)
      rfl).2⟩

end Nstance.Targets
