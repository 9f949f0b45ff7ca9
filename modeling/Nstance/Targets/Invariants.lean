import Mathlib.Data.List.Nodup
import Nstance.TenantState.Refinement
import Nstance.Targets.Conduct
import Nstance.Targets.System

/-!
# What every run of the fleet keeps

The cases of a step are listed once (`Change`), and what an action does to the parts of the
state once (`perform_log`, `perform_means`). From these follow the invariants of all runs:
tasks keep to their contract and the locks are held by those who noted so (`Conducted`);
rows keep their identity and notes about rows stay true (`Truthful`).
-/

namespace Nstance.Targets

open Interaction
open Program hiding pure bind
open TenantState (Tenant Err)

/-! ## What an action does -/

/-- What an action does, with its reply. -/
inductive Effect (s : State) (task : TaskID) :
    (action : Action) → Outcome → Reply action → State → Prop where
  | locked (free : s.lbMu = none) :
      Effect s task .lock .ok () { s with lbMu := some task }
  | unlocked : Effect s task .unlock .ok () { s with lbMu := none }
  | read {inst : Instance} (found : s.find inst.id = some inst) :
      Effect s task (.getInstance inst.id) .ok (.ok inst) s
  | drained {id : InstanceID} {row : Instance} (found : s.find id = some row) :
      Effect s task (.markDrainStarted id) .ok (.ok ())
        (s.change id fun row => { row with drainStarted := true })
  | deleted {id : InstanceID} {row : Instance} (found : s.find id = some row) :
      Effect s task (.deleteInstance id) .ok (.ok ())
        (s.change id fun row => { row with deleted := true })
  | listed (tenant : Tenant) (group : String) :
      Effect s task (.getProviderIDsByGroup tenant group) .ok (.ok (s.providerIDs tenant group)) s
  | recorded (lb : LBKey) (id : InstanceID) (status : LBStatus) :
      Effect s task (.upsertLBInstance lb id status) .ok (.ok ()) (s.upsert ⟨lb, id, status⟩)
  | pending : Effect s task .getPendingOrFailedLBInstances .ok (.ok s.pendingOrFailed) s
  | attached (id : InstanceID) :
      Effect s task (.getLBInstancesForInstance id) .ok (.ok (s.recordedFor id)) s
  | forgotten (id : InstanceID) :
      Effect s task (.deleteLBInstancesForInstance id) .ok (.ok ())
        { s with lbInstances := s.lbInstances.filter fun row => row.id ≠ id }
  | grouped (tenant : Tenant) (group : String) (lbs : List LBKey) :
      Effect s task (.getGroup tenant group) (.group lbs) (.ok lbs) s
  | blocked (tenant : Tenant) :
      Effect s task (.targetRegistrationBlocked tenant) .ok (s.manager.cached tenant).blocked s
  | asleep (tenant : Tenant) :
      Effect s task (.tenantAsleep tenant) .ok true (s.happen (.foundAsleep tenant))
  | awake (tenant : Tenant) : Effect s task (.tenantAsleep tenant) .ok false s
  | polled (target : Target) (state : TargetState) :
      Effect s task (.getLBTargetState target) (.state state) (.ok state)
        (s.happen (.reported target state))
  | waited (target : Target) (state : TargetState) :
      Effect s task (.waitNotAccepting target) (.state state) (.ok ())
        (s.happen (.reported target state))
  | registered (tenant : Tenant) (target : Target) {outcome : Outcome} (reply : Except Err Unit) :
      Effect s task (.registerWithLB tenant target) outcome reply
        (s.happen (.registered tenant target))
  | deregistered (target : Target) {outcome : Outcome} (reply : Except Err Unit) :
      Effect s task (.deregisterFromLB target) outcome reply (s.happen (.deregistered target))
  | destroyed (id : InstanceID) (vm : ProviderID) {outcome : Outcome} (reply : Except Err Unit) :
      Effect s task (.deleteVM id vm) outcome reply (s.happen (.destroyed vm))
  | missing (id : InstanceID) (vm : ProviderID) {error : Err} :
      Effect s task (.deleteVM id vm) (.fail error) (.error error) (s.happen (.missing vm))
  | failed {action : Action} {error : Err} {reply : Reply action}
      (silent : note action reply = none) (answers : Answers action reply) :
      Effect s task action (.fail error) reply s

variable {outcome : Outcome} {action : Action} {task : TaskID} {reply : Reply action}

theorem perform_effect {s after : State}
    (performed : s.perform task action outcome = some (after, reply)) :
    Effect s task action outcome reply after := by
  cases action with
  | lock =>
    cases outcome with
    | ok =>
      simp only [State.perform] at performed
      split at performed <;> cases performed
      exact .locked (by assumption)
    | _ => cases performed
  | unlock =>
    cases outcome <;> cases performed
    exact .unlocked
  | getInstance id =>
    cases outcome with
    | ok =>
      obtain ⟨row, found, same⟩ := Option.map_eq_some_iff.mp performed
      cases same
      have fits := List.find?_some found
      obtain rfl : row.id = id := by simpa using (of_decide_eq_true fits).1
      exact .read found
    | fail error =>
      cases performed
      exact .failed rfl trivial
    | _ => cases performed
  | markDrainStarted id =>
    cases outcome with
    | ok =>
      simp only [State.perform] at performed
      split at performed <;> cases performed
      obtain ⟨row, found⟩ := Option.isSome_iff_exists.mp (by assumption)
      exact .drained found
    | fail error =>
      cases performed
      exact .failed rfl trivial
    | _ => cases performed
  | deleteInstance id =>
    cases outcome with
    | ok =>
      simp only [State.perform] at performed
      split at performed <;> cases performed
      obtain ⟨row, found⟩ := Option.isSome_iff_exists.mp (by assumption)
      exact .deleted found
    | fail error =>
      cases performed
      exact .failed rfl trivial
    | _ => cases performed
  | tenantAsleep tenant =>
    cases outcome with
    | ok =>
      simp only [State.perform] at performed
      split at performed <;> cases performed
      · exact .asleep tenant
      · exact .awake tenant
    | _ => cases performed
  | waitNotAccepting target =>
    cases outcome with
    | state state =>
      simp only [State.perform] at performed
      split at performed <;> cases performed
      exact .waited target state
    | fail error =>
      cases performed
      exact .failed rfl trivial
    | _ => cases performed
  | deleteVM id vm =>
    cases outcome with
    | ok | lost =>
      cases performed
      exact .destroyed id vm _
    | fail error =>
      cases performed
      by_cases gone : error.is .instanceNotFound = true
      · rw [if_pos gone]
        exact .missing id vm
      · rw [if_neg gone]
        exact .failed (if_neg gone) trivial
    | _ => cases performed
  | getProviderIDsByGroup | upsertLBInstance | getPendingOrFailedLBInstances
  | getLBInstancesForInstance | deleteLBInstancesForInstance =>
    cases outcome <;> cases performed
    · constructor
    · exact .failed rfl trivial
  | getGroup | getLBTargetState =>
    cases outcome <;> cases performed
    · exact .failed rfl trivial
    · constructor
  | targetRegistrationBlocked tenant =>
    cases outcome <;> cases performed
    exact .blocked tenant
  | registerWithLB | deregisterFromLB =>
    cases outcome <;> cases performed
    · constructor
    · exact .failed rfl trivial
    · constructor

/-! ## The cases of a step -/

/-- The result of a program that has ended. -/
def ended : Code Unit → Option (Except Err Unit)
  | .pure _ => some (.ok ())
  | .fail error => some (.error error)
  | .perform _ _ => none

/-- The outcome of the manager's call when its task has ended. -/
def outcomeOf : Except Err Unit → TenantState.Outcome
  | .ok _ => .ok
  | .error error => .fail error

/-- What a step does, with what it found before. -/
inductive Change (config : Config) (s : State) : Label → State → Prop where
  | manager {label : TenantState.Label} {manager : TenantState.State} (own : s.ownStep label = true)
      (moved : s.manager.step true label = some manager) :
      Change config s (.manager label) { s with manager := manager }
  | call {tenant : Tenant} {kind : Kind} (idle : s.tasks (.cutover tenant) = none)
      (calls : calling s.manager tenant = some kind) :
      Change config s (.call tenant) (s.spawn config (.cutover tenant) kind)
  | returned {tenant : Tenant} {task : Task} {result : Except Err Unit}
      {manager : TenantState.State} (runs : s.tasks (.cutover tenant) = some task)
      (ends : ended task.program = some result)
      (moved : s.manager.step true (.perform tenant (outcomeOf result)) = some manager) :
      Change config s (.returned tenant)
        ({ s with manager := manager }.setTask (.cutover tenant) none)
  | reconcile {number : Nat} {id : InstanceID} (idle : s.tasks (.job number) = none) :
      Change config s (.reconcile number id) (s.spawn config (.job number) (.reconcile id))
  | delete {number : Nat} {tenant : Tenant} {id : InstanceID}
      (idle : s.tasks (.job number) = none) :
      Change config s (.delete number tenant id)
        (s.spawn config (.job number) (.delete tenant id))
  | done {number : Nat} {task : Task} {result : Except Err Unit}
      (runs : s.tasks (.job number) = some task) (ends : ended task.program = some result) :
      Change config s (.done number) (s.setTask (.job number) none)
  | perform {id : TaskID} {outcome : Outcome} {kind : Kind} {action : Action}
      {next : Reply action → Code Unit} {notes : List Note} {after : State} {reply : Reply action}
      (runs : s.tasks id = some ⟨kind, .perform action next, notes⟩)
      (effect : Effect s id action outcome reply after) :
      Change config s (.perform id outcome)
        (after.setTask id (some ⟨kind, next reply, learn action reply notes⟩))
  | insert {id : InstanceID} {tenant : Tenant} {group : String} {onDemand : Bool}
      (fresh : ∀ row ∈ s.instances, row.id ≠ id) :
      Change config s (.insert id tenant group onDemand) { s with instances :=
        { id := id, tenant := tenant, group := group, onDemand := onDemand } :: s.instances }
  | created {id : InstanceID} {vm : ProviderID} (new : s.isNew vm = true) {row : Instance}
      (member : row ∈ s.instances) (same : row.id = id) (unprovided : row.providerID = none) :
      Change config s (.created id vm) (s.change id fun row => { row with
        providerID := some vm, providerState := none, deleted := false })
  | report {id : InstanceID} {status : ProviderStatus} {row : Instance}
      (found : s.find id = some row) :
      Change config s (.report id status)
        ((s.change id fun row => { row with providerState := some status }).reported id status)
  | drain {id : InstanceID} {row : Instance} (found : s.find id = some row) :
      Change config s (.drain id) (s.change id fun row => { row with drainStarted := true })
  | takeover {instances : List Instance} {lbInstances : List LBInstance}
      (distinct : (instances.map Instance.id).Nodup) :
      Change config s (.takeover instances lbInstances)
        { manager := s.manager.crash, instances := instances, lbInstances := lbInstances,
          log := s.log }

theorem step_change {config : Config} {s s' : State} {label : Label}
    (stepped : s.step config label = some s') : Change config s label s' := by
  cases label with simp only [State.step] at stepped
  | manager label =>
    split at stepped
    · obtain ⟨manager, moved, rfl⟩ := Option.map_eq_some_iff.mp stepped
      exact .manager (by assumption) moved
    · cases stepped
  | call tenant =>
    split at stepped <;> cases stepped
    exact .call (by assumption) (by assumption)
  | returned tenant =>
    split at stepped
    · rename_i runs
      obtain ⟨manager, moved, rfl⟩ := Option.map_eq_some_iff.mp stepped
      exact .returned runs rfl moved
    · rename_i runs
      obtain ⟨manager, moved, rfl⟩ := Option.map_eq_some_iff.mp stepped
      exact .returned runs rfl moved
    · cases stepped
  | reconcile number id =>
    split at stepped <;> cases stepped
    exact .reconcile (Option.isNone_iff_eq_none.mp (by assumption))
  | delete number tenant id =>
    split at stepped <;> cases stepped
    exact .delete (Option.isNone_iff_eq_none.mp (by assumption))
  | done number =>
    split at stepped <;> cases stepped
    · rename_i runs
      exact .done runs rfl
    · rename_i runs
      exact .done runs rfl
  | perform id outcome =>
    split at stepped
    · rename_i runs
      obtain ⟨⟨after, reply⟩, performed, rfl⟩ := Option.map_eq_some_iff.mp stepped
      exact .perform runs (perform_effect performed)
    · cases stepped
  | insert id tenant group onDemand =>
    split at stepped <;> cases stepped
    rename_i fresh
    exact .insert fun row member => by simpa using List.all_eq_true.mp fresh row member
  | created id vm =>
    split at stepped <;> cases stepped
    rename_i new
    obtain ⟨row, member, fits⟩ := List.any_eq_true.mp new.2
    simp only [Bool.and_eq_true, decide_eq_true_eq] at fits
    exact .created new.1 member fits.1 fits.2
  | report id status =>
    split at stepped
    · rename_i found
      obtain ⟨row, here, _⟩ := (Option.any_eq_true ..).mp found
      cases stepped
      exact .report here
    · cases stepped
  | drain id =>
    split at stepped
    · rename_i found
      obtain ⟨row, here⟩ := Option.isSome_iff_exists.mp found
      cases stepped
      exact .drain here
    · cases stepped
  | takeover instances lbInstances =>
    split at stepped <;> cases stepped
    exact .takeover (by assumption)

/-! ## Tasks -/

/-- Calls of the reconciler, the collector and the API, as opposed to cutover
calls. -/
def Kind.isJob : Kind → Bool
  | .reconcile _ => true
  | .delete _ _ => true
  | _ => false

/-- Tasks keep to their contracts, hold `lbMu` when they noted so, and run for
the operation that calls them. -/
structure Conducted (config : Config) (s : State) : Prop where
  sound : ∀ {id : TaskID} {task : Task}, s.tasks id = some task →
    wp (contract config task.kind) (Post config task.kind) task.program task.notes
  holds : ∀ {id : TaskID} {task : Task}, s.tasks id = some task →
    (holding task.notes = true ↔ s.lbMu = some id)
  owned : ∀ {id : TaskID}, s.lbMu = some id → s.tasks id ≠ none
  linked : ∀ {tenant : Tenant} {task : Task}, s.tasks (.cutover tenant) = some task →
    calling s.manager tenant = some task.kind
  jobs : ∀ {number : Nat} {task : Task}, s.tasks (.job number) = some task →
    task.kind.isJob = true

section

variable {config : Config} {s s' : State} {label : Label} {id : TaskID} {kind : Kind}
  {new : Option Task} {tenant : Tenant}

theorem setTask_self : (s.setTask id new).tasks id = new :=
  Function.update_self ..

theorem setTask_eq_some {other : TaskID} {task : Task}
    (runs : (s.setTask id new).tasks other = some task) :
    other = id ∧ new = some task ∨ other ≠ id ∧ s.tasks other = some task := by
  by_cases same : other = id
  · subst same
    exact .inl ⟨rfl, setTask_self.symm.trans runs⟩
  · exact .inr ⟨same, (Function.update_of_ne same ..).symm.trans runs⟩

theorem calling_eq_some {manager : TenantState.State} (calls : calling manager tenant = some kind) :
    ∃ operation call next, manager.running tenant = some (operation, .perform (.call call) next) ∧
      (call = .beginTargetWithdrawal ∧ kind = .withdraw tenant ∨
        call = .restoreTargets ∧ kind = .restore tenant) := by
  unfold calling at calls
  split at calls <;> cases calls
  · rename_i operation next runs
    exact ⟨operation, _, next, runs, .inl ⟨rfl, rfl⟩⟩
  · rename_i operation next runs
    exact ⟨operation, _, next, runs, .inr ⟨rfl, rfl⟩⟩

theorem calling_kept {manager manager' : TenantState.State} {move : TenantState.Label}
    (moved : manager.step true move = some manager') (alive : move ≠ .crash)
    (waits : ∀ outcome, move ≠ .perform tenant outcome) (calls : calling manager tenant = some kind)
    : calling manager' tenant = some kind := by
  obtain ⟨operation, call, next, runs, _⟩ := calling_eq_some calls
  have kept : manager'.running tenant = manager.running tenant := by
    cases TenantState.step_touches moved tenant with
    | same same => exact same.running
    | acquire operation asks free after => exact absurd (free.symm.trans runs) (by simp)
    | perform runs performed result => exact absurd rfl (waits _)
    | release ends busy stored rows history running =>
      rcases ends with rfl | rfl
      · exact absurd rfl alive
      · simp [TenantState.State.step, runs] at moved
    | remove id stored cached rows history running => exact running
  rw [calling, kept]
  exact calls

theorem Conducted.spawn (conducted : Conducted config s) (idle : s.tasks id = none)
    (linked : ∀ tenant, id = .cutover tenant → calling s.manager tenant = some kind)
    (job : ∀ number, id = .job number → kind.isJob = true) :
    Conducted config (s.spawn config id kind) where
  sound runs := by
    rcases setTask_eq_some runs with ⟨rfl, same⟩ | ⟨_, runs⟩
    · cases same
      exact program_conducts config kind
    · exact conducted.sound runs
  holds runs := by
    rcases setTask_eq_some runs with ⟨rfl, same⟩ | ⟨_, runs⟩
    · cases same
      refine ⟨Bool.noConfusion, fun mine => ?_⟩
      exact absurd idle (conducted.owned mine)
    · exact conducted.holds runs
  owned {other} mine := by
    have busy := conducted.owned mine
    by_cases same : other = id
    · subst same
      exact absurd idle busy
    · exact fun none => busy ((Function.update_of_ne same ..).symm.trans none)
  linked runs := by
    rcases setTask_eq_some runs with ⟨rfl, same⟩ | ⟨_, runs⟩
    · cases same
      exact linked _ rfl
    · exact conducted.linked runs
  jobs runs := by
    rcases setTask_eq_some runs with ⟨rfl, same⟩ | ⟨_, runs⟩
    · cases same
      exact job _ rfl
    · exact conducted.jobs runs

theorem Conducted.released (conducted : Conducted config s) {task : Task} {result : Except Err Unit}
    (runs : s.tasks id = some task) (ends : ended task.program = some result) :
    Post config task.kind result task.notes ∧ s.lbMu ≠ some id := by
  have post : Post config task.kind result task.notes := by
    have sound := conducted.sound runs
    obtain ⟨kind, program, notes⟩ := task
    cases program with
    | pure | fail =>
      cases ends
      exact sound
    | perform action next => cases ends
  refine ⟨post, fun mine => ?_⟩
  have holds := (conducted.holds runs).mpr mine
  rw [post.1] at holds
  cases holds

end

section

variable {s after : State} {task : TaskID} {action : Action} {outcome : Outcome}
  {reply : Reply action}

section

variable (effect : Effect s task action outcome reply after)
include effect

theorem Effect.manager : after.manager = s.manager := by
  cases effect <;> rfl

theorem Effect.tasks : after.tasks = s.tasks := by
  cases effect <;> rfl

theorem Effect.lbMu (plain : action.plain = true) : after.lbMu = s.lbMu := by
  cases effect with
  | locked | unlocked => cases plain
  | _ => rfl

theorem Effect.answers : Answers action reply := by
  cases effect with
  | read found => rfl
  | failed silent answers => exact answers
  | _ => trivial

end

end

section

variable {config : Config} {s s' : State} {label : Label}

section

variable (conducted : Conducted config s)
include conducted

theorem Conducted.perform_holds {id : TaskID} {kind : Kind}
    {next : Reply action → Code Unit} {notes : List Note} {after : State}
    (runs : s.tasks id = some ⟨kind, .perform action next, notes⟩)
    (effect : Effect s id action outcome reply after) :
    (holding (learn action reply notes) = true ↔ after.lbMu = some id) ∧
      ∀ {other : TaskID} {task : Task}, other ≠ id → s.tasks other = some task →
        (holding task.notes = true ↔ after.lbMu = some other) := by
  obtain ⟨allowed, _⟩ := conducted.sound runs
  by_cases plain : action.plain = true
  · rw [effect.lbMu plain, (learn_grown action plain reply notes).holding]
    exact ⟨conducted.holds runs, fun _ => conducted.holds⟩
  cases effect with
  | locked free =>
    refine ⟨⟨fun _ => rfl, fun _ => rfl⟩, fun {other task} different theirs => ?_⟩
    rw [conducted.holds theirs, free]
    exact ⟨nofun, fun same => absurd (Option.some.inj same).symm different⟩
  | unlocked =>
    have mine : s.lbMu = some id := (conducted.holds runs).mp allowed
    refine ⟨⟨Bool.noConfusion, nofun⟩, ?_⟩
    intro other task different theirs
    rw [conducted.holds theirs, mine]
    exact ⟨fun same => absurd (Option.some.inj same).symm different, nofun⟩
  | failed silent answers =>
    cases action <;> first | exact absurd rfl plain | cases silent
  | _ => exact absurd rfl plain

theorem Conducted.congr (tasks : s'.tasks = s.tasks) (lbMu : s'.lbMu = s.lbMu)
    (manager : s'.manager = s.manager) : Conducted config s' where
  sound runs := conducted.sound (tasks ▸ runs)
  holds runs := lbMu ▸ conducted.holds (tasks ▸ runs)
  owned mine := tasks ▸ conducted.owned (lbMu ▸ mine)
  linked runs := manager ▸ conducted.linked (tasks ▸ runs)
  jobs runs := conducted.jobs (tasks ▸ runs)

theorem Conducted.drop {id : TaskID} {manager : TenantState.State} (free : s.lbMu ≠ some id)
    (linked : ∀ {tenant : Tenant} {kind : Kind}, TaskID.cutover tenant ≠ id →
      calling s.manager tenant = some kind → calling manager tenant = some kind) :
    Conducted config ({ s with manager := manager }.setTask id none) where
  sound runs := by
    rcases setTask_eq_some runs with ⟨_, impossible⟩ | ⟨_, runs⟩
    · cases impossible
    · exact conducted.sound runs
  holds runs := by
    rcases setTask_eq_some runs with ⟨_, impossible⟩ | ⟨_, runs⟩
    · cases impossible
    · exact conducted.holds runs
  owned {other} mine none := by
    have different : other ≠ id := fun same => free (same ▸ mine)
    exact conducted.owned mine ((Function.update_of_ne different ..).symm.trans none)
  linked runs := by
    rcases setTask_eq_some runs with ⟨_, impossible⟩ | ⟨different, runs⟩
    · cases impossible
    · exact linked different (conducted.linked runs)
  jobs runs := by
    rcases setTask_eq_some runs with ⟨_, impossible⟩ | ⟨_, runs⟩
    · cases impossible
    · exact conducted.jobs runs

theorem Conducted.perform {id : TaskID} {kind : Kind}
    {next : Reply action → Code Unit} {notes : List Note} {after : State}
    (runs : s.tasks id = some ⟨kind, .perform action next, notes⟩)
    (effect : Effect s id action outcome reply after) :
    Conducted config (after.setTask id (some ⟨kind, next reply, learn action reply notes⟩)) := by
  obtain ⟨mine, others⟩ := conducted.perform_holds runs effect
  refine ⟨fun {other task} theirs => ?_, fun {other task} theirs => ?_, fun {other} held none => ?_,
    fun {tenant task} theirs => ?_, fun {number task} theirs => ?_⟩
  · rcases setTask_eq_some theirs with ⟨rfl, same⟩ | ⟨_, theirs⟩
    · cases same
      exact (conducted.sound runs).2 reply effect.answers
    · exact conducted.sound (effect.tasks ▸ theirs)
  · rcases setTask_eq_some theirs with ⟨rfl, same⟩ | ⟨different, theirs⟩
    · cases same
      exact mine
    · exact others different (effect.tasks ▸ theirs)
  · by_cases same : other = id
    · subst same
      exact absurd (setTask_self.symm.trans none) (by simp)
    have gone : s.tasks other = Option.none :=
      effect.tasks ▸ (Function.update_of_ne same ..).symm.trans none
    by_cases plain : action.plain = true
    · exact conducted.owned ((effect.lbMu plain).symm.trans held) gone
    cases effect with
    | locked => exact same (Option.some.inj held).symm
    | unlocked => cases held
    | failed => exact conducted.owned held gone
    | _ => exact plain rfl
  · show calling after.manager tenant = some task.kind
    rw [effect.manager]
    rcases setTask_eq_some theirs with ⟨rfl, same⟩ | ⟨_, theirs⟩
    · cases same
      have linked := conducted.linked runs
      exact linked
    · exact conducted.linked (effect.tasks ▸ theirs)
  · rcases setTask_eq_some theirs with ⟨rfl, same⟩ | ⟨_, theirs⟩
    · cases same
      have job := conducted.jobs runs
      exact job
    · exact conducted.jobs (effect.tasks ▸ theirs)

/-- **A step keeps the tasks to their conduct.** -/
theorem Conducted.step (change : Change config s label s') : Conducted config s' := by
  cases change with
  | @manager move manager own moved =>
    refine ⟨conducted.sound, conducted.holds, conducted.owned, fun {tenant task} runs => ?_,
      conducted.jobs⟩
    have calls := conducted.linked runs
    refine calling_kept moved ?_ (fun outcome same => ?_) calls
    · rintro rfl
      cases own
    · subst same
      rw [State.ownStep, calls] at own
      cases own
  | call idle calls =>
    refine conducted.spawn idle (fun tenant same => ?_) nofun
    cases same
    exact calls
  | reconcile idle | delete idle =>
    exact conducted.spawn idle nofun fun _ _ => rfl
  | returned runs ends moved =>
    refine conducted.drop (conducted.released runs ends).2 fun different calls => ?_
    refine calling_kept moved nofun (fun outcome same => ?_) calls
    cases same
    exact different rfl
  | done runs ends =>
    exact conducted.drop (conducted.released runs ends).2 fun _ calls => calls
  | perform runs effect => exact conducted.perform runs effect
  | report =>
    refine conducted.congr ?_ ?_ ?_ <;> (unfold State.reported; split <;> rfl)
  | insert | created | drain => exact conducted.congr rfl rfl rfl
  | takeover =>
    exact ⟨nofun, nofun, nofun, nofun, nofun⟩

end

theorem conducted_of_reaches {allowed : State → Label → Prop}
    (reached : (fleet config).Reaches allowed s) : Conducted config s := by
  refine reached.invariant (P := Conducted config) ?_
    fun _ conducted _ stepped => conducted.step (step_change stepped)
  exact ⟨nofun, nofun, nofun, nofun, nofun⟩

end

/-! ## Rows -/

/-- A row at two moments: what identifies it stays, and what was set stays. -/
structure Evolves (row row' : Instance) : Prop where
  id : row'.id = row.id
  tenant : row'.tenant = row.tenant
  group : row'.group = row.group
  onDemand : row'.onDemand = row.onDemand
  provided : ∀ {vm : ProviderID}, row.providerID = some vm → row'.providerID = some vm
  drained : row.drainStarted = true → row'.drainStarted = true

/-- Rows stay and evolve. -/
def Grows (s s' : State) : Prop :=
  ∀ row ∈ s.instances, ∃ row' ∈ s'.instances, Evolves row row'

/-- Rows have different IDs. -/
def Distinct (s : State) : Prop :=
  (s.instances.map Instance.id).Nodup

/-- No two rows share a virtual machine. -/
def Unshared (s : State) : Prop :=
  ∀ {row other : Instance} {vm : ProviderID}, row ∈ s.instances → other ∈ s.instances →
    row.providerID = some vm → other.providerID = some vm → row = other

/-- The leader stays. -/
def Label.stays : Label → Bool
  | .takeover _ _ => false
  | _ => true

section

variable {config : Config} {s s' : State} {label : Label} {row row' row'' : Instance}

theorem Evolves.refl (row : Instance) : Evolves row row :=
  ⟨rfl, rfl, rfl, rfl, fun provided => provided, fun drained => drained⟩

theorem Evolves.trans (first : Evolves row row') (second : Evolves row' row'') :
    Evolves row row'' where
  id := second.id.trans first.id
  tenant := second.tenant.trans first.tenant
  group := second.group.trans first.group
  onDemand := second.onDemand.trans first.onDemand
  provided provided := second.provided (first.provided provided)
  drained drained := second.drained (first.drained drained)

theorem Distinct.eq_of_id (distinct : Distinct s) (member : row ∈ s.instances)
    (member' : row' ∈ s.instances) (same : row.id = row'.id) : row = row' :=
  List.inj_on_of_nodup_map distinct member member' same

theorem find_mem {id : InstanceID} (found : s.find id = some row) :
    row ∈ s.instances ∧ row.id = id ∧ row.deleted = false := by
  have fits := List.find?_some found
  simp only [decide_eq_true_eq] at fits
  exact ⟨List.mem_of_find?_eq_some found, fits.1, fits.2⟩

theorem mem_change {id : InstanceID} {f : Instance → Instance} : row' ∈ (s.change id f).instances ↔
      ∃ row ∈ s.instances, (if row.id = id then f row else row) = row' := by
  exact List.mem_map

theorem instances_reported (id : InstanceID) (status : ProviderStatus) :
    (s.reported id status).instances = s.instances := by
  cases status <;> rfl

/-- A step that changes one row. -/
structure Edits (s : State) (label : Label) (id : InstanceID) (f : Instance → Instance) : Prop where
  evolves : ∀ row ∈ s.instances, row.id = id → Evolves row (f row)
  provides : ∀ row ∈ s.instances, row.id = id → ∀ vm, (f row).providerID = some vm →
    row.providerID = some vm ∨ label = .created id vm ∧ s.isNew vm = true

/-- What a step does to the rows: nothing, an edit, or a new row without a
virtual machine. -/
inductive RowStep (s : State) (label : Label) : List Instance → Prop where
  | same : RowStep s label s.instances
  | edit {id : InstanceID} {f : Instance → Instance} (edits : Edits s label id f) :
      RowStep s label (s.change id f).instances
  | insert {row : Instance} (fresh : ∀ other ∈ s.instances, other.id ≠ row.id)
      (unprovided : row.providerID = none) (live : row.deleted = false)
      (unreported : row.providerState = none) : RowStep s label (row :: s.instances)

theorem edits_drain (s : State) (label : Label) (id : InstanceID) :
    Edits s label id fun row => { row with drainStarted := true } where
  evolves _ _ _ := ⟨rfl, rfl, rfl, rfl, fun provided => provided, fun _ => rfl⟩
  provides _ _ _ _ provided := .inl provided

theorem effect_rows {after : State} (effect : Effect s task action outcome reply after) :
    RowStep s label after.instances := by
  cases effect with
  | drained found => exact .edit (edits_drain s label _)
  | deleted found =>
    exact .edit ⟨fun _ _ _ => ⟨rfl, rfl, rfl, rfl, id, id⟩, fun _ _ _ _ provided => .inl provided⟩
  | _ => exact .same

theorem change_rows (distinct : Distinct s) (change : Change config s label s')
    (stays : label.stays = true) : RowStep s label s'.instances := by
  cases change with
  | @perform _ _ _ _ _ _ after _ runs effect =>
    show RowStep s _ after.instances
    exact effect_rows effect
  | insert fresh => exact .insert fresh rfl rfl rfl
  | created new member same unprovided =>
    subst same
    refine .edit ⟨fun row here same => ?_, fun row here same vm provided => ?_⟩
    · cases distinct.eq_of_id here member same
      exact ⟨rfl, rfl, rfl, rfl, fun provided => absurd (unprovided.symm.trans provided) (by simp),
        fun kept => kept⟩
    · cases provided
      exact .inr ⟨rfl, new⟩
  | @report id status row found =>
    rw [instances_reported]
    exact .edit ⟨fun _ _ _ => ⟨rfl, rfl, rfl, rfl, fun provided => provided, fun kept => kept⟩,
      fun _ _ _ _ provided => .inl provided⟩
  | drain found => exact .edit (edits_drain s _ _)
  | takeover => cases stays
  | _ => exact .same

theorem RowStep.grows (rows : RowStep s label s'.instances) : Grows s s' := by
  intro row member
  generalize s'.instances = after at rows
  cases rows with
  | same => exact ⟨row, member, .refl row⟩
  | insert => exact ⟨row, List.mem_cons_of_mem _ member, .refl row⟩
  | @edit id f edits =>
    refine ⟨_, mem_change.mpr ⟨row, member, rfl⟩, ?_⟩
    split
    · exact edits.evolves row member (by assumption)
    · exact .refl row

theorem RowStep.distinct (distinct : Distinct s) (rows : RowStep s label s'.instances) :
    Distinct s' := by
  unfold Distinct at distinct ⊢
  generalize s'.instances = after at rows
  cases rows with
  | same => exact distinct
  | insert fresh =>
    rw [List.map_cons, List.nodup_cons]
    refine ⟨fun member => ?_, distinct⟩
    obtain ⟨other, here, same⟩ := List.mem_map.mp member
    exact fresh other here same
  | @edit id f edits =>
    have ids : (s.change id f).instances.map Instance.id = s.instances.map Instance.id := by
      rw [State.change, List.map_map]
      refine List.map_congr_left fun row member => ?_
      show (if row.id = id then f row else row).id = row.id
      split
      · exact (edits.evolves row member (by assumption)).id
      · rfl
    rw [ids]
    exact distinct

variable {vm : ProviderID}

theorem RowStep.origin (rows : RowStep s label s'.instances) (member : row' ∈ s'.instances)
    (provided : row'.providerID = some vm) :
    (∃ row ∈ s.instances, Evolves row row' ∧ row.providerID = some vm) ∨
      label = .created row'.id vm ∧ s.isNew vm = true := by
  generalize s'.instances = after at rows member
  cases rows with
  | same => exact .inl ⟨row', member, .refl row', provided⟩
  | insert fresh unprovided =>
    rcases List.mem_cons.mp member with rfl | old
    · exact absurd (unprovided.symm.trans provided) (by simp)
    · exact .inl ⟨row', old, .refl row', provided⟩
  | @edit id f edits =>
    obtain ⟨row, here, rfl⟩ := mem_change.mp member
    split at provided
    · rename_i same
      have evolves := edits.evolves row here same
      rw [if_pos same]
      rcases edits.provides row here same vm provided with old | ⟨created, new⟩
      · exact .inl ⟨row, here, evolves, old⟩
      · exact .inr ⟨by rw [created, evolves.id, same], new⟩
    rename_i different
    rw [if_neg different]
    exact .inl ⟨row, here, .refl row, provided⟩

theorem isNew_row (new : s.isNew vm = true) (member : row ∈ s.instances) :
    row.providerID ≠ some vm := by
  have all := List.all_eq_true.mp (Bool.and_eq_true_iff.mp new).1 row member
  simpa using all

theorem isNew_log (new : s.isNew vm = true) {happening : Happening} (member : happening ∈ s.log) :
    happening.vm ≠ some vm := by
  have all := List.all_eq_true.mp (Bool.and_eq_true_iff.mp new).2 happening member
  simpa using all

theorem RowStep.unshared (distinct : Distinct s) (unshared : Unshared s)
    (rows : RowStep s label s'.instances) : Unshared s' := by
  intro row other vm member member' provided provided'
  refine (rows.distinct distinct).eq_of_id member member' ?_
  rcases rows.origin member provided with ⟨old, here, evolves, had⟩ | ⟨created, new⟩
  · rcases rows.origin member' provided' with ⟨old', here', evolves', had'⟩ | ⟨created', new'⟩
    · rw [evolves.id, evolves'.id, unshared here here' had had']
    · exact absurd had (isNew_row new' here)
  rcases rows.origin member' provided' with ⟨old', here', evolves', had'⟩ | ⟨created', new'⟩
  · exact absurd had' (isNew_row new here')
  · rw [created, Label.created.injEq] at created'
    exact created'.1

end

/-! ## Notes -/

/-- What a note says about the states around the action it was taken of. -/
def Means (s after : State) (outcome : Outcome) : Note → Prop
  | .locked => True
  | .unlocked => True
  | .read inst => s.find inst.id = some inst
  | .drainStarted id => ∃ row ∈ after.instances, row.id = id ∧ row.drainStarted = true
  | .listed tenant group vms => vms = s.providerIDs tenant group
  | .recorded lb id => after.records lb id = true
  | .pending rows => rows = s.pendingOrFailed
  | .attached id lbs => lbs = s.recordedFor id
  | .grouped _ _ lbs => outcome = .group lbs
  | .unblocked tenant => (s.manager.cached tenant).blocked = false
  | .asleep tenant => after.log = .foundAsleep tenant :: s.log
  | .reported target state => after.log = .reported target state :: s.log
  | .withdrawn target => after.log = .deregistered target :: s.log
  | .gone vm => after.log = .destroyed vm :: s.log ∨ after.log = .missing vm :: s.log

theorem Effect.means {s after : State} (effect : Effect s task action outcome reply after)
    {noted : Note} (taken : note action reply = some noted) : Means s after outcome noted := by
  cases effect with
  | locked | unlocked =>
    cases taken
    trivial
  | read found =>
    cases taken
    exact found
  | @drained id row found =>
    cases taken
    obtain ⟨member, same, _⟩ := find_mem found
    exact ⟨_, mem_change.mpr ⟨row, member, rfl⟩, by rw [if_pos same]; exact same,
      by rw [if_pos same]⟩
  | recorded lb id status =>
    cases taken
    simp [Means, State.records, State.upsert]
  | blocked tenant =>
    cases blocked : (s.manager.cached tenant).blocked with
    | false =>
      rw [blocked] at taken
      cases taken
      exact blocked
    | true =>
      rw [blocked] at taken
      cases taken
  | deregistered target reply =>
    cases reply <;> cases taken
    rfl
  | destroyed id vm reply =>
    cases reply with
    | ok =>
      cases taken
      exact .inl rfl
    | error error =>
      simp only [note] at taken
      split at taken <;> cases taken
      exact .inl rfl
  | missing id vm =>
    simp only [note] at taken
    split at taken <;> cases taken
    exact .inr rfl
  | failed silent => exact absurd (silent.symm.trans taken) (by simp)
  | deleted | forgotten | awake | waited | registered => cases taken
  | listed | pending | attached | grouped | asleep | polled =>
    cases taken
    rfl

/-- What a task has noted is still so. -/
structure Truthful (s : State) (notes : List Note) : Prop where
  read : ∀ {inst : Instance}, .read inst ∈ notes → ∃ row ∈ s.instances, Evolves inst row
  drained : ∀ {id : InstanceID}, .drainStarted id ∈ notes →
    ∃ row ∈ s.instances, row.id = id ∧ row.drainStarted = true
  listed : ∀ {tenant : Tenant} {group : String} {vms : List ProviderID},
    .listed tenant group vms ∈ notes → ∀ vm ∈ vms, ∃ row ∈ s.instances, row.tenant = tenant ∧
      row.group = group ∧ row.providerID = some vm

section

variable {config : Config} {s s' after : State} {label : Label} {notes : List Note}

theorem mem_learn {noted : Note} :
    noted ∈ learn action reply notes ↔ note action reply = some noted ∨ noted ∈ notes := by
  rw [learn, List.mem_append, Option.mem_toList]

theorem mem_providerIDs {tenant : Tenant} {group : String} {vm : ProviderID} :
    vm ∈ s.providerIDs tenant group ↔ ∃ row ∈ s.instances,
      State.active tenant group row = true ∧ row.providerID = some vm := by
  simp [State.providerIDs, List.mem_filterMap, List.mem_filter, and_assoc]

theorem Truthful.grows (truthful : Truthful s notes) (grows : Grows s s') : Truthful s' notes where
  read noted := by
    obtain ⟨row, member, evolves⟩ := truthful.read noted
    obtain ⟨row', member', evolves'⟩ := grows row member
    exact ⟨row', member', evolves.trans evolves'⟩
  drained noted := by
    obtain ⟨row, member, same, drained⟩ := truthful.drained noted
    obtain ⟨row', member', evolves⟩ := grows row member
    exact ⟨row', member', evolves.id.trans same, evolves.drained drained⟩
  listed noted vm listed := by
    obtain ⟨row, member, owner, group, provided⟩ := truthful.listed noted vm listed
    obtain ⟨row', member', evolves⟩ := grows row member
    exact ⟨row', member', evolves.tenant.trans owner, evolves.group.trans group,
      evolves.provided provided⟩

theorem Truthful.learn (truthful : Truthful s notes) (grows : Grows s after)
    (effect : Effect s task action outcome reply after) :
    Truthful after (Targets.learn action reply notes) := by
  have before := truthful.grows grows
  refine ⟨fun noted => ?_, fun noted => ?_, fun noted => ?_⟩
  · rcases mem_learn.mp noted with taken | earlier
    · exact grows _ (find_mem (effect.means taken)).1
    · exact before.read earlier
  · rcases mem_learn.mp noted with taken | earlier
    · exact effect.means taken
    · exact before.drained earlier
  · rcases mem_learn.mp noted with taken | earlier
    · intro vm listed
      have means : _ = s.providerIDs _ _ := effect.means taken
      rw [means] at listed
      obtain ⟨row, member, active, provided⟩ := mem_providerIDs.mp listed
      obtain ⟨row', member', evolves⟩ := grows row member
      simp only [State.active, Bool.and_eq_true, decide_eq_true_eq] at active
      exact ⟨row', member', evolves.tenant.trans active.1.1.1.1.1,
        evolves.group.trans active.1.1.1.1.2, evolves.provided provided⟩
    · exact before.listed earlier

/-- Rows have different IDs, the notes about them are true, and a task lists
targets only for the tenant it runs for. -/
structure Faithful (s : State) : Prop where
  distinct : Distinct s
  truthful : ∀ {id : TaskID} {task : Task}, s.tasks id = some task → Truthful s task.notes
  lists : ∀ {id : TaskID} {task : Task} {tenant : Tenant} {group : String} {vms : List ProviderID},
    s.tasks id = some task → .listed tenant group vms ∈ task.notes →
      task.kind = .withdraw tenant ∨ task.kind = .restore tenant

theorem Truthful.nil (s : State) : Truthful s [] :=
  ⟨fun noted => absurd noted List.not_mem_nil, fun noted => absurd noted List.not_mem_nil,
    fun noted => absurd noted List.not_mem_nil⟩

/-- Where a task after a step comes from: it did not move, it is new, or it has
taken an action. -/
inductive TaskStep (s : State) (id : TaskID) : Label → Task → State → Prop where
  | same {label : Label} {task : Task} {s' : State} (runs : s.tasks id = some task)
      (idle : ∀ outcome, label ≠ .perform id outcome) : TaskStep s id label task s'
  | fresh {label : Label} {task : Task} {s' : State} (idle : s.tasks id = none)
      (blank : task.notes = []) : TaskStep s id label task s'
  | acted {kind : Kind} {action : Action} {next : Reply action → Code Unit} {notes : List Note}
      {outcome : Outcome} {reply : Reply action} {after : State}
      (began : s.tasks id = some ⟨kind, .perform action next, notes⟩)
      (effect : Effect s id action outcome reply after) :
      TaskStep s id (.perform id outcome) ⟨kind, next reply, Targets.learn action reply notes⟩
        (after.setTask id (some ⟨kind, next reply, Targets.learn action reply notes⟩))

theorem change_tasks (change : Change config s label s') (stays : label.stays = true) {id : TaskID}
    {task : Task} (runs : s'.tasks id = some task) : TaskStep s id label task s' := by
  cases change with
  | call idle | reconcile idle | delete idle =>
    rcases setTask_eq_some runs with ⟨rfl, same⟩ | ⟨_, runs⟩
    · cases same
      exact .fresh idle rfl
    · exact .same runs fun _ => Label.noConfusion
  | returned | done =>
    rcases setTask_eq_some runs with ⟨_, impossible⟩ | ⟨_, runs⟩
    · cases impossible
    · exact .same runs fun _ => Label.noConfusion
  | perform began effect =>
    rcases setTask_eq_some runs with ⟨rfl, same⟩ | ⟨different, runs⟩
    · cases same
      exact .acted began effect
    refine .same (effect.tasks ▸ runs) fun _ same => different ?_
    cases same
    rfl
  | report =>
    unfold State.reported at runs
    split at runs <;> exact .same runs fun _ => Label.noConfusion
  | takeover => cases stays
  | _ => exact .same runs fun _ => Label.noConfusion

theorem Faithful.step (conducted : Conducted config s) (faithful : Faithful s)
    (change : Change config s label s') : Faithful s' := by
  by_cases stays : label.stays = true
  · have rows := change_rows faithful.distinct change stays
    refine ⟨rows.distinct faithful.distinct, fun {id task} runs => ?_,
      fun {id task tenant group vms} runs noted => ?_⟩
    all_goals rcases change_tasks change stays runs with
      ⟨same, _⟩ | ⟨_, none⟩ | @⟨kind, action, next, notes, outcome, reply, after, began, effect⟩
    · exact (faithful.truthful same).grows rows.grows
    · rw [none]
      exact .nil s'
    · have grows : Grows s after := rows.grows
      exact ((faithful.truthful began).learn grows effect).grows
        fun row member => ⟨row, member, .refl row⟩
    · exact faithful.lists same noted
    · rw [none] at noted
      exact absurd noted List.not_mem_nil
    · rcases mem_learn.mp noted with taken | earlier
      · obtain rfl : action = .getProviderIDsByGroup tenant group := note_of taken
        have allowed := (conducted.sound began).1
        cases kind with
        | withdraw owner =>
          cases allowed
          exact .inl rfl
        | restore owner =>
          cases allowed
          exact .inr rfl
        | reconcile | delete => exact allowed.elim
      · have listed := faithful.lists began earlier
        exact listed
  · cases change with
    | takeover distinct =>
      exact ⟨distinct, nofun, fun impossible _ => (nomatch impossible)⟩
    | _ => exact absurd rfl stays

theorem faithful_of_reaches {allowed : State → Label → Prop}
    (reached : (fleet config).Reaches allowed s) : Faithful s := by
  refine reached.invariant (P := Faithful) ?_ fun before faithful _ stepped =>
    faithful.step (conducted_of_reaches before) (step_change stepped)
  have empty : Distinct (fleet config).start := List.nodup_nil
  exact ⟨empty, nofun, fun impossible _ => (nomatch impossible)⟩

end

/-! ## The log -/

/-- The actions that are written down. -/
inductive Logs : Action → Happening → Prop where
  | registered (tenant : Tenant) (target : Target) :
      Logs (.registerWithLB tenant target) (.registered tenant target)
  | deregistered (target : Target) : Logs (.deregisterFromLB target) (.deregistered target)
  | polled (target : Target) (state : TargetState) :
      Logs (.getLBTargetState target) (.reported target state)
  | waited (target : Target) (state : TargetState) :
      Logs (.waitNotAccepting target) (.reported target state)
  | foundAsleep (tenant : Tenant) : Logs (.tenantAsleep tenant) (.foundAsleep tenant)
  | destroyed (id : InstanceID) (vm : ProviderID) : Logs (.deleteVM id vm) (.destroyed vm)
  | missing (id : InstanceID) (vm : ProviderID) : Logs (.deleteVM id vm) (.missing vm)

/-- Where an entry of the log comes from. -/
inductive Source (s : State) : Label → Happening → Prop where
  | action {id : TaskID} {outcome : Outcome} {kind : Kind} {action : Action}
      {next : Reply action → Code Unit} {notes : List Note} {happening : Happening}
      (runs : s.tasks id = some ⟨kind, .perform action next, notes⟩)
      (logs : Logs action happening) : Source s (.perform id outcome) happening
  | report (id : InstanceID) (status : ProviderStatus) :
      Source s (.report id status) (.reportedDeleting id)

section

variable {config : Config} {s s' after : State} {label : Label}

theorem Effect.log (effect : Effect s task action outcome reply after) :
    after.log = s.log ∨ ∃ happening, after.log = happening :: s.log ∧ Logs action happening := by
  cases effect with
  | asleep tenant => exact .inr ⟨_, rfl, .foundAsleep tenant⟩
  | polled target state => exact .inr ⟨_, rfl, .polled target state⟩
  | waited target state => exact .inr ⟨_, rfl, .waited target state⟩
  | registered tenant target => exact .inr ⟨_, rfl, .registered tenant target⟩
  | deregistered target => exact .inr ⟨_, rfl, .deregistered target⟩
  | destroyed id vm => exact .inr ⟨_, rfl, .destroyed id vm⟩
  | missing id vm => exact .inr ⟨_, rfl, .missing id vm⟩
  | _ => exact .inl rfl

theorem change_log (change : Change config s label s') :
    s'.log = s.log ∨ ∃ happening, s'.log = happening :: s.log ∧ Source s label happening := by
  cases change with
  | perform runs effect =>
    rcases effect.log with same | ⟨happening, added, logs⟩
    · exact .inl same
    · exact .inr ⟨happening, added, .action runs logs⟩
  | @report id status =>
    unfold State.reported
    split
    · exact .inl rfl
    · exact .inr ⟨_, rfl, .report id status⟩
  | _ => exact .inl rfl

theorem change_logged (change : Change config s label s') {happening : Happening}
    (member : happening ∈ s'.log) : happening ∈ s.log ∨ Source s label happening := by
  rcases change_log change with same | ⟨new, added, source⟩
  · exact .inl (same ▸ member)
  rw [added] at member
  rcases List.mem_cons.mp member with rfl | old
  · exact .inr source
  · exact .inl old

end

/-! ## The table of registrations -/

section

variable {config : Config} {s s' after : State} {label : Label} {lb : LBKey} {id : InstanceID}

theorem records_iff :
    s.records lb id = true ↔ ∃ row ∈ s.lbInstances, row.lb = lb ∧ row.id = id := by
  simp [State.records]

theorem records_congr (same : s'.lbInstances = s.lbInstances) (lb : LBKey) (id : InstanceID) :
    s'.records lb id = s.records lb id := by
  rw [State.records, same, State.records]

theorem mem_pendingOrFailed (member : (lb, id) ∈ s.pendingOrFailed) : s.records lb id = true := by
  obtain ⟨row, kept, same⟩ := List.mem_map.mp member
  cases same
  exact records_iff.mpr ⟨row, (List.mem_filter.mp kept).1, rfl, rfl⟩

theorem mem_recordedFor : lb ∈ s.recordedFor id ↔ s.records lb id = true := by
  rw [records_iff]
  simp only [State.recordedFor, List.mem_map, List.mem_filter, decide_eq_true_eq]
  exact ⟨fun ⟨row, ⟨member, same⟩, here⟩ => ⟨row, member, here, same⟩,
    fun ⟨row, member, here, same⟩ => ⟨row, ⟨member, same⟩, here⟩⟩

theorem records_upsert {row : LBInstance} : (s.upsert row).records lb id = true ↔
    row.lb = lb ∧ row.id = id ∨ s.records lb id = true := by
  simp only [records_iff, State.upsert, List.mem_cons, List.mem_filter, Bool.or_eq_true,
    decide_eq_true_eq]
  constructor
  · rintro ⟨other, rfl | ⟨member, _⟩, same⟩
    · exact .inl same
    · exact .inr ⟨other, member, same⟩
  · rintro (same | ⟨other, member, rfl, rfl⟩)
    · exact ⟨row, .inl rfl, same⟩
    · by_cases replaced : row.lb = other.lb ∧ row.id = other.id
      · exact ⟨row, .inl rfl, replaced⟩
      refine ⟨other, .inr ⟨member, ?_⟩, rfl, rfl⟩
      by_cases different : other.lb = row.lb
      · exact .inr fun same => replaced ⟨different.symm, same.symm⟩
      · exact .inl different

theorem Effect.records (effect : Effect s task action outcome reply after)
    (keeps : action ≠ .deleteLBInstancesForInstance id) (recorded : s.records lb id = true) :
    after.records lb id = true := by
  cases effect with
  | recorded => exact records_upsert.mpr (.inr recorded)
  | forgotten other =>
    obtain ⟨row, member, here, same⟩ := records_iff.mp recorded
    refine records_iff.mpr ⟨row, List.mem_filter.mpr ⟨member, ?_⟩, here, same⟩
    refine decide_eq_true fun gone => keeps ?_
    rw [← same, gone]
  | _ => exact recorded

theorem Effect.records_back (effect : Effect s task action outcome reply after)
    (recorded : after.records lb id = true) :
    s.records lb id = true ∨ ∃ status, action = .upsertLBInstance lb id status := by
  cases effect with
  | recorded lb' id' status =>
    rcases records_upsert.mp recorded with ⟨here, same⟩ | old
    · cases here
      cases same
      exact .inr ⟨status, rfl⟩
    · exact .inl old
  | forgotten =>
    obtain ⟨row, member, same⟩ := records_iff.mp recorded
    exact .inl (records_iff.mpr ⟨row, (List.mem_filter.mp member).1, same⟩)
  | _ => exact .inl recorded

/-- What a step does to the table of targets. -/
inductive TableStep (s s' : State) : Label → Prop where
  | same {label : Label} (same : s'.lbInstances = s.lbInstances) : TableStep s s' label
  | acted {task : TaskID} {kind : Kind} {action : Action} {next : Reply action → Code Unit}
      {notes : List Note} {outcome : Outcome} {reply : Reply action} {after : State}
      (runs : s.tasks task = some ⟨kind, .perform action next, notes⟩)
      (effect : Effect s task action outcome reply after)
      (same : s'.lbInstances = after.lbInstances) : TableStep s s' (.perform task outcome)

theorem change_lbInstances (change : Change config s label s') (stays : label.stays = true) :
    TableStep s s' label := by
  cases change with
  | perform runs effect => exact .acted runs effect rfl
  | report =>
    unfold State.reported
    split <;> exact .same rfl
  | takeover => cases stays
  | _ => exact .same rfl

end

/-! ## What the contracts say -/

section

variable {config : Config} {s : State} {id : TaskID} {kind : Kind} {action : Action}
  {next : Reply action → Code Unit} {notes : List Note}

theorem Conducted.pre (conducted : Conducted config s)
    (runs : s.tasks id = some ⟨kind, .perform action next, notes⟩) : Pre config kind action notes :=
  (conducted.sound runs).1

theorem pre_register {tenant : Tenant} {target : Target}
    (allowed : Pre config kind (.registerWithLB tenant target) notes) :
    holding notes = true ∧ ((∃ id, kind = .reconcile id) ∧ Registrable config tenant target notes ∨
      kind = .restore tenant ∧ Listed config tenant target notes) := by
  cases kind with
  | reconcile id => exact ⟨allowed.1, .inl ⟨⟨id, rfl⟩, allowed.2⟩⟩
  | restore owner =>
    obtain ⟨rfl, holds, listed⟩ := allowed
    exact ⟨holds, .inr ⟨rfl, listed⟩⟩
  | delete | withdraw => exact allowed.elim

theorem pre_deleteVM {instance_ : InstanceID} {vm : ProviderID}
    (allowed : Pre config kind (.deleteVM instance_ vm) notes) :
    ∃ tenant, kind = .delete tenant instance_ ∧ holding notes = true ∧
      Drained tenant instance_ vm notes ∧ Detached config tenant instance_ vm notes := by
  cases kind with
  | delete tenant id =>
    obtain ⟨rfl, rest⟩ := allowed
    exact ⟨tenant, rfl, rest⟩
  | reconcile | withdraw | restore => exact allowed.elim

variable {reply : Reply action}

theorem mem_held_learn {noted : Note} (member : noted ∈ held (learn action reply notes)) :
    action.plain = true ∧ (note action reply = some noted ∨ noted ∈ held notes) := by
  by_cases plain : action.plain = true
  · refine ⟨plain, ?_⟩
    cases taken : note action reply with
    | none =>
      rw [learn, taken] at member
      exact .inr member
    | some new =>
      rw [learn, taken] at member
      rw [show (some new).toList ++ notes = new :: notes from rfl,
        Note.plain_held (note_plain plain taken)] at member
      rcases List.mem_cons.mp member with rfl | earlier
      · exact .inl rfl
      · exact .inr earlier
  · cases action <;> first | exact absurd rfl plain | exact absurd member List.not_mem_nil

theorem after_learn {x y : Note} (after : After x y (learn action reply notes)) :
    action.plain = true ∧ (note action reply = some x ∧ y ∈ held notes ∨ After x y notes) := by
  obtain ⟨plain, _⟩ := mem_held_learn after.later_mem
  refine ⟨plain, ?_⟩
  cases taken : note action reply with
  | none =>
    rw [learn, taken] at after
    exact .inr after
  | some new =>
    rw [learn, taken] at after
    exact ((after_cons (note_plain plain taken)).mp after).imp_left
      fun both => ⟨congrArg some both.1, both.2⟩

theorem Conducted.holder_eq (conducted : Conducted config s) {other : TaskID} {task : Task}
    (runs : s.tasks other = some task) (holds : holding task.notes = true)
    {mine : Task} (runs' : s.tasks id = some mine) (holds' : holding mine.notes = true) :
    other = id := by
  have first := (conducted.holds runs).mp holds
  have second := (conducted.holds runs').mp holds'
  exact Option.some.inj (first.symm.trans second)

/-- The actions that need the lock. -/
def Action.guarded : Action → Bool
  | .upsertLBInstance _ _ _ => true
  | .deleteLBInstancesForInstance _ => true
  | .registerWithLB _ _ => true
  | .deregisterFromLB _ => true
  | _ => false

theorem pre_guarded (guarded : action.guarded = true) (allowed : Pre config kind action notes) :
    holding notes = true := by
  cases action with
  | upsertLBInstance lb id status =>
    cases kind with
    | reconcile => exact allowed.1
    | delete => exact allowed.2.1
    | _ => exact allowed.elim
  | deleteLBInstancesForInstance id =>
    cases kind with
    | delete => exact allowed.2.1
    | _ => exact allowed.elim
  | registerWithLB tenant target => exact (pre_register allowed).1
  | deregisterFromLB target =>
    cases kind with
    | delete | withdraw => exact allowed
    | _ => exact allowed.elim
  | _ => cases guarded

theorem Effect.lbInstances {after : State}
    (effect : Effect s task action outcome reply after) (free : action.guarded ≠ true) :
    after.lbInstances = s.lbInstances := by
  cases effect with
  | recorded | forgotten => exact absurd rfl free
  | _ => rfl

/-- While a task holds the lock and does not move, no registration is recorded,
forgotten or made. -/
theorem Conducted.quiet (conducted : Conducted config s) {s' : State} {label : Label}
    (change : Change config s label s') (stays : label.stays = true) {task : Task}
    (runs : s.tasks id = some task) (holds : holding task.notes = true)
    (idle : ∀ outcome, label ≠ .perform id outcome) :
    s'.lbInstances = s.lbInstances ∧
      ∀ tenant target, ¬ Source s label (.registered tenant target) := by
  have unguarded : ∀ {other : TaskID} {outcome : Outcome} {kind : Kind} {action : Action}
      {next : Reply action → Code Unit} {notes : List Note}, label = .perform other outcome →
      s.tasks other = some ⟨kind, .perform action next, notes⟩ → action.guarded ≠ true := by
    rintro other outcome kind action next notes rfl theirs guarded
    have same := conducted.holder_eq theirs (pre_guarded guarded (conducted.pre theirs)) runs holds
    subst same
    exact idle outcome rfl
  refine ⟨?_, fun tenant target source => ?_⟩
  · rcases change_lbInstances change stays with same | ⟨theirs, effect, same⟩
    · exact same
    · rw [same]
      exact effect.lbInstances (unguarded rfl theirs)
  · cases source with
    | action theirs logs =>
      cases logs
      exact unguarded rfl theirs rfl

end

end Nstance.Targets
