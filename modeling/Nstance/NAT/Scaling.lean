import Nstance.NAT.Replacements

/-!
# Scaling under sustained load

`Observe` remembers for every instance since when its load has been high or low, and starts
a replacement once that has lasted for the window of the configuration.

An observation that is complete but older than the last, or that comes after a reset of the
counters, within the cooldown, or without an assignment leaves the window open, whatever its
load (`replaced_after_quiet_report`). If the complete observations are evaluated while a
window is open, a replacement comes after observations that all show the load, over the
whole window (`replaced_after_sustained_load`).
-/

namespace Nstance.NAT

open Interaction Manager
open Program hiding act pure

/-! ## Observations -/

/-- A call of `Observe`, with what the manager has of the instance when it begins. -/
structure Observation where
  instanceID : String
  observedAt : Time
  sample : Option MetricSample
  previous : Option MetricSample
  assignment : Option Assignment
deriving DecidableEq

/-- Packet drops per second between two samples. -/
def dropRate (previous current : MetricSample) : Rat :=
  ((current.drops - previous.drops : Nat) : Rat) /
    (((current.observedAt - previous.observedAt : Int) : Rat) / 1000000000)

/-- The rate of drops of an observation. There is none without an older sample, or when the
counter was reset in between. -/
def Observation.rate (o : Observation) (current : MetricSample) : Option Rat :=
  o.previous.bind fun previous =>
    if previous.observedAt < current.observedAt ∧ previous.drops ≤ current.drops then
      some (dropRate previous current)
    else none

/-- The two ways of scaling. -/
inductive Direction where
  | up
  | down
deriving DecidableEq

namespace Direction

/-- When the window was opened. -/
def since : Direction → Memory → String → Option Time
  | .up, memory => memory.scaleUpSince
  | .down, memory => memory.scaleDownSince

/-- How long it has to stay open. -/
def window : Direction → NATConfig → Duration
  | .up, natConfig => natConfig.scaleUpWindow
  | .down, natConfig => natConfig.scaleDownWindow

/-- The type of a replacement, from the place of the instance in the ladder. -/
def target : Direction → List String → Nat → Option String
  | .up, ladder, index => ladder[index + 1]?
  | .down, ladder, index => if 0 < index then ladder[index - 1]? else none

/-- The metrics are complete, and exceed a threshold for scaling up; or are within all
thresholds for scaling down. -/
def Shown (natConfig : NATConfig) (o : Observation) : Direction → Prop
  | .up => ∃ current ∈ o.sample,
      natConfig.scaleUpThresholds.cpuPercent < current.cpu ∨
        natConfig.scaleUpThresholds.conntrackPercent < current.conntrack ∨
        ∃ rate ∈ o.rate current, natConfig.scaleUpThresholds.packetDropsPerSecond < rate
  | .down => ∃ current ∈ o.sample,
      current.cpu ≤ natConfig.scaleDownThresholds.cpuPercent ∧
        current.conntrack ≤ natConfig.scaleDownThresholds.conntrackPercent ∧
        ∀ rate ∈ o.rate current, rate ≤ natConfig.scaleDownThresholds.packetDropsPerSecond

section

variable (d : Direction) (memory : Memory) (id : String)

@[simp] theorem since_setMetrics
    (sample : MetricSample) : d.since (memory.setMetrics id sample) = d.since memory := by
  cases d <;> rfl

theorem since_setScaleUp (began : Option Time)
    (other : String) : d.since (memory.setScaleUp id began) other =
      if d = .up ∧ other = id then began else d.since memory other := by
  cases d with
  | up => simp [since, Memory.setScaleUp, Function.update_apply]
  | down => rfl

theorem since_setScaleDown (began : Option Time)
    (other : String) : d.since (memory.setScaleDown id began) other =
      if d = .down ∧ other = id then began else d.since memory other := by
  cases d with
  | up => rfl
  | down => simp [since, Memory.setScaleDown, Function.update_apply]

end

end Direction

variable (config : Config) (d : Direction)

/-- The load of an observation, by the configuration of the instance's tenant. -/
def Shows (o : Observation) : Prop :=
  ∃ a ∈ o.assignment, d.Shown (config.natConfig a.tenant) o

/-- The observations of an instance show the load since the given time. The newest
observation comes first. -/
def Held (id : String) (began : Time) (history : List Observation) : Prop :=
  ∃ recent first earlier, history.filter (·.instanceID = id) = recent ++ first :: earlier ∧
    first.observedAt = began ∧ ∀ o ∈ recent ++ [first], Shows config d o

/-- The last observation of an instance, at the given time, and all since one that is earlier
by the window or more, show the load. -/
def Sustained (tenant id : String) (observedAt : Time) (history : List Observation) : Prop :=
  ∃ last recent first earlier,
    history.filter (·.instanceID = id) = last :: (recent ++ first :: earlier) ∧
      last.observedAt = observedAt ∧
      d.window (config.natConfig tenant) ≤ observedAt - first.observedAt ∧
      ∀ o ∈ last :: (recent ++ [first]), Shows config d o

variable {config : Config} {d : Direction} {history : List Observation} {o : Observation}

theorem Held.cons_other {id : String} {began : Time} (held : Held config d id began history)
    (other : id ≠ o.instanceID) : Held config d id began (o :: history) := by
  obtain ⟨recent, first, earlier, split, at_, shown⟩ := held
  refine ⟨recent, first, earlier, ?_, at_, shown⟩
  rw [List.filter_cons_of_neg (by simpa using other.symm), split]

theorem Held.cons {began : Time} (held : Held config d o.instanceID began history)
    (shows : Shows config d o) : Held config d o.instanceID began (o :: history) := by
  obtain ⟨recent, first, earlier, split, at_, shown⟩ := held
  refine ⟨o :: recent, first, earlier, ?_, at_, ?_⟩
  · rw [List.filter_cons_of_pos (by simp), split]
    rfl
  · exact List.forall_mem_cons.mpr ⟨shows, shown⟩

theorem held_singleton (history : List Observation) (shows : Shows config d o) :
    Held config d o.instanceID o.observedAt (o :: history) :=
  ⟨[], o, history.filter (·.instanceID = o.instanceID),
    List.filter_cons_of_pos (by simp), rfl, by simpa using shows⟩

theorem Held.sustained {began : Time} {tenant : String}
    (held : Held config d o.instanceID began history) (shows : Shows config d o)
    (long : d.window (config.natConfig tenant) ≤ o.observedAt - began) :
    Sustained config d tenant o.instanceID o.observedAt (o :: history) := by
  obtain ⟨recent, first, earlier, split, rfl, shown⟩ := held
  refine ⟨o, recent, first, earlier, ?_, rfl, long, List.forall_mem_cons.mpr ⟨shows, shown⟩⟩
  rw [List.filter_cons_of_pos (by simp), split]

/-! ## What a method does with the windows -/

/-- What a method works on: the maps in memory and the stored assignments. -/
structure Desk where
  memory : Memory
  records : Assignments

section

variable (config : Config) (may : StoreCall → Prop) (fails : Memory → Prop)

/-- The assignments are read as they are stored, or cannot be read. -/
def demands : (action : Action) → (Reply action → Desk → Prop) → Desk → Prop
  | .getCurrent, Q, desk => Q config desk
  | .assignments, Q, desk =>
    Q (.ok desk.records) desk ∧ (fails desk.memory → ∀ error, Q (.error error) desk)
  | .range entries, Q, desk => ∀ order : List Assignment, order.Perm entries → Q order desk
  | .readMemory, Q, desk => Q desk.memory desk
  | .remember memory, Q, desk => Q () { desk with memory }
  | .store call, Q, desk => may call ∧ ∀ reply records, Q reply { desk with records }
  | .listInstances, Q, desk => ∀ reply, Q reply desk
  | .getInstance _, Q, desk => ∀ reply, Q reply desk
  | .now, Q, desk => ∀ reply, Q reply desk
  | .tenantAsleep _, Q, desk => ∀ reply, Q reply desk
  | .newID _, Q, desk => ∀ reply, Q reply desk
  | .createNATInstance _, Q, desk => ∀ reply, Q reply desk
  | .deleteInstance _ _, Q, desk => ∀ reply, Q reply desk
  | .ensureNATRoute _, Q, desk => ∀ reply, Q reply desk
  | .removeNATRoute _, Q, desk => ∀ reply, Q reply desk

/-- The configuration stays, and the calls of the store are among the given ones. -/
def supervision : Contract interface Desk where
  demand := demands config may fails
  mono := by
    intro action P Q implied desk
    cases action with
    | getCurrent | readMemory | remember => exact implied _ _
    | assignments =>
      exact fun demand =>
        ⟨implied _ _ demand.1, fun fault error => implied _ _ (demand.2 fault error)⟩
    | range entries => exact fun demand order same => implied _ _ (demand order same)
    | store call =>
      exact fun demand => ⟨demand.1, fun reply records => implied _ _ (demand.2 reply records)⟩
    | _ => exact fun demand reply => implied _ _ (demand reply)

end

section

variable {E : Environment} {config : Config} {may : StoreCall → Prop} {fails : Memory → Prop}
  {s after : State}

theorem perform_memory {action : Action} {outcome : Outcome} {reply : Reply action}
    (performed : s.perform E action outcome = some (after, reply))
    (keeps : ∀ memory, action ≠ .remember memory) : after.memory = s.memory := by
  cases action <;> cases outcome <;> simp only [State.perform, reduceCtorEq] at performed
  all_goals first
    | (cases performed; first | rfl | exact absurd rfl (keeps _))
    | (split at performed <;> cases performed <;> rfl)

theorem of_demands {action : Action} {outcome : Outcome} {reply : Reply action}
    {Q : Reply action → Desk → Prop} (unchanged : s.config = config)
    (performed : s.perform E action outcome = some (after, reply))
    (fault : ∀ error, outcome = .fail error → action = .assignments → fails s.memory)
    (demand : demands config may fails action Q ⟨s.memory, s.view.records⟩) :
    Q reply ⟨after.memory, after.view.records⟩ := by
  subst unchanged
  cases action with
  | remember | readMemory | getCurrent =>
    cases outcome <;> cases performed
    exact demand
  | assignments =>
    cases outcome with
    | ok =>
      cases performed
      exact demand.1
    | fail error =>
      cases performed
      exact demand.2 (fault error rfl rfl) error
    | _ => cases performed
  | _ =>
    rw [perform_memory performed nofun]
    have seen := perform_seen performed
    generalize after.view = view at seen
    cases seen <;> first | exact demand _ | exact demand.2 _ _ | exact demand _ ‹_›

end

/-! ### Replacements -/

variable (memory : Memory)

/-- Both windows of the instance are closed. -/
def Memory.closed (id : String) : Memory :=
  (memory.setScaleUp id none).setScaleDown id none

theorem since_closed (d : Direction) (memory : Memory) (id other : String) :
    d.since (memory.closed id) other = if other = id then none else d.since memory other := by
  cases d <;> exact Function.update_apply _ _ _ _

section

variable {config : Config} {may : StoreCall → Prop} {fails : Memory → Prop} {desk : Desk}

/-- A replacement is claimed, and its creation may fail. Only when it was created are the
windows of the instance closed. -/
theorem wp_startReplacement {cfg : Config} {natConfig : NATConfig} {current : Assignment}
    {instanceType : String} {now : Time} {post : Except Err Unit → Desk → Prop}
    (claims : ∀ id, may (.claimReplacement current id instanceType now))
    (releases : ∀ id, may (.release id))
    (kept : ∀ result records, post result { desk with records })
    (closed : ∀ records, post (.ok ()) ⟨desk.memory.closed current.instanceID, records⟩) :
    wp (supervision config may fails) post
      (startReplacement cfg natConfig current instanceType now) desk := by
  intro generated
  cases generated with
  | error error => exact kept _ _
  | ok id =>
    refine ⟨claims id, ?_⟩
    intro reply records
    cases reply with
    | error error => exact kept _ _
    | ok replacement =>
      refine wp_ite (fun _ => kept _ _) fun _ => ?_
      intro created
      cases created with
      | ok => exact closed records
      | error error =>
        refine ⟨releases id, ?_⟩
        intro released records
        cases released with
        | ok | error error => exact kept _ _

end

/-! ### Methods that only close windows -/

/-- Every window that is open afterwards was open before. -/
def Forgets (before after : Memory) : Prop :=
  ∀ d : Direction, ∀ id began, d.since after id = some began → d.since before id = some began

theorem forgets_closed (id : String) : Forgets memory (memory.closed id) := by
  intro d other began opened
  rw [since_closed] at opened
  split at opened
  · cases opened
  · exact opened

section

variable (config : Config) {α β : Type}

/-- Programs that open no window. -/
abbrev Calm (program : Code α) : Prop :=
  Relates (supervision config (fun _ => True) fun _ => True)
    (fun desk after => Forgets desk.memory after.memory) program

instance : IsPreorder Desk fun desk after => Forgets desk.memory after.memory where
  refl _ _ _ _ := id
  trans _ _ _ first second d id began opened := first d id began (second d id began opened)

variable {config}

variable {program : Code α} {action : Action}

section

variable (keeps : ∀ memory, action ≠ .remember memory)
include keeps

/-- An action other than `remember` leaves the memory as it is. -/
theorem calm_perform {next : Reply action → Code α} (calm : ∀ reply, Calm config (next reply)) :
    Calm config (.perform action next) := by
  intro desk
  cases action with
  | remember memory => exact absurd rfl (keeps memory)
  | store call => exact ⟨trivial, fun reply records => calm reply ⟨desk.memory, records⟩⟩
  | assignments => exact ⟨calm _ desk, fun _ error => calm _ desk⟩
  | range entries => exact fun order _ => calm order desk
  | getCurrent | readMemory => exact calm _ desk
  | _ => exact fun reply => calm reply desk

theorem calm_act : Calm config (Manager.act action) :=
  calm_perform keeps relates_pure

theorem calm_attempt {read : Reply action → Except Err α} : Calm config (attempt action read) :=
  calm_perform keeps fun _ => relates_ofExcept _

end

theorem Calm.wrapping {context : String} (calm : Calm config program) :
    Calm config (Manager.wrapping context program) :=
  calm.recover fun _ => relates_fail _

theorem calm_found (context : String) (reply : Except Err Instance) :
    Calm config (found context reply) := by
  cases reply with
  | ok inst => exact relates_pure _
  | error error => exact relates_ite (relates_pure _) (relates_fail _)

variable (id : String)

theorem calm_update (closure : Closure) : Calm config (Manager.update id closure) :=
  calm_attempt (by rintro _ ⟨⟩)

theorem calm_getInstance : Calm config (getInstance id) :=
  calm_act (by rintro _ ⟨⟩)

theorem calm_now : Calm config now := calm_act (by rintro _ ⟨⟩)

variable (entries : List Assignment)

theorem calm_range : Calm config (range entries) :=
  calm_act (by rintro _ ⟨⟩)

theorem calm_assignments : Calm config assignments := calm_attempt (by rintro _ ⟨⟩)

theorem calm_getCurrent : Calm config (Manager.act .getCurrent) := calm_act (by rintro _ ⟨⟩)

theorem calm_startReplacement (cfg : Config) (natConfig : NATConfig) (current : Assignment)
    (instanceType : String) (now : Time) :
    Calm config (startReplacement cfg natConfig current instanceType now) := fun desk =>
  wp_startReplacement (fun _ => trivial) (fun _ => trivial) (fun _ _ _ _ _ => id)
    fun _ => forgets_closed desk.memory current.instanceID

theorem calm_ensureRoute (request : NATRouteRequest) : Calm config (ensureRoute id request) :=
  (calm_update _ _).wrapping.bind fun _ => calm_attempt (by rintro _ ⟨⟩)

theorem calm_replaceInstance : Calm config (replaceInstance id) := by
  refine calm_assignments.bind fun snapshot => ?_
  split
  · exact relates_pure _
  · refine relates_ite (relates_pure _) (calm_getCurrent.bind fun cfg => ?_)
    exact relates_ite (relates_pure _) (calm_now.bind fun _ => calm_startReplacement _ _ _ _ _)

section

variable (cfg : Config) (natConfig : NATConfig)

theorem calm_takeRoute (tenant : String)
    (snapshot : Assignments) (assignment : Assignment) (inst : Option Instance) :
    Calm config (takeRoute cfg natConfig tenant snapshot assignment inst) :=
  (calm_ensureRoute _ _).bind fun _ => (calm_update _ _).wrapping

theorem calm_prepareAssignment (tenant : String)
    (snapshot : Assignments) (assignment : Assignment) :
    Calm config (prepareAssignment cfg natConfig tenant snapshot assignment) := by
  refine (calm_getInstance _).bind fun reply => (calm_found _ reply).bind fun inst => ?_
  refine relates_ite ?_ (relates_ite ?_ ?_)
  · exact (calm_attempt (by rintro _ ⟨⟩)).wrapping.bind fun _ => relates_fail _
  · exact calm_now.bind fun _ => (calm_startReplacement _ _ _ _ _).bind fun _ => relates_fail _
  · exact calm_now.bind fun _ => relates_ite (relates_fail _)
      (relates_ite (relates_pure _) (calm_takeRoute _ _ _ _ _ _))

theorem calm_claimFirst (tenant subnetID : String) :
    Calm config (claimFirst cfg natConfig tenant subnetID) := by
  refine (calm_attempt (by rintro _ ⟨⟩)).wrapping.bind fun _ => calm_now.bind fun _ => ?_
  refine (calm_attempt (by rintro _ ⟨⟩)).recover fun error => ?_
  exact relates_ite (relates_fail _) (relates_fail _)

end

theorem calm_prepareSubnet (tenant subnetID : String) :
    Calm config (prepareSubnet tenant subnetID) := by
  refine calm_getCurrent.bind fun cfg => ?_
  split
  · exact relates_pure _
  refine calm_assignments.bind fun snapshot => (calm_range _).bind fun entries => ?_
  split
  · exact calm_prepareAssignment _ _ _ _ _
  · exact (calm_claimFirst _ _ _ _).bind fun _ => calm_prepareAssignment _ _ _ _ _

section

variable (cfg : Config) (snapshot : Assignments)
include cfg snapshot

theorem calm_restorePrevious (previous assignment : Assignment) :
    Calm config (restorePrevious cfg snapshot previous assignment) := by
  refine (calm_getInstance _).bind fun reply => (calm_found _ reply).bind fun inst => ?_
  refine calm_now.bind fun _ => relates_ite ?_ (calm_update _ _)
  exact (calm_ensureRoute _ _).wrapping.bind fun _ => calm_update _ _

variable (assignment : Assignment)

theorem calm_withdrawRoute : Calm config (withdrawRoute cfg snapshot assignment) := by
  have removes : Calm config (Manager.wrapping "remove NAT route"
      (removeNATRoute (routeRequest cfg snapshot assignment))) :=
    (calm_attempt (by rintro _ ⟨⟩)).wrapping
  rw [withdrawRoute]
  split
  · exact relates_ite (calm_restorePrevious _ _ _ _) removes
  · exact removes

theorem calm_deleteAssignment : Calm config (deleteAssignment cfg snapshot assignment) := by
  have condemns : Calm config (condemn cfg snapshot assignment) := by
    refine Relates.bind (relates_ite (calm_withdrawRoute _ _ _) (relates_pure _)) fun _ => ?_
    refine Relates.bind ((calm_attempt (by rintro _ ⟨⟩)).recover fun error => ?_) fun _ =>
      calm_update _ _
    exact relates_ite (relates_pure _) (relates_fail _)
  exact Relates.bind (relates_ite (relates_pure _) condemns) fun _ => calm_attempt (by rintro _ ⟨⟩)

variable (now : Time)

theorem calm_cutover : Calm config (cutover cfg snapshot now entries) := by
  induction entries with
  | nil => exact relates_pure _
  | cons assignment rest ih =>
    refine relates_ite ih ((calm_getInstance _).bind fun reply => ?_)
    have deletes : Calm config (deleteAssignment cfg snapshot assignment >>= fun _ => pure true) :=
      (calm_deleteAssignment _ _ _).bind fun _ => relates_pure _
    refine relates_ite deletes (relates_ite ?_ (relates_ite deletes ih))
    refine Relates.bind (Relates.bind (calm_ensureRoute _ _).wrapping fun _ => ?_) fun _ =>
      relates_pure _
    exact calm_attempt (by rintro _ ⟨⟩)

theorem calm_tend : Calm config (tend cfg snapshot now assignment) := by
  refine Relates.bind (relates_ite (calm_update _ _) (relates_pure _)) fun _ => ?_
  refine (calm_getInstance _).bind fun reply => (calm_found _ reply).bind fun inst => ?_
  refine relates_ite (calm_startReplacement _ _ _ _ _) (relates_ite ?_ (relates_pure _))
  exact (calm_ensureRoute _ _).wrapping.bind fun _ => calm_update _ _

variable (localInstances : List Instance)

theorem calm_visit : Calm config (visit cfg snapshot localInstances now assignment) := by
  refine relates_ite (relates_pure _) (relates_ite (calm_tend _ _ _ _) ?_)
  refine (calm_act (by rintro _ ⟨⟩)).bind fun (asleep : Bool) => ?_
  refine relates_ite ?_ (calm_deleteAssignment _ _ _)
  split
  · exact calm_update _ _
  · exact relates_ite (relates_pure _) (calm_deleteAssignment _ _ _)

theorem calm_sweep : Calm config (sweep cfg snapshot localInstances now entries) := by
  induction entries with
  | nil => exact relates_pure _
  | cons assignment rest ih => exact (calm_visit _ _ _ _ _).bind fun _ => ih

end

theorem calm_reconcile : Calm config reconcile := by
  refine calm_getCurrent.bind fun cfg => calm_assignments.bind fun snapshot => ?_
  refine (calm_attempt (by rintro _ ⟨⟩)).wrapping.bind fun _ => calm_now.bind fun _ => ?_
  refine (calm_range _).bind fun _ => (calm_cutover _ _ _ _).bind fun returned => ?_
  exact relates_ite (relates_pure _) ((calm_range _).bind fun _ => calm_sweep _ _ _ _ _)

end

/-! ### Observations -/

/-- A window of the instance is open. -/
def Memory.opened (id : String) : Bool :=
  (memory.scaleUpSince id).isSome || (memory.scaleDownSince id).isSome

theorem since_of_not_opened {memory : Memory} {id : String} (closed : memory.opened id = false)
    (d : Direction) : d.since memory id = none := by
  have closed := Bool.or_eq_false_iff.mp closed
  cases d with
  | up => exact Option.isSome_eq_false_iff.mp closed.1 |> Option.isNone_iff_eq_none.mp
  | down => exact Option.isSome_eq_false_iff.mp closed.2 |> Option.isNone_iff_eq_none.mp

/-- A complete observation is compared with the thresholds: it is newer than the last one,
the counter of drops was not reset, and the instance is an active one with a type of the
ladder, past its cooldown. -/
def usable (config : Config) (memory : Memory) (records : Assignments) (id : String)
    (current : MetricSample) : Bool :=
  ((memory.metrics id).any fun previous =>
    previous.observedAt < current.observedAt && previous.drops ≤ current.drops) &&
  (records.get id).any fun a =>
    a.instanceID ≠ "" && a.replaces = "" && !a.deleting && config.dedicated a.tenant &&
      ((config.natConfig a.tenant).instanceTypeLadder.findIdx? (· = a.instanceType)).isSome &&
      !a.lastScaleAt.any (current.observedAt - · < (config.natConfig a.tenant).cooldown)

/-- What `Observe` claims, from the windows it has found. -/
def Permitted (config : Config) (o : Observation) (before : Memory) : StoreCall → Prop
  | .claimReplacement current _ instanceType createdAt =>
    createdAt = o.observedAt ∧ current.instanceID = o.instanceID ∧
      ∃ (d : Direction) (index : Nat) (began : Time),
        (config.natConfig current.tenant).instanceTypeLadder.findIdx?
          (· = current.instanceType) = some index ∧
        d.target (config.natConfig current.tenant).instanceTypeLadder index =
          some instanceType ∧
        Shows config d o ∧ d.since before o.instanceID = some began ∧
        d.window (config.natConfig current.tenant) ≤ o.observedAt - began
  | _ => True

/-- What `Observe` makes of the windows: one that is open for the instance begins with the
observation or was open before, and the observation shows the load. -/
structure After (config : Config) (o : Observation) (before after : Memory) : Prop where
  others : ∀ (d : Direction) (id : String), id ≠ o.instanceID →
    d.since after id = d.since before id
  own : ∀ (d : Direction) (began : Time), d.since after o.instanceID = some began →
    Shows config d o ∧ (d.since before o.instanceID = some began ∨ began = o.observedAt)

section

variable {config : Config} {o : Observation} {before memory : Memory}

theorem after_closed (others : ∀ (d : Direction) (id : String), id ≠ o.instanceID →
      d.since memory id = d.since before id) :
    After config o before (memory.closed o.instanceID) where
  others d id other := by rw [since_closed, if_neg other, others d id other]
  own d began opened := by
    rw [since_closed, if_pos rfl] at opened
    cases opened

theorem after_idle (same : ∀ d : Direction, d.since memory = d.since before)
    (closed : before.opened o.instanceID = false) : After config o before memory where
  others d id other := by rw [same]
  own d began opened := by
    rw [same, since_of_not_opened closed] at opened
    cases opened

theorem after_shown {d e : Direction} (other : e ≠ d) {since : Option Time}
    (shows : Shows config d o)
    (others : ∀ (c : Direction) (id : String), id ≠ o.instanceID →
      c.since memory id = c.since before id)
    (opened : d.since memory o.instanceID = since) (closed : e.since memory o.instanceID = none)
    (began : ∀ t, since = some t → d.since before o.instanceID = some t ∨ t = o.observedAt) :
    After config o before memory where
  others := others
  own c t here := by
    by_cases same : c = d
    · subst same
      exact ⟨shows, began t (opened.symm.trans here)⟩
    have same : c = e := by
      cases c <;> cases d <;> cases e <;>
        first | rfl | exact absurd rfl same | exact absurd rfl other
    subst same
    rw [closed] at here
    cases here

section

variable {may : StoreCall → Prop} {fails : Memory → Prop} {desk : Desk} {α : Type}
  {post : Except Err α → Desk → Prop}

theorem wp_reading {rest : Memory → Code α}
    (holds : wp (supervision config may fails) post (rest desk.memory) desk) :
    wp (supervision config may fails) post (Manager.act .readMemory >>= rest) desk := holds

theorem wp_remembering {rest : Unit → Code α}
    (holds : wp (supervision config may fails) post (rest ()) { desk with memory }) :
    wp (supervision config may fails) post (Manager.act (.remember memory) >>= rest) desk := holds

theorem wp_loading {rest : Assignments → Code α}
    (loaded : wp (supervision config may fails) post (rest desk.records) desk)
    (failed : fails desk.memory → ∀ error, post (.error error) desk) :
    wp (supervision config may fails) post (assignments >>= rest) desk := ⟨loaded, failed⟩

theorem wp_ranging {entries : List Assignment} {rest : List Assignment → Code α}
    (holds : ∀ order : List Assignment, order.Perm entries →
      wp (supervision config may fails) post (rest order) desk) :
    wp (supervision config may fails) post (range entries >>= rest) desk := holds

theorem wp_configured {rest : Config → Code α}
    (holds : wp (supervision config may fails) post (rest config) desk) :
    wp (supervision config may fails) post (Manager.act .getCurrent >>= rest) desk := holds

end

variable {fails : Memory → Prop} {desk : Desk} {assignment : Assignment} {index : Nat}
  {current : MetricSample} {observedAt : Time} {started : Memory} {previous : MetricSample}
  {records : Assignments} {id : String} {metrics : Option Metrics}

theorem wp_scaleAfter {may : StoreCall → Prop} {since : Option Time} {window : Duration}
    {replace : Code Unit} {post : Except Err Unit → Desk → Prop}
    (starts : post (.ok ()) { desk with memory := started })
    (replaces : ∀ began, since = some began → window ≤ observedAt - began →
      wp (supervision config may fails) post replace desk) (waits : post (.ok ()) desk) :
    wp (supervision config may fails) post (scaleAfter since window observedAt started replace)
      desk := by
  rw [scaleAfter]
  split
  · exact starts
  rename_i began found
  refine wp_ite (fun long => ?_) fun _ => waits
  exact replaces began (Option.filter_eq_some_iff.mp found).1 long

/-- An observation shows the load of one direction, for which the window stays open or
begins. -/
theorem wp_window (desk : Desk) {instanceType : String} {d e : Direction} (other : e ≠ d)
    (shows : Shows config d o) (own : assignment.instanceID = o.instanceID)
    (placed : (config.natConfig assignment.tenant).instanceTypeLadder.findIdx?
      (· = assignment.instanceType) = some index)
    (target : d.target (config.natConfig assignment.tenant).instanceTypeLadder index =
      some instanceType) (others : ∀ (c : Direction) (id : String), id ≠ o.instanceID →
      c.since desk.memory id = c.since before id)
    (kept : d.since desk.memory o.instanceID = d.since before o.instanceID)
    (closed : e.since desk.memory o.instanceID = none) (starts : ∀ (c : Direction) (id : String),
      c.since started id = if c = d ∧ id = o.instanceID then some o.observedAt
        else c.since desk.memory id) :
    wp (supervision config (Permitted config o before) fails)
      (fun _ after => After config o before after.memory)
      (scaleAfter (d.since desk.memory o.instanceID)
        (d.window (config.natConfig assignment.tenant)) o.observedAt started
        (startReplacement config (config.natConfig assignment.tenant) assignment instanceType
          o.observedAt)) desk := by
  have waits : After config o before desk.memory :=
    after_shown other shows others kept closed fun t here => .inl here
  refine wp_scaleAfter ?_ ?_ waits
  · refine after_shown other shows ?_ rfl ?_ ?_
    · intro c id elsewhere
      rw [starts, if_neg fun here => elsewhere here.2, others c id elsewhere]
    · rw [starts, if_neg fun here => other here.1, closed]
    · intro t here
      rw [starts, if_pos ⟨rfl, rfl⟩] at here
      cases here
      exact .inr rfl
  · intro began since long
    refine wp_startReplacement ?_ (fun _ => trivial) (fun _ _ => waits) fun _ => ?_
    · intro id
      exact ⟨rfl, own, d, index, began, placed, target, shows, kept.symm.trans since, long⟩
    · rw [own]
      exact after_closed others

theorem target_down {ladder : List String} {wanted : String → Bool}
    (placed : ladder.findIdx? wanted = some index) (positive : 0 < index) :
    Direction.down.target ladder index = some (ladder.getD (index - 1) "") := by
  have bound : index < ladder.length := (List.findIdx?_eq_some_iff_findIdx_eq.mp placed).1
  rw [Direction.target, if_pos positive, List.getD_eq_getElem?_getD,
    List.getElem?_eq_getElem (by omega)]
  rfl

theorem wp_scale (same : ∀ d : Direction, d.since desk.memory = d.since before)
    (own : assignment.instanceID = o.instanceID) (known : o.assignment = some assignment)
    (sample : o.sample = some current) (at_ : current.observedAt = o.observedAt)
    (rate : o.rate current = some (dropRate previous current))
    (placed : (config.natConfig assignment.tenant).instanceTypeLadder.findIdx?
      (· = assignment.instanceType) = some index) :
    wp (supervision config (Permitted config o before) fails)
      (fun _ after => After config o before after.memory)
      (scale config (config.natConfig assignment.tenant) assignment index previous current)
      desk := by
  refine wp_reading ?_
  rw [own]
  split
  · rename_i larger high found
    have shows : Shows config .up o := by
      refine ⟨assignment, known, current, sample, ?_⟩
      rcases of_decide_eq_true high with cpu | conntrack | drops
      · exact .inl cpu
      · exact .inr (.inl conntrack)
      · exact .inr (.inr ⟨_, rate, drops⟩)
    rw [at_]
    refine wp_remembering (wp_window (d := .up) (e := .down)
      ⟨desk.memory.setScaleDown o.instanceID none, desk.records⟩ (by decide) shows own placed
      found ?_ ?_ ?_ fun c id => Direction.since_setScaleUp c _ _ _ id)
    · intro c id other
      rw [Direction.since_setScaleDown, if_neg fun here => other here.2, same]
    · exact congrFun (same .up) o.instanceID
    · rw [Direction.since_setScaleDown, if_pos ⟨rfl, rfl⟩]
  · refine wp_remembering (wp_ite ?_ fun _ => ?_)
    · rintro ⟨low, positive⟩
      have shows : Shows config .down o := by
        obtain ⟨cpu, conntrack, drops⟩ := of_decide_eq_true low
        refine ⟨assignment, known, current, sample, cpu, conntrack, ?_⟩
        intro known mem
        rw [rate] at mem
        cases mem
        exact drops
      rw [at_]
      refine wp_window (d := .down) (e := .up)
        ⟨desk.memory.setScaleUp o.instanceID none, desk.records⟩ (by decide) shows own placed
        (target_down placed positive) ?_ ?_ ?_ fun c id => Direction.since_setScaleDown c _ _ _ id
      · intro c id other
        rw [Direction.since_setScaleUp, if_neg fun here => other here.2, same]
      · exact congrFun (same .down) o.instanceID
      · rw [Direction.since_setScaleUp, if_pos ⟨rfl, rfl⟩]
    · exact after_closed fun c id _ => by rw [same]

/-- What it takes to be compared with the thresholds. -/
structure Usable (config : Config) (memory : Memory) (records : Assignments) (id : String)
    (current : MetricSample) : Prop where
  newer : ∃ previous, memory.metrics id = some previous ∧
    previous.observedAt < current.observedAt ∧ previous.drops ≤ current.drops
  known : ∃ a, records.get id = some a ∧ a.instanceID ≠ "" ∧ a.replaces = "" ∧
    a.deleting = false ∧ config.dedicated a.tenant = true ∧
    ((config.natConfig a.tenant).instanceTypeLadder.findIdx? (· = a.instanceType)).isSome ∧
    a.lastScaleAt.any (current.observedAt - · < (config.natConfig a.tenant).cooldown) = false

theorem usable_iff : usable config memory records id current = true ↔
      Usable config memory records id current := by
  rw [usable, Bool.and_eq_true, Option.any_eq_true, Option.any_eq_true]
  constructor
  · rintro ⟨⟨previous, there, newer⟩, a, known, rest⟩
    simp only [Bool.and_eq_true, decide_eq_true_eq, Bool.not_eq_true'] at newer rest
    exact ⟨⟨previous, there, newer⟩, a, known, by simpa only [and_assoc] using rest⟩
  · rintro ⟨⟨previous, there, newer⟩, a, known, rest⟩
    refine ⟨⟨previous, there, ?_⟩, a, known, ?_⟩
    · simpa only [Bool.and_eq_true, decide_eq_true_eq] using newer
    · simpa only [Bool.and_eq_true, decide_eq_true_eq, Bool.not_eq_true', and_assoc] using rest

theorem picked_of_get {order : List Assignment} {a : Assignment} {wanted : Assignment → Bool}
    (found : records.get id = some a) (nonempty : a.instanceID ≠ "") (holds : wanted a = true)
    (only : ∀ b, wanted b = true → b.instanceID = id) (same : order.Perm records.entries) :
    pick wanted order ≠ none := by
  obtain ⟨mem, named⟩ := Assignments.get_eq_some.mp found
  intro none
  rw [pick, Option.filter_eq_none_iff] at none
  cases search : order.find? wanted with
  | none => exact List.find?_eq_none.mp search a (same.mem_iff.mpr mem) holds
  | some b =>
    have same : b = a := Assignments.eq_of_mem
      (same.mem_iff.mp (List.mem_of_find?_eq_some search)) mem
      ((only b (List.find?_some search)).trans named.symm)
    exact none b search (decide_eq_true (same ▸ nonempty))

theorem observedAt_of_sample (taken : metrics.bind (·.sample observedAt) = some current) :
    current.observedAt = observedAt := by
  obtain ⟨metrics, _, taken⟩ := Option.bind_eq_some_iff.mp taken
  unfold Metrics.sample at taken
  split at taken
  · split at taken <;> cases taken
    rfl
  · cases taken

theorem wp_evaluate (same : ∀ d : Direction, d.since desk.memory = d.since before)
    (own : assignment.instanceID = o.instanceID) (known : o.assignment = some assignment)
    (sample : o.sample = some current) (at_ : current.observedAt = o.observedAt)
    (rate : o.rate current = some (dropRate previous current))
    (early : (config.dedicated assignment.tenant = true →
      ((config.natConfig assignment.tenant).instanceTypeLadder.findIdx?
        (· = assignment.instanceType)).isSome = true →
      assignment.lastScaleAt.any
        (current.observedAt - · < (config.natConfig assignment.tenant).cooldown) = false → False) →
      After config o before desk.memory) :
    wp (supervision config (Permitted config o before) fails)
      (fun _ after => After config o before after.memory)
      (evaluate config assignment previous current) desk := by
  refine wp_ite (fun undedicated => early fun dedicated _ _ => undedicated dedicated) fun _ => ?_
  dsimp only
  split
  · rename_i missing
    refine early fun _ placed _ => ?_
    rw [missing] at placed
    cases placed
  rename_i index placed
  refine wp_ite (fun cooling => early fun _ _ cooled => ?_) fun _ => ?_
  · rw [cooling] at cooled
    cases cooled
  · exact wp_scale same own known sample at_ rate placed

theorem wp_observe (desk : Desk) (sample : o.sample = metrics.bind (·.sample o.observedAt))
    (previous : o.previous = desk.memory.metrics o.instanceID)
    (assignment : o.assignment = desk.records.get o.instanceID)
    (attentive : desk.memory.opened o.instanceID = true → ∀ current ∈ o.sample,
      Usable config desk.memory desk.records o.instanceID current) :
    wp (supervision config (Permitted config o desk.memory)
        fun memory => memory.opened o.instanceID = false)
      (fun _ after => After config o desk.memory after.memory)
      (observe o.instanceID metrics o.observedAt) desk := by
  refine wp_reading ?_
  rw [← sample]
  cases taken : o.sample with
  | none =>
    exact after_closed fun _ _ _ => rfl
  | some current =>
    have early : (Usable config desk.memory desk.records o.instanceID current → False) →
        After config o desk.memory (desk.memory.setMetrics o.instanceID current) := by
      intro unusable
      refine after_idle (fun d => d.since_setMetrics _ _ _) ?_
      refine Bool.eq_false_iff.mpr fun opened => ?_
      exact unusable (attentive opened current taken)
    have at_ : current.observedAt = o.observedAt := observedAt_of_sample (sample.symm.trans taken)
    refine wp_remembering ?_
    rw [← previous]
    cases before : o.previous with
    | none =>
      refine early fun ready => ?_
      obtain ⟨last, there, _⟩ := ready.newer
      rw [← previous, before] at there
      cases there
    | some last =>
      refine wp_ite (fun stale => early fun ready => ?_) fun fresh => ?_
      · obtain ⟨found, there, newer, counted⟩ := ready.newer
        rw [← previous, before] at there
        cases there
        rcases stale with stale | reset
        · exact absurd newer (not_lt.mpr stale)
        · exact absurd counted (not_le.mpr reset)
      · obtain ⟨newer, counted⟩ := not_or.mp fresh
        have rate : o.rate current = some (dropRate last current) := by
          rw [Observation.rate, before, Option.bind_some,
            if_pos ⟨not_le.mp newer, not_lt.mp counted⟩]
        refine wp_loading (wp_ranging fun order same => ?_)
          fun closed _ => after_idle (fun d => d.since_setMetrics _ _ _) closed
        split
        · rename_i none
          refine early fun ready => ?_
          obtain ⟨a, found, nonempty, first, kept, _⟩ := ready.known
          refine picked_of_get found nonempty ?_ ?_ same none
          · exact decide_eq_true ⟨(Assignments.get_eq_some.mp found).2, first, by simp [kept]⟩
          · exact fun b holds => (of_decide_eq_true holds).1
        rename_i found picked
        obtain ⟨mem, wanted⟩ := mem_of_pick picked same
        have own : found.instanceID = o.instanceID := (of_decide_eq_true wanted).1
        have stored : desk.records.get o.instanceID = some found :=
          Assignments.get_eq_some.mpr ⟨mem, own⟩
        refine wp_configured (wp_evaluate (fun d => d.since_setMetrics _ _ _) own
          (assignment.trans stored)
          taken at_ rate fun unfit => early fun ready => ?_)
        obtain ⟨a, there, _, _, _, dedicated, placed, cooled⟩ := ready.known
        rw [stored] at there
        cases there
        exact unfit dedicated placed cooled

end

/-! ## Runs -/

/-- What is taken down of a call of `Observe`. -/
def State.observation (s : State) (id : String) (metrics : Option Metrics) (observedAt : Time) :
    Observation :=
  ⟨id, observedAt, metrics.bind (·.sample observedAt), s.memory.metrics id, s.view.records.get id⟩

/-- Write down what an observation found. -/
def takeDown (s : State) : Label → State → List Observation → List Observation
  | .begin (.observe id metrics observedAt), _, history =>
    s.observation id metrics observedAt :: history
  | _, _, history => history

/-- The manager with its observations so far. -/
def observed (E : Environment) (config : Config) : Machine (State × List Observation) Label :=
  (manager E config).watched [] takeDown

/-- The configuration stays. -/
def steady : Label → Bool
  | .configure _ => false
  | _ => true

/-- While a window of the instance is open, a complete observation is compared with the
thresholds. -/
def evaluated (noted : State × List Observation) : Label → Bool
  | .begin (.observe id metrics observedAt) =>
    !noted.1.memory.opened id || (metrics.bind (·.sample observedAt)).all
      (usable noted.1.config noted.1.memory noted.1.view.records id)
  | .perform (.fail _) =>
    match noted.1.running with
    | some (.observe id _ _, .perform .assignments _) => !noted.1.memory.opened id
    | _ => true
  | _ => true

/-- Open windows are justified by the observations since. -/
def Windows (config : Config) (memory : Memory) (history : List Observation) : Prop :=
  ∀ (d : Direction) (id : String) (began : Time), d.since memory id = some began →
    Held config d id began history

/-- What a running method may claim, when it may find the assignments unreadable, and what it
makes of the windows. -/
inductive Duty (config : Config) :
    List Observation → Call → (StoreCall → Prop) → (Memory → Prop) → (Memory → Prop) → Prop
  | observing {before : Memory} {rest : List Observation} (o : Observation)
      (metrics : Option Metrics) : Windows config before rest →
      Duty config (o :: rest) (.observe o.instanceID metrics o.observedAt)
        (Permitted config o before) (fun memory => memory.opened o.instanceID = false)
        (After config o before)
  | other {before : Memory} {history : List Observation} {call : Call} :
      (∀ id metrics observedAt, call ≠ .observe id metrics observedAt) →
      Windows config before history →
      Duty config history call (fun _ => True) (fun _ => True) (Forgets before)

/-- The windows are justified, also during a call. -/
structure Engaged (config : Config) (noted : State × List Observation) : Prop where
  unchanged : noted.1.config = config
  idle : noted.1.running = none → Windows config noted.1.memory noted.2
  busy : ∀ call program, noted.1.running = some (call, program) →
    ∃ may fails post, Duty config noted.2 call may fails post ∧
      wp (supervision config may fails) (fun _ after => post after.memory) program
        ⟨noted.1.memory, noted.1.view.records⟩

section

variable {E : Environment} {config : Config} {s s' : State} {history : List Observation}
  {label : Label} {call : Call}

theorem Duty.windows {may : StoreCall → Prop} {fails post : Memory → Prop}
    (duty : Duty config history call may fails post) {memory : Memory} (done : post memory) :
    Windows config memory history := by
  intro d id began opened
  cases duty with
  | @observing before rest o metrics windows =>
    by_cases own : id = o.instanceID
    · subst own
      obtain ⟨shows, since | rfl⟩ := done.own d began opened
      · exact (windows d _ began since).cons shows
      · exact held_singleton rest shows
    · rw [done.others d id own] at opened
      exact (windows d id began opened).cons_other own
  | other _ windows => exact windows d id began (done d id began opened)

theorem Engaged.began (engaged : Engaged config (s, history)) (free : s.running = none)
    (ok : evaluated (s, history) (.begin call) = true) {view : View}
    (same : view.records = s.view.records) :
    Engaged config ({ s with running := some (call, call.program), view },
      takeDown s (.begin call) s' history) := by
  refine ⟨engaged.unchanged, fun none => (Option.some_ne_none _ none).elim, ?_⟩
  rintro _ _ ⟨⟩
  have windows := engaged.idle free
  have calm : ∀ {program : Code Unit}, Calm config program →
      (∀ id metrics observedAt, call ≠ .observe id metrics observedAt) →
      ∃ may fails post, Duty config history call may fails post ∧
        wp (supervision config may fails) (fun _ after => post after.memory) program
          ⟨s.memory, view.records⟩ :=
    fun calm other => ⟨_, _, _, .other other windows, calm ⟨s.memory, view.records⟩⟩
  cases call with
  | prepareSubnet tenant subnetID => exact calm (calm_prepareSubnet _ _) (by rintro _ _ _ ⟨⟩)
  | replaceInstance id => exact calm (calm_replaceInstance _) (by rintro _ _ _ ⟨⟩)
  | reconcile => exact calm calm_reconcile (by rintro _ _ _ ⟨⟩)
  | observe id metrics observedAt =>
    refine ⟨_, _, _, .observing (s.observation id metrics observedAt) metrics windows, ?_⟩
    have known : (s.observation id metrics observedAt).assignment = view.records.get id :=
      congrArg (·.get id) same.symm
    refine wp_observe (o := s.observation id metrics observedAt) ⟨s.memory, view.records⟩ rfl rfl
      known ?_
    intro opened current sample
    have ok : (!s.memory.opened id || (metrics.bind (·.sample observedAt)).all
      (usable s.config s.memory s.view.records id)) = true := ok
    have opened : s.memory.opened id = true := opened
    rw [opened, Bool.not_true, Bool.false_or, Option.all_eq_true] at ok
    have ready := usable_iff.mp (ok current sample)
    rw [← engaged.unchanged, same]
    exact ready

theorem Engaged.performed (engaged : Engaged config (s, history)) {action : Action}
    {next : Reply action → Code Unit} {outcome : Outcome} {after : State} {reply : Reply action}
    (runs : s.running = some (call, .perform action next))
    (performed : s.perform E action outcome = some (after, reply))
    (ok : evaluated (s, history) (.perform outcome) = true) :
    Engaged config ({ after with running := some (call, next reply) }, history) := by
  obtain ⟨may, fails, post, duty, holds⟩ := engaged.busy call _ runs
  refine ⟨?_, fun none => (Option.some_ne_none _ none).elim, ?_⟩
  · exact (perform_undisturbed performed).config.trans engaged.unchanged
  · rintro _ _ ⟨⟩
    refine ⟨may, fails, post, duty, of_demands engaged.unchanged performed ?_ holds⟩
    rintro error rfl rfl
    cases duty with
    | observing o metrics windows =>
      simp only [evaluated, runs] at ok
      simpa using ok
    | other => trivial

theorem not_busy {P : Call → Code Unit → Prop} (call : Call) (program : Code Unit)
    (runs : (none : Option (Call × Code Unit)) = some (call, program)) : P call program :=
  (Option.some_ne_none _ runs.symm).elim

theorem Engaged.step (engaged : Engaged config (s, history))
    (ok : steady label = true ∧ evaluated (s, history) label = true)
    (moved : Moved E s label s') : Engaged config (s', takeDown s label s' history) := by
  cases moved with
  | began call free => exact engaged.began free ok.2 rfl
  | performed runs performed => exact engaged.performed runs performed ok.2
  | returned call runs =>
    obtain ⟨may, fails, post, duty, holds⟩ := engaged.busy call _ runs
    have windows := duty.windows holds
    cases call <;> exact ⟨engaged.unchanged, fun _ => windows, not_busy⟩
  | failed runs =>
    obtain ⟨may, fails, post, duty, holds⟩ := engaged.busy _ _ runs
    exact ⟨engaged.unchanged, fun _ => duty.windows holds, not_busy⟩
  | crashed =>
    refine ⟨engaged.unchanged, fun _ d id began opened => ?_, not_busy⟩
    cases d <;> cases opened
  | configured config => cases ok.1
  | ticked | abandoned | removed | inserted => exact ⟨engaged.unchanged, engaged.idle, engaged.busy⟩

theorem engaged_of_reaches {noted : State × List Observation} (reached : (observed E config).Reaches
      (fun noted label => steady label = true ∧ evaluated noted label = true) noted) :
    Engaged config noted := by
  have start : Engaged config (observed E config).start := by
    refine ⟨rfl, fun _ d id began opened => ?_, not_busy⟩
    cases d <;> cases opened
  refine reached.invariant start ?_
  intro noted noted' label _ engaged ok stepped
  obtain ⟨s', moved, rfl⟩ := Machine.step_of_watched stepped
  exact engaged.step ok (step_moved moved)

/-- **A replacement comes after sustained load.** In every run with one configuration in
which, while a window is open, the complete observations of the instance are compared with
the thresholds: when `Observe` claims a replacement of another size, the last observations
show the load for that size over the whole window. -/
theorem replaced_after_sustained_load
    (reached : (observed E config).Reaches
      (fun noted label => steady label = true ∧ evaluated noted label = true) (s, history))
    {id : String} {metrics : Option Metrics} {observedAt : Time} {program : Code Unit}
    (runs : s.running = some (.observe id metrics observedAt, program)) {current : Assignment}
    {newID instanceType : String} {createdAt : Time}
    (starts : program.next? =
      some (.store (.claimReplacement current newID instanceType createdAt))) :
    createdAt = observedAt ∧ current.instanceID = id ∧
      ∃ (d : Direction) (index : Nat),
        (config.natConfig current.tenant).instanceTypeLadder.findIdx?
          (· = current.instanceType) = some index ∧
        d.target (config.natConfig current.tenant).instanceTypeLadder index =
          some instanceType ∧
        Sustained config d current.tenant id observedAt history := by
  obtain ⟨may, fails, post, duty, holds⟩ := (engaged_of_reaches reached).busy _ _ runs
  cases program with
  | pure | fail => cases starts
  | perform action next =>
    cases starts
    cases duty with
    | other different => exact absurd rfl (different _ _ _)
    | observing o metrics windows =>
      obtain ⟨at_, own, d, index, began, placed, target, shows, since, long⟩ := holds.1
      exact ⟨at_, own, d, index, placed, target,
        (windows d _ began since).sustained shows long⟩

end

/-! ## A report that does not count -/

/-- A window of ten seconds for scaling up. -/
def windowConfig : Config where
  nat tenant :=
    if tenant = "acme" then
      some { group := "nat", instanceTypeLadder := ["small", "large"], scaleUpWindow := 10 }
    else none
  groups _ _ := { template := "router", instanceType := "small" }

/-- A report with a load and a number of drops. -/
def report (cpu : Rat) (drops : Nat) : Metrics :=
  { networkInterface := some ⟨drops, 0⟩, cpuUsage := some cpu, conntrackCount := some 0
    conntrackMax := some 1 }

/-- The first report of the NAT instance, and one that is compared with the thresholds and
opens a window. -/
def opensWindow : List Label :=
  prepares ++ runs (.observe "nat0" (some (report 1 5)) 1) [.ok, .ok] ++ [.done] ++
    runs (.observe "nat0" (some (report 1 5)) 2)
      [.ok, .ok, .ok, .order [nat0Routed], .ok, .ok, .ok, .ok] ++ [.done]

/-- The observation that ends the window. -/
def endsWindow (drops : Nat) : List Label :=
  runs (.observe "nat0" (some (report 1 drops)) 12)
    [.ok, .ok, .ok, .order [nat0Routed], .ok, .ok, .ok, .id "nat1"]

/-- In between the load is low, but the counter of drops was reset. -/
def quietReport : List Label :=
  runs (.observe "nat0" (some (report 0 0)) 6) [.ok, .ok] ++ [.done]

/-- Another report of full load in the window. -/
def busyReport : List Label :=
  runs (.observe "nat0" (some (report 1 5)) 6)
    [.ok, .ok, .ok, .order [nat0Routed], .ok, .ok, .ok] ++ [.done]

/-- `Observe` is about to claim a larger replacement. -/
def claimsLarger (s : State) : Bool :=
  match s.running with
  | some (.observe id _ observedAt, .perform (.store (.claimReplacement current _ type _)) _) =>
    id = "nat0" && observedAt = 12 && current = nat0Routed && type = "large"
  | _ => false

theorem of_claimsLarger {s : State} (claims : claimsLarger s = true) :
    ∃ metrics program newID createdAt, s.running = some (.observe "nat0" metrics 12, program) ∧
      program.next? = some (.store (.claimReplacement nat0Routed newID "large" createdAt)) := by
  unfold claimsLarger at claims
  split at claims
  · rename_i runs
    simp only [Bool.and_eq_true, decide_eq_true_eq] at claims
    obtain ⟨⟨⟨rfl, rfl⟩, rfl⟩, rfl⟩ := claims
    exact ⟨_, _, _, _, runs, rfl⟩
  · cases claims

theorem Sustained.before_last {config : Config} {d : Direction} {tenant id : String}
    {observedAt : Time} {history earlier : List Observation} {last o : Observation}
    (sustained : Sustained config d tenant id observedAt history)
    (split : history.filter (·.instanceID = id) = last :: o :: earlier) : Shows config d o := by
  obtain ⟨last', recent, first, rest, split', _, _, shown⟩ := sustained
  have tail : o :: earlier = recent ++ first :: rest :=
    (List.cons.inj (split.symm.trans split')).2
  cases recent with
  | nil | cons =>
    cases tail
    exact shown _ (by simp)

/-- The report of low load between the two others. -/
def quiet : Observation where
  instanceID := "nat0"
  observedAt := 6
  sample := (report 0 0).sample 6
  previous := (report 1 5).sample 2
  assignment := some nat0Routed

theorem not_shows_quiet : ¬ Shows windowConfig .up quiet := by
  rintro ⟨a, known, current, sample, cpu | conntrack | ⟨rate, known, _⟩⟩
  · cases known
    cases sample
    exact absurd cpu (by decide +kernel)
  · cases known
    cases sample
    exact absurd conntrack (by decide +kernel)
  · cases sample
    cases known

/-- A replacement is claimed although a report within the window was quiet. -/
theorem replaced_after_quiet_report :
    ∃ (s : State) (history : List Observation),
      (observed lab windowConfig).Reaches (fun _ label => steady label = true) (s, history) ∧
      (∃ metrics program newID createdAt,
        s.running = some (.observe "nat0" metrics 12, program) ∧
        program.next? = some (.store (.claimReplacement nat0Routed newID "large" createdAt))) ∧
      ¬ ∃ (d : Direction) (index : Nat),
        (windowConfig.natConfig nat0Routed.tenant).instanceTypeLadder.findIdx?
          (· = nat0Routed.instanceType) = some index ∧
        d.target (windowConfig.natConfig nat0Routed.tenant).instanceTypeLadder index =
          some "large" ∧
        Sustained windowConfig d nat0Routed.tenant "nat0" 12 history := by
  have ran : ((observed lab windowConfig).runWithin (fun _ label => steady label)
      (observed lab windowConfig).start (opensWindow ++ quietReport ++ endsWindow 0)).any
        (fun noted => claimsLarger noted.1 &&
          (noted.2.filter (·.instanceID = "nat0"))[1]? = some quiet) = true := by
    decide +kernel
  obtain ⟨⟨s, history⟩, reached, found⟩ := Machine.exists_reaches_of_runWithin _ ran
  have found := Bool.and_eq_true_iff.mp found
  refine ⟨s, history, reached, of_claimsLarger found.1, ?_⟩
  rintro ⟨d, index, placed, target, sustained⟩
  have first : index = 0 := by
    have computed : (windowConfig.natConfig nat0Routed.tenant).instanceTypeLadder.findIdx?
        (· = nat0Routed.instanceType) = some 0 := by decide +kernel
    cases placed
    rfl
  subst first
  have second := of_decide_eq_true found.2
  cases d with
  | down => cases target
  | up =>
    cases split : history.filter (·.instanceID = "nat0") with
    | nil =>
      rw [split] at second
      cases second
    | cons last earlier =>
      cases earlier with
      | nil =>
        rw [split] at second
        cases second
      | cons o earlier =>
        rw [split] at second
        cases second
        exact not_shows_quiet (sustained.before_last split)

theorem replaced_after_busy_reports :
    ∃ (s : State) (history : List Observation),
      (observed lab windowConfig).Reaches
        (fun noted label => steady label = true ∧ evaluated noted label = true) (s, history) ∧
      ∃ d index, Direction.target d ["small", "large"] index = some "large" ∧
        Sustained windowConfig d "acme" "nat0" 12 history := by
  have ran : ((observed lab windowConfig).runWithin
      (fun noted label => steady label && evaluated noted label)
      (observed lab windowConfig).start (opensWindow ++ busyReport ++ endsWindow 5)).any
        (fun noted => claimsLarger noted.1) = true := by
    decide +kernel
  obtain ⟨⟨s, history⟩, reached, found⟩ := Machine.exists_reaches_of_runWithin _ ran
  have reached := reached.mono fun noted label ok => Bool.and_eq_true_iff.mp ok
  obtain ⟨metrics, program, newID, createdAt, runs, starts⟩ := of_claimsLarger found
  obtain ⟨_, _, d, index, _, target, sustained⟩ := replaced_after_sustained_load reached runs starts
  exact ⟨s, history, reached, d, index, target, sustained⟩

end Nstance.NAT
