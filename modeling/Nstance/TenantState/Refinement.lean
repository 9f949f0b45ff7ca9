import Nstance.TenantState.Changes
import Nstance.TenantState.Compliance

/-!
# The machine follows the protocol

Along every run the history of each tenant is a path of the protocol, the stored entry is the
replay of its writes, and the operation that holds the lock has only moves left to make
(`Lawful`). A condition on the events a step may record carries over to the whole history of
a run that meets it (`always_of_reaches`).
-/

namespace Nstance.TenantState

open Interaction
open Program hiding pure bind

/-- A view shows what is stored and recorded of a tenant. -/
structure Follows (s : State) (tenant : Tenant) (v : View) : Prop where
  entry : v.entry = s.stored tenant
  replay : s.stored tenant = entryOf (s.history tenant)
  rows : s.onDemand tenant = rowsOf (s.history tenant)
  traces : Traces (s.history tenant) v.stage
  current : v.fresh = true → s.cached tenant = s.stored tenant

/-- The history of a tenant follows the protocol, and whoever holds its lock
will keep to it. -/
inductive Lawful (s : State) (tenant : Tenant) : Prop where
  | idle (free : s.running tenant = none)
      (follows : Follows s tenant ⟨s.stored tenant, .free, false⟩)
  | busy (operation : Operation) (program : Code Unit)
      (runs : s.running tenant = some (operation, program))
      (held : holder (s.history tenant) = some operation) (v : View)
      (follows : Follows s tenant v) (complies : wp contract (fun _ _ => True) program v)

/-! ## One event -/

section

variable {s s' : State} {tenant : Tenant} {v : View} {event : Event} {stage : Stage} {u : Update}

section

variable (follows : Follows s tenant v) (move : Moves v.stage v.entry event stage)
  (observed : Observed (s.history tenant) event)
include follows move observed

theorem Follows.extend {fresh : Bool} (history : s'.history tenant = event :: s.history tenant)
    (stored : s'.stored tenant = entryOf (event :: s.history tenant))
    (rows : s'.onDemand tenant = rowsOf (event :: s.history tenant))
    (current : fresh = true → s'.cached tenant = s'.stored tenant) :
    Follows s' tenant ⟨s'.stored tenant, stage, fresh⟩ where
  entry := rfl
  replay := by rw [history, stored]
  rows := by rw [history, rows]
  traces := by
    rw [history]
    refine .cons follows.traces ?_ observed
    rw [← follows.replay, ← follows.entry]
    exact move
  current := current

theorem Follows.record (inert : entryOf (event :: s.history tenant) = entryOf (s.history tenant))
    (rowless : rowsOf (event :: s.history tenant) = rowsOf (s.history tenant)) :
    Follows (s.record tenant event) tenant { v with stage := stage } := by
  have extended : Follows (s.record tenant event) tenant ⟨s.stored tenant, stage, v.fresh⟩ :=
    follows.extend move observed (Function.update_self ..) (follows.replay.trans inert.symm)
      (follows.rows.trans rowless.symm) follows.current
  rwa [← follows.entry] at extended

end

/-- What holds for a tenant holds wherever its own part of the state is the
same and its cached entry is the old one or a current one. -/
theorem Follows.congr (follows : Follows s tenant v) (stored : s'.stored tenant = s.stored tenant)
    (rows : s'.onDemand tenant = s.onDemand tenant)
    (history : s'.history tenant = s.history tenant)
    (cached : v.fresh = true →
      s'.cached tenant = s.cached tenant ∨ s'.cached tenant = s.stored tenant) :
    Follows s' tenant v where
  entry := by rw [stored, follows.entry]
  replay := by rw [stored, history, follows.replay]
  rows := by rw [rows, history, follows.rows]
  traces := by
    rw [history]
    exact follows.traces
  current := by
    intro fresh
    rw [stored]
    rcases cached fresh with same | reread
    · rw [same, follows.current fresh]
    · exact reread

theorem Follows.install (follows : Follows s tenant v) :
    Follows s.install tenant { v with fresh := true } where
  entry := follows.entry
  replay := follows.replay
  rows := follows.rows
  traces := follows.traces
  current := fun _ => rfl

theorem entryOf_write (s : State) {after : Entry}
    (replay : s.stored tenant = entryOf (s.history tenant))
    (writes : u.mutate (s.stored tenant) = .write after) :
    entryOf (.wrote u :: s.history tenant) = after := by
  show u.apply (entryOf (s.history tenant)) = after
  rw [← replay]
  exact Update.apply_of_write writes

theorem Follows.write {after : Entry} (follows : Follows s tenant v)
    (writes : u.mutate (s.stored tenant) = .write after)
    (move : Moves v.stage v.entry (.wrote u) stage) :
    Follows (s.write tenant u after) tenant ⟨after, stage, false⟩ := by
  have stored : (s.write tenant u after).stored tenant = after := Function.update_self ..
  have extended : Follows (s.write tenant u after) tenant
      ⟨(s.write tenant u after).stored tenant, stage, false⟩ :=
    follows.extend move trivial (Function.update_self ..)
      (stored.trans (entryOf_write s follows.replay writes).symm) follows.rows
      nofun
  rwa [stored] at extended

end

/-! ## One action -/

section

variable {s after : State} {tenant : Tenant} {v : View} {outcome : Outcome}

theorem perform_update_follows {u : Update} {reply : Except Err Updated}
    {Q : Except Err Updated → View → Prop} (follows : Follows s tenant v) (demanded : v.Updates u Q)
    (performed : s.perform tenant (.update u) outcome = some (after, reply)) :
    ∃ w, Follows after tenant w ∧ Q reply w := by
  obtain ⟨entry, stage, fresh⟩ := v
  obtain rfl : entry = s.stored tenant := follows.entry
  obtain ⟨failed, written⟩ := demanded
  cases outcome with
  | ok =>
    simp only [State.perform] at performed
    cases effect : u.mutate (s.stored tenant) with
    | unchanged =>
      rw [effect] at performed written
      cases performed
      exact ⟨_, follows.install, written⟩
    | write entry =>
      rw [effect] at performed written
      cases performed
      obtain ⟨stage, move, answered, _⟩ := written
      exact ⟨_, (follows.write effect move).install, answered⟩
    | panic =>
      rw [effect] at performed
      cases performed
      exact ⟨_, follows, failed _⟩
  | fail error =>
    cases performed
    exact ⟨_, follows, failed error⟩
  | lost error =>
    simp only [State.perform] at performed
    cases effect : u.mutate (s.stored tenant) with
    | write entry =>
      rw [effect] at performed written
      cases performed
      obtain ⟨stage, move, _, lost⟩ := written
      exact ⟨_, follows.write effect move, lost error⟩
    | _ => simp [effect] at performed
  | insert => simp [State.perform] at performed

/-- **An action does what its contract says.** -/
theorem perform_follows {action : Action} {reply : Reply action} {Q : Reply action → View → Prop}
    (follows : Follows s tenant v) (demanded : demands action Q v)
    (performed : s.perform tenant action outcome = some (after, reply)) :
    ∃ w, Follows after tenant w ∧ Q reply w := by
  cases action with
  | update u => exact perform_update_follows follows demanded performed
  | transition | isAsleep =>
    obtain ⟨fresh, holds⟩ := demanded
    cases outcome <;> cases performed
    rw [follows.entry, ← follows.current fresh] at holds
    exact ⟨v, follows, holds⟩
  | now =>
    cases outcome <;> cases performed
    exact ⟨v, follows, demanded s.now⟩
  | ctxErr | callback => cases outcome <;> cases performed <;> exact ⟨v, follows, demanded _⟩
  | call call =>
    obtain ⟨stage, move, holds⟩ := demanded.2 reply
    cases outcome <;> cases performed <;> exact ⟨_, follows.record move trivial rfl rfl, holds⟩
  | enter routine =>
    obtain ⟨stage, move, holds⟩ := demanded
    cases outcome <;> cases performed
    exact ⟨_, follows.record move trivial rfl rfl, holds⟩
  | hasOnDemandInstances =>
    obtain ⟨failed, answered⟩ := demanded
    cases outcome with
    | ok =>
      cases performed
      obtain ⟨stage, move, holds⟩ := answered (!(s.onDemand tenant).isEmpty)
      refine ⟨_, follows.record move ?_ rfl rfl, holds⟩
      show (!(s.onDemand tenant).isEmpty) = !(rowsOf (s.history tenant)).isEmpty
      rw [follows.rows]
    | fail error =>
      cases performed
      exact ⟨v, follows, failed error⟩
    | _ => simp [State.perform] at performed
  | createInstance =>
    obtain ⟨failed, inserted⟩ := demanded
    cases outcome with
    | insert id result =>
      cases performed
      obtain ⟨stage, move, holds⟩ := inserted id reply
      refine ⟨_, follows.extend move trivial (Function.update_self ..) follows.replay ?_
        follows.current, ?_⟩
      · show Function.update s.onDemand tenant _ tenant = id :: rowsOf (s.history tenant)
        rw [Function.update_self, follows.rows]
      · rw [follows.entry] at holds
        exact holds
    | fail error =>
      cases performed
      exact ⟨v, follows, failed error⟩
    | _ => simp [State.perform] at performed

end

/-! ## One step -/

/-- A step that leaves a tenant alone: while its lock is held, at most the
cached entry is refreshed. -/
structure Same (s s' : State) (tenant : Tenant) : Prop where
  stored : s'.stored tenant = s.stored tenant
  rows : s'.onDemand tenant = s.onDemand tenant
  history : s'.history tenant = s.history tenant
  running : s'.running tenant = s.running tenant
  cached : s.running tenant ≠ none →
    s'.cached tenant = s.cached tenant ∨ s'.cached tenant = s.stored tenant

/-- What a step does to one tenant. -/
inductive Touches (s s' : State) (tenant : Tenant) : Label → Prop where
  | same {label : Label} (same : Same s s' tenant) : Touches s s' tenant label
  | acquire (operation : Operation) (asks : s.asks tenant operation = true)
      (free : s.running tenant = none) (after : s' = s.acquire true tenant operation) :
      Touches s s' tenant (.acquire tenant operation)
  | perform {outcome : Outcome} {operation : Operation} {action : Action}
      {next : Reply action → Code Unit} {after : State} {reply : Reply action}
      (runs : s.running tenant = some (operation, .perform action next))
      (performed : s.perform tenant action outcome = some (after, reply))
      (result : s' = { after with
        running := Function.update after.running tenant (some (operation, next reply)) }) :
      Touches s s' tenant (.perform tenant outcome)
  | release {label : Label} (ends : label = .crash ∨ label = .finish tenant)
      (busy : s.running tenant ≠ none) (stored : s'.stored tenant = s.stored tenant)
      (rows : s'.onDemand tenant = s.onDemand tenant)
      (history : s'.history tenant = .released :: s.history tenant)
      (running : s'.running tenant = none) : Touches s s' tenant label
  | remove (id : String) (stored : s'.stored tenant = s.stored tenant)
      (cached : s'.cached tenant = s.cached tenant)
      (rows : s'.onDemand tenant = (s.onDemand tenant).erase id)
      (history : s'.history tenant = .removed id :: s.history tenant)
      (running : s'.running tenant = s.running tenant) :
      Touches s s' tenant (.remove tenant id)

/-- Where an event comes from. -/
inductive Cause (s : State) (tenant : Tenant) : Label → Event → Prop where
  | acquire (operation : Operation) (asks : s.asks tenant operation = true) :
      Cause s tenant (.acquire tenant operation) (.acquired operation)
  | perform {operation : Operation} {action : Action} {next : Reply action → Code Unit}
      {outcome : Outcome} {event : Event}
      (runs : s.running tenant = some (operation, .perform action next))
      (records : Records action event) : Cause s tenant (.perform tenant outcome) event
  | release {label : Label} (ends : label = .crash ∨ label = .finish tenant) :
      Cause s tenant label .released
  | remove (id : String) : Cause s tenant (.remove tenant id) (.removed id)

theorem Records.lockless {action : Action} {event : Event} (records : Records action event)
    (before : History) : holder (event :: before) = holder before := by
  cases records <;> rfl

section

variable {s s' after : State} {tenant other : Tenant} {label : Label}

theorem Same.refl (s : State) (tenant : Tenant) : Same s s tenant :=
  ⟨rfl, rfl, rfl, rfl, fun _ => .inl rfl⟩

theorem Same.record (different : other ≠ tenant) (event : Event) :
    Same s (s.record tenant event) other :=
  ⟨rfl, rfl, Function.update_of_ne different .., rfl, fun _ => .inl rfl⟩

theorem Same.write (different : other ≠ tenant) (u : Update) (entry : Entry) :
    Same s (s.write tenant u entry) other :=
  ⟨Function.update_of_ne different .., rfl, Function.update_of_ne different .., rfl,
    fun _ => .inl rfl⟩

theorem Same.install (same : Same s s' tenant) : Same s s'.install tenant :=
  ⟨same.stored, same.rows, same.history, same.running, fun _ => .inr same.stored⟩

variable {action : Action} {outcome : Outcome} {allowed : State → Label → Prop}

theorem Effect.same (effect : Effect s tenant action outcome after) (different : other ≠ tenant) :
    Same s after other := by
  cases effect with
  | wrote => exact (Same.write different _ _).install
  | reread => exact (Same.refl s other).install
  | lost => exact .write different _ _
  | inserted => exact ⟨rfl, Function.update_of_ne different .., Function.update_of_ne different ..,
      rfl, fun _ => .inl rfl⟩
  | recorded => exact .record different _
  | kept => exact .refl s other

theorem Effect.history (effect : Effect s tenant action outcome after) :
    after.history tenant = s.history tenant ∨
      ∃ event, after.history tenant = event :: s.history tenant ∧ Records action event := by
  cases effect with
  | wrote | lost => exact .inr ⟨_, Function.update_self .., .update _⟩
  | inserted id => exact .inr ⟨_, Function.update_self .., .inserted id⟩
  | recorded records => exact .inr ⟨_, Function.update_self .., records⟩
  | reread | kept => exact .inl rfl

theorem Same.acquire (different : other ≠ tenant) (operation : Operation) :
    Same s (s.acquire true tenant operation) other :=
  ⟨rfl, rfl, Function.update_of_ne different .., Function.update_of_ne different ..,
    fun _ => .inl rfl⟩

/-- **What a step can do to a tenant.** -/
theorem step_touches (stepped : s.step true label = some s') (tenant : Tenant) :
    Touches s s' tenant label := by
  cases step_change stepped with
  | crash =>
    by_cases idle : s.running tenant = none
    · refine .same ⟨rfl, rfl, ?_, idle.symm, fun busy => absurd idle busy⟩
      simp [State.crash, idle]
    · refine .release (.inl rfl) idle rfl rfl ?_ rfl
      simp [State.crash, Option.isSome_iff_ne_none, idle]
  | @acquire owner operation free asks =>
    by_cases different : tenant = owner
    · subst different
      exact .acquire operation asks free rfl
    · exact .same (.acquire different operation)
  | @perform owner _ _ _ _ _ _ runs performed =>
    by_cases different : tenant = owner
    · subst different
      exact .perform runs performed rfl
    have same := (perform_effect performed).same different
    exact .same ⟨same.stored, same.rows, same.history,
      (Function.update_of_ne different ..).trans same.running, same.cached⟩
  | @finish owner busy =>
    by_cases different : tenant = owner
    · subst different
      exact .release (.inr rfl) busy rfl rfl (Function.update_self ..) (Function.update_self ..)
    · exact .same ⟨rfl, rfl, Function.update_of_ne different ..,
        Function.update_of_ne different .., fun _ => .inl rfl⟩
  | remove owner id =>
    by_cases different : tenant = owner
    · subst different
      exact .remove id rfl rfl (Function.update_self ..) (Function.update_self ..) rfl
    · exact .same ⟨rfl, Function.update_of_ne different .., Function.update_of_ne different ..,
        rfl, fun _ => .inl rfl⟩
  | refresh => exact .same ⟨rfl, rfl, rfl, rfl, fun _ => .inr rfl⟩
  | _ => exact .same ⟨rfl, rfl, rfl, rfl, fun _ => .inl rfl⟩

theorem step_history (stepped : s.step true label = some s') (tenant : Tenant) :
    s'.history tenant = s.history tenant ∨
      ∃ event, s'.history tenant = event :: s.history tenant ∧ Cause s tenant label event := by
  cases step_touches stepped tenant with
  | same same => exact .inl same.history
  | acquire operation asks free after =>
    subst after
    exact .inr ⟨_, Function.update_self .., .acquire operation asks⟩
  | perform runs performed result =>
    subst result
    rcases (perform_effect performed).history with same | ⟨event, history, records⟩
    · exact .inl same
    · exact .inr ⟨event, history, .perform runs records⟩
  | release ends busy stored rows history running => exact .inr ⟨_, history, .release ends⟩
  | remove id stored cached rows history running => exact .inr ⟨_, history, .remove id⟩

/-! ## Every run -/

theorem Lawful.start (tenant : Tenant) : Lawful (machine true).start tenant :=
  .idle rfl ⟨rfl, rfl, rfl, .nil, nofun⟩

/-- **A step keeps every tenant to the protocol.** -/
theorem Lawful.step (lawful : Lawful s tenant) (stepped : s.step true label = some s') :
    Lawful s' tenant := by
  cases step_touches stepped tenant with
  | same same =>
    cases lawful with
    | idle free follows =>
      refine .idle (same.running.trans free) ?_
      rw [same.stored]
      exact follows.congr same.stored same.rows same.history Bool.noConfusion
    | busy operation program runs held v follows complies =>
      have cached := same.cached (runs ▸ Option.some_ne_none _)
      exact .busy operation program (same.running.trans runs) (same.history ▸ held) v
        (follows.congr same.stored same.rows same.history fun _ => cached) complies
  | acquire operation asks free after =>
    subst after
    have follows : Follows s tenant ⟨s.stored tenant, .free, false⟩ := by
      cases lawful with
      | idle _ follows => exact follows
      | busy operation program runs => exact absurd (free.symm.trans runs) (by simp)
    have history : (s.acquire true tenant operation).history tenant =
      .acquired operation :: s.history tenant := Function.update_self ..
    refine .busy operation _ (Function.update_self ..) (by rw [history]; rfl) _
      (follows.extend (.acquire operation) trivial history follows.replay follows.rows
        Bool.noConfusion) (program_complies operation _ false)
  | perform runs performed result =>
    subst result
    cases lawful with
    | idle free => exact absurd (free.symm.trans runs) (by simp)
    | busy operation program running held v follows complies =>
      cases runs.symm.trans running
      obtain ⟨w, followed, complied⟩ := perform_follows follows complies performed
      refine .busy _ _ (Function.update_self ..) ?_ w
        (followed.congr rfl rfl rfl fun _ => .inl rfl) complied
      rcases (perform_effect performed).history with same | ⟨event, history, records⟩
      · exact (congrArg holder same).trans held
      · exact ((congrArg holder history).trans (records.lockless _)).trans held
  | release ends busy stored rows history running =>
    cases lawful with
    | idle free => exact absurd free busy
    | busy operation program runs held v follows complies =>
      exact .idle running (follows.extend .release trivial history
        (stored.trans follows.replay) (rows.trans follows.rows) Bool.noConfusion)
  | remove id stored cached rows history running =>
    have extend : ∀ {v : View}, Follows s tenant v → Follows s' tenant v := by
      intro v follows
      have extended : Follows s' tenant ⟨s'.stored tenant, v.stage, v.fresh⟩ :=
        follows.extend (.remove id) trivial history (stored.trans follows.replay)
          (rows.trans (congrArg (List.erase · id) follows.rows))
          (fun fresh => (cached.trans (follows.current fresh)).trans stored.symm)
      rwa [stored, ← follows.entry] at extended
    cases lawful with
    | idle free follows =>
      refine .idle (running.trans free) ?_
      rw [stored]
      exact extend follows
    | busy operation program runs held v follows complies =>
      exact .busy operation program (running.trans runs) (by rw [history]; exact held) v
        (extend follows) complies

/-- **Every history of every run follows the protocol.** -/
theorem lawful_of_reaches (reached : (machine true).Reaches allowed s) (tenant : Tenant) :
    Lawful s tenant :=
  reached.invariant (P := fun s => Lawful s tenant) (.start tenant)
    fun _ lawful _ stepped => lawful.step stepped

section

variable (lawful : Lawful s tenant)
include lawful

theorem Lawful.replay : s.stored tenant = entryOf (s.history tenant) := by
  cases lawful with
  | idle _ follows | busy _ _ _ _ _ follows => exact follows.replay

theorem Lawful.rows : s.onDemand tenant = rowsOf (s.history tenant) := by
  cases lawful with
  | idle _ follows | busy _ _ _ _ _ follows => exact follows.rows

theorem Lawful.traces : ∃ stage, Traces (s.history tenant) stage := by
  cases lawful with
  | idle _ follows | busy _ _ _ _ _ follows => exact ⟨_, follows.traces⟩

theorem Lawful.held {operation : Operation} {program : Code Unit}
    (runs : s.running tenant = some (operation, program)) :
    holder (s.history tenant) = some operation := by
  cases lawful with
  | idle free => exact absurd (free.symm.trans runs) (by simp)
  | busy _ _ running held =>
    cases running.symm.trans runs
    exact held

end

theorem always_of_reaches {law : History → Event → Prop}
    (sound : ∀ {s : State} {label : Label} {event : Event}, Lawful s tenant →
      allowed s label → Cause s tenant label event → law (s.history tenant) event)
    (reached : (machine true).Reaches allowed s) : Always law (s.history tenant) := by
  induction reached with
  | start => exact trivial
  | step before ok stepped ih =>
    rcases step_history stepped tenant with same | ⟨event, history, cause⟩
    · rw [same]
      exact ih
    · rw [history]
      exact ⟨sound (lawful_of_reaches before tenant) ok cause, ih⟩

/-! ## Falling asleep -/

theorem Moves.falls_asleep {history : History} {stage after : Stage} {event : Event}
    (move : Moves stage (entryOf history) event after)
    (awake : (entryOf history).asleep = false)
    (asleep : (entryOf (event :: history)).asleep = true) :
    ∃ origin point, stage = .sleeping origin point ∧ Settled point (entryOf history) := by
  cases move with
  | commit wakeAt settled | commitResumed settled => exact ⟨_, _, rfl, settled⟩
  | request wakeAt guarded may awake =>
    rw [entryOf, Entry.asleep, Update.value_requestSleep _ _ awake] at asleep
    exact absurd (awake.symm.trans asleep) Bool.false_ne_true
  | postpone wakeAt guarded may stored => exact absurd (awake.symm.trans stored) Bool.false_ne_true
  | wake wakes engaged =>
    rw [entryOf, Entry.asleep, Update.value_wake engaged] at asleep
    exact absurd asleep Bool.false_ne_true
  | clear => exact absurd asleep Bool.false_ne_true
  | block origin unrecorded =>
    rw [entryOf, Entry.asleep, Update.value_blockTargetRegistration] at asleep
    exact absurd (awake.symm.trans asleep) Bool.false_ne_true
  | _ => exact absurd (awake.symm.trans asleep) Bool.false_ne_true

theorem step_falls_asleep (lawful : Lawful s tenant) (stepped : s.step true label = some s')
    (awake : (s.stored tenant).value.sleep = none)
    (asleep : (s'.stored tenant).value.sleep ≠ none) :
    ∃ origin point, Traces (s.history tenant) (.sleeping origin point) ∧
      Settled point (s.stored tenant) := by
  have lawful' := lawful.step stepped
  rw [lawful.replay] at awake ⊢
  rw [lawful'.replay] at asleep
  rcases step_history stepped tenant with same | ⟨event, history, _⟩
  · rw [same] at asleep
    exact absurd awake asleep
  rw [history] at asleep
  obtain ⟨after, traces⟩ := lawful'.traces
  rw [history] at traces
  cases traces with
  | cons before move =>
    obtain ⟨origin, point, here, settled⟩ :=
      move.falls_asleep (Option.isSome_eq_false_iff.mpr (Option.isNone_iff_eq_none.mpr awake))
        (Option.isSome_iff_ne_none.mpr asleep)
    exact ⟨origin, point, here ▸ before, settled⟩

end

end Nstance.TenantState
