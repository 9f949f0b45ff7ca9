import Nstance.TenantState.System

/-!
# What a step of the manager can do

The cases of an action (`perform_effect`) and of a step (`step_change`), each with the state
it leaves. What a step preserves is read off these cases.
-/

namespace Nstance.TenantState

/-! ## Actions -/

/-- The events that actions leave. -/
inductive Records : Action → Event → Prop where
  | update (u : Update) : Records (.update u) (.wrote u)
  | call (call : CutoverCall) (result : Except Err Unit) :
      Records (.call call) (.called call result)
  | enter (routine : Routine) : Records (.enter routine) (.entered routine)
  | found (onDemand : Bool) : Records .hasOnDemandInstances (.found onDemand)
  | inserted (id : String) : Records .createInstance (.inserted id)

/-- What an action does, with the guard it passed. -/
inductive Effect (s : State) (tenant : Tenant) : Action → Outcome → State → Prop where
  | wrote {u : Update} {entry : Entry} (writes : u.mutate (s.stored tenant) = .write entry) :
      Effect s tenant (.update u) .ok (s.write tenant u entry).install
  | reread (u : Update) : Effect s tenant (.update u) .ok s.install
  | lost {u : Update} {entry : Entry} {error : Err}
      (writes : u.mutate (s.stored tenant) = .write entry) :
      Effect s tenant (.update u) (.lost error) (s.write tenant u entry)
  | inserted (id : String) (result : Except Err Unit) :
      Effect s tenant .createInstance (.insert id result)
        ({ s with onDemand := Function.update s.onDemand tenant (id :: s.onDemand tenant) }.record
          tenant (.inserted id))
  | recorded {action : Action} {outcome : Outcome} {event : Event}
      (records : Records action event) : Effect s tenant action outcome (s.record tenant event)
  | kept {action : Action} {outcome : Outcome} : Effect s tenant action outcome s

theorem perform_effect {s after : State} {tenant : Tenant} {action : Action} {outcome : Outcome}
    {reply : Reply action} (performed : s.perform tenant action outcome = some (after, reply)) :
    Effect s tenant action outcome after := by
  cases action with
  | update u =>
    cases outcome with
    | ok =>
      simp only [State.perform] at performed
      split at performed <;> cases performed
      · exact .reread u
      · exact .wrote ‹_›
      · exact .kept
    | fail error =>
      cases performed
      exact .kept
    | lost error =>
      simp only [State.perform] at performed
      split at performed <;> cases performed
      exact .lost ‹_›
    | insert => cases performed
  | createInstance =>
    cases outcome <;> cases performed
    · exact .kept
    · exact .inserted ..
  | _ =>
    cases outcome <;> cases performed <;> first | exact .kept | exact .recorded (by constructor)

/-! ## Steps -/

/-- What a step does, with what it found before. -/
inductive Change (s : State) : Label → State → Prop where
  | start : Change s .start { s with phase := .starting }
  | refresh : Change s .refresh { s with phase := .refreshed }.install
  | halt {label : Label} (ends : label = .refreshFailed ∨ label = .stop) : Change s label s.halt
  | resumeTransitions (resuming : Tenant → Bool) :
      Change s .resumeTransitions { s with phase := .started, resuming := resuming }
  | crash : Change s .crash s.crash
  | acquire {tenant : Tenant} {operation : Operation} (free : s.running tenant = none)
      (asks : s.asks tenant operation = true) :
      Change s (.acquire tenant operation) (s.acquire true tenant operation)
  | perform {tenant : Tenant} {outcome : Outcome} {operation : Operation} {action : Action}
      {next : Reply action → Code Unit} {after : State} {reply : Reply action}
      (runs : s.running tenant = some (operation, .perform action next))
      (performed : s.perform tenant action outcome = some (after, reply)) :
      Change s (.perform tenant outcome) { after with
        running := Function.update after.running tenant (some (operation, next reply)) }
  | finish {tenant : Tenant} (busy : s.running tenant ≠ none) (timers : Tenant → Option Time)
      (resuming : Tenant → Bool) :
      Change s (.finish tenant)
        { s.release tenant with timers := timers, resuming := resuming }
  | due {tenant : Tenant} {expected : Time} (found : s.isDue tenant expected = true) :
      Change s (.fire tenant) { s with
        timers := Function.update s.timers tenant none,
        due := Function.update s.due tenant (expected :: s.due tenant) }
  | early (tenant : Tenant) :
      Change s (.fire tenant) { s with timers := Function.update s.timers tenant none }
  | tick (elapsed : Nat) : Change s (.tick elapsed) { s with now := s.now + elapsed }
  | remove (tenant : Tenant) (id : String) :
      Change s (.remove tenant id)
        ({ s with
            onDemand := Function.update s.onDemand tenant ((s.onDemand tenant).erase id) }.record
          tenant (.removed id))

/-- What the goroutine of an operation does afterwards is about timers and resume
goroutines. -/
theorem afterwards_eq (s : State) (tenant : Tenant) (operation : Operation)
    (result : Except Err Unit) : ∃ timers resuming,
      s.afterwards tenant operation result = { s with timers := timers, resuming := resuming } := by
  cases operation with
  | resume => cases result <;> exact ⟨_, _, rfl⟩
  | timer expected =>
    cases result with
    | ok => exact ⟨_, _, rfl⟩
    | error error =>
      simp only [State.afterwards]
      split <;> exact ⟨_, _, rfl⟩
  | _ => cases result <;> exact ⟨_, _, rfl⟩

theorem step_change {s s' : State} {label : Label} (stepped : s.step true label = some s') :
    Change s label s' := by
  have finish : ∀ {tenant operation result}, s.running tenant ≠ none →
      (s.release tenant).afterwards tenant operation result = s' →
        Change s (.finish tenant) s' := by
    rintro tenant operation result busy rfl
    obtain ⟨timers, resuming, after⟩ := afterwards_eq (s.release tenant) tenant operation result
    rw [after]
    exact .finish busy timers resuming
  cases label with simp only [State.step] at stepped
  | crash =>
    cases stepped
    exact .crash
  | tick elapsed =>
    cases stepped
    exact .tick elapsed
  | start =>
    split at stepped <;> cases stepped
    exact .start
  | refresh =>
    split at stepped <;> cases stepped
    exact .refresh
  | refreshFailed =>
    split at stepped <;> cases stepped
    exact .halt (.inl rfl)
  | stop =>
    split at stepped <;> cases stepped
    exact .halt (.inr rfl)
  | resumeTransitions =>
    split at stepped <;> cases stepped
    exact .resumeTransitions _
  | acquire tenant operation =>
    split at stepped <;> cases stepped
    rename_i may
    exact .acquire (Option.isNone_iff_eq_none.mp may.2.1) may.2.2
  | perform tenant outcome =>
    split at stepped
    · rename_i runs
      split at stepped <;> cases stepped
      rename_i performed
      exact .perform runs performed
    · cases stepped
  | finish tenant =>
    split at stepped
    · rename_i runs
      exact finish (runs ▸ Option.some_ne_none _) (Option.some.inj stepped)
    · rename_i runs
      exact finish (runs ▸ Option.some_ne_none _) (Option.some.inj stepped)
    · cases stepped
  | fire tenant =>
    split at stepped
    · split at stepped <;> cases stepped
      · rename_i found
        exact .due found
      · exact .early tenant
    · cases stepped
  | remove tenant id =>
    split at stepped <;> cases stepped
    exact .remove tenant id

end Nstance.TenantState
