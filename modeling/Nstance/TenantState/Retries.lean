import Nstance.TenantState.Timers

/-!
# Timed wakes that fail

A timer whose wake fails is armed again for the same deadline, and the retry looks for that
deadline in the cached entry. Until the first durable step of a wake removes it, the tenant
has a timer, or a wake that waits or runs, and a timer that goes off leads to a wake
(`timed_wake_retried`). A wake that fails after it leaves a transition that nothing goes on
with (`failedRestoration_abandoned`).
-/

namespace Nstance.TenantState

open Interaction

/-- The term goes on, no operation but the timer's takes the lock of the tenant, and the
update of a wake is not applied. -/
def State.unapplied (tenant : Tenant) (expected : Time) (s : State) : Label → Bool
  | .stop => false
  | .crash => false
  | .refreshFailed => false
  | .acquire owner operation => owner ≠ tenant || operation = .timer expected
  | .perform owner outcome => owner ≠ tenant ||
    match s.running tenant, outcome with
    | _, .fail _ => true
    | some (_, .perform (.update .wake) _), _ => false
    | _, _ => true
  | _ => true

/-- A wake that fails unless its update is applied. -/
inductive Futile : Code Unit → Prop where
  | fail (error : Err) : Futile (.fail error)
  | ctxErr {next : Except Err Unit → Code Unit} (rest : ∀ reply, Futile (next reply)) :
      Futile (.perform .ctxErr next)
  | reread {next : Except Err Updated → Code Unit} (rest : ∀ reply, Futile (next reply)) :
      Futile (.perform (.update .reread) next)
  | wake {next : Except Err Updated → Code Unit} (rest : ∀ error, Futile (next (.error error))) :
      Futile (.perform (.update .wake) next)

theorem futile_timer (expected : Time) : Futile ((Operation.timer expected).program true) := by
  refine .ctxErr fun reply => ?_
  cases reply with
  | error error => exact .fail error
  | ok =>
    refine .reread fun reply => ?_
    cases reply with
    | error error => exact .fail error
    | ok => exact .wake .fail

/-- The tenant sleeps until a deadline that is past, and its wake is under way. -/
structure Retrying (tenant : Tenant) (expected : Time) (s : State) : Prop where
  active : s.phase ≠ .stopped
  asleep : (s.stored tenant).deadline = some expected
  cached : s.cached tenant = s.stored tenant
  past : expected ≤ s.now
  timer : s.timers tenant = none ∨ s.timers tenant = some expected
  alive : s.timers tenant = some expected ∨ expected ∈ s.due tenant ∨ s.running tenant ≠ none
  holder : ∀ operation program, s.running tenant = some (operation, program) →
    operation = .timer expected ∧ Futile program

section

variable {s s' after : State} {tenant owner : Tenant} {expected : Time} {label : Label}

section

variable (retrying : Retrying tenant expected s)
include retrying

theorem Retrying.isDue : s.isDue tenant expected = true := by
  have asleep := retrying.asleep
  simp only [State.isDue, retrying.cached, asleep, retrying.past, decide_true, Bool.and_true]
  cases sleep : (s.stored tenant).value.sleep <;> simp_all [Entry.deadline, Entry.asleep]

theorem Retrying.fire (stepped : s.step true (.fire tenant) = some s') :
    expected ∈ s'.due tenant ∧ Retrying tenant expected s' := by
  rcases retrying.timer with none | armed
  · simp [State.step, none] at stepped
  simp only [State.step, armed, retrying.isDue, if_true] at stepped
  cases stepped
  have waits : expected ∈ Function.update s.due tenant (expected :: s.due tenant) tenant := by
    simp
  exact ⟨waits, { retrying with timer := .inl (by simp), alive := .inr (.inl waits) }⟩

theorem Retrying.goes {program : Code Unit} (futile : Futile program) : Retrying tenant expected
      { s with
        running := Function.update s.running tenant (some (.timer expected, program)) } := by
  refine { retrying with alive := .inr (.inr (by simp)), holder := ?_ }
  intro operation program runs
  simp only [Function.update_self, Option.some.injEq, Prod.mk.injEq] at runs
  exact ⟨runs.1.symm, runs.2 ▸ futile⟩

theorem Retrying.perform {outcome : Outcome}
    {operation : Operation} {action : Action} {next : Reply action → Code Unit}
    {reply : Reply action} (ok : s.unapplied tenant expected (.perform tenant outcome) = true)
    (runs : s.running tenant = some (operation, .perform action next))
    (performed : s.perform tenant action outcome = some (after, reply)) :
    Retrying tenant expected { after with
      running := Function.update after.running tenant (some (operation, next reply)) } := by
  obtain ⟨rfl, futile⟩ := retrying.holder _ _ runs
  cases futile with
  | ctxErr rest => cases outcome <;> cases performed <;> exact retrying.goes (rest _)
  | reread rest =>
    cases outcome <;> cases performed
    · have timer : s.install.timers tenant = some expected := by
        simp [State.install, retrying.active, retrying.asleep]
      have installed : Retrying tenant expected s.install :=
        { retrying with cached := rfl, timer := .inr timer, alive := .inl timer }
      exact installed.goes (rest _)
    · exact retrying.goes (rest _)
  | wake rest =>
    cases outcome with
    | fail error =>
      cases performed
      exact retrying.goes (rest error)
    | _ => simp [State.unapplied, runs] at ok

theorem Retrying.finish
    (stepped : s.step true (.finish owner) = some s') : Retrying tenant expected s' := by
  obtain ⟨active, asleep, cached, past, timer, alive, holder⟩ := retrying
  simp only [State.step] at stepped
  split at stepped <;> cases stepped
  · rename_i operation _ runs
    have different : tenant ≠ owner := by
      rintro rfl
      obtain ⟨-, ⟨⟩⟩ := holder _ _ runs
    cases operation <;> constructor <;> simp_all [State.release, State.record, State.afterwards]
  · rename_i operation error runs
    by_cases same : tenant = owner
    · subst same
      constructor <;> simp_all [State.release, State.record, State.afterwards]
    · cases operation <;> constructor <;> simp_all [State.release, State.record, State.afterwards]

theorem Retrying.step
    (ok : s.unapplied tenant expected label = true) (stepped : s.step true label = some s') :
    Retrying tenant expected s' := by
  obtain ⟨active, asleep, cached, past, timer, alive, holder⟩ := id retrying
  cases step_change stepped with
  | start | resumeTransitions => exact { retrying with active := Phase.noConfusion }
  | refresh => constructor <;> simp_all [State.install]
  | halt ends => rcases ends with rfl | rfl <;> cases ok
  | crash => cases ok
  | @acquire owner operation =>
    by_cases same : tenant = owner
    · subst same
      obtain rfl : operation = .timer expected := by simpa [State.unapplied] using ok
      have taken := retrying.goes (futile_timer expected)
      exact { taken with alive := .inr (.inr (by simp [State.acquire, State.record])) }
    · cases operation <;> constructor <;> simp_all [State.acquire, State.record]
  | @perform owner _ _ _ _ _ _ runs performed =>
    by_cases same : tenant = owner
    · subst same
      exact retrying.perform ok runs performed
    · cases perform_effect performed <;> constructor <;>
        simp_all [State.install, State.write, State.record]
  | finish => exact retrying.finish stepped
  | @due owner | early owner =>
    by_cases same : tenant = owner
    · subst same
      exact (retrying.fire stepped).2
    · constructor <;> simp_all
  | tick elapsed =>
    have later := Int.le_add_of_nonneg_right (a := s.now) (Int.natCast_nonneg elapsed)
    exact { retrying with past := Int.le_trans past later }
  | remove => exact { retrying with }

end

/-- **A timed wake that fails is tried again.** A timer of a sleeping tenant goes off and reads
the stored entry. As long as the term goes on, no other operation takes the lock of the tenant
and the update of the wake is not applied, the tenant has a timer for its deadline or a wake
that waits for the lock or holds it, and a timer that goes off again leads to another wake. -/
theorem timed_wake_retried {s₀ s₁ : State} (active : s₀.phase ≠ .stopped)
    (idle : s₀.running tenant = none) (armed : s₀.timers tenant = some expected)
    (current : s₀.cached tenant = s₀.stored tenant) (due : s₀.isDue tenant expected = true)
    (fired : (machine true).step s₀ (.fire tenant) = some s₁)
    (goesOn : { machine true with start := s₁ }.Reaches
      (fun s label => s.unapplied tenant expected label = true) s) :
    (s.timers tenant = some expected ∨ expected ∈ s.due tenant ∨
      ∃ program, s.running tenant = some (.timer expected, program)) ∧
      ∀ s', (machine true).step s (.fire tenant) = some s' → expected ∈ s'.due tenant := by
  have first : Retrying tenant expected s₀ := by
    simp only [State.isDue, Bool.and_eq_true, decide_eq_true_eq, current] at due
    exact ⟨active, due.1.2, current, due.2, .inr armed, .inl armed, by simp [idle]⟩
  have retrying : Retrying tenant expected s :=
    goesOn.invariant (first.fire fired).2 fun _ retrying ok stepped => retrying.step ok stepped
  refine ⟨?_, fun s' again => (retrying.fire again).1⟩
  rcases retrying.alive with timer | waits | runs
  · exact .inl timer
  · exact .inr (.inl waits)
  obtain ⟨⟨operation, program⟩, runs⟩ := Option.ne_none_iff_exists'.mp runs
  obtain ⟨rfl, -⟩ := retrying.holder _ _ runs
  exact .inr (.inr ⟨program, runs⟩)

end

/-- A tenant sleeps until 5 and its timer goes off then. -/
def asleepUntilFive : List Label :=
  boot ++ .acquire "red" (.sleep (some 5) false .callback) :: succeed "red" 15 ++
    [.finish "red", .tick 5]

/-- The wake fails at its update, and the timer goes off again. -/
def failedUpdate : List Label :=
  [.acquire "red" (.timer 5), .perform "red" .ok, .perform "red" .ok,
    .perform "red" (.fail .sleepBlocked), .finish "red"]

theorem failedUpdate_retried :
    ∃ s₀ s₁ s s', (machine true).run (machine true).start asleepUntilFive = some s₀ ∧
      (machine true).step s₀ (.fire "red") = some s₁ ∧
      (machine true).runWithin (State.unapplied "red" 5) s₁ failedUpdate = some s ∧
      s.timers "red" = some 5 ∧ (machine true).step s (.fire "red") = some s' ∧
      5 ∈ s'.due "red" := by
  refine ⟨_, _, _, _, rfl, rfl, rfl, rfl, rfl, ?_⟩
  have fired : (machine true).step (((machine true).run (machine true).start
    asleepUntilFive).get rfl) (.fire "red") = some _ := rfl
  refine (timed_wake_retried ?_ ?_ ?_ ?_ ?_ fired (Machine.reaches_of_runWithin
    (M := { machine true with start := _ }) failedUpdate .start rfl)).2 _ rfl
  exacts [by decide, rfl, rfl, rfl, rfl]

/-- The wake removes the sleep and fails to restore the targets. The timer is armed again, but
finds no deadline, and nothing goes on with the transition. -/
theorem failedRestoration_abandoned :
    ∃ s₀ s₁ s s', (machine true).run (machine true).start asleepUntilFive = some s₀ ∧
      (machine true).step s₀ (.fire "red") = some s₁ ∧ 5 ∈ s₁.due "red" ∧
      (machine true).run s₁ ([.acquire "red" (.timer 5)] ++ succeed "red" 5 ++
        [.perform "red" (.fail .sleepBlocked), .finish "red"]) = some s ∧
      s.timers "red" = some 5 ∧ s.phase = .started ∧
      (machine true).step s (.fire "red") = some s' ∧
      (s'.stored "red").value.transition ≠ none ∧ s'.timers "red" = none ∧ s'.due "red" = [] ∧
      s'.running "red" = none ∧ s'.resuming "red" = false :=
  ⟨_, _, _, _, rfl, rfl, by decide, rfl, rfl, rfl, rfl, by decide, rfl, rfl, rfl, rfl⟩

end Nstance.TenantState
