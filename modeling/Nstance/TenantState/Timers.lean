import Nstance.TenantState.Refinement

/-!
# Timer wakes and the deadline they were armed for

`wakeIfDue` compares the cached deadline with the one its timer was armed for and then calls
`Wake`, which waits for the tenant's lock and looks at the deadline no more. In every run in
which no other deadline is stored while a timer waits, and in which the comparison is made
with the stored entry, a timer removes only the sleep it was armed for
(`timer_wakes_its_deadline`).
-/

namespace Nstance.TenantState

open Interaction

/-- While a timer of the tenant waits for the lock, only its own deadline is
stored; and a timer of the tenant that goes off reads the stored sleep. -/
def State.keepsDeadline (tenant : Tenant) (s : State) : Label → Bool
  | .perform owner outcome =>
    match s.running owner, outcome with
    | _, .fail _ => true
    | some (_, .perform (.update u) _), _ =>
      owner ≠ tenant || (u.apply (s.stored tenant)).value.sleep = none ||
        (s.due tenant).all fun expected => (u.apply (s.stored tenant)).deadline = some expected
    | _, _ => true
  | .fire owner =>
    owner ≠ tenant || (s.stored tenant).value.sleep = none ||
      (s.stored tenant).value.sleep = (s.cached tenant).value.sleep
  | _ => true

/-- The deadline is past, and the tenant sleeps until then if it sleeps at all. -/
structure Due (s : State) (tenant : Tenant) (expected : Time) : Prop where
  past : expected ≤ s.now
  stored : (s.stored tenant).value.sleep = none ∨ (s.stored tenant).deadline = some expected

/-- Every timer that was found due, and every timer that has taken the lock and
not yet written its wake, was armed for the stored deadline. -/
structure Timely (s : State) (tenant : Tenant) : Prop where
  waiting : ∀ expected ∈ s.due tenant, Due s tenant expected
  holding : ∀ expected, Traces (s.history tenant) (.held (.timer expected)) →
    Due s tenant expected

/-! ## What a step does to timers and the clock -/

section

variable {s s' after : State} {tenant : Tenant} {label : Label} {action : Action}
  {outcome : Outcome} {expected : Time}

theorem Effect.timers {owner : Tenant} (effect : Effect s owner action outcome after) :
    after.due = s.due ∧ after.now = s.now := by
  cases effect <;> exact ⟨rfl, rfl⟩

theorem step_timers (stepped : s.step true label = some s') (tenant : Tenant) :
    s.now ≤ s'.now ∧ ∀ expected ∈ s'.due tenant, expected ∈ s.due tenant ∨
      label = .fire tenant ∧ s.isDue tenant expected = true := by
  cases step_change stepped with
  | crash | halt => exact ⟨Int.le_refl _, fun _ member => absurd member List.not_mem_nil⟩
  | tick elapsed =>
    exact ⟨Int.le_add_of_nonneg_right (Int.natCast_nonneg elapsed), fun _ member => .inl member⟩
  | @acquire owner operation =>
    refine ⟨Int.le_refl _, fun expected member => .inl ?_⟩
    cases operation with
    | timer armed =>
      by_cases same : tenant = owner
      · subst same
        simp only [State.acquire, State.record, Function.update_self] at member
        exact List.mem_of_mem_erase member
      · simpa [State.acquire, State.record, Function.update_of_ne same] using member
    | _ => exact member
  | perform runs performed =>
    obtain ⟨due, now⟩ := (perform_effect performed).timers
    exact ⟨Int.le_of_eq now.symm, fun _ member => .inl (due ▸ member)⟩
  | @due owner found isDue =>
    refine ⟨Int.le_refl _, fun expected member => ?_⟩
    by_cases same : tenant = owner
    · subst same
      simp only [Function.update_self] at member
      rcases List.mem_cons.mp member with rfl | earlier
      · exact .inr ⟨rfl, isDue⟩
      · exact .inl earlier
    · exact .inl (by simpa [Function.update_of_ne same] using member)
  | _ => exact ⟨Int.le_refl _, fun _ member => .inl member⟩

theorem Effect.stored (effect : Effect s tenant action outcome after) :
    after.stored tenant = s.stored tenant ∨ ∃ u, action = .update u ∧
      (∀ error, outcome ≠ .fail error) ∧ after.stored tenant = u.apply (s.stored tenant) := by
  cases effect with
  | @wrote u entry writes | @lost u entry _ writes =>
    refine .inr ⟨u, rfl, by simp, ?_⟩
    rw [Update.apply_of_write writes]
    exact Function.update_self ..
  | _ => exact .inl rfl

/-- An allowed step that stores another entry stores none that a waiting timer
was not armed for. -/
theorem step_stored (ok : s.keepsDeadline tenant label = true)
    (stepped : s.step true label = some s') :
    s'.stored tenant = s.stored tenant ∨ (s'.stored tenant).value.sleep = none ∨
      ∀ expected ∈ s.due tenant, (s'.stored tenant).deadline = some expected := by
  cases step_touches stepped tenant with
  | same same => exact .inl same.stored
  | acquire operation asks free after =>
    subst after
    exact .inl rfl
  | @perform outcome _ _ _ _ _ runs performed result =>
    subst result
    rcases (perform_effect performed).stored with same | ⟨u, rfl, succeeds, written⟩
    · exact .inl same
    have kept : (u.apply (s.stored tenant)).value.sleep = none ∨
        ∀ expected ∈ s.due tenant, (u.apply (s.stored tenant)).deadline = some expected := by
      cases outcome with
      | fail error => exact absurd rfl (succeeds error)
      | _ => simpa [State.keepsDeadline, runs] using ok
    rw [← written] at kept
    exact .inr kept
  | release ends busy stored rows history running => exact .inl stored
  | remove id stored cached rows history running => exact .inl stored

/-! ## Every timer is on time -/

theorem Due.of_stored (due : Due s tenant expected) (later : s.now ≤ s'.now)
    (stored : s'.stored tenant = s.stored tenant ∨ (s'.stored tenant).value.sleep = none ∨
      (s'.stored tenant).deadline = some expected) : Due s' tenant expected := by
  refine ⟨Int.le_trans due.past later, ?_⟩
  rcases stored with same | stored
  · rw [same]
    exact due.stored
  · exact stored

theorem due_of_fire (ok : s.keepsDeadline tenant (.fire tenant) = true)
    (found : s.isDue tenant expected = true) : Due s tenant expected := by
  simp only [State.isDue, Bool.and_eq_true, decide_eq_true_eq] at found
  refine ⟨found.2, ?_⟩
  simp only [State.keepsDeadline, Bool.or_eq_true, decide_eq_true_eq, ne_eq, not_true,
    false_or] at ok
  rcases ok with awake | same
  · exact .inl awake
  · exact .inr (by rw [Entry.deadline, same]; exact found.1.2)

theorem Timely.waiting_step (timely : Timely s tenant) (ok : s.keepsDeadline tenant label = true)
    (stepped : s.step true label = some s') :
    ∀ expected ∈ s'.due tenant, Due s' tenant expected := by
  intro expected member
  obtain ⟨later, origin⟩ := step_timers stepped tenant
  rcases origin expected member with waited | ⟨rfl, found⟩
  · refine (timely.waiting expected waited).of_stored later ?_
    rcases step_stored ok stepped with same | awake | kept
    · exact .inl same
    · exact .inr (.inl awake)
    · exact .inr (.inr (kept expected waited))
  refine (due_of_fire ok found).of_stored later (.inl ?_)
  cases step_touches stepped tenant with
  | same same => exact same.stored
  | release ends => rcases ends with impossible | impossible <;> cases impossible

theorem Timely.holding_step (timely : Timely s tenant) (lawful : Lawful s tenant)
    (stepped : s.step true label = some s') :
    ∀ expected, Traces (s'.history tenant) (.held (.timer expected)) → Due s' tenant expected := by
  intro expected traces
  obtain ⟨later, _⟩ := step_timers stepped tenant
  have replay := (lawful.step stepped).replay
  rcases step_history stepped tenant with same | ⟨event, history, cause⟩
  · rw [same] at traces replay
    exact (timely.holding expected traces).of_stored later (.inl (replay.trans lawful.replay.symm))
  rw [history] at traces replay
  cases traces with
  | cons before move =>
    rcases move.held with rfl | ⟨rfl, id, rfl⟩
    · -- The timer has just taken the lock, so it was waiting for it.
      cases cause with
      | acquire operation asks =>
        have waited : expected ∈ s.due tenant := List.contains_iff_mem.mp asks
        exact (timely.waiting expected waited).of_stored later
          (.inl (replay.trans lawful.replay.symm))
      | perform runs records => cases records
    · exact (timely.holding expected before).of_stored later
        (.inl (replay.trans lawful.replay.symm))

theorem timely_of_reaches
    (reached : (machine true).Reaches (fun s label => s.keepsDeadline tenant label = true) s) :
    Timely s tenant := by
  induction reached with
  | start =>
    refine ⟨fun _ member => absurd member List.not_mem_nil, fun expected traces => ?_⟩
    cases traces
  | step before ok stepped timely =>
    exact ⟨timely.waiting_step ok stepped,
      timely.holding_step (lawful_of_reaches before tenant) stepped⟩

/-- **A timer wakes only at its deadline.** In every run in which only its own
deadline is stored for the tenant while one of its timers waits, and its timers
read the stored sleep when they go off, the sleep that the wake of a timer
removes is stored until the deadline the timer was armed for, and that is past. -/
theorem timer_wakes_its_deadline {outcome : Outcome} {expected : Time} {program : Code Unit}
    {sleep : SleepState}
    (reached : (machine true).Reaches (fun s label => s.keepsDeadline tenant label = true) s)
    (runs : s.running tenant = some (.timer expected, program))
    (stepped : (machine true).step s (.perform tenant outcome) = some s')
    (commits : s'.history tenant = .wrote .wake :: s.history tenant)
    (asleep : (s.stored tenant).value.sleep = some sleep) :
    sleep.wakeAt = some expected ∧ expected ≤ s.now := by
  have lawful := lawful_of_reaches reached tenant
  have moved : s.step true (.perform tenant outcome) = some s' := stepped
  obtain ⟨stage, traces⟩ := (lawful.step moved).traces
  rw [commits] at traces
  cases traces with
  | cons before move =>
    cases move with
    | wake wakes engaged =>
      cases (before.holder rfl).symm.trans (lawful.held runs)
      have due := (timely_of_reaches reached).holding expected before
      refine ⟨?_, due.past⟩
      rcases due.stored with awake | stored
      · exact absurd (awake.symm.trans asleep) (by simp)
      · simpa [Entry.deadline, asleep] using stored

end

/-- A tenant sleeps until 5, its timer goes off then and has come to its wake. -/
def wakeOnTime : List Label :=
  boot ++ .acquire "red" (.sleep (some 5) false .callback) :: succeed "red" 15 ++
    .finish "red" :: .tick 5 :: .fire "red" :: .acquire "red" (.timer 5) :: succeed "red" 2

theorem wakeOnTime_at_deadline :
    ∃ s s' sleep, (machine true).runWithin (State.keepsDeadline "red") (machine true).start
        wakeOnTime = some s ∧
      (machine true).step s (.perform "red" .ok) = some s' ∧
      (s.stored "red").value.sleep = some sleep ∧ sleep.wakeAt = some 5 ∧ 5 ≤ s.now := by
  refine ⟨_, _, _, rfl, rfl, rfl, ?_⟩
  exact timer_wakes_its_deadline (Machine.reaches_of_runWithin wakeOnTime .start rfl) rfl
    (show (machine true).step _ (.perform "red" .ok) = some _ from rfl) rfl rfl

/-- A tenant sleeps until 5 and its timer goes off then. Before it gets the lock
the sleep is made indefinite, and then the timer has come to its wake. -/
def postponedAfterFire : List Label :=
  boot ++ .acquire "red" (.sleep (some 5) false .callback) :: succeed "red" 15 ++
    .finish "red" :: .tick 5 :: .fire "red" ::
    .acquire "red" (.sleep none false .callback) :: succeed "red" 5 ++ .finish "red" ::
    .acquire "red" (.timer 5) :: succeed "red" 2

/-- The old timer removes the indefinite sleep. -/
theorem postponedAfterFire_woken :
    ∃ s s' program, (machine true).run (machine true).start postponedAfterFire = some s ∧
      s.running "red" = some (.timer 5, program) ∧
      (machine true).step s (.perform "red" .ok) = some s' ∧
      s'.history "red" = .wrote .wake :: s.history "red" ∧
      (s.stored "red").value.sleep = some ⟨none⟩ :=
  ⟨_, _, _, rfl, rfl, rfl, rfl, rfl⟩

end Nstance.TenantState
