import Nstance.Interaction.Execution
import Nstance.TenantState.Recovery

/-!
# The shape of a tenant's entry

A tenant is asleep, or in a cutover, or neither, and its targets are blocked only in the
first two cases. The one way out of this shape is a resume goroutine that takes up a tenant
without a record: it blocks the targets of a tenant that is awake (`blockAfterWake_bare`).
-/

namespace Nstance.TenantState

open Interaction
open Program hiding pure bind

variable {event : Event} {stage after : Stage} {history before : History} {s : State}
  {tenant : Tenant}

/-- Stages in which the record of a cutover is stored. -/
def Stage.recorded : Stage → Bool
  | .requested _ | .sleeping _ _ | .failing | .woken | .restoring _ => true
  | _ => false

/-- The shape of an entry at a stage. -/
structure Shaped (history : History) (stage : Stage) : Prop where
  apart : (entryOf history).value.sleep = none ∨ (entryOf history).value.transition = none
  blocked : (entryOf history).blocked = true →
    (entryOf history).value.sleep ≠ none ∨ (entryOf history).value.transition ≠ none
  underway : stage.recorded = true →
    (entryOf history).value.sleep = none ∧ (entryOf history).value.transition ≠ none

theorem Shaped.step (traces : Traces before stage) (shaped : Shaped before stage)
    (move : Moves stage (entryOf before) event after) (law : ResumesRecord before event) :
    Shaped (event :: before) after := by
  -- In a cutover the shape follows from the record.
  have cutover : (entryOf (event :: before)).value.sleep = none →
      (entryOf (event :: before)).value.transition ≠ none → Shaped (event :: before) after :=
    fun awake recorded => ⟨.inl awake, fun _ => .inr recorded, fun _ => ⟨awake, recorded⟩⟩
  have unslept : ∀ {entry : Entry}, entry.asleep = false → entry.value.sleep = none := by
    simp [Entry.asleep]
  cases move with
  | request wakeAt guarded may awake =>
    refine cutover ?_ ?_ <;> simp [entryOf, Update.value_requestSleep _ _ awake, unslept awake]
  | postpone wakeAt guarded may asleep =>
    have idle := shaped.apart.resolve_left (Option.isSome_iff_ne_none.mp asleep)
    refine ⟨.inr ?_, fun _ => .inl ?_, Bool.noConfusion⟩ <;>
      simp [entryOf, Update.value_postpone _ _ asleep, idle]
  | commit => exact ⟨.inr rfl, fun _ => .inl (Option.some_ne_none _), Bool.noConfusion⟩
  | commitResumed settled recorded =>
    refine ⟨.inr ?_, fun _ => .inl ?_, Bool.noConfusion⟩ <;>
      simp [entryOf, Update.value_commitResumed recorded]
  | wake wakes engaged => refine cutover ?_ ?_ <;> simp [entryOf, Update.value_wake engaged]
  | clear => exact ⟨.inl rfl, Bool.noConfusion, Bool.noConfusion⟩
  | block | mark | beginRestore =>
    have underway := shaped.underway rfl
    refine cutover ?_ ?_ <;> simp [entryOf, underway]
  | continueResumed forward awake => exact cutover (unslept awake) (law (traces.holder rfl))
  | restoreResumed restoring =>
    have recorded : (entryOf before).value.transition ≠ none := by
      intro bare
      simp [Entry.progress, bare] at restoring
    exact cutover (shaped.apart.resolve_right recorded) recorded
  | rollBack may => cases may <;> exact ⟨shaped.apart, shaped.blocked, fun _ => shaped.underway rfl⟩
  | remove => exact ⟨shaped.apart, shaped.blocked, shaped.underway⟩
  | acquire | release | absent | present | insertAwake | insertRestored | reready =>
    exact ⟨shaped.apart, shaped.blocked, Bool.noConfusion⟩
  | reinstall result =>
    exact ⟨shaped.apart, shaped.blocked, by cases result <;> exact Bool.noConfusion⟩
  | _ => exact ⟨shaped.apart, shaped.blocked, fun _ => shaped.underway rfl⟩

theorem shaped_of_traces (traces : Traces history stage) (law : Always ResumesRecord history) :
    Shaped history stage :=
  traces.invariant (P := Shaped) ⟨.inl rfl, Bool.noConfusion, Bool.noConfusion⟩
    (fun before shaped move _ law => shaped.step before move law.1) law

/-! ## Dereferences -/

/-- The replies of the machine to the operations of a tenant, in any states. -/
def replies (tenant : Tenant) : Environment interface Unit := fun _ action reply _ =>
  ∃ s outcome after, State.perform s tenant action outcome = some (after, reply)

theorem replies_update {u : Update} {updated : Updated} {world last : Unit}
    (ends : (Manager.update u).Ends (replies tenant) (.ok updated) last world) :
    updated.after = u.apply updated.before := by
  obtain ⟨reply, _, ⟨s, outcome, after, performed⟩, ends⟩ := ends
  obtain ⟨rfl, _⟩ := ends_ofExcept.mp ends
  cases outcome <;> simp only [State.perform] at performed <;> grind [Update.apply]

/-- `Sleep` is left with the entry of a tenant that is asleep. -/
theorem sleepBody_asleep {wakeAt : Option Time} {guarded : Bool} {check : Check} {already : Bool}
    {entry : Entry} (ends : (Manager.runForTenant (Manager.sleepBody true wakeAt guarded check)).Ends
      (replies tenant) (.ok (already, entry)) () ()) : entry.value.sleep ≠ none := by
  obtain ⟨_, _, _, ends⟩ := (ends_bind _).mp ends
  obtain ⟨_, _, _, ends⟩ := (ends_bind _).mp ends
  obtain ⟨_, _, body, ends⟩ := (ends_bind _).mp ends
  obtain ⟨_, _, _, ⟨same, _⟩⟩ := (ends_bind _).mp ends
  cases same
  obtain ⟨_, _, _, body⟩ := (ends_bind _).mp body
  obtain ⟨requested, _, asked, body⟩ := (ends_bind _).mp body
  split at body
  · rename_i asleep
    cases body.1
    rw [replies_update asked, Update.value_postpone _ _ asleep]
    exact Option.some_ne_none _
  · obtain ⟨_, _, _, body⟩ := (ends_bind _).mp body
    obtain ⟨committed, _, done, body⟩ := (ends_bind _).mp body
    cases body.1
    rw [replies_update done]
    exact Option.some_ne_none _

theorem Lawful.resumed_recorded (lawful : Lawful s tenant) {operation : Operation}
    {next : Except Err Updated → Code Unit}
    (runs : s.running tenant = some (operation, .perform (.update .commitResumed) next)) :
    (s.stored tenant).value.transition ≠ none := by
  cases lawful with
  | idle free => exact absurd (free.symm.trans runs) (by simp)
  | busy _ _ running _ v follows complies =>
    cases running.symm.trans runs
    intro bare
    rw [← follows.entry] at bare
    obtain ⟨_, written⟩ := complies
    simp [Update.mutate_commitResumed_bare bare] at written

/-- **The shape of the record.** In every run in which recovery takes up no tenant
without a record, no entry is asleep and in a cutover, a blocked entry is one of
the two, and neither `resumeTenant` nor `Sleep` dereferences nil. -/
theorem entry_shaped {s : State} {tenant : Tenant}
    (reached : (machine true).Reaches (fun s label => s.resumesRecord label = true) s) :
    ((s.stored tenant).value.sleep = none ∨ (s.stored tenant).value.transition = none) ∧
      ((s.stored tenant).blocked = true →
        (s.stored tenant).value.sleep ≠ none ∨ (s.stored tenant).value.transition ≠ none) ∧
      (∀ operation next,
        s.running tenant = some (operation, .perform (.update .commitResumed) next) →
          (s.stored tenant).value.transition ≠ none) ∧
      ∀ wakeAt guarded check already entry,
        (Manager.runForTenant (Manager.sleepBody true wakeAt guarded check)).Ends (replies tenant)
          (.ok (already, entry)) () () → entry.value.sleep ≠ none := by
  have lawful := lawful_of_reaches reached tenant
  obtain ⟨stage, traces⟩ := lawful.traces
  have law : Always ResumesRecord (s.history tenant) :=
    always_of_reaches (fun lawful ok cause => resumesRecord_sound lawful ok cause) reached
  have shaped := shaped_of_traces traces law
  refine ⟨?_, ?_, fun _ _ => lawful.resumed_recorded, fun _ _ _ _ _ => sleepBody_asleep⟩
  · exact lawful.replay ▸ shaped.apart
  · exact lawful.replay ▸ shaped.blocked

theorem interruptedCheckedSleep_shaped :
    ∃ s, (machine true).runWithin State.resumesRecord (machine true).start
        interruptedCheckedSleep = some s ∧
      (s.stored "red").blocked = true ∧ (s.stored "red").value.transition ≠ none := by
  refine ⟨_, rfl, rfl, ?_⟩
  exact (entry_shaped (Machine.reaches_of_runWithin interruptedCheckedSleep .start rfl)).2.2.1 _ _
    rfl

/-- A sleeping tenant has a resume goroutine after a restart, and is woken before
the goroutine gets the lock. -/
def blockAfterWake : List Label :=
  boot ++ .acquire "red" (.sleep none false .callback) :: succeed "red" 15 ++
    .finish "red" :: .crash :: boot ++ .acquire "red" .wake :: succeed "red" 10 ++
    .finish "red" :: .acquire "red" .resume :: succeed "red" 9

/-- Recovery blocks the targets of a tenant that is awake. -/
theorem blockAfterWake_bare :
    ∃ s, (machine true).run (machine true).start blockAfterWake = some s ∧
      s.stored "red" = some { targetRegistrationBlocked := true } :=
  ⟨_, rfl, rfl⟩

end Nstance.TenantState
