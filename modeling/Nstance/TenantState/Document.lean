import Mathlib.Logic.Function.Basic

/-!
# The tenant state document and its updates

A tenant's entry in the document of a shard says whether it is asleep, which facts of an
unfinished cutover are recorded, and whether ordinary target registration is blocked. Every
write goes through `Manager.update`, with a closure that changes the entry of one tenant or
declines to. The closures are listed by the place they are written at (`Update`).
-/

set_option linter.dupNamespace false

namespace Nstance.TenantState

abbrev Tenant := String

/-- An instant on the wall clock. -/
abbrev Time := Int

/-- The tenant sleeps, perhaps until a time. -/
structure SleepState where
  wakeAt : Option Time := none
deriving DecidableEq

/-- How far a transition has got. -/
structure TransitionProgress where
  wakeAt : Option Time := none
  withdrawalAt : Option Time := none
  guarded : Bool := false
  restoring : Bool := false
deriving DecidableEq

/-- What is stored of a tenant. -/
structure TenantState where
  sleep : Option SleepState := none
  transition : Option TransitionProgress := none
  targetRegistrationBlocked : Bool := false
deriving DecidableEq

/-- A tenant's place in the document, empty when the tenant has no entry. -/
abbrev Entry := Option TenantState

/-- The document, by tenant. -/
abbrev StateDocument := Tenant → Entry

namespace Entry

variable (entry : Entry)

/-- Indexing the document at a tenant without an entry gives the zero value. -/
def value : TenantState := entry.getD {}

/-- The tenant is stored as asleep. -/
def asleep : Bool := entry.value.sleep.isSome

/-- The recorded facts of a cutover, the zero value when there is none. -/
def progress : TransitionProgress := entry.value.transition.getD {}

/-- Targets must not be registered. -/
def blocked : Bool := entry.value.targetRegistrationBlocked

/-- When the tenant is to wake. -/
def deadline : Option Time := entry.value.sleep.bind SleepState.wakeAt

@[simp] theorem value_none : value none = {} := rfl

end Entry

/-- The closures passed to `Manager.update`, by the place they are written at. -/
inductive Update where
  /-- The re-read of `runForTenant`. -/
  | reread
  /-- `Sleep` without a cutover. -/
  | setSleep (wakeAt : Option Time)
  /-- The first update of `Sleep` with a cutover. -/
  | requestSleep (wakeAt : Option Time) (guarded : Bool)
  /-- The last update of `Sleep` with a cutover. -/
  | commitSleep (wakeAt : Option Time)
  /-- The last update of `resumeTenant`. -/
  | commitResumed
  /-- `wake` without a cutover. -/
  | removeSleep
  /-- `wake` with a cutover. -/
  | wake
  | beginRestore
  | blockTargetRegistration
  | markTransition (withdrawalAt : Time)
  /-- The last update of `restore`. -/
  | clear

/-- What an update makes of an entry. -/
inductive Mutation where
  /-- It returns false and nothing is written. -/
  | unchanged
  /-- The entry becomes the given one; `none` deletes it. -/
  | write (entry : Entry)
  /-- It dereferences a nil pointer. -/
  | panic
deriving DecidableEq

/-- The closure of each update. -/
def Update.mutate : Update → Entry → Mutation
  | .reread, _ => .unchanged
  | .setSleep wakeAt, entry =>
    if entry.asleep ∧ entry.deadline = wakeAt then .unchanged
    else .write (some { entry.value with sleep := some ⟨wakeAt⟩ })
  | .requestSleep wakeAt guarded, entry =>
    if entry.asleep then
      if entry.deadline = wakeAt then .unchanged
      else .write (some { entry.value with sleep := some ⟨wakeAt⟩ })
    else
      match entry.value.transition with
      | none => .write (some { entry.value with
          transition := some { wakeAt := wakeAt, guarded := guarded } })
      | some facts => .write (some { entry.value with
          transition := some { facts with wakeAt := wakeAt, guarded := guarded } })
  | .commitSleep wakeAt, entry =>
    .write (some { entry.value with sleep := some ⟨wakeAt⟩, transition := none })
  | .commitResumed, entry =>
    match entry.value.transition with
    | none => .panic
    | some facts =>
      .write (some { entry.value with sleep := some ⟨facts.wakeAt⟩, transition := none })
  | .removeSleep, entry => if entry.asleep then .write none else .unchanged
  | .wake, entry =>
    if entry.value.sleep = none ∧ entry.value.transition = none then .unchanged
    else .write (some { entry.value with
      sleep := none, transition := some entry.progress })
  | .beginRestore, entry =>
    .write (some { entry.value with
      transition := some { entry.progress with restoring := true }
      targetRegistrationBlocked := false })
  | .blockTargetRegistration, entry =>
    if entry.blocked then .unchanged
    else .write (some { entry.value with targetRegistrationBlocked := true })
  | .markTransition withdrawalAt, entry =>
    .write (some { entry.value with
      transition := some { entry.progress with withdrawalAt := some withdrawalAt } })
  | .clear, _ => .write none

/-- The entry after an update. -/
def Update.apply (update : Update) (entry : Entry) : Entry :=
  match update.mutate entry with
  | .write after => after
  | _ => entry

namespace Update

variable {update : Update}

theorem apply_of_write {entry after : Entry} (writes : update.mutate entry = .write after) :
    update.apply entry = after := by
  rw [Update.apply, writes]

theorem apply_of_unchanged {entry : Entry} (declines : update.mutate entry = .unchanged) :
    update.apply entry = entry := by
  rw [Update.apply, declines]

/-! ## What each update does -/

section

variable {entry : Entry}

theorem mutate_requestSleep (wakeAt : Option Time) (guarded : Bool) (awake : entry.asleep = false) :
    (requestSleep wakeAt guarded).mutate entry = .write (some { entry.value with
      transition := some { entry.progress with wakeAt := wakeAt, guarded := guarded } }) := by
  have not_asleep : ¬ entry.asleep = true := Bool.eq_false_iff.mp awake
  cases facts : entry.value.transition with
  | none | some => simp [mutate, not_asleep, facts, Entry.progress]

variable {wakeAt : Option Time} {guarded : Bool}

theorem mutate_postpone_same (asleep : entry.asleep = true) (same : entry.deadline = wakeAt) :
    (requestSleep wakeAt guarded).mutate entry = .unchanged :=
  (if_pos asleep).trans (if_pos same)

theorem mutate_postpone (asleep : entry.asleep = true) (different : entry.deadline ≠ wakeAt) :
    (requestSleep wakeAt guarded).mutate entry =
      .write (some { entry.value with sleep := some ⟨wakeAt⟩ }) :=
  (if_pos asleep).trans (if_neg different)

theorem mutate_wake_idle (idle : entry.value.sleep = none ∧ entry.value.transition = none) :
    wake.mutate entry = .unchanged :=
  if_pos idle

theorem mutate_wake (engaged : ¬ (entry.value.sleep = none ∧ entry.value.transition = none)) :
    wake.mutate entry = .write (some { entry.value with
      sleep := none, transition := some entry.progress }) :=
  if_neg engaged

theorem mutate_commitResumed_bare (bare : entry.value.transition = none) :
    commitResumed.mutate entry = .panic := by
  simp [mutate, bare]

theorem mutate_commitResumed (recorded : entry.value.transition ≠ none) :
    commitResumed.mutate entry = .write (some { entry.value with
      sleep := some ⟨entry.progress.wakeAt⟩, transition := none }) := by
  obtain ⟨facts, stored⟩ := Option.ne_none_iff_exists'.mp recorded
  simp [mutate, stored, Entry.progress]

theorem mutate_block_already (already : entry.blocked = true) :
    blockTargetRegistration.mutate entry = .unchanged :=
  if_pos already

theorem mutate_block (unblocked : ¬ entry.blocked = true) : blockTargetRegistration.mutate entry =
      .write (some { entry.value with targetRegistrationBlocked := true }) :=
  if_neg unblocked

theorem value_requestSleep (wakeAt : Option Time) (guarded : Bool) (awake : entry.asleep = false) :
    ((requestSleep wakeAt guarded).apply entry).value = { entry.value with
      transition := some { entry.progress with wakeAt := wakeAt, guarded := guarded } } := by
  rw [apply_of_write (mutate_requestSleep wakeAt guarded awake)]
  rfl

theorem value_postpone (wakeAt : Option Time) (guarded : Bool) (asleep : entry.asleep = true) :
    ((requestSleep wakeAt guarded).apply entry).value =
      { entry.value with sleep := some ⟨wakeAt⟩ } := by
  by_cases same : entry.deadline = wakeAt
  · rw [apply_of_unchanged (mutate_postpone_same asleep same)]
    obtain ⟨⟨stored_at⟩, stored⟩ := Option.isSome_iff_exists.mp asleep
    have deadline : stored_at = wakeAt := by
      rw [← same, Entry.deadline, stored]
      rfl
    rw [← deadline, ← stored]
  · rw [apply_of_write (mutate_postpone asleep same)]
    rfl

theorem value_commitResumed (recorded : entry.value.transition ≠ none) :
    (commitResumed.apply entry).value =
      { entry.value with sleep := some ⟨entry.progress.wakeAt⟩, transition := none } := by
  rw [apply_of_write (mutate_commitResumed recorded)]
  rfl

theorem value_wake (engaged : ¬ (entry.value.sleep = none ∧ entry.value.transition = none)) :
    (wake.apply entry).value =
      { entry.value with sleep := none, transition := some entry.progress } := by
  rw [apply_of_write (mutate_wake engaged)]
  rfl

@[simp] theorem value_beginRestore : (beginRestore.apply entry).value = { entry.value with
      transition := some { entry.progress with restoring := true }
      targetRegistrationBlocked := false } := rfl

@[simp] theorem value_blockTargetRegistration : (blockTargetRegistration.apply entry).value =
      { entry.value with targetRegistrationBlocked := true } := by
  by_cases already : entry.blocked = true
  · rw [apply_of_unchanged (mutate_block_already already)]
    exact congrArg
      (fun blocked => { entry.value with targetRegistrationBlocked := blocked }) already
  · rw [apply_of_write (mutate_block already)]
    rfl

@[simp] theorem value_markTransition (withdrawalAt : Time) :
    ((markTransition withdrawalAt).apply entry).value = { entry.value with
      transition := some { entry.progress with withdrawalAt := some withdrawalAt } } := rfl

@[simp] theorem apply_clear : clear.apply entry = none := rfl

end

end Update

end Nstance.TenantState
