import Nstance.TenantState.System

/-!
# The protocol of one tenant

What an operation may do next depends on what it has done since it took the tenant's lock
(`Stage`) and on the stored entry. `Moves` lists the events that are admitted. A history
follows the protocol when it is a path of such moves from the free lock (`Traces`); its entry
is the replay of its writes (`entryOf`).

That the programs follow it is stated by a contract (`contract`): every action that leaves a
trace must be a move, and the cache may be read, and the targets withdrawn, only when the
last update of the operation refreshed it.
-/

namespace Nstance.TenantState

open Interaction

/-! ## What a history leaves -/

/-- The entry that the writes leave. -/
def entryOf : History → Entry
  | [] => none
  | .wrote update :: before => update.apply (entryOf before)
  | _ :: before => entryOf before

/-- The on-demand rows that are left. -/
def rowsOf : History → List String
  | [] => []
  | .inserted id :: before => id :: rowsOf before
  | .removed id :: before => (rowsOf before).erase id
  | _ :: before => rowsOf before

/-- The operation that took the lock last. -/
def holder : History → Option Operation
  | [] => none
  | .acquired operation :: _ => some operation
  | _ :: before => holder before

/-- The answer of the on-demand check is the one the rows give. -/
def Observed (before : History) : Event → Prop
  | .found onDemand => onDemand = !(rowsOf before).isEmpty
  | _ => True

/-! ## Stages -/

/-- Points of `continueSleep`. -/
inductive SleepPoint where
  | begun
  | installed
  | ready
  | withdrawn
  | marked
  | checked
  | finished

/-- How far a restoration has got. -/
inductive RestorePoint where
  | begun
  | recorded
  | restored
  | ready
  | removed

/-- Who runs `continueSleep` and will commit the sleep. -/
inductive Origin where
  | request (wakeAt : Option Time)
  | recovery

/-- How far the operation that holds the lock has got. -/
inductive Stage where
  | free
  /-- The lock is held and nothing was done yet. -/
  | held (operation : Operation)
  /-- The on-demand check of a sleep request found no instance. -/
  | cleared (wakeAt : Option Time) (guarded : Bool)
  /-- The first update of a sleep request was written. -/
  | requested (wakeAt : Option Time)
  | sleeping (origin : Origin) (point : SleepPoint)
  /-- A cutover call of `continueSleep` failed and is to be rolled back. -/
  | failing
  /-- The update of `wake` was written. -/
  | woken
  | restoring (point : RestorePoint)
  | restored
  /-- The wake path of a sleeping tenant was installed again. -/
  | reinstalled
  /-- Nothing more will be done. -/
  | over

/-- One stage or the other, by a result. -/
def Stage.on (result : Except Err Unit) (good bad : Stage) : Stage :=
  match result with
  | .ok _ => good
  | .error _ => bad

theorem Stage.on_eq {result : Except Err Unit} {good bad stage : Stage}
    (leads : Stage.on result good bad = stage) : good = stage ∨ bad = stage := by
  cases result with
  | ok => exact .inl leads
  | error error => exact .inr leads

/-- The first update of a sleep request may be written: its check passed, or it
has none that looks at on-demand instances. -/
inductive MayRequest (wakeAt : Option Time) (guarded : Bool) : Stage → Prop where
  | unchecked : MayRequest wakeAt guarded (.held (.sleep wakeAt guarded .callback))
  | checked : MayRequest wakeAt guarded (.cleared wakeAt guarded)

/-- The operations that end a sleep. -/
inductive Wakes : Operation → Prop where
  | wake : Wakes .wake
  | wakeAndWait : Wakes .wakeAndWait
  | createOnDemand : Wakes .createOnDemand
  | timer (expected : Time) : Wakes (.timer expected)

/-- `continueSleep` is past the withdrawal: it made one and recorded it, or it
found one recorded. -/
def Recorded (point : SleepPoint) (entry : Entry) : Prop :=
  point = .marked ∨ point = .ready ∧ entry.progress.withdrawalAt ≠ none

/-- `continueSleep` may return without an error. -/
def Settled (point : SleepPoint) (entry : Entry) : Prop :=
  point = .finished ∨ Recorded point entry ∧ entry.progress.guarded = false

/-- `continueSleep` may take its error exit: a call failed, or the write of the
withdrawal time did, possibly after it was applied. -/
inductive MayRollBack : Stage → Prop where
  | failing : MayRollBack .failing
  | unmarked (origin : Origin) : MayRollBack (.sleeping origin .withdrawn)
  | marked (origin : Origin) : MayRollBack (.sleeping origin .marked)

/-! ## Moves -/

/-- The events a stage admits, given the stored entry, and where they lead. -/
inductive Moves : Stage → Entry → Event → Stage → Prop where
  | acquire {entry : Entry} (operation : Operation) :
      Moves .free entry (.acquired operation) (.held operation)
  | release {stage : Stage} {entry : Entry} :
      Moves stage entry .released .free
  | remove {stage : Stage} {entry : Entry} (id : String) :
      Moves stage entry (.removed id) stage
  | absent {entry : Entry} (wakeAt : Option Time) (guarded : Bool) :
      Moves (.held (.sleep wakeAt guarded .onDemand)) entry (.found false)
        (.cleared wakeAt guarded)
  | present {entry : Entry} (wakeAt : Option Time) (guarded : Bool) :
      Moves (.held (.sleep wakeAt guarded .onDemand)) entry (.found true) .over
  | request {stage : Stage} {entry : Entry} (wakeAt : Option Time) (guarded : Bool)
      (may : MayRequest wakeAt guarded stage) (awake : entry.asleep = false) :
      Moves stage entry (.wrote (.requestSleep wakeAt guarded)) (.requested wakeAt)
  | postpone {stage : Stage} {entry : Entry} (wakeAt : Option Time) (guarded : Bool)
      (may : MayRequest wakeAt guarded stage) (asleep : entry.asleep = true) :
      Moves stage entry (.wrote (.requestSleep wakeAt guarded)) .over
  | continueRequested {entry : Entry} (wakeAt : Option Time) :
      Moves (.requested wakeAt) entry (.entered .continueSleep)
        (.sleeping (.request wakeAt) .begun)
  | continueResumed {entry : Entry} (forward : entry.progress.restoring = false)
      (awake : entry.asleep = false) :
      Moves (.held .resume) entry (.entered .continueSleep) (.sleeping .recovery .begun)
  | install {entry : Entry} (origin : Origin) (result : Except Err Unit) :
      Moves (.sleeping origin .begun) entry (.called .installWakePath result)
        (.on result (.sleeping origin .installed) .over)
  | ready {entry : Entry} (origin : Origin) (result : Except Err Unit) :
      Moves (.sleeping origin .installed) entry (.called .waitWakePathReady result)
        (.on result (.sleeping origin .ready) .over)
  | block {entry : Entry} (origin : Origin) (unrecorded : entry.progress.withdrawalAt = none) :
      Moves (.sleeping origin .ready) entry (.wrote .blockTargetRegistration)
        (.sleeping origin .ready)
  | withdraw {entry : Entry} (origin : Origin) (result : Except Err Unit)
      (unrecorded : entry.progress.withdrawalAt = none) (blocked : entry.blocked = true) :
      Moves (.sleeping origin .ready) entry (.called .beginTargetWithdrawal result)
        (.on result (.sleeping origin .withdrawn) .failing)
  | mark {entry : Entry} (origin : Origin) (withdrawalAt : Time) :
      Moves (.sleeping origin .withdrawn) entry (.wrote (.markTransition withdrawalAt))
        (.sleeping origin .marked)
  | check {entry : Entry} {point : SleepPoint} {withdrawalAt : Time} (origin : Origin)
      (result : Except Err Unit) (recorded : Recorded point entry)
      (guarded : entry.progress.guarded = true)
      (stored : entry.progress.withdrawalAt = some withdrawalAt) :
      Moves (.sleeping origin point) entry (.called (.checkActivity withdrawalAt) result)
        (.on result (.sleeping origin .checked) .failing)
  | finish {entry : Entry} (origin : Origin) (result : Except Err Unit) :
      Moves (.sleeping origin .checked) entry (.called .finishTargetWithdrawal result)
        (.on result (.sleeping origin .finished) .failing)
  | commit {entry : Entry} {point : SleepPoint} (wakeAt : Option Time)
      (settled : Settled point entry) :
      Moves (.sleeping (.request wakeAt) point) entry (.wrote (.commitSleep wakeAt)) .over
  | commitResumed {entry : Entry} {point : SleepPoint} (settled : Settled point entry)
      (recorded : entry.value.transition ≠ none) :
      Moves (.sleeping .recovery point) entry (.wrote .commitResumed) .over
  | rollBack {stage : Stage} {entry : Entry} (may : MayRollBack stage) :
      Moves stage entry (.entered .restore) (.restoring .begun)
  | wake {entry : Entry} {operation : Operation} (wakes : Wakes operation)
      (engaged : ¬ (entry.value.sleep = none ∧ entry.value.transition = none)) :
      Moves (.held operation) entry (.wrote .wake) .woken
  | restoreWoken {entry : Entry} :
      Moves .woken entry (.entered .restore) (.restoring .begun)
  | restoreResumed {entry : Entry} (restoring : entry.progress.restoring = true) :
      Moves (.held .resume) entry (.entered .restore) (.restoring .begun)
  | beginRestore {entry : Entry} :
      Moves (.restoring .begun) entry (.wrote .beginRestore) (.restoring .recorded)
  | restoreTargets {entry : Entry} (result : Except Err Unit) :
      Moves (.restoring .recorded) entry (.called .restoreTargets result)
        (.on result (.restoring .restored) .over)
  | targetsReady {entry : Entry} (result : Except Err Unit) :
      Moves (.restoring .restored) entry (.called .waitTargetsReady result)
        (.on result (.restoring .ready) .over)
  | removeWakePath {entry : Entry} (result : Except Err Unit) :
      Moves (.restoring .ready) entry (.called .removeWakePath result)
        (.on result (.restoring .removed) .over)
  | clear {entry : Entry} :
      Moves (.restoring .removed) entry (.wrote .clear) .restored
  | insertAwake {entry : Entry} (id : String) (awake : entry.value.sleep = none)
      (idle : entry.value.transition = none) :
      Moves (.held .createOnDemand) entry (.inserted id) .over
  | insertRestored {entry : Entry} (id : String) (cleared : entry = none) :
      Moves .restored entry (.inserted id) .over
  | reinstall {entry : Entry} (result : Except Err Unit) (asleep : entry.asleep = true) :
      Moves (.held .resume) entry (.called .installWakePath result) (.on result .reinstalled .over)
  | reready {entry : Entry} (result : Except Err Unit) :
      Moves .reinstalled entry (.called .waitWakePathReady result) .over

/-- The stage that a history has led to. -/
inductive Traces : History → Stage → Prop where
  | nil : Traces [] .free
  | cons {before : History} {stage after : Stage} {event : Event} :
      Traces before stage → Moves stage (entryOf before) event after →
        Observed before event → Traces (event :: before) after

/-- **The invariant rule of the protocol.** What every lawful move keeps holds of
every history whose events all meet the law. -/
theorem Traces.invariant {law : History → Event → Prop} {P : History → Stage → Prop}
    (start : P [] .free)
    (kept : ∀ {before : History} {stage after : Stage} {event : Event}, Traces before stage →
      P before stage → Moves stage (entryOf before) event after → Observed before event →
        Always law (event :: before) → P (event :: before) after)
    {history : History} {stage : Stage} (traces : Traces history stage)
    (lawful : Always law history) : P history stage := by
  induction traces with
  | nil => exact start
  | cons before move observed ih => exact kept before (ih lawful.2) move observed lawful

theorem Moves.held {stage : Stage} {entry : Entry} {event : Event} {operation : Operation}
    (move : Moves stage entry event (.held operation)) :
    event = .acquired operation ∨ stage = .held operation ∧ ∃ id, event = .removed id := by
  generalize target : Stage.held operation = after at move
  cases move with
  | acquire operation =>
    cases target
    exact .inl rfl
  | remove id => exact .inr ⟨rfl, id, rfl⟩
  | _ =>
    first
      | exact absurd target (by simp)
      | rcases Stage.on_eq target.symm with same | same <;> cases same

theorem Traces.holder {history : History} {operation : Operation} {stage : Stage}
    (traces : Traces history stage) (held : stage = .held operation) :
    TenantState.holder history = some operation := by
  induction traces with
  | nil => cases held
  | cons _ move _ ih =>
    subst held
    rcases move.held with rfl | ⟨rfl, id, rfl⟩
    · rfl
    · exact ih rfl

/-! ## The contract of the actions -/

/-- What a running operation knows: the stored entry, its stage, and whether
the cache is known to agree with the document. -/
structure View where
  entry : Entry
  stage : Stage
  fresh : Bool

/-- An update from a view: it may fail without an effect; it must not dereference
nil; if it writes, the write must be a move, and it may still be reported as failed. -/
def View.Updates (u : Update) (Q : Except Err Updated → View → Prop) (v : View) : Prop :=
  (∀ error, Q (.error error) v) ∧
  match u.mutate v.entry with
  | .unchanged => Q (.ok ⟨v.entry, v.entry⟩) { v with fresh := true }
  | .panic => False
  | .write after => ∃ stage, Moves v.stage v.entry (.wrote u) stage ∧
      Q (.ok ⟨v.entry, after⟩) ⟨after, stage, true⟩ ∧
      ∀ error, Q (.error error) ⟨after, stage, false⟩

/-- An event that leaves the entry alone and must be a move. -/
def View.Emits (event : Event) (Q : View → Prop) (v : View) : Prop :=
  ∃ stage, Moves v.stage v.entry event stage ∧ Q { v with stage := stage }

/-- What each action needs, and what it can answer. -/
def demands : (action : Action) → (Reply action → View → Prop) → View → Prop
  | .update u, Q, v => v.Updates u Q
  | .transition, Q, v => v.fresh = true ∧ Q v.entry.progress v
  | .isAsleep, Q, v => v.fresh = true ∧ Q v.entry.asleep v
  | .now, Q, v => ∀ time, Q time v
  | .ctxErr, Q, v => ∀ result, Q result v
  | .call call, Q, v => (call = .beginTargetWithdrawal → v.fresh = true) ∧
      ∀ result, v.Emits (.called call result) (Q result)
  | .enter routine, Q, v => v.Emits (.entered routine) (Q ())
  | .callback, Q, v => ∀ result, Q result v
  | .hasOnDemandInstances, Q, v =>
    (∀ error, Q (.error error) v) ∧ ∀ found, v.Emits (.found found) (Q (.ok found))
  | .createInstance, Q, v =>
    (∀ error, Q (.error error) v) ∧ ∀ id result, v.Emits (.inserted id) (Q result)

theorem View.Emits.imp {event : Event} {P Q : View → Prop} {v : View}
    (implied : ∀ v, P v → Q v) : v.Emits event P → v.Emits event Q :=
  fun ⟨stage, move, holds⟩ => ⟨stage, move, implied _ holds⟩

theorem View.Updates.imp {u : Update} {P Q : Except Err Updated → View → Prop} {v : View}
    (implied : ∀ reply v, P reply v → Q reply v) : v.Updates u P → v.Updates u Q := by
  rintro ⟨failed, written⟩
  refine ⟨fun error => implied _ _ (failed error), ?_⟩
  cases outcome : u.mutate v.entry with
  | unchanged =>
    rw [outcome] at written
    exact implied _ _ written
  | panic => exact absurd written (by simp [outcome])
  | write after =>
    rw [outcome] at written
    obtain ⟨stage, move, answered, lost⟩ := written
    exact ⟨stage, move, implied _ _ answered, fun error => implied _ _ (lost error)⟩

/-- **The contract of the manager's actions with the protocol.** -/
def contract : Contract interface View where
  demand := demands
  mono := by
    intro action P Q implied v holds
    cases action with
    | update u => exact View.Updates.imp implied holds
    | transition | isAsleep => exact ⟨holds.1, implied _ _ holds.2⟩
    | now => exact fun time => implied _ _ (holds time)
    | ctxErr | callback => exact fun result => implied _ _ (holds result)
    | call call => exact ⟨holds.1, fun result => (holds.2 result).imp (implied result)⟩
    | enter routine => exact View.Emits.imp (implied ()) holds
    | hasOnDemandInstances =>
      exact ⟨fun error => implied _ _ (holds.1 error),
        fun found => (holds.2 found).imp (implied _)⟩
    | createInstance =>
      exact ⟨fun error => implied _ _ (holds.1 error),
        fun id result => (holds.2 id result).imp (implied _)⟩

end Nstance.TenantState
