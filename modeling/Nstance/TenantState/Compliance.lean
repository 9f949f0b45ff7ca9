import Nstance.TenantState.Protocol

/-!
# The operations comply with the protocol

One lemma for each program of the manager, up to the operations: from which views it may
start, and what is known where it returns. An error may leave any stage behind, since after
one that it cannot recover from an operation only gives the lock back.
-/

namespace Nstance.TenantState

open Interaction
open Program hiding pure bind

/-- What holds when a program has ended. -/
abbrev Post (α : Type) := Except Err α → View → Prop

/-! ## Actions -/

section

variable {v : View} {α : Type} {u : Update} {call : CutoverCall}

theorem wp_replied (action : Action) {post : Post α} (reads : Reply action = Except Err α) :
    wp contract post (.perform (I := interface) action fun reply => .ofExcept (reads ▸ reply)) v ↔
      demands action (fun reply => post (reads ▸ reply)) v := by
  have same : (fun reply : Reply action =>
      wp contract post (.ofExcept (reads ▸ reply : Except Err α))) =
        fun reply => post (reads ▸ reply) :=
    funext fun reply => funext fun world => propext (wp_ofExcept _ world)
  exact iff_of_eq (congrFun (congrArg (demands action) same) v)

theorem wp_update {post : Post Updated} :
    wp contract post (Manager.update u) v ↔ v.Updates u post :=
  wp_replied (.update u) rfl

variable {post : Post Unit}

theorem wp_cutover : wp contract post (Manager.cutover call) v ↔
      (call = .beginTargetWithdrawal → v.fresh = true) ∧
        ∀ result, v.Emits (.called call result) (post result) :=
  wp_replied (.call call) rfl

theorem wp_ctxErr : wp contract post Manager.ctxErr v ↔ ∀ result, post result v :=
  wp_replied .ctxErr rfl

theorem wp_callback : wp contract post Manager.callback v ↔ ∀ result, post result v :=
  wp_replied .callback rfl

theorem wp_hasOnDemandInstances {post : Post Bool} :
    wp contract post Manager.hasOnDemandInstances v ↔ (∀ error, post (.error error) v) ∧
        ∀ found, v.Emits (.found found) (post (.ok found)) :=
  wp_replied .hasOnDemandInstances rfl

theorem wp_createInstance : wp contract post Manager.createInstance v ↔
      (∀ error, post (.error error) v) ∧ ∀ id result, v.Emits (.inserted id) (post result) :=
  wp_replied .createInstance rfl

theorem wp_enter {routine : Routine} :
    wp contract post (Manager.enter routine) v ↔ v.Emits (.entered routine) (post (.ok ())) :=
  Iff.rfl

theorem wp_transition {post : Post TransitionProgress} : wp contract post Manager.transition v ↔
      v.fresh = true ∧ post (.ok v.entry.progress) v :=
  Iff.rfl

theorem wp_isAsleep {post : Post Bool} :
    wp contract post Manager.isAsleep v ↔ v.fresh = true ∧ post (.ok v.entry.asleep) v :=
  Iff.rfl

theorem wp_now {post : Post Time} : wp contract post Manager.now v ↔ ∀ time, post (.ok time) v :=
  Iff.rfl

theorem updates_of_write {post : Post Updated} {after : Entry} {stage : Stage}
    (writes : u.mutate v.entry = .write after) (move : Moves v.stage v.entry (.wrote u) stage)
    (failed : ∀ error, post (.error error) v)
    (lost : ∀ error, post (.error error) ⟨after, stage, false⟩)
    (done : post (.ok ⟨v.entry, after⟩) ⟨after, stage, true⟩) : v.Updates u post := by
  refine ⟨failed, ?_⟩
  rw [writes]
  exact ⟨stage, move, done, lost⟩

theorem cutover_spec {good bad : Stage} (fresh : call = .beginTargetWithdrawal → v.fresh = true)
    (move : ∀ result, Moves v.stage v.entry (.called call result) (.on result good bad))
    (failed : ∀ error, post (.error error) { v with stage := bad })
    (done : post (.ok ()) { v with stage := good }) :
    wp contract post (Manager.cutover call) v := by
  refine wp_cutover.mpr ⟨fresh, fun result => ⟨_, move result, ?_⟩⟩
  cases result with
  | ok => exact done
  | error error => exact failed error

theorem wrapping_spec {context : String} {program : Code α} {post : Post α}
    (inner : wp contract (Else contract post fun cause => .fail (.wrap context cause)) program v) :
    wp contract post (Manager.wrapping context program) v :=
  wp_else inner

end

/-! ## Restoration -/

section

variable {v : View} {post : Post Unit} {entry : Entry} {origin : Origin}

theorem restore_spec (may : Moves v.stage v.entry (.entered .restore) (.restoring .begun))
    (failed : ∀ error world, post (.error error) world)
    (done : post (.ok ()) ⟨none, .restored, true⟩) : wp contract post Manager.restore v := by
  refine wp_then (wp_enter.mpr ⟨_, may, ?_⟩)
  refine wp_then (wp_update.mpr ?_)
  refine updates_of_write rfl .beginRestore (fun error => failed error _)
    (fun error => failed error _) ?_
  refine wp_then (wrapping_spec (cutover_spec (by simp) .restoreTargets
    (fun error => failed _ _) ?_))
  refine wp_then (wrapping_spec (cutover_spec (by simp) .targetsReady (fun error => failed _ _) ?_))
  refine wp_then (wrapping_spec (cutover_spec (by simp) .removeWakePath
    (fun error => failed _ _) ?_))
  refine wp_then (wp_update.mpr ?_)
  exact updates_of_write rfl .clear (fun error => failed error _) (fun error => failed error _) done

theorem rollback_spec {error : Err} (may : MayRollBack v.stage)
    (failed : ∀ error world, post (.error error) world) :
    wp contract post (Manager.rollback error) v := by
  refine wp_then (wp_else ?_)
  exact restore_spec (.rollBack may) (fun _ world => failed _ world) (failed error _)

/-! ## The sleep cutover -/

/-- `withdraw` either fails or has made and recorded a withdrawal. -/
theorem withdraw_spec {fresh : Bool} (unrecorded : entry.progress.withdrawalAt = none)
    (failed : ∀ error world, post (.error error) world)
    (done : ∀ after, after.value.transition ≠ none →
      post (.ok ()) ⟨after, .sleeping origin .marked, true⟩) :
    wp contract post Manager.withdraw ⟨entry, .sleeping origin .ready, fresh⟩ := by
  -- Once registration is blocked the rest runs from the same stage.
  have blocked : ∀ entry : Entry, entry.progress.withdrawalAt = none → entry.blocked = true →
      wp contract post
        ((Manager.cutover .beginTargetWithdrawal).recover Manager.rollback >>= fun _ =>
          Manager.now >>= fun withdrawalAt =>
            (Manager.update (.markTransition withdrawalAt) >>= fun _ => pure ()).recover
              Manager.rollback) ⟨entry, .sleeping origin .ready, true⟩ := by
    intro entry none_yet is_blocked
    refine wp_then (wp_else (cutover_spec (fun _ => rfl)
      (fun result => .withdraw origin result none_yet is_blocked) (fun error => ?_) ?_))
    · exact rollback_spec .failing fun error world => failed error world
    refine wp_then (wp_now.mpr fun time => wp_else ?_)
    refine wp_then (wp_update.mpr (updates_of_write rfl (.mark origin time) ?_ ?_ ?_))
    · exact fun error => rollback_spec (.unmarked origin) failed
    · exact fun error => rollback_spec (.marked origin) failed
    · exact done _ (Option.some_ne_none _)
  refine wp_then (wp_update.mpr ⟨fun error => failed error _, ?_⟩)
  by_cases already : entry.blocked = true
  · rw [Update.mutate_block_already already]
    exact blocked entry unrecorded already
  rw [Update.mutate_block already]
  refine ⟨_, .block origin unrecorded, ?_, fun error => failed error _⟩
  exact blocked (some { entry.value with targetRegistrationBlocked := true }) unrecorded rfl

theorem guard_spec {fresh : Bool} {point : SleepPoint} (recorded : Recorded point entry)
    (guarded : entry.progress.guarded = true) (failed : ∀ error world, post (.error error) world)
    (done : post (.ok ()) ⟨entry, .sleeping origin .finished, fresh⟩) :
    wp contract post (Manager.guard entry.progress.withdrawalAt)
      ⟨entry, .sleeping origin point, fresh⟩ := by
  cases stored : entry.progress.withdrawalAt with
  | none => exact failed _ _
  | some withdrawalAt =>
    refine wp_then (wp_else (cutover_spec (by simp)
      (fun result => .check origin result recorded guarded stored) (fun error => ?_) ?_))
    · exact rollback_spec .failing fun error world => failed error world
    refine wp_else (cutover_spec (by simp) (.finish origin) (fun error => ?_) done)
    exact rollback_spec .failing failed

/-- `continueSleep` either fails or may be followed by the commit. -/
theorem continueSleep_spec {stage : Stage}
    (may : Moves stage entry (.entered .continueSleep) (.sleeping origin .begun))
    (failed : ∀ error world, post (.error error) world) (done : ∀ after point, Settled point after →
      after.value.transition ≠ none → post (.ok ()) ⟨after, .sleeping origin point, true⟩) :
    wp contract post Manager.continueSleep ⟨entry, stage, true⟩ := by
  -- The part after the withdrawal, from a view in which one is recorded.
  have checked : ∀ (entry : Entry) (point : SleepPoint), Recorded point entry →
      entry.value.transition ≠ none → wp contract post (Manager.transition >>= fun progress =>
        if progress.guarded then Manager.guard progress.withdrawalAt else pure ())
          ⟨entry, .sleeping origin point, true⟩ := by
    intro entry point recorded kept
    refine wp_then (wp_transition.mpr ⟨rfl, ?_⟩)
    rw [then_ok]
    by_cases guarded : entry.progress.guarded = true
    · rw [if_pos guarded]
      exact guard_spec recorded guarded failed (done entry .finished (.inl rfl) kept)
    · rw [if_neg guarded]
      exact done entry point (.inr ⟨recorded, Bool.eq_false_iff.mpr guarded⟩) kept
  refine wp_then (wp_enter.mpr ⟨_, may, ?_⟩)
  refine wp_then (cutover_spec (by simp) (.install origin) (fun error => failed error _) ?_)
  refine wp_then (cutover_spec (by simp) (.ready origin) (fun error => failed error _) ?_)
  refine wp_then (wp_transition.mpr ⟨rfl, ?_⟩)
  refine wp_then ?_
  by_cases unrecorded : entry.progress.withdrawalAt = none
  · rw [if_pos unrecorded]
    exact withdraw_spec unrecorded (fun error world => failed error world)
      fun after => checked after .marked (.inl rfl)
  · rw [if_neg unrecorded]
    refine checked entry .ready (.inr ⟨rfl, unrecorded⟩) fun bare => unrecorded ?_
    simp [Entry.progress, bare]

end

/-! ## Operations -/

section

variable {entry : Entry} {fresh : Bool} {wakeAt : Option Time} {guarded : Bool}

/-- `wake` either fails, finds the tenant awake, or leaves it without an entry. -/
theorem wake_spec {post : Post Bool} {operation : Operation} (wakes : Wakes operation)
    (failed : ∀ error world, post (.error error) world)
    (awake : entry.value.sleep = none → entry.value.transition = none →
      post (.ok true) ⟨entry, .held operation, true⟩)
    (done : post (.ok false) ⟨none, .restored, true⟩) :
    wp contract post (Manager.wake true) ⟨entry, .held operation, fresh⟩ := by
  refine wp_then (wp_update.mpr ⟨fun error => failed error _, ?_⟩)
  by_cases idle : entry.value.sleep = none ∧ entry.value.transition = none
  · rw [Update.mutate_wake_idle idle]
    show wp contract post (if _ then _ else _) _
    rw [if_pos idle]
    exact awake idle.1 idle.2
  rw [Update.mutate_wake idle]
  refine ⟨.woken, .wake wakes idle, ?_, fun error => failed error _⟩
  show wp contract post (if _ then _ else _) _
  rw [if_neg idle]
  exact wp_then (restore_spec .restoreWoken (fun error world => failed error world) done)

variable {stage : Stage} {check : Check}

theorem runForTenant_spec {α : Type} {run : Code α} {post : Post α}
    (failed : ∀ error world, post (.error error) world)
    (body : wp contract (fun result world => ∀ value, result = .ok value →
      post (.ok value) world) run ⟨entry, stage, true⟩) :
    wp contract post (Manager.runForTenant run) ⟨entry, stage, fresh⟩ := by
  refine wp_then (wp_ctxErr.mpr fun result => ?_)
  cases result with
  | error error => exact failed error _
  | ok =>
    refine wp_then (wp_update.mpr ⟨fun error => failed error _, ?_⟩)
    refine wp_then (wp_mono (fun result world holds => ?_) _ _ body)
    cases result with
    | error error => exact failed error _
    | ok value =>
      refine wp_then (wp_ctxErr.mpr fun result => ?_)
      cases result with
      | error error => exact failed error _
      | ok => exact holds value rfl

theorem request_spec {post : Post (Bool × Entry)} (may : MayRequest wakeAt guarded stage)
    (always : ∀ result world, post result world) :
    wp contract post (Manager.update (.requestSleep wakeAt guarded) >>= fun requested =>
      if requested.before.asleep then pure (true, requested.after)
      else do
        Manager.continueSleep
        let committed ← Manager.update (.commitSleep wakeAt)
        pure (false, committed.after)) ⟨entry, stage, fresh⟩ := by
  refine wp_then (wp_update.mpr ⟨fun error => always _ _, ?_⟩)
  by_cases asleep : entry.asleep = true
  · by_cases same : entry.deadline = wakeAt
    · rw [Update.mutate_postpone_same asleep same]
      show wp contract post (if _ then _ else _) _
      rw [if_pos asleep]
      exact always _ _
    rw [Update.mutate_postpone asleep same]
    refine ⟨.over, .postpone wakeAt guarded may asleep, ?_, fun error => always _ _⟩
    show wp contract post (if _ then _ else _) _
    rw [if_pos asleep]
    exact always _ _
  · have awake : entry.asleep = false := Bool.eq_false_iff.mpr asleep
    rw [Update.mutate_requestSleep wakeAt guarded awake]
    refine ⟨.requested wakeAt, .request wakeAt guarded may awake, ?_, fun error => always _ _⟩
    show wp contract post (if _ then _ else _) _
    rw [if_neg asleep]
    refine wp_then (continueSleep_spec (.continueRequested wakeAt)
      (fun error world => always _ _) fun after point settled _ => ?_)
    refine wp_then (wp_update.mpr (updates_of_write rfl (.commit wakeAt settled)
      (fun error => always _ _) (fun error => always _ _) ?_))
    exact always _ _

theorem sleepBody_spec {post : Post (Bool × Entry)} (always : ∀ result world, post result world) :
    wp contract post (Manager.sleepBody true wakeAt guarded check)
      ⟨entry, .held (.sleep wakeAt guarded check), fresh⟩ := by
  refine wp_then ?_
  cases check with
  | callback =>
    refine wp_callback.mpr fun result => ?_
    cases result with
    | error error => exact always _ _
    | ok => exact request_spec .unchecked always
  | onDemand =>
    refine wp_then (wp_hasOnDemandInstances.mpr ⟨fun error => always _ _, fun found => ?_⟩)
    cases found with
    | true => exact ⟨_, .present wakeAt guarded, always _ _⟩
    | false => exact ⟨_, .absent wakeAt guarded, request_spec .checked always⟩

theorem sleep_spec {post : Post (Bool × Option Time)} (always : ∀ result world, post result world) :
    wp contract post (Manager.sleep true wakeAt guarded check)
      ⟨entry, .held (.sleep wakeAt guarded check), fresh⟩ := by
  refine wp_then (runForTenant_spec (fun error world => always _ _) ?_)
  refine sleepBody_spec fun result world value _ => ?_
  obtain ⟨alreadyAsleep, entry⟩ := value
  rw [then_ok]
  cases stored : entry.value.sleep with
  | none | some =>
    simp only [stored]
    exact always _ _

theorem resumeTenant_spec {post : Post Unit} (always : ∀ result world, post result world) :
    wp contract post Manager.resumeTenant ⟨entry, .held .resume, fresh⟩ := by
  refine runForTenant_spec (fun error world => always _ _) ?_
  refine wp_then (wp_transition.mpr ⟨rfl, ?_⟩)
  rw [then_ok]
  by_cases restoring : entry.progress.restoring = true
  · rw [if_pos restoring]
    exact restore_spec (.restoreResumed restoring) (fun error world value _ => always _ _)
      fun value _ => always _ _
  rw [if_neg restoring]
  refine wp_then (wp_isAsleep.mpr ⟨rfl, ?_⟩)
  rw [then_ok]
  by_cases asleep : entry.asleep = true
  · rw [if_pos asleep]
    refine wp_then (cutover_spec (by simp) (fun result => .reinstall result asleep)
      (fun error value _ => always _ _) ?_)
    exact wp_cutover.mpr ⟨by simp, fun result => ⟨_, .reready result, fun value _ => always _ _⟩⟩
  rw [if_neg asleep]
  refine wp_then (continueSleep_spec
    (.continueResumed (Bool.eq_false_iff.mpr restoring) (Bool.eq_false_iff.mpr asleep))
    (fun error world value _ => always _ _) fun after point settled kept => ?_)
  refine wp_then (wp_update.mpr ⟨fun error value _ => always _ _, ?_⟩)
  rw [Update.mutate_commitResumed kept]
  exact ⟨.over, .commitResumed settled kept, fun value _ => always _ _,
    fun error value _ => always _ _⟩

/-- **Every operation complies with the protocol** from the stage in which it
took the lock, whatever the entry and the cache are. -/
theorem program_complies (operation : Operation) (entry : Entry) (fresh : Bool) :
    wp contract (fun _ _ => True) (operation.program true) ⟨entry, .held operation, fresh⟩ := by
  -- The wakes differ only in what follows the wake under the same lock.
  have waking : ∀ {rest : Bool → Code Unit}, Wakes operation →
      (entry.value.sleep = none → entry.value.transition = none →
        wp contract (fun _ _ => True) (rest true) ⟨entry, .held operation, true⟩) →
      wp contract (fun _ _ => True) (rest false) ⟨none, .restored, true⟩ →
      wp contract (fun _ _ => True) (Manager.runForTenant (Manager.wake true >>= rest))
        ⟨entry, .held operation, fresh⟩ := by
    intro rest wakes awake restored
    refine runForTenant_spec (fun _ _ => trivial) (wp_then (wake_spec wakes
      (fun _ _ _ _ => trivial) (fun sleep transition => ?_) ?_))
    · exact wp_mono (fun _ _ _ _ _ => trivial) _ _ (awake sleep transition)
    · exact wp_mono (fun _ _ _ _ _ => trivial) _ _ restored
  cases operation with
  | sleep wakeAt guarded check =>
    exact wp_then (sleep_spec fun result world => by cases result <;> trivial)
  | wake => exact waking .wake (fun _ _ => trivial) trivial
  | wakeAndWait =>
    exact waking .wakeAndWait (fun _ _ => wp_callback.mpr fun _ => trivial)
      (wp_callback.mpr fun _ => trivial)
  | createOnDemand =>
    refine waking .createOnDemand (fun sleep transition => ?_) ?_
    · exact wp_createInstance.mpr ⟨fun _ => trivial,
        fun id result => ⟨_, .insertAwake id sleep transition, trivial⟩⟩
    · exact wp_createInstance.mpr ⟨fun _ => trivial,
        fun id result => ⟨_, .insertRestored id rfl, trivial⟩⟩
  | timer expected => exact waking (.timer expected) (fun _ _ => trivial) trivial
  | resume => exact resumeTenant_spec fun _ _ => trivial

end

end Nstance.TenantState
