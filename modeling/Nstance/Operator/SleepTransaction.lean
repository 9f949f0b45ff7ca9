import Nstance.Operator.System

/-!
# No shard is left behind

A sleep request is a transaction over all shards whose only memory is the progress
annotation. It lists a shard before the shard is told to sleep and drops it only after the
shard has answered that it is awake. So the annotations are removed only when no shard may
be asleep, whatever fails and wherever the controller crashes (`no_shard_left_behind`). A
request that is edited under way makes the next invocation drop the progress
(`editedUnderWay_left_behind`).
-/

namespace Nstance.Operator

open Interaction
open Program hiding pure bind

/-- The shards that progress stands for. -/
def covered : Option Progress → List Shard
  | none => []
  | some progress =>
    if progress.phase = .finalizing then progress.finalShard :: progress.accepted
    else progress.accepted

/-! ## Functions that only read -/

/-- The action is a query of a shard's status. -/
def Action.AsksStatus (action : Action) : Prop :=
  ∃ shard, action = .getTenantStatus shard

theorem readStatuses_uses (connections shards : List Shard) (allAsleep missing : Bool) :
    Uses (I := interface) Action.AsksStatus
      (readStatuses connections shards allAsleep missing) := by
  induction shards generalizing allAsleep missing with
  | nil => trivial
  | cons shard rest ih =>
    rw [readStatuses]
    split
    · refine ⟨⟨shard, rfl⟩, ?_⟩
      intro reply
      cases reply with
      | error error => trivial
      | ok status => exact ih ..
    · exact ih ..

variable (r : SleepReconciler)

theorem coordinate_uses (state : Eligibility) :
    Uses (I := interface) (· = .getNode) (coordinate r state) := by
  rw [coordinate]
  split
  · trivial
  refine ⟨rfl, ?_⟩
  intro reply
  cases reply with
  | error error => trivial
  | ok zone =>
    show Uses _ (if zone = "" then _ else _)
    split <;> trivial

/-! ## Functions that only compute -/

variable {connections : List Shard}

theorem mem_orderedShards {coordinating shard : Shard} :
    shard ∈ orderedShards connections coordinating ↔ shard ∈ connections := by
  rw [orderedShards, List.mem_append, List.mem_insertionSort, List.mem_filter]
  constructor
  · rintro (⟨member, _⟩ | last)
    · exact member
    · split at last
      · exact List.mem_singleton.mp last ▸ ‹_›
      · cases last
  · intro member
    by_cases same : shard = coordinating
    · subst same
      rw [if_pos member]
      exact .inr List.mem_cons_self
    · exact .inl ⟨member, by simpa using same⟩

theorem nodup_orderedShards (nodup : connections.Nodup) (coordinating : Shard) :
    (orderedShards connections coordinating).Nodup := by
  refine List.Nodup.append ?_ ?_ ?_
  · exact ((List.perm_insertionSort _ _).nodup_iff).mpr (nodup.filter _)
  · split <;> simp
  · intro shard sorted last
    have different := (List.mem_filter.mp ((List.mem_insertionSort _).mp sorted)).2
    split at last
    · rw [List.mem_singleton.mp last] at different
      simp at different
    · cases last

theorem decodeProgress_ok {value : Option Progress} {request : String} {progress : Progress}
    (decoded : decodeProgress value request = .ok progress) :
    value = none ∧ progress = { request := request, phase := .sleeping } ∨
      value = some progress := by
  cases value with
  | none =>
    cases decoded
    exact .inl ⟨rfl, rfl⟩
  | some stored =>
    rw [decodeProgress] at decoded
    split at decoded
    · cases decoded
    · split at decoded <;> cases decoded
      exact .inr rfl

/-! ## The contract of the actions -/

/-- The stored progress and the shards that may be asleep. -/
structure View where
  stored : Option Progress
  sleepers : List Shard

/-- Progress that decodes for its own request. -/
structure Progress.Sound (r : SleepReconciler) (progress : Progress) : Prop where
  requested : progress.request ≠ ""
  parses : r.parsesTime (requestTime progress.request) = true
  final : progress.phase = .finalizing → progress.finalShard ≠ ""

/-- The progress is that of the request. -/
def Annotations.Matching (cluster : Annotations) : Prop :=
  ∀ progress, cluster.progress = some progress →
    progress.request = cluster.request ∧ progress.Sound r

/-- What has to hold for a change to the annotations. -/
def Edit.Safe (v : View) : Edit → Prop
  | .request _ => v.stored = none
  | .progress value => value.Sound r ∧ ∀ shard ∈ v.sleepers, shard ∈ covered (some value)
  | .finish => v.sleepers = []

/-- What each action needs, and what it can answer. -/
def demand :
    (action : Action) → (Reply action → View → Prop) → View → Prop
  | .get, Q, v => (∀ error, Q (.error error) v) ∧
      ∀ cluster : Annotations, cluster.progress = v.stored → cluster.Matching r → Q (.ok cluster) v
  | .connections, Q, v => ∀ shards : Option (List Shard),
      (∀ shard ∈ shards.getD [], shard ∈ r.shards) → Q shards v
  | .patch base edit, Q, v => base.progress = v.stored ∧ edit.Safe r v ∧
      (∀ error, Q (.error error) v) ∧
      ∀ cluster : Annotations, cluster.progress = (edit.apply base).progress →
        Q (.ok cluster) { v with stored := (edit.apply base).progress }
  | .sleepTenant shard _ _, Q, v => shard ∈ r.shards ∧ shard ∈ covered v.stored ∧
      ∀ reply, Q reply { v with sleepers := shard :: v.sleepers }
  | .wakeTenant shard, Q, v => (∀ reply, reply ≠ .ok .awake → Q reply v) ∧
      Q (.ok .awake) { v with sleepers := v.sleepers.filter (· ≠ shard) }
  | .eligible _, Q, v => ∀ reply, Q reply v
  | .getNode, Q, v => ∀ reply, Q reply v
  | .now, Q, v => ∀ reply, Q reply v
  | .getTenantStatus _, Q, v => ∀ reply, Q reply v
  | .event _, Q, v => Q () v

/-- **The contract of the actions with the stored progress.** -/
def contract : Contract interface View where
  demand := demand r
  mono := by
    intro action P Q implied v holds
    cases action with
    | get => exact ⟨fun error => implied _ _ (holds.1 error),
        fun cluster same matching => implied _ _ (holds.2 cluster same matching)⟩
    | connections => exact fun shards configured => implied _ _ (holds shards configured)
    | patch base edit =>
      obtain ⟨same, safe, failed, patched⟩ := holds
      exact ⟨same, safe, fun error => implied _ _ (failed error),
        fun cluster result => implied _ _ (patched cluster result)⟩
    | sleepTenant shard ifNotBusy wakeAt =>
      exact ⟨holds.1, holds.2.1, fun reply => implied _ _ (holds.2.2 reply)⟩
    | wakeTenant shard =>
      exact ⟨fun reply asleep => implied _ _ (holds.1 reply asleep), implied _ _ holds.2⟩
    | eligible | getNode | now | getTenantStatus => exact fun reply => implied _ _ (holds reply)
    | event => exact implied _ _ holds

/-! ## The functions keep to the contract -/

section

variable {r : SleepReconciler} {v : View} {cluster : Annotations} {progress : Progress}
  {post : Except Err Annotations → View → Prop} {shards remaining : List Shard}

theorem wp_storeProgress (same : cluster.progress = v.stored) (sound : progress.Sound r)
    (contained : ∀ shard ∈ v.sleepers, shard ∈ covered (some progress))
    (failed : ∀ error, post (.error error) v)
    (stored : ∀ after : Annotations, after.progress = some progress →
      post (.ok after) { v with stored := some progress }) :
    wp (contract r) post (storeProgress cluster progress) v :=
  ⟨same, ⟨sound, contained⟩, failed, stored⟩

theorem wp_finish (same : cluster.progress = v.stored) (awake : v.sleepers = [])
    (failed : ∀ error, post (.error error) v)
    (finished : ∀ after, post (.ok after) { v with stored := none }) :
    wp (contract r) post (finish cluster) v :=
  ⟨same, awake, failed, fun after _ => finished after⟩

/-- However it ends. -/
def Anyhow {α : Type} (_ : Except Err α) (_ : View) : Prop := True

theorem reject_spec (same : cluster.progress = v.stored) (awake : v.sleepers = [])
    (reason : String) : wp (contract r) Anyhow (reject cluster reason) v := by
  rw [reject, wp_bind]
  exact wp_finish same awake (fun _ => trivial) fun _ => trivial

/-- Waking each of some shards leaves those that remain asleep. -/
structure Wakes (v : View) (shards remaining : List Shard) (after : View) : Prop where
  stored : after.stored = v.stored
  asleep : ∀ shard ∈ after.sleepers, shard ∈ v.sleepers ∧ (shard ∈ shards → shard ∈ remaining)

/-- What waking leaves; it does not fail. -/
def Woken (v : View) (shards : List Shard) : Except Err (List Shard × List Err) → View → Prop
  | .ok left, after => Wakes v shards left.1 after
  | .error _, _ => False

theorem Wakes.cons {shard : Shard} {after : View} (wakes : Wakes v shards remaining after) :
    Wakes v (shard :: shards) (shard :: remaining) after := by
  refine ⟨wakes.stored, fun other asleep => ⟨(wakes.asleep other asleep).1, fun member => ?_⟩⟩
  rcases List.mem_cons.mp member with rfl | member
  · exact List.mem_cons_self
  · exact List.mem_cons_of_mem _ ((wakes.asleep other asleep).2 member)

theorem Wakes.drop {shard : Shard} {after : View}
    (wakes : Wakes { v with sleepers := v.sleepers.filter (· ≠ shard) } shards remaining after) :
    Wakes v (shard :: shards) remaining after := by
  refine ⟨wakes.stored, fun other asleep => ?_⟩
  obtain ⟨before, listed⟩ := wakes.asleep other asleep
  obtain ⟨before, different⟩ := List.mem_filter.mp before
  refine ⟨before, fun member => listed ?_⟩
  exact (List.mem_cons.mp member).resolve_left (by simpa using different)

theorem wakeEach_spec (connections shards : List Shard) (v : View) :
    wp (contract r) (Woken v shards) (wakeEach connections shards) v := by
  induction shards generalizing v with
  | nil => exact ⟨rfl, fun shard asleep => ⟨asleep, id⟩⟩
  | cons shard rest ih =>
    rw [wakeEach]
    split
    · refine wp_act_bind ⟨fun reply asleep => ?_, ?_⟩
      · refine wp_then (wp_mono (fun result after woken => ?_) _ _ (ih v))
        cases result with
        | error error => exact woken
        | ok left =>
          cases reply with
          | error error => exact Wakes.cons woken
          | ok status =>
            cases status with
            | awake => exact absurd rfl asleep
            | unspecified | asleep => exact Wakes.cons woken
      · refine wp_then (wp_mono (fun result after woken => ?_) _ _ (ih _))
        cases result with
        | error error => exact woken
        | ok left => exact Wakes.drop woken
    · refine wp_then (wp_mono (fun result after woken => ?_) _ _ (ih v))
      cases result with
      | error error => exact woken
      | ok left => exact Wakes.cons woken

section

variable (same : cluster.progress = v.stored) (sound : progress.Sound r)
  (compensating : progress.phase = .compensating)
  (contained : ∀ shard ∈ v.sleepers, shard ∈ progress.accepted)
include same sound compensating contained

theorem compensate_spec : wp (contract r) Anyhow (compensate cluster progress) v := by
  refine wp_act_bind fun connections _ => ?_
  refine wp_then (wp_mono (fun result after woken => ?_) _ _
    (wakeEach_spec (connections.getD []) progress.accepted v))
  cases result with
  | error error => trivial
  | ok left =>
    obtain ⟨remaining, errs⟩ := left
    obtain ⟨kept, listed⟩ := woken
    have asleep : ∀ shard ∈ after.sleepers, shard ∈ remaining := fun shard member =>
      (listed shard member).2 (contained shard (listed shard member).1)
    rw [then_ok]
    dsimp only
    split
    · rename_i none
      subst none
      refine wp_then (wp_finish (same.trans kept.symm)
        (List.eq_nil_iff_forall_not_mem.mpr fun shard member =>
          absurd (asleep shard member) List.not_mem_nil) (fun _ => trivial) fun _ => ?_)
      split <;> trivial
    refine wp_then (wp_storeProgress (same.trans kept.symm)
      ⟨sound.requested, sound.parses, sound.final⟩ (fun shard member => ?_)
      (fun _ => trivial) fun _ _ => trivial)
    rw [covered, if_neg (by simp [compensating])]
    exact asleep shard member

theorem rollBack_spec : wp (contract r) Anyhow (rollBack cluster progress) v := by
  refine wp_then (wp_storeProgress same sound (fun shard member => ?_)
    (fun _ => trivial) fun after stored => ?_)
  · rw [covered, if_neg (by simp [compensating])]
    exact contained shard member
  · exact compensate_spec stored sound compensating contained

end

theorem restoreAfterWake_spec (same : cluster.progress = v.stored) (sound : progress.Sound r)
    (configured : ∀ shard ∈ v.sleepers, shard ∈ r.shards) :
    wp (contract r) Anyhow (restoreAfterWake r cluster progress) v := by
  refine wp_act_bind fun connections _ => ?_
  cases connections with
  | none => trivial
  | some connections =>
    refine wp_then ((readStatuses_uses _ _ _ _).wp_of_idle ?_ fun result => ?_)
    · rintro _ ⟨shard, rfl⟩ Q anyhow
      exact anyhow
    cases result with
    | error error => trivial
    | ok found =>
      rw [then_ok]
      dsimp only
      split
      · trivial
      refine rollBack_spec same ⟨sound.requested, sound.parses, (nomatch ·)⟩ rfl
        fun shard member => ?_
      exact (List.mem_insertionSort _).mpr (configured shard member)

/-! ## Forward progress -/

section

variable {shard finalShard other : Shard} {reason : String}

theorem Progress.mem_announce (progress : Progress) (shard finalShard : Shard) :
    shard ∈ covered (some (progress.announce shard finalShard)) := by
  rw [announce]
  split
  · exact List.mem_cons_self
  · exact List.mem_append_right _ List.mem_cons_self

theorem announce_phase (progress : Progress) (shard finalShard : Shard) :
    (progress.announce shard finalShard).phase ≠ .sleeping := by
  rw [Progress.announce]
  split <;> simp

theorem Progress.accepted_announce (member : other ∈ progress.accepted) :
    other ∈ (progress.announce shard finalShard).accepted := by
  rw [announce]
  split
  · exact member
  · exact List.mem_append_left _ member

theorem covered_of_accepted (member : other ∈ progress.accepted) :
    other ∈ covered (some progress) := by
  rw [covered]
  split
  · exact List.mem_cons_of_mem _ member
  · exact member

theorem Progress.Sound.announce (sound : progress.Sound r) (named : shard ≠ "")
    (finalShard : Shard) : (progress.announce shard finalShard).Sound r := by
  rw [Progress.announce]
  split
  · exact ⟨sound.requested, sound.parses, fun _ => named⟩
  · exact ⟨sound.requested, sound.parses, (nomatch ·)⟩

theorem Progress.mem_abandon (member : other = shard ∨ other ∈ progress.accepted) :
    other ∈ (progress.abandon shard reason).accepted := by
  rw [abandon]
  split
  · rename_i listed
    rcases member with rfl | member
    · exact listed
    · exact member
  rcases member with rfl | member
  · exact List.mem_append_right _ List.mem_cons_self
  · exact List.mem_append_left _ member

theorem abandon_spec (same : cluster.progress = v.stored) (sound : progress.Sound r)
    (contained : ∀ other ∈ v.sleepers, other = shard ∨ other ∈ progress.accepted) :
    wp (contract r) Anyhow (rollBack cluster (progress.abandon shard reason)) v :=
  rollBack_spec same ⟨sound.requested, sound.parses, (nomatch ·)⟩ rfl
    fun other member => Progress.mem_abandon (contained other member)

end

theorem sleepShards_spec (force : Bool) (state : Eligibility) (finalShard : Shard)
    {shards : List Shard} (members : ∀ shard ∈ shards, shard ∈ r.shards)
    (same : cluster.progress = v.stored) (sound : progress.Sound r)
    (contained : ∀ shard ∈ v.sleepers, shard ∈ progress.accepted) :
    wp (contract r) Anyhow (sleepShards r force state finalShard shards cluster progress) v := by
  induction shards generalizing cluster progress v with
  | nil => trivial
  | cons shard rest ih =>
    have configured := members shard List.mem_cons_self
    have members' := fun other member => members other (List.mem_cons_of_mem _ member)
    rw [sleepShards]
    split
    · exact ih members' same sound contained
    have named : shard ≠ "" := fun empty => r.named (empty ▸ configured)
    have announced := sound.announce named finalShard
    refine wp_then (wp_storeProgress same announced
      (fun other member => covered_of_accepted (Progress.accepted_announce
        (contained other member))) (fun _ => trivial) fun after stored => ?_)
    refine wp_act_bind ⟨configured, progress.mem_announce shard finalShard, fun reply => ?_⟩
    -- The shard may be asleep from here on.
    have asleep : ∀ other ∈ shard :: v.sleepers,
        other = shard ∨ other ∈ (progress.announce shard finalShard).accepted := by
      intro other member
      rcases List.mem_cons.mp member with rfl | member
      · exact .inl rfl
      · exact .inr (Progress.accepted_announce (contained other member))
    cases reply with
    | error error =>
      split
      · trivial
      · exact abandon_spec stored announced asleep
    | ok response =>
      dsimp only
      split
      · split
        · trivial
        rename_i different
        have listed : ∀ other ∈ shard :: v.sleepers,
            other ∈ (progress.announce shard finalShard).accepted := by
          intro other member
          rcases asleep other member with rfl | member
          · rw [Progress.announce, if_neg different]
            exact List.mem_append_right _ List.mem_cons_self
          · exact member
        have sleeping : Progress.Sound r { progress.announce shard finalShard with
            phase := .sleeping, reason := "" } :=
          ⟨announced.requested, announced.parses, (nomatch ·)⟩
        refine wp_then (wp_storeProgress stored sleeping listed
          (fun _ => trivial) fun after stored => ?_)
        exact ih members' stored sleeping listed
      · exact abandon_spec stored announced asleep

theorem sleepAll_spec (force : Bool) {connections : List Shard} (state : Eligibility)
    (members : ∀ shard ∈ connections, shard ∈ r.shards) (same : cluster.progress = v.stored)
    (sound : progress.Sound r) (contained : ∀ shard ∈ v.sleepers, shard ∈ progress.accepted) :
    wp (contract r) Anyhow (sleepAll r force connections cluster progress state) v := by
  refine wp_then ((coordinate_uses r state).wp_of_idle ?_ fun result => ?_)
  · rintro _ rfl Q anyhow
    exact anyhow
  cases result with
  | error error => trivial
  | ok state =>
    exact sleepShards_spec force state _ (fun shard member => members shard
      (mem_orderedShards.mp member)) same sound contained

theorem proceed_spec (same : cluster.progress = v.stored) (sound : progress.Sound r)
    (contained : ∀ shard ∈ v.sleepers, shard ∈ progress.accepted) :
    wp (contract r) Anyhow (proceed r cluster progress) v := by
  refine wp_act_bind fun connections members => ?_
  cases connections with
  | none => trivial
  | some connections =>
    dsimp only
    split
    · exact sleepAll_spec true {} members same sound contained
    refine wp_act_bind fun reply => ?_
    cases reply with
    | ok state => exact sleepAll_spec false state members same sound contained
    | error error =>
      dsimp only
      split
      · rename_i none
        refine reject_spec same (List.eq_nil_iff_forall_not_mem.mpr fun shard member => ?_) _
        exact absurd (contained shard member) (none ▸ List.not_mem_nil)
      · exact rollBack_spec same ⟨sound.requested, sound.parses, (nomatch ·)⟩ rfl contained

/-! ## Invocations -/

theorem decodeProgress_of_matching (matching : cluster.Matching r) :
    decodeProgress cluster.progress cluster.request =
      .ok (cluster.progress.getD { request := cluster.request, phase := .sleeping }) := by
  cases stored : cluster.progress with
  | none => rfl
  | some progress =>
    obtain ⟨same, sound⟩ := matching progress stored
    rw [decodeProgress, if_neg (not_not_intro same), if_neg fun ⟨finalizing, empty⟩ =>
      sound.final finalizing empty]
    rfl

theorem serve_spec (same : cluster.progress = v.stored) (matching : cluster.Matching r)
    (requested : cluster.request ≠ "")
    (contained : ∀ shard ∈ v.sleepers, shard ∈ covered v.stored)
    (configured : ∀ shard ∈ v.sleepers, shard ∈ r.shards) :
    wp (contract r) Anyhow (serve r cluster) v := by
  rw [serve]
  split
  · rename_i parses
    rw [decodeProgress_of_matching matching]
    dsimp only
    cases stored : cluster.progress with
    | none =>
      refine proceed_spec same ⟨requested, parses, (nomatch ·)⟩ fun shard member => ?_
      exact absurd (contained shard member) (same ▸ stored ▸ List.not_mem_nil)
    | some progress =>
      have sound := (matching progress stored).2
      rw [← same, stored, covered] at contained
      rw [Option.getD_some]
      cases phase : progress.phase with
      | finalizing => exact restoreAfterWake_spec same sound configured
      | compensating => exact compensate_spec same sound phase (by simpa [phase] using contained)
      | sleeping => exact proceed_spec same sound (by simpa [phase] using contained)
  · rename_i garbled
    cases stored : cluster.progress with
    | none =>
      refine reject_spec same (List.eq_nil_iff_forall_not_mem.mpr fun shard member => ?_) _
      exact absurd (contained shard member) (same ▸ stored ▸ List.not_mem_nil)
    | some progress =>
      obtain ⟨equal, sound⟩ := matching progress stored
      exact absurd (equal ▸ sound.parses) garbled

theorem requestSleep_spec (same : cluster.progress = v.stored) (none : v.stored = none) :
    wp (contract r) Anyhow (requestSleep r cluster) v := by
  rw [requestSleep]
  split
  · refine wp_act_bind fun connections _ => ?_
    cases connections with
    | none => trivial
    | some connections =>
      refine wp_act_bind fun reply => ?_
      cases reply with
      | error error => trivial
      | ok state =>
        refine wp_act_bind fun time => wp_act_bind ⟨same, none, fun error => ?_, fun _ _ => ?_⟩
        all_goals trivial
  · trivial

/-- **An invocation keeps to the contract.** -/
theorem reconcile_spec (name : String) (contained : ∀ shard ∈ v.sleepers, shard ∈ covered v.stored)
    (configured : ∀ shard ∈ v.sleepers, shard ∈ r.shards) :
    wp (contract r) Anyhow (reconcile r name) v := by
  rw [reconcile]
  split
  · trivial
  refine wp_act_bind ⟨fun error => ?_, fun cluster same matching => ?_⟩
  · cases error <;> trivial
  · dsimp only
    split
    · rename_i empty
      refine requestSleep_spec same ?_
      cases stored : cluster.progress with
      | none => exact same.symm.trans stored
      | some progress =>
        obtain ⟨equal, sound⟩ := matching progress stored
        exact absurd (equal.trans empty) sound.requested
    · rename_i requested
      exact serve_spec same matching requested contained configured

end

/-! ## The machine keeps what the contract promises -/

/-- The part of a state that matters. -/
def State.view (s : State) : View :=
  ⟨s.cluster.progress, sleepers s.log⟩

/-- Every shard that may be asleep is accounted for, and the running invocation
keeps to its contract. -/
structure Kept (r : SleepReconciler) (s : State) : Prop where
  contained : ∀ shard ∈ sleepers s.log, shard ∈ covered s.cluster.progress
  configured : ∀ shard ∈ sleepers s.log, shard ∈ r.shards
  matching : s.cluster.Matching r
  sound : ∀ program, s.running = some program → wp (contract r) Anyhow program s.view

/-- The conditions of the transaction: the request is not edited while there is
progress, and reads give the latest version. -/
def State.undisturbed (s : State) : Label → Bool
  | .edit _ => s.cluster.progress.isNone
  | .perform (.version number) => number = 0
  | _ => true

/-- Progress is stored only for the request the Cluster has. -/
def State.storesCurrent (s : State) : Label → Bool
  | .perform _ =>
    match s.issues with
    | some (.patch _ (.progress progress)) => progress.request = s.cluster.request
    | _ => true
  | _ => true

section

variable {r : SleepReconciler} {s s' after : State} {label : Label} {base : Annotations}
  {program : Code Result}

theorem progress_of_clears {modified : Annotations} (cleared : clears r base modified = true) :
    modified.progress = none := by
  simp only [clears, Annotations.bare, Bool.and_eq_true, decide_eq_true_eq] at cleared
  exact cleared.1.2.2

theorem not_clears_progress (r : SleepReconciler) (base : Annotations) (value : Progress) :
    ¬ clears r base (Edit.apply (.progress value) base) = true := by
  intro cleared
  cases progress_of_clears cleared

theorem merge_progress {server : Annotations} (modified : Annotations)
    (same : base.progress = server.progress) :
    (merge r base modified server).progress = modified.progress := by
  rw [merge]
  split
  · exact (progress_of_clears ‹_›).symm
  dsimp only
  split
  · rename_i equal
    exact same.symm.trans equal
  · rfl

/-- Storing progress leaves the request that the server has. -/
theorem merge_request (r : SleepReconciler) (base server : Annotations) (value : Progress) :
    (merge r base (Edit.apply (.progress value) base) server).request = server.request := by
  rw [merge, if_neg (not_clears_progress r base value)]
  exact if_pos rfl

section

variable (kept : Kept r s)
include kept

theorem Kept.patch {edit : Edit} (same : base.progress = s.cluster.progress)
    (safe : edit.Safe r s.view)
    (current : ∀ progress, edit = .progress progress → progress.request = s.cluster.request) :
    (merge r base (edit.apply base) s.cluster).Matching r ∧
      ∀ shard ∈ sleepers s.log, shard ∈ covered (edit.apply base).progress := by
  have result := merge_progress (r := r) (edit.apply base) same
  cases edit with
  | request value =>
    have none : base.progress = none := same.trans safe
    refine ⟨fun progress stored => ?_, fun shard member => ?_⟩
    · exact absurd (result.symm.trans stored) (by simp [Edit.apply, none])
    · rw [show (Edit.apply (.request value) base).progress = s.cluster.progress from same]
      exact kept.contained shard member
  | progress value =>
    refine ⟨fun progress stored => ?_, safe.2⟩
    cases result.symm.trans stored
    refine ⟨?_, safe.1⟩
    rw [current _ rfl, merge_request]
  | finish =>
    refine ⟨fun progress stored => ?_, fun shard member => ?_⟩
    · cases result.symm.trans stored
    · rw [show sleepers s.log = [] from safe] at member
      cases member

theorem Kept.goes (sound : wp (contract r) Anyhow program s.view) :
    Kept r { s with running := some program } := by
  refine ⟨kept.contained, kept.configured, kept.matching, ?_⟩
  rintro _ ⟨⟩
  exact sound

theorem Kept.patched {edit : Edit} (same : base.progress = s.cluster.progress)
    (safe : edit.Safe r s.view)
    (current : ∀ progress, edit = .progress progress → progress.request = s.cluster.request)
    (sound : wp (contract r) Anyhow program
      { s.view with stored := (edit.apply base).progress }) :
    Kept r { s.update (merge r base (edit.apply base) s.cluster) with running := some program } := by
  obtain ⟨matching, contained⟩ := kept.patch same safe current
  rw [← merge_progress (r := r) (edit.apply base) same] at contained sound
  refine ⟨contained, kept.configured, matching, ?_⟩
  rintro _ ⟨⟩
  exact sound

theorem Kept.told {shard : Shard} (configured : shard ∈ r.shards)
    (contained : shard ∈ covered s.cluster.progress) (sound : wp (contract r) Anyhow program
      { s.view with sleepers := shard :: s.view.sleepers }) :
    Kept r { s.happen (.sleepTenant shard) with running := some program } := by
  refine ⟨fun other member => ?_, fun other member => ?_, kept.matching, ?_⟩
  · rcases List.mem_cons.mp member with rfl | member
    · exact contained
    · exact kept.contained other member
  · rcases List.mem_cons.mp member with rfl | member
    · exact configured
    · exact kept.configured other member
  · rintro _ ⟨⟩
    exact sound

theorem Kept.woke {shard : Shard} (sound : wp (contract r) Anyhow program
      { s.view with sleepers := s.view.sleepers.filter (· ≠ shard) }) :
    Kept r { s.happen (.awake shard) with running := some program } := by
  refine ⟨fun other member => ?_, fun other member => ?_, kept.matching, ?_⟩
  · exact kept.contained other (List.mem_filter.mp member).1
  · exact kept.configured other (List.mem_filter.mp member).1
  · rintro _ ⟨⟩
    exact sound

/-- **An action does what its contract says.** -/
theorem Kept.perform {action : Action} {next : Reply action → Code Result} {outcome : Outcome}
    {reply : Reply action} (runs : s.running = some (.perform action next))
    (effect : Effect r s action outcome after reply)
    (latest : ∀ number, outcome = .version number → number = 0)
    (current : ∀ base progress, action = .patch base (.progress progress) →
      progress.request = s.cluster.request) :
    Kept r { after with running := some (next reply) } := by
  have holds : demand r action (fun reply after => wp (contract r) Anyhow (next reply) after)
    s.view := kept.sound _ runs
  cases effect with
  | read found =>
    cases latest _ rfl
    cases found
    exact kept.goes (holds.2 s.cluster rfl kept.matching)
  | unread error => exact kept.goes (holds.1 error)
  | connected configured => exact kept.goes (holds _ configured)
  | patched base edit =>
    obtain ⟨same, safe, failed, patched⟩ := holds
    exact kept.patched same safe (fun progress equal => current base progress (equal ▸ rfl))
      (patched _ (merge_progress (edit.apply base) same))
  | unpatched base edit error => exact kept.goes (holds.2.2.1 error)
  | told | untold => exact kept.told holds.1 holds.2.1 (holds.2.2 _)
  | woken shard => exact kept.woke holds.2
  | unwoken shard asleep => exact kept.goes (holds.1 _ (by simpa using asleep))
  | unreached shard error => exact kept.goes (holds.1 _ (by simp))
  | recorded reason => exact kept.goes holds
  | judged | unjudged | located | unlocated | timed | asked | unasked =>
    exact kept.goes (holds _)

theorem Kept.step (stepped : s.step r label = some s') (undisturbed : s.undisturbed label = true)
    (stores : s.storesCurrent label = true) : Kept r s' := by
  cases step_change stepped with
  | invoked name idle => exact kept.goes (reconcile_spec name kept.contained kept.configured)
  | performed runs effect =>
    refine kept.perform runs effect ?_ ?_
    · rintro number rfl
      simpa [State.undisturbed] using undisturbed
    · rintro base progress rfl
      have issued : s.issues = some (.patch base (.progress progress)) := by
        rw [State.issues, runs]
        rfl
      simpa [State.storesCurrent, issued] using stores
  | ended | crashed =>
    exact ⟨kept.contained, kept.configured, kept.matching, by simp⟩
  | edited request =>
    refine ⟨kept.contained, kept.configured, fun progress stored => ?_, kept.sound⟩
    have none : s.cluster.progress = none := by simpa [State.undisturbed] using undisturbed
    cases none.symm.trans stored

end

theorem kept_of_reaches (reached : (operator r).Reaches
      (fun s label => (s.undisturbed label && s.storesCurrent label) = true) s) : Kept r s := by
  refine reached.invariant (P := Kept r) ?_ fun before kept allowed stepped => ?_
  · exact ⟨fun _ => (nomatch ·), fun _ => (nomatch ·), fun _ => (nomatch ·), fun _ => (nomatch ·)⟩
  · obtain ⟨undisturbed, stores⟩ := Bool.and_eq_true_iff.mp allowed
    exact kept.step stepped undisturbed stores

end

/-- **No shard is left behind.** In every run whose invocations store progress
only for the request the Cluster has, every shard that may have been put to sleep
and did not answer since that it is awake is accepted by the stored progress or
is its final shard while it is finalizing, and an invocation that is about to
remove the annotations finds no such shard. -/
theorem no_shard_left_behind {r : SleepReconciler} {s : State}
    (reached : (operator r).Reaches
      (fun s label => (s.undisturbed label && s.storesCurrent label) = true) s) :
    (∀ shard ∈ sleepers s.log, shard ∈ covered s.cluster.progress) ∧
      ∀ base, s.issues = some (.patch base .finish) → sleepers s.log = [] := by
  have kept := kept_of_reaches reached
  refine ⟨kept.contained, fun base issued => ?_⟩
  obtain ⟨program, runs, next⟩ := Option.bind_eq_some_iff.mp issued
  cases program with
  | pure | fail => cases next
  | perform action continue_ =>
    cases next
    have holds := kept.sound _ runs
    exact holds.2.1

/-! ## Runs in full -/

/-- Two shards, and two texts that are times. -/
def twoShards : SleepReconciler where
  clusterName := "c--red"
  shards := ["east", "west"]
  enabled := true
  reconcilePeriod := 60 * second
  parsesTime text := text ∈ ["2026-01-01T00:00:00Z", "2026-01-02T00:00:00Z"]
  formatTime _ := "2026-01-01T00:00:00Z"
  named := by decide

/-- An invocation reads the latest Cluster and goes on with all connections. -/
def invokeConnected : List Label :=
  [.invoke "c--red", .perform (.version 0), .perform (.connections (some ["east", "west"]))]

/-- The first shard sleeps, the second is busy, and both are woken. -/
def refusedBySecond : List Label :=
  .edit "force:2026-01-01T00:00:00Z" :: invokeConnected ++
    [.perform .ok, .perform (.slept ⟨.slept, .asleep⟩), .perform .ok,
      .perform .ok, .perform (.slept ⟨.busy, .awake⟩), .perform .ok,
      .perform (.connections (some ["east", "west"])),
      .perform (.status .awake), .perform (.status .awake)]

theorem refusedBySecond_finishes :
    ∃ s, (operator twoShards).runWithin
        (fun s label => s.undisturbed label && s.storesCurrent label) (operator twoShards).start
        refusedBySecond = some s ∧
      .sleepTenant "east" ∈ s.log ∧ (∃ base, s.issues = some (.patch base .finish)) ∧
      sleepers s.log = [] :=
  ⟨_, rfl, by decide, ⟨_, rfl⟩,
    (no_shard_left_behind
      (Machine.reaches_of_runWithin (M := operator twoShards) refusedBySecond .start rfl)).2 _ rfl⟩

/-- The request is edited after an invocation has read it and before it stores
progress; the controller crashes with the first shard asleep and is invoked
again. -/
def editedUnderWay : List Label :=
  [.edit "force:2026-01-01T00:00:00Z", .invoke "c--red", .perform (.version 0),
    .edit "force:2026-01-02T00:00:00Z",
    .perform (.connections (some ["east", "west"])), .perform .ok,
    .perform (.slept ⟨.slept, .asleep⟩), .perform .ok, .crash, .invoke "c--red",
    .perform (.version 0)]

/-- The annotations are removed while a shard is asleep. -/
theorem editedUnderWay_left_behind :
    ∃ s s' base, (operator twoShards).runWithin State.undisturbed (operator twoShards).start
        editedUnderWay = some s ∧
      sleepers s.log = ["east"] ∧ s.issues = some (.patch base .finish) ∧
      (operator twoShards).step s (.perform .ok) = some s' ∧ s'.cluster = {} :=
  ⟨_, _, _, rfl, rfl, rfl, rfl, rfl⟩

end Nstance.Operator
