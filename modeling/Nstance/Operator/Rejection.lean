import Nstance.Operator.SleepTransaction

/-!
# What a rejection may discard

Progress that lists shards, or that is finalizing, has to stay until each of them has
answered that it is awake. Users may edit the request at any time and a read may give any
earlier version of the Cluster.

Three things keep the progress safe: an invocation takes progress only with its own request,
a patch changes the progress only from where it stands, and the last shard does not refuse
while a configured shard is without a connection (`accepted_until_awake`). A request that is
replaced while a shard is asleep breaks the first (`replacedWhileAsleep_discards`).
-/

namespace Nstance.Operator.Rejection

open Interaction
open Program hiding pure bind

variable (r : SleepReconciler) (v : View) (s : State)

/-- The shards that have to answer that they are awake before the progress may let
go of them: those it lists, and all configured ones while it is finalizing. -/
def owed : Option Progress → List Shard
  | none => []
  | some progress => if progress.phase = .finalizing then r.shards else progress.accepted

/-- A shard that was told to wake answers that it is awake. -/
def heard : Option Action → Label → List Shard → List Shard
  | some (.wakeTenant shard), .perform (.status .awake), answered => shard :: answered
  | _, _, answered => answered

/-- The shards that have answered that they are awake since the progress was last
written. -/
def answers (label : Label) (s' : State) (answered : List Shard) : List Shard :=
  if s'.cluster.progress = s.cluster.progress then heard s.issues label answered else []

/-- Runs with the shards that have answered. -/
def answering : Machine (State × List Shard) Label :=
  (operator r).watched [] answers

/-! ## What keeps the progress safe -/

/-- Progress that lists shards is read together with its own request. A Cluster
without a request is left to the next invocation. -/
def readsOwn : Label → Bool
  | .perform (.version number) =>
    match (s.cluster :: s.earlier)[number]? with
    | some ⟨request, some progress⟩ =>
      request = "" || progress.request = request || owed r (some progress) = []
    | _ => true
  | _ => true

/-- A patch that changes the progress, or removes all annotations, is made from the
progress that is stored, unless that one lists nothing. -/
def patchesStored : Label → Bool
  | .perform .ok =>
    match s.issues with
    | some (.patch base edit) =>
      (!clears r base (edit.apply base) && (edit.apply base).progress = base.progress) ||
        base.progress = s.cluster.progress || owed r s.cluster.progress = []
    | _ => true
  | _ => true

/-- The last shard refuses only when every configured shard is listed. -/
def refusesWhole : Label → Bool
  | .perform (.slept response) =>
    match s.issues, s.cluster.progress with
    | some (.sleepTenant shard _ _), some progress =>
      response.confirmed || progress.phase ≠ .finalizing ||
        r.shards.all (· ∈ shard :: progress.accepted)
    | _, _ => true
  | _ => true

variable (noted : State × List Shard)

/-- The three together. -/
def careful (label : Label) : Bool :=
  readsOwn r noted.1 label && patchesStored r noted.1 label && refusesWhole r noted.1 label

/-! ## The contract of the actions -/

/-- The stored progress and the shards that have answered since it was written. -/
structure View where
  stored : Option Progress
  answered : List Shard

/-- Progress of configured shards. -/
structure Storable (r : SleepReconciler) (progress : Progress) : Prop where
  sound : progress.Sound r
  configured : ∀ shard ∈ progress.accepted, shard ∈ r.shards

/-- A Cluster that an invocation may go on from. -/
structure Readable (r : SleepReconciler) (cluster : Annotations) : Prop where
  storable : ∀ progress, cluster.progress = some progress → Storable r progress
  own : ∀ progress, cluster.progress = some progress →
    cluster.request = "" ∨ progress.request = cluster.request ∨ owed r (some progress) = []

/-- What a patch makes of the stored progress. -/
def View.patched (base : Annotations) (edit : Edit) : Option Progress :=
  (merge r base (edit.apply base) { progress := v.stored }).progress

variable (progress : Option Progress)

/-- New progress has no answers yet. -/
def View.write : View :=
  ⟨progress, if progress = v.stored then v.answered else []⟩

/-- The patch changes nothing of the progress, or changes the stored one, or there
is nothing to lose. -/
def View.Standing (base : Annotations) (edit : Edit) : Prop :=
  (clears r base (edit.apply base) = false ∧ (edit.apply base).progress = base.progress) ∨
    base.progress = v.stored ∨ owed r v.stored = []

/-- A refusal while finalizing finds every configured shard listed. -/
def View.Whole (shard : Shard) (response : SleepResponse) : Prop :=
  response.confirmed = false → ∀ progress, v.stored = some progress →
    progress.phase = .finalizing → ∀ other ∈ r.shards, other = shard ∨ other ∈ progress.accepted

/-- No shard is let go before it has answered. -/
def View.Keeps : Prop :=
  ∀ shard ∈ owed r v.stored, shard ∈ v.answered ∨ shard ∈ owed r progress

/-- What each action needs, and what it can answer. -/
def demand :
    (action : Action) → (Reply action → View → Prop) → View → Prop
  | .get, Q, v => (∀ error, Q (.error error) v) ∧
      ∀ cluster : Annotations, Readable r cluster → Q (.ok cluster) v
  | .connections, Q, v => ∀ shards : Option (List Shard),
      (∀ shard ∈ shards.getD [], shard ∈ r.shards) → Q shards v
  | .patch base edit, Q, v => (∀ progress, edit = .progress progress → Storable r progress) ∧
      (v.Standing r base edit → v.Keeps r (v.patched r base edit)) ∧
      (∀ error, Q (.error error) v) ∧
      (v.Standing r base edit → ∀ cluster : Annotations, cluster.progress = v.patched r base edit →
        Q (.ok cluster) (v.write (v.patched r base edit)))
  | .sleepTenant shard _ _, Q, v => (∀ error, Q (.error error) v) ∧
      ∀ response, v.Whole r shard response → Q (.ok response) v
  | .wakeTenant shard, Q, v => (∀ reply, reply ≠ .ok .awake → Q reply v) ∧
      Q (.ok .awake) { v with answered := shard :: v.answered }
  | .eligible _, Q, v => ∀ reply, Q reply v
  | .getNode, Q, v => ∀ reply, Q reply v
  | .now, Q, v => ∀ reply, Q reply v
  | .getTenantStatus _, Q, v => ∀ reply, Q reply v
  | .event _, Q, v => Q () v

/-- **The contract of the actions with progress that must not be lost.** -/
def contract : Contract interface View where
  demand := demand r
  mono := by
    intro action P Q implied v holds
    cases action with
    | get =>
      constructor
      · intro error
        exact implied _ _ (holds.1 error)
      · intro cluster readable
        exact implied _ _ (holds.2 cluster readable)
    | connections =>
      intro shards configured
      exact implied _ _ (holds shards configured)
    | patch base edit =>
      obtain ⟨storable, keeps, failed, patched⟩ := holds
      refine ⟨storable, keeps, ?_, ?_⟩
      · intro error
        exact implied _ _ (failed error)
      · intro standing cluster result
        exact implied _ _ (patched standing cluster result)
    | sleepTenant shard ifNotBusy wakeAt =>
      constructor
      · intro error
        exact implied _ _ (holds.1 error)
      · intro response whole
        exact implied _ _ (holds.2 response whole)
    | wakeTenant shard =>
      refine ⟨?_, implied _ _ holds.2⟩
      intro reply asleep
      exact implied _ _ (holds.1 reply asleep)
    | eligible | getNode | now | getTenantStatus =>
      intro reply
      exact implied _ _ (holds reply)
    | event => exact implied _ _ holds

/-! ## The functions keep to the contract -/

section

variable {r : SleepReconciler} {v : View} {cluster : Annotations} {progress : Progress}

/-- However it ends. -/
def Anyhow {α : Type} (_ : Except Err α) (_ : View) : Prop := True

theorem patched_of_same {base : Annotations} {edit : Edit}
    (whole : clears r base (edit.apply base) = false)
    (same : (edit.apply base).progress = base.progress) : v.patched r base edit = v.stored := by
  rw [View.patched, merge, if_neg (by simp [whole])]
  exact if_pos same.symm

theorem keeps_of_standing {base : Annotations} {edit : Edit}
    (kept : base.progress = v.stored → v.Keeps r (edit.apply base).progress)
    (standing : v.Standing r base edit) : v.Keeps r (v.patched r base edit) := by
  intro shard member
  rcases standing with ⟨whole, same⟩ | stored | nothing
  · rw [patched_of_same whole same]
    exact .inr member
  · rw [View.patched, merge_progress (edit.apply base) stored]
    exact kept stored shard member
  · rw [nothing] at member
    cases member

theorem wp_storeProgress {post : Except Err Annotations → View → Prop}
    (storable : Storable r progress)
    (known : cluster.progress = some progress → cluster.progress = v.stored)
    (kept : cluster.progress = v.stored → v.Keeps r (some progress))
    (failed : ∀ error, post (.error error) v)
    (stored : ∀ (after : Annotations) (v' : View), after.progress = some progress →
      v'.stored = some progress → post (.ok after) v') :
    wp (contract r) post (storeProgress cluster progress) v := by
  have written : v.patched r cluster (.progress progress) = some progress := by
    rw [View.patched, merge, if_neg (not_clears_progress r cluster progress)]
    dsimp only
    split
    · rename_i same
      exact (known same).symm.trans same
    · rfl
  refine ⟨?_, keeps_of_standing kept, failed, ?_⟩
  · rintro _ ⟨⟩
    exact storable
  · intro _ after result
    rw [written] at result ⊢
    exact stored after _ result rfl

theorem reject_spec (kept : cluster.progress = v.stored → v.Keeps r none) (reason : String) :
    wp (contract r) Anyhow (reject cluster reason) v := by
  refine ⟨?_, keeps_of_standing kept, ?_, ?_⟩
  · intro _ impossible
    cases impossible
  · intro _
    trivial
  · intro _ _ _
    trivial

/-- Waking each of some shards: one that does not remain has answered. -/
structure Woken (v : View) (shards remaining : List Shard) (after : View) : Prop where
  stored : after.stored = v.stored
  grown : ∀ shard ∈ v.answered, shard ∈ after.answered
  answered : ∀ shard ∈ shards, shard ∈ remaining ∨ shard ∈ after.answered
  listed : ∀ shard ∈ remaining, shard ∈ shards

/-- What waking leaves; it does not fail. -/
def WokenOr (v : View) (shards : List Shard) : Except Err (List Shard × List Err) → View → Prop
  | .ok left, after => Woken v shards left.1 after
  | .error _, _ => False

variable {shards remaining : List Shard}

theorem Woken.keep {after : View} (shard : Shard) (woken : Woken v shards remaining after) :
    Woken v (shard :: shards) (shard :: remaining) after := by
  refine ⟨woken.stored, woken.grown, ?_, ?_⟩
  · intro other member
    rcases List.mem_cons.mp member with rfl | member
    · exact .inl List.mem_cons_self
    · exact (woken.answered other member).imp_left (List.mem_cons_of_mem _)
  · intro other member
    rcases List.mem_cons.mp member with rfl | member
    · exact List.mem_cons_self
    · exact List.mem_cons_of_mem _ (woken.listed other member)

theorem Woken.drop {after : View} {shard : Shard}
    (woken : Woken { v with answered := shard :: v.answered } shards remaining after) :
    Woken v (shard :: shards) remaining after := by
  refine ⟨woken.stored, ?_, ?_, ?_⟩
  · intro other member
    exact woken.grown other (List.mem_cons_of_mem _ member)
  · intro other member
    rcases List.mem_cons.mp member with rfl | member
    · exact .inr (woken.grown other List.mem_cons_self)
    · exact woken.answered other member
  · intro other member
    exact List.mem_cons_of_mem _ (woken.listed other member)

theorem wakeEach_spec (connections shards : List Shard) (v : View) :
    wp (contract r) (WokenOr v shards) (wakeEach connections shards) v := by
  induction shards generalizing v with
  | nil => exact ⟨rfl, fun _ => id, by simp, by simp⟩
  | cons shard rest ih =>
    rw [wakeEach]
    split
    · refine wp_act_bind ⟨?_, ?_⟩
      · intro reply asleep
        refine wp_then (wp_mono ?_ _ _ (ih v))
        intro result after woken
        cases result with
        | error error => exact woken
        | ok left =>
          cases reply with
          | error error => exact Woken.keep shard woken
          | ok status =>
            cases status with
            | awake => exact absurd rfl asleep
            | unspecified | asleep => exact Woken.keep shard woken
      · refine wp_then (wp_mono ?_ _ _ (ih _))
        intro result after woken
        cases result with
        | error error => exact woken
        | ok left => exact Woken.drop woken
    · refine wp_then (wp_mono ?_ _ _ (ih v))
      intro result after woken
      cases result with
      | error error => exact woken
      | ok left => exact Woken.keep shard woken

theorem owed_compensating (compensating : progress.phase = .compensating) :
    owed r (some progress) = progress.accepted := by
  rw [owed, if_neg (by simp [compensating])]

theorem compensate_spec (own : cluster.progress = some progress) (storable : Storable r progress)
    (compensating : progress.phase = .compensating) :
    wp (contract r) Anyhow (compensate cluster progress) v := by
  refine wp_act_bind ?_
  intro connections _
  refine wp_then (wp_mono ?_ _ _ (wakeEach_spec (connections.getD []) progress.accepted v))
  intro result after woken
  cases result with
  | error error => trivial
  | ok left =>
    obtain ⟨remaining, errs⟩ := left
    -- What is stored is this progress, or the patch is not from where it stands.
    have listed : cluster.progress = after.stored → ∀ shard ∈ owed r after.stored,
        shard ∈ remaining ∨ shard ∈ after.answered := by
      intro same shard member
      rw [← same, own, owed_compensating compensating] at member
      exact woken.answered shard member
    rw [then_ok]
    dsimp only
    split
    · rename_i none
      subst none
      refine wp_then ⟨by simp, keeps_of_standing ?_, fun _ => trivial, ?_⟩
      · intro same shard member
        exact .inl ((listed same shard member).resolve_left List.not_mem_nil)
      · intro _ _ _
        split <;> trivial
    refine wp_then ⟨?_, keeps_of_standing ?_, fun _ => trivial, fun _ _ _ => trivial⟩
    · rintro _ ⟨⟩
      exact ⟨⟨storable.sound.requested, storable.sound.parses, storable.sound.final⟩,
        fun shard member => storable.configured shard (woken.listed shard member)⟩
    · intro same shard member
      have rest : owed r (some { progress with accepted := remaining }) = remaining :=
        owed_compensating compensating
      show _ ∨ shard ∈ owed r (some { progress with accepted := remaining })
      rw [rest]
      exact (listed same shard member).symm

theorem rollBack_spec (storable : Storable r progress)
    (compensating : progress.phase = .compensating)
    (known : cluster.progress = some progress → cluster.progress = v.stored)
    (kept : cluster.progress = v.stored → ∀ shard ∈ owed r v.stored, shard ∈ progress.accepted) :
    wp (contract r) Anyhow (rollBack cluster progress) v := by
  refine wp_then (wp_storeProgress storable known ?_ (fun _ => trivial) ?_)
  · intro same shard member
    rw [owed_compensating compensating]
    exact .inr (kept same shard member)
  · intro after v' own _
    exact compensate_spec own storable compensating

theorem restoreAfterWake_spec (own : cluster.progress = some progress)
    (storable : Storable r progress) (finalizing : progress.phase = .finalizing) :
    wp (contract r) Anyhow (restoreAfterWake r cluster progress) v := by
  refine wp_act_bind ?_
  intro connections _
  cases connections with
  | none => trivial
  | some connections =>
    refine wp_then ((readStatuses_uses _ _ _ _).wp_of_idle ?_ fun result => ?_)
    · rintro _ ⟨shard, rfl⟩ Q anyhow
      exact anyhow
    cases result with
    | error error => trivial
    | ok found =>
      rw [then_ok]
      dsimp only
      split
      · trivial
      refine rollBack_spec ⟨⟨storable.sound.requested, storable.sound.parses, by simp⟩, ?_⟩
        rfl ?_ ?_
      · intro shard member
        exact (List.mem_insertionSort _).mp member
      · intro same
        have equal := congrArg (Option.map Progress.phase) (own.symm.trans same)
        simp [finalizing] at equal
      · intro same shard member
        rw [← same, own, owed, if_pos finalizing] at member
        exact (List.mem_insertionSort _).mpr member

/-! ## Forward progress -/

section

variable {shard finalShard : Shard}

section

variable (storable : Storable r progress)
include storable

theorem Storable.announce (configured : shard ∈ r.shards)
    (finalShard : Shard) : Storable r (progress.announce shard finalShard) := by
  have named : shard ≠ "" := fun empty => r.named (empty ▸ configured)
  refine ⟨storable.sound.announce named finalShard, ?_⟩
  rw [Progress.announce]
  split
  · exact storable.configured
  intro other member
  rcases List.mem_append.mp member with listed | last
  · exact storable.configured other listed
  · exact List.mem_singleton.mp last ▸ configured

theorem owed_announce {other : Shard} (member : other ∈ progress.accepted) :
    other ∈ owed r (some (progress.announce shard finalShard)) := by
  rw [Progress.announce]
  split
  · exact storable.configured other member
  · exact List.mem_append_left _ member

theorem Storable.abandon (configured : shard ∈ r.shards)
    (reason : String) : Storable r (progress.abandon shard reason) := by
  refine ⟨⟨storable.sound.requested, storable.sound.parses, by simp [Progress.abandon]⟩, ?_⟩
  intro other member
  rw [Progress.abandon] at member
  split at member
  · exact storable.configured other member
  rcases List.mem_append.mp member with listed | last
  · exact storable.configured other listed
  · exact List.mem_singleton.mp last ▸ configured

end

theorem abandon_spec (stored : v.stored = some progress) (own : cluster.progress = some progress)
    (storable : Storable r progress) (configured : shard ∈ r.shards)
    (whole : progress.phase = .finalizing → ∀ other ∈ r.shards,
      other = shard ∨ other ∈ progress.accepted) (reason : String) :
    wp (contract r) Anyhow (rollBack cluster (progress.abandon shard reason)) v := by
  refine rollBack_spec (storable.abandon configured reason) rfl ?_ ?_
  · intro _
    exact own.trans stored.symm
  · intro _ other member
    apply Progress.mem_abandon
    rw [stored, owed] at member
    split at member
    · exact whole ‹_› other member
    · exact .inr member

end

/-- Progress that goes forward owes the shards that it lists, if it is the stored one. -/
theorem accepted_of_owed (own : ∀ found, cluster.progress = some found → found = progress)
    (sleeping : progress.phase = .sleeping) (same : cluster.progress = v.stored) :
    ∀ shard ∈ owed r v.stored, shard ∈ progress.accepted := by
  intro shard member
  cases stored : cluster.progress with
  | none =>
    rw [← same, stored] at member
    cases member
  | some found =>
    rw [← same, stored, own found stored, owed, if_neg (by simp [sleeping])] at member
    exact member

theorem sleepShards_spec (force : Bool) (state : Eligibility) (finalShard : Shard)
    {shards : List Shard} (members : ∀ shard ∈ shards, shard ∈ r.shards)
    (own : ∀ found, cluster.progress = some found → found = progress)
    (storable : Storable r progress) (sleeping : progress.phase = .sleeping) :
    wp (contract r) Anyhow (sleepShards r force state finalShard shards cluster progress) v := by
  induction shards generalizing cluster progress v with
  | nil => trivial
  | cons shard rest ih =>
    have configured := members shard List.mem_cons_self
    have members' : ∀ other ∈ rest, other ∈ r.shards := by
      intro other member
      exact members other (List.mem_cons_of_mem _ member)
    rw [sleepShards]
    split
    · exact ih members' own storable sleeping
    have announced := storable.announce configured finalShard
    refine wp_then (wp_storeProgress announced ?_ ?_ (fun _ => trivial) ?_)
    · intro same
      have phase := (congrArg Progress.phase (own _ same)).trans sleeping
      exact absurd phase (announce_phase progress shard finalShard)
    · intro same other member
      exact .inr (owed_announce storable (accepted_of_owed own sleeping same other member))
    · intro after v' own' stored
      refine wp_act_bind ⟨?_, ?_⟩
      · intro error
        dsimp only
        split
        · trivial
        rename_i different
        refine abandon_spec stored own' announced configured ?_ _
        intro finalizing
        rw [Progress.announce, if_neg different] at finalizing
        cases finalizing
      · intro response whole
        dsimp only
        split
        · split
          · trivial
          rename_i different
          have asleep : Storable r { progress.announce shard finalShard with
              phase := .sleeping, reason := "" } :=
            ⟨⟨announced.sound.requested, announced.sound.parses, by simp⟩, announced.configured⟩
          refine wp_then (wp_storeProgress asleep ?_ ?_ (fun _ => trivial) ?_)
          · intro _
            exact own'.trans stored.symm
          · intro _ other member
            rw [stored, owed_compensating (by rw [Progress.announce, if_neg different])] at member
            exact .inr member
          · intro after v' own' _
            refine ih members' ?_ asleep rfl
            intro found present
            exact Option.some.inj (present.symm.trans own')
        · rename_i refused
          exact abandon_spec stored own' announced configured
            (whole (by simpa using refused) _ stored) _

theorem sleepAll_spec (force : Bool) {connections : List Shard} (state : Eligibility)
    (members : ∀ shard ∈ connections, shard ∈ r.shards)
    (own : ∀ found, cluster.progress = some found → found = progress)
    (storable : Storable r progress) (sleeping : progress.phase = .sleeping) :
    wp (contract r) Anyhow (sleepAll r force connections cluster progress state) v := by
  refine wp_then ((coordinate_uses r state).wp_of_idle ?_ fun result => ?_)
  · rintro _ rfl Q anyhow
    exact anyhow
  cases result with
  | error error => trivial
  | ok state =>
    refine sleepShards_spec force state _ ?_ own storable sleeping
    intro shard member
    exact members shard (mem_orderedShards.mp member)

theorem proceed_spec (own : ∀ found, cluster.progress = some found → found = progress)
    (storable : Storable r progress) (sleeping : progress.phase = .sleeping) :
    wp (contract r) Anyhow (proceed r cluster progress) v := by
  have listed := accepted_of_owed (r := r) (v := v) own sleeping
  refine wp_act_bind ?_
  intro connections members
  cases connections with
  | none => trivial
  | some connections =>
    dsimp only
    split
    · exact sleepAll_spec true {} members own storable sleeping
    refine wp_act_bind ?_
    intro reply
    cases reply with
    | ok state => exact sleepAll_spec false state members own storable sleeping
    | error error =>
      dsimp only
      split
      · rename_i none
        refine reject_spec ?_ _
        intro same shard member
        exact absurd (listed same shard member) (none ▸ List.not_mem_nil)
      refine rollBack_spec ⟨⟨storable.sound.requested, storable.sound.parses,
        by simp⟩, storable.configured⟩ rfl ?_ listed
      intro same
      have phase := (congrArg Progress.phase (own _ same)).trans sleeping
      cases phase

/-! ## Invocations -/

theorem decodeProgress_of_own (storable : Storable r progress)
    (own : progress.request = cluster.request) :
    decodeProgress (some progress) cluster.request = .ok progress := by
  have final : ¬ (progress.phase = .finalizing ∧ progress.finalShard = "") := by
    intro both
    exact storable.sound.final both.1 both.2
  rw [decodeProgress, if_neg (not_not_intro own), if_neg final]

theorem keeps_none_of_foreign (readable : Readable r cluster) (requested : cluster.request ≠ "")
    (foreign : ∀ progress, cluster.progress = some progress → Storable r progress →
      progress.request ≠ cluster.request) (same : cluster.progress = v.stored) :
    v.Keeps r none := by
  intro shard member
  cases stored : cluster.progress with
  | none =>
    rw [← same, stored] at member
    cases member
  | some progress =>
    rcases readable.own progress stored with empty | own | nothing
    · exact absurd empty requested
    · exact absurd own (foreign progress stored (readable.storable progress stored))
    · rw [← same, stored, nothing] at member
      cases member

theorem serve_spec (readable : Readable r cluster) (requested : cluster.request ≠ "") :
    wp (contract r) Anyhow (serve r cluster) v := by
  rw [serve]
  split
  · rename_i parses
    split
    · rename_i error undecodable
      refine reject_spec (keeps_none_of_foreign readable requested ?_) _
      intro progress stored storable own
      rw [stored, decodeProgress_of_own storable own] at undecodable
      cases undecodable
    rename_i progress decoded
    rcases decodeProgress_ok decoded with ⟨none, fresh⟩ | stored
    · subst fresh
      refine proceed_spec ?_ ⟨⟨requested, parses, by simp⟩, by simp⟩ rfl
      intro found present
      cases none.symm.trans present
    have storable := readable.storable progress stored
    cases phase : progress.phase with
    | finalizing => exact restoreAfterWake_spec stored storable phase
    | compensating => exact compensate_spec stored storable phase
    | sleeping =>
      refine proceed_spec ?_ storable phase
      intro other present
      exact Option.some.inj (present.symm.trans stored)
  · rename_i garbled
    refine reject_spec (keeps_none_of_foreign readable requested ?_) _
    intro progress stored storable own
    exact garbled (own ▸ storable.sound.parses)

theorem requestSleep_spec : wp (contract r) Anyhow (requestSleep r cluster) v := by
  rw [requestSleep]
  split
  · refine wp_act_bind ?_
    intro connections _
    cases connections with
    | none => trivial
    | some connections =>
      refine wp_act_bind ?_
      intro reply
      cases reply with
      | error error => trivial
      | ok state =>
        refine wp_act_bind fun time => wp_act_bind ⟨by simp, ?_, ?_, ?_⟩
        · exact keeps_of_standing fun same shard member => .inr (same ▸ member)
        · intro _
          trivial
        · intro _ _ _
          trivial
  · trivial

/-- **An invocation keeps to the contract.** -/
theorem reconcile_spec (name : String) : wp (contract r) Anyhow (reconcile r name) v := by
  rw [reconcile]
  split
  · trivial
  refine wp_act_bind ⟨?_, ?_⟩
  · intro error
    cases error <;> trivial
  · intro cluster readable
    dsimp only
    split
    · exact requestSleep_spec
    · exact serve_spec readable ‹_›

end

/-! ## The machine keeps what the contract promises -/

/-- The stored progress and the answers since it was written. -/
def view : View :=
  ⟨noted.1.cluster.progress, noted.2⟩

/-- Every version of the Cluster holds progress as the controller stores it, and
the running invocation keeps to its contract. -/
structure Kept (r : SleepReconciler) (noted : State × List Shard) : Prop where
  storable : ∀ version ∈ noted.1.cluster :: noted.1.earlier, ∀ progress,
    version.progress = some progress → Storable r progress
  sound : ∀ program, noted.1.running = some program →
    wp (contract r) Anyhow program (view noted)

section

variable {r : SleepReconciler} {s s' after : State} {answered : List Shard} {label : Label}
  {noted : State × List Shard} {action : Action} {next : Reply action → Code Result}
  {outcome : Outcome}

theorem careful_iff : careful r noted label = true ↔
    readsOwn r noted.1 label = true ∧ patchesStored r noted.1 label = true ∧
      refusesWhole r noted.1 label = true := by
  rw [careful, Bool.and_eq_true_iff, Bool.and_eq_true_iff, and_assoc]

theorem patched_eq (answered : List Shard) (base : Annotations) (edit : Edit) :
    (merge r base (edit.apply base) s.cluster).progress =
      (view (s, answered)).patched r base edit := by
  rw [View.patched, merge, merge]
  split <;> rfl

variable {base : Annotations} {edit : Edit} {program : Code Result} {reply : Reply action}

theorem standing_of_patchesStored (answered : List Shard)
    (issued : s.issues = some (.patch base edit))
    (allowed : patchesStored r s (.perform .ok) = true) :
    (view (s, answered)).Standing r base edit := by
  show (_ ∧ _) ∨ base.progress = s.cluster.progress ∨ owed r s.cluster.progress = []
  simpa [patchesStored, issued, or_assoc] using allowed

theorem whole_of_refusesWhole {shard : Shard} {ifNotBusy : Bool} {wakeAt : Option Time}
    {response : SleepResponse} (issued : s.issues = some (.sleepTenant shard ifNotBusy wakeAt))
    (allowed : refusesWhole r s (.perform (.slept response)) = true) :
    (view (s, answered)).Whole r shard response := by
  intro refused progress stored finalizing other member
  have stored : s.cluster.progress = some progress := stored
  rw [refusesWhole, issued, stored] at allowed
  simp only [refused, finalizing, List.all_eq_true, Bool.false_or, ne_eq, not_true_eq_false,
    decide_false, decide_eq_true_eq, List.mem_cons] at allowed
  exact allowed other member

theorem readable_of_readsOwn {number : Nat} {found : Annotations} (kept : Kept r (s, answered))
    (present : (s.cluster :: s.earlier)[number]? = some found)
    (allowed : readsOwn r s (.perform (.version number)) = true) : Readable r found := by
  refine ⟨kept.storable found (List.mem_of_getElem? present), ?_⟩
  intro progress stored
  obtain ⟨request, _⟩ := found
  cases stored
  simpa [readsOwn, present, or_assoc] using allowed

theorem Kept.goes (kept : Kept r noted) (same : s.cluster = noted.1.cluster)
    (earlier : s.earlier = noted.1.earlier)
    (sound : wp (contract r) Anyhow program ⟨noted.1.cluster.progress, answered⟩) :
    Kept r ({ s with running := some program }, answered) := by
  constructor
  · rw [same, earlier]
    exact kept.storable
  · rintro _ ⟨⟩
    rw [same]
    exact sound

theorem heard_of_other (other : ∀ shard, action = .wakeTenant shard → outcome ≠ .status .awake) :
    heard (some action) (.perform outcome) answered = answered := by
  unfold heard
  split
  · rename_i shard wakes awake
    cases wakes
    cases awake
    exact absurd rfl (other shard rfl)
  · rfl

section

variable (kept : Kept r (s, answered))
include kept

theorem Kept.unchanged (runs : s.running = some (.perform action next))
    (other : ∀ shard, action = .wakeTenant shard → outcome ≠ .status .awake)
    (same : after.cluster = s.cluster) (earlier : after.earlier = s.earlier)
    (sound : wp (contract r) Anyhow (next reply) (view (s, answered))) :
    Kept r ({ after with running := some (next reply) },
      answers s (.perform outcome) { after with running := some (next reply) } answered) := by
  have noted : answers s (.perform outcome) { after with running := some (next reply) } answered =
      answered := by
    rw [answers, if_pos (congrArg Annotations.progress same), issues_of_runs runs,
      heard_of_other other]
  rw [noted]
  exact kept.goes same earlier sound

theorem Kept.patched (storable : ∀ progress, edit = .progress progress → Storable r progress)
    (issued : s.issues = some (.patch base edit)) (sound : wp (contract r) Anyhow program
      ((view (s, answered)).write ((view (s, answered)).patched r base edit))) {s' : State}
    (result : s' = { s.update (merge r base (edit.apply base) s.cluster) with
      running := some program }) : Kept r (s', answers s (.perform .ok) s' answered) := by
  subst result
  constructor
  · intro version member progress stored
    rcases List.mem_cons.mp member with rfl | member
    · have stored : (merge r base (edit.apply base) s.cluster).progress = some progress := stored
      rw [merge] at stored
      split at stored
      · cases stored
      dsimp only at stored
      split at stored
      · exact kept.storable s.cluster List.mem_cons_self progress stored
      cases edit with
      | request value => exact absurd rfl ‹_›
      | progress value =>
        cases stored
        exact storable _ rfl
      | finish => cases stored
    · exact kept.storable version member progress stored
  · rintro _ ⟨⟩
    have noted : heard s.issues (.perform .ok) answered = answered := by
      rw [issued]
      exact heard_of_other (by simp)
    rw [View.write, ← noted, ← patched_eq] at sound
    exact sound

/-- **An action does what its contract says.** -/
theorem Kept.perform (runs : s.running = some (.perform action next))
    (effect : Effect r s action outcome after reply)
    (allowed : careful r (s, answered) (.perform outcome) = true) :
    (view (s, answered)).Keeps r after.cluster.progress ∧
      Kept r ({ after with running := some (next reply) },
        answers s (.perform outcome) { after with running := some (next reply) } answered) := by
  have holds : demand r action (fun reply after => wp (contract r) Anyhow (next reply) after)
    (view (s, answered)) := kept.sound _ runs
  have issued := issues_of_runs runs
  have stays : (view (s, answered)).Keeps r s.cluster.progress := fun _ => .inr
  obtain ⟨reads, patches, refuses⟩ := careful_iff.mp allowed
  cases effect with
  | read present =>
    exact ⟨stays, kept.unchanged runs (by simp) rfl rfl
      (holds.2 _ (readable_of_readsOwn kept present reads))⟩
  | unread error => exact ⟨stays, kept.unchanged runs (by simp) rfl rfl (holds.1 error)⟩
  | connected configured =>
    exact ⟨stays, kept.unchanged runs (by simp) rfl rfl (holds _ configured)⟩
  | patched base edit =>
    have standing := standing_of_patchesStored answered issued patches
    have keeps := holds.2.1 standing
    rw [← patched_eq] at keeps
    exact ⟨keeps, kept.patched holds.1 issued
      (holds.2.2.2 standing _ (patched_eq answered base edit)) rfl⟩
  | unpatched base edit error =>
    exact ⟨stays, kept.unchanged runs (by simp) rfl rfl (holds.2.2.1 error)⟩
  | told shard ifNotBusy wakeAt response =>
    exact ⟨stays, kept.unchanged runs (by simp) rfl rfl
      (holds.2 response (whole_of_refusesWhole issued refuses))⟩
  | untold shard ifNotBusy wakeAt error =>
    exact ⟨stays, kept.unchanged runs (by simp) rfl rfl (holds.1 error)⟩
  | woken shard =>
    refine ⟨stays, ?_⟩
    have noted : answers s (.perform (.status .awake))
        { s.happen (.awake shard) with running := some (next (.ok .awake)) } answered =
          shard :: answered := by
      rw [answers, issued]
      exact if_pos rfl
    rw [noted]
    exact kept.goes rfl rfl holds.2
  | unwoken shard asleep =>
    refine ⟨stays, kept.unchanged runs ?_ rfl rfl (holds.1 _ (by simpa using asleep))⟩
    intro _ _ awake
    exact asleep (Outcome.status.inj awake)
  | unreached shard error =>
    exact ⟨stays, kept.unchanged runs (by simp) rfl rfl (holds.1 _ (by simp))⟩
  | recorded reason => exact ⟨stays, kept.unchanged runs (by simp) rfl rfl holds⟩
  | judged | unjudged | located | unlocated | timed | asked | unasked =>
    exact ⟨stays, kept.unchanged runs (by simp) rfl rfl (holds _)⟩

theorem Kept.idle (label : Label) (other : heard s.issues label answered = answered)
    {running : Option (Code Result)} (sound : ∀ program, running = some program →
      wp (contract r) Anyhow program (view (s, answered))) :
    Kept r ({ s with running := running },
      answers s label { s with running := running } answered) := by
  have noted : answers s label { s with running := running } answered = answered := by
    rw [answers, other]
    exact if_pos rfl
  rw [noted]
  exact ⟨kept.storable, sound⟩

/-- **A step keeps the progress safe.** -/
theorem Kept.step (stepped : (operator r).step s label = some s')
    (allowed : careful r (s, answered) label = true) :
    (view (s, answered)).Keeps r s'.cluster.progress ∧
      Kept r (s', answers s label s' answered) := by
  have stays : (view (s, answered)).Keeps r s.cluster.progress := fun _ => .inr
  cases step_change stepped with
  | invoked name idle =>
    refine ⟨stays, kept.idle _ (by simp [heard]) ?_⟩
    rintro _ ⟨⟩
    exact reconcile_spec name
  | performed runs effect =>
    obtain ⟨keeps, kept⟩ := kept.perform runs effect allowed
    exact ⟨keeps, kept⟩
  | ended | crashed => exact ⟨stays, kept.idle _ (by simp [heard]) (by simp)⟩
  | edited request =>
    have noted : answers s (.edit request) (s.update { s.cluster with request := request })
        answered = answered := by
      rw [answers, heard.eq_2 _ _ _ (by simp)]
      exact if_pos rfl
    refine ⟨stays, ?_⟩
    rw [noted]
    refine ⟨?_, kept.sound⟩
    intro version member progress stored
    rcases List.mem_cons.mp member with rfl | member
    · exact kept.storable s.cluster List.mem_cons_self progress stored
    · exact kept.storable version member progress stored

end

theorem kept_of_reaches
    (reached : (answering r).Reaches (fun noted label => careful r noted label = true) noted) :
    Kept r noted := by
  refine reached.invariant (P := Kept r) ?_ ?_
  · refine ⟨?_, ?_⟩
    · intro version member progress stored
      rw [List.mem_singleton.mp member] at stored
      cases stored
    · intro program runs
      cases runs
  · intro noted noted' label before kept allowed stepped
    obtain ⟨s', taken, rfl⟩ := Machine.step_of_watched stepped
    exact (kept.step taken allowed).2

end

/-- **Progress stays until its shards are awake.** In every run whose steps are
careful, a step that removes or replaces progress that lists shards, or that is
finalizing, lets go only of shards that have answered that they are awake since
that progress was written. -/
theorem accepted_until_awake {r : SleepReconciler} {s s' : State} {answered : List Shard}
    {label : Label}
    (reached : (answering r).Reaches (fun noted label => careful r noted label = true)
      (s, answered))
    (allowed : careful r (s, answered) label = true)
    (stepped : (operator r).step s label = some s') :
    ∀ shard ∈ owed r s.cluster.progress,
      shard ∈ answered ∨ shard ∈ owed r s'.cluster.progress :=
  ((kept_of_reaches reached).step stepped allowed).1

/-! ## Runs in full -/

/-- Both shards of a refused request are woken, and the annotations are removed. -/
theorem refusedBySecond_until_awake :
    ∃ s s' answered, (answering twoShards).runWithin (careful twoShards)
        (answering twoShards).start refusedBySecond = some (s, answered) ∧
      owed twoShards s.cluster.progress = ["east", "west"] ∧
      (operator twoShards).step s (.perform .ok) = some s' ∧ s'.cluster = {} ∧
      ∀ shard ∈ owed twoShards s.cluster.progress,
        shard ∈ answered ∨ shard ∈ owed twoShards s'.cluster.progress :=
  ⟨_, _, _, rfl, rfl, rfl, rfl,
    accepted_until_awake
      (Machine.reaches_of_runWithin (M := answering twoShards) refusedBySecond .start rfl)
      (show careful twoShards _ (.perform .ok) = true from rfl) rfl⟩

/-- The request is replaced by another valid one while the first shard is asleep. -/
def replacedWhileAsleep : List Label :=
  .edit "force:2026-01-01T00:00:00Z" :: invokeConnected ++
    [.perform .ok, .perform (.slept ⟨.slept, .asleep⟩), .perform .ok, .crash,
      .edit "force:2026-01-02T00:00:00Z", .invoke "c--red", .perform (.version 0)]

/-- The progress is removed although the shard it lists has never answered. -/
theorem replacedWhileAsleep_discards :
    ∃ s s', (answering twoShards).run (answering twoShards).start replacedWhileAsleep =
        some (s, []) ∧
      "east" ∈ owed twoShards s.cluster.progress ∧ .sleepTenant "east" ∈ s.log ∧
      (operator twoShards).step s (.perform .ok) = some s' ∧ s'.cluster = {} ∧
      ¬ ∀ shard ∈ owed twoShards s.cluster.progress,
        shard ∈ ([] : List Shard) ∨ shard ∈ owed twoShards s'.cluster.progress :=
  ⟨_, _, rfl, by decide, by decide, rfl, rfl, by decide⟩

end Nstance.Operator.Rejection
