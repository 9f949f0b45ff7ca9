import Nstance.Operator.Eligibility
import Nstance.Operator.SleepTransaction

/-!
# The coordinating shard sleeps last

A normal request is served over a fixed set of connected shards, but the zone of the
coordinating node may be another one at every invocation.

The shard of the coordinating node is put to sleep after all others, after a checkpoint that
names it, and with the time of the next CronJob, in every run in which no invocation finds
its coordinating shard among those that already sleep (`coordinating_shard_last`). A node
that moves to the zone of such a shard leaves the cluster asleep without a checkpoint and
without a time to wake (`movedCoordinator_without_checkpoint`).
-/

namespace Nstance.Operator.LastShard

open Interaction
open Program hiding pure bind

/-! ## Serving one request -/

/-- A step of the controller, where a decision is computed from the situation it
is taken in. -/
inductive Deed where
  | judge (situation : Situation)
  | other (label : Label)

/-- An answer of the check. -/
def judgement : Except Err Eligibility → Outcome
  | .ok state => .eligible state
  | .error error => .fail error

variable (r : SleepReconciler) (policy : SleepPolicy)

/-- A step, in which the check is given a situation. -/
def step (s : State) : Deed → Option State
  | .judge situation =>
    match s.issues with
    | some (.eligible connections) =>
      s.step r (.perform (judgement (eligible policy situation connections)))
    | _ => none
  | .other label =>
    match s.issues, label with
    | some (.eligible _), .perform _ => none
    | _, label => s.step r label

variable (request : String)

/-- The controller, from a Cluster with a request that nothing was done for. -/
def serving : Machine State Deed where
  start := { cluster := { request := request } }
  step := step r policy

/-- What is written down of a run. -/
inductive Event where
  | stored (progress : Progress)
  | judged (situation : Situation)
  /-- A call to put a shard to sleep, and whether the shard answered that it is
  asleep. -/
  | slept (shard : Shard) (wakeAt : Option Time) (asleep : Bool)

/-- Which steps are written down. -/
def record : Option Action → Deed → List Event → List Event
  | some (.patch _ (.progress progress)), .other (.perform .ok), history =>
    .stored progress :: history
  | some (.eligible _), .judge situation, history => .judged situation :: history
  | some (.sleepTenant shard _ wakeAt), .other (.perform (.slept response)), history =>
    .slept shard wakeAt (response.status = .asleep) :: history
  | some (.sleepTenant shard _ wakeAt), .other (.perform (.fail _)), history =>
    .slept shard wakeAt false :: history
  | _, _, history => history

/-- The controller with the history of the request, the latest event first. -/
def recording : Machine (State × List Event) Deed :=
  (serving r policy request).watched [] fun s deed _ => record s.issues deed

/-- The run serves one request over one set of connected shards: the Cluster has
that request, which nobody edits, a read gives the latest version, and the
connections are those shards whenever they are ready. -/
def serves (connected : List Shard) (s : State) (deed : Deed) : Bool :=
  s.cluster.request = request &&
    match deed with
    | .other (.edit _) => false
    | .other (.perform (.version number)) => number = 0
    | .other (.perform (.connections shards)) => shards = none || shards = some connected
    | _ => true

/-- The shards that progress lists. -/
def accepted : Option Progress → List Shard
  | none => []
  | some progress => progress.accepted

variable (connected : List Shard)

/-- The shard that an invocation would put to sleep last does not sleep already. -/
def coordinatesAwake (s : State) (zone : String) : Bool :=
  lastShard (orderedShards connected zone) ∉ accepted s.cluster.progress

/-- An invocation that learns its zone coordinates from a shard that is awake. The
zone is that of the coordinating node where one is named, and otherwise that of
the node that remains. -/
def staysAwake (s : State) :
    Deed → Bool
  | .judge situation => r.nodeName ≠ "" ||
      match eligible policy situation connected with
      | .ok state => coordinatesAwake connected s state.shard
      | .error _ => true
  | .other (.perform (.zone name)) => name = "" || coordinatesAwake connected s name
  | _ => true

/-! ## What is to be shown -/

/-- The situation that a check was given. -/
def Event.situation : Event → Option Situation
  | .judged situation => some situation
  | _ => none

variable (history : List Event)

/-- The situation of the last check. -/
def latestSituation : Option Situation :=
  history.findSome? Event.situation

/-- The shard has answered that it is asleep. -/
def Asleep (shard : Shard) : Prop :=
  ∃ wakeAt, .slept shard wakeAt true ∈ history

/-- What came before the call to the last shard: the checkpoint that names it, the
answers of all other shards, no earlier call to it, and the decision that the time
it is to wake at was computed for. -/
structure Prepared (policy : SleepPolicy) (connected : List Shard) (shard : Shard)
    (wakeAt : Option Time) (before : List Event) : Prop where
  checkpoint : ∃ progress, .stored progress ∈ before ∧
    progress.phase = .finalizing ∧ progress.finalShard = shard
  others : ∀ other ∈ connected, other ≠ shard → Asleep before other
  first : ∀ wakeAt asleep, .slept shard wakeAt asleep ∉ before
  timed : ∃ situation, latestSituation before = some situation ∧
    nextWake policy situation = .ok wakeAt ∧
    ∀ cronJobs, situation.cronJobs = .ok cronJobs → (∃ cronJob ∈ cronJobs, cronJob.enabled) →
      wakeAt.isSome

/-- The last shard is put to sleep after all others. -/
def SleptLast : Prop :=
  ∃ shard ∈ connected, ∃ wakeAt asleep later before,
    history = later ++ .slept shard wakeAt asleep :: before ∧
      (∀ other wakeAt asleep, .slept other wakeAt asleep ∉ later) ∧
      Prepared policy connected shard wakeAt before

/-- Once every shard sleeps, the last call was to a prepared one. -/
def Fine : Prop :=
  (∀ shard ∈ connected, Asleep history shard) → SleptLast policy connected history

/-! ## Histories -/

section

variable {policy : SleepPolicy} {connected : List Shard} {history : List Event}

/-- The shards called are the accepted ones, which all sleep, and some connected
shard is not among them. -/
structure Steady (connected listed : List Shard) (history : List Event) : Prop where
  called : ∀ shard wakeAt asleep, .slept shard wakeAt asleep ∈ history → shard ∈ listed
  asleep : ∀ shard ∈ listed, Asleep history shard
  unfinished : ∃ shard ∈ connected, shard ∉ listed

variable {shard : Shard} {event : Event} {listed : List Shard}

theorem Asleep.cons (asleep : Asleep history shard) (event : Event) :
    Asleep (event :: history) shard := by
  obtain ⟨wakeAt, member⟩ := asleep
  exact ⟨wakeAt, List.mem_cons_of_mem _ member⟩

/-- Events other than calls to put a shard to sleep. -/
def Event.quiet : Event → Bool
  | .slept _ _ _ => false
  | _ => true

variable {wakeAt : Option Time}

theorem mem_of_quiet (quiet : event.quiet = true) {asleep : Bool} :
    .slept shard wakeAt asleep ∈ event :: history ↔ .slept shard wakeAt asleep ∈ history := by
  cases event with
  | slept => cases quiet
  | stored | judged => simp

theorem Fine.quiet (fine : Fine policy connected history) (quiet : event.quiet = true) :
    Fine policy connected (event :: history) := by
  intro all
  obtain ⟨shard, member, wakeAt, asleep, later, before, same, silent, prepared⟩ := fine (by
    intro shard member
    obtain ⟨wakeAt, called⟩ := all shard member
    exact ⟨wakeAt, (mem_of_quiet quiet).mp called⟩)
  refine ⟨shard, member, wakeAt, asleep, event :: later, before, by rw [same]; rfl, ?_, prepared⟩
  intro other wakeAt asleep called
  exact silent other wakeAt asleep ((mem_of_quiet quiet).mp called)

theorem Steady.quiet (steady : Steady connected listed history) (quiet : event.quiet = true) :
    Steady connected listed (event :: history) := by
  refine ⟨?_, ?_, steady.unfinished⟩
  · intro shard wakeAt asleep called
    exact steady.called shard wakeAt asleep ((mem_of_quiet quiet).mp called)
  · intro shard member
    exact (steady.asleep shard member).cons event

theorem fine_of_uncalled (member : shard ∈ connected)
    (uncalled : ∀ wakeAt asleep, .slept shard wakeAt asleep ∉ history) :
    Fine policy connected history := by
  intro all
  obtain ⟨wakeAt, called⟩ := all shard member
  exact absurd called (uncalled wakeAt true)

theorem Steady.fine (steady : Steady connected listed history) : Fine policy connected history := by
  obtain ⟨shard, member, unlisted⟩ := steady.unfinished
  refine fine_of_uncalled member ?_
  intro wakeAt asleep called
  exact unlisted (steady.called shard wakeAt asleep called)

theorem Steady.accept (steady : Steady connected listed history)
    (unfinished : ∃ other ∈ connected, other ∉ listed ∧ other ≠ shard) :
    Steady connected (listed ++ [shard]) (.slept shard wakeAt true :: history) := by
  refine ⟨?_, ?_, ?_⟩
  · intro other wakeAt asleep called
    rcases List.mem_cons.mp called with same | called
    · cases same
      exact List.mem_append_right _ List.mem_cons_self
    · exact List.mem_append_left _ (steady.called other wakeAt asleep called)
  · intro other member
    rcases List.mem_append.mp member with listed | last
    · exact (steady.asleep other listed).cons _
    · rw [List.mem_singleton.mp last]
      exact ⟨wakeAt, List.mem_cons_self⟩
  · obtain ⟨other, member, unlisted, different⟩ := unfinished
    refine ⟨other, member, ?_⟩
    simp [unlisted, different]

end

/-! ## The contract of the actions -/

/-- The stored progress and the history of the request. -/
structure View where
  stored : Option Progress
  history : List Event

/-- The request goes forward: nothing is stored yet, or the next shard is to be put
to sleep. -/
def forward : Option Progress → Prop
  | none => True
  | some progress => progress.phase = .sleeping

/-- What every step keeps. -/
structure View.Good (policy : SleepPolicy) (connected : List Shard) (v : View) : Prop where
  fine : Fine policy connected v.history
  steady : forward v.stored → Steady connected (accepted v.stored) v.history

/-- A patch takes effect. -/
def View.write (v : View) (base : Annotations) (edit : Edit) : View where
  stored := (edit.apply base).progress
  history := record (some (.patch base edit)) (.other (.perform .ok)) v.history

/-- What is fixed while a request is served. -/
structure Service where
  reconciler : SleepReconciler
  policy : SleepPolicy
  request : String
  connected : List Shard

variable (service : Service)

/-- What each action needs, and what it can answer. -/
def Service.demand :
    (action : Action) → (Reply action → View → Prop) → View → Prop
  | .get, Q, v => (∀ error, Q (.error error) v) ∧ ∀ cluster : Annotations,
      cluster.progress = v.stored → cluster.request = service.request → Q (.ok cluster) v
  | .connections, Q, v => ∀ shards, shards = none ∨ shards = some service.connected → Q shards v
  | .eligible connections, Q, v => connections = service.connected ∧ ∀ situation,
      (∀ error, Q (.error error) { v with history := .judged situation :: v.history }) ∧
      ∀ state, eligible service.policy situation connections = .ok state →
        (service.reconciler.nodeName = "" →
          lastShard (orderedShards service.connected state.shard) ∉ accepted v.stored) →
        Q (.ok state) { v with history := .judged situation :: v.history }
  | .getNode, Q, v => (∀ error, Q (.error error) v) ∧ ∀ zone : String,
      (zone ≠ "" → lastShard (orderedShards service.connected zone) ∉ accepted v.stored) →
        Q (.ok zone) v
  | .patch base edit, Q, v => base.progress = v.stored ∧ base.request = service.request ∧
      (edit = .finish → service.request ≠ "") ∧
      (edit ≠ .finish → (v.write base edit).Good service.policy service.connected) ∧
      (∀ error, Q (.error error) v) ∧ ∀ cluster : Annotations,
        cluster.progress = (edit.apply base).progress →
        (∀ progress, edit = .progress progress → cluster.request = service.request) →
          Q (.ok cluster) (v.write base edit)
  | .sleepTenant shard _ wakeAt, Q, v =>
    (∀ asleep, View.Good service.policy service.connected
      { v with history := .slept shard wakeAt asleep :: v.history }) ∧
    (∀ error, Q (.error error) { v with history := .slept shard wakeAt false :: v.history }) ∧
    ∀ response : SleepResponse, Q (.ok response)
      { v with history := .slept shard wakeAt (response.status = .asleep) :: v.history }
  | .now, Q, v => ∀ reply, Q reply v
  | .wakeTenant _, Q, v => ∀ reply, Q reply v
  | .getTenantStatus _, Q, v => ∀ reply, Q reply v
  | .event _, Q, v => Q () v

/-- **The contract of the actions with the history of a request.** -/
def Service.contract : Contract interface View where
  demand := service.demand
  mono := by
    intro action P Q implied v holds
    cases action with
    | get =>
      refine ⟨?_, ?_⟩
      · intro error
        exact implied _ _ (holds.1 error)
      · intro cluster same requested
        exact implied _ _ (holds.2 cluster same requested)
    | connections =>
      intro shards ready
      exact implied _ _ (holds shards ready)
    | eligible connections =>
      refine ⟨holds.1, ?_⟩
      intro situation
      refine ⟨?_, ?_⟩
      · intro error
        exact implied _ _ ((holds.2 situation).1 error)
      · intro state judged awake
        exact implied _ _ ((holds.2 situation).2 state judged awake)
    | getNode =>
      refine ⟨?_, ?_⟩
      · intro error
        exact implied _ _ (holds.1 error)
      · intro zone awake
        exact implied _ _ (holds.2 zone awake)
    | patch base edit =>
      obtain ⟨same, requested, nonempty, good, failed, patched⟩ := holds
      refine ⟨same, requested, nonempty, good, ?_, ?_⟩
      · intro error
        exact implied _ _ (failed error)
      · intro cluster result own
        exact implied _ _ (patched cluster result own)
    | sleepTenant shard ifNotBusy wakeAt =>
      refine ⟨holds.1, ?_, ?_⟩
      · intro error
        exact implied _ _ (holds.2.1 error)
      · intro response
        exact implied _ _ (holds.2.2 response)
    | wakeTenant | now | getTenantStatus =>
      intro reply
      exact implied _ _ (holds reply)
    | event => exact implied _ _ holds

/-! ## The functions keep to the contract -/

section

variable {service : Service} {v : View} {cluster : Annotations} {progress : Progress}

/-- However it ends. -/
def Anyhow {α : Type} (_ : Except Err α) (_ : View) : Prop := True

/-- The object an invocation holds is the one that is stored. -/
structure Current (service : Service) (v : View) (cluster : Annotations) : Prop where
  progress : cluster.progress = v.stored
  request : cluster.request = service.request

variable {post : Except Err Annotations → View → Prop}

section

variable (current : Current service v cluster)
include current

theorem wp_storeProgress (good : View.Good service.policy service.connected
      ⟨some progress, .stored progress :: v.history⟩) (failed : ∀ error, post (.error error) v)
    (stored : ∀ after, Current service ⟨some progress, .stored progress :: v.history⟩ after →
      post (.ok after) ⟨some progress, .stored progress :: v.history⟩) :
    wp service.contract post (storeProgress cluster progress) v := by
  refine ⟨current.progress, current.request, by simp, fun _ => good, failed, ?_⟩
  intro after result own
  exact stored after ⟨result, own progress rfl⟩

theorem wp_finish (requested : service.request ≠ "")
    (failed : ∀ error, post (.error error) v) (finished : ∀ after v', post (.ok after) v') :
    wp service.contract post (finish cluster) v := by
  refine ⟨current.progress, current.request, fun _ => requested, fun not => absurd rfl not,
    failed, ?_⟩
  intro after _ _
  exact finished after _

theorem reject_spec (requested : service.request ≠ "")
    (reason : String) : wp service.contract Anyhow (reject cluster reason) v := by
  rw [reject, wp_bind]
  exact wp_finish current requested (fun _ => trivial) fun _ _ => trivial

end

theorem wp_wakeEach {post : Except Err (List Shard × List Err) → View → Prop}
    (connections shards : List Shard) (anyhow : ∀ result, post result v) :
    wp service.contract post (wakeEach connections shards) v := by
  induction shards generalizing post with
  | nil => exact anyhow _
  | cons shard rest ih =>
    rw [wakeEach]
    split
    · refine wp_act_bind ?_
      intro reply
      refine wp_then (ih ?_)
      intro result
      cases result with
      | error error => exact anyhow _
      | ok left =>
        split <;> exact anyhow _
    · refine wp_then (ih ?_)
      intro result
      cases result with
      | error error | ok left => exact anyhow _

theorem good_of_fine {history : List Event} (fine : Fine service.policy service.connected history)
    (other : progress.phase ≠ .sleeping) :
    View.Good service.policy service.connected ⟨some progress, .stored progress :: history⟩ :=
  ⟨fine.quiet rfl, fun sleeping => absurd sleeping other⟩

section

variable (current : Current service v cluster) (requested : service.request ≠ "")
  (fine : Fine service.policy service.connected v.history)
include current requested fine

theorem compensate_spec (compensating : progress.phase = .compensating) :
    wp service.contract Anyhow (compensate cluster progress) v := by
  refine wp_act_bind ?_
  intro connections _
  refine wp_then (wp_wakeEach _ _ ?_)
  intro result
  cases result with
  | error error => trivial
  | ok left =>
    rw [then_ok]
    dsimp only
    split
    · refine wp_then (wp_finish current requested (fun _ => trivial) ?_)
      intro _ _
      split <;> trivial
    refine wp_then (wp_storeProgress current (good_of_fine fine ?_)
      (fun _ => trivial) fun _ _ => trivial)
    simp [compensating]

theorem rollBack_spec (compensating : progress.phase = .compensating) :
    wp service.contract Anyhow (rollBack cluster progress) v := by
  refine wp_then (wp_storeProgress current (good_of_fine fine (by simp [compensating]))
    (fun _ => trivial) ?_)
  intro after current'
  exact compensate_spec current' requested (fine.quiet rfl) compensating

theorem restoreAfterWake_spec :
    wp service.contract Anyhow (restoreAfterWake service.reconciler cluster progress) v := by
  refine wp_act_bind ?_
  rintro connections (rfl | rfl)
  · trivial
  refine wp_then ((readStatuses_uses _ _ _ _).wp_of_idle ?_ fun result => ?_)
  · rintro _ ⟨shard, rfl⟩ Q anyhow
    exact anyhow
  cases result with
  | error error => trivial
  | ok found =>
    rw [then_ok]
    dsimp only
    split
    · trivial
    · exact rollBack_spec current requested fine rfl

end

/-! ## Forward progress -/

theorem lastShard_cons {shard : Shard} {rest : List Shard} (more : rest ≠ []) :
    lastShard (shard :: rest) = lastShard rest := by
  cases rest with
  | nil => exact absurd rfl more
  | cons other rest => rfl

theorem lastShard_mem {shards : List Shard} (some : shards ≠ []) : lastShard shards ∈ shards := by
  rw [lastShard, List.getLastD_eq_getLast?, List.getLast?_eq_some_getLast some]
  exact List.getLast_mem some

/-- Where the loop over the shards stands: every connected shard is accepted or
still to come, and the last to come is the final one, which is not accepted. -/
structure Underway (service : Service) (finalShard : Shard) (listed shards : List Shard) :
    Prop where
  nodup : shards.Nodup
  last : shards ≠ [] → lastShard shards = finalShard
  reached : ∀ shard ∈ service.connected, shard ∈ listed ∨ shard ∈ shards
  member : finalShard ∈ service.connected
  unlisted : finalShard ∉ listed

section

variable {finalShard shard : Shard} {listed rest : List Shard}
  (underway : Underway service finalShard listed (shard :: rest))
include underway

theorem Underway.rest_eq_nil (final : shard = finalShard) : rest = [] := by
  by_contra more
  have last := underway.last (by simp)
  rw [lastShard_cons more] at last
  have again : shard ∈ rest := by
    rw [final, ← last]
    exact lastShard_mem more
  exact (List.nodup_cons.mp underway.nodup).1 again

theorem Underway.next
    {listed' : List Shard} (grown : ∀ other ∈ listed, other ∈ listed') (accepted : shard ∈ listed')
    (unlisted : finalShard ∉ listed') : Underway service finalShard listed' rest := by
  refine ⟨(List.nodup_cons.mp underway.nodup).2, ?_, ?_, underway.member, unlisted⟩
  · intro more
    rw [← lastShard_cons more]
    exact underway.last (by simp)
  · intro other member
    rcases underway.reached other member with listed | coming
    · exact .inl (grown other listed)
    rcases List.mem_cons.mp coming with rfl | coming
    · exact .inl accepted
    · exact .inr coming

end

variable {finalShard : Shard} {state : Eligibility} {wakeAt : Option Time} {situation : Situation}

theorem prepared_of_steady (steady : Steady service.connected progress.accepted v.history)
    (underway : Underway service finalShard progress.accepted [finalShard])
    (latest : latestSituation v.history = some situation)
    (computed : nextWake service.policy situation = .ok wakeAt) :
    Prepared service.policy service.connected finalShard wakeAt
      (.stored (progress.announce finalShard finalShard) :: v.history) where
  checkpoint := by
    refine ⟨_, List.mem_cons_self, ?_⟩
    rw [Progress.announce, if_pos rfl]
    exact ⟨rfl, rfl⟩
  others := by
    intro other member different
    rcases underway.reached other member with listed | coming
    · exact (steady.asleep other listed).cons _
    · exact absurd (List.mem_singleton.mp coming) different
  first := by
    intro wakeAt asleep called
    exact underway.unlisted (steady.called _ _ _ ((mem_of_quiet rfl).mp called))
  timed := by
    refine ⟨situation, latest, computed, ?_⟩
    rintro cronJobs read ⟨cronJob, member, enabled⟩
    exact nextWake_isSome read member enabled computed

theorem fine_of_prepared {history : List Event} (member : finalShard ∈ service.connected)
    (prepared : Prepared service.policy service.connected finalShard wakeAt history) (asleep : Bool)
    : Fine service.policy service.connected (.slept finalShard wakeAt asleep :: history) := by
  intro _
  exact ⟨finalShard, member, wakeAt, asleep, [], history, rfl, by simp, prepared⟩

theorem status_of_confirmed {response : SleepResponse} (confirmed : response.confirmed = true) :
    response.status = .asleep := by
  simp [SleepResponse.confirmed] at confirmed
  exact confirmed.2

section

variable (requested : service.request ≠ "") (current : Current service v cluster)
  (steady : Steady service.connected progress.accepted v.history)
include requested current steady

theorem sleepFinal_spec (underway : Underway service finalShard progress.accepted [finalShard])
    (latest : latestSituation v.history = some situation)
    (computed : nextWake service.policy situation = .ok state.wakeAt) :
    wp service.contract Anyhow
      (sleepShards service.reconciler false state finalShard [finalShard] cluster progress) v := by
  have fine := fine_of_prepared underway.member (prepared_of_steady steady underway latest computed)
  rw [sleepShards, if_neg underway.unlisted]
  refine wp_then (wp_storeProgress current
    (good_of_fine steady.fine (announce_phase _ _ _)) (fun _ => trivial) ?_)
  intro after current'
  rw [then_ok, if_pos rfl]
  refine wp_act_bind ⟨?_, ?_, ?_⟩
  · intro asleep
    exact ⟨fine asleep, fun sleeping => absurd sleeping (announce_phase _ _ _)⟩
  · intro error
    dsimp only
    rw [if_pos rfl]
    trivial
  · intro response
    dsimp only
    split
    · rw [if_pos rfl]
      trivial
    · exact rollBack_spec ⟨current'.progress, current'.request⟩ requested (fine _) rfl

theorem sleepShards_spec {shards : List Shard}
    (underway : Underway service finalShard progress.accepted shards)
    (latest : latestSituation v.history = some situation)
    (computed : nextWake service.policy situation = .ok state.wakeAt) :
    wp service.contract Anyhow
      (sleepShards service.reconciler false state finalShard shards cluster progress) v := by
  induction shards generalizing cluster progress v with
  | nil => trivial
  | cons shard rest ih =>
    by_cases final : shard = finalShard
    · have nothing := underway.rest_eq_nil final
      subst nothing final
      exact sleepFinal_spec requested current steady underway latest computed
    obtain ⟨unlisted, member⟩ := And.intro underway.unlisted underway.member
    rw [sleepShards]
    split
    · rename_i listed
      exact ih current steady (underway.next (fun _ => id) listed unlisted) latest
    -- Whatever the shard answers, the final one has not been called.
    have uncalled : ∀ asleep, Fine service.policy service.connected (.slept shard none asleep ::
          .stored (progress.announce shard finalShard) :: v.history) := by
      intro asleep
      refine fine_of_uncalled member ?_
      intro wakeAt again called
      rcases List.mem_cons.mp called with same | called
      · exact final (Event.slept.inj same).1.symm
      · exact unlisted (steady.called _ _ _ ((mem_of_quiet rfl).mp called))
    refine wp_then (wp_storeProgress current
      (good_of_fine steady.fine (announce_phase _ _ _)) (fun _ => trivial) ?_)
    intro after current'
    rw [then_ok, if_neg final]
    refine wp_act_bind ⟨?_, ?_, ?_⟩
    · intro asleep
      exact ⟨uncalled asleep, fun sleeping => absurd sleeping (announce_phase _ _ _)⟩
    · intro error
      exact rollBack_spec ⟨current'.progress, current'.request⟩ requested (uncalled _) rfl
    · intro response
      dsimp only
      split
      · rename_i confirmed
        rw [status_of_confirmed confirmed]
        have grown : (progress.announce shard finalShard).accepted =
            progress.accepted ++ [shard] := by
          rw [Progress.announce, if_neg final]
        have steady' : Steady service.connected (progress.announce shard finalShard).accepted
            (.slept shard none true ::
              .stored (progress.announce shard finalShard) :: v.history) := by
          rw [grown]
          exact (steady.quiet rfl).accept ⟨finalShard, member, unlisted, Ne.symm final⟩
        refine wp_then (wp_storeProgress ⟨current'.progress, current'.request⟩
          ⟨(steady'.quiet rfl).fine, fun _ => steady'.quiet rfl⟩ (fun _ => trivial) ?_)
        intro after current'
        refine ih current' (steady'.quiet rfl) (underway.next ?_ ?_ ?_) latest
        · intro other listed
          exact grown ▸ List.mem_append_left _ listed
        · exact grown ▸ List.mem_append_right _ List.mem_cons_self
        · simp [grown, unlisted, Ne.symm final]
      · exact rollBack_spec ⟨current'.progress, current'.request⟩ requested (uncalled _) rfl

end

theorem orderedShards_ne_nil {connections : List Shard} (connects : connections ≠ [])
    (zone : Shard) : orderedShards connections zone ≠ [] := by
  obtain ⟨shard, rest, rfl⟩ := List.exists_cons_of_ne_nil connects
  intro none
  have member : shard ∈ orderedShards (shard :: rest) zone := mem_orderedShards.mpr (by simp)
  rw [none] at member
  cases member

section

variable (connects : service.connected ≠ []) (nodup : service.connected.Nodup)
include connects nodup

theorem underway_of_ordered {zone : Shard} {listed : List Shard}
    (awake : lastShard (orderedShards service.connected zone) ∉ listed) :
    Underway service (lastShard (orderedShards service.connected zone)) listed
      (orderedShards service.connected zone) := by
  refine ⟨nodup_orderedShards nodup zone, fun _ => rfl, ?_, ?_, awake⟩
  · intro shard member
    exact .inr (mem_orderedShards.mpr member)
  · exact mem_orderedShards.mp (lastShard_mem (orderedShards_ne_nil connects zone))

theorem sleepAll_spec (requested : service.request ≠ "") (current : Current service v cluster)
    (own : accepted v.stored = progress.accepted)
    (steady : Steady service.connected progress.accepted v.history)
    (awake : service.reconciler.nodeName = "" →
      lastShard (orderedShards service.connected state.shard) ∉ progress.accepted)
    (latest : latestSituation v.history = some situation)
    (computed : nextWake service.policy situation = .ok state.wakeAt) :
    wp service.contract Anyhow (sleepAll service.reconciler false service.connected cluster
      progress state) v := by
  rw [sleepAll, wp_bind, coordinate]
  split
  · rename_i unnamed
    exact sleepShards_spec requested current steady
      (underway_of_ordered connects nodup (awake unnamed)) latest computed
  refine wp_act_bind ⟨fun _ => trivial, ?_⟩
  intro zone awake
  dsimp only
  split
  · trivial
  rename_i zoned
  exact sleepShards_spec requested current steady
    (underway_of_ordered connects nodup (own ▸ awake zoned)) latest computed

theorem proceed_spec (normal : isForced service.request = false) (requested : service.request ≠ "")
    (current : Current service v cluster) (own : accepted v.stored = progress.accepted)
    (steady : Steady service.connected progress.accepted v.history) :
    wp service.contract Anyhow (proceed service.reconciler cluster progress) v := by
  refine wp_act_bind ?_
  rintro connections (rfl | rfl)
  · trivial
  dsimp only
  rw [current.request, if_neg (by simp [normal])]
  refine wp_act_bind ⟨rfl, ?_⟩
  intro situation
  refine ⟨?_, ?_⟩
  · intro error
    have current' : Current service ⟨v.stored, .judged situation :: v.history⟩ cluster :=
      ⟨current.progress, current.request⟩
    dsimp only
    split
    · exact reject_spec current' requested _
    · exact rollBack_spec current' requested (steady.quiet rfl).fine rfl
  · intro state judged awake
    exact sleepAll_spec connects nodup requested ⟨current.progress, current.request⟩ own
      (steady.quiet rfl) (fun unnamed => own ▸ awake unnamed) rfl (nextWake_of_eligible judged).1

end

/-! ## Invocations -/

theorem serve_spec (connects : service.connected ≠ []) (nodup : service.connected.Nodup)
    (normal : isForced service.request = false) (requested : service.request ≠ "")
    (current : Current service v cluster)
    (good : v.Good service.policy service.connected) :
    wp service.contract Anyhow (serve service.reconciler cluster) v := by
  rw [serve]
  split
  · split
    · exact reject_spec current requested _
    rename_i progress decoded
    rcases decodeProgress_ok decoded with ⟨absent, fresh⟩ | stored
    · have unstored : v.stored = none := current.progress.symm.trans absent
      subst fresh
      refine proceed_spec connects nodup normal requested current (by rw [unstored]; rfl) ?_
      have steady := good.steady (by rw [unstored]; trivial)
      rw [unstored] at steady
      exact steady
    have stored : v.stored = some progress := current.progress.symm.trans stored
    cases phase : progress.phase with
    | finalizing => exact restoreAfterWake_spec current requested good.fine
    | compensating => exact compensate_spec current requested good.fine phase
    | sleeping =>
      refine proceed_spec connects nodup normal requested current (by rw [stored]; rfl) ?_
      have steady := good.steady (by rw [stored]; exact phase)
      rw [stored] at steady
      exact steady
  · exact reject_spec current requested _

theorem requestSleep_spec (current : Current service v cluster)
    (good : v.Good service.policy service.connected) :
    wp service.contract Anyhow (requestSleep service.reconciler cluster) v := by
  rw [requestSleep]
  split
  · refine wp_act_bind ?_
    rintro connections (rfl | rfl)
    · trivial
    refine wp_act_bind ⟨rfl, ?_⟩
    intro situation
    refine ⟨fun _ => trivial, ?_⟩
    intro state _ _
    refine wp_act_bind fun time => wp_act_bind ⟨current.progress, current.request, by simp,
      ?_, fun _ => trivial, fun _ _ _ => trivial⟩
    intro _
    refine ⟨good.fine.quiet rfl, ?_⟩
    intro goes
    have same : cluster.progress = v.stored := current.progress
    show Steady _ (accepted cluster.progress) _
    rw [same]
    exact (good.steady (same ▸ goes)).quiet rfl
  · trivial

/-- **An invocation keeps to the contract.** -/
theorem reconcile_spec (connects : service.connected ≠ []) (nodup : service.connected.Nodup)
    (normal : isForced service.request = false)
    (good : v.Good service.policy service.connected) (name : String) :
    wp service.contract Anyhow (reconcile service.reconciler name) v := by
  rw [reconcile]
  split
  · trivial
  refine wp_act_bind ⟨?_, ?_⟩
  · intro error
    cases error <;> trivial
  · intro cluster same request
    dsimp only
    split
    · exact requestSleep_spec ⟨same, request⟩ good
    · rename_i requested
      exact serve_spec connects nodup normal (request ▸ requested) ⟨same, request⟩ good

end

/-! ## The machine keeps what the contract promises -/

/-- The part of a run that matters. -/
def view (noted : State × List Event) : View :=
  ⟨noted.1.cluster.progress, noted.2⟩

/-- The last call is prepared once every shard sleeps; as long as the request is
there, the stored progress agrees with the history and the running invocation
keeps to its contract. -/
structure Kept (service : Service) (noted : State × List Event) : Prop where
  fine : Fine service.policy service.connected noted.2
  good : noted.1.cluster.request = service.request →
    (view noted).Good service.policy service.connected
  sound : noted.1.cluster.request = service.request → ∀ program,
    noted.1.running = some program → wp service.contract Anyhow program (view noted)

/-- A step within the service. -/
def Service.allows (s : State) (deed : Deed) : Bool :=
  serves service.request service.connected s deed &&
    staysAwake service.reconciler service.policy service.connected s deed

section

variable {service : Service} {s s' after : State} {history : List Event} {deed : Deed}

theorem step_cases {r : SleepReconciler} {policy : SleepPolicy}
    (stepped : step r policy s deed = some s') :
    (∃ situation connections, deed = .judge situation ∧ s.issues = some (.eligible connections) ∧
      s.step r (.perform (judgement (eligible policy situation connections))) = some s') ∨
    ∃ label, deed = .other label ∧ s.step r label = some s' ∧
      ∀ connections outcome, s.issues = some (.eligible connections) →
        label ≠ .perform outcome := by
  cases deed with
  | judge situation =>
    simp only [step] at stepped
    split at stepped
    · exact .inl ⟨situation, _, rfl, ‹_›, stepped⟩
    · cases stepped
  | other label =>
    simp only [step] at stepped
    split at stepped
    · cases stepped
    rename_i otherwise
    refine .inr ⟨_, rfl, stepped, ?_⟩
    intro connections outcome issued same
    exact otherwise connections outcome issued same

theorem serves_iff {request : String} {connected : List Shard} :
    serves request connected s deed = true ↔ s.cluster.request = request ∧
      (∀ value, deed ≠ .other (.edit value)) ∧
      (∀ number, deed = .other (.perform (.version number)) → number = 0) ∧
      ∀ shards, deed = .other (.perform (.connections shards)) →
        shards = none ∨ shards = some connected := by
  unfold serves
  rw [Bool.and_eq_true_iff, decide_eq_true_iff]
  refine and_congr_right fun _ => ?_
  split <;> simp_all

theorem Kept.goes {program : Code Result} {history' : List Event}
    (good : View.Good service.policy service.connected ⟨s.cluster.progress, history'⟩)
    (sound : wp service.contract Anyhow program ⟨s.cluster.progress, history'⟩) :
    Kept service ({ s with running := some program }, history') := by
  refine ⟨good.fine, fun _ => good, ?_⟩
  rintro _ _ ⟨⟩
  exact sound

theorem Kept.patched {base : Annotations} {edit : Edit}
    {next : Except Err Annotations → Code Result} (kept : Kept service (s, history))
    (requested : s.cluster.request = service.request)
    (same : base.progress = s.cluster.progress) (own : base.request = service.request)
    (nonempty : edit = .finish → service.request ≠ "")
    (good : edit ≠ .finish →
      ((view (s, history)).write base edit).Good service.policy service.connected)
    (sound : ∀ cluster : Annotations, cluster.progress = (edit.apply base).progress →
      (∀ progress, edit = .progress progress → cluster.request = service.request) →
        wp service.contract Anyhow (next (.ok cluster)) ((view (s, history)).write base edit)) :
    Kept service ({ s.update (merge service.reconciler base (edit.apply base) s.cluster) with
      running := some (next (.ok (merge service.reconciler base (edit.apply base) s.cluster))) },
      ((view (s, history)).write base edit).history) := by
  have written := merge_progress (r := service.reconciler) (edit.apply base) same
  have sound := sound (merge service.reconciler base (edit.apply base) s.cluster) written (by
    rintro progress rfl
    exact (merge_request _ base s.cluster progress).trans requested)
  by_cases finishes : edit = .finish
  · -- The request is gone, and with it what was to be served.
    subst finishes
    have gone : (merge service.reconciler base (Edit.finish.apply base) s.cluster).request ≠
        service.request := by
      have filled : base.request ≠ "" := own ▸ nonempty rfl
      rw [merge]
      split
      · exact (nonempty rfl).symm
      rw [show (Edit.finish.apply base).request = "" from rfl, if_neg filled]
      exact (nonempty rfl).symm
    exact ⟨kept.fine, fun again => absurd again gone, fun again => absurd again gone⟩
  have good := good finishes
  have stored : View.mk (merge service.reconciler base (edit.apply base) s.cluster).progress
      ((view (s, history)).write base edit).history = (view (s, history)).write base edit := by
    rw [written]
    rfl
  exact Kept.goes (stored ▸ good) (stored ▸ sound)

variable {action : Action}

section

variable (kept : Kept service (s, history))
include kept

/-- **A decision does what its contract says.** -/
theorem Kept.judge {situation : Situation}
    {connections : List Shard} (issued : s.issues = some (.eligible connections))
    (requested : s.cluster.request = service.request)
    (awake : staysAwake service.reconciler service.policy service.connected s
      (.judge situation) = true)
    (stepped : s.step service.reconciler
      (.perform (judgement (eligible service.policy situation connections))) = some s') :
    Kept service (s', .judged situation :: history) := by
  have good := kept.good requested
  have good' : View.Good service.policy service.connected
      ⟨s.cluster.progress, .judged situation :: history⟩ :=
    ⟨good.fine.quiet rfl, fun goes => (good.steady goes).quiet rfl⟩
  generalize decided : eligible service.policy situation connections = decision at stepped
  cases step_change stepped with
  | performed runs effect =>
    have sound := kept.sound requested _ runs
    cases (issues_of_runs runs).symm.trans issued
    obtain ⟨same, holds⟩ : connections = service.connected ∧ _ := sound
    subst same
    cases decision with
    | error error =>
      cases effect
      exact Kept.goes good' ((holds situation).1 error)
    | ok state =>
      cases effect
      refine Kept.goes good' ((holds situation).2 state decided ?_)
      intro unnamed
      show _ ∉ accepted s.cluster.progress
      simpa [staysAwake, unnamed, decided, coordinatesAwake] using awake

/-- **An action does what its contract says.** -/
theorem Kept.perform {next : Reply action → Code Result}
    {outcome : Outcome} {reply : Reply action} (runs : s.running = some (.perform action next))
    (effect : Effect service.reconciler s action outcome after reply)
    (undecided : ∀ connections, action ≠ .eligible connections)
    (allowed : service.allows s (.other (.perform outcome)) = true) :
    Kept service ({ after with running := some (next reply) },
      record (some action) (.other (.perform outcome)) history) := by
  obtain ⟨serves, awake⟩ := Bool.and_eq_true_iff.mp allowed
  obtain ⟨requested, -, latest, connects⟩ := serves_iff.mp serves
  have holds : service.demand action
    (fun reply after => wp service.contract Anyhow (next reply) after) (view (s, history)) :=
      kept.sound requested _ runs
  have good := kept.good requested
  cases effect with
  | read present =>
    cases latest _ rfl
    cases present
    exact Kept.goes good (holds.2 s.cluster rfl requested)
  | unread error | unlocated error => exact Kept.goes good (holds.1 error)
  | connected configured => exact Kept.goes good (holds _ (connects _ rfl))
  | located name =>
    refine Kept.goes good (holds.2 name ?_)
    intro zoned
    show _ ∉ accepted s.cluster.progress
    simpa [staysAwake, zoned, coordinatesAwake] using awake
  | patched base edit =>
    obtain ⟨same, own, nonempty, good, failed, patched⟩ := holds
    exact kept.patched requested same own nonempty good patched
  | unpatched base edit error =>
    cases edit <;> exact Kept.goes good (holds.2.2.2.2.1 error)
  | told shard ifNotBusy wakeAt response => exact Kept.goes (holds.1 _) (holds.2.2 response)
  | untold shard ifNotBusy wakeAt error => exact Kept.goes (holds.1 false) (holds.2.1 error)
  | recorded reason => exact Kept.goes good holds
  | judged connections | unjudged connections => exact absurd rfl (undecided connections)
  | woken | unwoken | unreached | timed | asked | unasked => exact Kept.goes good (holds _)

theorem Kept.step (connects : service.connected ≠ [])
    (nodup : service.connected.Nodup) (normal : isForced service.request = false)
    (allowed : service.allows s deed = true)
    (stepped : LastShard.step service.reconciler service.policy s deed = some s') :
    Kept service (s', record s.issues deed history) := by
  obtain ⟨serves, awake⟩ := Bool.and_eq_true_iff.mp allowed
  obtain ⟨requested, unedited, -, -⟩ := serves_iff.mp serves
  rcases step_cases stepped with ⟨situation, connections, rfl, issued, taken⟩ |
    ⟨label, rfl, taken, undecided⟩
  · rw [issued]
    exact kept.judge issued requested awake taken
  cases step_change taken with
  | invoked name idle =>
    rw [State.issues, idle]
    exact Kept.goes (kept.good requested)
      (reconcile_spec connects nodup normal (kept.good requested) name)
  | performed runs effect =>
    rw [issues_of_runs runs]
    refine kept.perform runs effect ?_ allowed
    rintro connections rfl
    exact undecided connections _ (issues_of_runs runs) rfl
  | ended | crashed =>
    have same : ∀ label, (∀ outcome, label ≠ .perform outcome) →
        record s.issues (.other label) history = history := by
      intro label other
      unfold record
      split <;> simp_all
    rw [same _ (by simp)]
    exact ⟨kept.fine, kept.good, by simp⟩
  | edited request => exact absurd rfl (unedited request)

end

theorem kept_of_reaches {noted : State × List Event} (connects : service.connected ≠ [])
    (nodup : service.connected.Nodup) (normal : isForced service.request = false)
    (reached : (recording service.reconciler service.policy service.request).Reaches
      (fun noted deed => service.allows noted.1 deed = true) noted) : Kept service noted := by
  refine reached.invariant (P := Kept service) ?_ ?_
  · have steady : Steady service.connected [] [] := by
      refine ⟨by simp, by simp, ?_⟩
      obtain ⟨shard, rest, same⟩ := List.exists_cons_of_ne_nil connects
      exact ⟨shard, by simp [same], by simp⟩
    refine ⟨steady.fine, fun _ => ⟨steady.fine, fun _ => steady⟩, ?_⟩
    intro _ program runs
    cases runs
  · intro noted noted' deed before kept allowed stepped
    obtain ⟨s', taken, rfl⟩ := Machine.step_of_watched stepped
    exact kept.step connects nodup normal allowed taken

end

/-- **The coordinating shard sleeps last.** In every run that serves a normal
request over a set of connected shards, and whose invocations coordinate from a
shard that is awake, once every connected shard has answered that it is asleep the
last call was to a shard that the stored checkpoint named, that came after the
answers of all others, and that was told to wake when `nextWake` says. -/
theorem coordinating_shard_last {service : Service} {s : State} {history : List Event}
    (connects : service.connected ≠ []) (nodup : service.connected.Nodup)
    (normal : isForced service.request = false)
    (reached : (recording service.reconciler service.policy service.request).Reaches
      (fun noted deed => service.allows noted.1 deed = true) (s, history))
    (asleep : ∀ shard ∈ service.connected, Asleep history shard) :
    SleptLast service.policy service.connected history :=
  (kept_of_reaches connects nodup normal reached).fine asleep

/-! ## Runs in full -/

/-- The progress that the last shard is put to sleep under. -/
def Event.isCheckpoint : Event → Bool
  | .stored progress => progress.phase = .finalizing
  | _ => false

theorem SleptLast.checkpoint {policy : SleepPolicy} {connected : List Shard}
    {history : List Event} (last : SleptLast policy connected history) :
    history.any Event.isCheckpoint = true := by
  obtain ⟨shard, _, wakeAt, asleep, later, before, rfl, _, prepared⟩ := last
  obtain ⟨progress, member, finalizing, _⟩ := prepared.checkpoint
  refine List.any_eq_true.mpr ⟨.stored progress, by simp [member], ?_⟩
  simp [Event.isCheckpoint, finalizing]

/-- A normal request over two shards, with a coordinating node and a CronJob that
runs every hour. -/
def hourly : Service where
  reconciler := { twoShards with nodeName := "cp-1" }
  request := "2026-01-01T00:00:00Z"
  connected := ["east", "west"]
  policy :=
    { clusterName := "c--red"
      remainingNodes := 1
      inactivity := 1800 * second
      activityWindows := []
      cronLookAhead := 600 * second
      wakeLead := 120 * second
      loadLocation := .ok
      nextCron := fun _ now _ => .ok (now + 3600 * second)
      remaining := by decide }

/-- A cluster in which nothing goes on. -/
def idleCluster : Situation where
  nodes := .ok [{ topologyZone := "west" }]
  machines := .ok []
  pools := .ok []
  shardGroups := .ok []
  jobs := .ok []
  pods := .ok []
  listeners _ := .ok []
  cronJobs := .ok [{ name := "report", schedule := "0 * * * *" }]
  listenerNow _ _ := 0
  cronNow := 0
  lookAheadNow := 0

/-- An invocation decides in the idle cluster and coordinates from a zone. -/
def invokeFrom (zone : String) : List Deed :=
  [.other (.invoke "c--red"), .other (.perform (.version 0)),
    .other (.perform (.connections (some ["east", "west"]))), .judge idleCluster,
    .other (.perform (.zone zone))]

/-- The stored announcement of a shard, and its answer that it is asleep. -/
def sleepsNext : List Deed :=
  [.other (.perform .ok), .other (.perform (.slept ⟨.slept, .asleep⟩))]

/-- The first shard is announced, answers that it is asleep and is accepted. -/
def firstAsleep : List Event :=
  [.stored { request := "2026-01-01T00:00:00Z", phase := .sleeping, accepted := ["east"] },
    .slept "east" none true,
    .stored
      { request := "2026-01-01T00:00:00Z", phase := .compensating, accepted := ["east"]
        reason := "sleep interrupted before shard confirmation" },
    .judged idleCluster]

/-- The node stays in the zone of the second shard. -/
def steadyCoordinator : List Deed :=
  invokeFrom "west" ++ sleepsNext ++ [.other (.perform .ok)] ++ sleepsNext

/-- What the run in order writes down. -/
def steadyHistory : List Event :=
  .slept "west" (some (3480 * second)) true ::
    .stored { request := "2026-01-01T00:00:00Z", phase := .finalizing, accepted := ["east"]
              finalShard := "west" } :: firstAsleep

theorem steadyCoordinator_last :
    (∃ s, (recording hourly.reconciler hourly.policy hourly.request).runWithin
        (fun noted deed => hourly.allows noted.1 deed)
        (recording hourly.reconciler hourly.policy hourly.request).start steadyCoordinator =
          some (s, steadyHistory)) ∧
      SleptLast hourly.policy hourly.connected steadyHistory := by
  refine ⟨⟨_, rfl⟩, coordinating_shard_last (by decide) (by decide) (by decide)
    (Machine.reaches_of_runWithin
      (M := recording hourly.reconciler hourly.policy hourly.request) steadyCoordinator .start
        rfl) ?_⟩
  intro shard member
  have either : shard = "east" ∨ shard = "west" := by simpa [hourly] using member
  rcases either with rfl | rfl
  · exact ⟨none, by simp [steadyHistory, firstAsleep]⟩
  · exact ⟨_, List.mem_cons_self⟩

/-- The controller crashes with the first shard asleep, and its node is in the
zone of that shard when it is invoked again. -/
def movedCoordinator : List Deed :=
  invokeFrom "west" ++ sleepsNext ++ [.other (.perform .ok), .other .crash] ++
    invokeFrom "east" ++ sleepsNext ++ [.other (.perform .ok)]

/-- What that run writes down. -/
def movedHistory : List Event :=
  [.stored { request := "2026-01-01T00:00:00Z", phase := .sleeping, accepted := ["east", "west"] },
    .slept "west" none true,
    .stored
      { request := "2026-01-01T00:00:00Z", phase := .compensating, accepted := ["east", "west"]
        reason := "sleep interrupted before shard confirmation" },
    .judged idleCluster] ++ firstAsleep

/-- Both shards sleep, no checkpoint was stored and no shard was told to wake. -/
theorem movedCoordinator_without_checkpoint :
    (∃ s, (recording hourly.reconciler hourly.policy hourly.request).runWithin
        (fun noted deed => serves hourly.request hourly.connected noted.1 deed)
        (recording hourly.reconciler hourly.policy hourly.request).start movedCoordinator =
          some (s, movedHistory)) ∧
      (∀ shard ∈ hourly.connected, Asleep movedHistory shard) ∧
      (∀ shard wakeAt, .slept shard (some wakeAt) true ∉ movedHistory) ∧
      ¬ SleptLast hourly.policy hourly.connected movedHistory := by
  refine ⟨⟨_, rfl⟩, ?_, ?_, ?_⟩
  · intro shard member
    have either : shard = "east" ∨ shard = "west" := by simpa [hourly] using member
    rcases either with rfl | rfl <;> exact ⟨none, by simp [movedHistory, firstAsleep]⟩
  · intro shard wakeAt
    simp [movedHistory, firstAsleep]
  · intro last
    have checkpoint := last.checkpoint
    simp [movedHistory, firstAsleep, Event.isCheckpoint] at checkpoint

end Nstance.Operator.LastShard
