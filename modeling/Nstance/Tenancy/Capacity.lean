import Nstance.Interaction.Execution
import Nstance.Tenancy.Operations

/-!
# The capacity of a group

A replacement is created before the old instance drains, so a group is larger than its size
meanwhile. Every event of the group that comes then has `handleGroupChanged` delete the
oldest instances, draining or not, and one that serves may be among them
(`Rotation.serving_shed`). The number of serving instances is kept exactly when no serving
instance that can be deleted is in excess, or enough of the others in excess cannot be
deleted (`capacity_kept_iff`).
-/

namespace Nstance.Tenancy

open Interaction Objects
open Program hiding pure bind act
open Nstance.Configuration (GroupConfig TenantGroups)
open Nstance.Instances (InstanceID Tenant GroupKey Time Row Rows InstanceRecord Setting)
open TenantState (Err)

variable {T J F : Type}

/-! ## Executions one action after another -/

section

variable [DecidableEq T] (D : Setting T)

/-- Nothing else happens between two actions. The groups are in memory, so that they can
always be read. -/
def sequential : Environment (interface T J F) (Server T J F) :=
  fun s action reply after => ∃ outcome : Outcome T J F,
    (∀ tenant key, action = .getGroup tenant key → outcome.fate = .done) ∧
      s.perform D action outcome = (after, reply)

end

/-! ## What an action writes -/

/-- The row that an action writes. -/
def Action.writes : Action T J F → Option InstanceID
  | .updateInstance id _ => some id
  | .updateInstanceProviderState id _ => some id
  | .markDrainStarted id => some id
  | .markDrainAcked id => some id
  | .deleteInstance id => some id
  | _ => none

/-- The rows of other instances than the given ones are as before. New rows may have been
inserted. -/
def Kept (touched : InstanceID → Prop) (s s' : Server T J F) : Prop :=
  ∀ id row, ¬ touched id → s.rows.get id = some row → s'.rows.get id = some row

namespace Kept

variable {touched : InstanceID → Prop} {s s' s'' : Server T J F}

theorem refl (s : Server T J F) : Kept touched s s := fun _ _ _ there => there

theorem trans (first : Kept touched s s') (second : Kept touched s' s'') : Kept touched s s'' :=
  fun id row spared there => second id row spared (first id row spared there)

instance : IsPreorder (Server T J F) (Kept touched) where
  refl := refl
  trans _ _ _ := trans

theorem of_rows (same : s'.rows = s.rows) : Kept touched s s' := by
  intro id row _ there
  rw [same]
  exact there

theorem mono {more : InstanceID → Prop} (kept : Kept touched s s')
    (within : ∀ id, touched id → more id) : Kept more s s' :=
  fun id row spared there => kept id row (fun here => spared (within id here)) there

end Kept

section

variable [DecidableEq T] {D : Setting T} {s : Server T J F}

omit [DecidableEq T] in
theorem kept_statement {touched : InstanceID → Prop} {rows : Option (Rows T)} {fate : Fate}
    {refused : Err} (kept : ∀ t, rows = some t → ∀ id row, ¬ touched id →
      s.rows.get id = some row → t.get id = some row) :
    Kept touched s (s.statement rows fate refused).1 := by
  cases rows with
  | none => cases fate <;> exact .refl s
  | some t =>
    cases fate with
    | done | lost => exact kept t rfl
    | refused => exact .refl s

omit [DecidableEq T] in
theorem get_updateLive_of_ne {t t' : Rows T} {id other : InstanceID}
    {change : Row T → Row T} {keeps : ∀ row, (change row).nonce = row.nonce}
    (done : t.updateLive id change keeps = some t') (different : other ≠ id) :
    t'.get other = t.get other := by
  have elsewhere : ∀ row : Row T, ¬ Rows.liveAt id other row = true := by
    intro row here
    rw [Rows.liveAt, Bool.and_eq_true, decide_eq_true_eq] at here
    exact different here.1
  simp only [Rows.get_updateLive done other, elsewhere, Bool.false_eq_true, if_false,
    Option.map_id']

theorem kept_perform (action : Action T J F) (outcome : Outcome T J F) :
    Kept (fun id => action.writes = some id) s (s.perform D action outcome).1 := by
  cases action with
  | createInstance id row =>
    refine kept_statement fun t done other old _ there => ?_
    by_cases same : other = id
    · subst same
      rw [(Rows.get_createInstance_self done).1] at there
      cases there
    · rw [Rows.get_createInstance_of_ne done same]
      exact there
  | updateInstance id given =>
    refine kept_statement fun t done other old spared there => ?_
    rw [Rows.get_updateInstance done other, there, Option.map_some, if_neg]
    exact fun same => spared (congrArg some same.symm)
  | updateInstanceProviderState id status | markDrainStarted id | markDrainAcked id
  | deleteInstance id =>
    refine kept_statement fun t done other old spared there => ?_
    exact (get_updateLive_of_ne done fun same => spared (congrArg some same.symm)).trans there
  | _ => exact Kept.of_rows (Server.rows_perform rfl)

end

/-! ## Programs that keep rows -/

section

variable [DecidableEq T] (D : Setting T) {α β : Type}

/-- Every execution of the program keeps the rows of other instances than the given ones. -/
abbrev Frames (touched : InstanceID → Prop) (program : Code T J F α) : Prop :=
  Relates (contractOf (sequential D)) (Kept touched) program

variable {D} {touched : InstanceID → Prop}

variable {action : Action T J F} {program : Code T J F α}

section

variable (fine : ∀ id, action.writes = some id → touched id)
include fine

theorem frames_perform {next : Reply action → Code T J F α}
    (frames : ∀ reply, Frames D touched (next reply)) :
    Frames D touched (.perform action next) := by
  refine relates_perform (fun s => ?_) frames
  rintro reply after ⟨outcome, _, performed⟩
  have kept := (kept_perform (D := D) (s := s) action outcome).mono fine
  rw [performed] at kept
  exact kept

theorem frames_act : Frames D touched (act action) :=
  frames_perform fine relates_pure

theorem frames_call {result : Reply action → Except Err α} :
    Frames D touched (call action result) :=
  frames_perform fine fun _ => relates_ofExcept _

end

theorem Frames.wrapping {context : String} (frames : Frames D touched program) :
    Frames D touched (wrapping context program) :=
  frames.recover fun _ => relates_fail _

end

/-! ## Creation -/

/-- No instance. -/
def nobody : InstanceID → Prop := fun _ => False

/-- An instance that serves: it is live, it is not being deleted, and it does not drain. -/
structure Serves (tenant : Tenant) (key : GroupKey) (row : Row T) : Prop where
  tenant : row.tenant = tenant
  group : row.group = key
  live : row.live = true
  active : Rows.active row = true
  managed : row.onDemand = false
  stays : row.drainStartedAt = none

/-- A new row serves the group. -/
def Joined (tenant : Tenant) (key : GroupKey) (s s' : Server T J F) : Prop :=
  ∃ id row, s.rows.get id = none ∧ s'.rows.get id = some row ∧ Serves tenant key row

section

variable [DecidableEq T] {D : Setting T} {α β : Type} {s : Server T J F}
  {touched : InstanceID → Prop} {action : Action T J F} {outcome : Outcome T J F}
  {program : Code T J F α} {tenant : Tenant} {key : GroupKey} {record : InstanceRecord T}

omit [DecidableEq T] in
theorem not_written (reads : action.writes = none) :
    ∀ id, action.writes = some id → touched id := by
  intro id writes
  rw [reads] at writes
  cases writes

theorem kept_of_performed {after : Server T J F} {reply : Reply action}
    (reads : action.writes = none) (performed : s.perform D action outcome = (after, reply)) :
    Kept nobody s after := by
  have kept := kept_perform (D := D) (s := s) action outcome
  rw [performed] at kept
  exact kept.mono (not_written reads)

variable {rest : α → Code T J F β} {prepare : Tenant → String → Code T J F Unit}

theorem wp_framed {post : Except Err β → Server T J F → Prop} (frames : Frames D nobody program)
    (failed : ∀ error s', Kept nobody s s' → post (.error error) s')
    (then_ : ∀ value s', Kept nobody s s' → wp (contractOf (sequential D)) post (rest value) s') :
    wp (contractOf (sequential D)) post (program >>= rest) s := by
  refine wp_then (wp_mono ?_ program s (frames s))
  intro result after kept
  cases result with
  | error error => exact failed error after kept
  | ok value => exact then_ value after kept

theorem frames_reading {result : Reply action → Except Err α} (reads : action.writes = none) :
    Frames D touched (call action result) :=
  frames_call (not_written reads)

theorem frames_query (reads : action.writes = none) : Frames D touched (act action) :=
  frames_act (not_written reads)

theorem frames_isAsleep (tenant : Tenant) : Frames D touched (isAsleep tenant : Code T J F Bool) :=
  frames_query rfl

/-- What a creation does to the rows: none is changed, and if it succeeds an instance joins
the group. -/
def Creates (D : Setting T) (tenant : Tenant) (key : GroupKey) (program : Code T J F α) : Prop :=
  ∀ s, wp (contractOf (sequential D)) (fun result s' => Kept nobody s s' ∧
    ((∃ value, result = .ok value) → Joined tenant key s s')) program s

theorem Creates.frames (creates : Creates D tenant key program) : Frames D nobody program :=
  fun s => wp_mono (fun _ _ holds => holds.1) program s (creates s)

omit [DecidableEq T] in
theorem Joined.of_kept {s' s'' : Server T J F} (joined : Joined tenant key s' s'')
    (kept : Kept nobody s s') : Joined tenant key s s'' := by
  obtain ⟨id, row, new, there, serves⟩ := joined
  refine ⟨id, row, ?_, there, serves⟩
  cases old : s.rows.get id with
  | none => rfl
  | some row =>
    rw [kept id row not_false old] at new
    cases new

theorem Creates.after (frames : Frames D nobody program)
    (creates : ∀ value, Creates D tenant key (rest value)) :
    Creates D tenant key (program >>= rest) := by
  intro s
  refine wp_framed frames ?_ ?_
  · rintro error s' kept
    refine ⟨kept, ?_⟩
    rintro ⟨value, failed⟩
    cases failed
  · intro value s' kept
    refine wp_mono ?_ (rest value) s' (creates value s')
    intro result last holds
    exact ⟨kept.trans holds.1, fun ok => (holds.2 ok).of_kept kept⟩

theorem creates_fail (error : Err) : Creates D tenant key (.fail error : Code T J F α) := by
  intro s
  refine ⟨.refl s, ?_⟩
  rintro ⟨value, failed⟩
  cases failed

theorem creates_ite {c : Prop} [Decidable c] {yes no : Code T J F α}
    (first : Creates D tenant key yes) (second : Creates D tenant key no) :
    Creates D tenant key (if c then yes else no) := by
  split
  · exact first
  · exact second

theorem Creates.wrapping {context : String} (creates : Creates D tenant key program) :
    Creates D tenant key (wrapping context program) := by
  intro s
  refine wp_else (wp_mono ?_ program s (creates s))
  intro result s' holds
  cases result with
  | ok value => exact holds
  | error error =>
    refine ⟨holds.1, ?_⟩
    rintro ⟨value, failed⟩
    cases failed

/-- The row of a creation is inserted, and otherwise no row has changed. -/
structure Inserted (record : InstanceRecord T) (s s' : Server T J F) : Prop where
  kept : Kept nobody s s'
  new : s.rows.get record.instanceID = none
  there : s'.rows.get record.instanceID = some record.preInserted

omit [DecidableEq T] in
theorem Inserted.trans {s' s'' : Server T J F} (inserted : Inserted record s s')
    (kept : Kept nobody s' s'') : Inserted record s s'' :=
  ⟨inserted.kept.trans kept, inserted.new, kept _ _ not_false inserted.there⟩

theorem inserted_of_perform {after : Server T J F}
    (performed : s.perform D (.createInstance record.instanceID record.preInserted) outcome =
      (after, .ok ())) : Inserted record s after := by
  have kept := kept_of_performed rfl performed
  have performed : s.statement (s.rows.createInstance record.instanceID record.preInserted)
    outcome.fate (.message "UNIQUE constraint failed") = (after, .ok ()) := performed
  cases done : s.rows.createInstance record.instanceID record.preInserted with
  | none =>
    rw [done] at performed
    cases fate : outcome.fate <;> rw [fate] at performed <;> cases performed
  | some t =>
    rw [done] at performed
    cases fate : outcome.fate <;> rw [fate] at performed <;> cases performed
    obtain ⟨new, there⟩ := Rows.get_createInstance_self done
    exact ⟨kept, new, there⟩

theorem get_of_updateInstance {id : InstanceID} {given row : Row T}
    {after : Server T J F} (there : s.rows.get id = some row)
    (performed : s.perform D (.updateInstance id given) outcome = (after, .ok ())) :
    after.rows.get id = some (Rows.replaced outcome.now given row) := by
  have performed : s.statement (s.rows.updateInstance outcome.now id given) outcome.fate noRows =
    (after, .ok ()) := performed
  cases done : s.rows.updateInstance outcome.now id given with
  | none =>
    rw [done] at performed
    cases fate : outcome.fate <;> rw [fate] at performed <;> cases performed
  | some t =>
    rw [done] at performed
    cases fate : outcome.fate <;> rw [fate] at performed <;> cases performed
    rw [Rows.get_updateInstance done, there, Option.map_some, if_pos rfl]

theorem creates_provision (managed : record.onDemand = false) :
    Creates D record.tenant record.group (provision record : Code T J F _) := by
  intro s
  have failed : ∀ (error : Err) (s' : Server T J F), Kept nobody s s' →
      Kept nobody s s' ∧ ((∃ value : CreateInstanceResponse T,
        (.error error : Except Err _) = .ok value) → Joined record.tenant record.group s s') :=
    fun error s' kept => ⟨kept, fun ok => by cases ok.choose_spec⟩
  refine wp_then (wp_else ?_)
  rintro reply s₁ ⟨outcome, _, performed⟩
  cases reply with
  | error error =>
    exact failed _ _ (kept_of_performed rfl performed)
  | ok =>
    have inserted := inserted_of_perform performed
    refine wp_framed (frames_reading rfl).wrapping ?_ ?_
    · exact fun error s' kept => failed _ _ (inserted.kept.trans kept)
    intro _ s₂ kept
    replace inserted := inserted.trans kept
    refine wp_framed (frames_reading rfl).wrapping ?_ ?_
    · exact fun error s' kept => failed _ _ (inserted.kept.trans kept)
    intro response s₃ kept
    replace inserted := inserted.trans kept
    refine wp_ite (fun _ => failed _ _ inserted.kept) fun _ => ?_
    refine wp_framed (frames_query rfl) ?_ ?_
    · exact fun error s' kept => failed _ _ (inserted.kept.trans kept)
    intro launchedAt s₄ kept
    replace inserted := inserted.trans kept
    refine wp_framed (frames_query rfl) ?_ ?_
    · exact fun error s' kept => failed _ _ (inserted.kept.trans kept)
    intro _ s₅ kept
    replace inserted := inserted.trans kept
    refine wp_framed (frames_query rfl) ?_ ?_
    · exact fun error s' kept => failed _ _ (inserted.kept.trans kept)
    intro providerAt s₆ kept
    replace inserted := inserted.trans kept
    refine wp_then (wp_else ?_)
    rintro reply s₇ ⟨outcome, _, performed⟩
    -- only the row of the creation is written, and it was not there before
    have kept : Kept nobody s s₇ := by
      have kept := kept_perform (D := D) (s := s₆) (.updateInstance record.instanceID
        ((record.launched launchedAt response).updated providerAt)) outcome
      rw [performed] at kept
      intro id row _ there
      refine kept id row ?_ (inserted.kept id row not_false there)
      rintro ⟨⟩
      rw [inserted.new] at there
      cases there
    cases reply with
    | error error => exact failed _ _ kept
    | ok =>
      refine ⟨kept, fun _ => ?_⟩
      exact ⟨record.instanceID, _, inserted.new,
        get_of_updateInstance inserted.there performed, rfl, rfl, rfl, rfl, managed, rfl⟩

theorem frames_placement (prepares : ∀ tenant subnetID, Frames D nobody (prepare tenant subnetID))
    (tenant : Tenant) (pool : String) : Frames D nobody (placement prepare tenant pool) := by
  refine (frames_reading rfl).wrapping.bind fun subnetID => ?_
  refine (prepares tenant subnetID).tried.bind fun prepared => ?_
  cases prepared with
  | ok => exact relates_pure _
  | error error =>
    refine relates_ite ?_ (relates_fail _)
    refine ((frames_reading rfl).recover fun _ => relates_fail _).bind fun fallback => ?_
    refine relates_ite (relates_fail _) ?_
    exact (prepares tenant fallback).wrapping.bind fun _ => relates_pure _

variable {request : CreateInstanceRequest}

theorem creates_createPlaced
    (prepares : ∀ tenant subnetID, Frames D nobody (prepare tenant subnetID))
    (managed : request.onDemand = false) :
    Creates D request.tenant request.group (createPlaced D prepare request) := by
  unfold createPlaced
  split
  · exact creates_fail _
  split
  · exact creates_fail _
  refine Creates.after (frames_query rfl) fun currentConfig => ?_
  refine Creates.after (frames_query rfl) fun found => ?_
  split
  · exact creates_fail _
  dsimp only
  split
  · exact creates_fail _
  refine Creates.after (relates_ite (relates_pure _) (frames_reading rfl).wrapping) fun id => ?_
  refine Creates.after (frames_reading rfl).wrapping fun merged => ?_
  refine Creates.after (frames_query rfl) fun signedAt => ?_
  refine Creates.after (frames_reading rfl).wrapping fun registrationJWT => ?_
  refine Creates.after (frames_reading rfl).wrapping fun _ => ?_
  refine Creates.after (frames_reading rfl).wrapping fun _ => ?_
  split
  · exact creates_fail _
  refine Creates.after (frames_placement prepares _ _) fun subnetID => ?_
  exact Creates.after (frames_query rfl) fun createdAt => creates_provision managed

/-! ### With the NAT manager -/

/-- Actions that delete no instance. -/
def sparing (action : NAT.Action) : Prop := ∀ tenant id, action ≠ .deleteInstance tenant id

section

open NAT.Manager (attempt)

theorem uses_attempt {action : NAT.Action} {read : NAT.Reply action → Except NAT.Err α}
    (spares : sparing action := by rintro _ _ ⟨⟩) : Uses sparing (attempt action read) :=
  ⟨spares, fun _ => uses_ofExcept _⟩

theorem uses_query {action : NAT.Action} (spares : sparing action := by rintro _ _ ⟨⟩) :
    Uses sparing (NAT.Manager.act action) :=
  uses_act spares

variable {context : String}

theorem uses_natWrapping {program : NAT.Code α} (uses : Uses sparing program) :
    Uses sparing (NAT.Manager.wrapping context program) :=
  uses.recover fun _ => trivial

theorem uses_found {reply : Except NAT.Err NAT.Instance} :
    Uses sparing (NAT.Manager.found context reply) := by
  cases reply with
  | ok inst => trivial
  | error error =>
    rw [NAT.Manager.found]
    split <;> trivial

theorem uses_ensureRoute (id : String) (request : NAT.NATRouteRequest) :
    Uses sparing (NAT.Manager.ensureRoute id request) :=
  (uses_natWrapping uses_attempt).bind fun _ =>
    uses_attempt

theorem uses_startReplacement (cfg : NAT.Config) (natConfig : NAT.NATConfig)
    (current : NAT.Assignment) (instanceType : String) (now : NAT.Time) :
    Uses sparing (NAT.Manager.startReplacement cfg natConfig current instanceType now) := by
  refine (uses_natWrapping uses_attempt).bind fun id => ?_
  refine Uses.bind uses_attempt fun replacement => ?_
  split
  · trivial
  refine Uses.bind (Uses.recover uses_attempt fun error => ?_) fun _ => ?_
  · exact Uses.bind (Uses.recover uses_attempt fun _ => trivial) fun _ => trivial
  · exact Uses.bind uses_query fun memory => uses_query

theorem uses_prepareAssignment (cfg : NAT.Config) (natConfig : NAT.NATConfig) (tenant : String)
    (snapshot : NAT.Assignments) (assignment : NAT.Assignment) :
    Uses sparing (NAT.Manager.prepareAssignment cfg natConfig tenant snapshot assignment) := by
  refine Uses.bind uses_query fun reply => uses_found.bind fun inst => ?_
  split
  · exact (uses_natWrapping uses_attempt).bind fun _ => trivial
  split
  · refine Uses.bind uses_query fun now => ?_
    exact (uses_startReplacement _ _ _ _ _).bind fun _ => trivial
  refine Uses.bind uses_query fun now => ?_
  split
  · trivial
  split
  · trivial
  exact (uses_ensureRoute _ _).bind fun _ => uses_natWrapping uses_attempt

theorem uses_prepareSubnet (tenant subnetID : String) :
    Uses sparing (NAT.Manager.prepareSubnet tenant subnetID) := by
  refine Uses.bind uses_query fun cfg => ?_
  split
  · trivial
  refine Uses.bind uses_attempt fun snapshot => ?_
  refine Uses.bind uses_query fun entries => ?_
  split
  · exact uses_prepareAssignment _ _ _ _ _
  refine Uses.bind ?_ fun assignment => uses_prepareAssignment _ _ _ _ _
  refine (uses_natWrapping uses_attempt).bind fun id => ?_
  refine Uses.bind uses_query fun now => ?_
  refine Uses.recover uses_attempt fun error => ?_
  split <;> trivial

theorem uses_replaceInstance (id : String) : Uses sparing (NAT.Manager.replaceInstance id) := by
  refine Uses.bind uses_attempt fun snapshot => ?_
  split
  · trivial
  split
  · trivial
  refine Uses.bind uses_query fun cfg => ?_
  split
  · trivial
  exact Uses.bind uses_query fun now => uses_startReplacement _ _ _ _ _

end

theorem frames_createNATInstance (request : NAT.CreateInstanceRequest) :
    Frames D nobody (createNATInstance D request : Code T J F Unit) := by
  refine (frames_query rfl).bind fun current => ?_
  split
  · exact relates_fail _
  · exact (creates_createPlaced (fun _ _ => relates_pure _) rfl).frames.bind fun _ => relates_pure _

theorem frames_onNAT (action : NAT.Action) (spares : sparing action) :
    Frames D nobody (onNAT D action : Code T J F (NAT.Reply action)) := by
  cases action with
  | getInstance id => exact (frames_query rfl).bind fun _ => relates_pure _
  | createNATInstance request =>
    exact (frames_createNATInstance request).tried.bind fun _ => relates_pure _
  | deleteInstance tenant id => exact absurd rfl (spares tenant id)
  | _ => exact frames_query rfl

theorem frames_prepareSubnet (tenant : Tenant) (subnetID : String) :
    Frames D nobody (prepareSubnet D tenant subnetID : Code T J F Unit) :=
  relates_interpret frames_onNAT (uses_prepareSubnet tenant subnetID)

theorem frames_natReplacementHandler (id : InstanceID) :
    Frames D nobody (natReplacementHandler D id : Code T J F Unit) :=
  relates_interpret frames_onNAT (uses_replaceInstance id)

theorem creates_createInstance {tenant : Tenant} {key : GroupKey}
    (own : request.tenant = tenant) (of : request.group = key)
    (managed : request.onDemand = false) :
    Creates D tenant key (createInstance D request : Code T J F _) := by
  subst own of
  exact creates_createPlaced frames_prepareSubnet managed

theorem creates_createInstanceForGroup (tenant : Tenant) (key : GroupKey) (group : GroupConfig Unit)
    (allowOversize : Bool) :
    Creates D tenant key
      (createInstanceForGroup D tenant key group allowOversize : Code T J F _) := by
  refine Creates.after (frames_isAsleep tenant) fun asleep => creates_ite (creates_fail _) ?_
  refine Creates.after (frames_reading rfl).wrapping fun currentCount => ?_
  refine creates_ite (creates_fail _) ?_
  refine Creates.after (frames_isAsleep tenant) fun asleep => creates_ite (creates_fail _) ?_
  exact Creates.wrapping (creates_createInstance rfl rfl rfl)

theorem frames_scaleUp (tenant : Tenant) (key : GroupKey) (group : GroupConfig Unit)
    (count : Nat) : Frames D nobody (scaleUp D tenant key group count : Code T J F _) := by
  induction count with
  | zero => exact relates_pure _
  | succ count ih =>
    refine (creates_createInstanceForGroup _ _ _ _).frames.tried.bind fun created => ?_
    cases created with
    | ok value => exact ih
    | error error => exact relates_ite (relates_pure _) (relates_fail _)

end

/-! ## The number of serving instances -/

namespace Server

variable (s : Server T J F) (tenant : Tenant) (key : GroupKey)

/-- The members of a group that count. -/
def members : List InstanceID := s.rows.getInstancesByGroup tenant key true

/-- `DrainStartedAt` is set. -/
def draining (id : InstanceID) : Bool :=
  (s.rows.get id).any fun row => row.drainStartedAt.isSome

/-- The active managed instances that are not draining. -/
def serving : List InstanceID := (s.members tenant key).filter fun id => !s.draining id

/-- The instance has a virtual machine, and can be deleted. -/
def launched (id : InstanceID) : Bool :=
  (s.rows.get id).any fun row => (row.providerID.filter (· ≠ "")).isSome

/-- The instances in excess of a size: the oldest. -/
def excess (size : Int) : List InstanceID :=
  (s.members tenant key).take ((s.members tenant key).length - size).toNat

/-- The members that scaling down leaves. -/
def remaining (size : Int) : List InstanceID :=
  (s.members tenant key).drop ((s.members tenant key).length - size).toNat

/-- No serving instance that can be deleted is in excess, or the serving instances in excess
that cannot be deleted make up for the draining ones that remain. -/
def Balanced (size : Int) : Prop :=
  (∀ id ∈ s.excess tenant key size, s.draining id = true ∨ s.launched id = false) ∨
    ((s.remaining tenant key size).filter fun id => s.draining id).length ≤
      ((s.excess tenant key size).filter fun id => !s.draining id && !s.launched id).length

end Server

section

variable {s s' : Server T J F} {tenant : Tenant} {key : GroupKey} {id : InstanceID}

theorem mem_serving :
    id ∈ s.serving tenant key ↔ ∃ row, s.rows.get id = some row ∧ Serves tenant key row := by
  rw [Server.serving, List.mem_filter, Server.members, Rows.mem_getInstancesByGroup_iff]
  constructor
  · rintro ⟨⟨row, there, own, of, live, active, managed⟩, stays⟩
    refine ⟨row, there, own, of, live, active, managed.resolve_left (by decide), ?_⟩
    simpa [Server.draining, there] using stays
  · rintro ⟨row, there, serves⟩
    refine ⟨⟨row, there, serves.tenant, serves.group, serves.live, serves.active,
      .inr serves.managed⟩, ?_⟩
    simp [Server.draining, there, serves.stays]

theorem nodup_members : (s.members tenant key).Nodup :=
  Rows.nodup_getInstancesByGroup s.rows tenant key true

theorem nodup_serving : (s.serving tenant key).Nodup := nodup_members.filter _

theorem Kept.serving {touched : InstanceID → Prop} (kept : Kept touched s s')
    (mem : id ∈ s.serving tenant key) (spared : ¬ touched id) : id ∈ s'.serving tenant key := by
  obtain ⟨row, there, serves⟩ := mem_serving.mp mem
  exact mem_serving.mpr ⟨row, kept id row spared there, serves⟩

theorem Kept.length_le (kept : Kept nobody s s') :
    (s.serving tenant key).length ≤ (s'.serving tenant key).length :=
  (List.subperm_of_subset nodup_serving fun _ mem => kept.serving mem not_false).length_le

theorem Kept.length_le_succ (kept : Kept (· = id) s s') :
    (s.serving tenant key).length ≤ (s'.serving tenant key).length + 1 := by
  have within : s.serving tenant key ⊆ id :: s'.serving tenant key := by
    intro other mem
    by_cases same : other = id
    · exact List.mem_cons.mpr (.inl same)
    · exact List.mem_cons.mpr (.inr (kept.serving mem same))
  exact (List.subperm_of_subset nodup_serving within).length_le

theorem Kept.length_lt (kept : Kept nobody s s') (joined : Joined tenant key s s') :
    (s.serving tenant key).length + 1 ≤ (s'.serving tenant key).length := by
  obtain ⟨id, row, new, there, serves⟩ := joined
  have absent : id ∉ s.serving tenant key := by
    intro mem
    obtain ⟨row, old, _⟩ := mem_serving.mp mem
    rw [new] at old
    cases old
  have distinct : (id :: s.serving tenant key).Nodup := List.nodup_cons.mpr ⟨absent, nodup_serving⟩
  have within : id :: s.serving tenant key ⊆ s'.serving tenant key := by
    intro other mem
    rcases List.mem_cons.mp mem with rfl | mem
    · exact mem_serving.mpr ⟨row, there, serves⟩
    · exact kept.serving mem not_false
  exact (List.subperm_of_subset distinct within).length_le

end

/-! ## Deletion -/

section

variable [DecidableEq T] {D : Setting T} {α β : Type} {s : Server T J F}

theorem frames_deleteInstance (tenant : Tenant) (id : InstanceID) :
    Frames D (· = id) (deleteInstance tenant id : Code T J F Unit) := by
  refine (frames_reading rfl).wrapping.bind fun inst => ?_
  refine relates_ite (relates_fail _) ?_
  split
  · exact relates_fail _
  refine Relates.bind (relates_ite (relates_pure _) (Frames.wrapping (frames_call ?_))) fun _ => ?_
  · rintro other ⟨⟩
    rfl
  refine (frames_reading rfl).wrapping.bind fun _ => ?_
  refine Relates.bind ((frames_reading rfl).recover fun cause => ?_) fun _ => ?_
  · exact relates_ite (relates_pure _) (relates_fail _)
  refine (frames_query rfl).bind fun _ => ?_
  refine Relates.bind (Relates.recover ?_ fun _ => relates_pure _) fun _ => ?_
  · refine (frames_reading rfl).bind fun record => (frames_query rfl).bind fun updatedAt => ?_
    exact frames_reading rfl
  refine Relates.bind (frames_act ?_) fun _ => relates_pure _
  rintro other ⟨⟩
  rfl

variable {id : InstanceID}

theorem row_of_getInstance {outcome : Outcome T J F} {after : Server T J F}
    {row : Row T} (performed : s.perform D (.getInstance id) outcome = (after, .ok row)) :
    after = s ∧ s.rows.get id = some row :=
  ⟨(congrArg Prod.fst performed).symm, Server.get_of_getInstance (congrArg Prod.snd performed)⟩

theorem wp_deleteInstance_unlaunched {tenant : Tenant} {row : Row T}
    (there : s.rows.get id = some row) (unlaunched : row.providerID.filter (· ≠ "") = none) :
    wp (contractOf (sequential D)) (fun _ s' => s' = s)
      (deleteInstance tenant id : Code T J F Unit) s := by
  refine wp_then (wp_else ?_)
  rintro reply after ⟨outcome, _, performed⟩
  cases reply with
  | error error => exact (congrArg Prod.fst performed).symm
  | ok inst =>
    obtain ⟨rfl, found⟩ := row_of_getInstance performed
    cases there.symm.trans found
    refine wp_ite (fun _ => rfl) fun _ => ?_
    split
    · rfl
    rename_i vm has
    rw [unlaunched] at has
    cases has

theorem wp_scaleDown {touched : InstanceID → Prop} {tenant : Tenant} (victims : List InstanceID)
    (known : ∀ id ∈ victims, ∃ row, s.rows.get id = some row)
    (within : ∀ id ∈ victims, s.launched id = true → touched id)
    (spared : ∀ id, touched id → s.launched id = true) :
    ∀ s₁, Kept touched s s₁ → wp (contractOf (sequential D)) (fun _ s' => Kept touched s s')
      (scaleDown tenant victims : Code T J F Unit) s₁ := by
  induction victims with
  | nil => exact fun s₁ kept => kept
  | cons id rest ih =>
    intro s₁ kept
    have deletes : wp (contractOf (sequential D)) (fun _ s' => Kept touched s s')
        (deleteInstance tenant id : Code T J F Unit) s₁ := by
      by_cases launched : s.launched id = true
      · refine wp_mono ?_ _ s₁ (frames_deleteInstance tenant id s₁)
        intro _ s₂ more
        refine kept.trans (more.mono ?_)
        rintro other rfl
        exact within other List.mem_cons_self launched
      obtain ⟨row, there⟩ := known id List.mem_cons_self
      have still := kept id row (fun here => launched (spared id here)) there
      refine wp_mono ?_ _ s₁ (wp_deleteInstance_unlaunched still ?_)
      · rintro _ _ rfl
        exact kept
      · rw [Server.launched, there, Option.any_some] at launched
        exact Option.not_isSome_iff_eq_none.mp launched
    refine wp_then ((wp_tried _ s₁).mpr (wp_mono ?_ _ s₁ deletes))
    intro deleted s₂ kept
    refine wp_then ((wp_tried _ s₂).mpr (wp_mono ?_ _ s₂
      (ih (fun id mem => known id (List.mem_cons_of_mem _ mem))
        (fun id mem => within id (List.mem_cons_of_mem _ mem)) s₂ kept)))
    intro others s₃ kept
    cases deleted <;> cases others <;> exact kept

end

/-! ## Rotation -/

section

variable [DecidableEq T] (D : Setting T) {α β : Type} (tenant : Tenant) (key : GroupKey)

/-- The group serves with no fewer instances. -/
def Manned (s s' : Server T J F) : Prop :=
  (s.serving tenant key).length ≤ (s'.serving tenant key).length

instance : IsPreorder (Server T J F) (Manned tenant key) where
  refl _ := le_refl _
  trans _ _ _ := le_trans

/-- The number of serving instances does not go down. -/
abbrev Retains (program : Code T J F α) : Prop :=
  Relates (contractOf (sequential D)) (Manned tenant key) program

variable {D tenant key}

theorem Frames.retains {program : Code T J F α} (frames : Frames D nobody program) :
    Retains D tenant key program :=
  fun s => wp_mono (fun _ _ kept => kept.length_le) program s (frames s)

theorem frames_replaceNATInstance (id : InstanceID) (tenant : Tenant) (key : GroupKey) :
    Frames D nobody (replaceNATInstance D id tenant key : Code T J F _) := by
  refine (frames_query rfl).bind fun cfg => relates_ite ?_ (relates_pure _)
  exact (frames_natReplacementHandler id).tried.bind fun _ => relates_pure _

theorem retains_replaceAndDrain (id : InstanceID) (group : GroupConfig Unit) (skipDrain : Bool) :
    Retains D tenant key (replaceAndDrain D id tenant key group skipDrain : Code T J F Unit) := by
  refine (frames_replaceNATInstance _ _ _).retains.bind fun handled => ?_
  refine relates_ite (relates_pure _) (Relates.bind (frames_query rfl).retains fun cfg => ?_)
  intro s
  refine wp_then ((wp_tried _ s).mpr (wp_mono ?_ _ s
    (creates_createInstanceForGroup tenant key group true s)))
  rintro result s₁ ⟨kept, joined⟩
  cases result with
  | error error => exact kept.length_le
  | ok value =>
    have more := kept.length_lt (joined ⟨value, rfl⟩)
    have frames : Frames D (· = id)
        (if skipDrain ∨ drainTimeout cfg group = 0 then deleteLogged tenant id
        else do
          initiateInstanceDrain id false
          let timestamp ← now
          enqueue { type := .checkInstance id, timestamp } : Code T J F Unit) := by
      refine relates_ite ((frames_deleteInstance _ _).tried.bind fun _ => relates_pure _) ?_
      refine Relates.bind ((frames_act ?_).bind fun _ => relates_pure _) fun _ =>
        (frames_query rfl).bind fun timestamp => frames_query rfl
      rintro other ⟨⟩
      rfl
    refine wp_mono ?_ _ s₁ (frames s₁)
    intro _ s₂ kept
    have fewer : (s₁.serving tenant key).length ≤ (s₂.serving tenant key).length + 1 :=
      kept.length_le_succ
    show (s.serving tenant key).length ≤ _
    omega

theorem frames_findDrifted (hash : String) (ids : List InstanceID) :
    ∀ drifted, Frames D nobody (findDrifted hash ids drifted : Code T J F _) := by
  induction ids with
  | nil => exact fun drifted => relates_pure _
  | cons id rest ih =>
    intro drifted
    refine Relates.bind (frames_query rfl) fun found => ?_
    cases found with
    | error error => exact ih _
    | ok inst => exact relates_ite (relates_pure _) (relates_ite (ih _) (ih _))

theorem retains_checkGroupConfigDrift (group : GroupConfig Unit) : Retains D tenant key
      (checkGroupConfigDrift D tenant key group : Code T J F Unit) := by
  refine Relates.bind (frames_query rfl).retains fun cached => ?_
  split
  · exact relates_pure _
  · exact relates_pure _
  refine Relates.bind (frames_query rfl).retains fun current => ?_
  split
  · exact relates_pure _
  refine Relates.bind (frames_findDrifted _ _ _).retains fun drifted => ?_
  split
  · exact relates_pure _
  · exact retains_replaceAndDrain _ _ _

theorem frames_countDraining (ids : List InstanceID) :
    Frames D nobody (countDraining ids : Code T J F Nat) := by
  induction ids with
  | nil => exact relates_pure _
  | cons id rest ih =>
    refine Relates.bind (frames_query rfl) fun found => ih.bind fun others => ?_
    cases found with
    | error error | ok inst => exact relates_pure _

theorem wp_expireInstance {s : Server T J F} {id : InstanceID} {row : Row T}
    (there : s.rows.get id = some row) (own : row.tenant = tenant) (of : row.group = key) :
    wp (contractOf (sequential D)) (fun _ s' =>
        (s.serving tenant key).length ≤ (s'.serving tenant key).length)
      (expireInstance D id : Code T J F Unit) s := by
  refine wp_then ?_
  rintro reply after ⟨outcome, _, performed⟩
  cases reply with
  | error error =>
    have same : after = s := (congrArg Prod.fst performed).symm
    subst same
    exact le_rfl
  | ok inst =>
    obtain ⟨rfl, found⟩ := row_of_getInstance performed
    cases there.symm.trans found
    subst own of
    refine wp_then ?_
    intro found s₁ replied
    have kept : Kept nobody after s₁ := frames_query rfl after found s₁ replied
    cases found with
    | error error => exact kept.length_le
    | ok group =>
      show wp _ _ (replaceAndDrain D id row.tenant row.group group false) s₁
      refine wp_mono ?_ _ s₁ (retains_replaceAndDrain _ _ _ s₁)
      intro _ s₂ more
      exact kept.length_le.trans more

theorem retains_expireOlderThan (age : Instances.Duration) :
    Retains D tenant key (expireOlderThan D tenant key age : Code T J F Bool) := by
  intro s
  refine wp_then ?_
  rintro reply after ⟨outcome, _, performed⟩
  have same : after = s := (congrArg Prod.fst performed).symm
  subst same
  cases reply with
  | error error => exact le_rfl
  | ok instances =>
    have listed : instances = after.olderThan outcome.now age := by
      have read : outcome.read (.ok (after.olderThan outcome.now age)) = .ok instances :=
        congrArg Prod.snd performed
      unfold Outcome.read at read
      split at read <;> cases read
      rfl
    refine (wp_pure (Except.ok instances) after).mpr ?_
    unfold Then
    dsimp only
    split
    · exact le_rfl
    rename_i entry found
    have wanted := List.find?_some found
    simp only [decide_eq_true_eq] at wanted
    have there := Server.get_of_mem_olderThan (listed ▸ List.mem_of_find?_eq_some found)
    refine wp_then (wp_mono ?_ _ after (wp_expireInstance there wanted.1 wanted.2))
    intro result s' fewer
    cases result with
    | ok | error error => exact fewer

theorem retains_checkGroupExpiry :
    Retains D tenant key (checkGroupExpiry D tenant key : Code T J F Unit) := by
  refine Relates.bind (frames_query rfl).retains fun cfg => ?_
  refine relates_ite (relates_pure _) ?_
  refine Relates.bind (frames_query rfl).retains fun current => ?_
  split
  · exact relates_pure _
  refine Relates.bind (frames_countDraining _).retains fun drainingCount => ?_
  refine Relates.bind (relates_ite (retains_expireOlderThan _) (relates_pure _)) fun expired => ?_
  refine relates_ite ?_ (relates_pure _)
  exact (retains_expireOlderThan _).bind fun _ => relates_pure _

theorem frames_scheduleGroupExpiry (tenant : Tenant) (key : GroupKey) :
    Frames D nobody (scheduleGroupExpiry tenant key : Code T J F Unit) := by
  refine Relates.bind (frames_query rfl) fun cfg => relates_ite (relates_pure _) ?_
  refine Relates.bind (frames_query rfl) fun oldest => ?_
  split
  · exact relates_pure _
  · exact relates_pure _
  · exact frames_query rfl

end

/-! ## Scaling to a size -/

namespace Server

variable (s : Server T J F) (tenant : Tenant) (key : GroupKey)

/-- The instances that scaling down deletes. -/
def Victim (size : Int) (id : InstanceID) : Prop :=
  id ∈ s.excess tenant key size ∧ s.launched id = true

instance (size : Int) (id : InstanceID) : Decidable (s.Victim tenant key size id) :=
  inferInstanceAs (Decidable (_ ∧ _))

/-- The serving instances that scaling down leaves. -/
def retained (size : Int) : List InstanceID :=
  (s.serving tenant key).filter fun id => !decide (s.Victim tenant key size id)

end Server

section

variable {s s' : Server T J F} {tenant : Tenant} {key : GroupKey} {size : Int}

theorem excess_append_remaining :
    s.excess tenant key size ++ s.remaining tenant key size = s.members tenant key :=
  List.take_append_drop _ _

variable {id : InstanceID}

theorem mem_members_of_excess (mem : id ∈ s.excess tenant key size) : id ∈ s.members tenant key :=
  List.mem_of_mem_take mem

theorem mem_retained : id ∈ s.retained tenant key size ↔
      id ∈ s.serving tenant key ∧ ¬ s.Victim tenant key size id := by
  simp [Server.retained]

theorem Kept.retained_length_le (kept : Kept (s.Victim tenant key size) s s') :
    (s.retained tenant key size).length ≤ (s'.serving tenant key).length := by
  refine (List.subperm_of_subset (nodup_serving.filter _) ?_).length_le
  intro id mem
  obtain ⟨serves, spared⟩ := mem_retained.mp mem
  exact kept.serving serves spared

theorem length_serving : (s.serving tenant key).length = (s.retained tenant key size).length +
      ((s.excess tenant key size).filter fun id => !s.draining id && s.launched id).length := by
  have same : ((s.serving tenant key).filter fun id => decide (s.Victim tenant key size id)).Perm
      ((s.excess tenant key size).filter fun id => !s.draining id && s.launched id) := by
    refine (List.perm_ext_iff_of_nodup (nodup_serving.filter _)
      ((nodup_members.sublist (List.take_sublist _ _)).filter _)).mpr fun id => ?_
    rw [List.mem_filter, Server.serving, List.mem_filter, List.mem_filter, decide_eq_true_eq,
      Bool.and_eq_true]
    constructor
    · rintro ⟨⟨_, stays⟩, mem, launched⟩
      exact ⟨mem, stays, launched⟩
    · rintro ⟨mem, stays, launched⟩
      exact ⟨⟨mem_members_of_excess mem, stays⟩, mem, launched⟩
  have parts := List.length_eq_length_filter_add (l := s.serving tenant key)
    fun id => decide (s.Victim tenant key size id)
  rw [same.length_eq] at parts
  rw [parts, Nat.add_comm]
  rfl

theorem length_remaining : ((s.remaining tenant key size).length : Int) =
      max 0 (min size (s.members tenant key).length) := by
  rw [Server.remaining, List.length_drop]
  omega

theorem balanced_iff : s.Balanced tenant key size ↔
    min size (s.serving tenant key).length ≤ (s.retained tenant key size).length := by
  have none_shed : (∀ id ∈ s.excess tenant key size, s.draining id = true ∨ s.launched id = false) ↔
      ((s.excess tenant key size).filter fun id => !s.draining id && s.launched id).length = 0 := by
    rw [List.length_eq_zero_iff, List.filter_eq_nil_iff]
    refine forall₂_congr fun id _ => ?_
    cases s.draining id <;> cases s.launched id <;> decide
  have serving : (s.serving tenant key).length =
      ((s.excess tenant key size).filter fun id => !s.draining id).length +
        ((s.remaining tenant key size).filter fun id => !s.draining id).length := by
    rw [Server.serving, ← excess_append_remaining, List.filter_append, List.length_append]
  have shed : ((s.excess tenant key size).filter fun id => !s.draining id).length =
      ((s.excess tenant key size).filter fun id => !s.draining id && s.launched id).length +
        ((s.excess tenant key size).filter fun id => !s.draining id && !s.launched id).length := by
    rw [List.length_eq_length_filter_add s.launched, List.filter_filter, List.filter_filter]
    simp only [Bool.and_comm]
  have inExcess := List.length_filter_le (fun id => !s.draining id) (s.excess tenant key size)
  have left : (s.remaining tenant key size).length =
      ((s.remaining tenant key size).filter fun id => s.draining id).length +
        ((s.remaining tenant key size).filter fun id => !s.draining id).length :=
    List.length_eq_length_filter_add _
  have total : (s.excess tenant key size ++ s.remaining tenant key size).length =
      (s.members tenant key).length := congrArg List.length excess_append_remaining
  have size_left : ((s.remaining tenant key size).length : Int) = _ := length_remaining
  have count : (s.serving tenant key).length = (s.retained tenant key size).length + _ :=
    length_serving
  rw [List.length_append] at total
  rw [Server.Balanced, none_shed]
  omega

end

/-! ## Reconciliation of a group -/

section

variable [DecidableEq T] (D : Setting T) (tenant : Tenant) (key : GroupKey)

/-- What `handleGroupChanged` does to bring the instances it has read to the size of the
group. -/
def resize (group : GroupConfig Unit) (current : List InstanceID) : Code T J F Unit := do
  (if (current.length : Int) < group.getSize then
      scaleUp D tenant key group (group.getSize - current.length).toNat
    else pure ())
  (if group.getSize < current.length then
      scaleDown tenant (current.take (current.length - group.getSize).toNat)
    else pure ())

/-- What `handleGroupChanged` does when the group has its size. -/
def rotate (group : GroupConfig Unit) : Code T J F Unit := do
  checkGroupConfigDrift D tenant key group
  checkGroupExpiry D tenant key
  scheduleGroupExpiry tenant key

variable {D tenant key} {s : Server T J F} {group : GroupConfig Unit}

theorem retains_rotate : Retains D tenant key (rotate D tenant key group : Code T J F Unit) :=
  (retains_checkGroupConfigDrift group).bind fun _ =>
    retains_checkGroupExpiry.bind fun _ => (frames_scheduleGroupExpiry tenant key).retains

theorem wp_resize :
    wp (contractOf (sequential D)) (fun _ s' => Kept (s.Victim tenant key group.getSize) s s')
      (resize D tenant key group (s.members tenant key)) s := by
  refine wp_then (wp_mono ?_ _ s
    (relates_ite (frames_scaleUp tenant key group _) (relates_pure _) s))
  intro result s₁ kept
  have kept : Kept (s.Victim tenant key group.getSize) s s₁ :=
    kept.mono fun _ touched => touched.elim
  cases result with
  | error error => exact kept
  | ok =>
    refine wp_ite (fun _ => ?_) fun _ => kept
    refine wp_scaleDown _ ?_ (fun id mem launched => ⟨mem, launched⟩) (fun id victim => victim.2)
      s₁ kept
    intro id mem
    obtain ⟨row, there, _⟩ := Rows.mem_getInstancesByGroup (mem_members_of_excess mem)
    exact ⟨row, there⟩

/-- A configured group of a tenant that is awake is brought to its size and then rotated. -/
theorem wp_handleGroupChanged {E : Environment (interface T J F) (Server T J F)}
    (within : ∀ {s : Server T J F} {action : Action T J F}
      {reply : Reply action} {after : Server T J F},
      E s action reply after → sequential D s action reply after)
    (configured : s.getGroup tenant key = .ok group) (awake : (s.cached tenant).asleep = false)
    (ordinary : s.config.nat tenant ≠ some key)
    {post : Except Err Unit → Server T J F → Prop}
    (unread : ∀ error after, E s (.getInstancesByGroup tenant key) (.error error) after →
      ∀ context, post (.error (.wrap context error)) after)
    (read : wp (contractOf E) post (do
      resize D tenant key group (s.members tenant key)
      rotate D tenant key group) s) :
    wp (contractOf E) post (handleGroupChanged D tenant key) s := by
  refine wp_then ?_
  intro config after replied
  obtain ⟨_, _, performed⟩ := within replied
  cases performed
  refine wp_ite (fun nat => (ordinary nat).elim) fun _ => ?_
  refine wp_then (wp_else ?_)
  intro listed after replied
  obtain ⟨outcome, _, performed⟩ := within replied
  have same : after = s := (congrArg Prod.fst performed).symm
  subst same
  have listing : outcome.read (.ok (after.members tenant key)) = listed :=
    congrArg Prod.snd performed
  cases listed with
  | error error => exact unread error after replied _
  | ok current =>
    have all : current = after.members tenant key := by
      unfold Outcome.read at listing
      split at listing <;> cases listing
      rfl
    subst all
    refine wp_then ?_
    intro found next replied
    obtain ⟨outcome, done, performed⟩ := within replied
    have same : next = after := (congrArg Prod.fst performed).symm
    subst same
    have known : outcome.read (next.getGroup tenant key) = found := congrArg Prod.snd performed
    rw [Outcome.read, if_pos (done tenant key rfl), configured] at known
    subst known
    refine wp_then ?_
    intro asleep last replied
    obtain ⟨_, _, performed⟩ := within replied
    have same : last = next := (congrArg Prod.fst performed).symm
    subst same
    have known : (last.cached tenant).asleep = asleep := congrArg Prod.snd performed
    rw [awake] at known
    subst known
    rw [resize, Program.bind_assoc] at read
    exact read

end

/-! ## Deletions that do not get far -/

section

variable [DecidableEq T] (D : Setting T)

/-- Nothing outside of the server can be reached. A deletion then ends when the instance
drains, before it is withdrawn from the load balancers. -/
def stalled (config : Config F) : Environment (interface T J F) (Server T J F) :=
  fun s action reply after => s.perform D action { answer := unreachable config } = (after, reply)

/-- The given instances drain, and the rows of the others are as before. -/
structure Stopped (given : InstanceID → Prop) (s s' : Server T J F) : Prop where
  drains : ∀ id row, given id → s'.rows.get id = some row → row.drainStartedAt.isSome = true
  others : ∀ id, ¬ given id → s'.rows.get id = s.rows.get id

variable {D} {s s' : Server T J F} {tenant : Tenant} {key : GroupKey} {config : Config F}

theorem sequential_of_stalled {action : Action T J F} {reply : Reply action}
    (replied : stalled D config s action reply s') : sequential D s action reply s' :=
  ⟨_, fun _ _ _ => rfl, replied⟩

variable {id : InstanceID}

theorem wp_withdraw_stalled {rest : Unit → Code T J F Unit} {context : String}
    {post : Except Err Unit → Server T J F → Prop}
    (fails : ∀ error, post (.error error) s) :
    wp (contractOf (stalled D config)) post
      (wrapping context (call (.deregisterInstanceFromLB id) fun reply => reply) >>= rest) s := by
  refine wp_then (wp_else ?_)
  intro reply after replied
  cases replied
  exact fails _

theorem wp_deleteInstance_stalled {row : Row T} (there : s.rows.get id = some row)
    (live : row.live = true) (own : row.tenant = tenant) :
    wp (contractOf (stalled D config)) (fun result s' => (∃ error, result = .error error) ∧
        Stopped (fun other => other = id ∧ s.launched other = true) s s')
      (deleteInstance tenant id : Code T J F Unit) s := by
  refine wp_then (wp_else ?_)
  intro reply after replied
  have found : s.rows.getInstance id = some row := by
    rw [Rows.getInstance, there, Option.filter_some, if_pos live]
  cases (Server.perform_getInstance found rfl).symm.trans replied
  refine wp_ite (fun other => (other own).elim) fun _ => ?_
  split
  · rename_i unlaunched
    refine ⟨⟨_, rfl⟩, ?_, fun _ _ => rfl⟩
    rintro other _ ⟨rfl, launched⟩ _
    rw [Server.launched, there, Option.any_some, unlaunched] at launched
    cases launched
  rename_i vm has
  have launched : s.launched id = true := by
    rw [Server.launched, there, Option.any_some, has]
    rfl
  refine wp_then (wp_ite (fun draining => ?_) fun _ => ?_)
  · refine wp_withdraw_stalled fun error => ⟨⟨error, rfl⟩, ?_, fun _ _ => rfl⟩
    rintro other row' ⟨rfl, _⟩ there'
    cases there.symm.trans there'
    exact draining
  · refine wp_else ?_
    intro reply marked replied
    obtain ⟨t, done⟩ : ∃ t, s.rows.markDrainStarted 0 id = some t := by
      rw [Rows.markDrainStarted, Rows.updateLive, found, Option.isSome_some, if_pos rfl]
      exact ⟨_, rfl⟩
    have written : s.statement (s.rows.markDrainStarted 0 id) .done noRows =
        (marked, reply) := replied
    rw [done] at written
    cases written
    refine wp_withdraw_stalled fun error => ⟨⟨error, rfl⟩, ?_, ?_⟩
    · rintro other row' ⟨rfl, _⟩ there'
      have now : t.get other = some row' := there'
      rw [Rows.get_updateLive done other, there, Option.map_some, Rows.liveAt, decide_eq_true rfl,
        Bool.true_and, if_pos live] at now
      cases now
      rfl
    · intro other spared
      exact get_updateLive_of_ne done fun same => spared ⟨same, same ▸ launched⟩

omit [DecidableEq T] in
theorem launched_of_get_eq (same : s'.rows.get id = s.rows.get id) :
    s'.launched id = s.launched id := by
  rw [Server.launched, same, Server.launched]

theorem wp_scaleDown_stalled (victims : List InstanceID) (distinct : victims.Nodup) :
    ∀ s : Server T J F, (∀ id ∈ victims, ∃ row, s.rows.get id = some row ∧
        row.live = true ∧ row.tenant = tenant) →
      wp (contractOf (stalled D config)) (fun result s' =>
          (victims ≠ [] → ∃ error, result = .error error) ∧
            Stopped (fun id => id ∈ victims ∧ s.launched id = true) s s')
        (scaleDown tenant victims : Code T J F Unit) s := by
  induction victims with
  | nil =>
    intro s _
    exact ⟨fun some => (some rfl).elim, fun id _ given => (List.not_mem_nil given.1).elim,
      fun _ _ => rfl⟩
  | cons id rest ih =>
    intro s known
    obtain ⟨absent, distinct⟩ := List.nodup_cons.mp distinct
    obtain ⟨row, there, live, own⟩ := known id List.mem_cons_self
    refine wp_then ((wp_tried _ s).mpr (wp_mono ?_ _ s (wp_deleteInstance_stalled there live own)))
    rintro deleted s₁ ⟨⟨error, rfl⟩, first⟩
    have same : ∀ other ∈ rest, s₁.rows.get other = s.rows.get other := by
      intro other mem
      refine first.others other ?_
      rintro ⟨rfl, _⟩
      exact absent mem
    have known₁ : ∀ other ∈ rest, ∃ row, s₁.rows.get other = some row ∧
        row.live = true ∧ row.tenant = tenant := by
      intro other mem
      rw [same other mem]
      exact known other (List.mem_cons_of_mem _ mem)
    refine wp_then ((wp_tried _ s₁).mpr (wp_mono ?_ _ s₁ (ih distinct s₁ known₁)))
    rintro others s₂ ⟨_, second⟩
    have stopped : Stopped (fun other => other ∈ id :: rest ∧ s.launched other = true) s s₂ := by
      constructor
      · rintro other row ⟨mem, launched⟩ there
        by_cases later : other ∈ rest
        · refine second.drains other row ⟨later, ?_⟩ there
          rw [launched_of_get_eq (same other later)]
          exact launched
        have here : other = id := (List.mem_cons.mp mem).resolve_right later
        rw [second.others other fun given => later given.1] at there
        exact first.drains other row ⟨here, launched⟩ there
      · intro other spared
        have later : ¬ (other ∈ rest ∧ s₁.launched other = true) := by
          rintro ⟨mem, launched⟩
          rw [launched_of_get_eq (same other mem)] at launched
          exact spared ⟨List.mem_cons_of_mem _ mem, launched⟩
        rw [second.others other later]
        refine first.others other ?_
        rintro ⟨rfl, launched⟩
        exact spared ⟨List.mem_cons_self, launched⟩
    cases others with
    | ok | error error => exact ⟨fun _ => ⟨_, rfl⟩, stopped⟩

omit [DecidableEq T] in
theorem Stopped.serving_length_le {size : Int} (stopped : Stopped (s.Victim tenant key size) s s') :
    (s'.serving tenant key).length ≤ (s.retained tenant key size).length := by
  refine (List.subperm_of_subset nodup_serving ?_).length_le
  intro id mem
  obtain ⟨row, there, serves⟩ := mem_serving.mp mem
  have spared : ¬ s.Victim tenant key size id := by
    intro victim
    have drains := stopped.drains id row victim there
    rw [serves.stays] at drains
    cases drains
  rw [stopped.others id spared] at there
  exact mem_retained.mpr ⟨mem_serving.mpr ⟨row, there, serves⟩, spared⟩

theorem exists_handled_retained {group : GroupConfig Unit}
    (configured : s.getGroup tenant key = .ok group) (awake : (s.cached tenant).asleep = false)
    (ordinary : s.config.nat tenant ≠ some key)
    (sized : 0 ≤ group.getSize) (crowded : group.getSize < (s.members tenant key).length) :
    ∃ result last, (handleGroupChanged D tenant key).Ends (sequential D) result last s ∧
      (last.serving tenant key).length ≤ (s.retained tenant key group.getSize).length := by
  have handled : wp (contractOf (stalled D s.config)) (fun _ last =>
      (last.serving tenant key).length ≤ (s.retained tenant key group.getSize).length)
      (handleGroupChanged D tenant key) s := by
    refine wp_handleGroupChanged sequential_of_stalled configured awake ordinary ?_ ?_
    · intro error after replied
      cases congrArg Prod.snd replied
    · rw [resize, if_neg crowded.not_gt, if_pos crowded]
      refine wp_then (wp_mono ?_ _ s (wp_scaleDown_stalled _
        (nodup_members.sublist (List.take_sublist _ _)) s ?_))
      · rintro result s' ⟨fails, stopped⟩
        obtain ⟨error, rfl⟩ := fails (by
          rw [Ne, List.take_eq_nil_iff]
          rintro (none | none)
          · omega
          · rw [none, List.length_nil] at crowded
            omega)
        exact stopped.serving_length_le
      · intro id mem
        obtain ⟨row, there, own, _, live, _⟩ :=
          Rows.mem_getInstancesByGroup_iff.mp (mem_members_of_excess mem)
        exact ⟨row, there, live, own⟩
  have ends := ends_run (E := stalled D s.config) (fun _ _ => rfl)
    (handleGroupChanged D tenant key) s
  exact ⟨_, _, ends.mono sequential_of_stalled, (wp_contractOf _).mp handled _ _ ends⟩

end

/-! ## Capacity -/

section

variable [DecidableEq T] (D : Setting T)

theorem wp_handleGroupChanged_nat {s : Server T J F} {tenant : Tenant} {key : GroupKey}
    (nat : s.config.nat tenant = some key) :
    wp (contractOf (sequential D)) (fun _ last => last = s)
      (handleGroupChanged D tenant key) s := by
  refine wp_then ?_
  rintro config after ⟨_, _, performed⟩
  cases performed
  exact wp_ite (fun _ => rfl) fun other => (other nat).elim

/-- Reconciling a configured group of a tenant that is awake never leaves fewer serving
instances than its size and than there were, and bringing it to its size deletes none of
them when they are not more than that, exactly if the group is the one of a managed NAT or
balanced. -/
theorem capacity_kept_iff (s : Server T J F) (tenant : Tenant) (key : GroupKey)
    (group : GroupConfig Unit) (configured : s.getGroup tenant key = .ok group)
    (awake : (s.cached tenant).asleep = false) :
    ((∀ result last, (handleGroupChanged D tenant key).Ends (sequential D) result last s →
        min group.getSize (s.serving tenant key).length ≤ (last.serving tenant key).length) ∧
      (s.config.nat tenant ≠ some key → (s.serving tenant key).length ≤ group.getSize →
        ∀ result last,
          (resize D tenant key group (s.members tenant key)).Ends (sequential D) result last s →
            s.serving tenant key ⊆ last.serving tenant key)) ↔
      s.config.nat tenant = some key ∨ s.Balanced tenant key group.getSize := by
  by_cases ordinary : s.config.nat tenant = some key
  · refine iff_of_true ⟨(wp_contractOf _).mp ?_, fun other => (other ordinary).elim⟩ (.inl ordinary)
    refine wp_mono ?_ _ s (wp_handleGroupChanged_nat D ordinary)
    rintro _ last rfl
    exact min_le_right _ _
  rw [or_iff_right ordinary, balanced_iff]
  constructor
  · rintro ⟨kept, _⟩
    by_cases sized : 0 ≤ group.getSize
    case neg => omega
    by_cases crowded : group.getSize < (s.members tenant key).length
    · obtain ⟨result, last, ends, fewer⟩ :=
        exists_handled_retained configured awake ordinary sized crowded
      have enough := kept result last ends
      omega
    rw [← balanced_iff]
    refine .inl ?_
    rw [Server.excess, Int.toNat_of_nonpos (by omega), List.take_zero]
    exact fun id mem => (List.not_mem_nil mem).elim
  · intro enough
    refine ⟨(wp_contractOf _).mp ?_, fun _ small => ?_⟩
    · refine wp_handleGroupChanged id configured awake ordinary ?_ ?_
      · rintro error after ⟨outcome, _, performed⟩ context
        have same : after = s := (congrArg Prod.fst performed).symm
        subst same
        exact min_le_right _ _
      · refine wp_then (wp_mono ?_ _ s wp_resize)
        intro result s₁ kept
        have kept := kept.retained_length_le
        cases result with
        | error error =>
          show min group.getSize _ ≤ _
          omega
        | ok =>
          refine wp_mono ?_ _ s₁ (retains_rotate s₁)
          intro _ last more
          have more : (s₁.serving tenant key).length ≤ _ := more
          omega
    · refine (wp_contractOf _).mp (wp_mono ?_ _ s wp_resize)
      intro _ last kept id mem
      refine kept.serving mem ?_
      have all : s.retained tenant key group.getSize = s.serving tenant key :=
        List.filter_sublist.eq_of_length_le (by
          rw [min_eq_right small] at enough
          exact Int.ofNat_le.mp enough)
      exact (mem_retained.mp (all ▸ mem)).2

end

namespace Rotation

open Nstance.Instances (Claims)

/-- No ID has a storage key. -/
def setting : Setting Claims := unsigned fun _ => none

/-- The nonce of an instance. -/
def nonce (id : InstanceID) : Claims where
  subject := id
  kind := "agent"
  clusterID := "cluster"
  shard := "east"
  group := "web"
  tenant := "a"
  notBefore := 0
  issuedAt := 0
  expiresAt := 600

/-- A row that may be draining. -/
def row (id : InstanceID) (createdAt : Time) (drainStartedAt : Option Time) : Row Claims where
  tenant := "a"
  group := "web"
  subnetID := "subnet-1"
  providerID := some id
  nonce := nonce id
  drainStartedAt
  createdAt

/-- A configuration with nothing set. -/
def config : Config Unit where
  defaults := {}
  templates := .empty
  bindHealthAddr := ""
  advertise := ⟨"", "", "", "", ""⟩

/-- A group of two. -/
def group : GroupConfig Unit where
  template := "worker"
  size := some 2

/-- A group of size two with a third instance, for one of the first two drains. -/
def server (first second : Option Time) : Server Claims Unit Unit where
  config
  groups := TenantGroups.put .empty "a" "web" { template := "worker", size := some 2 }
  rows := (do
    let t ← Rows.createInstance .empty "web1" (row "web1" 1 first)
    let t ← t.createInstance "web2" (row "web2" 2 second)
    t.createInstance "web3" (row "web3" 3 none)).getD .empty

/-- The load balancers and the provider can be reached. -/
def answer : (action : Action Claims Unit Unit) → Reply action
  | .deregisterInstanceFromLB _ => .ok ()
  | .deleteVM _ _ => .ok ()
  | action => unreachable config action

/-- When the first instance drains, it is the one that is deleted. -/
theorem capacity_kept_of_oldest_draining : (server (some 2) none).getGroup "a" "web" = .ok group ∧
    ∀ result last, (handleGroupChanged setting "a" "web").Ends (sequential setting) result last
      (server (some 2) none) → 2 ≤ (last.serving "a" "web").length := by
  have configured : (server (some 2) none).getGroup "a" "web" = .ok group := rfl
  refine ⟨configured, fun result last ends => ?_⟩
  have kept := ((capacity_kept_iff setting _ "a" "web" group configured rfl).mpr
    (.inr (.inl (by decide +kernel)))).1 result last ends
  have two : ((server (some 2) none).serving "a" "web").length = 2 := by decide +kernel
  exact Int.ofNat_le.mp kept

/-- When the second instance drains, the first is deleted: one of two serving instances
is left. -/
theorem serving_shed : (server none (some 2)).getGroup "a" "web" = .ok group ∧
    group.getSize = 2 ∧ (server none (some 2)).serving "a" "web" = ["web1", "web3"] ∧
      ∃ result last, (handleGroupChanged setting "a" "web").Ends (sequential setting) result last
        (server none (some 2)) ∧ result.isOk = true ∧ last.serving "a" "web" = ["web3"] := by
  have ends := ends_run (E := sequential setting) (fun s action =>
    ⟨{ answer := answer }, fun _ _ _ => rfl, rfl⟩) (handleGroupChanged setting "a" "web")
      (server none (some 2))
  exact ⟨rfl, rfl, by decide +kernel, _, _, ends, by decide +kernel, by decide +kernel⟩

end Rotation

end Nstance.Tenancy
