import Mathlib.Data.Set.Lattice
import Mathlib.Order.CompletePartialOrder
import Nstance.GC.Service
import Nstance.Interaction.Lore
import Nstance.Tenancy.Failover

/-!
# Instances are given up after the provider has confirmed it

No row should be marked as deleted before the provider has confirmed that the virtual
machine is gone. The deletion by the instance manager is of that kind
(`careful_deleteInstance`), and so is a rebuild from a sound list (`unlisted_of_marked`).
The collector gives up rows that name no virtual machine without asking, also when one was
created (`Timeout.running_unknown`). If it meets no such row, it is right as well
(`discarded_confirmed`).
-/

namespace Nstance.GC

open Interaction Interaction.Lore Objects
open Nstance.Instances (InstanceID Tenant GroupKey Time Duration Row Rows InstanceRecord Setting
  StorageKey ServerID Surroundings)
open Nstance.Tenancy (Server Outcome Fate)
open TenantState (Err)

variable {T J F : Type}

/-! ## What the programs need to know -/

/-- What must be known before a call. -/
def Needs : Action T J F → Set InstanceID → Prop
  | .server (.deleteInstance id), notes => id ∈ notes
  | .server action, _ => calm action = true
  | .deleteRecord id _, notes => id ∈ notes
  | _, _ => True

variable (entries : List (InstanceID × Row T))

/-- The rows found have virtual machines. -/
def AllLaunched (_ : Set InstanceID) : Prop :=
  ∀ entry ∈ entries, launched entry.2 = true

/-- The instances found are known to be gone. -/
def AllConfirmed (notes : Set InstanceID) : Prop :=
  ∀ entry ∈ entries, entry.1 ∈ notes

/-- What the replies tell, if the collector only meets rows with a virtual machine. -/
def Teaches : (action : Action T J F) → Reply action → Set InstanceID → Prop
  | .server (.deleteVM id _), reply, notes => confirms reply = true → id ∈ notes
  | .findUnhealthyProviderInstances, .ok rows, notes => AllLaunched rows notes
  | .findDanglingInstances _, .ok rows, notes => AllLaunched rows notes
  | .findStalePreInserts _, .ok rows, notes => AllLaunched rows notes
  | .findDeletedInstancesPastRetention _, .ok rows, notes => AllConfirmed rows notes
  | _, _, _ => True

/-- What calls need and what they teach. -/
def lore : Lore (interface T J F) (Set InstanceID) where
  Allowed request := Needs request.2
  Learned request := Teaches request.2

/-- The same for the instance manager of a server. -/
def managerLore : Lore (Tenancy.interface T J F) (Set InstanceID) where
  Allowed action := Needs (.server action)
  Learned action := Teaches (.server action)

/-- The actions of the instance manager that need nothing to be confirmed. -/
def free : Tenancy.Action T J F → Bool
  | .deleteInstance _ => false
  | action => calm action

variable {action : Tenancy.Action T J F}

theorem needs_of_free (frees : free action = true)
    (notes : Set InstanceID) : Needs (.server action) notes := by
  cases action with
  | deleteInstance id => cases frees
  | _ => exact frees

section

variable {α : Type} {notes : Set InstanceID} {post : α → Set InstanceID → Prop}

/-! ### The instance manager -/

theorem safe_call {result : Tenancy.Reply action → Except Err α} (frees : free action = true) :
    managerLore.Safe (Tenancy.call action result) notes :=
  careful_perform (needs_of_free frees notes) fun _ _ _ _ => careful_ofExcept fun _ _ => trivial

variable {context : String} {program : Tenancy.Code T J F α} {entries : List (InstanceID × Row T)}

theorem safe_wrapping (safe : managerLore.Safe program notes) :
    managerLore.Safe (Tenancy.wrapping context program) notes :=
  safe.recover fun _ _ _ => careful_fail

theorem safe_query (frees : free action = true) : managerLore.Safe (Tenancy.act action) notes :=
  careful_act (needs_of_free frees notes) fun _ _ _ _ => trivial

theorem safe_provision (record : InstanceRecord T) :
    managerLore.Safe (Tenancy.provision record : Tenancy.Code T J F _) notes := by
  refine (safe_wrapping (safe_call rfl)).seq fun _ notes _ => ?_
  refine (safe_wrapping (safe_call rfl)).seq fun _ notes _ => ?_
  refine (safe_wrapping (safe_call rfl)).seq fun response notes _ => ?_
  split
  · exact careful_fail
  refine (safe_query rfl).seq fun launchedAt notes _ => ?_
  refine (safe_query rfl).seq fun _ notes _ => ?_
  refine (safe_query rfl).seq fun providerAt notes _ => ?_
  exact (safe_wrapping (safe_call rfl)).seq fun _ _ _ => safe_pure

theorem careful_deleteVM (id : InstanceID) (vm : String) :
    managerLore.Careful (fun _ notes => id ∈ notes)
      ((Tenancy.call (.deleteVM id vm) fun reply => reply).recover fun cause =>
        if cause.is .instanceNotFound then pure ()
        else .fail (.wrap "failed to delete instance" cause) : Tenancy.Code T J F Unit)
      notes := by
  refine careful_perform rfl fun (reply : Except Err Unit) notes' _ learned => ?_
  have learned : confirms reply = true → id ∈ notes' := learned
  cases reply with
  | ok value => exact learned rfl
  | error cause =>
    show managerLore.Careful _ (if cause.is .instanceNotFound then pure () else _) notes'
    split
    · rename_i gone
      exact learned gone
    · exact careful_fail

/-- The instance manager marks a row after the provider has confirmed the deletion, and only
then reports success. -/
theorem careful_deleteInstance (tenant : Tenant) (id : InstanceID) :
    managerLore.Careful (fun _ notes => id ∈ notes)
      (Tenancy.deleteInstance tenant id : Tenancy.Code T J F Unit) notes := by
  refine (safe_wrapping (safe_call rfl)).seq fun inst notes _ => ?_
  split
  · exact careful_fail
  split
  · exact careful_fail
  rename_i vm _
  refine Careful.seq ?_ fun _ notes _ => ?_
  · split
    · exact safe_pure
    · exact safe_wrapping (safe_call rfl)
  refine (safe_wrapping (safe_call rfl)).seq fun _ notes _ => ?_
  refine (careful_deleteVM id vm).bind fun _ notes _ confirmed => ?_
  refine (safe_query rfl).seq fun _ notes' grown => ?_
  have confirmed := grown confirmed
  refine Careful.seq (Careful.recover ?_ fun _ _ _ => safe_pure) fun _ notes'' grown => ?_
  · refine (safe_call rfl).seq fun record _ _ => ?_
    exact (safe_query rfl).seq fun updatedAt _ _ => safe_call rfl
  have confirmed := grown confirmed
  refine Careful.seq (careful_act confirmed fun _ _ _ _ => trivial) fun _ _ grown => ?_
  exact careful_pure (grown confirmed)

theorem careful_onServer {server : ServerID} (careful : managerLore.Careful post program notes) :
    lore.Careful post (onServer server program) notes :=
  careful.interpret fun _ _ needs => careful_act needs fun _ _ _ learned => learned

/-! ### The collector -/

variable {server : ServerID}

theorem careful_query {action : Action T J F}
    {result : Reply action → Except Err (List (InstanceID × Row T))}
    {post : List (InstanceID × Row T) → Set InstanceID → Prop} (needs : Needs action notes)
    (teaches : ∀ reply notes', Teaches action reply notes' → ∀ rows, result reply = .ok rows →
      post rows notes') : lore.Careful post (query server context action result) notes := by
  refine Careful.recover ?_ fun _ _ _ => careful_fail
  refine careful_perform needs fun reply notes' _ learned => ?_
  exact careful_ofExcept fun rows same => teaches reply notes' learned rows same

variable {D : Setting T}

theorem safe_cleanup {entry : InstanceID × Row T} (confirmed : entry.1 ∈ notes) :
    lore.Safe (cleanup server D entry : Code T J F Unit) notes := by
  refine Careful.seq ?_ fun _ notes' grown => ?_
  · split
    · refine Careful.seq (careful_act confirmed fun _ _ _ _ => trivial) fun _ _ _ => safe_pure
    · exact safe_pure
  · refine Careful.seq (careful_act (grown confirmed) fun _ _ _ _ => trivial) fun _ _ _ => ?_
    split
    · refine Careful.seq (careful_act rfl fun _ _ _ _ => trivial) fun _ _ _ => ?_
      exact careful_act rfl fun _ _ _ _ => trivial
    · exact safe_pure

theorem safe_terminateAndCleanup (known : AllLaunched entries notes) :
    lore.Safe (terminateAndCleanup server D entries : Code T J F Unit) notes := by
  induction entries generalizing notes with
  | nil => exact safe_pure
  | cons entry rest ih =>
    refine Careful.seq ?_ fun _ _ _ =>
      ih fun entry mem => known entry (List.mem_cons_of_mem _ mem)
    rw [if_pos (known entry List.mem_cons_self)]
    refine (careful_onServer (careful_deleteInstance _ _)).tried.bind fun deleted _ _ given => ?_
    cases deleted with
    | ok value => exact safe_cleanup given
    | error error => exact safe_pure

theorem safe_runGarbageCollection (maxAge : Duration) :
    lore.Safe (runGarbageCollection server D maxAge : Code T J F Unit) notes := by
  refine Careful.bind (P := AllLaunched) (careful_query trivial ?_) fun unhealthy _ _ known => ?_
  · rintro _ _ learned rows rfl
    exact learned
  refine (safe_terminateAndCleanup known).seq fun _ _ _ => ?_
  refine Careful.bind (P := AllLaunched) (careful_query trivial ?_) fun dangling _ _ known => ?_
  · rintro _ _ learned rows rfl
    exact learned
  refine (safe_terminateAndCleanup known).seq fun _ _ _ => ?_
  refine Careful.bind (P := AllLaunched) (careful_query trivial ?_) fun stale _ _ known => ?_
  · rintro _ _ learned rows rfl
    exact learned
  exact safe_terminateAndCleanup known

theorem safe_removeRecords (confirmed : AllConfirmed entries notes) :
    lore.Safe (removeRecords server D entries : Code T J F Unit) notes := by
  induction entries generalizing notes with
  | nil => exact safe_pure
  | cons entry rest ih =>
    refine Careful.seq ?_ fun _ _ grown => ih fun entry mem =>
      grown (confirmed entry (List.mem_cons_of_mem _ mem))
    split
    · exact safe_pure
    refine Careful.seq (careful_act (confirmed entry List.mem_cons_self)
      fun _ _ _ _ => trivial) fun reply _ _ => ?_
    split
    · exact Careful.seq (careful_act trivial fun _ _ _ _ => trivial) fun _ _ _ => safe_pure
    · exact safe_pure

theorem safe_cleanupDeletedInstanceRecords (retentionPeriod : Duration) :
    lore.Safe (cleanupDeletedInstanceRecords server D retentionPeriod : Code T J F Unit) notes := by
  refine Careful.seq (careful_act rfl fun _ _ _ _ => trivial) fun time _ _ => ?_
  refine Careful.bind (P := AllConfirmed) (careful_query trivial ?_) fun deleted _ _ confirmed => ?_
  · rintro _ _ learned rows rfl
    exact learned
  exact safe_removeRecords confirmed

end

/-! ## Rows that become deleted -/

section

variable [DecidableEq T] {D : Setting T} {s : Server T J F} {id : InstanceID} {row : Row T}

omit [DecidableEq T] in
theorem get_statement {rows : Option (Rows T)} {fate : Fate} {refused : Err}
    (there : (s.statement rows fate refused).1.rows.get id = some row) :
    s.rows.get id = some row ∨ ∃ t, rows = some t ∧ t.get id = some row := by
  unfold Server.statement at there
  split at there
  · exact .inr ⟨_, rfl, there⟩
  · exact .inl there
  · exact .inl there
  · exact .inr ⟨_, rfl, there⟩
  · exact .inl there

omit [DecidableEq T] in
theorem deleted_of_updateLive {t t' : Rows T} {other : InstanceID}
    {change : Row T → Row T} {keeps : ∀ row, (change row).nonce = row.nonce}
    (done : t.updateLive other change keeps = some t') (there : t'.get id = some row)
    (same : ∀ row, (change row).live = row.live) :
    ∃ old, t.get id = some old ∧ old.live = row.live := by
  rw [Rows.get_updateLive done id] at there
  obtain ⟨old, was, rfl⟩ := Option.map_eq_some_iff.mp there
  refine ⟨old, was, ?_⟩
  split
  · exact (same old).symm
  · rfl

theorem deleted_of_perform {outcome : Outcome T J F} (still : calm action = true)
    (there : (s.perform D action outcome).1.rows.get id = some row) (deleted : row.live = false) :
    action = .deleteInstance id ∨ ∃ old, s.rows.get id = some old ∧ old.live = false := by
  cases action with
  | createInstance other new =>
    rcases get_statement there with was | ⟨t, done, now⟩
    · exact .inr ⟨row, was, deleted⟩
    by_cases same : id = other
    · subst same
      cases (Rows.get_createInstance_self done).2.symm.trans now
      rw [show row.live = true from still] at deleted
      cases deleted
    · exact .inr ⟨row, (Rows.get_createInstance_of_ne done same).symm.trans now, deleted⟩
  | updateInstance other given =>
    rcases get_statement there with was | ⟨t, done, now⟩
    · exact .inr ⟨row, was, deleted⟩
    rw [Rows.get_updateInstance done id] at now
    obtain ⟨old, was, rfl⟩ := Option.map_eq_some_iff.mp now
    split at deleted
    · have live : given.live = false := deleted
      rw [show given.live = true from still] at live
      cases live
    · exact .inr ⟨old, was, deleted⟩
  | updateInstanceProviderState other status | markDrainStarted other | markDrainAcked other =>
    rcases get_statement there with was | ⟨t, done, now⟩
    · exact .inr ⟨row, was, deleted⟩
    · obtain ⟨old, was, same⟩ := deleted_of_updateLive done now fun _ => rfl
      exact .inr ⟨old, was, same.trans deleted⟩
  | deleteInstance other =>
    rcases get_statement there with was | ⟨t, done, now⟩
    · exact .inr ⟨row, was, deleted⟩
    by_cases same : id = other
    · exact .inl (congrArg _ same.symm)
    · exact .inr ⟨row, (Tenancy.get_updateLive_of_ne done same).symm.trans now, deleted⟩
  | _ =>
    rw [Server.rows_perform rfl] at there
    exact .inr ⟨row, there, deleted⟩

end

/-! ## Sound lists -/

variable (statuses : List Rows.InstanceStatus)

/-- Every virtual machine of the list has an identifier, and belongs to one instance. -/
def sound : Bool :=
  statuses.all fun status => status.providerInstanceID ≠ "" &&
    statuses.all fun other =>
      other.providerInstanceID ≠ status.providerInstanceID || other.instanceID = status.instanceID

variable {id : InstanceID}

theorem get_foldl_owners {provider : String} {owners : Dict String InstanceID}
    (unique : ∀ status ∈ statuses, status.providerInstanceID = provider → status.instanceID = id)
    (named : owners.get provider = some id ∨
      ∃ status ∈ statuses, status.providerInstanceID = provider) :
    (statuses.foldl (fun owners status =>
      owners.set status.providerInstanceID status.instanceID) owners).get provider = some id := by
  induction statuses generalizing owners with
  | nil =>
    rcases named with there | ⟨status, mem, -⟩
    · exact there
    · cases mem
  | cons first rest ih =>
    rw [List.foldl_cons]
    refine ih (fun status mem => unique status (List.mem_cons_of_mem _ mem)) ?_
    by_cases same : first.providerInstanceID = provider
    · left
      rw [same, Dict.get_set_self, unique first List.mem_cons_self same]
    rw [Dict.get_set_of_ne (Ne.symm same)]
    refine named.imp_right ?_
    rintro ⟨status, mem, has⟩
    rcases List.mem_cons.mp mem with rfl | mem
    · exact absurd has same
    · exact ⟨status, mem, has⟩

/-- An instance that a sound list names owns the virtual machine that its row then names. -/
theorem owned_of_listed {statuses : List Rows.InstanceStatus}
    (sounds : sound statuses = true) (names : Fleet.listed statuses id = true) (row : Row T) :
    Surroundings.Owned statuses id row := by
  have unique : ∀ status ∈ statuses, status.providerInstanceID ≠ "" ∧ ∀ other ∈ statuses,
      other.providerInstanceID = status.providerInstanceID →
        other.instanceID = status.instanceID := by
    intro status mem
    have held := List.all_eq_true.mp sounds status mem
    simp only [Bool.and_eq_true, decide_eq_true_eq, List.all_eq_true, Bool.or_eq_true] at held
    exact ⟨held.1, fun other there same => (held.2 other there).resolve_left (not_not.mpr same)⟩
  obtain ⟨named, mem, is⟩ := List.any_eq_true.mp names
  simp only [Bool.and_eq_true, decide_eq_true_eq] at is
  have updates : named ∈ (Surroundings.instancesToUpdate statuses).filter
      fun status => status.instanceID = id := by
    refine List.mem_filter.mpr ⟨List.mem_filter.mpr ⟨mem, ?_⟩, decide_eq_true is.2⟩
    simp only [Bool.and_eq_true, decide_eq_true_eq]
    exact ⟨(unique named mem).1, is.1⟩
  obtain ⟨last, final⟩ : ∃ last, Surroundings.lastStatus id statuses = some last := by
    rw [Surroundings.lastStatus]
    exact Option.isSome_iff_exists.mp (List.getLast?_isSome.mpr (List.ne_nil_of_mem updates))
  have chosen := List.mem_filter.mp (List.mem_of_getLast? final)
  have there : last ∈ statuses := (List.mem_filter.mp chosen.1).1
  have own : last.instanceID = id := of_decide_eq_true chosen.2
  intro provider has
  rw [final, Option.map_some, Option.some_or, Option.some.injEq] at has
  subst has
  refine get_foldl_owners _ ?_ (.inr ⟨last, List.mem_filter.mpr ⟨there, ?_⟩, rfl⟩)
  · intro status of same
    exact ((unique last there).2 status (List.mem_filter.mp of).1 same).trans own
  · exact decide_eq_true (unique last there).1

theorem unlisted_of_marked [DecidableEq T] {w : Surroundings T} {prior : Rows T}
    (marked : id ∈ Fleet.marked prior (w.rebuildCache prior).2)
    (sounds : sound (w.allInstances.getD []) = true) :
    Fleet.listed (w.allInstances.getD []) id = false := by
  obtain ⟨entry, selected, rfl⟩ := List.mem_map.mp marked
  obtain ⟨there, new⟩ := List.mem_filter.mp selected
  simp only [Bool.and_eq_true, Bool.not_eq_true'] at new
  rcases w.deleted_after_rebuild (Dict.get_eq_some_iff.mpr there) new.1 with
    ⟨old, was, dead⟩ | ⟨statuses, seeded, listed, missing⟩
  · simp [was, dead] at new
  rw [listed, Option.getD_some] at sounds ⊢
  by_contra names
  exact missing (owned_of_listed sounds (Bool.not_eq_false _ ▸ names) seeded)

/-! ## The invariant -/

/-- The condition on an action. The collector only meets rows that name a virtual machine, and
none is created for an instance that was confirmed to have none. -/
def met (fleet : Fleet T J F) (outcome : Outcome T J F) :
    ServerID × Action T J F → Bool
  | (_, .server (.createVM record)) => !fleet.confirmed.contains record.instanceID
  | (server, action) =>
    (toCleanup (fleet.tables server) outcome.now action).all fun entry => launched entry.2

/-- The condition on the steps. Besides, the list that a rebuild is given is sound. -/
def careful (s : State T J F) : Label T J F → Bool
  | .advance j outcome => ((s.tasks[j]?).bind Program.next?).all (met s.store outcome)
  | .lead _ surroundings => sound (surroundings.allInstances.getD [])
  | _ => true

namespace Fleet

/-- The deleted rows of all servers are confirmed, and so is what was given up. -/
structure Verified (fleet : Fleet T J F) : Prop where
  rows : ∀ server id row, (fleet.tables server).get id = some row → row.live = false →
    id ∈ fleet.confirmed
  discards : ∀ id ∈ fleet.discarded, id ∈ fleet.confirmed

/-- What a program knows has been confirmed. -/
def Knows (fleet : Fleet T J F) (notes : Set InstanceID) : Prop :=
  ∀ id ∈ notes, id ∈ fleet.confirmed

variable {fleet : Fleet T J F}

theorem tables_noted (action : Tenancy.Action T J F) (reply : Tenancy.Reply action) :
    (fleet.noted action reply).tables = fleet.tables := by
  cases action with
  | deleteVM id vm =>
    show (if confirms reply then _ else fleet).tables = fleet.tables
    split <;> rfl
  | _ => rfl

variable {action : Tenancy.Action T J F} {id : InstanceID} {request : ServerID × Action T J F}
  (reply : Tenancy.Reply action)

theorem confirmed_noted
    (fresh : ∀ record, action = .createVM record → record.instanceID ∉ fleet.confirmed)
    (before : id ∈ fleet.confirmed) : id ∈ (fleet.noted action reply).confirmed := by
  cases action with
  | createVM record =>
    refine List.mem_filter.mpr ⟨before, decide_eq_true ?_⟩
    rintro rfl
    exact fresh record rfl before
  | deleteVM other vm =>
    show id ∈ (if confirms reply then _ else fleet).confirmed
    split
    · exact List.mem_cons_of_mem other before
    · exact before
  | _ => exact before

theorem confirmed_deleteVM {vm : String}
    {reply : Tenancy.Reply (.deleteVM id vm : Tenancy.Action T J F)}
    (gone : confirms reply = true) : id ∈ (fleet.noted (.deleteVM id vm) reply).confirmed := by
  show id ∈ (if confirms reply then _ else fleet).confirmed
  split
  · exact List.mem_cons_self
  · rename_i kept
    exact absurd gone kept

theorem discarded_noted (after : id ∈ (fleet.noted action reply).discarded) :
    id ∈ fleet.discarded ∨ action = .deleteInstance id := by
  cases action with
  | deleteVM other vm =>
    have after : id ∈ (if confirms reply then _ else fleet).discarded := after
    split at after <;> exact .inl after
  | deleteInstance other =>
    rcases List.mem_cons.mp after with rfl | old
    · exact .inr rfl
    · exact .inl old
  | _ => exact .inl after

variable [DecidableEq T] {D : Setting T} {outcome : Outcome T J F} {server : ServerID}

theorem Verified.manage (verified : fleet.Verified) (still : calm action = true)
    (needs : ∀ id, action = .deleteInstance id → id ∈ fleet.confirmed)
    (fresh : ∀ record, action = .createVM record → record.instanceID ∉ fleet.confirmed) :
    (fleet.perform D (server, .server action) outcome).1.Verified := by
  constructor
  · intro other id row there deleted
    have there : ((fleet.withServer server
        ((fleet.view server).perform D action outcome).1).tables other).get id = some row := by
      rw [← tables_noted action]
      exact there
    refine confirmed_noted _ ?_ ?_
    · exact fresh
    rw [tables_withServer] at there
    split at there
    · rcases deleted_of_perform still there deleted with is | ⟨old, was, dead⟩
      · exact needs id is
      · exact verified.rows server id old was dead
    · exact verified.rows other id row there deleted
  · intro id given
    refine confirmed_noted _ ?_ ?_
    · exact fresh
    rcases discarded_noted _ given with old | is
    · exact verified.discards id old
    · exact needs id is

omit [DecidableEq T] in
theorem Verified.statement (verified : fleet.Verified) {rows : Option (Rows T)} {fate : Fate}
    (same : ∀ t, rows = some t → ∀ id row, t.get id = some row →
      (fleet.tables server).get id = some row) : (fleet.statement server rows fate).1.Verified := by
  have written : ∀ t, rows = some t → (fleet.withRows server t).Verified := by
    intro t done
    refine ⟨fun other id row there deleted => ?_, verified.discards⟩
    rw [tables_withRows] at there
    split at there
    · exact verified.rows server id row (same t done id row there) deleted
    · exact verified.rows other id row there deleted
  unfold Fleet.statement
  split
  · exact written _ rfl
  · exact verified
  · exact verified
  · exact written _ rfl
  · exact verified

theorem Verified.perform (verified : fleet.Verified) {notes : Set InstanceID}
    (known : fleet.Knows notes) (needs : Needs request.2 notes)
    (ok : met fleet outcome request = true) : (fleet.perform D request outcome).1.Verified := by
  obtain ⟨server, action⟩ := request
  cases action with
  | server action =>
    refine verified.manage ?_ ?_ ?_
    · cases action with
      | deleteInstance id => rfl
      | _ => exact needs
    · rintro id rfl
      exact known id needs
    · rintro record rfl
      simpa [met] using ok
  | deleteRecord id key =>
    refine ⟨verified.rows, fun other given => ?_⟩
    rcases List.mem_cons.mp given with rfl | old
    · exact known other needs
    · exact verified.discards other old
  | purgeDeletedInstance id =>
    exact verified.statement fun t done other row there => Rows.get_of_purge done there
  | _ => exact verified

theorem confirmed_perform (ok : met fleet outcome request = true) (before : id ∈ fleet.confirmed) :
    id ∈ (fleet.perform D request outcome).1.confirmed := by
  obtain ⟨server, action⟩ := request
  cases action with
  | server action =>
    refine confirmed_noted _ ?_ ?_
    · rintro record rfl
      show record.instanceID ∉ fleet.confirmed
      simpa [met] using ok
    · exact before
  | purgeDeletedInstance other =>
    show id ∈ (fleet.statement _ _ _).1.confirmed
    unfold Fleet.statement
    split <;> exact before
  | _ => exact before

theorem teaches_perform (verified : fleet.Verified) (ok : met fleet outcome request = true) :
    Teaches request.2 (fleet.perform D request outcome).2
      {id | id ∈ (fleet.perform D request outcome).1.confirmed} := by
  obtain ⟨server, action⟩ := request
  cases action with
  | server action =>
    cases action with
    | deleteVM id vm =>
      exact fun gone => confirmed_deleteVM gone
    | _ => trivial
  | findUnhealthyProviderInstances =>
    show Teaches .findUnhealthyProviderInstances (outcome.read (.ok _)) _
    unfold Outcome.read
    split
    · exact List.all_eq_true.mp ok
    · trivial
  | findDanglingInstances maxAge =>
    show Teaches (.findDanglingInstances maxAge) (outcome.read (.ok _)) _
    unfold Outcome.read
    split
    · exact List.all_eq_true.mp ok
    · trivial
  | findStalePreInserts maxAge =>
    show Teaches (.findStalePreInserts maxAge) (outcome.read (.ok _)) _
    unfold Outcome.read
    split
    · exact List.all_eq_true.mp ok
    · trivial
  | findDeletedInstancesPastRetention cutoff =>
    show Teaches (.findDeletedInstancesPastRetention cutoff) (outcome.read (.ok _)) _
    unfold Outcome.read
    split
    · intro entry mem
      obtain ⟨there, past⟩ := List.mem_filter.mp mem
      rw [Option.any_eq_true] at past
      obtain ⟨time, deleted, -⟩ := past
      refine verified.rows server entry.1 entry.2 (Dict.get_eq_some_iff.mpr there) ?_
      rw [Row.live, deleted]
      rfl
    · trivial
  | deleteRecord | purgeDeletedInstance => trivial

theorem Verified.lead (verified : fleet.Verified) {surroundings : Surroundings T}
    (sounds : sound (surroundings.allInstances.getD []) = true) :
    (fleet.lead server surroundings).Verified := by
  have reported : ∀ id ∈ marked (fleet.tables server) (({ surroundings with
      objects := fleet.shared.records } : Surroundings T).rebuildCache (fleet.tables server)).2,
        id ∈ (fleet.lead server surroundings).confirmed := by
    intro id mark
    refine List.mem_append_left _ (List.mem_filter.mpr ⟨mark, ?_⟩)
    rw [unlisted_of_marked mark sounds]
    rfl
  constructor
  · intro other id row there deleted
    have there : ((fleet.withRows server _).tables other).get id = some row := there
    rw [tables_withRows] at there
    split at there
    · by_cases was : ((fleet.tables server).get id).any (fun row => !row.live) = true
      · rw [Option.any_eq_true] at was
        obtain ⟨old, before, dead⟩ := was
        rw [Bool.not_eq_true'] at dead
        exact List.mem_append_right _ (verified.rows server id old before dead)
      refine reported id (List.mem_map.mpr ⟨(id, row), List.mem_filter.mpr
        ⟨Dict.get_eq_some_iff.mp there, ?_⟩, rfl⟩)
      rw [deleted, Bool.eq_false_iff.mpr was]
      rfl
    · exact List.mem_append_right _ (verified.rows other id row there deleted)
  · intro id given
    rcases List.mem_append.mp given with mark | old
    · exact reported id mark
    · exact List.mem_append_right _ (verified.discards id old)

end Fleet

/-! ## Runs -/

section

variable [DecidableEq T] {D : Setting T} {start : Fleet T J F} {s s' : State T J F}

/-- In every state of a run, the fleet is verified and the programs meet their lore. -/
structure Kept (s : State T J F) : Prop where
  verified : s.store.Verified
  conforms : s.Conforms lore.contract fun notes fleet => fleet.Knows notes

omit [DecidableEq T] in
theorem Kept.launch {program : Code T J F Unit} (kept : Kept s)
    (safe : ∀ notes, lore.Safe program notes) : Kept (s.launch program) := by
  have known : s.store.Knows ∅ := fun _ none => none.elim
  refine ⟨kept.verified, kept.conforms.launch known ?_⟩
  exact Program.wp_mono (fun _ _ _ => trivial) _ _ (safe ∅)

omit [DecidableEq T] in
theorem Kept.store {fleet : Fleet T J F} (kept : Kept s) (verified : fleet.Verified)
    (grown : ∀ id ∈ s.store.confirmed, id ∈ fleet.confirmed) : Kept { s with store := fleet } where
  verified := verified
  conforms task mem := by
    obtain ⟨notes, known, spec⟩ := kept.conforms task mem
    exact ⟨notes, fun id note => grown id (known id note), spec⟩

theorem Kept.advance {j : Nat} {outcome : Outcome T J F} (kept : Kept s)
    (ok : careful s (.advance j outcome) = true)
    (advanced : s.advance (fun fleet => fleet.perform D) j outcome = some s') : Kept s' := by
  obtain ⟨request, next, mem, there, store, -⟩ := Team.advance_eq_some advanced
  have met : met s.store outcome request = true := by
    rw [careful, there] at ok
    exact ok
  obtain ⟨notes, known, needs, -⟩ := kept.conforms.next_demand mem
  constructor
  · rw [store]
    exact kept.verified.perform known needs met
  · refine kept.conforms.advance ?_ ?_ advanced
    · intro notes known id note
      rw [store]
      exact Fleet.confirmed_perform met (known id note)
    · rintro request' Q notes ⟨next', there'⟩ store' known demand
      cases Option.some.inj (there.symm.trans there')
      refine ⟨{id | id ∈ s'.store.confirmed}, fun _ here => here, demand.2 _ _ ?_ ?_⟩
      · intro id note
        show id ∈ s'.store.confirmed
        rw [store']
        exact Fleet.confirmed_perform met (known id note)
      · rw [store']
        exact Fleet.teaches_perform kept.verified met

omit [DecidableEq T] in
theorem calm_of_unrelated (apart : unrelated action = true) : calm action = true := by
  cases action with
  | createVM | deleteVM | deleteInstance => rfl
  | _ => exact apart

theorem Kept.step {label : Label T J F} (kept : Kept s) (ok : careful s label = true)
    (stepped : step D s label = some s') : Kept s' := by
  cases label with
  | create server record =>
    cases stepped
    exact kept.launch fun notes => (careful_onServer (safe_provision record)).seq
      fun _ _ _ => safe_pure
  | delete server tenant id =>
    cases stepped
    exact kept.launch fun notes =>
      (careful_onServer (careful_deleteInstance tenant id)).imp fun _ _ _ => trivial
  | collect server maxAge =>
    cases stepped
    exact kept.launch fun notes => safe_runGarbageCollection maxAge
  | cleanup server retentionPeriod =>
    cases stepped
    exact kept.launch fun notes => safe_cleanupDeletedInstanceRecords retentionPeriod
  | advance j outcome => exact kept.advance ok stepped
  | other server action outcome =>
    rw [GC.step] at stepped
    split at stepped <;> cases stepped
    rename_i apart
    have fresh : ∀ record, action = .createVM record → record.instanceID ∉ s.store.confirmed := by
      rintro record rfl
      cases apart
    refine kept.store (kept.verified.manage (calm_of_unrelated apart) ?_ fresh) fun id before => ?_
    · rintro id rfl
      cases apart
    · refine Fleet.confirmed_noted _ ?_ ?_
      · exact fresh
      · exact before
  | lead server surroundings =>
    cases stepped
    exact kept.store (kept.verified.lead ok) fun id before => List.mem_append_right _ before

/-- If the collector only meets rows that name a virtual machine, then whatever is given up was
confirmed by the provider before. -/
theorem discarded_confirmed (live : ∀ server id row, (start.tables server).get id = some row →
      row.live = true)
    (nothing : start.discarded = [])
    (reached : (collection D start).Reaches (fun s label => careful s label = true) s) :
    ∀ id ∈ s.store.discarded, id ∈ s.store.confirmed := by
  have kept : Kept s := by
    refine reached.invariant ?_ fun _ kept ok stepped => kept.step ok stepped
    refine ⟨⟨fun server id row there deleted => ?_, fun id given => ?_⟩, fun task mem => ?_⟩
    · rw [live server id row there] at deleted
      cases deleted
    · have given : id ∈ start.discarded := given
      rw [nothing] at given
      cases given
    · cases mem
  exact kept.verified.discards

end

/-! An instance is created, and the provider does not answer in time. -/

namespace Timeout

open Nstance.Instances (Claims recordKey)
open Nstance.Tenancy (Rotation.nonce Rotation.config)

/-- Tokens are not signed. -/
def setting : Setting Claims := Tenancy.unsigned some

/-- A record without a virtual machine yet. -/
def record : InstanceRecord Claims where
  instanceID := "web1"
  tenant := "a"
  group := "web"
  subnetID := "subnet-1"
  createdAt := 0
  lastUpdated := 0
  registrationJWT := Rotation.nonce "web1"
  infraConfigHash := ""

/-- Nothing has been created. -/
def start : Fleet Claims Unit Unit where
  shared := { config := Rotation.config }
  tables _ := .empty

/-- The provider launches and deletes. -/
def answer : (action : Tenancy.Action Claims Unit Unit) → Tenancy.Reply action
  | .createVM _ => .ok { providerInstanceID := "vm1" }
  | .deregisterInstanceFromLB _ => .ok ()
  | .deleteVM _ _ => .ok ()
  | action => Tenancy.unreachable Rotation.config action

/-- Steps of one call at a time of the clock. -/
def perform (j count : Nat) (now : Time) : List (Label Claims Unit Unit) :=
  List.replicate count (.advance j { now, answer })

/-- The row and the record are written, and the virtual machine is created; the reply of the
provider is lost. -/
def creating : List (Label Claims Unit Unit) :=
  .create "east" record :: perform 0 2 0 ++ [.advance 0 { fate := .lost, answer }]

/-- A cycle of the collector, and a rebuild on another server. -/
def collecting (count : Nat) : List (Label Claims Unit Unit) :=
  .collect "east" 600 :: perform 1 count 1000 ++
    [.lead "west"
      { shardID := some "west"
        objects := .empty
        pages := [some [{ instanceID := "web1", providerInstanceID := "vm1", status := "running" }]]
        syncTime := 1000
        now := 1000 }]

/-- The virtual machine runs, and neither the storage nor the servers know of it. -/
theorem running_unknown : ∃ s, (collection setting start).Reachable s ∧
    s.store.shared.vms.get ("web1", "vm1") = some "a" ∧
    s.store.shared.records.get (recordKey "a" "web1") = none ∧
    (s.store.tables "west").get "web1" = none ∧ "web1" ∈ s.store.discarded ∧
    "web1" ∉ s.store.confirmed := by
  have ran : ((collection setting start).run (collection setting start).start
      (creating ++ collecting 7)).any (fun s =>
        s.store.shared.vms.get ("web1", "vm1") = some "a" &&
        s.store.shared.records.get (recordKey "a" "web1") = none &&
        (s.store.tables "west").get "web1" = none &&
        s.store.discarded.contains "web1" && !s.store.confirmed.contains "web1") = true := by
    decide +kernel
  obtain ⟨s, reached, found⟩ := Machine.exists_reachable_of_run _ ran
  simp only [Bool.and_eq_true, decide_eq_true_eq, List.contains_iff_mem, Bool.not_eq_true',
    ← Bool.not_eq_true, and_assoc] at found
  exact ⟨s, reached, found⟩

/-- With the reply of the provider in the row, the instance is deleted before it is given up. -/
theorem given_up_confirmed : ∃ s, (collection setting start).Reaches
      (fun s label => careful s label = true) s ∧
    "web1" ∈ s.store.discarded ∧ "web1" ∈ s.store.confirmed := by
  have ran : ((collection setting start).runWithin careful (collection setting start).start
      (.create "east" record :: perform 0 7 0 ++ collecting 16)).any
        (fun s => s.store.discarded.contains "web1") = true := by
    decide +kernel
  obtain ⟨s, reached, found⟩ := Machine.exists_reaches_of_runWithin _ ran
  have given : "web1" ∈ s.store.discarded := List.contains_iff_mem.mp found
  refine ⟨s, reached, given, discarded_confirmed ?_ rfl reached "web1" given⟩
  intro server id row there
  cases there

end Timeout

end Nstance.GC
