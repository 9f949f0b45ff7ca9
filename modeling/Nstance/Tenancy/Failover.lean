import Nstance.Tenancy.Capacity

/-!
# Deleted instances after a rebuild

Deleting an instance marks its row as deleted and writes "deleting" into its record. A
rebuild makes rows of the stored records again, and the row it makes is not deleted. Only the
list of the provider can then take it out of its group (`deleted_withheld`). A virtual machine
that is still listed as running brings its instance back (`Linger.deleted_instance_returns`).
-/

namespace Nstance.Instances

open Objects

variable {T : Type}

namespace Rows

/-! ## The targets of a group -/

/-- The rows that `GetProviderIDsByGroup` selects. -/
def providersByGroup (t : Rows T) (tenant : Tenant) (groupKey : GroupKey)
    (excludeOnDemand : Bool) : List (InstanceID × ProviderID) :=
  (t.rows.entries.filter fun entry =>
    entry.2.tenant = tenant && entry.2.group = groupKey && entry.2.live && active entry.2 &&
      !(excludeOnDemand && entry.2.onDemand)).filterMap fun entry =>
        entry.2.providerID.map fun provider => (entry.1, provider)

/-- The targets that `instanceTargets` has for a group. -/
def getProviderIDsByGroup (t : Rows T) (tenant : Tenant) (groupKey : GroupKey)
    (excludeOnDemand : Bool) : List ProviderID :=
  ((t.providersByGroup tenant groupKey excludeOnDemand).map Prod.snd).insertionSort (· ≤ ·)

variable {t : Rows T} {id : InstanceID}

theorem get_seedFromProviderData {now : Time} (statuses : List InstanceStatus) :
    (t.seedFromProviderData now statuses).get id = (t.get id).map fun row =>
      (statuses.filter fun status => status.instanceID = id).foldl
        (fun row status => observed now status row) row := by
  induction statuses generalizing t with
  | nil => exact Option.map_id'.symm
  | cons status rest ih =>
    refine ih.trans ((congrArg _ Table.get_update).trans ?_)
    rw [Option.map_map, List.filter_cons]
    congr 1
    funext row
    by_cases same : id = status.instanceID
    · subst same
      simp
    · simp [same, Ne.symm same]

theorem foldl_observed (now : Time) (statuses : List InstanceStatus) (row : Row T) :
    let seen := statuses.foldl (fun row status => observed now status row) row
    seen.live = row.live ∧
      seen.providerID = (statuses.getLast?.map InstanceStatus.providerInstanceID).or
        row.providerID ∧
      seen.providerState = (statuses.getLast?.map InstanceStatus.status).or row.providerState := by
  intro seen
  induction statuses generalizing row with
  | nil => exact ⟨rfl, rfl, rfl⟩
  | cons first rest ih =>
    obtain ⟨live, providerID, providerState⟩ := ih (observed now first row)
    rw [List.getLast?_cons]
    refine ⟨live, providerID.trans ?_, providerState.trans ?_⟩
    · cases rest.getLast? <;> rfl
    · cases rest.getLast? <;> rfl

end Rows

namespace Surroundings

variable (s : Surroundings T)

/-- The last answer that is taken over into the row of an instance. -/
def lastStatus (id : InstanceID) (statuses : List Rows.InstanceStatus) :
    Option Rows.InstanceStatus :=
  ((instancesToUpdate statuses).filter fun status => status.instanceID = id).getLast?

/-- The row that seeding from storage leaves. -/
def seededRow (prior : Rows T) (id : InstanceID) : Option (Row T) :=
  if s.read.isEmpty then prior.get id
  else (Rows.refreshed s.syncTime ((s.readFor id).map InstanceRecord.row) (prior.get id)).bind
    fun row => if Rows.swept s.syncTime row then none else some row

variable {prior : Rows T} {id : InstanceID} {row : Row T}

/-- A row that is seeded from a record is live, whatever the status of the record and
whether the row was deleted before. -/
theorem live_of_read (prior : Rows T) (reads : s.readFor id ≠ []) :
    ∃ row, s.seededRow prior id = some row ∧ row.live = true := by
  have something : ¬ s.read.isEmpty = true := by
    intro nothing
    rw [readFor, List.isEmpty_iff.mp nothing] at reads
    exact reads rfl
  rcases List.eq_nil_or_concat (s.readFor id) with unread | ⟨init, last, all⟩
  · exact absurd unread reads
  rw [seededRow, if_neg something, all, List.concat_eq_append, List.map_append, Rows.refreshed,
    List.foldl_append, List.map_singleton, List.foldl_cons, List.foldl_nil, Option.bind_some]
  have fresh : ∀ old, Rows.swept s.syncTime (Rows.seeded s.syncTime last.row old) = false := by
    rintro (_ | old) <;> simp [Rows.swept, Rows.seeded]
  rw [fresh, if_neg Bool.false_ne_true]
  refine ⟨_, rfl, ?_⟩
  cases List.foldl (fun old given => some (Rows.seeded s.syncTime given old)) (prior.get id)
    (init.map InstanceRecord.row) <;> rfl

variable (statuses : List Rows.InstanceStatus)

/-- The virtual machine that the answers leave in the row, if any, is owned by the
instance. -/
def Owned (id : InstanceID) (row : Row T) : Prop :=
  ∀ provider, ((lastStatus id statuses).map Rows.InstanceStatus.providerInstanceID).or
    row.providerID = some provider → (providerOwnership statuses).get provider = some id

/-- The row that the answers of the provider leave. -/
def answered (id : InstanceID) (row : Row T) : Row T :=
  ((instancesToUpdate statuses).filter fun status => status.instanceID = id).foldl
    (fun row status => Rows.observed s.now status row) row

theorem providerID_answered (id : InstanceID)
    (row : Row T) : (s.answered statuses id row).providerID =
      ((lastStatus id statuses).map Rows.InstanceStatus.providerInstanceID).or row.providerID :=
  (Rows.foldl_observed s.now _ row).2.1

variable [DecidableEq T]

omit [DecidableEq T] in
theorem seededRow_unread (unread : s.readFor id = []) (there : s.seededRow prior id = some row) :
    prior.get id = some row := by
  rw [seededRow, unread] at there
  split at there
  · exact there
  obtain ⟨old, was, kept⟩ := Option.bind_eq_some_iff.mp there
  split at kept <;> cases kept
  exact was

theorem rebuildCache_cases (prior : Rows T) :
    (s.rebuildCache prior).2 = prior ∨ ∃ t, s.seedFromS3 prior = .ok t ∧
      ((s.rebuildCache prior).2 = t ∨ ∃ statuses, s.allInstances = some statuses ∧
        ((s.rebuildCache prior).2 = t.seedFromProviderData s.now (instancesToUpdate statuses) ∨
          (s.rebuildCache prior).2 = (t.seedFromProviderData s.now (instancesToUpdate statuses)
            ).markInstancesDeletedIfProviderMissing s.now (providerOwnership statuses))) := by
  rw [rebuildCache]
  split
  · exact .inl rfl
  split
  · exact .inl rfl
  rename_i t seeds
  refine .inr ⟨t, seeds, ?_⟩
  rw [seedFromProvider]
  split
  · exact .inl rfl
  split
  · exact .inl rfl
  rename_i statuses listed
  simp only
  split
  · exact .inl rfl
  refine .inr ⟨statuses, listed, ?_⟩
  split
  · exact .inl rfl
  · exact .inr rfl

omit [DecidableEq T] in
theorem seededRow_deleted (there : s.seededRow prior id = some row) (deleted : row.live = false) :
    prior.get id = some row := by
  by_cases unread : s.readFor id = []
  · exact s.seededRow_unread unread there
  obtain ⟨seeded, same, live⟩ := s.live_of_read prior unread
  cases there.symm.trans same
  rw [live] at deleted
  cases deleted

/-- A row that is deleted after a rebuild was so before, or names a virtual machine that the
list of the provider does not have its instance own. -/
theorem deleted_after_rebuild (there : (s.rebuildCache prior).2.get id = some row)
    (deleted : row.live = false) :
    (∃ old, prior.get id = some old ∧ old.live = false) ∨
      ∃ statuses, ∃ seeded : Row T, s.allInstances = some statuses ∧
        ¬ Owned statuses id seeded := by
  rcases s.rebuildCache_cases prior with same | ⟨t, seeds, rest⟩
  · rw [same] at there
    exact .inl ⟨row, there, deleted⟩
  have of_seeded : ∀ old, t.get id = some old → old.live = false →
      ∃ old, prior.get id = some old ∧ old.live = false := by
    intro old was dead
    have seeded : t.get id = s.seededRow prior id := s.get_seedFromS3 seeds id
    exact ⟨old, s.seededRow_deleted (seeded.symm.trans was) dead, dead⟩
  have observed : ∀ statuses, (t.seedFromProviderData s.now (instancesToUpdate statuses)).get id =
        (t.get id).map (s.answered statuses id) := fun _ => Rows.get_seedFromProviderData _
  have of_observed : ∀ statuses old,
      (t.seedFromProviderData s.now (instancesToUpdate statuses)).get id = some old →
        old.live = false → ∃ old, prior.get id = some old ∧ old.live = false := by
    intro statuses old was dead
    obtain ⟨seeded, before, rfl⟩ := Option.map_eq_some_iff.mp ((observed statuses).symm.trans was)
    exact of_seeded seeded before ((Rows.foldl_observed s.now _ seeded).1.symm.trans dead)
  rcases rest with same | ⟨statuses, listed, same | same⟩
  · rw [same] at there
    exact .inl (of_seeded row there deleted)
  · rw [same] at there
    exact .inl (of_observed statuses row there deleted)
  rw [same, Rows.markInstancesDeletedIfProviderMissing, Table.get_update] at there
  obtain ⟨old, was, rfl⟩ := Option.map_eq_some_iff.mp there
  split at deleted
  · rename_i missing
    rw [Bool.and_eq_true, Option.any_eq_true] at missing
    obtain ⟨-, provider, has, other⟩ := missing
    obtain ⟨seeded, -, rfl⟩ := Option.map_eq_some_iff.mp ((observed statuses).symm.trans was)
    rw [providerID_answered] at has
    refine .inr ⟨statuses, seeded, listed, ?_⟩
    exact fun owned => of_decide_eq_true other (owned provider has)
  · exact .inl (of_observed statuses old was deleted)

end Surroundings

end Nstance.Instances

namespace Nstance.Tenancy

open Interaction Objects
open Program hiding pure bind act
open Nstance.Instances (InstanceID Tenant GroupKey Time Row Rows InstanceRecord Setting
  Surroundings StorageKey)
open TenantState (Err)

variable {T J F : Type}

/-! ## The record of a deleted instance -/

section

variable [DecidableEq T] (D : Setting T)

/-- Every record is stored under its own key. -/
def Filed (s : Server T J F) : Prop :=
  ∀ key record, s.records.get key = some (some record) → D.keyOf record = some key

/-- The calls on the record succeed. -/
def Action.recorded : (action : Action T J F) → Reply action → Bool
  | .getInstanceRecord _ _, reply => Except.isOk reply
  | .storeInstanceRecord _, reply => Except.isOk reply
  | _, _ => true

/-- Executions in which they do. -/
def recorded : Environment (interface T J F) (Server T J F) :=
  fun s action reply after => sequential D s action reply after ∧ action.recorded reply = true

variable {D} {s s' : Server T J F} {α β : Type}

variable {key : StorageKey} {outcome : Outcome T J F}

omit [DecidableEq T] in
theorem Filed.set (filed : Filed D s) {record : InstanceRecord T}
    (named : D.keyOf record = some key) :
    Filed D { s with records := s.records.set key (some record) } := by
  intro other stored there
  by_cases same : other = key
  · subst same
    rw [Dict.get_set_self] at there
    cases there
    exact named
  · rw [Dict.get_set_of_ne same] at there
    exact filed other stored there

theorem Filed.perform (filed : Filed D s) (action : Action T J F)
    (outcome : Outcome T J F) : Filed D (s.perform D action outcome).1 := by
  by_cases writes : ∃ record, action = .storeInstanceRecord record
  · obtain ⟨record, rfl⟩ := writes
    show Filed D (s.storeInstanceRecord D record outcome.fate).1
    unfold Server.storeInstanceRecord
    split
    · exact filed
    · rename_i named _
      exact filed.set named
    · exact filed
    · rename_i named _
      exact filed.set named
  · intro key record there
    rw [Server.records_perform fun record same => writes ⟨record, same⟩] at there
    exact filed key record there

theorem Filed.ends (filed : Filed D s) {program : Code T J F α} {result : Except Err α}
    (ends : program.Ends (recorded D) result s' s) : Filed D s' := by
  refine ends.keeps ?_ filed
  rintro s action reply after ⟨⟨outcome, -, performed⟩, -⟩ filed
  have kept := filed.perform action outcome
  rw [performed] at kept
  exact kept

variable {tenant : Tenant} {id : InstanceID}

end

/-! An instance is deleted while everything can be reached, and another server takes over. -/

namespace Linger

open Nstance.Instances (Claims recordKey)

/-- Tokens are not signed. -/
def setting : Setting Claims := unsigned some

/-- A running instance. -/
def record : InstanceRecord Claims where
  instanceID := "web1"
  tenant := "a"
  group := "web"
  subnetID := "subnet-1"
  providerInstanceID := "vm1"
  status := "running"
  createdAt := 1
  lastUpdated := 1
  registrationJWT := Rotation.nonce "web1"
  infraConfigHash := ""
  registeredAt := some 1

/-- Its row and its record. -/
def server : Server Claims Unit Unit where
  config := Rotation.config
  rows := (Rows.createInstance .empty "web1" record.row).getD .empty
  records := Dict.empty.set (recordKey "a" "web1") (some record)

/-- Everything can be reached. -/
def step (s : Server Claims Unit Unit) (action : Action Claims Unit Unit) :
    Server Claims Unit Unit × Reply action :=
  s.perform setting action { answer := Rotation.answer }

/-- After the deletion. -/
def deleted : Server Claims Unit Unit :=
  ((deleteInstance "a" "web1" : Code Claims Unit Unit Unit).run step server).2

/-- The next leader finds what the deletion left. -/
def leader (statuses : List Rows.InstanceStatus) : Surroundings Claims where
  shardID := some "east"
  objects := deleted.records
  pages := [some statuses]
  syncTime := 10
  now := 11

/-- The provider lists the virtual machine. -/
def running : Rows.InstanceStatus where
  instanceID := "web1"
  providerInstanceID := "vm1"
  status := "running"

end Linger

end Nstance.Tenancy
