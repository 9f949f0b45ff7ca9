import Mathlib.Data.List.Sort
import Nstance.Objects.Table

/-!
# The cached instance rows

The leader of a shard keeps a row for every instance in a local database. The functions are
the statements of the cache, with the columns each writes and the condition under which it
selects a row; one that reports `ErrNoRows` gives no table. Deletion is soft: a deleted row
keeps its identifier and its token taken.
-/

namespace Nstance.Instances

open Objects

abbrev InstanceID := String
abbrev Tenant := String
abbrev GroupKey := String
abbrev ProviderID := String

/-- An instant on the wall clock. -/
abbrev Time := Int

abbrev Duration := Int

/-- The columns of a row apart from its identifier. The registration token is a text, of
which the statements only ask whether two are equal. The provider's state is kept as JSON,
of which they only read the status. -/
structure Row (T : Type) where
  tenant : Tenant
  group : GroupKey
  onDemand : Bool := false
  subnetID : String
  providerID : Option ProviderID := none
  providerAt : Option Time := none
  hostname : Option String := none
  fqdn : Option String := none
  ip4 : Option String := none
  ip6 : Option String := none
  providerState : Option String := none
  nonce : T
  issuedAt : Option Time := none
  instancePub : Option String := none
  registeredAt : Option Time := none
  certificatesAt : Option Time := none
  healthAt : Option Time := none
  health : Option String := none
  infraConfigHash : Option String := none
  drainStartedAt : Option Time := none
  drainAckedAt : Option Time := none
  createdAt : Time
  updatedAt : Option Time := none
  deletedAt : Option Time := none
deriving DecidableEq

/-- The table `instances`; nonces are unique in it. -/
abbrev Rows (T : Type) := Table InstanceID (@Row.nonce T)

variable {T : Type}

/-- `deleted_at IS NULL`. -/
def Row.live (row : Row T) : Bool := row.deletedAt.isNone

namespace Rows

/-- `WHERE id = ? AND deleted_at IS NULL`. -/
def liveAt (id other : InstanceID) (row : Row T) : Bool := other = id && row.live

variable (t : Rows T)

/-- A row that is not deleted. -/
def getInstance (id : InstanceID) : Option (Row T) :=
  (t.get id).filter Row.live

/-- A statement on the live row of an identifier, refused when there is none. -/
def updateLive (id : InstanceID) (change : Row T → Row T)
    (keeps : ∀ row, (change row).nonce = row.nonce := by intro row; rfl) : Option (Rows T) :=
  if (t.getInstance id).isSome then some (t.update (liveAt id) change keeps) else none

variable (now : Time)

/-- The columns that `UpdateInstance` writes. -/
def replaced (given row : Row T) : Row T :=
  { row with
    group := given.group, onDemand := given.onDemand, subnetID := given.subnetID
    providerID := given.providerID, providerAt := given.providerAt, hostname := given.hostname
    fqdn := given.fqdn, ip4 := given.ip4, ip6 := given.ip6, providerState := given.providerState
    instancePub := given.instancePub, registeredAt := given.registeredAt
    certificatesAt := given.certificatesAt, healthAt := given.healthAt, health := given.health
    updatedAt := some now, deletedAt := given.deletedAt }

theorem nonce_replaced (given row : Row T) : (replaced now given row).nonce = row.nonce := rfl

/-- Unlike the others, this statement also selects a deleted row. -/
def updateInstance (id : InstanceID) (given : Row T) : Option (Rows T) :=
  if (t.get id).isSome then
    some (t.update (fun other _ => other = id) (replaced now given) (nonce_replaced now given))
  else none

/-- Mark as deleted; the row stays. -/
def deleteInstance (id : InstanceID) : Option (Rows T) :=
  t.updateLive id fun row => { row with deletedAt := some now, updatedAt := some now }

/-- Only a row that is marked is removed. -/
def purgeDeletedInstance (id : InstanceID) : Option (Rows T) :=
  if (t.get id).any fun row => !row.live then
    some (t.delete fun other row => other = id && !row.live)
  else none

/-- What an agent reports about itself when it registers. -/
structure Report where
  privateIPv4 : String := ""
  privateIPv6 : String := ""
  hostname : String := ""

/-- A nil pointer for the empty text. -/
def optional (text : String) : Option String := if text = "" then none else some text

/-- Not told apart from success when there is no live row. -/
def markInstanceRegistered (id : InstanceID) (publicKeyPEM : String) (report : Report) : Rows T :=
  t.update (liveAt id) fun row =>
    { row with
      instancePub := some publicKeyPEM, registeredAt := some now
      ip4 := some report.privateIPv4, ip6 := some report.privateIPv6
      hostname := optional report.hostname, updatedAt := some now }

/-- Store a health report. -/
def updateInstanceHealth (id : InstanceID) (health : String) : Option (Rows T) :=
  t.updateLive id fun row =>
    { row with health := some health, healthAt := some now, updatedAt := some now }

/-- Store that the drain has started. -/
def markDrainStarted (id : InstanceID) : Option (Rows T) :=
  t.updateLive id fun row => { row with drainStartedAt := some now, updatedAt := some now }

/-- Store that the drain was acknowledged. -/
def markDrainAcked (id : InstanceID) : Option (Rows T) :=
  t.updateLive id fun row => { row with drainAckedAt := some now, updatedAt := some now }

/-! ## What the statements do to a row -/

variable {row : Row T} {t t' : Rows T} {id : InstanceID}

theorem get_updateLive {change : Row T → Row T}
    {keeps : ∀ row, (change row).nonce = row.nonce} (done : t.updateLive id change keeps = some t')
    (other : InstanceID) :
    t'.get other = (t.get other).map fun row =>
      if liveAt id other row then change row else row := by
  rw [updateLive] at done
  split at done <;> cases done
  exact Table.get_update

variable {now : Time} {other : InstanceID} {tenant : Tenant} {groupKey : GroupKey}
  {excludeOnDemand : Bool}

theorem get_updateInstance {given : Row T} (done : t.updateInstance now id given = some t')
    (other : InstanceID) :
    t'.get other = (t.get other).map fun row =>
      if other = id then replaced now given row else row := by
  rw [updateInstance] at done
  split at done <;> cases done
  rw [Table.get_update]
  simp only [decide_eq_true_eq]

theorem get_of_purge (done : t.purgeDeletedInstance id = some t') (there : t'.get other = some row)
    : t.get other = some row := by
  rw [purgeDeletedInstance] at done
  split at done <;> cases done
  rw [Table.get_delete, Option.bind_eq_some_iff] at there
  obtain ⟨old, was, same⟩ := there
  split at same <;> cases same
  exact was

theorem marked_row {publicKeyPEM : String} {report : Report} (there : t.get id = some row)
    (live : row.live) :
    ∃ marked, (t.markInstanceRegistered now id publicKeyPEM report).get id = some marked ∧
      marked.nonce = row.nonce ∧ marked.registeredAt.isSome ∧ marked.instancePub.isSome := by
  have selected : liveAt id id row = true := by simp [liveAt, live]
  rw [markInstanceRegistered, Table.get_update, there, Option.map_some, if_pos selected]
  exact ⟨_, rfl, rfl, rfl, rfl⟩

/-! ## Queries over all rows -/

/-- `provider_state IS NULL OR status NOT IN ('deleting', 'deleted')`. -/
def active (row : Row T) : Bool :=
  row.providerState.all fun status => status ≠ "deleting" && status ≠ "deleted"

/-- `ORDER BY created_at ASC`. -/
def Older (entry other : InstanceID × Row T) : Prop := entry.2.createdAt ≤ other.2.createdAt

instance : DecidableRel (@Older T) := fun entry other =>
  inferInstanceAs (Decidable (entry.2.createdAt ≤ other.2.createdAt))

/-- The active instances of a group. -/
def getInstancesByGroup (t : Rows T) (tenant : Tenant) (groupKey : GroupKey)
    (excludeOnDemand : Bool) : List InstanceID :=
  ((t.rows.entries.filter fun entry =>
    entry.2.tenant = tenant && entry.2.group = groupKey && entry.2.live && active entry.2 &&
      !(excludeOnDemand && entry.2.onDemand)).insertionSort Older).map Prod.fst

theorem mem_getInstancesByGroup_iff : id ∈ t.getInstancesByGroup tenant groupKey excludeOnDemand ↔
      ∃ row, t.get id = some row ∧ row.tenant = tenant ∧ row.group = groupKey ∧
        row.live = true ∧ active row = true ∧ (excludeOnDemand = false ∨ row.onDemand = false) := by
  constructor
  · intro mem
    obtain ⟨entry, sorted, rfl⟩ := List.mem_map.mp mem
    obtain ⟨there, selected⟩ := List.mem_filter.mp ((List.mem_insertionSort Older).mp sorted)
    refine ⟨entry.2, Dict.get_eq_some_iff.mpr there, ?_⟩
    simpa [and_assoc] using selected
  · rintro ⟨row, there, selected⟩
    refine List.mem_map.mpr ⟨(id, row), (List.mem_insertionSort Older).mpr ?_, rfl⟩
    refine List.mem_filter.mpr ⟨Dict.get_eq_some_iff.mp there, ?_⟩
    simpa [and_assoc] using selected

theorem mem_getInstancesByGroup (mem : id ∈ t.getInstancesByGroup tenant groupKey excludeOnDemand) :
    ∃ row, t.get id = some row ∧ row.tenant = tenant := by
  obtain ⟨row, there, own, _⟩ := mem_getInstancesByGroup_iff.mp mem
  exact ⟨row, there, own⟩

theorem nodup_getInstancesByGroup (t : Rows T) (tenant : Tenant) (groupKey : GroupKey)
    (excludeOnDemand : Bool) : (t.getInstancesByGroup tenant groupKey excludeOnDemand).Nodup := by
  refine (List.Perm.nodup_iff ((List.perm_insertionSort Older _).map Prod.fst)).mpr ?_
  exact t.rows.nodup.sublist (List.filter_sublist.map Prod.fst)

/-- `registered_at IS NULL AND deleted_at IS NULL AND issued_at < ?`, the last of which
is not true of a row without an issue time. -/
def dangling (cutoff : Time) (row : Row T) : Bool :=
  row.registeredAt.isNone && row.live && row.issuedAt.any (· < cutoff)

/-- Instances that have not registered in time. -/
def findDanglingInstances (t : Rows T) (now : Time) (maxAge : Duration) :
    List (InstanceID × Row T) :=
  t.rows.entries.filter fun entry => dangling (now - maxAge) entry.2

/-! ## Seeding the cache -/

/-- The row that the upsert of `SeedFromS3Data` leaves, given the one that is there. The
hash of the infrastructure configuration, the provider's state and the drain times are in
neither of its column lists; the creation time is only in that of the insert. -/
def seeded (syncTime : Time) (given : Row T) : Option (Row T) → Row T
  | none =>
    { given with
      providerState := none, infraConfigHash := none, drainStartedAt := none
      drainAckedAt := none, updatedAt := some syncTime }
  | some row =>
    { row with
      tenant := given.tenant, group := given.group, onDemand := given.onDemand
      subnetID := given.subnetID
      providerID := given.providerID.or row.providerID
      providerAt := given.providerAt.or row.providerAt
      hostname := given.hostname, fqdn := given.fqdn, ip4 := given.ip4, ip6 := given.ip6
      nonce := given.nonce, issuedAt := given.issuedAt, instancePub := given.instancePub
      registeredAt := given.registeredAt, certificatesAt := given.certificatesAt
      healthAt := given.healthAt, health := given.health
      updatedAt := some syncTime, deletedAt := given.deletedAt }

/-- Registered rows that the sync has not refreshed are taken to have left the storage. -/
def swept (syncTime : Time) (row : Row T) : Bool :=
  row.registeredAt.isSome && row.updatedAt.any (· < syncTime)

/-- What the provider reports about a virtual machine. -/
structure InstanceStatus where
  instanceID : InstanceID
  providerInstanceID : ProviderID
  status : String
  privateIPv4 : String := ""
  privateIPv6 : String := ""
  hostname : String := ""

/-- The columns that `SeedFromProviderData` writes. -/
def observed (now : Time) (status : InstanceStatus) (row : Row T) : Row T :=
  { row with
    providerID := some status.providerInstanceID
    hostname := (optional status.hostname).or row.hostname
    ip4 := (optional status.privateIPv4).or row.ip4
    ip6 := (optional status.privateIPv6).or row.ip6
    providerState := some status.status, providerAt := some now, updatedAt := some now }

/-- Take over the answers of the provider, in order. -/
def seedFromProviderData (t : Rows T) (now : Time) (statuses : List InstanceStatus) : Rows T :=
  statuses.foldl (fun t status =>
    t.update (fun id _ => id = status.instanceID) (observed now status)) t

/-- Mark the rows whose virtual machine is not listed as theirs. -/
def markInstancesDeletedIfProviderMissing (t : Rows T) (now : Time)
    (providerOwnership : Dict ProviderID InstanceID) : Rows T :=
  t.update
    (fun id row => row.live &&
      row.providerID.any fun provider => providerOwnership.get provider ≠ some id)
    fun row => { row with deletedAt := some now, updatedAt := some now }

variable [DecidableEq T]

/-- Insert; an ID or a nonce that is there is an error. -/
def createInstance (t : Rows T) (id : InstanceID) (row : Row T) : Option (Rows T) :=
  t.insert id row

/-- The live row of a nonce. -/
def getInstanceByNonce (t : Rows T) (nonce : T) : Option (InstanceID × Row T) :=
  (t.find nonce).filter fun entry => entry.2.live

theorem get_createInstance_of_ne (done : t.createInstance id row = some t') (different : other ≠ id)
    : t'.get other = t.get other :=
  Table.get_put_of_ne (Table.insert_eq_some done).2 different

theorem get_createInstance_self (done : t.createInstance id row = some t') :
    t.get id = none ∧ t'.get id = some row :=
  ⟨(Table.insert_eq_some done).1, Table.get_put_self (Table.insert_eq_some done).2⟩

theorem getInstanceByNonce_eq_some {nonce : T} : t.getInstanceByNonce nonce = some (id, row) ↔
      t.get id = some row ∧ row.nonce = nonce ∧ row.live := by
  rw [getInstanceByNonce, Option.filter_eq_some_iff, Table.find_eq_some, and_assoc]

/-- Insert or refresh, row by row. -/
def upsertAll (syncTime : Time) : List (InstanceID × Row T) → Rows T → Option (Rows T)
  | [], t => some t
  | (id, given) :: rest, t =>
    (t.put id (seeded syncTime given (t.get id))).bind (upsertAll syncTime rest)

/-- Refresh, then remove the rows that were not refreshed. -/
def seedFromS3Data (t : Rows T) (syncTime : Time) (instances : List (InstanceID × Row T)) :
    Option (Rows T) :=
  (upsertAll syncTime instances t).map fun t => t.delete fun _ row => swept syncTime row

end Rows

end Nstance.Instances
