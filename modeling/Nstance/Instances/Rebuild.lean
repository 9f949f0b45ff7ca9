import Nstance.Instances.Rows

/-!
# Rebuilding the cache

A server that becomes leader rebuilds its rows from the records in storage that can be
read, sweeps away registered rows that these did not refresh, and then applies the
provider's list of machines, which changes addresses and states and marks rows as deleted.

The facts an instance was provisioned with are left alone by the provider pass
(`facts_seedFromProvider`). The seeding takes most of them from the record
(`facts_read`, `facts_unread`), but not the hash of the infrastructure configuration, and
the creation time only for a new row.
-/

namespace Nstance.Instances

open Objects

variable {T : Type}

/-! ## Records -/

/-- The stored record of an instance. Its merged configuration and its tags are not read
by what follows. -/
structure InstanceRecord (T : Type) where
  instanceID : InstanceID
  tenant : Tenant
  group : GroupKey
  onDemand : Bool := false
  subnetID : String
  providerInstanceID : ProviderID := ""
  instanceType : String := ""
  status : String := "pending"
  privateIPv4 : String := ""
  privateIPv6 : String := ""
  hostname : String := ""
  createdAt : Time
  lastUpdated : Time
  registrationJWT : T
  infraConfigHash : String
  registeredAt : Option Time := none
  publicKeyPEM : String := ""
  certSerial : String := ""
  certExpiresAt : Option Time := none
deriving DecidableEq

/-- The row that `seedFromS3` makes of a record. -/
def InstanceRecord.row (record : InstanceRecord T) : Row T where
  tenant := record.tenant
  group := record.group
  onDemand := record.onDemand
  subnetID := record.subnetID
  providerID := Rows.optional record.providerInstanceID
  nonce := record.registrationJWT
  issuedAt := some record.createdAt
  registeredAt := record.registeredAt
  infraConfigHash := some record.infraConfigHash
  createdAt := record.createdAt
  updatedAt := some record.lastUpdated

/-- The key of an object. -/
abbrev StorageKey := String

/-- Where the record of an instance is stored. -/
def recordKey (tenant : Tenant) (storageKey : StorageKey) : StorageKey :=
  "instance/" ++ tenant ++ "." ++ storageKey ++ ".json"

/-- The objects below `instance/`. An object that `json.Unmarshal` rejects has no record. -/
abbrev Records (T : Type) := Dict StorageKey (Option (InstanceRecord T))

/-! ## The rebuild -/

/-- What the calls of one rebuild meet. The provider's list comes in pages, the last of
which carries no token for a next one. -/
structure Surroundings (T : Type) where
  shardID : Option String
  objects : Records T
  listed : Bool := true
  unreadable : StorageKey → Bool := fun _ => false
  seeds : Bool := true
  pages : List (Option (List Rows.InstanceStatus)) := []
  seedsProvider : Bool := true
  marks : Bool := true
  syncTime : Time
  now : Time

/-- Why a rebuild fails. -/
inductive RebuildError where
  /-- "cannot rebuild cache: shard ID unknown" -/
  | shardUnknown
  /-- "failed to seed from S3: failed to list S3 instance files" -/
  | listRecords
  /-- "failed to seed from S3: failed to seed database from S3" -/
  | seedRecords
  /-- "failed to seed from provider: no configuration available" -/
  | configMissing
  /-- "failed to seed from provider: failed to list provider instances" -/
  | listProvider
  | seedProvider
  /-- "failed to seed from provider: failed to mark deleted instances" -/
  | markDeleted
deriving DecidableEq

namespace Surroundings

variable (s : Surroundings T)

/-- The shard, or a word that says there is none. -/
def getShardID : String := s.shardID.getD "unknown"

/-- The record behind a listed key, if it can be read and parsed. -/
def record (entry : StorageKey × Option (InstanceRecord T)) : Option (InstanceRecord T) :=
  if s.unreadable entry.1 then none else entry.2

/-- The records that can be read. -/
def read : List (InstanceRecord T) :=
  s.objects.entries.filterMap s.record

/-- The entry of `SeedFromS3Data` for a record. -/
def entry (record : InstanceRecord T) : InstanceID × Row T :=
  (record.instanceID, record.row)

/-- Make rows of the records; no record leaves the rows alone. -/
def seedFromS3 [DecidableEq T] (s : Surroundings T) (t : Rows T) : Except RebuildError (Rows T) :=
  if !s.listed then .error .listRecords
  else if s.read.isEmpty then .ok t
  else if !s.seeds then .error .seedRecords
  else
    match t.seedFromS3Data s.syncTime (s.read.map entry) with
    | none => .error .seedRecords
    | some t => .ok t

/-- The instances of all pages, unless one of them cannot be had. -/
def allInstances : Option (List Rows.InstanceStatus) :=
  (s.pages.mapM id).map List.flatten

variable (statuses : List Rows.InstanceStatus)

/-- The instance that owns each provider identifier, by the last answer. -/
def providerOwnership : Dict ProviderID InstanceID :=
  (statuses.filter fun status => status.providerInstanceID ≠ "").foldl
    (fun owners status => owners.set status.providerInstanceID status.instanceID) .empty

/-- The answers that name both an instance and a virtual machine. -/
def instancesToUpdate : List Rows.InstanceStatus :=
  statuses.filter fun status => status.providerInstanceID ≠ "" && status.instanceID ≠ ""

/-- A failed call leaves the rows as the calls before it made them. -/
def seedFromProvider (t : Rows T) : Except RebuildError Unit × Rows T :=
  if s.shardID.isNone then (.error .configMissing, t)
  else
    match s.allInstances with
    | none => (.error .listProvider, t)
    | some statuses =>
      let updates := instancesToUpdate statuses
      if !updates.isEmpty && !s.seedsProvider then (.error .seedProvider, t)
      else
        let t := t.seedFromProviderData s.now updates
        if !s.marks then (.error .markDeleted, t)
        else (.ok (), Rows.markInstancesDeletedIfProviderMissing t s.now
          (providerOwnership statuses))

/-- From storage first, then from the provider. -/
def rebuildCache [DecidableEq T] (s : Surroundings T) (prior : Rows T) :
    Except RebuildError Unit × Rows T :=
  if s.getShardID = "unknown" then (.error .shardUnknown, prior)
  else
    match s.seedFromS3 prior with
    | .error failure => (.error failure, prior)
    | .ok t => s.seedFromProvider t

end Surroundings

/-! ## Drift -/

/-- The first instance of a group whose hash is not that of the group, unless one of its
instances is draining already. It is the one that is rotated. -/
def checkGroupConfigDrift (t : Rows T) (tenant : Tenant) (groupKey : GroupKey)
    (infraConfigHash : Option String) : Option InstanceID :=
  infraConfigHash.bind fun hash =>
    let rows := (t.getInstancesByGroup tenant groupKey true).filterMap fun id =>
      (t.getInstance id).map fun row => (id, row)
    if rows.any fun entry => entry.2.drainStartedAt.isSome then none
    else (rows.find? fun entry => entry.2.infraConfigHash.getD "" ≠ hash).map Prod.fst

variable {t : Rows T}

theorem drifted_of_check {tenant : Tenant} {groupKey : GroupKey}
    {infraConfigHash : Option String} {id : InstanceID}
    (rotated : checkGroupConfigDrift t tenant groupKey infraConfigHash = some id) :
    ∃ row, t.get id = some row ∧ infraConfigHash ≠ some (row.infraConfigHash.getD "") := by
  rw [checkGroupConfigDrift, Option.bind_eq_some_iff] at rotated
  obtain ⟨hash, rfl, chosen⟩ := rotated
  simp only at chosen
  split at chosen
  · cases chosen
  rw [Option.map_eq_some_iff] at chosen
  obtain ⟨entry, found, rfl⟩ := chosen
  have differs := List.find?_some found
  have listed := List.mem_of_find?_eq_some found
  rw [List.mem_filterMap] at listed
  obtain ⟨id, -, row_of⟩ := listed
  rw [Option.map_eq_some_iff] at row_of
  obtain ⟨row, there, rfl⟩ := row_of
  refine ⟨row, (Option.filter_eq_some_iff.mp there).1, ?_⟩
  intro same
  simp [Option.some.inj same] at differs

/-! ## Provisioning facts -/

/-- What an instance was provisioned with. A row without a hash counts as one with the
empty hash, as it does for drift. -/
@[ext] structure Facts (T : Type) where
  tenant : Tenant
  group : GroupKey
  onDemand : Bool
  subnetID : String
  nonce : T
  registeredAt : Option Time
  createdAt : Time
  infraConfigHash : String
deriving DecidableEq

/-- The facts of a row. -/
def Row.facts (row : Row T) : Facts T where
  tenant := row.tenant
  group := row.group
  onDemand := row.onDemand
  subnetID := row.subnetID
  nonce := row.nonce
  registeredAt := row.registeredAt
  createdAt := row.createdAt
  infraConfigHash := row.infraConfigHash.getD ""

/-- The facts of a record. -/
def InstanceRecord.facts (record : InstanceRecord T) : Facts T := record.row.facts

namespace Rows

theorem facts_update {selected : InstanceID → Row T → Bool}
    {change : Row T → Row T} {keeps : ∀ row, (change row).nonce = row.nonce}
    (same : ∀ row, (change row).facts = row.facts) (id : InstanceID) :
    ((t.update selected change keeps).get id).map Row.facts = (t.get id).map Row.facts := by
  rw [Table.get_update, Option.map_map]
  congr 1
  funext row
  rw [Function.comp_apply]
  split
  · exact same row
  · rfl

theorem facts_seedFromProviderData (now : Time) (statuses : List InstanceStatus)
    (t : Rows T) (id : InstanceID) :
    ((t.seedFromProviderData now statuses).get id).map Row.facts = (t.get id).map Row.facts := by
  induction statuses generalizing t with
  | nil => rfl
  | cons status rest ih =>
    refine (ih _).trans (facts_update ?_ id)
    intro row
    rfl

variable (syncTime : Time)

/-- The facts that the upsert leaves: those given, but with the creation time of the row
that was there, and with its hash in any case. -/
theorem facts_seeded (given : Row T) (old : Option (Row T)) : (seeded syncTime given old).facts =
      { given.facts with
        createdAt := (old.map Row.createdAt).getD given.createdAt
        infraConfigHash := (old.bind Row.infraConfigHash).getD "" } := by
  cases old <;> rfl

/-- What the upserts of several rows with one identifier make of the row there. -/
def refreshed (givens : List (Row T)) (old : Option (Row T)) : Option (Row T) :=
  givens.foldl (fun old given => some (seeded syncTime given old)) old

theorem refreshed_cons (first : Row T) (rest : List (Row T)) (old : Option (Row T)) :
    ∃ row, refreshed syncTime (first :: rest) old = some row ∧ row.updatedAt = some syncTime ∧
      row.facts = { ((first :: rest).getLast (List.cons_ne_nil first rest)).facts with
        createdAt := (old.map Row.createdAt).getD first.createdAt
        infraConfigHash := (old.bind Row.infraConfigHash).getD "" } := by
  induction rest generalizing first old with
  | nil =>
    refine ⟨seeded syncTime first old, rfl, ?_, facts_seeded syncTime first old⟩
    cases old <;> rfl
  | cons second rest ih =>
    obtain ⟨row, done, at_, facts⟩ := ih second (some (seeded syncTime first old))
    refine ⟨row, done, at_, ?_⟩
    rw [facts, List.getLast_cons (List.cons_ne_nil second rest)]
    cases old <;> rfl

variable [DecidableEq T]

/-- The rows given for one identifier. -/
def givenFor (id : InstanceID) (instances : List (InstanceID × Row T)) : List (Row T) :=
  (instances.filter fun entry => entry.1 = id).map Prod.snd

variable {syncTime : Time} {instances : List (InstanceID × Row T)} {t' : Rows T}

theorem get_upsertAll (done : upsertAll syncTime instances t = some t')
    (id : InstanceID) : t'.get id = refreshed syncTime (givenFor id instances) (t.get id) := by
  induction instances generalizing t with
  | nil =>
    cases done
    rfl
  | cons entry rest ih =>
    rw [upsertAll, Option.bind_eq_some_iff] at done
    obtain ⟨next, written, done⟩ := done
    rw [ih done, givenFor, givenFor, List.filter_cons]
    by_cases same : entry.1 = id
    · subst same
      rw [if_pos (decide_eq_true rfl), Table.get_put_self written]
      rfl
    · rw [if_neg (by simpa using same), Table.get_put_of_ne written (Ne.symm same)]

theorem get_seedFromS3Data (done : t.seedFromS3Data syncTime instances = some t')
    (id : InstanceID) :
    t'.get id = (refreshed syncTime (givenFor id instances) (t.get id)).bind
      fun row => if swept syncTime row then none else some row := by
  rw [seedFromS3Data, Option.map_eq_some_iff] at done
  obtain ⟨seeds, upserted, rfl⟩ := done
  rw [Table.get_delete, get_upsertAll upserted id]

end Rows

namespace Surroundings

variable (s : Surroundings T) (id : InstanceID)

theorem facts_seedFromProvider {t t' : Rows T} (done : s.seedFromProvider t = (.ok (), t')) :
    (t'.get id).map Row.facts = (t.get id).map Row.facts := by
  rw [seedFromProvider] at done
  split at done
  · cases done
  split at done
  · cases done
  simp only at done
  split at done
  · cases done
  split at done <;> cases done
  refine (Rows.facts_update ?_ id).trans (Rows.facts_seedFromProviderData _ _ _ id)
  intro row
  rfl

variable [DecidableEq T]

theorem rebuildCache_ok {prior after : Rows T} (done : s.rebuildCache prior = (.ok (), after)) :
    ∃ t, s.seedFromS3 prior = .ok t ∧ s.seedFromProvider t = (.ok (), after) := by
  rw [rebuildCache] at done
  split at done
  · cases done
  split at done
  · cases done
  · rename_i t seeded
    exact ⟨t, seeded, done⟩

/-- The records read for an instance. -/
def readFor : List (InstanceRecord T) :=
  s.read.filter fun record => record.instanceID = id

omit [DecidableEq T] in
theorem givenFor_read :
    Rows.givenFor id (s.read.map entry) = (s.readFor id).map InstanceRecord.row := by
  rw [Rows.givenFor, readFor, List.filter_map, List.map_map]
  rfl

theorem get_seedFromS3 {prior t : Rows T} (done : s.seedFromS3 prior = .ok t) (id : InstanceID) :
    t.get id = if s.read.isEmpty then prior.get id else
      (Rows.refreshed s.syncTime ((s.readFor id).map InstanceRecord.row) (prior.get id)).bind
        fun row => if Rows.swept s.syncTime row then none else some row := by
  rw [seedFromS3] at done
  split at done
  · cases done
  split at done
  · rename_i nothing
    cases done
    rw [if_pos nothing]
  rename_i something
  rw [if_neg something]
  split at done
  · cases done
  split at done <;> cases done
  rename_i seeded
  rw [Rows.get_seedFromS3Data seeded, givenFor_read]

/-- Whether a row that no record was read for is still there after the seeding. -/
def keeps (row : Row T) : Bool := s.read.isEmpty || !Rows.swept s.syncTime row

section

variable {s} {prior after : Rows T} {id : InstanceID}

theorem facts_unread (done : s.rebuildCache prior = (.ok (), after)) (unread : s.readFor id = []) :
    (after.get id).map Row.facts = ((prior.get id).filter s.keeps).map Row.facts := by
  obtain ⟨t, seeded, rest⟩ := s.rebuildCache_ok done
  rw [s.facts_seedFromProvider id rest, s.get_seedFromS3 seeded, unread]
  cases prior.get id with
  | none => simp [Rows.refreshed]
  | some row =>
    cases nothing : s.read.isEmpty
    · cases gone : Rows.swept s.syncTime row <;>
        simp [Rows.refreshed, Option.filter, keeps, nothing, gone]
    · simp [Option.filter, keeps, nothing]

theorem facts_read {first : InstanceRecord T} {rest : List (InstanceRecord T)}
    (done : s.rebuildCache prior = (.ok (), after)) (reads : s.readFor id = first :: rest) :
    (after.get id).map Row.facts =
      some { ((first :: rest).getLast (List.cons_ne_nil first rest)).facts with
        createdAt := ((prior.get id).map Row.createdAt).getD first.createdAt
        infraConfigHash := ((prior.get id).bind Row.infraConfigHash).getD "" } := by
  obtain ⟨t, seeded, provided⟩ := s.rebuildCache_ok done
  have something : ¬ s.read.isEmpty := by
    intro nothing
    rw [readFor, List.isEmpty_iff.mp nothing] at reads
    cases reads
  obtain ⟨row, refreshed, updated, facts⟩ :=
    Rows.refreshed_cons s.syncTime first.row (rest.map InstanceRecord.row) (prior.get id)
  have fresh : Rows.swept s.syncTime row = false := by simp [Rows.swept, updated]
  rw [s.facts_seedFromProvider id provided, s.get_seedFromS3 seeded, if_neg something, reads,
    List.map_cons, refreshed, Option.bind_some, fresh, if_neg Bool.false_ne_true,
    Option.map_some, facts]
  simp only [← List.map_cons, List.getLast_map]
  rfl

end

/-! ## The facts of every stored record -/

/-- The upsert writes the same columns for two records, those apart that it does not
take from the record of a row that is there. -/
def SameColumns (record other : InstanceRecord T) : Prop :=
  record.tenant = other.tenant ∧ record.group = other.group ∧
    record.onDemand = other.onDemand ∧ record.subnetID = other.subnetID ∧
    record.registrationJWT = other.registrationJWT ∧ record.registeredAt = other.registeredAt

/-- What the rebuild needs so that the row of a stored record ends with its facts. If a
record was read for the identifier, the last such one has to agree with it, and the row
that was there has to have its hash and its creation time already. If none was read, the
row that was there has to have all of its facts, and to be kept. -/
def Survives (prior : Rows T) (record : InstanceRecord T) : Prop :=
  match s.readFor record.instanceID with
  | [] => ∃ row, prior.get record.instanceID = some row ∧ s.keeps row ∧ row.facts = record.facts
  | first :: rest =>
    SameColumns ((first :: rest).getLast (List.cons_ne_nil first rest)) record ∧
      ((prior.get record.instanceID).map Row.createdAt).getD first.createdAt =
        record.createdAt ∧
      ((prior.get record.instanceID).bind Row.infraConfigHash).getD "" = record.infraConfigHash

theorem facts_eq_iff_survives {prior after : Rows T}
    (done : s.rebuildCache prior = (.ok (), after)) (record : InstanceRecord T) :
    (after.get record.instanceID).map Row.facts = some record.facts ↔ s.Survives prior record := by
  rw [Survives]
  split
  · rename_i unread
    rw [facts_unread done unread, Option.map_eq_some_iff]
    simp only [Option.filter_eq_some_iff, and_assoc]
  rename_i first rest reads
  rw [facts_read done reads, Option.some.injEq, Facts.ext_iff, SameColumns]
  simp only [InstanceRecord.facts, InstanceRecord.row, Row.facts, Option.getD_some, and_assoc]

/-- A rebuild keeps the facts of all stored records exactly if each of them survives it. -/
theorem rebuildCache_preserves_facts_iff {prior after : Rows T}
    (done : s.rebuildCache prior = (.ok (), after)) :
    (∀ key record, s.objects.get key = some (some record) →
      (after.get record.instanceID).map Row.facts = some record.facts ∧
        ∀ tenant groupKey, checkGroupConfigDrift after tenant groupKey
          (some record.infraConfigHash) ≠ some record.instanceID) ↔
      ∀ key record, s.objects.get key = some (some record) → s.Survives prior record := by
  constructor
  · intro preserved key record stored
    exact (s.facts_eq_iff_survives done record).mp (preserved key record stored).1
  · intro survive key record stored
    have facts := (s.facts_eq_iff_survives done record).mpr (survive key record stored)
    refine ⟨facts, ?_⟩
    intro tenant groupKey rotated
    obtain ⟨row, there, drifted⟩ := drifted_of_check rotated
    rw [there, Option.map_some, Option.some.injEq] at facts
    exact drifted (congrArg (fun facts => some facts.infraConfigHash) facts.symm)

end Surroundings

/-! A registered instance, its record, and what the provider says of it. -/

namespace Handover

/-- A registered instance. -/
def web : InstanceRecord String where
  instanceID := "web1"
  tenant := "acme"
  group := "web"
  subnetID := "subnet"
  providerInstanceID := "vm1"
  createdAt := 1
  lastUpdated := 3
  registrationJWT := "token"
  infraConfigHash := "current"
  registeredAt := some 3

/-- Storage and provider know it. -/
def surroundings : Surroundings String where
  shardID := some "east"
  objects := Dict.empty.set (recordKey "acme" "web1") (some web)
  pages := [some [{ instanceID := "web1", providerInstanceID := "vm1", status := "running" }]]
  syncTime := 10
  now := 11

/-- The rows of a server that has led before and has the row of the instance. -/
def held : Rows String := (Rows.createInstance .empty "web1" web.row).getD .empty

/-- On a new leader the row of the instance has no hash, and the instance is rotated. -/
theorem new_leader_loses_hash :
    (surroundings.rebuildCache .empty).1 = .ok () ∧
      surroundings.objects.get (recordKey "acme" "web1") = some (some web) ∧
      ((surroundings.rebuildCache .empty).2.get "web1").map Row.facts =
        some { web.facts with infraConfigHash := "" } ∧
      web.facts.infraConfigHash = "current" ∧
      checkGroupConfigDrift (surroundings.rebuildCache .empty).2 "acme" "web"
        (some web.infraConfigHash) = some "web1" :=
  ⟨rfl, rfl, rfl, rfl, rfl⟩

theorem held_rebuild : surroundings.rebuildCache held =
    (.ok (), (surroundings.rebuildCache held).2) := rfl

theorem stored_eq {key : StorageKey} {record : InstanceRecord String}
    (stored : surroundings.objects.get key = some (some record)) : record = web := by
  have entry := Dict.get_eq_some_iff.mp stored
  cases List.mem_singleton.mp entry
  rfl

theorem rebuildCache_preserves_held :
    (surroundings.rebuildCache held).1 = .ok () ∧
      ∀ key record, surroundings.objects.get key = some (some record) →
        ((surroundings.rebuildCache held).2.get record.instanceID).map Row.facts =
            some record.facts ∧
          ∀ tenant groupKey, checkGroupConfigDrift (surroundings.rebuildCache held).2 tenant
            groupKey (some record.infraConfigHash) ≠ some record.instanceID := by
  refine ⟨rfl, (surroundings.rebuildCache_preserves_facts_iff held_rebuild).mpr ?_⟩
  intro key record stored
  rw [stored_eq stored]
  exact ⟨⟨rfl, rfl, rfl, rfl, rfl, rfl⟩, rfl, rfl⟩

end Handover

namespace Surroundings

variable (s : Surroundings T) [DecidableEq T]

/-! ## The rows of unread records -/

theorem isSome_get_iff {prior after : Rows T} {id : InstanceID} {row : Row T}
    (done : s.rebuildCache prior = (.ok (), after)) (there : prior.get id = some row) :
    (after.get id).isSome ↔ s.readFor id ≠ [] ∨ s.keeps row := by
  have same : ((after.get id).map Row.facts).isSome = (after.get id).isSome := Option.isSome_map
  rw [← same]
  cases reads : s.readFor id with
  | nil =>
    rw [facts_unread done reads, there]
    cases kept : s.keeps row <;> simp [Option.filter, kept]
  | cons first rest =>
    rw [facts_read done reads]
    simp

/-- When a rebuild keeps every registered row whose record is stored. -/
theorem rebuildCache_keeps_registered_iff (storageKey : InstanceID → Option StorageKey)
    {prior after : Rows T} (done : s.rebuildCache prior = (.ok (), after)) :
    (∀ id row key, prior.get id = some row → row.registeredAt.isSome → storageKey id = some key →
      (s.objects.get (recordKey row.tenant key)).isSome → (after.get id).isSome) ↔
      ∀ id row key, prior.get id = some row → row.registeredAt.isSome →
        storageKey id = some key → (s.objects.get (recordKey row.tenant key)).isSome →
          s.read = [] ∨ s.readFor id ≠ [] ∨ ¬ row.updatedAt.any (· < s.syncTime) := by
  refine forall₃_congr fun id row key => forall_congr' fun there => forall_congr' fun registered =>
    forall₂_congr fun _ _ => ?_
  rw [s.isSome_get_iff done there, keeps, Rows.swept, registered]
  simp only [Bool.true_and, Bool.or_eq_true, List.isEmpty_iff, Bool.not_eq_true',
    Bool.not_eq_true]
  exact or_left_comm

end Surroundings

namespace Handover

/-- Another instance of the group. -/
def other : InstanceRecord String :=
  { web with instanceID := "web2", providerInstanceID := "vm2", registrationJWT := "token2" }

/-- The records of both instances are listed, and the first cannot be read. -/
def partly : Surroundings String :=
  { surroundings with
    objects := surroundings.objects.set (recordKey "acme" "web2") (some other)
    unreadable := fun key => key = recordKey "acme" "web1" }

/-- The row of the instance is swept away because the other record was read. -/
theorem unread_record_forgotten :
    (partly.rebuildCache held).1 = .ok () ∧
      held.get "web1" = some web.row ∧ web.row.registeredAt.isSome ∧
      (partly.objects.get (recordKey web.row.tenant "web1")).isSome ∧
      (partly.rebuildCache held).2.get "web1" = none :=
  ⟨rfl, rfl, rfl, rfl, rfl⟩

/-- The row was written when the rebuild began. -/
def touched : Rows String :=
  (Rows.createInstance .empty "web1" { web.row with updatedAt := some 10 }).getD .empty

/-- It stays, although its record cannot be read and the other one is. -/
theorem rebuildCache_keeps_held :
    (partly.rebuildCache touched).1 = .ok () ∧ partly.readFor "web1" = [] ∧ partly.read ≠ [] ∧
      ∀ id row key, touched.get id = some row → row.registeredAt.isSome → some id = some key →
        (partly.objects.get (recordKey row.tenant key)).isSome →
          ((partly.rebuildCache touched).2.get id).isSome := by
  have done : partly.rebuildCache touched = (.ok (), (partly.rebuildCache touched).2) := rfl
  refine ⟨rfl, rfl, List.cons_ne_nil other [],
    (partly.rebuildCache_keeps_registered_iff some done).mpr ?_⟩
  intro id row key there _ _ _
  have entry := Dict.get_eq_some_iff.mp there
  cases List.mem_singleton.mp entry
  exact .inr (.inr (by decide))

end Handover

/-! ## Where a row comes from -/

/-- A row with the token, the registration and the issue of an earlier one, and deleted if
that was. -/
structure Row.Follows (row old : Row T) : Prop where
  nonce : row.nonce = old.nonce
  registeredAt : row.registeredAt = old.registeredAt
  issuedAt : row.issuedAt = old.issuedAt
  live : row.live → old.live

theorem Row.Follows.refl (row : Row T) : row.Follows row := ⟨rfl, rfl, rfl, id⟩

theorem Row.Follows.trans {row middle old : Row T} (later : row.Follows middle)
    (earlier : middle.Follows old) : row.Follows old where
  nonce := later.nonce.trans earlier.nonce
  registeredAt := later.registeredAt.trans earlier.registeredAt
  issuedAt := later.issuedAt.trans earlier.issuedAt
  live := earlier.live ∘ later.live

namespace Rows

variable {t : Rows T} {id : InstanceID} {change : Row T → Row T} {now : Time} {row : Row T}
  {keeps : ∀ row, (change row).nonce = row.nonce}

theorem follows_update {selected : InstanceID → Row T → Bool}
    (follows : ∀ row, (change row).Follows row)
    (there : (t.update selected change keeps).get id = some row) :
    ∃ old, t.get id = some old ∧ row.Follows old := by
  rw [Table.get_update, Option.map_eq_some_iff] at there
  obtain ⟨old, was, rfl⟩ := there
  refine ⟨old, was, ?_⟩
  split
  · exact follows old
  · exact .refl old

theorem follows_observed (now : Time) (status : InstanceStatus) (row : Row T) :
    (observed now status row).Follows row := ⟨rfl, rfl, rfl, id⟩

theorem follows_deleted (now : Time) (row : Row T) :
    ({ row with deletedAt := some now, updatedAt := some now } : Row T).Follows row :=
  ⟨rfl, rfl, rfl, fun live => absurd live Bool.false_ne_true⟩

theorem follows_reported (now : Time) (health : String) (row : Row T) :
    ({ row with health := some health, healthAt := some now, updatedAt := some now } :
      Row T).Follows row := ⟨rfl, rfl, rfl, id⟩

theorem follows_updateLive {t' : Rows T} {other : InstanceID}
    (follows : ∀ row, (change row).Follows row) (done : t.updateLive id change keeps = some t')
    (there : t'.get other = some row) : ∃ old, t.get other = some old ∧ row.Follows old := by
  rw [updateLive] at done
  split at done <;> cases done
  exact follows_update follows there

theorem follows_seedFromProviderData (statuses : List InstanceStatus)
    (there : (t.seedFromProviderData now statuses).get id = some row) :
    ∃ old, t.get id = some old ∧ row.Follows old := by
  induction statuses generalizing t with
  | nil => exact ⟨row, there, .refl row⟩
  | cons status rest ih =>
    obtain ⟨middle, was, later⟩ := ih there
    obtain ⟨old, was, earlier⟩ := follows_update (follows_observed now status) was
    exact ⟨old, was, later.trans earlier⟩

theorem follows_markInstancesDeletedIfProviderMissing {owners : Dict ProviderID InstanceID}
    (there : (t.markInstancesDeletedIfProviderMissing now owners).get id = some row) :
    ∃ old, t.get id = some old ∧ row.Follows old :=
  follows_update (follows_deleted now) there

theorem follows_refreshed {syncTime : Time} {givens : List (Row T)} {old : Option (Row T)}
    (there : refreshed syncTime givens old = some row) :
    givens = [] ∧ old = some row ∨ ∃ given ∈ givens, row.nonce = given.nonce ∧
      row.registeredAt = given.registeredAt ∧ row.issuedAt = given.issuedAt := by
  rcases List.eq_nil_or_concat givens with rfl | ⟨init, last, rfl⟩
  · exact .inl ⟨rfl, there⟩
  rw [refreshed, List.concat_eq_append, List.foldl_append, List.foldl_cons, List.foldl_nil,
    Option.some.injEq] at there
  subst there
  refine .inr ⟨last, by simp, ?_⟩
  cases init.foldl (fun old given => some (seeded syncTime given old)) old <;> exact ⟨rfl, rfl, rfl⟩

end Rows

namespace Surroundings

variable (s : Surroundings T) {id : InstanceID} {prior : Rows T} {row : Row T}

theorem follows_seedFromProvider (there : (s.seedFromProvider t).2.get id = some row) :
    ∃ old, t.get id = some old ∧ row.Follows old := by
  rw [seedFromProvider] at there
  split at there
  · exact ⟨row, there, .refl row⟩
  split at there
  · exact ⟨row, there, .refl row⟩
  simp only at there
  split at there
  · exact ⟨row, there, .refl row⟩
  split at there
  · exact Rows.follows_seedFromProviderData _ there
  obtain ⟨middle, was, later⟩ :=
    Rows.follows_markInstancesDeletedIfProviderMissing there
  obtain ⟨old, was, earlier⟩ := Rows.follows_seedFromProviderData _ was
  exact ⟨old, was, later.trans earlier⟩

variable [DecidableEq T]

theorem follows_seedFromS3 (done : s.seedFromS3 prior = .ok t) (there : t.get id = some row) :
    (∃ record ∈ s.read, row.Follows record.row) ∨ s.readFor id = [] ∧ prior.get id = some row := by
  rw [s.get_seedFromS3 done] at there
  split at there
  · rename_i nothing
    refine .inr ⟨?_, there⟩
    rw [readFor, List.isEmpty_iff.mp nothing]
    rfl
  rw [Option.bind_eq_some_iff] at there
  obtain ⟨kept, refreshed, same⟩ := there
  split at same <;> cases same
  rcases Rows.follows_refreshed refreshed with ⟨unread, was⟩ | ⟨given, mem, nonce, at_, issued⟩
  · exact .inr ⟨List.map_eq_nil_iff.mp unread, was⟩
  · obtain ⟨record, read, rfl⟩ := List.mem_map.mp mem
    exact .inl ⟨record, (List.mem_filter.mp read).1, nonce, at_, issued, fun _ => rfl⟩

/-- After a rebuild that succeeds, a row comes from a record that was read, or no record
was read for its identifier and it comes from the row before. -/
theorem follows_rebuildCache {after : Rows T}
    (done : s.rebuildCache prior = (.ok (), after)) (there : after.get id = some row) :
    (∃ record ∈ s.read, row.Follows record.row) ∨
      s.readFor id = [] ∧ ∃ old, prior.get id = some old ∧ row.Follows old := by
  obtain ⟨t, seeded, provided⟩ := s.rebuildCache_ok done
  have there' : (s.seedFromProvider t).2.get id = some row := by
    rw [provided]
    exact there
  obtain ⟨middle, was, later⟩ := s.follows_seedFromProvider there'
  rcases s.follows_seedFromS3 seeded was with ⟨record, read, earlier⟩ | ⟨unread, was⟩
  · exact .inl ⟨record, read, later.trans earlier⟩
  · exact .inr ⟨unread, middle, was, later⟩

theorem follows_rebuild (there : (s.rebuildCache prior).2.get id = some row) :
    (∃ record ∈ s.read, row.Follows record.row) ∨
      ∃ old, prior.get id = some old ∧ row.Follows old := by
  rw [rebuildCache] at there
  split at there
  · exact .inr ⟨row, there, .refl row⟩
  split at there
  · exact .inr ⟨row, there, .refl row⟩
  rename_i t seeded
  obtain ⟨middle, was, later⟩ := s.follows_seedFromProvider there
  rcases s.follows_seedFromS3 seeded was with ⟨record, read, earlier⟩ | ⟨-, was⟩
  · exact .inl ⟨record, read, later.trans earlier⟩
  · exact .inr ⟨middle, was, later⟩

omit [DecidableEq T] in
theorem stored_of_read {record : InstanceRecord T} (read : record ∈ s.read) :
    ∃ key, s.objects.get key = some (some record) := by
  obtain ⟨entry, listed, found⟩ := List.mem_filterMap.mp read
  refine ⟨entry.1, Dict.get_eq_some_iff.mpr ?_⟩
  rw [Surroundings.record] at found
  split at found
  · cases found
  · rw [← found]
    exact listed

end Surroundings

end Nstance.Instances
