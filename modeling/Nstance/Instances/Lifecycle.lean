import Nstance.Instances.Rebuild
import Nstance.Interaction.Trace

/-!
# Creation, registration and collection of instances

The leader signs a registration token, inserts a row, stores a record, has the provider
create the machine, stores the record again and writes the answer into the row. The
machine's agent may register meanwhile: the leader validates the token, looks up its row,
reads the record, stores it again with the agent's key, marks the row, and returns a
certificate. The collector terminates machines that have not registered for too long.

These are the labels of one machine (`lifecycle`), in any order. Every server has rows of
its own, which it rebuilds when it becomes the leader; the storage is shared, and what was
begun under one leader goes on under another. What was registered, certified and collected
is written down; no step reads it.
-/

namespace Nstance.Instances

open Objects Interaction

variable {T : Type}

/-! ## Tokens -/

/-- What a nonce says. -/
structure Claims where
  subject : InstanceID
  kind : String
  configHash : String := ""
  clusterID : String
  shard : String
  group : GroupKey
  onDemand : Bool := false
  tenant : Tenant
  notBefore : Time
  issuedAt : Time
  expiresAt : Time
deriving DecidableEq

/-- What is fixed for a shard. Signing is deterministic, so that a token is a function of
its claims, and the signature of a signed token verifies. The storage key of an instance
is the text of its identifier's UUID, if it has one. -/
structure Setting (T : Type) where
  clusterID : String
  shard : String
  sign : Claims → T
  verify : T → Option Claims
  verify_sign : ∀ claims, verify (sign claims) = some claims
  storageKey : InstanceID → Option StorageKey

/-- `jwt.NewNumericDate`: whole seconds. -/
def numericDate (t : Time) : Time := t - t % 1000000000

theorem numericDate_le (t : Time) : numericDate t ≤ t :=
  Int.sub_le_self t (Int.emod_nonneg t (by decide))

namespace Setting

variable (D : Setting T)

/-- `nonce.Validate` for an agent. -/
def validate (now : Time) (token : T) : Option Claims :=
  (D.verify token).filter fun claims =>
    claims.notBefore ≤ now && now < claims.expiresAt && claims.kind = "agent" &&
      claims.subject ≠ "" && claims.clusterID ≠ "" && claims.tenant ≠ ""

/-- The key of an instance's record, which needs a tenant and an identifier with a
storage key. -/
def keyFor (tenant : Tenant) (id : InstanceID) : Option StorageKey :=
  if tenant = "" then none else (D.storageKey id).map (recordKey tenant)

/-- The key that `storeInstanceRecord` stores a record under. -/
def keyOf (record : InstanceRecord T) : Option StorageKey :=
  D.keyFor record.tenant record.instanceID

end Setting

/-! ## What is under way -/

/-- A server of the shard. -/
abbrev ServerID := String

/-- How a write to the object storage turns out. A failed write may have been applied. -/
inductive Put where
  | stored
  | lost
  | unsure
deriving DecidableEq

/-- The write has taken effect. -/
def Put.applied (put : Put) : Bool := put ≠ .lost

/-- The writer learns that it has. -/
def Put.reported (put : Put) : Bool := put = .stored

/-- A creation, when its group, template and subnet have been chosen. -/
structure CreateInstanceRequest where
  instanceID : InstanceID
  tenant : Tenant
  group : GroupKey
  onDemand : Bool := false
  subnetID : String
  instanceType : String := ""
  infraConfigHash : String
  configHash : String := ""

/-- What the provider says of a new virtual machine. -/
structure ProviderResponse where
  providerInstanceID : ProviderID
  privateIPv4 : String := ""
  privateIPv6 : String := ""
  hostname : String := ""

/-- What `createInstance` has done last. -/
inductive CreationStage where
  | signed
  | inserted
  | pending
  | launched
  | rewritten
  | returned
deriving DecidableEq

/-- A run of `createInstance` with the record it holds in memory. -/
structure Creation (T : Type) where
  server : ServerID
  record : InstanceRecord T
  stage : CreationStage

/-- What `RegisterAgent` has done last. The record that `UpdateRegistration` is about to
store is held from its read on. -/
inductive CallStage (T : Type) where
  | validated
  | found (providerID : Option ProviderID)
  | read (record : InstanceRecord T)
  | stored
  | returned
deriving DecidableEq

/-- A call of `RegisterAgent`. -/
structure Call (T : Type) where
  server : ServerID
  nonce : T
  claims : Claims
  publicKeyPEM : String
  report : Rows.Report
  stage : CallStage T

/-- Whether the call has passed the test that its nonce is unused. -/
def Call.accepted (call : Call T) : Prop :=
  call.stage ≠ .validated ∧ call.stage ≠ .returned

instance [DecidableEq T] (call : Call T) : Decidable call.accepted :=
  inferInstanceAs (Decidable (call.stage ≠ .validated ∧ call.stage ≠ .returned))

/-- Servers with a table each, the storage, and the calls under way. -/
structure State (T : Type) where
  now : Time
  /-- The registration timeout of the current configuration. -/
  timeout : Duration
  /-- The age that the collector of each server was started with. -/
  ages : ServerID → Duration
  leader : Option ServerID
  tables : ServerID → Rows T
  objects : Records T
  creations : List (Creation T) := []
  calls : List (Call T) := []
  /-- The records that deletions are about to store with their new status. -/
  deletions : List (Option (InstanceRecord T)) := []
  /-- The dangling rows that each collection has still to go through. -/
  collections : List (List (InstanceID × Row T)) := []
  registered : List T := []
  /-- The nonces and keys that a certificate was returned for. -/
  certificates : List (T × String) := []
  /-- The nonces whose instance was terminated as dangling, and when. -/
  collected : List (T × Time) := []

/-- The steps of calls, of the collector and of the surroundings. -/
inductive Label (T : Type) where
  | tick (elapsed : Nat)
  | refresh (timeout : Duration)
  /-- A new process, whose collector takes its age from the configuration. -/
  | restart (server : ServerID)
  /-- A server acquires the leadership, with what its rebuild meets besides the objects. -/
  | lead (server : ServerID) (surroundings : Surroundings T)
  | create (server : ServerID) (request : CreateInstanceRequest)
  | preInsert (k : Nat) (ok : Bool)
  | storeRecord (k : Nat) (put : Put)
  | launch (k : Nat) (response : Option ProviderResponse)
  | updateRow (k : Nat) (ok : Bool)
  | receive (server : ServerID) (nonce : T) (publicKeyPEM : String) (report : Rows.Report)
  | lookup (j : Nat) (ok : Bool)
  | readRecord (j : Nat) (ok : Bool) (certSerial : String) (certExpiresAt : Time)
  | writeRecord (j : Nat) (put : Put)
  | mark (j : Nat) (ok : Bool)
  | abandon (j : Nat)
  | health (server : ServerID) (id : InstanceID) (health : String)
  | readDeleting (tenant : Tenant) (id : InstanceID)
  | writeDeleting (k : Nat) (put : Put)
  | softDelete (server : ServerID) (id : InstanceID)
  | purge (server : ServerID) (id : InstanceID)
  | erase (key : StorageKey)
  | find (server : ServerID)
  | terminate (k : Nat) (ok : Bool)

namespace State

variable (s : State T)

/-- Replace the table of a server. -/
def withTable (server : ServerID) (t : Rows T) : State T :=
  { s with tables := fun other => if other = server then t else s.tables other }

theorem tables_withTable (changed server : ServerID) (t : Rows T) :
    (s.withTable changed t).tables server = if server = changed then t else s.tables server := rfl

/-- A creation has moved on. -/
def withCreation (k : Nat) (creation : Creation T) : State T :=
  { s with creations := s.creations.set k creation }

/-- A call has moved on. -/
def withCall (j : Nat) (call : Call T) (stage : CallStage T) : State T :=
  { s with calls := s.calls.set j { call with stage := stage } }

variable (D : Setting T)

/-- `storeInstanceRecord`, which stores nothing without a key. -/
def withRecord (put : Put) (record : InstanceRecord T) : State T :=
  match D.keyOf record with
  | some key =>
    if put.applied then { s with objects := s.objects.set key (some record) } else s
  | none => s

/-- Whether `storeInstanceRecord` reports success. -/
def reports (put : Put) (record : InstanceRecord T) : Bool :=
  put.reported && (D.keyOf record).isSome

/-- The record that `getInstanceRecord` reads. -/
def recordFor (tenant : Tenant) (id : InstanceID) : Option (InstanceRecord T) :=
  (D.keyFor tenant id).bind fun key => (s.objects.get key).join

end State

/-! ## Creation -/

section

variable (D : Setting T) (s : State T)

/-- The claims that `generateRegistrationNonce` signs. -/
def claimsFor (request : CreateInstanceRequest) : Claims where
  subject := request.instanceID
  kind := "agent"
  configHash := request.configHash
  clusterID := D.clusterID
  shard := D.shard
  group := request.group
  onDemand := request.onDemand
  tenant := request.tenant
  notBefore := numericDate s.now
  issuedAt := numericDate s.now
  expiresAt := numericDate (s.now + s.timeout)

/-- A creation with its token signed. The times of the record are set when its row is
inserted. -/
def signed (server : ServerID) (request : CreateInstanceRequest) : Creation T where
  server := server
  record :=
    { instanceID := request.instanceID
      tenant := request.tenant
      group := request.group
      onDemand := request.onDemand
      subnetID := request.subnetID
      instanceType := request.instanceType
      createdAt := s.now
      lastUpdated := s.now
      registrationJWT := D.sign (claimsFor D s request)
      infraConfigHash := request.infraConfigHash }
  stage := .signed

/-- A creation begins on the leader. -/
def create (server : ServerID) (request : CreateInstanceRequest) : Option (State T) :=
  if s.leader = some server ∧ request.group ≠ "" ∧ request.tenant ≠ "" then
    some { s with creations := s.creations ++ [signed D s server request] }
  else none

variable (record : InstanceRecord T) (k : Nat)

/-- The row that is inserted before the provider is called. -/
def InstanceRecord.preInserted : Row T where
  tenant := record.tenant
  group := record.group
  onDemand := record.onDemand
  subnetID := record.subnetID
  nonce := record.registrationJWT
  issuedAt := some record.createdAt
  infraConfigHash := some record.infraConfigHash
  createdAt := record.createdAt

/-- A record as it is first written. -/
def InstanceRecord.at (now : Time) : InstanceRecord T :=
  { record with createdAt := now, lastUpdated := now }

/-- The row is inserted before anything is launched. -/
def preInsert [DecidableEq T] (k : Nat) (ok : Bool) : Option (State T) :=
  (s.creations[k]?).bind fun creation =>
    if creation.stage = .signed then
      let record := creation.record.at s.now
      match (if ok then (s.tables creation.server).createInstance record.instanceID
          record.preInserted else none) with
      | some t =>
        some ((s.withTable creation.server t).withCreation k
          { creation with record := record, stage := .inserted })
      | none => some (s.withCreation k { creation with stage := .returned })
    else none

/-- The first store ends the creation when it fails, the second does not. -/
def storeRecord (put : Put) : Option (State T) :=
  (s.creations[k]?).bind fun creation =>
    if creation.stage = .inserted then
      let stage := if State.reports D put creation.record then .pending else .returned
      some ((s.withRecord D put creation.record).withCreation k { creation with stage := stage })
    else if creation.stage = .launched then
      some ((s.withRecord D put creation.record).withCreation k
        { creation with stage := .rewritten })
    else none

/-- A record with its virtual machine. -/
def InstanceRecord.launched (now : Time) (response : ProviderResponse) : InstanceRecord T :=
  { record with
    providerInstanceID := response.providerInstanceID
    privateIPv4 := response.privateIPv4
    privateIPv6 := response.privateIPv6
    hostname := response.hostname
    lastUpdated := now }

/-- The provider launches, or fails. -/
def launch (response : Option ProviderResponse) : Option (State T) :=
  (s.creations[k]?).bind fun creation =>
    if creation.stage = .pending then
      match response.filter fun response => response.providerInstanceID ≠ "" with
      | some response =>
        some (s.withCreation k
          { creation with
            record := creation.record.launched s.now response, stage := .launched })
      | none => some (s.withCreation k { creation with stage := .returned })
    else none

/-- The columns that the creation gives to `UpdateInstance`. Those that it does not set
are null, and the token is not one of them. -/
def InstanceRecord.updated (now : Time) : Row T where
  tenant := record.tenant
  group := record.group
  onDemand := record.onDemand
  subnetID := record.subnetID
  providerID := some record.providerInstanceID
  providerAt := some now
  hostname := Rows.optional record.hostname
  ip4 := some record.privateIPv4
  ip6 := some record.privateIPv6
  nonce := record.registrationJWT
  createdAt := record.createdAt

/-- The row learns of the virtual machine. -/
def updateRow (ok : Bool) : Option (State T) :=
  (s.creations[k]?).bind fun creation =>
    if creation.stage = .rewritten then
      match (if ok then (s.tables creation.server).updateInstance s.now creation.record.instanceID
          (creation.record.updated s.now) else none) with
      | some t =>
        some ((s.withTable creation.server t).withCreation k { creation with stage := .returned })
      | none => some (s.withCreation k { creation with stage := .returned })
    else none

end

/-! ## Registration -/

section

variable (D : Setting T) (s : State T)

/-- A registration arrives with a valid nonce. -/
def receive (server : ServerID) (nonce : T) (publicKeyPEM : String) (report : Rows.Report) :
    Option (State T) :=
  if s.leader = some server then
    (D.validate s.now nonce).bind fun claims =>
      if claims.clusterID = D.clusterID ∧ claims.shard = D.shard then
        some { s with calls := s.calls ++
          [{ server, nonce, claims, publicKeyPEM, report, stage := .validated }] }
      else none
  else none

variable (j : Nat)

/-- The call looks for the row of its nonce. -/
def lookup [DecidableEq T] (j : Nat) (ok : Bool) : Option (State T) :=
  (s.calls[j]?).bind fun call =>
    if call.stage = .validated then
      match (if ok then (s.tables call.server).getInstanceByNonce call.nonce else none) with
      | some entry =>
        if entry.2.registeredAt.isNone then
          some (s.withCall j call (.found entry.2.providerID))
        else some (s.withCall j call .returned)
      | none => some (s.withCall j call .returned)
    else none

/-- The record that `UpdateRegistration` stores. -/
def InstanceRecord.registration (record : InstanceRecord T) (now : Time)
    (publicKeyPEM certSerial : String) (certExpiresAt : Time) (providerID : Option ProviderID)
    (report : Rows.Report) : InstanceRecord T :=
  { record with
    registeredAt := some now
    publicKeyPEM := publicKeyPEM
    certSerial := certSerial
    certExpiresAt := some certExpiresAt
    lastUpdated := now
    providerInstanceID := providerID.getD record.providerInstanceID
    privateIPv4 := if report.privateIPv4 = "" then record.privateIPv4 else report.privateIPv4
    privateIPv6 := if report.privateIPv6 = "" then record.privateIPv6 else report.privateIPv6
    hostname := if report.hostname = "" then record.hostname else report.hostname }

/-- The certificate is generated, which an empty key does not allow, and the record is
read. -/
def readRecord (ok : Bool) (certSerial : String) (certExpiresAt : Time) : Option (State T) :=
  (s.calls[j]?).bind fun call =>
    match call.stage with
    | .found providerID =>
      match (if ok && call.publicKeyPEM ≠ "" then
          s.recordFor D call.claims.tenant call.claims.subject else none) with
      | some record =>
        some (s.withCall j call (.read (record.registration s.now call.publicKeyPEM certSerial
          certExpiresAt providerID call.report)))
      | none => some (s.withCall j call .returned)
    | _ => none

/-- The record of the registration is written. -/
def writeRecord (put : Put) : Option (State T) :=
  (s.calls[j]?).bind fun call =>
    match call.stage with
    | .read record =>
      let stage := if State.reports D put record then .stored else .returned
      let registered :=
        if put.applied && (D.keyOf record).isSome then call.nonce :: s.registered
        else s.registered
      some { (s.withRecord D put record).withCall j call stage with registered := registered }
    | _ => none

/-- A failure to mark the row is only logged, and the certificate is returned. -/
def mark (ok : Bool) : Option (State T) :=
  (s.calls[j]?).bind fun call =>
    match call.stage with
    | .stored =>
      let returned := { s.withCall j call .returned with
        certificates := (call.nonce, call.publicKeyPEM) :: s.certificates }
      if ok then
        some (returned.withTable call.server
          ((s.tables call.server).markInstanceRegistered s.now call.claims.subject
            call.publicKeyPEM call.report))
      else some returned
    | _ => none

/-- A call is not heard of again. -/
def abandon : Option (State T) :=
  (s.calls[j]?).bind fun call => some (s.withCall j call .returned)

end

/-! ## Deletion and collection -/

section

variable (D : Setting T) (s : State T)

/-- The deletion of an instance reads its record to store it with a new status. -/
def readDeleting (tenant : Tenant) (id : InstanceID) : Option (State T) :=
  (s.recordFor D tenant id).map fun record =>
    { s with deletions := s.deletions ++
      [some { record with status := "deleting", lastUpdated := s.now }] }

/-- The status of a deletion is written. -/
def writeDeleting (k : Nat) (put : Put) : Option (State T) :=
  (s.deletions[k]?).join.map fun record =>
    { s.withRecord D put record with deletions := s.deletions.set k none }

variable (server : ServerID) (id : InstanceID)

/-- Mark a row as deleted. -/
def softDelete : Option (State T) :=
  ((s.tables server).deleteInstance s.now id).map (s.withTable server)

/-- Remove a row that is marked. -/
def purge : Option (State T) :=
  ((s.tables server).purgeDeletedInstance id).map (s.withTable server)

/-- A health report arrives. -/
def reportHealth (health : String) : Option (State T) :=
  ((s.tables server).updateInstanceHealth s.now id health).map (s.withTable server)

/-- A cycle of the collector, which runs on the leader. -/
def find : Option (State T) :=
  if s.leader = some server then
    some { s with collections := s.collections ++
      [(s.tables server).findDanglingInstances s.now (s.ages server)] }
  else none

/-- The next of the dangling instances. One with a machine is passed over when the
machine's deletion fails. The removal of its record and its row are steps of their own. -/
def terminate (k : Nat) (ok : Bool) : Option (State T) :=
  match s.collections[k]? with
  | some (entry :: rest) =>
    let passedOver := entry.2.providerID.any (· ≠ "") && !ok
    some { s with
      collections := s.collections.set k rest
      collected := if passedOver then s.collected else (entry.2.nonce, s.now) :: s.collected }
  | _ => none

end

/-! ## The machine -/

/-- A rebuild reads the storage as it is. -/
def rebuildIn (s : State T) (surroundings : Surroundings T) : Surroundings T :=
  { surroundings with objects := s.objects, syncTime := s.now, now := s.now }

/-- A server rebuilds its table and leads. -/
def lead [DecidableEq T] (s : State T) (server : ServerID)
    (surroundings : Surroundings T) : State T :=
  match (rebuildIn s surroundings).rebuildCache (s.tables server) with
  | (.ok (), t) => { s.withTable server t with leader := some server }
  | (.error _, t) => { s.withTable server t with leader := none }

/-- One step. -/
def step [DecidableEq T] (D : Setting T) (s : State T) :
    Label T → Option (State T)
  | .tick elapsed => some { s with now := s.now + elapsed }
  | .refresh timeout => some { s with timeout := timeout }
  | .restart server =>
    some { s with ages := fun other => if other = server then s.timeout else s.ages other }
  | .lead server surroundings => some (lead s server surroundings)
  | .create server request => create D s server request
  | .preInsert k ok => preInsert s k ok
  | .storeRecord k put => storeRecord D s k put
  | .launch k response => launch s k response
  | .updateRow k ok => updateRow s k ok
  | .receive server nonce publicKeyPEM report => receive D s server nonce publicKeyPEM report
  | .lookup j ok => lookup s j ok
  | .readRecord j ok certSerial certExpiresAt => readRecord D s j ok certSerial certExpiresAt
  | .writeRecord j put => writeRecord D s j put
  | .mark j ok => mark s j ok
  | .abandon j => abandon s j
  | .health server id health => reportHealth s server id health
  | .readDeleting tenant id => readDeleting D s tenant id
  | .writeDeleting k put => writeDeleting D s k put
  | .softDelete server id => softDelete s server id
  | .purge server id => purge s server id
  | .erase key => some { s with objects := s.objects.erase key }
  | .find server => find s server
  | .terminate k ok => terminate s k ok

/-- Runs from a state. -/
def lifecycle [DecidableEq T] (D : Setting T) (start : State T) : Machine (State T) (Label T) where
  start := start
  step := step D

end Nstance.Instances
