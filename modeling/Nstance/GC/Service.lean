import Nstance.Interaction.Tasks
import Nstance.Tenancy.Operations

/-!
# Garbage collection

The collector of a server goes through the rows whose virtual machine the provider reports
as unhealthy, those that have not registered for too long, and those that never got a
virtual machine. It deletes the instance of each, removes its record and marks its row as
deleted. Another job removes the records of rows that were marked a while ago, and then the
rows.

Several servers share the storage and the provider, their actions in any order. What the
provider has confirmed and what was given up is written down; no action reads that.
-/

namespace Nstance.GC

open Interaction Objects
open Nstance.Instances (InstanceID Tenant GroupKey Time Duration Row Rows InstanceRecord Setting
  StorageKey ServerID Surroundings)
open Nstance.Tenancy (Server Outcome Fate EventType unavailable)
open TenantState (Err)

variable {T J F : Type}

/-! ## Actions -/

/-- What the collector calls: the server, its queries and the storage. -/
inductive Action (T J F : Type) where
  | server (action : Tenancy.Action T J F)
  | findUnhealthyProviderInstances
  | findDanglingInstances (maxAge : Duration)
  | findStalePreInserts (maxAge : Duration)
  | findDeletedInstancesPastRetention (cutoff : Time)
  | deleteRecord (id : InstanceID) (key : StorageKey)
  | purgeDeletedInstance (id : InstanceID)

/-- What each of them answers. -/
def Reply : Action T J F → Type
  | .server action => Tenancy.Reply action
  | .findUnhealthyProviderInstances => Except Err (List (InstanceID × Row T))
  | .findDanglingInstances _ => Except Err (List (InstanceID × Row T))
  | .findStalePreInserts _ => Except Err (List (InstanceID × Row T))
  | .findDeletedInstancesPastRetention _ => Except Err (List (InstanceID × Row T))
  | .deleteRecord _ _ => Except Err Unit
  | .purgeDeletedInstance _ => Except Err Unit

/-- A call names the server that makes it. -/
abbrev interface (T J F : Type) : Interface :=
  ⟨ServerID × Action T J F, fun request => Reply request.2⟩

/-- The programs of the collector. -/
abbrev Code (T J F : Type) := Program (interface T J F) Err

/-! ## Programs -/

section

variable (server : ServerID)

/-- Call on behalf of a server. -/
def act (action : Action T J F) : Code T J F (Reply action) :=
  Program.act (I := interface T J F) (server, action)

/-- What the instance manager of a server does. -/
def onServer {α : Type} (program : Tenancy.Code T J F α) : Code T J F α :=
  program.interpret (fun action => act server (.server action)) fun error => error

/-- A query that the cycle cannot do without. -/
def query (context : String) (action : Action T J F)
    (result : Reply action → Except Err (List (InstanceID × Row T))) :
    Code T J F (List (InstanceID × Row T)) :=
  (do
    let reply ← act server action
    Program.ofExcept (result reply)).recover fun cause => .fail (.wrap context cause)

/-- A virtual machine is known for the row. -/
def launched (row : Row T) : Bool := row.providerID.any (· ≠ "")

/-- The clock of the server. -/
def now : Code T J F Time := act server (.server .now)

variable (D : Setting T)

/-- Give up an instance: its record, its row, and its place in the group. -/
def cleanup (entry : InstanceID × Row T) : Code T J F Unit := do
  (match D.keyFor entry.2.tenant entry.1 with
    | some key => do
        let _ ← act server (.deleteRecord entry.1 key)
    | none => pure ())
  let _ ← act server (.server (.deleteInstance entry.1))
  if entry.2.tenant ≠ "" ∧ entry.2.group ≠ "" then do
    let timestamp ← now server
    act server (.server (.enqueue
      { type := .groupChanged entry.2.tenant entry.2.group, timestamp }))
  else pure ()

/-- Terminate instances at the provider, and give them up. An instance that has a virtual
machine is passed over if it cannot be deleted. -/
def terminateAndCleanup : List (InstanceID × Row T) → Code T J F Unit
  | [] => pure ()
  | entry :: rest => do
      (if launched entry.2 then do
        let deleted ← (onServer server (Tenancy.deleteInstance entry.2.tenant entry.1)).tried
        match deleted with
        | .ok () => cleanup server D entry
        | .error _ => pure ()
      else cleanup server D entry)
      terminateAndCleanup rest

/-- One round: unhealthy, dangling and never launched instances. -/
def runGarbageCollection (maxAge : Duration) : Code T J F Unit := do
  let unhealthy ← query server "find unhealthy instances" .findUnhealthyProviderInstances
    fun reply => reply
  terminateAndCleanup server D unhealthy
  let dangling ← query server "find dangling instances" (.findDanglingInstances maxAge)
    fun reply => reply
  terminateAndCleanup server D dangling
  let stale ← query server "find stale pre-inserts" (.findStalePreInserts maxAge)
    fun reply => reply
  terminateAndCleanup server D stale

/-- `storage.ErrNotFound`, which none of the storages returns for a removal. -/
def notFound : Err := .message "object not found"

/-- Whether a record is gone after its removal. -/
def removed : Except Err Unit → Bool
  | .ok () => true
  | .error cause => cause = notFound

/-- Delete records, and purge the row when the record is gone. -/
def removeRecords : List (InstanceID × Row T) → Code T J F Unit
  | [] => pure ()
  | entry :: rest => do
      (match D.keyFor entry.2.tenant entry.1 with
        | none => pure ()
        | some key => do
            let reply ← act server (.deleteRecord entry.1 key)
            if removed reply then do
              let _ ← act server (.purgeDeletedInstance entry.1)
            else pure ())
      removeRecords rest

/-- `DefaultDeletedRecordRetention`: half an hour. -/
def defaultDeletedRecordRetention : Duration := 30 * 60 * 1000000000

/-- Remove what was deleted long enough ago. -/
def cleanupDeletedInstanceRecords (retentionPeriod : Duration) : Code T J F Unit := do
  let retentionPeriod := if retentionPeriod ≤ 0 then defaultDeletedRecordRetention
    else retentionPeriod
  let time ← now server
  let deleted ← query server "find deleted instances"
    (.findDeletedInstancesPastRetention (time - retentionPeriod)) fun reply => reply
  removeRecords server D deleted

end

/-! ## The servers -/

/-- The states of a virtual machine that the collector does not wait for. -/
def unhealthy (status : String) : Bool :=
  status ∈ ["stopping", "stopped", "suspending", "suspended", "deleting", "deleted", "repairing"]

/-- Live rows that the provider reports as lost. -/
def findUnhealthyProviderInstances (t : Rows T) : List (InstanceID × Row T) :=
  t.rows.entries.filter fun entry =>
    entry.2.live && entry.2.providerID.isSome && entry.2.providerState.any unhealthy

/-- Rows that were inserted and never launched. -/
def findStalePreInserts (t : Rows T) (now : Time) (maxAge : Duration) : List (InstanceID × Row T) :=
  t.rows.entries.filter fun entry =>
    entry.2.providerID.isNone && entry.2.issuedAt.any (· < now - maxAge) && entry.2.live

/-- Rows that were deleted before the cutoff. -/
def findDeletedInstancesPastRetention (t : Rows T) (cutoff : Time) : List (InstanceID × Row T) :=
  t.rows.entries.filter fun entry => entry.2.deletedAt.any (· < cutoff)

/-- The rows that a query finds. -/
def toCleanup (t : Rows T) (now : Time) :
    Action T J F → List (InstanceID × Row T)
  | .findUnhealthyProviderInstances => findUnhealthyProviderInstances t
  | .findDanglingInstances maxAge => t.findDanglingInstances now maxAge
  | .findStalePreInserts maxAge => findStalePreInserts t now maxAge
  | _ => []

/-- Whether the provider has confirmed that a virtual machine is gone. -/
def confirms : Except Err Unit → Bool
  | .ok () => true
  | .error cause => cause.is .instanceNotFound

/-- Servers that share storage and provider, each with its own table. -/
structure Fleet (T J F : Type) where
  /-- The storage, the provider and the configuration. Its rows are not used. -/
  shared : Server T J F
  tables : ServerID → Rows T
  /-- The instances whose virtual machine the provider has confirmed to be gone, or has
  reported not to exist. -/
  confirmed : List InstanceID := []
  /-- The instances whose record was to be removed or whose row was to be marked. -/
  discarded : List InstanceID := []

namespace Fleet

variable (fleet : Fleet T J F) (server : ServerID)

/-- What one of the servers works on. -/
def view : Server T J F :=
  { fleet.shared with rows := fleet.tables server }

/-- A server has changed the shared state and its table. -/
def withServer (s : Server T J F) : Fleet T J F :=
  { fleet with shared := s, tables := Function.update fleet.tables server s.rows }

/-- A server has changed its table. -/
def withRows (t : Rows T) : Fleet T J F :=
  { fleet with tables := Function.update fleet.tables server t }

theorem tables_withServer (server other : ServerID) (s : Server T J F) :
    (fleet.withServer server s).tables other =
      if other = server then s.rows else fleet.tables other :=
  Function.update_apply _ _ _ _

theorem tables_withRows (server other : ServerID) (t : Rows T) :
    (fleet.withRows server t).tables other = if other = server then t else fleet.tables other :=
  Function.update_apply _ _ _ _

/-- What an action says about virtual machines and rows. A confirmation is about the virtual
machine that was created last. -/
def noted : (action : Tenancy.Action T J F) → Tenancy.Reply action →
    Fleet T J F
  | .createVM record, _ =>
    { fleet with confirmed := fleet.confirmed.filter (· ≠ record.instanceID) }
  | .deleteVM id _, reply =>
    if confirms reply then { fleet with confirmed := id :: fleet.confirmed } else fleet
  | .deleteInstance id, _ => { fleet with discarded := id :: fleet.discarded }
  | _, _ => fleet

/-- The storage loses a record, unless the call is refused. -/
def deleteRecord (id : InstanceID) (key : StorageKey) (fate : Fate) : Fleet T J F :=
  { fleet with
    shared := if fate = .refused then fleet.shared
      else { fleet.shared with records := fleet.shared.records.erase key }
    discarded := id :: fleet.discarded }

/-- A statement on a table, which may fail or be lost. -/
def statement (rows : Option (Rows T)) (fate : Fate) : Fleet T J F × Except Err Unit :=
  match fate, rows with
  | .done, some t => (fleet.withRows server t, .ok ())
  | .done, none => (fleet, .error Tenancy.noRows)
  | .refused, _ => (fleet, .error unavailable)
  | .lost, some t => (fleet.withRows server t, .error unavailable)
  | .lost, none => (fleet, .error unavailable)

/-- What a call does, and what it answers. -/
def perform [DecidableEq T] (D : Setting T) :
    (request : ServerID × Action T J F) → Outcome T J F →
      Fleet T J F × Reply request.2
  | (server, .server action), outcome =>
    let result := (fleet.view server).perform D action outcome
    ((fleet.withServer server result.1).noted action result.2, result.2)
  | (_, .deleteRecord id key), outcome =>
    (fleet.deleteRecord id key outcome.fate,
      if outcome.fate = .done then .ok () else .error unavailable)
  | (server, .purgeDeletedInstance id), outcome =>
    fleet.statement server ((fleet.tables server).purgeDeletedInstance id) outcome.fate
  | (server, .findUnhealthyProviderInstances), outcome =>
    (fleet, outcome.read (.ok (findUnhealthyProviderInstances (fleet.tables server))))
  | (server, .findDanglingInstances maxAge), outcome =>
    (fleet, outcome.read (.ok ((fleet.tables server).findDanglingInstances outcome.now maxAge)))
  | (server, .findStalePreInserts maxAge), outcome =>
    (fleet, outcome.read (.ok (findStalePreInserts (fleet.tables server) outcome.now maxAge)))
  | (server, .findDeletedInstancesPastRetention cutoff), outcome =>
    (fleet, outcome.read (.ok (findDeletedInstancesPastRetention (fleet.tables server) cutoff)))

/-! ### Rebuilds -/

/-- The instances whose row a rebuild has marked as deleted. -/
def marked (before after : Rows T) : List InstanceID :=
  (after.rows.entries.filter fun entry =>
    !entry.2.live && !(before.get entry.1).any fun row => !row.live).map Prod.fst

/-- The instances that a list of the provider names. -/
def listed (statuses : List Rows.InstanceStatus) (id : InstanceID) : Bool :=
  statuses.any fun status => status.instanceID ≠ "" && status.instanceID = id

/-- A server rebuilds its rows from the storage. The list of the provider reports that there
are no virtual machines but those it names. -/
def lead [DecidableEq T] (server : ServerID) (surroundings : Surroundings T) : Fleet T J F :=
  let w := { surroundings with objects := fleet.shared.records }
  let after := (w.rebuildCache (fleet.tables server)).2
  let marked := marked (fleet.tables server) after
  { fleet.withRows server after with
    confirmed := marked.filter (fun id => !listed (w.allInstances.getD []) id) ++ fleet.confirmed
    discarded := marked ++ fleet.discarded }

end Fleet

/-! ## The machine -/

/-- The calls under way and the fleet. -/
abbrev State (T J F : Type) :=
  Team (interface T J F) Err (Fleet T J F)

/-- Calls begin, take a step, or something else happens. -/
inductive Label (T J F : Type) where
  /-- An instance is created: the part of the creation that writes. -/
  | create (server : ServerID) (record : InstanceRecord T)
  | delete (server : ServerID) (tenant : Tenant) (id : InstanceID)
  | collect (server : ServerID) (maxAge : Duration)
  | cleanup (server : ServerID) (retentionPeriod : Duration)
  /-- One of the programs performs its next action. A program that is not heard of again
  was stopped by a crash. -/
  | advance (j : Nat) (outcome : Outcome T J F)
  | other (server : ServerID) (action : Tenancy.Action T J F)
      (outcome : Outcome T J F)
  | lead (server : ServerID) (surroundings : Surroundings T)

/-- Whether an action writes no deletion time into a row. -/
def calm : Tenancy.Action T J F → Bool
  | .createInstance _ row => row.live
  | .updateInstance _ given => given.live
  | _ => true

/-- The actions of the other programs: they neither create nor delete virtual machines, and
mark no rows as deleted. -/
def unrelated : Tenancy.Action T J F → Bool
  | .createVM _ => false
  | .deleteVM _ _ => false
  | .deleteInstance _ => false
  | action => calm action

section

variable [DecidableEq T] (D : Setting T)

/-- One step of any call, or of the surroundings. -/
def step (s : State T J F) : Label T J F → Option (State T J F)
  | .create server record =>
    some (s.launch (do let _ ← onServer server (Tenancy.provision record)))
  | .delete server tenant id => some (s.launch (onServer server (Tenancy.deleteInstance tenant id)))
  | .collect server maxAge => some (s.launch (runGarbageCollection server D maxAge))
  | .cleanup server retentionPeriod =>
    some (s.launch (cleanupDeletedInstanceRecords server D retentionPeriod))
  | .advance j outcome => s.advance (fun fleet => fleet.perform D) j outcome
  | .other server action outcome =>
    if unrelated action then
      some { s with store := (s.store.perform D (server, .server action) outcome).1 }
    else none
  | .lead server surroundings => some { s with store := s.store.lead server surroundings }

/-- Runs of any number of collectors beside other calls. -/
def collection (start : Fleet T J F) : Machine (State T J F) (Label T J F) where
  start := ⟨start, []⟩
  step := step D

end

end Nstance.GC
