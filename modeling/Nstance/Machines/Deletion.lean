import Nstance.Interaction.Execution
import Nstance.Targets.Manager

/-!
# The deletion of a machine

The RPC `DeleteInstance` of the operator service, and the controller of NstanceMachine that
calls it before it removes the finalizer of a deleted machine, as programs.

The RPC takes every failure of `GetInstanceStatus` for an instance that is gone, so a
virtual machine that runs may lose its finalizer (`Timeout.finalizer_removed_unattended`).
The RPC is right exactly if the provider has answered the query of the status, or the
virtual machine is gone since before (`deletion_attended_iff`).
-/

namespace Nstance.Machines

open Interaction
open Program hiding pure bind
open TenantState (Tenant Err)
open Nstance.Targets (InstanceID ProviderID ProviderStatus)

/-! ## Actions -/

/-- The custom resource, as far as its deletion goes. -/
structure Machine where
  /-- `DeletionTimestamp` is set. -/
  deleting : Bool
  finalizer : Bool
  instanceID : InstanceID := ""
  shard : String := ""
  conditions : List (String × String) := []

/-- A condition with status true. -/
def Machine.hasCondition (machine : Machine) (conditionType : String) : Bool :=
  machine.conditions.lookup conditionType = some "True"

/-- What the controller and the shard call. -/
inductive Action where
  /-- An action on the database, the load balancers or the provider. -/
  | target (action : Targets.Action)
  /-- `GetInstanceStatus` of the provider. -/
  | getInstanceStatus (id : InstanceID) (vm : ProviderID)
  /-- `Get` of the machine; there may be none. -/
  | getMachine
  /-- The shards of `ConnProvider.Get()`, unless it is nil. -/
  | connections
  /-- The request and the response of the RPC `DeleteInstance`. -/
  | send (shard : String) (id : InstanceID)
  | receive
  /-- `Update` of the machine. -/
  | update (machine : Machine)
  /-- The RPC `CreateInstance` on some shard. -/
  | createInstance (machine : Machine)
  /-- `Status().Update` of the machine. -/
  | updateStatus (machine : Machine)
  | updateInstanceStatus (machine : Machine)

/-- What each of them answers. -/
def Reply : Action → Type
  | .target action => Targets.Reply action
  | .getInstanceStatus _ _ => Except Err ProviderStatus
  | .getMachine => Except Err (Option Machine)
  | .connections => Option (List String)
  | .send _ _ => Except Err Unit
  | .receive => Except Err Unit
  | .update _ => Except Err Unit
  | .createInstance _ => Except Err (InstanceID × String)
  | .updateStatus _ => Except Err Unit
  | .updateInstanceStatus _ => Except Err Unit

/-- Actions with their replies. -/
abbrev interface : Interface := ⟨Action, Reply⟩

/-- Programs of the controller and the shard. -/
abbrev Code := Program interface Err

/-- Perform an action whose reply may carry an error. -/
def call {α : Type} (action : Action) (result : Reply action → Except Err α) : Code α :=
  Program.perform (I := interface) action fun reply => .ofExcept (result reply)

/-- A program of the targets, as one of this module. -/
def onTargets {α : Type} (program : Targets.Code α) : Code α :=
  program.embed (J := interface) Action.target fun _ reply => reply

/-- Errors get a context. -/
def wrapping {α : Type} (context : String) (program : Code α) : Code α :=
  program.recover fun cause => .fail (.wrap context cause)

/-! ## The server -/

/-- The status of a virtual machine of the tenant. -/
def getInstanceStatus (tenant : Tenant) (id : InstanceID) : Code ProviderStatus := do
  let inst ← wrapping "instance not found in local DB" (onTargets (Targets.getInstance id))
  if inst.tenant ≠ tenant then .fail .instanceTenantMismatch
  else
    match inst.providerID with
    | none => .fail (.message "instance has no provider ID yet")
    | some vm =>
      if vm = "" then .fail (.message "instance has no provider ID yet")
      else
        wrapping "failed to get instance status from provider"
          (call (.getInstanceStatus id vm) fun reply => reply)

/-- The error that the operator sees. -/
def tenantInstanceError (cause : Err) : Err :=
  if cause.is .instanceTenantMismatch then .message "instance belongs to another tenant"
  else .wrap "failed to get instance" cause

/-- The status in the response of `DeleteInstance`. -/
inductive Status where
  | unknown
  | deleting
  | deleted

variable (config : Targets.Config) (client : Except Err Tenant)

/-- The call on the shard. -/
def deleteInstance (id : InstanceID) : Code Status := do
  let tenant ← wrapping "failed to get client info" (.ofExcept client)
  if id = "" then .fail (.message "instance_id is required")
  else do
    let found ← (getInstanceStatus tenant id >>= fun status => pure (some status)).recover
      fun cause =>
        if cause.is .instanceTenantMismatch then .fail (tenantInstanceError cause) else pure none
    match found with
    | none => pure .unknown
    | some .deleted => pure .deleted
    | some .deleting => pure .deleting
    | some .other => do
        (onTargets (Targets.deleteInstance config tenant id)).recover fun cause =>
          .fail (if cause.is .instanceTenantMismatch then tenantInstanceError cause
            else .wrap "failed to delete instance" cause)
        pure .deleting

/-! ## The controller -/

/-- The call of the controller on the shard of a machine. -/
def deleteOnShard (shard : String) (id : InstanceID) : Code Unit := do
  let connections ← Program.act (I := interface) .connections
  match (connections : Option (List String)) with
  | none => .fail (.message "connections not ready")
  | some shards =>
    if shard ∈ shards then
      wrapping ("shard " ++ shard) do
        call (.send shard id) fun reply => reply
        let _ ← deleteInstance config client id
        call .receive fun reply => reply
    else .fail (.message ("shard \"" ++ shard ++ "\" not connected"))

/-- The part of `Reconcile` that is for deleted machines. -/
def cleanUp (machine : Machine) : Code Unit := do
  (if machine.instanceID = "" then pure ()
    else if machine.hasCondition "ServerDeleted" then pure ()
    else if machine.shard = "" then pure ()
    else deleteOnShard config client machine.shard machine.instanceID)
  call (.update { machine with finalizer := false }) fun reply => reply

/-- The rest of `Reconcile`: add the finalizer, create the instance, or update the status. -/
def keepUp (machine : Machine) : Code Unit :=
  if machine.finalizer then
    if machine.instanceID = "" then do
      let created ← call (.createInstance machine) fun reply => reply
      call (.updateStatus { machine with instanceID := created.1, shard := created.2 })
        fun reply => reply
    else call (.updateInstanceStatus machine) fun reply => reply
  else call (.update { machine with finalizer := true }) fun reply => reply

/-- `Reconcile` of the controller of NstanceMachine. -/
def reconcile : Code Unit := do
  let found ← call .getMachine fun reply => reply
  match found with
  | none => pure ()
  | some machine =>
    if machine.deleting then
      if machine.finalizer then cleanUp config client machine else pure ()
    else keepUp machine

/-! ## Journals -/

/-- The calls so far, with their answers. -/
abbrev Journal := List (Exchange interface)

/-- The virtual machine that is ever created for each instance. -/
abbrev VMs := InstanceID → Option ProviderID

/-- A row is that of the instance asked for, and its provider ID, once it is recorded, is
that of the virtual machine. -/
def Truthful (vms : VMs) : (action : Action) → Reply action → Prop
  | .target (.getInstance id), .ok inst =>
    inst.id = id ∧ ∀ vm, inst.providerID = some vm → vm ≠ "" → vms id = some vm
  | _, _ => True

/-- The exchanges that tell that a virtual machine goes away or is gone. -/
inductive Tells (id : InstanceID) (vm : ProviderID) : Exchange interface → Prop where
  | deleted : Tells id vm ⟨.target (.deleteVM id vm), (.ok () : Except Err Unit)⟩
  | missing {error : Err} (missing : error.is .instanceNotFound = true) :
      Tells id vm ⟨.target (.deleteVM id vm), (.error error : Except Err Unit)⟩
  | reported {status : ProviderStatus} (gone : status ≠ .other) :
      Tells id vm ⟨.getInstanceStatus id vm, (.ok status : Except Err ProviderStatus)⟩
  | unknown {error : Err} (missing : error.is .instanceNotFound = true) :
      Tells id vm ⟨.getInstanceStatus id vm, (.error error : Except Err ProviderStatus)⟩

/-- The virtual machine, if there ever is one, was deleted or reported to be deleting,
deleted or missing. -/
def Attended (vms : VMs) (id : InstanceID) (journal : Journal) : Prop :=
  ∀ vm, vms id = some vm → ∃ exchange ∈ journal, Tells id vm exchange

/-- The provider has answered the query of the status of an instance: with a status, or
that there is no such instance. -/
inductive Answer (id : InstanceID) : Exchange interface → Prop where
  | status {vm : ProviderID} {status : ProviderStatus} :
      Answer id ⟨.getInstanceStatus id vm, (.ok status : Except Err ProviderStatus)⟩
  | unknown {vm : ProviderID} {error : Err} (missing : error.is .instanceNotFound = true) :
      Answer id ⟨.getInstanceStatus id vm, (.error error : Except Err ProviderStatus)⟩

variable (id : InstanceID)

/-- The provider has answered the query. -/
def Answered (journal : Journal) : Prop :=
  ∃ exchange ∈ journal, Answer id exchange

/-- An exchange from which nothing is learnt of a virtual machine. -/
def Silent (exchange : Exchange interface) : Prop :=
  ¬ Answer id exchange ∧ ∀ vm, ¬ Tells id vm exchange

/-- Nothing was learnt of the virtual machine. -/
def Blind (journal : Journal) : Prop :=
  ∀ exchange ∈ journal, Silent id exchange

/-- What a successful deletion knows: all, or nothing. -/
def Told (vms : VMs) (id : InstanceID) (journal : Journal) : Prop :=
  Answered id journal ∧ Attended vms id journal ∨ Blind id journal

section

variable {vms : VMs} {id : InstanceID} {notes last : Journal}

theorem Attended.mono (attended : Attended vms id notes) (grown : notes ⊆ last) :
    Attended vms id last := by
  intro vm created
  obtain ⟨exchange, mem, tells⟩ := attended vm created
  exact ⟨exchange, grown mem, tells⟩

theorem Answered.mono (answered : Answered id notes) (grown : notes ⊆ last) : Answered id last := by
  obtain ⟨exchange, mem, answer⟩ := answered
  exact ⟨exchange, grown mem, answer⟩

/-- Calls that can tell that a virtual machine is gone. -/
def Action.asks : Action → Bool
  | .target (.deleteVM _ _) => true
  | .getInstanceStatus _ _ => true
  | _ => false

variable {exchange : Exchange interface}

theorem silent_of_not_asks (quiet : exchange.1.asks = false) : Silent id exchange := by
  constructor
  · intro answer
    cases answer <;> cases quiet
  · intro vm tells
    cases tells <;> cases quiet

theorem Blind.cons (blind : Blind id notes) (silent : Silent id exchange) :
    Blind id (exchange :: notes) := by
  intro other mem
  rcases List.mem_cons.mp mem with rfl | mem
  · exact silent
  · exact blind other mem

theorem Told.cons (told : Told vms id notes) (silent : Silent id exchange) :
    Told vms id (exchange :: notes) := by
  rcases told with ⟨answered, attended⟩ | blind
  · exact .inl ⟨answered.mono (List.subset_cons_self ..), attended.mono (List.subset_cons_self ..)⟩
  · exact .inr (blind.cons silent)

/-- With what was known before, the virtual machine is attended to exactly if it was
before or the provider has answered. -/
theorem Told.attended_iff (told : Told vms id notes) (history : Journal) :
    Attended vms id (notes ++ history) ↔ Attended vms id history ∨ Answered id notes := by
  rcases told with ⟨answered, attended⟩ | blind
  · exact iff_of_true (attended.mono (List.subset_append_left ..)) (.inr answered)
  constructor
  · intro attended
    refine .inl fun vm created => ?_
    obtain ⟨exchange, mem, tells⟩ := attended vm created
    rcases List.mem_append.mp mem with mem | mem
    · exact absurd tells ((blind exchange mem).2 vm)
    · exact ⟨exchange, mem, tells⟩
  · rintro (attended | ⟨exchange, mem, answer⟩)
    · exact attended.mono (List.subset_append_right ..)
    · exact absurd answer (blind exchange mem).1

end

/-! ## Executions on the server -/

section

variable {vms : VMs} {config : Targets.Config} {client : Except Err Tenant} {tenant : Tenant}
  {id : InstanceID} {notes last : Journal} {α : Type}

/-- Any truthful replies. -/
abbrev world (vms : VMs) : Environment interface Journal := journal (Truthful vms)

/-- The same for the programs of the server's manager. -/
abbrev targets (vms : VMs) : Environment Targets.interface Journal :=
  within Action.target (fun _ reply => reply) (world vms)

variable {given : Except Err α}

theorem ends_call {action : Action} {result : Reply action → Except Err α} :
    (call action result).Ends (world vms) given last notes ↔
      ∃ reply, Truthful vms action reply ∧ given = result reply ∧
        last = ⟨action, reply⟩ :: notes := by
  constructor
  · rintro ⟨reply, _, ⟨truthful, rfl⟩, ends⟩
    obtain ⟨same, rfl⟩ := ends_ofExcept.mp ends
    exact ⟨reply, truthful, same, rfl⟩
  · rintro ⟨reply, truthful, same, rfl⟩
    exact ⟨reply, _, ⟨truthful, rfl⟩, ends_ofExcept.mpr ⟨same, rfl⟩⟩

theorem ends_targets_call {action : Targets.Action} {result : Targets.Reply action → Except Err α}
    (ends : (Targets.call action result).Ends (targets vms) given last notes) :
    ∃ reply, Truthful vms (.target action) reply ∧ given = result reply ∧
      last = ⟨.target action, reply⟩ :: notes := by
  obtain ⟨_, _, ⟨reply, rfl, truthful, rfl⟩, ends⟩ := ends
  obtain ⟨same, rfl⟩ := ends_ofExcept.mp ends
  exact ⟨reply, truthful, same, rfl⟩

theorem notes_subset {program : Targets.Code α} {result : Except Err α}
    (ends : program.Ends (targets vms) result last notes) : notes ⊆ last := by
  refine ends.keeps (J := fun after => notes ⊆ after) ?_ (List.Subset.refl notes)
  rintro before action _ _ ⟨reply, _, _, rfl⟩ grown
  exact List.Subset.trans grown (List.subset_cons_self ..)

theorem tells_of_deleteWithdrawn {inst : Targets.Instance} {vm : ProviderID}
    (ends : (Targets.deleteWithdrawn config inst vm).Ends (targets vms) (.ok ()) last notes) :
    ∃ exchange ∈ last, Tells inst.id vm exchange := by
  obtain ⟨_, withdrawn, _, ends⟩ := (ends_bind _).mp ends
  obtain ⟨_, after, ended, rest⟩ := (ends_bind _).mp ends
  have told : ∃ exchange ∈ after, Tells inst.id vm exchange := by
    rcases (ends_recover _).mp ended with ⟨_, _, deleted⟩ | ⟨error, middle, failed, handled⟩
    · obtain ⟨reply, _, same, rfl⟩ := ends_targets_call deleted
      cases same
      exact ⟨_, List.mem_cons_self, .deleted⟩
    obtain ⟨reply, _, same, rfl⟩ := ends_targets_call failed
    cases same
    split at handled
    · obtain ⟨_, rfl⟩ := handled
      exact ⟨_, List.mem_cons_self, .missing ‹_›⟩
    · exact (not_ends_fail handled).elim
  obtain ⟨exchange, mem, tells⟩ := told
  exact ⟨exchange, notes_subset rest mem, tells⟩

/-- A successful `DeleteInstance` of the manager has deleted the virtual machine, or the
provider has said that it is missing. -/
theorem attended_of_delete
    (ends : (Targets.deleteInstance config tenant id).Ends (targets vms) (.ok ()) last notes) :
    Attended vms id last := by
  obtain ⟨inst, _, read, ends⟩ := (ends_bind _).mp ends
  obtain ⟨reply, truthful, same, rfl⟩ := ends_targets_call ((ends_recover_fail _).mp read)
  cases same
  obtain ⟨rfl, known⟩ := truthful
  split at ends
  · exact (not_ends_fail ends).elim
  split at ends
  · exact (not_ends_fail ends).elim
  rename_i vm recorded
  split at ends
  · exact (not_ends_fail ends).elim
  rename_i named
  obtain ⟨_, _, _, ends⟩ := (ends_bind _).mp ends
  obtain ⟨_, _, _, ends⟩ := (ends_bind _).mp ends
  obtain ⟨_, after, body, unlocked⟩ := (ends_bind _).mp ends
  intro other created
  cases (known vm recorded named).symm.trans created
  rcases (ends_recover _).mp body with ⟨_, _, body⟩ | ⟨_, _, _, handled⟩
  · obtain ⟨exchange, mem, tells⟩ := tells_of_deleteWithdrawn body
    exact ⟨exchange, notes_subset unlocked mem, tells⟩
  · obtain ⟨_, _, _, impossible⟩ := (ends_bind _).mp handled
    exact (not_ends_fail impossible).elim

theorem read_row {given : Except Err Targets.Instance}
    (ends : (onTargets (Targets.getInstance id)).Ends (world vms) given last notes) :
    Truthful vms (.target (.getInstance id)) given ∧
      last = ⟨.target (.getInstance id), given⟩ :: notes := by
  obtain ⟨reply, truthful, rfl, rfl⟩ := ends_targets_call ((ends_embed _).mp ends)
  exact ⟨truthful, rfl⟩

theorem status_of_getInstanceStatus {status : ProviderStatus}
    (ends : (getInstanceStatus tenant id).Ends (world vms) (.ok status) last notes) :
    ∃ vm, vms id = some vm ∧
      ⟨.getInstanceStatus id vm, (.ok status : Except Err ProviderStatus)⟩ ∈ last := by
  obtain ⟨inst, _, read, ends⟩ := (ends_bind _).mp ends
  obtain ⟨⟨_, known⟩, rfl⟩ := read_row ((ends_recover_fail _).mp read)
  split at ends
  · exact (not_ends_fail ends).elim
  split at ends
  · exact (not_ends_fail ends).elim
  rename_i vm recorded
  split at ends
  · exact (not_ends_fail ends).elim
  rename_i named
  obtain ⟨reply, _, same, rfl⟩ := ends_call.mp ((ends_recover_fail _).mp ends)
  cases same
  exact ⟨vm, known vm recorded named, List.mem_cons_self⟩

/-- After a failure the provider has said that the virtual machine is missing, or nothing
is known of it. -/
theorem told_of_getInstanceStatus {error : Err} (blind : Blind id notes)
    (ends : (getInstanceStatus tenant id).Ends (world vms) (.error error) last notes) :
    Told vms id last := by
  rcases (ends_bind_iff _).mp ends with ⟨_, _, failed⟩ | ⟨inst, _, read, ends⟩
  · rcases (ends_recover _).mp failed with ⟨_, impossible, _⟩ | ⟨_, _, read, handled⟩
    · cases impossible
    obtain ⟨_, rfl⟩ := read_row read
    obtain ⟨_, rfl⟩ := handled
    exact .inr (blind.cons (silent_of_not_asks rfl))
  obtain ⟨⟨_, known⟩, rfl⟩ := read_row ((ends_recover_fail _).mp read)
  have unread : Blind id (⟨.target (.getInstance id), .ok inst⟩ :: notes) :=
    blind.cons (silent_of_not_asks rfl)
  split at ends
  · obtain ⟨_, rfl⟩ := ends
    exact .inr unread
  split at ends
  · obtain ⟨_, rfl⟩ := ends
    exact .inr unread
  rename_i vm recorded
  split at ends
  · obtain ⟨_, rfl⟩ := ends
    exact .inr unread
  rename_i named
  rcases (ends_recover _).mp ends with ⟨_, impossible, _⟩ | ⟨cause, _, asked, handled⟩
  · cases impossible
  obtain ⟨reply, _, same, rfl⟩ := ends_call.mp asked
  obtain ⟨_, rfl⟩ := handled
  cases same
  by_cases missing : cause.is .instanceNotFound = true
  · refine .inl ⟨⟨_, List.mem_cons_self, .unknown missing⟩, ?_⟩
    intro other created
    cases (known vm recorded named).symm.trans created
    exact ⟨_, List.mem_cons_self, .unknown missing⟩
  refine .inr (unread.cons ⟨?_, ?_⟩)
  · rintro (_ | ⟨answered⟩)
    exact missing answered
  · rintro other (_ | _ | _ | ⟨answered⟩)
    exact missing answered

theorem told_of_deleteInstance {status : Status} (blind : Blind id notes)
    (ends : (deleteInstance config client id).Ends (world vms) (.ok status) last notes) :
    Told vms id last := by
  obtain ⟨tenant, _, identified, served⟩ := (ends_bind _).mp ends
  obtain ⟨_, rfl⟩ := ends_ofExcept.mp ((ends_recover_fail _).mp identified)
  split at served
  · exact (not_ends_fail served).elim
  obtain ⟨found, middle, asked, ends⟩ := (ends_bind _).mp served
  rcases (ends_recover _).mp asked with ⟨_, same, asked⟩ | ⟨cause, after, failed, handled⟩
  · cases same
    obtain ⟨reported, _, answer, same, rfl⟩ := (ends_bind _).mp asked
    cases same
    obtain ⟨vm, created, mem⟩ := status_of_getInstanceStatus answer
    have answered : Answered id middle := ⟨_, mem, .status⟩
    have attended : reported ≠ .other → Attended vms id middle := by
      intro gone other created'
      cases created.symm.trans created'
      exact ⟨_, mem, .reported gone⟩
    cases reported with
    | deleted | deleting =>
      obtain ⟨_, rfl⟩ := ends
      exact .inl ⟨answered, attended (by decide)⟩
    | other =>
      obtain ⟨_, after, deleted, _, rfl⟩ := (ends_bind _).mp ends
      have deleted := (ends_embed _).mp ((ends_recover_fail _).mp deleted)
      exact .inl ⟨answered.mono (notes_subset deleted), attended_of_delete deleted⟩
  · have told : Told vms id after := by
      rcases (ends_bind_iff _).mp failed with ⟨_, _, failed⟩ | ⟨_, _, _, impossible, _⟩
      · exact told_of_getInstanceStatus blind failed
      · cases impossible
    split at handled
    · exact (not_ends_fail handled).elim
    obtain ⟨same, rfl⟩ := handled
    cases same
    obtain ⟨_, rfl⟩ := ends
    exact told

end

/-! ## Executions of the controller -/

section

variable {vms : VMs} {config : Targets.Config} {client : Except Err Tenant} {machine : Machine}
  {notes last : Journal} {result : Except Err Unit}

/-- Calls that change the resource. -/
def Action.writes : Action → Bool
  | .update _ => true
  | _ => false

/-- Programs that change nothing. -/
abbrev Reads {α : Type} (program : Code α) : Prop :=
  Uses (fun action : Action => action.writes = false) program

variable {α : Type} {id : InstanceID} {reply : Reply (.update machine)}

theorem reads_call {action : Action} {result : Reply action → Except Err α}
    (reads : action.writes = false) : Reads (call action result) :=
  ⟨reads, fun reply => uses_ofExcept (result reply)⟩

variable {program : Code α} {shard : String} {given : Machine}

theorem reads_wrapping {context : String} (reads : Reads program) :
    Reads (wrapping context program) :=
  reads.recover fun _ => uses_fail _

theorem reads_onTargets {program : Targets.Code α} : Reads (onTargets program) := by
  have reads : ∀ action, (Action.target action).writes = false := fun _ => rfl
  exact uses_embed (J := interface) reads program

theorem reads_getInstanceStatus {tenant : Tenant} : Reads (getInstanceStatus tenant id) := by
  refine (reads_wrapping reads_onTargets).bind fun inst => ?_
  split
  · exact uses_fail _
  split
  · exact uses_fail _
  split
  · exact uses_fail _
  · exact reads_wrapping (reads_call rfl)

theorem reads_deleteInstance : Reads (deleteInstance config client id) := by
  refine (reads_wrapping (uses_ofExcept client)).bind fun tenant => ?_
  split
  · exact uses_fail _
  refine ((reads_getInstanceStatus.bind fun _ => uses_pure _).recover fun cause => ?_).bind
    fun found => ?_
  · split
    · exact uses_fail _
    · exact uses_pure _
  · split
    · exact uses_pure _
    · exact uses_pure _
    · exact uses_pure _
    · exact (reads_onTargets.recover fun _ => uses_fail _).bind fun _ => uses_pure _

theorem reads_deleteOnShard : Reads (deleteOnShard config client shard id) := by
  refine ⟨rfl, fun connections => ?_⟩
  cases (connections : Option (List String)) with
  | none => exact uses_fail _
  | some shards =>
    show Reads (if shard ∈ shards then _ else _)
    split
    · exact reads_wrapping ((reads_call rfl).bind fun _ => reads_deleteInstance.bind fun _ =>
        reads_call rfl)
    · exact uses_fail _

theorem told_of_deleteOnShard (blind : Blind id notes)
    (ends : (deleteOnShard config client shard id).Ends (world vms) (.ok ()) last notes) :
    Told vms id last := by
  obtain ⟨connections, _, ⟨_, _, ⟨_, rfl⟩, _, rfl⟩, ends⟩ := (ends_bind _).mp ends
  split at ends
  · exact (not_ends_fail ends).elim
  split at ends
  · obtain ⟨_, _, sent, ends⟩ := (ends_bind _).mp ((ends_recover_fail _).mp ends)
    obtain ⟨_, _, _, rfl⟩ := ends_call.mp sent
    obtain ⟨_, _, served, ends⟩ := (ends_bind _).mp ends
    obtain ⟨_, _, _, rfl⟩ := ends_call.mp ends
    have told := told_of_deleteInstance
      ((blind.cons (silent_of_not_asks rfl)).cons (silent_of_not_asks rfl)) served
    exact told.cons (silent_of_not_asks rfl)
  · exact (not_ends_fail ends).elim

/-- Nothing was changed so far. -/
def Unwritten (notes : Journal) : Prop := ∀ exchange ∈ notes, exchange.1.writes = false

theorem Unwritten.of_reads {result : Except Err α} (reads : Reads program)
    (ends : program.Ends (world vms) result last notes) (unwritten : Unwritten notes) :
    Unwritten last := by
  intro exchange mem
  rcases ends.mem_or_used reads mem with mem | read
  · exact unwritten exchange mem
  · exact read

theorem Unwritten.not_mem (unwritten : Unwritten notes) : ⟨.update machine, reply⟩ ∉ notes := by
  intro mem
  cases unwritten _ mem

theorem told_of_cleanUp (unwritten : Unwritten notes) (blind : Blind given.instanceID notes)
    (recorded : machine.instanceID ≠ "")
    (ends : (cleanUp config client given).Ends (world vms) result last notes)
    (written : ⟨.update machine, reply⟩ ∈ last) : Told vms machine.instanceID last := by
  have reads : Reads (if given.instanceID = "" then (pure () : Code Unit)
      else if given.hasCondition "ServerDeleted" then pure ()
      else if given.shard = "" then pure ()
      else deleteOnShard config client given.shard given.instanceID) := by
    split
    · exact uses_pure _
    split
    · exact uses_pure _
    split
    · exact uses_pure _
    · exact reads_deleteOnShard
  rcases (ends_bind_iff _).mp ends with ⟨_, _, failed⟩ | ⟨_, middle, deleted, ends⟩
  · exact absurd written (unwritten.of_reads reads failed).not_mem
  have told : given.instanceID ≠ "" → Told vms given.instanceID middle := by
    intro named
    rw [if_neg named] at deleted
    split at deleted
    · obtain ⟨_, rfl⟩ := deleted
      exact .inr blind
    split at deleted
    · obtain ⟨_, rfl⟩ := deleted
      exact .inr blind
    · exact told_of_deleteOnShard blind deleted
  obtain ⟨reply', _, _, rfl⟩ := ends_call.mp ends
  rcases List.mem_cons.mp written with same | mem
  · cases same
    exact (told recorded).cons (silent_of_not_asks rfl)
  · exact absurd mem (unwritten.of_reads reads deleted).not_mem

theorem not_removed_of_keepUp (unwritten : Unwritten notes) (removed : machine.finalizer = false)
    (ends : (keepUp given).Ends (world vms) result last notes) :
    ⟨.update machine, reply⟩ ∉ last := by
  unfold keepUp at ends
  split at ends
  · split at ends
    · exact (unwritten.of_reads ((reads_call rfl).bind fun _ => reads_call rfl) ends).not_mem
    · exact (unwritten.of_reads (reads_call rfl) ends).not_mem
  obtain ⟨_, _, _, rfl⟩ := ends_call.mp ends
  intro written
  rcases List.mem_cons.mp written with same | mem
  · cases same
    cases removed
  · exact unwritten.not_mem mem

theorem told_of_reconcile (recorded : machine.instanceID ≠ "") (removed : machine.finalizer = false)
    (ends : (reconcile config client).Ends (world vms) result last [])
    (written : ⟨.update machine, reply⟩ ∈ last) : Told vms machine.instanceID last := by
  have start : ∀ {reply}, Unwritten [⟨.getMachine, reply⟩] := by
    intro reply exchange mem
    rw [List.mem_singleton.mp mem]
    rfl
  have blind : ∀ {id reply}, Blind id [⟨.getMachine, reply⟩] := by
    intro id reply exchange mem
    rw [List.mem_singleton.mp mem]
    exact silent_of_not_asks rfl
  rcases (ends_bind_iff _).mp ends with ⟨_, _, failed⟩ | ⟨found, _, got, ends⟩
  · obtain ⟨_, _, _, rfl⟩ := ends_call.mp failed
    exact absurd written start.not_mem
  obtain ⟨_, _, same, rfl⟩ := ends_call.mp got
  cases same
  split at ends
  · obtain ⟨_, rfl⟩ := ends
    exact absurd written start.not_mem
  split at ends
  · split at ends
    · exact told_of_cleanUp start blind recorded ends written
    · obtain ⟨_, rfl⟩ := ends
      exact absurd written start.not_mem
  · exact absurd written (not_removed_of_keepUp start removed ends)

end

/-! ## Successful deletions -/

/-- **A deletion that succeeds has attended to the virtual machine**, for the RPC and for
the finalizer, exactly if that was so before or the provider has answered the query of
its status. -/
theorem deletion_attended_iff (vms : VMs) (config : Targets.Config) (client : Except Err Tenant)
    (history : Journal) :
    (∀ id status run, (deleteInstance config client id).Ends (world vms) (.ok status) run [] →
      (Attended vms id (run ++ history) ↔ Attended vms id history ∨ Answered id run)) ∧
    ∀ result run machine reply, (reconcile config client).Ends (world vms) result run [] →
      ⟨.update machine, reply⟩ ∈ run → machine.finalizer = false → machine.instanceID ≠ "" →
        (Attended vms machine.instanceID (run ++ history) ↔
          Attended vms machine.instanceID history ∨ Answered machine.instanceID run) := by
  constructor
  · intro id status run ends
    have blind : Blind id [] := by
      intro exchange mem
      cases mem
    exact (told_of_deleteInstance blind ends).attended_iff history
  · intro result run machine reply ends written removed recorded
    exact (told_of_reconcile recorded removed ends written).attended_iff history

/-! ## A query that times out -/

namespace Timeout

/-- A row with a virtual machine. -/
def row : Targets.Instance where
  id := id
  tenant := "acme"
  group := "web"
  providerID := some "vm"

/-- A machine that is being deleted. -/
def machine : Machine where
  deleting := true
  finalizer := true
  instanceID := "i"
  shard := "s1"

/-- Everything succeeds. -/
def targetsAnswer : (action : Targets.Action) → Targets.Reply action
  | .lock => ()
  | .unlock => ()
  | .getInstance id => .ok (row id)
  | .markDrainStarted _ => .ok ()
  | .deleteInstance _ => .ok ()
  | .getProviderIDsByGroup _ _ => .ok []
  | .upsertLBInstance _ _ _ => .ok ()
  | .getPendingOrFailedLBInstances => .ok []
  | .getLBInstancesForInstance _ => .ok []
  | .deleteLBInstancesForInstance _ => .ok ()
  | .getGroup _ _ => .ok []
  | .targetRegistrationBlocked _ => false
  | .tenantAsleep _ => false
  | .getLBTargetState _ => .ok .deregistered
  | .waitNotAccepting _ => .ok ()
  | .registerWithLB _ _ => .ok ()
  | .deregisterFromLB _ => .ok ()
  | .deleteVM _ _ => .ok ()

variable (status : Except Err ProviderStatus)

/-- Everything goes well, but for the query of the status. -/
def answer : (action : Action) → Reply action
  | .target action => targetsAnswer action
  | .getInstanceStatus _ _ => status
  | .getMachine => .ok (some machine)
  | .connections => some ["s1"]
  | .send _ _ => .ok ()
  | .receive => .ok ()
  | .update _ => .ok ()
  | .createInstance _ => .ok ("i", "s1")
  | .updateStatus _ => .ok ()
  | .updateInstanceStatus _ => .ok ()

/-- Every instance has one virtual machine. -/
def vms : VMs := fun _ => some "vm"

theorem truthful (action : Action) : Truthful vms action (answer status action) := by
  cases action with
  | target action =>
    cases action with
    | getInstance id =>
      refine ⟨rfl, fun vm recorded _ => ?_⟩
      cases recorded
      rfl
    | _ => trivial
  | _ => trivial

/-- The provider does not answer. -/
def served : Journal :=
  [⟨.getInstanceStatus "i" "vm", (.error (.message "timeout") : Except Err ProviderStatus)⟩,
    ⟨.target (.getInstance "i"), (.ok (row "i") : Except Err Targets.Instance)⟩]

/-- The exchanges of `Reconcile`. -/
def cleaned : Journal :=
  ⟨.update { machine with finalizer := false }, (.ok () : Except Err Unit)⟩ ::
    ⟨.receive, (.ok () : Except Err Unit)⟩ :: served ++
      [⟨.send "s1" "i", (.ok () : Except Err Unit)⟩, ⟨.connections, some ["s1"]⟩,
        ⟨.getMachine, (.ok (some machine) : Except Err (Option Machine))⟩]

theorem blind_nil : Blind "i" [] := by
  intro exchange mem
  cases mem

theorem blind_served {notes : Journal} (blind : Blind "i" notes) : Blind "i" (served ++ notes) := by
  refine (blind.cons (silent_of_not_asks rfl)).cons ⟨?_, ?_⟩
  · rintro (_ | ⟨missing⟩)
    cases missing
  · rintro vm (_ | _ | _ | ⟨missing⟩)
    cases missing

theorem blind_cleaned : Blind "i" cleaned := by
  refine ((blind_served ?_).cons (silent_of_not_asks rfl)).cons (silent_of_not_asks rfl)
  exact ((blind_nil.cons (silent_of_not_asks rfl)).cons (silent_of_not_asks rfl)).cons
    (silent_of_not_asks rfl)

theorem not_attended_of_blind {notes : Journal} (blind : Blind "i" notes) :
    ¬ Attended vms "i" notes := by
  intro attended
  obtain ⟨exchange, mem, tells⟩ := attended "vm" rfl
  exact (blind exchange mem).2 "vm" tells

/-- The status query times out, and the finalizer goes with the VM unattended. -/
theorem finalizer_removed_unattended :
    (∃ run, (deleteInstance {} (.ok "acme") "i").Ends (world vms) (.ok .unknown) run [] ∧
      ¬ Attended vms "i" run) ∧
    ∃ run reply, (reconcile {} (.ok "acme")).Ends (world vms) (.ok ()) run [] ∧
      ⟨.update { machine with finalizer := false }, reply⟩ ∈ run ∧ ¬ Attended vms "i" run := by
  have unanswered := truthful (.error (.message "timeout"))
  constructor
  · exact ⟨served, ends_of_follow unanswered rfl, not_attended_of_blind (blind_served blind_nil)⟩
  · exact ⟨cleaned, _, ends_of_follow unanswered rfl, List.mem_cons_self,
      not_attended_of_blind blind_cleaned⟩

theorem attended_when_answered :
    (∃ run, (deleteInstance {} (.ok "acme") "i").Ends (world vms) (.ok .deleting) run [] ∧
      Attended vms "i" (run ++ [])) ∧
    ∃ run reply, (reconcile {} (.ok "acme")).Ends (world vms) (.ok ()) run [] ∧
      ⟨.update { machine with finalizer := false }, reply⟩ ∈ run ∧
      Attended vms "i" (run ++ []) := by
  have answered := truthful (.ok .other)
  have attended := deletion_attended_iff vms {} (.ok "acme") []
  constructor
  · have ends : (deleteInstance {} (.ok "acme") "i").Ends (world vms) (.ok .deleting) _ [] :=
      ends_of_follow answered rfl
    exact ⟨_, ends, (attended.1 "i" _ _ ends).mpr
      (.inr ⟨_, List.mem_of_getElem? (i := 8) rfl, .status⟩)⟩
  · have ends : (reconcile {} (.ok "acme")).Ends (world vms) (.ok ()) _ [] :=
      ends_of_follow answered rfl
    exact ⟨_, _, ends, List.mem_cons_self, (attended.2 _ _ _ _ ends List.mem_cons_self rfl
      (by decide)).mpr (.inr ⟨_, List.mem_of_getElem? (i := 10) rfl, .status⟩)⟩

end Timeout

end Nstance.Machines
