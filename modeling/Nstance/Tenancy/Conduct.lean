import Nstance.Interaction.Lore
import Nstance.Tenancy.Operations

/-!
# What the calls of a tenant do

A tenant's calls, and the events they set off, write groups, sleep entries, new rows and
records only for that tenant (`Owns`), existing rows only under an identifier that the tenant
has had a row under, and delete only virtual machines that such a row has recorded. They rely
on what the replies tell about rows (`Teaches`; `safe_serve`, `safe_handleEvent`).
-/

namespace Nstance.Tenancy

open Interaction Interaction.Lore Objects
open Careful (seq)
open Nstance.Configuration (GroupConfig)
open Nstance.Instances (InstanceID Tenant GroupKey ProviderID Time Duration Row InstanceRecord
  Setting)
open TenantState (Err)

variable {T J F : Type}

/-! ## Holdings -/

/-- The IDs and virtual machines that a tenant has had. -/
structure Holdings where
  ids : InstanceID → Prop
  vms : InstanceID → ProviderID → Prop

instance : Preorder Holdings where
  le held more := (∀ id, held.ids id → more.ids id) ∧ ∀ id vm, held.vms id vm → more.vms id vm
  le_refl _ := ⟨fun _ here => here, fun _ _ here => here⟩
  le_trans _ _ _ first second :=
    ⟨fun id here => second.1 id (first.1 id here),
      fun id vm here => second.2 id vm (first.2 id vm here)⟩

section

variable (A : Tenant)

/-- The events that the tenant's calls may enqueue. -/
def EventType.Of (held : Holdings) : EventType → Prop
  | .checkInstance id => held.ids id
  | .groupChanged tenant _ => tenant = A
  | .drainAcked tenant id => tenant = A ∧ held.ids id
  | .tenantChanged tenant => tenant = A

theorem EventType.Of.mono {A : Tenant} {held more : Holdings} (grown : held ≤ more)
    {type : EventType} (of : type.Of A held) : type.Of A more := by
  cases type with
  | checkInstance id => exact grown.1 id of
  | groupChanged | tenantChanged => exact of
  | drainAcked tenant id => exact ⟨of.1, grown.1 id of.2⟩

/-- The actions that the tenant's calls may perform, given what the tenant has had. -/
def Owns : Action T J F → Holdings → Prop
  | .updateDynamicGroup _ tenant _ _, _ => tenant = A
  | .deleteDynamicGroup tenant _, _ => tenant = A
  | .tenantState tenant _, _ => tenant = A
  | .createInstance _ row, _ => row.tenant = A
  | .updateInstance id _, held => held.ids id
  | .updateInstanceProviderState id _, held => held.ids id
  | .markDrainStarted id, held => held.ids id
  | .markDrainAcked id, held => held.ids id
  | .deleteInstance id, held => held.ids id
  | .storeInstanceRecord record, _ => record.tenant = A
  | .createVM record, _ => record.tenant = A
  | .deleteVM id vm, held => held.vms id vm
  | .enqueue event, held => event.type.Of A held
  | _, _ => True

theorem Owns.mono {A : Tenant} {action : Action T J F} {held more : Holdings}
    (grown : held ≤ more) (owns : Owns A action held) : Owns A action more := by
  cases action with
  | updateInstance id given | updateInstanceProviderState id status => exact grown.1 id owns
  | markDrainStarted id | markDrainAcked id | deleteInstance id => exact grown.1 id owns
  | deleteVM id vm => exact grown.2 id vm owns
  | enqueue event => exact EventType.Of.mono grown owns
  | _ => exact owns

/-- What the replies tell about what the tenant has had. -/
def Teaches : (action : Action T J F) → Reply action → Holdings → Prop
  | .getInstance id, .ok row, held =>
    (held.ids id → row.tenant = A) ∧
      (row.tenant = A → held.ids id ∧ ∀ vm, row.providerID = some vm → held.vms id vm)
  | .getInstancesByGroup tenant _, .ok ids, held => tenant = A → ∀ id ∈ ids, held.ids id
  | .getInstancesOlderThan _, .ok instances, held =>
    ∀ entry ∈ instances, entry.2.tenant = A → held.ids entry.1
  | .createInstance id row, .ok (), held => row.tenant = A → held.ids id
  | .getInstanceRecord tenant _, .ok record, _ => tenant = A → record.tenant = A
  | .nat .assignments, .ok snapshot, held =>
    ∀ id assignment, held.ids id → snapshot.get id = some assignment → assignment.tenant = A
  | .nat (.store (.claim _ tenant _ _ _ _)), .ok assignment, _ =>
    tenant = A → NAT.Assignment.tenant assignment = A
  | _, _, _ => True

/-- What actions need and teach. -/
def lore : Lore (interface T J F) Holdings where
  Allowed := Owns A
  Learned := Teaches A

/-- The same for the NAT manager. -/
def natLore : Lore NAT.interface Holdings where
  Allowed
    | .createNATInstance request, _ => request.tenant = A
    | .deleteInstance tenant _, _ => tenant = A
    | _, _ => True
  Learned
    | .assignments, .ok snapshot, held =>
      ∀ id assignment, held.ids id → snapshot.get id = some assignment → assignment.tenant = A
    | .store (.claim _ tenant _ _ _ _), .ok assignment, _ =>
      tenant = A → NAT.Assignment.tenant assignment = A
    | _, _, _ => True

/-- The tenant state manager is given a tenant, and may do with it what it likes. -/
def freeLore : Lore TenantState.interface Holdings where
  Allowed _ _ := True
  Learned _ _ _ := True

end

variable {A : Tenant} {held : Holdings} {α : Type} {post : α → Holdings → Prop}

/-! ## Single actions -/

variable {action : Action T J F} {result : Reply action → Except Err α}

theorem careful_call (owns : Owns A action held)
    (then_ : ∀ reply held', held ≤ held' → Teaches A action reply held' → ∀ value,
      result reply = .ok value → post value held') :
    (lore A).Careful post (call action result) held :=
  careful_perform owns fun reply held' grown learned =>
    careful_ofExcept (then_ reply held' grown learned)

theorem safe_call (owns : Owns A action held) : (lore A).Safe (call action result) held :=
  careful_call owns fun _ _ _ _ _ _ => trivial

theorem careful_reply (action : Action T J F) {post : Reply action → Holdings → Prop}
    (owns : Owns A action held)
    (then_ : ∀ reply held', held ≤ held' → Teaches A action reply held' → post reply held') :
    (lore A).Careful post (act action) held :=
  careful_act owns then_

theorem safe_act (owns : Owns A action held) : (lore A).Safe (act action) held :=
  careful_reply action owns fun _ _ _ _ => trivial

variable {context : String} {prepare : Tenant → String → Code T J F Unit}

theorem careful_wrapping {program : Code T J F α} (careful : (lore A).Careful post program held) :
    (lore A).Careful post (wrapping context program) held :=
  careful.recover fun _ _ _ => trivial

theorem safe_ite {c : Prop} [Decidable c] {yes no : Code T J F α}
    (whenYes : c → (lore A).Careful post yes held) (whenNo : ¬ c → (lore A).Careful post no held) :
    (lore A).Careful post (if c then yes else no) held := by
  split
  · exact whenYes ‹_›
  · exact whenNo ‹_›

theorem safe_guard {c : Prop} [Decidable c] {error : Err} {no : Code T J F α}
    (careful : ¬ c → (lore A).Careful post no held) :
    (lore A).Careful post (if c then .fail error else no) held :=
  safe_ite (fun _ => trivial) careful

/-- What a row that was read teaches. -/
def RowTeaches (A : Tenant) (id : InstanceID) (row : Row T) (held : Holdings) : Prop :=
  (held.ids id → row.tenant = A) ∧
    (row.tenant = A → held.ids id ∧ ∀ vm, row.providerID = some vm → held.vms id vm)

variable (id : InstanceID)

theorem careful_getInstance :
    (lore A).Careful (fun found held' => ∀ row, found = .ok row → RowTeaches A id row held')
      (getInstance id : Code T J F (Except Err (Row T))) held := by
  refine careful_reply (.getInstance id) trivial ?_
  intro reply held' _ learned row same
  subst same
  exact learned

theorem careful_readInstance : (lore A).Careful (fun row held' => RowTeaches A id row held')
      (wrapping context (call (.getInstance id) fun reply => reply) : Code T J F (Row T)) held := by
  refine careful_wrapping (careful_call trivial ?_)
  intro reply held' _ learned row same
  subst same
  exact learned

theorem safe_getCurrent : (lore A).Safe (getCurrent : Code T J F (Config F)) held :=
  safe_act trivial

theorem safe_getGroup (tenant : Tenant) (key : GroupKey) :
    (lore A).Safe (getGroup tenant key : Code T J F _) held :=
  safe_act trivial

theorem safe_isAsleep (tenant : Tenant) : (lore A).Safe (isAsleep tenant : Code T J F Bool) held :=
  safe_act trivial

theorem safe_now : (lore A).Safe (now : Code T J F Time) held := safe_act trivial

theorem safe_enqueue {event : Event} (of : event.type.Of A held) :
    (lore A).Safe (enqueue event : Code T J F Unit) held :=
  safe_act of

variable (key : GroupKey)

theorem careful_getGroupInstances :
    (lore A).Careful (fun found held' => ∀ ids, found = .ok ids → ∀ id ∈ ids, held'.ids id)
      (getGroupInstances A key : Code T J F _) held := by
  refine careful_reply (.getInstancesByGroup A key) trivial ?_
  intro reply held' _ learned ids same
  subst same
  exact learned rfl

/-! ## The instance manager -/

theorem safe_provision {record : InstanceRecord T} (own : record.tenant = A) :
    (lore A).Safe (provision record : Code T J F _) held := by
  refine Careful.bind (P := fun _ held' => held'.ids record.instanceID)
    (careful_wrapping (careful_call own ?_)) ?_
  · intro reply held' _ learned value same
    subst same
    exact learned own
  intro _ held₁ _ inserted
  refine seq (careful_wrapping (safe_call own)) fun _ _ grown₂ => ?_
  refine seq (careful_wrapping (safe_call own)) fun response _ grown₃ => ?_
  refine safe_guard fun _ => ?_
  refine seq safe_now fun launchedAt _ grown₄ => ?_
  refine seq (safe_act own) fun _ _ grown₅ => ?_
  refine seq safe_now fun providerAt held₆ grown₆ => ?_
  have kept : held₁ ≤ held₆ :=
    grown₂.trans (grown₃.trans (grown₄.trans (grown₅.trans grown₆)))
  exact seq (careful_wrapping (safe_call (kept.1 _ inserted))) fun _ _ _ => trivial

theorem safe_placement (prepares : ∀ subnetID held, (lore A).Safe (prepare A subnetID) held)
    (pool : String) : (lore A).Safe (placement prepare A pool) held := by
  refine seq (careful_wrapping (safe_call trivial)) fun subnetID held₁ _ => ?_
  refine Careful.bind (prepares subnetID held₁).tried fun prepared _ _ _ => ?_
  cases prepared with
  | ok value => exact trivial
  | error error =>
    refine safe_ite (fun _ => ?_) fun _ => trivial
    refine seq (Careful.recover (safe_call trivial) fun _ _ _ => trivial) fun fallback held₃ _ => ?_
    refine safe_guard fun _ => ?_
    exact seq (careful_wrapping (prepares fallback held₃)) fun _ _ _ => trivial

variable {request : CreateInstanceRequest}

theorem safe_createPlaced {D : Setting T}
    (prepares : ∀ subnetID held, (lore A).Safe (prepare A subnetID) held)
    (own : request.tenant = A) :
    (lore A).Safe (createPlaced D prepare request) held := by
  refine safe_guard fun _ => safe_guard fun _ => ?_
  refine seq safe_getCurrent fun currentConfig _ _ => ?_
  refine seq (safe_getGroup _ _) fun found _ _ => ?_
  cases found with
  | error error => exact trivial
  | ok group =>
    dsimp only
    split
    · trivial
    refine seq (safe_ite (fun _ => trivial)
      fun _ => careful_wrapping (safe_call trivial)) fun id _ _ => ?_
    refine seq (careful_wrapping (safe_call trivial)) fun merged _ _ => ?_
    refine seq safe_now fun signedAt _ _ => ?_
    refine seq (careful_wrapping (safe_call trivial)) fun token _ _ => ?_
    refine seq (careful_wrapping (safe_call trivial)) fun _ _ _ => ?_
    refine seq (careful_wrapping (safe_call trivial)) fun _ _ _ => ?_
    refine safe_guard fun _ => ?_
    rw [own]
    refine seq (safe_placement prepares _) fun subnetID _ _ => ?_
    exact seq safe_now fun createdAt _ _ => safe_provision rfl

theorem safe_deleteInstance : (lore A).Safe (deleteInstance A id : Code T J F Unit) held := by
  refine Careful.bind (careful_readInstance id) fun inst held₁ _ learned => ?_
  refine safe_guard fun own => ?_
  have own : inst.tenant = A := not_not.mp own
  obtain ⟨mine, machines⟩ := learned.2 own
  cases recorded : inst.providerID.filter (· ≠ "") with
  | none => exact trivial
  | some vm =>
    have machine : held₁.vms id vm := machines vm (Option.eq_some_of_filter_eq_some recorded)
    refine seq (safe_ite (fun _ => trivial)
      fun _ => careful_wrapping (safe_call mine)) fun _ _ grown₂ => ?_
    refine seq (careful_wrapping (safe_call trivial)) fun _ held₃ grown₃ => ?_
    have machine₃ : held₃.vms id vm := (grown₂.trans grown₃).2 id vm machine
    refine seq (Careful.recover (safe_call machine₃) fun cause _ _ =>
      safe_ite (fun _ => trivial) fun _ => trivial) fun _ _ grown₄ => ?_
    refine seq (safe_act trivial) fun _ _ grown₅ => ?_
    refine seq (Careful.recover ?_ fun _ _ _ => trivial) fun _ held₆ grown₆ => ?_
    · refine Careful.bind (P := fun record _ => record.tenant = A)
        (careful_call trivial ?_) fun record held₆ _ same => ?_
      · intro reply held' _ learned record same
        subst same
        exact learned own
      · exact seq safe_now fun updatedAt _ _ => safe_call same
    · have kept : held₁ ≤ held₆ :=
        grown₂.trans (grown₃.trans (grown₄.trans (grown₅.trans grown₆)))
      exact seq (safe_act (kept.1 id mine)) fun _ _ _ => trivial

/-! ## The NAT manager -/

section

open NAT.Manager (attempt)

theorem safe_attempt {action : NAT.Action} {read : NAT.Reply action → Except NAT.Err α}
    (allowed : (natLore A).Allowed action held) : (natLore A).Safe (attempt action read) held :=
  careful_perform allowed fun _ _ _ _ => careful_ofExcept fun _ _ => trivial

theorem safe_natAct {action : NAT.Action} (allowed : (natLore A).Allowed action held) :
    (natLore A).Safe (NAT.Manager.act action) held :=
  careful_act allowed fun _ _ _ _ => trivial

variable {context : String} {cfg : NAT.Config} {natConfig : NAT.NATConfig}

theorem safe_natWrapping {program : NAT.Code α} (safe : (natLore A).Safe program held) :
    (natLore A).Safe (NAT.Manager.wrapping context program) held :=
  safe.recover fun _ _ _ => trivial

theorem safe_found {reply : Except NAT.Err NAT.Instance} :
    (natLore A).Safe (NAT.Manager.found context reply) held := by
  cases reply with
  | ok inst => trivial
  | error error =>
    rw [NAT.Manager.found]
    split <;> trivial

theorem safe_startReplacement {current : NAT.Assignment} (own : current.tenant = A)
    (instanceType : String) (now : NAT.Time) :
    (natLore A).Safe (NAT.Manager.startReplacement cfg natConfig current instanceType now)
      held := by
  refine seq (safe_natWrapping (safe_attempt trivial)) fun id _ _ => ?_
  refine seq (safe_attempt trivial) fun replacement _ _ => ?_
  split
  · trivial
  refine seq (Careful.recover (safe_attempt own) fun error held₃ _ => ?_) fun _ held₃ _ => ?_
  · exact seq (Careful.recover (safe_attempt trivial) fun _ _ _ => trivial) fun _ _ _ => trivial
  · exact seq (safe_natAct trivial) fun memory _ _ => safe_natAct trivial

theorem safe_prepareAssignment {snapshot : NAT.Assignments} {assignment : NAT.Assignment}
    (own : assignment.tenant = A) :
    (natLore A).Safe (NAT.Manager.prepareAssignment cfg natConfig A snapshot assignment) held := by
  refine seq (safe_natAct trivial) fun reply _ _ => ?_
  refine seq safe_found fun inst _ _ => ?_
  split
  · exact seq (safe_natWrapping (safe_attempt rfl)) fun _ _ _ => trivial
  split
  · refine seq (safe_natAct trivial) fun now held₃ _ => ?_
    exact seq (safe_startReplacement own _ _) fun _ _ _ => trivial
  refine seq (safe_natAct trivial) fun now held₃ _ => ?_
  split
  · trivial
  split
  · trivial
  refine seq (seq (safe_natWrapping (safe_attempt trivial))
    fun _ _ _ => safe_attempt trivial) fun _ _ _ => ?_
  exact safe_natWrapping (safe_attempt trivial)

theorem safe_natPrepareSubnet (subnetID : String) :
    (natLore A).Safe (NAT.Manager.prepareSubnet A subnetID) held := by
  refine seq (safe_natAct trivial) fun cfg _ _ => ?_
  split
  · trivial
  refine seq (safe_attempt trivial) fun snapshot _ _ => ?_
  refine seq (safe_natAct trivial) fun entries _ _ => ?_
  split
  · rename_i assignment picked
    have wanted := List.find?_some (Option.eq_some_of_filter_eq_some picked)
    apply safe_prepareAssignment
    simp only [NAT.Manager.serves, Bool.and_eq_true, decide_eq_true_eq] at wanted
    exact wanted.1.1
  refine Careful.bind (P := fun assignment _ => assignment.tenant = A) ?_
    fun assignment held₄ _ own => safe_prepareAssignment own
  refine seq (safe_natWrapping (safe_attempt trivial)) fun id held₄ _ => ?_
  refine seq (safe_natAct trivial) fun now _ _ => ?_
  refine Careful.recover ?_ fun error held₆ _ => ?_
  · refine careful_perform trivial fun reply held₆ _ learned => careful_ofExcept ?_
    intro assignment same
    subst same
    exact learned rfl
  · split <;> trivial

theorem safe_natReplaceInstance {id : InstanceID} (mine : held.ids id) :
    (natLore A).Safe (NAT.Manager.replaceInstance id) held := by
  refine Careful.bind (P := fun snapshot _ => ∀ assignment,
    NAT.Assignments.get snapshot id = some assignment → assignment.tenant = A) ?_
    fun snapshot held₁ _ own => ?_
  · refine careful_perform trivial fun reply held₁ grown learned => careful_ofExcept ?_
    intro snapshot same assignment there
    subst same
    exact learned id assignment (grown.1 id mine) there
  split
  · trivial
  rename_i assignment there
  split
  · trivial
  refine seq (safe_natAct trivial) fun cfg _ _ => ?_
  split
  · trivial
  exact seq (safe_natAct trivial) fun now _ _ =>
    safe_startReplacement (own assignment there) _ _

variable {D : Setting T}

theorem safe_createNATInstance {request : NAT.CreateInstanceRequest} (own : request.tenant = A) :
    (lore A).Safe (createNATInstance D request : Code T J F Unit) held := by
  refine seq safe_getCurrent fun current _ _ => ?_
  split
  · trivial
  exact seq (safe_createPlaced (fun _ _ => safe_pure) own) fun _ _ _ => trivial

theorem careful_onNAT (action : NAT.Action) (held : Holdings)
    (allowed : (natLore A).Allowed action held) :
    (lore A).Careful ((natLore A).Learned action)
      (onNAT D action : Code T J F (NAT.Reply action)) held := by
  cases action with
  | getInstance id =>
    exact seq (safe_act trivial) fun _ _ _ => trivial
  | createNATInstance request =>
    exact Careful.bind (safe_createNATInstance allowed).tried fun _ _ _ _ => trivial
  | deleteInstance tenant id =>
    have own : tenant = A := allowed
    subst own
    exact Careful.bind (safe_deleteInstance id).tried fun _ _ _ _ => trivial
  | assignments =>
    refine careful_reply (.nat .assignments) trivial fun reply held' _ learned => ?_
    cases reply <;> exact learned
  | store call =>
    refine careful_reply (.nat (.store call)) trivial fun reply held' _ learned => ?_
    cases call <;> cases reply <;> exact learned
  | tenantAsleep tenant => exact safe_isAsleep tenant
  | now => exact safe_now
  | getCurrent | listInstances | range | newID | ensureNATRoute | removeNATRoute | readMemory |
      remember =>
    exact safe_act trivial

theorem safe_prepareSubnet (subnetID : String) (held : Holdings) :
    (lore A).Safe (prepareSubnet D A subnetID : Code T J F Unit) held :=
  (safe_natPrepareSubnet subnetID).interpret careful_onNAT

theorem safe_natReplacementHandler {id : InstanceID} (mine : held.ids id) :
    (lore A).Safe (natReplacementHandler D id : Code T J F Unit) held :=
  (safe_natReplaceInstance mine).interpret careful_onNAT

theorem safe_createInstance (own : request.tenant = A) :
    (lore A).Safe (createInstance D request : Code T J F _) held :=
  safe_createPlaced safe_prepareSubnet own

end

/-! ## The tenant state manager -/

theorem safe_notifyChanged (update : TenantState.Update) (reply : Except Err TenantState.Updated) :
    (lore A).Safe (notifyChanged A update reply : Code T J F Unit) held := by
  cases reply with
  | ok updated => exact safe_ite (fun _ => safe_enqueue rfl) fun _ => trivial
  | error error => trivial

variable {create : Code T J F Unit}

theorem safe_onTenant (creates : ∀ held, (lore A).Safe create held) (action : TenantState.Action)
    (held : Holdings) : (lore A).Safe (onTenant A create action) held := by
  cases action with
  | update update =>
    refine seq (safe_act rfl) fun reply _ _ => ?_
    exact seq (safe_notifyChanged update reply) fun _ _ _ => trivial
  | createInstance => exact (creates held).tried.imp fun _ _ _ => trivial
  | hasOnDemandInstances => exact safe_act trivial
  | transition | isAsleep | now | ctxErr | call | enter | callback => exact safe_act rfl

theorem safe_tenantState {program : TenantState.Code α} {report : Err → Err}
    (creates : ∀ held, (lore A).Safe create held) :
    (lore A).Safe (program.interpret (onTenant A create) report) held :=
  (safe_of_free (L := freeLore) (fun _ _ => trivial) program held).interpret
    fun action held _ => safe_onTenant creates action held

/-! ## The reconciler -/

section

variable {D : Setting T} (group : GroupConfig Unit)

theorem safe_createInstanceForGroup (allowOversize : Bool) :
    (lore A).Safe (createInstanceForGroup D A key group allowOversize : Code T J F _) held := by
  refine seq (safe_isAsleep A) fun asleep _ _ => ?_
  refine safe_guard fun _ => ?_
  refine seq (careful_wrapping (safe_call trivial)) fun count _ _ => ?_
  refine safe_guard fun _ => ?_
  refine seq (safe_isAsleep A) fun asleep _ _ => ?_
  exact safe_guard fun _ => careful_wrapping (safe_createInstance rfl)

theorem safe_scaleUp (count : Nat) :
    ∀ held, (lore A).Safe (scaleUp D A key group count : Code T J F Unit) held := by
  induction count with
  | zero => exact fun _ => trivial
  | succ count ih =>
    intro held
    refine Careful.bind (safe_createInstanceForGroup key group false).tried
      fun created held₁ _ _ => ?_
    cases created with
    | ok response => exact ih held₁
    | error error => exact safe_ite (fun _ => trivial) fun _ => trivial

theorem safe_scaleDown (ids : List InstanceID) :
    ∀ held, (lore A).Safe (scaleDown A ids : Code T J F Unit) held := by
  induction ids with
  | nil => exact fun _ => trivial
  | cons id rest ih =>
    intro held
    refine Careful.bind (safe_deleteInstance id).tried fun deleted held₁ _ _ => ?_
    refine Careful.bind (ih held₁).tried fun others _ _ _ => ?_
    cases deleted <;> cases others <;> trivial

theorem safe_deleteLogged : (lore A).Safe (deleteLogged A id : Code T J F Unit) held :=
  Careful.bind (safe_deleteInstance id).tried fun _ _ _ _ => trivial

variable {id : InstanceID}

theorem safe_replaceNATInstance (mine : held.ids id) (tenant : Tenant) (key : GroupKey) :
    (lore A).Safe (replaceNATInstance D id tenant key : Code T J F _) held := by
  refine seq safe_getCurrent fun cfg _ grown => ?_
  refine safe_ite (fun _ => ?_) fun _ => trivial
  exact Careful.bind (safe_natReplacementHandler (grown.1 id mine)).tried fun _ _ _ _ => trivial

theorem safe_initiateInstanceDrain (mine : held.ids id) (already : Bool) :
    (lore A).Safe (initiateInstanceDrain id already : Code T J F Unit) held :=
  safe_ite (fun _ => trivial) fun _ => seq (safe_act mine) fun _ _ _ => trivial

theorem safe_replaceAndDrain (mine : held.ids id) (key : GroupKey) (group : GroupConfig Unit)
    (skipDrain : Bool) :
    (lore A).Safe (replaceAndDrain D id A key group skipDrain : Code T J F Unit)
      held := by
  refine seq (safe_replaceNATInstance mine A key) fun handled _ grown₁ => ?_
  refine safe_ite (fun _ => trivial) fun _ => ?_
  refine seq safe_getCurrent fun cfg _ grown₂ => ?_
  refine Careful.bind (safe_createInstanceForGroup key group true).tried
    fun created held₃ grown₃ _ => ?_
  cases created with
  | error error => exact trivial
  | ok response =>
    refine safe_ite (fun _ => safe_deleteLogged id) fun _ => ?_
    have mine₃ : held₃.ids id := (grown₁.trans (grown₂.trans grown₃)).1 id mine
    refine seq (safe_initiateInstanceDrain mine₃ false) fun _ _ grown₄ => ?_
    refine seq safe_now fun timestamp _ grown₅ => ?_
    exact safe_enqueue ((grown₄.trans grown₅).1 id mine₃)

theorem careful_findDrifted (hash : String) (ids : List InstanceID) :
    ∀ (drifted : Option InstanceID) (held : Holdings), (∀ id ∈ ids, held.ids id) →
      (∀ id, drifted = some id → held.ids id) →
        (lore A).Careful (fun found held' => ∀ id, found = some id → held'.ids id)
          (findDrifted hash ids drifted : Code T J F _) held := by
  induction ids with
  | nil => exact fun drifted held _ known => careful_pure known
  | cons id rest ih =>
    intro drifted held mine known
    refine Careful.bind (careful_getInstance id) fun found held₁ grown _ => ?_
    have rest_ : ∀ other ∈ rest, held₁.ids other :=
      fun other mem => grown.1 other (mine other (List.mem_cons_of_mem _ mem))
    have known₁ : ∀ other, drifted = some other → held₁.ids other :=
      fun other same => grown.1 other (known other same)
    cases found with
    | error error => exact ih drifted held₁ rest_ known₁
    | ok inst =>
      refine safe_ite (fun _ => careful_pure fun _ none_ => by cases none_) fun _ => ?_
      refine safe_ite (fun _ => ih _ held₁ rest_ ?_) fun _ => ih drifted held₁ rest_ known₁
      intro other same
      cases drifted with
      | none =>
        cases same
        exact grown.1 id (mine id List.mem_cons_self)
      | some first => exact known₁ other same

theorem safe_checkGroupConfigDrift :
    (lore A).Safe (checkGroupConfigDrift D A key group : Code T J F Unit) held := by
  refine seq (safe_act trivial) fun cached _ _ => ?_
  cases cached with
  | error error => exact trivial
  | ok cached =>
    cases cached with
    | none => exact trivial
    | some hash =>
      refine Careful.bind (careful_getGroupInstances key) fun current held₂ _ listed => ?_
      cases current with
      | error error => exact trivial
      | ok ids =>
        refine Careful.bind (careful_findDrifted hash ids none held₂ (listed ids rfl)
          fun _ none_ => by cases none_) fun drifted _ _ known => ?_
        cases drifted with
        | none => exact trivial
        | some id => exact safe_replaceAndDrain (known id rfl) key group false

theorem safe_expireInstance (mine : held.ids id) :
    (lore A).Safe (expireInstance D id : Code T J F Unit) held := by
  refine Careful.bind (careful_getInstance id) fun found _ grown₁ learned => ?_
  cases found with
  | error error => exact trivial
  | ok inst =>
    have own : inst.tenant = A := (learned inst rfl).1 (grown₁.1 id mine)
    refine seq (safe_getGroup _ _) fun group _ grown₂ => ?_
    cases group with
    | error error => exact trivial
    | ok group =>
      rw [own]
      exact safe_replaceAndDrain ((grown₁.trans grown₂).1 id mine) _ group false

theorem safe_countDraining (ids : List InstanceID) :
    ∀ held, (lore A).Safe (countDraining ids : Code T J F Nat) held := by
  induction ids with
  | nil => exact fun _ => trivial
  | cons id rest ih =>
    intro held
    refine seq (safe_act trivial) fun found held₁ _ => ?_
    refine seq (ih held₁) fun others _ _ => ?_
    cases found <;> trivial

theorem safe_expireOlderThan (age : Duration) :
    (lore A).Safe (expireOlderThan D A key age : Code T J F Bool) held := by
  refine Careful.bind (P := fun found held' => ∀ instances,
    found = Except.ok instances → ∀ entry ∈ instances, entry.2.tenant = A → held'.ids entry.1)
    (careful_reply (.getInstancesOlderThan age) trivial ?_) fun found _ _ listed => ?_
  · intro reply held' _ learned instances same
    subst same
    exact learned
  cases found with
  | error error => exact trivial
  | ok instances =>
    dsimp only
    split
    · trivial
    rename_i entry there
    have own : entry.2.tenant = A := by
      have wanted := List.find?_some there
      simp only [decide_eq_true_eq] at wanted
      exact wanted.1
    have mine := listed instances rfl entry (List.mem_of_find?_eq_some there) own
    exact seq (safe_expireInstance mine) fun _ _ _ => trivial

theorem safe_checkGroupExpiry :
    (lore A).Safe (checkGroupExpiry D A key : Code T J F Unit) held := by
  refine seq safe_getCurrent fun cfg _ _ => ?_
  refine safe_ite (fun _ => trivial) fun _ => ?_
  refine seq (safe_act trivial) fun current _ _ => ?_
  cases current with
  | error error => exact trivial
  | ok ids =>
    refine seq (safe_countDraining ids _) fun draining _ _ => ?_
    refine seq (safe_ite (fun _ => safe_expireOlderThan key _) fun _ => trivial)
      fun expired _ _ => ?_
    exact safe_ite (fun _ => seq (safe_expireOlderThan key _) fun _ _ _ => trivial) fun _ => trivial

theorem safe_scheduleGroupExpiry :
    (lore A).Safe (scheduleGroupExpiry A key : Code T J F Unit) held := by
  refine seq safe_getCurrent fun cfg _ _ => ?_
  refine safe_ite (fun _ => trivial) fun _ => ?_
  refine seq (safe_act trivial) fun oldest _ _ => ?_
  cases oldest with
  | error error => exact trivial
  | ok oldest =>
    cases oldest with
    | none => exact trivial
    | some entry => exact safe_enqueue rfl

theorem safe_handleGroupChanged :
    (lore A).Safe (handleGroupChanged D A key : Code T J F Unit) held := by
  refine seq safe_getCurrent fun cfg _ _ => ?_
  refine safe_ite (fun _ => trivial) fun _ => ?_
  refine seq (careful_wrapping (safe_call trivial)) fun current _ _ => ?_
  refine seq (safe_getGroup _ _) fun found held₃ _ => ?_
  cases found with
  | error error => exact safe_scaleDown current held₃
  | ok group =>
    refine seq (safe_isAsleep A) fun asleep _ _ => ?_
    refine seq (safe_ite (fun _ => safe_scaleUp key group _ _) fun _ => trivial) fun _ _ _ => ?_
    refine seq (safe_ite (fun _ => safe_scaleDown _ _) fun _ => trivial) fun _ _ _ => ?_
    refine safe_ite (fun _ => trivial) fun _ => ?_
    refine seq (safe_checkGroupConfigDrift key group) fun _ _ _ => ?_
    exact seq (safe_checkGroupExpiry key) fun _ _ _ => safe_scheduleGroupExpiry key

theorem safe_handleGroups (keys : List GroupKey) :
    ∀ held, (lore A).Safe (handleGroups D A keys : Code T J F Unit) held := by
  induction keys with
  | nil => exact fun _ => trivial
  | cons key rest ih =>
    intro held
    refine Careful.bind (safe_handleGroupChanged key).tried fun first held₁ _ _ => ?_
    refine Careful.bind (ih held₁).tried fun others _ _ _ => ?_
    cases first <;> cases others <;> trivial

theorem safe_handleTenantChanged :
    (lore A).Safe (handleTenantChanged D A : Code T J F Unit) held := by
  refine seq (careful_wrapping (safe_call trivial)) fun groups _ _ => ?_
  refine seq (careful_wrapping (safe_call trivial)) fun managed _ _ => ?_
  exact seq (safe_act trivial) fun keys held₃ _ => safe_handleGroups keys held₃

theorem safe_handleDrainAcked (mine : held.ids id) :
    (lore A).Safe (handleDrainAcked A id : Code T J F Unit) held :=
  seq (safe_act mine) fun _ _ _ => careful_wrapping (safe_deleteInstance id)

theorem safe_handleDrainCompletion {inst : Row T} (own : inst.tenant = A) (timeout : Duration) :
    (lore A).Safe (handleDrainCompletion id inst timeout : Code T J F Unit) held := by
  unfold handleDrainCompletion
  rw [own]
  refine seq safe_now fun time _ _ => ?_
  refine safe_ite (fun _ => safe_deleteLogged id) fun _ => ?_
  refine safe_ite (fun _ => safe_deleteLogged id) fun _ => ?_
  split
  · trivial
  refine seq (safe_act trivial) fun status _ _ => ?_
  cases status with
  | error | ok => exact safe_ite (fun _ => safe_deleteLogged id) fun _ => trivial

theorem safe_replaceInstance (mine : held.ids id) (skipDrain : Bool) :
    (lore A).Safe (replaceInstance D id skipDrain : Code T J F Unit) held := by
  refine Careful.bind (careful_getInstance id) fun found _ grown₁ learned => ?_
  cases found with
  | error error => exact trivial
  | ok inst =>
    have own : inst.tenant = A := (learned inst rfl).1 (grown₁.1 id mine)
    refine seq (safe_getGroup _ _) fun group _ grown₂ => ?_
    cases group with
    | error error => exact trivial
    | ok group =>
      refine safe_ite (fun _ => seq safe_getCurrent fun cfg _ _ =>
        safe_handleDrainCompletion own _) fun _ => ?_
      rw [own]
      exact safe_replaceAndDrain ((grown₁.trans grown₂).1 id mine) _ group skipDrain

section

variable (mine : held.ids id) (event : Event)
include mine event

theorem safe_scheduleDisconnectFollowUp (inst : Row T) :
    (lore A).Safe (scheduleDisconnectFollowUp event inst id : Code T J F Unit) held :=
  safe_ite (fun _ => trivial) fun _ => safe_ite (fun _ => trivial) fun _ => safe_enqueue mine

theorem safe_checkProvisioned (inst : Row T) :
    (lore A).Safe (checkProvisioned D event id inst : Code T J F Unit) held := by
  unfold checkProvisioned
  split
  · trivial
  refine seq (safe_act trivial) fun status held₁ grown₁ => ?_
  have mine₁ : held₁.ids id := grown₁.1 id mine
  cases status with
  | error error =>
    refine safe_ite (fun _ => ?_) fun _ => safe_scheduleDisconnectFollowUp mine₁ event inst
    exact seq (safe_act mine₁) fun _ _ grown₂ =>
      safe_replaceInstance (grown₂.1 id mine₁) true
  | ok status =>
    refine safe_ite (fun _ => ?_) fun _ => ?_
    · exact seq (safe_act mine₁) fun _ _ grown₂ =>
        safe_replaceInstance (grown₂.1 id mine₁) true
    refine seq safe_getCurrent fun cfg _ grown₂ => ?_
    refine seq safe_now fun time held₃ grown₃ => ?_
    have mine₃ : held₃.ids id := (grown₂.trans grown₃).1 id mine₁
    refine safe_ite (fun _ => safe_replaceInstance mine₃ false) fun _ => ?_
    exact safe_ite (fun _ => safe_scheduleDisconnectFollowUp mine₃ event inst) fun _ => trivial

theorem safe_handleCheckInstance :
    (lore A).Safe (handleCheckInstance D event id : Code T J F Unit) held := by
  refine Careful.bind (careful_getInstance id) fun found held₁ grown₁ learned => ?_
  cases found with
  | error error => exact trivial
  | ok inst =>
    have mine₁ : held₁.ids id := grown₁.1 id mine
    have own : inst.tenant = A := (learned inst rfl).1 mine₁
    refine safe_ite (fun _ => ?_) fun _ => safe_checkProvisioned mine₁ event inst
    refine seq (safe_getGroup _ _) fun group _ _ => ?_
    cases group with
    | error error => exact trivial
    | ok group =>
      exact seq safe_getCurrent fun cfg _ _ => safe_handleDrainCompletion own _

end

/-- **The handler of an event of the tenant's is safe.** -/
theorem safe_handleEvent {event : Event} (of : event.type.Of A held) :
    (lore A).Safe (handleEvent D event : Code T J F Unit) held := by
  refine seq (safe_act trivial) fun leader _ grown₁ => ?_
  refine safe_ite (fun _ => trivial) fun _ => Careful.recover ?_ fun error _ grown₂ => ?_
  · cases type : event.type with
    | checkInstance id =>
      rw [type] at of
      exact safe_handleCheckInstance (grown₁.1 id of) event
    | groupChanged tenant key =>
      rw [type] at of
      cases of
      exact safe_handleGroupChanged key
    | drainAcked tenant id =>
      rw [type] at of
      obtain ⟨rfl, mine⟩ := of
      exact safe_handleDrainAcked (grown₁.1 id mine)
    | tenantChanged tenant =>
      rw [type] at of
      cases of
      exact safe_handleTenantChanged
  · refine safe_ite (fun _ => trivial) fun _ => safe_enqueue ?_
    exact EventType.Of.mono (grown₁.trans grown₂) of

end

/-! ## The operator service -/

section

variable {D : Setting T} {sleepReady : Bool}

theorem safe_validated (what kind value : String) :
    (lore A).Safe (validated what kind value : Code T J F Unit) held := by
  unfold validated
  split <;> trivial

theorem safe_upsertGroup (config : Option GroupSpec) :
    (lore A).Safe (upsertGroup A key config : Code T J F Unit) held := by
  refine safe_guard fun _ => ?_
  refine seq (safe_validated _ _ _) fun _ _ _ => ?_
  refine seq (safe_validated _ _ _) fun _ _ _ => ?_
  cases config with
  | none => exact trivial
  | some spec =>
    refine seq safe_getCurrent fun c _ _ => ?_
    exact seq (careful_wrapping (safe_call rfl)) fun _ _ _ => safe_enqueue rfl

theorem safe_deleteGroup : (lore A).Safe (deleteGroup A key : Code T J F Unit) held := by
  refine safe_guard fun _ => ?_
  refine seq (safe_validated _ _ _) fun _ _ _ => ?_
  refine seq (safe_validated _ _ _) fun _ _ _ => ?_
  exact seq (careful_wrapping (safe_call rfl)) fun _ _ _ => safe_enqueue rfl

theorem safe_createOnDemand (config : Option InstanceSpec) :
    (lore A).Safe (createOnDemand D sleepReady A id config : Code T J F Unit)
      held := by
  cases config with
  | none => exact trivial
  | some spec =>
    refine safe_guard fun _ => ?_
    refine careful_wrapping (safe_tenantState fun held => ?_)
    exact seq (safe_createInstance rfl) fun _ _ _ => trivial

theorem safe_getInstanceStatus :
    (lore A).Safe (getInstanceStatus A id : Code T J F String) held := by
  refine seq (careful_wrapping (safe_call trivial)) fun inst _ _ => ?_
  refine safe_guard fun _ => ?_
  split
  · trivial
  exact careful_wrapping (safe_call trivial)

theorem safe_deleteOwned : (lore A).Safe (deleteOwned A id : Code T J F Unit) held := by
  refine safe_guard fun _ => ?_
  refine Careful.bind (safe_getInstanceStatus id).tried fun found _ _ _ => ?_
  cases found with
  | error error => exact safe_guard fun _ => trivial
  | ok status =>
    exact safe_ite (fun _ => trivial) fun _ => careful_wrapping (safe_deleteInstance id)

theorem safe_acknowledgeDrained :
    (lore A).Safe (acknowledgeDrained A id : Code T J F Unit) held := by
  refine safe_guard fun _ => ?_
  refine Careful.bind (P := fun _ held' => held'.ids id) ?_
    fun _ held₁ _ mine => safe_enqueue ⟨rfl, mine⟩
  refine Careful.bind (careful_readInstance id) fun inst held₁ _ learned => ?_
  refine safe_guard fun own => ?_
  exact careful_pure (learned.2 (not_not.mp own)).1

variable (requested : Tenant)

theorem careful_authorizedTenant : (lore A).Careful (fun _ _ => requested = A)
      (authorizedTenant A requested : Code T J F Unit) held := by
  refine safe_guard fun _ => ?_
  refine seq (safe_validated _ _ _) fun _ _ _ => ?_
  exact safe_guard fun own => careful_pure (not_not.mp own).symm

theorem safe_sleepTenant (wakeAt : Option TenantState.Time) (ifNotBusy : Bool) :
    (lore A).Safe (sleepTenant sleepReady A requested wakeAt ifNotBusy : Code T J F Unit) held := by
  refine Careful.bind (careful_authorizedTenant requested) fun _ _ _ own => ?_
  subst own
  refine safe_guard fun _ => ?_
  exact seq (safe_tenantState fun _ => trivial) fun _ _ _ => trivial

theorem safe_wakeTenant (listener : Bool) :
    (lore A).Safe (wakeTenant sleepReady A requested listener : Code T J F Unit)
      held := by
  refine Careful.bind (careful_authorizedTenant requested) fun _ _ _ own => ?_
  subst own
  refine safe_guard fun _ => safe_guard fun _ => ?_
  exact safe_tenantState fun _ => trivial

/-- **The calls of a tenant are safe**, whatever their arguments name. -/
theorem safe_serve (request : Request) :
    (lore A).Safe (serve D sleepReady A request : Code T J F Unit) held := by
  cases request with
  | upsertGroup key config => exact safe_upsertGroup key config
  | deleteGroup key => exact safe_deleteGroup key
  | createInstance id config => exact safe_createOnDemand id config
  | deleteInstance id => exact safe_deleteOwned id
  | acknowledgeDrained id => exact safe_acknowledgeDrained id
  | sleepTenant requested wakeAt ifNotBusy => exact safe_sleepTenant requested wakeAt ifNotBusy
  | wakeTenant requested listener => exact safe_wakeTenant requested listener

end

end Nstance.Tenancy
