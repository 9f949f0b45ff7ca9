import Nstance.NAT.Assignments
import Nstance.TenantState.Manager

/-!
# Tenant states and NAT assignments in one storage

Managers and assignment stores of any number of servers write their objects in optimistic
loops that interleave in any order. The writes that report success are the ones that took
effect, each on the document the one before it left. An update of a tenant changes the entry
of that tenant, and an operation on a NAT instance changes its assignment; a promotion
changes that of the predecessor too.
-/

namespace Nstance.SharedStorage

open Interaction Optimistic

/-- The loop of `Manager.update`, for a closure and the tenant it is about. -/
def tenantUpdates :
    Updates (TenantState.Tenant × TenantState.Update) TenantState.StateDocument
      TenantState.Err where
  missing := fun _ => none
  mutate update state :=
    match update.2.mutate (state update.1) with
    | .unchanged => .keep
    | .write entry => .write (Function.update state update.1 entry)
    | .panic => .fail .nilDereference
  attempts := 4
  exhausted := .message "tenant state CAS conflict after 4 attempts"

theorem tenantUpdates_frame {update : TenantState.Tenant × TenantState.Update}
    {before after : TenantState.StateDocument}
    (writes : tenantUpdates.mutate update before = .write after) {tenant : TenantState.Tenant}
    (other : tenant ≠ update.1) : after tenant = before tenant := by
  simp only [tenantUpdates] at writes
  split at writes <;> cases writes
  exact Function.update_of_ne other _ _

/-- The object of the tenant state. -/
abbrev TenantObject := Stored String TenantState.StateDocument

/-- The object of the assignments. -/
abbrev AssignmentObject := Stored String NAT.Assignments

/-- Writers of the tenant state. -/
abbrev TenantTasks :=
  State (TenantState.Tenant × TenantState.Update) String TenantState.StateDocument TenantState.Err

/-- Writers of the assignments. -/
abbrev AssignmentTasks := State NAT.Operation String NAT.Assignments NAT.Err

/-- A step of either. -/
abbrev Move :=
  Label (TenantState.Tenant × TenantState.Update) String TenantState.Err ⊕
    Label NAT.Operation String NAT.Err

/-- All updates of both objects, in any order. -/
def storage (tenants : Option TenantObject) (assignments : Option AssignmentObject) :
    Machine (TenantTasks × AssignmentTasks) Move :=
  (shared tenantUpdates tenants).beside (shared NAT.updates assignments)

/-- The storage gives each document it holds an entity tag that stands for it. -/
def Tagged (states : String → TenantState.StateDocument) (records : String → NAT.Assignments)
    (both : TenantTasks × AssignmentTasks) : Move → Prop :=
  Sum.elim (Faithful tenantUpdates states both.1) (Faithful NAT.updates records both.2)

/-- **No update is lost.** -/
theorem updates_lose_nothing {tenants : Option TenantObject}
    {assignments : Option AssignmentObject} {states : String → TenantState.StateDocument}
    {records : String → NAT.Assignments}
    (tenantsTagged : ∀ stored ∈ tenants, states stored.tag = stored.doc)
    (assignmentsTagged : ∀ stored ∈ assignments, records stored.tag = stored.doc)
    {both : TenantTasks × AssignmentTasks}
    (reached : (storage tenants assignments).Reaches (Tagged states records) both) :
    Serial tenantUpdates (firstDocument tenantUpdates tenants) both.1 ∧
      Serial NAT.updates (firstDocument NAT.updates assignments) both.2 ∧
      (∀ update before after, tenantUpdates.mutate update before = .write after →
        ∀ tenant, tenant ≠ update.1 → after tenant = before tenant) ∧
      ∀ (operation : NAT.Operation) before after,
        NAT.updates.mutate operation before = .write after →
        ∀ instanceID, instanceID ∉ operation.touches before →
          after.get instanceID = before.get instanceID := by
  obtain ⟨tenantRun, assignmentRun⟩ := Machine.Reaches.beside reached
  refine ⟨serial_of_reaches tenantsTagged tenantRun,
    serial_of_reaches assignmentsTagged assignmentRun, ?_, ?_⟩
  · intro update before after writes tenant other
    exact tenantUpdates_frame writes other
  · intro operation before after writes instanceID other
    exact NAT.get_of_not_touched (NAT.mutate_applied writes) other

/-! ## Two servers that claim at once -/

/-- One tenant is asleep. -/
def asleep : TenantState.StateDocument :=
  Function.update (fun _ => none) "acme" (some { sleep := some {} })

/-- A claim for a subnet. -/
def subnetClaim : NAT.Operation := .claim [] "acme" "subnet" "nat0" "small" 5

/-- A claim for another subnet. -/
def otherClaim : NAT.Operation := .claim [] "acme" "other" "nat1" "small" 6

/-- After the first claim. -/
def firstRecord : NAT.Assignments where
  entries := [{ tenant := "acme", instanceSubnetID := "subnet", instanceID := "nat0"
                instanceType := "small", createdAt := 5 }]
  nodup := by decide

/-- After both claims. -/
def bothRecords : NAT.Assignments where
  entries := { tenant := "acme", instanceSubnetID := "other", instanceID := "nat1"
               instanceType := "small", createdAt := 6 } :: firstRecord.entries
  nodup := by decide

/-- The documents by their tags. -/
def recordsOf (tag : String) : NAT.Assignments :=
  if tag = "first" then firstRecord else bothRecords

-- Both stores load the empty document; the second write meets the first one's
-- tag, and its second attempt adds to what the first one wrote.
theorem contended_claims_lose_nothing :
    ∃ both : TenantTasks × AssignmentTasks, Serial tenantUpdates (fun _ => none) both.1 ∧
      Serial NAT.updates .empty both.2 ∧ both.1.log = [(0, "acme", .setSleep none)] ∧
      both.2.log = [(1, otherClaim), (0, subnetClaim)] := by
  have idle : (storage none none).Reaches (Tagged (fun _ => asleep) recordsOf)
      (storage none none).start := .start
  have began := idle.extend (.inr (.begin 0 subnetClaim)) trivial rfl
  have began := began.extend (.inr (.begin 1 otherClaim)) trivial rfl
  have began := began.extend (.inl (.begin 0 ("acme", .setSleep none))) trivial rfl
  have loaded := began.extend (.inr (.load 0)) trivial rfl
  have loaded := loaded.extend (.inr (.load 1)) trivial rfl
  have loaded := loaded.extend (.inl (.load 0)) trivial rfl
  have wrote := loaded.extend (.inr (.put 0 "first"))
    (by intro op left found next loads writes; cases loads; cases writes; rfl) rfl
  have refused := wrote.extend (.inr (.put 1 "second"))
    (by intro op left found next loads writes; cases loads) rfl
  have slept := refused.extend (.inl (.put 0 "asleep"))
    (by intro op left found next loads writes; cases loads; cases writes; rfl) rfl
  have reloaded := slept.extend (.inr (.load 1)) trivial rfl
  have done := reloaded.extend (.inr (.put 1 "second"))
    (by intro op left found next loads writes; cases loads; cases writes; rfl) rfl
  have serial := updates_lose_nothing (by simp) (by simp) done
  exact ⟨_, serial.1, serial.2.1, rfl, rfl⟩

end Nstance.SharedStorage
