import Nstance.NAT.Assignments

/-!
# Fixed egress addresses

A fixed address belongs to one subnet of one tenant at a time. A replacement shares the
address of the instance it replaces; a new subnet is given an address that stands in no
assignment.

A replacement takes the address from the assignment that it was called with, and looks only
for the ID of that in the document. If the ID is released and claimed again in between, the
address may be another subnet's by then (`reclaimed_shares_address`). If no ID is claimed
again while a replacement for it is under way, addresses are not shared
(`addresses_exclusive`).
-/

namespace Nstance.NAT

open Interaction Optimistic

/-- Assignments with one address serve the same subnet of the same tenant. -/
def Exclusive (s : Assignments) : Prop :=
  ∀ a ∈ s, ∀ b ∈ s, ∀ x y, a.publicAddress = some x → b.publicAddress = some y →
    x.ipv4 = y.ipv4 → a.tenant = b.tenant ∧ a.instanceSubnetID = b.instanceSubnetID

/-! ## Choosing an address -/

section

variable {addresses : List PublicAddress} {s : Assignments}

theorem mem_used {ipv4 : String} :
    ipv4 ∈ s.entries.filterMap (fun a => a.publicAddress.map PublicAddress.ipv4) ↔
      ∃ a ∈ s, ∃ held, a.publicAddress = some held ∧ held.ipv4 = ipv4 := by
  rw [List.mem_filterMap]
  refine exists_congr fun a => and_congr_right fun _ => ?_
  exact Option.map_eq_some_iff

variable {address : PublicAddress}

theorem availableAddress_free (chosen : availableAddress addresses s = .ok (some address)) :
    ∀ a ∈ s, ∀ held, a.publicAddress = some held → held.ipv4 ≠ address.ipv4 := by
  intro a mem held holds same
  rw [availableAddress] at chosen
  split at chosen
  · cases chosen
  simp only at chosen
  split at chosen <;> cases chosen
  rename_i found
  have free := List.find?_some found
  rw [decide_eq_true_eq] at free
  exact free (mem_used.mpr ⟨a, mem, held, holds, same⟩)

theorem held_of_exhausted
    (exhausted : availableAddress addresses s = .error .publicAddressesExhausted)
    (configured : address ∈ addresses) :
    ∃ a ∈ s, ∃ held, a.publicAddress = some held ∧ held.ipv4 = address.ipv4 := by
  rw [availableAddress] at exhausted
  split at exhausted
  · cases exhausted
  simp only at exhausted
  split at exhausted
  · cases exhausted
  rename_i none_free
  have taken := List.find?_eq_none.mp none_free address configured
  rw [decide_eq_true_eq, not_not] at taken
  exact mem_used.mp taken

theorem claim_exhausted {tenant instanceSubnetID instanceID instanceType : String}
    {createdAt : Time}
    (failed : claim addresses tenant instanceSubnetID instanceID instanceType createdAt s =
      .error .publicAddressesExhausted) :
    availableAddress addresses s = .error .publicAddressesExhausted := by
  rw [claim] at failed
  split at failed
  · cases failed
  split at failed
  · cases failed
  split at failed <;> cases failed
  rename_i error exhausted
  exact exhausted

end

/-! ## One operation -/

section

variable {s s' : Assignments}

/-- The assignment that a replacement is asked for is stored. -/
def Operation.CurrentStored (s : Assignments) : Operation → Prop
  | .claimReplacement current _ _ _ => ∃ stored ∈ s, stored.ownership = current.ownership
  | _ => True

/-- What is stored under the ID of the instance to be replaced is the given assignment. -/
def Operation.Agrees (s : Assignments) : Operation → Prop
  | .claimReplacement current _ _ _ =>
    ∀ a ∈ s, a.instanceID = current.instanceID → a.ownership = current.ownership
  | _ => True

/-- The ID that an operation may store a new assignment under. -/
def Operation.claims : Operation → Option String
  | .claim _ _ _ instanceID _ _ | .claimReplacement _ instanceID _ _ => some instanceID
  | _ => none

/-- The ID of the instance that an operation is to replace. -/
def Operation.replaced : Operation → Option String
  | .claimReplacement current _ _ _ => some current.instanceID
  | _ => none

variable {operation : Operation}

theorem Operation.CurrentStored.agrees (stored : operation.CurrentStored s) :
    operation.Agrees s := by
  cases operation with
  | claimReplacement current =>
    obtain ⟨found, mem, owned⟩ := stored
    intro a there same
    rw [Assignments.eq_of_mem there mem (same.trans (congrArg Ownership.instanceID owned).symm)]
    exact owned
  | _ => trivial

/-- An assignment is new, under the ID that is claimed, or has the ownership of one that was
stored. -/
theorem Applied.origin (applied : Applied s operation s') {a : Assignment} (mem : a ∈ s') :
    operation.claims = some a.instanceID ∨ ∃ old ∈ s, old.ownership = a.ownership := by
  cases applied with
  | same => exact .inr ⟨a, mem, rfl⟩
  | claimed | replacing =>
    rcases Assignments.mem_set.mp mem with rfl | ⟨mem, -⟩
    · exact .inl rfl
    · exact .inr ⟨a, mem, rfl⟩
  | @updated _ change old found =>
    rcases Assignments.mem_set.mp mem with rfl | ⟨mem, -⟩
    · exact .inr ⟨old, (Assignments.get_eq_some.mp found).1, (change.ownership old).symm⟩
    · exact .inr ⟨a, mem, rfl⟩
  | @promoted _ _ replacement previous found _ present =>
    rcases Assignments.mem_set.mp mem with rfl | ⟨mem, -⟩
    · exact .inr ⟨replacement, (Assignments.get_eq_some.mp found).1, rfl⟩
    rcases Assignments.mem_set.mp mem with rfl | ⟨mem, -⟩
    · exact .inr ⟨previous, (Assignments.get_eq_some.mp present).1, rfl⟩
    · exact .inr ⟨a, mem, rfl⟩
  | released => exact .inr ⟨a, (Assignments.mem_erase.mp mem).1, rfl⟩

theorem Operation.Agrees.applied {other : Operation} (agrees : operation.Agrees s)
    (applied : Applied s other s') (apart : ∀ id ∈ other.claims, operation.replaced ≠ some id) :
    operation.Agrees s' := by
  cases operation with
  | claimReplacement current =>
    intro a mem same
    rcases applied.origin mem with claimed | ⟨old, stored, owned⟩
    · exact absurd (congrArg some same.symm) (apart a.instanceID claimed)
    · rw [← owned]
      exact agrees old stored ((congrArg Ownership.instanceID owned).trans same)
  | _ => trivial

/-- Whoever holds the address of an assignment serves the same subnet. -/
def Rightful (s : Assignments) (a : Assignment) : Prop :=
  ∀ b ∈ s, ∀ x y, a.publicAddress = some x → b.publicAddress = some y →
    x.ipv4 = y.ipv4 → a.tenant = b.tenant ∧ a.instanceSubnetID = b.instanceSubnetID

theorem Rightful.of_ownership {a old : Assignment} (rightful : Rightful s old)
    (tenant : old.tenant = a.tenant) (subnet : old.instanceSubnetID = a.instanceSubnetID)
    (address : old.publicAddress = a.publicAddress) : Rightful s a := by
  rw [Rightful, ← tenant, ← subnet, ← address]
  exact rightful

theorem Exclusive.rightful (exclusive : Exclusive s) (agrees : operation.Agrees s)
    (applied : Applied s operation s') {a : Assignment} (mem : a ∈ s') : Rightful s a := by
  rcases applied.origin mem with claimed | ⟨old, stored, owned⟩
  · cases applied with
    | same => exact exclusive a mem
    | claimed _ free =>
      rcases Assignments.mem_set.mp mem with rfl | ⟨mem, -⟩
      · rintro b stored x y ⟨⟩ holds same
        exact absurd same.symm (availableAddress_free free b stored y holds)
      · exact exclusive a mem
    | replacing _ _ found =>
      rcases Assignments.mem_set.mp mem with rfl | ⟨mem, -⟩
      · obtain ⟨stored, same⟩ := Assignments.get_eq_some.mp found
        have owned := agrees _ stored same
        simp only [Assignment.ownership, Ownership.mk.injEq] at owned
        exact Rightful.of_ownership (exclusive _ stored) owned.1 owned.2.1 owned.2.2.2
      · exact exclusive a mem
    | updated | promoted | released => cases claimed
  · simp only [Assignment.ownership, Ownership.mk.injEq] at owned
    exact Rightful.of_ownership (exclusive old stored) owned.1 owned.2.1 owned.2.2.2

theorem Exclusive.applied (exclusive : Exclusive s) (agrees : operation.Agrees s)
    (applied : Applied s operation s') : Exclusive s' := by
  intro a mema b memb x y holdsa holdsb same
  rcases applied.origin memb with claimed | ⟨old, stored, owned⟩
  · rcases applied.origin mema with claimed' | ⟨old, stored, owned⟩
    · have equal : a.instanceID = b.instanceID := Option.some.inj (claimed'.symm.trans claimed)
      rw [Assignments.eq_of_mem mema memb equal]
      exact ⟨rfl, rfl⟩
    · simp only [Assignment.ownership, Ownership.mk.injEq] at owned
      have agree := exclusive.rightful agrees applied memb old stored y x holdsb
        (owned.2.2.2.trans holdsa) same.symm
      rw [← owned.1, ← owned.2.1]
      exact ⟨agree.1.symm, agree.2.symm⟩
  · simp only [Assignment.ownership, Ownership.mk.injEq] at owned
    rw [← owned.1, ← owned.2.1]
    exact exclusive.rightful agrees applied mema old stored x y holdsa
      (owned.2.2.2.trans holdsb) same

end

/-! ## Runs of the stores -/

section

/-- Callers of the store and its object. -/
abbrev Stores := State Operation String Assignments Err

/-- A tag stands for one document, and a replacement is called with an assignment that is
stored at the call. -/
def Called (contents : String → Assignments) (s : Stores) : Label Operation String Err → Prop
  | .begin _ operation => operation.CurrentStored (s.document updates)
  | label => Faithful updates contents s label

/-- An ID is not claimed while a replacement of its instance is under way. -/
def Apart (s : Stores) : Label Operation String Err → Prop
  | .put id _ => ∀ operation, (s.tasks id).underway = some operation → ∀ claimed ∈ operation.claims,
      ∀ j other, (s.tasks j).underway = some other → other.replaced ≠ some claimed
  | _ => True

/-- The two together. -/
def Proper (contents : String → Assignments) (s : Stores) (label : Label Operation String Err) :
    Prop := Called contents s label ∧ Apart s label

/-- What every step keeps: addresses are not shared, and an operation under way agrees with the
document. -/
structure Sound (s : Stores) : Prop where
  exclusive : Exclusive (s.document updates)
  agrees : ∀ id operation, (s.tasks id).underway = some operation →
    operation.Agrees (s.document updates)

variable {contents : String → Assignments} {initial : Option (Stored String Assignments)}
  {s s' : Stores} {label : Label Operation String Err}

theorem Called.faithful (called : Called contents s label) : Faithful updates contents s label := by
  cases label with
  | begin => trivial
  | _ => exact called

theorem Sound.step {origin : Assignments} (sound : Sound s) (kept : Kept updates contents origin s)
    (proper : Proper contents s label) (stepped : step updates s label = some s') : Sound s' := by
  cases step_change stepped with
  | @moved _ id task _ _ _ own =>
    refine ⟨sound.exclusive, fun j operation going => ?_⟩
    by_cases same : j = id
    · subst same
      rcases own operation (by simpa [State.setTask] using going) with old | rfl
      · exact sound.agrees j operation old
      · exact Operation.CurrentStored.agrees proper.1
    · exact sound.agrees j operation (by simpa [State.setTask, same] using going)
  | @wrote id operation left found next tag loads writes =>
    have current : found = s.document updates := (kept.loads loads).unique kept.object
    subst current
    have applied := mutate_applied writes
    have going : (s.tasks id).underway = some operation := loads ▸ rfl
    refine ⟨sound.exclusive.applied (sound.agrees id operation going) applied,
      fun j other busy => ?_⟩
    by_cases same : j = id
    · subst same
      simp [State.commit, Task.underway] at busy
    · have busy : (s.tasks j).underway = some other := by
        simpa [State.commit, same] using busy
      exact (sound.agrees j other busy).applied applied fun claimed mem =>
        proper.2 operation going claimed mem j other busy

theorem sound_of_reaches (named : ∀ stored ∈ initial, contents stored.tag = stored.doc)
    (first : Exclusive (firstDocument updates initial))
    (reached : (shared updates initial).Reaches (Proper contents) s) : Sound s := by
  have both := reached.invariant (P := fun s =>
    Kept updates contents (firstDocument updates initial) s ∧ Sound s)
    ⟨kept_of_reaches named .start, ?_⟩ ?_
  · exact both.2
  · refine ⟨?_, fun id operation going => by cases going⟩
    cases initial <;> exact first
  · intro s s' label _ holds proper stepped
    exact ⟨holds.1.step proper.1.faithful stepped, holds.2.step holds.1 proper stepped⟩

/-- **Addresses are not shared between subnets**, if no ID is claimed while a replacement of
its instance is under way; and a claim finds none left only when all of them are held. -/
theorem addresses_exclusive (named : ∀ stored ∈ initial, contents stored.tag = stored.doc)
    (first : Exclusive (firstDocument updates initial))
    (reached : (shared updates initial).Reaches (Proper contents) s) :
    Exclusive (s.document updates) ∧
      ∀ addresses tenant instanceSubnetID instanceID instanceType createdAt (found : Assignments),
        claim addresses tenant instanceSubnetID instanceID instanceType createdAt found =
            .error .publicAddressesExhausted →
          ∀ address ∈ addresses,
            ∃ a ∈ found, ∃ held, a.publicAddress = some held ∧ held.ipv4 = address.ipv4 := by
  refine ⟨(sound_of_reaches named first reached).exclusive, ?_⟩
  intro addresses tenant instanceSubnetID instanceID instanceType createdAt found failed address
    configured
  exact held_of_exhausted (claim_exhausted failed) configured

/-! ## A replacement under way -/

/-- The first assignment. -/
def subnetRecord : Assignment :=
  { tenant := "acme", instanceSubnetID := "subnet", instanceID := "nat0", instanceType := "small"
    publicAddress := some { ipv4 := "192.0.2.1" }, createdAt := 5 }

/-- An assignment of another subnet. -/
def otherRecord (instanceID ipv4 : String) : Assignment :=
  { subnetRecord with instanceSubnetID := "other", instanceID, publicAddress := some { ipv4 } }

/-- The assignment that replaces the first. -/
def replacementRecord : Assignment :=
  { subnetRecord with instanceID := "nat1", replaces := "nat0" }

/-- A claim with two addresses to choose from. -/
def claimFor (instanceSubnetID instanceID : String) : Operation :=
  .claim [⟨"192.0.2.1", ""⟩, ⟨"192.0.2.2", ""⟩] "acme" instanceSubnetID instanceID "small" 5

/-- The call that replaces the first. -/
def replacement : Operation := .claimReplacement subnetRecord "nat1" "small" 5

/-- The documents of the run, by their tags. -/
def withOther (tag : String) : Assignments :=
  if tag = "first" then ⟨[subnetRecord], by decide⟩
  else if tag = "second" then ⟨[otherRecord "nat2" "192.0.2.2", subnetRecord], by decide⟩
  else ⟨[replacementRecord, otherRecord "nat2" "192.0.2.2", subnetRecord], by decide⟩

/-- Another subnet claims an address while the replacement is under way. -/
theorem replacement_shares_subnet :
    ∃ s : Stores, (shared updates none).Reaches (Proper withOther) s ∧
      Exclusive (s.document updates) ∧ s.document updates = withOther "third" := by
  have idle : (shared updates none).Reaches (Proper withOther) (shared updates none).start := .start
  have claims := idle.extend (.begin 0 (claimFor "subnet" "nat0")) ⟨trivial, trivial⟩ rfl
  have loads := claims.extend (.load 0) ⟨trivial, trivial⟩ rfl
  have claimed := loads.extend (.put 0 "first")
    ⟨by intro _ _ _ _ loads writes; cases loads; cases writes; rfl,
     by rintro _ ⟨⟩ _ ⟨⟩ (_ | j) _ going <;> cases going; exact nofun⟩ rfl
  have replaces := claimed.extend (.begin 1 replacement) ⟨⟨_, by decide, rfl⟩, trivial⟩ rfl
  have claims := replaces.extend (.begin 2 (claimFor "other" "nat2")) ⟨trivial, trivial⟩ rfl
  have loads := claims.extend (.load 2) ⟨trivial, trivial⟩ rfl
  have claimed := loads.extend (.put 2 "second")
    ⟨by intro _ _ _ _ loads writes; cases loads; cases writes; rfl,
     by rintro _ ⟨⟩ _ ⟨⟩ (_ | _ | _ | j) _ going <;> cases going <;> decide⟩ rfl
  have loads := claimed.extend (.load 1) ⟨trivial, trivial⟩ rfl
  have replaced := loads.extend (.put 1 "third")
    ⟨by intro _ _ _ _ loads writes; cases loads; cases writes; rfl,
     by rintro _ ⟨⟩ _ ⟨⟩ (_ | _ | _ | j) _ going <;> cases going; decide⟩ rfl
  exact ⟨_, replaced,
    (addresses_exclusive (by simp) (by simp [Exclusive, firstDocument, updates]) replaced).1, rfl⟩

/-- The documents of this run. -/
def reclaimed (tag : String) : Assignments :=
  if tag = "first" then ⟨[subnetRecord], by decide⟩
  else if tag = "second" then .empty
  else if tag = "third" then ⟨[otherRecord "nat0" "192.0.2.1"], by decide⟩
  else ⟨[replacementRecord, otherRecord "nat0" "192.0.2.1"], by decide⟩

/-- The ID is released and claimed for another subnet before the replacement is stored. -/
theorem reclaimed_shares_address :
    ∃ s : Stores, (shared updates none).Reaches (Called reclaimed) s ∧
      s.document updates = reclaimed "fourth" ∧ ¬ Exclusive (s.document updates) := by
  have idle : (shared updates none).Reaches (Called reclaimed) (shared updates none).start := .start
  have claims := idle.extend (.begin 0 (claimFor "subnet" "nat0")) trivial rfl
  have loads := claims.extend (.load 0) trivial rfl
  have claimed := loads.extend (.put 0 "first")
    (by intro _ _ _ _ loads writes; cases loads; cases writes; rfl) rfl
  have replaces := claimed.extend (.begin 1 replacement) ⟨_, by decide, rfl⟩ rfl
  have releases := replaces.extend (.begin 2 (.release "nat0")) trivial rfl
  have loads := releases.extend (.load 2) trivial rfl
  have released := loads.extend (.put 2 "second")
    (by intro _ _ _ _ loads writes; cases loads; cases writes; rfl) rfl
  have claims := released.extend (.begin 3 (claimFor "other" "nat0")) trivial rfl
  have loads := claims.extend (.load 3) trivial rfl
  have claimed := loads.extend (.put 3 "third")
    (by intro _ _ _ _ loads writes; cases loads; cases writes; rfl) rfl
  have loads := claimed.extend (.load 1) trivial rfl
  have replaced := loads.extend (.put 1 "fourth")
    (by intro _ _ _ _ loads writes; cases loads; cases writes; rfl) rfl
  refine ⟨_, replaced, rfl, fun exclusive => ?_⟩
  have same := exclusive replacementRecord (by decide) (otherRecord "nat0" "192.0.2.1") (by decide)
    _ _ rfl rfl rfl
  exact absurd same.2 (by decide)

end

end Nstance.NAT
