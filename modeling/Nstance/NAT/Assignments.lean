import Mathlib.Data.List.Nodup
import Nstance.Interaction.Optimistic

/-!
# The NAT assignments and the operations of their store

Every managed NAT instance has one assignment, stored under its instance ID: the subnet it
serves, the fixed address it holds, and how far it is in its life. A replacement names the
instance it replaces until it is promoted, a replaced instance is retiring, and a removed
one is marked before its assignment is released.

`Operation.mutate` is what `AssignmentStore.update` makes of one of the five operations,
and `updates` hands it to the optimistic loop.
-/

namespace Nstance.NAT

open Interaction

abbrev Time := Int

/-- A public address, with the provider's name for it. -/
structure PublicAddress where
  ipv4 : String
  allocationID : String := ""
deriving DecidableEq

/-- One managed NAT instance and its routed instance subnet. -/
structure Assignment where
  tenant : String
  instanceSubnetID : String
  instanceID : String
  instanceType : String
  providerID : String := ""
  publicAddress : Option PublicAddress := none
  emptySince : Option Time := none
  deleting : Bool := false
  retiring : Bool := false
  routed : Bool := false
  replaces : String := ""
  createdAt : Time
  lastScaleAt : Option Time := none
deriving DecidableEq

/-- What an assignment is about, which no change of its life cycle touches. -/
structure Ownership where
  tenant : String
  instanceSubnetID : String
  instanceID : String
  publicAddress : Option PublicAddress

variable (a : Assignment)

/-- What an assignment owns. -/
def Assignment.ownership : Ownership :=
  ⟨a.tenant, a.instanceSubnetID, a.instanceID, a.publicAddress⟩

/-- Errors of the store, of the manager and of what they call. -/
inductive Err where
  /-- `ErrPublicAddressesExhausted`: every configured address is assigned. -/
  | publicAddressesExhausted
  /-- `ErrNotReady`: a required NAT instance has not registered and reported health. -/
  | notReady
  /-- `ErrSubnetDependencyCapacity` of the instance manager. -/
  | subnetDependencyCapacity
  /-- `sql.ErrNoRows`. -/
  | noRows
  | message (text : String)
  | wrap (context : String) (cause : Err)
  | join (first second : Err)
deriving DecidableEq

/-! ## The document -/

/-- The durable envelope: at most one assignment for every instance ID. -/
structure Assignments where
  entries : List Assignment
  nodup : (entries.map Assignment.instanceID).Nodup
deriving DecidableEq

namespace Assignments

instance : Membership Assignment Assignments := ⟨fun s a => a ∈ s.entries⟩

instance (a : Assignment) (s : Assignments) : Decidable (a ∈ s) :=
  inferInstanceAs (Decidable (a ∈ s.entries))

/-- No assignment. -/
def empty : Assignments := ⟨[], List.nodup_nil⟩

variable (s : Assignments)

/-- The assignment of an instance. -/
def get (instanceID : String) : Option Assignment :=
  s.entries.find? (·.instanceID = instanceID)

/-- Without the assignment of an instance. -/
def erase (instanceID : String) : Assignments where
  entries := s.entries.filter (·.instanceID ≠ instanceID)
  nodup := s.nodup.sublist (List.filter_sublist.map _)

/-- Store an assignment under its instance ID, in the place of the one there. -/
def replace (entries : List Assignment) : List Assignment :=
  entries.map fun b => if b.instanceID = a.instanceID then a else b

theorem map_instanceID_replace (entries : List Assignment) :
    (replace a entries).map Assignment.instanceID = entries.map Assignment.instanceID := by
  induction entries with
  | nil => rfl
  | cons b rest ih =>
    rw [replace, List.map_cons, List.map_cons, List.map_cons, ← replace, ih]
    split
    · rename_i same
      rw [same]
    · rfl

/-- Store an assignment under its instance. -/
def set (a : Assignment) : Assignments :=
  if fresh : a.instanceID ∈ s.entries.map Assignment.instanceID then
    ⟨replace a s.entries, by rw [map_instanceID_replace]; exact s.nodup⟩
  else
    ⟨a :: s.entries, List.nodup_cons.mpr ⟨fresh, s.nodup⟩⟩

section

variable {s : Assignments} {a b : Assignment} {instanceID : String}

@[simp] theorem not_mem_empty : ¬ a ∈ empty := List.not_mem_nil

theorem eq_of_mem (one : a ∈ s) (other : b ∈ s) (same : a.instanceID = b.instanceID) : a = b :=
  List.inj_on_of_nodup_map s.nodup one other same

theorem get_eq_some : s.get instanceID = some a ↔ a ∈ s ∧ a.instanceID = instanceID := by
  constructor
  · intro found
    exact ⟨List.mem_of_find?_eq_some found, by simpa using List.find?_some found⟩
  · rintro ⟨mem, rfl⟩
    cases found : s.get a.instanceID with
    | none =>
      have absent := List.find?_eq_none.mp found a mem
      simp at absent
    | some b =>
      have other : b ∈ s := List.mem_of_find?_eq_some found
      have same : b.instanceID = a.instanceID := by simpa using List.find?_some found
      rw [eq_of_mem other mem same]

theorem get_eq_none : s.get instanceID = none ↔ ∀ a ∈ s, a.instanceID ≠ instanceID := by
  rw [get, List.find?_eq_none]
  simp only [decide_eq_true_eq]
  rfl

@[simp] theorem mem_erase : b ∈ s.erase instanceID ↔ b ∈ s ∧ b.instanceID ≠ instanceID := by
  show b ∈ s.entries.filter _ ↔ _
  rw [List.mem_filter, decide_eq_true_eq]
  rfl

theorem mem_replace {entries : List Assignment}
    (stored : a.instanceID ∈ entries.map Assignment.instanceID) :
    b ∈ replace a entries ↔ b = a ∨ b ∈ entries ∧ b.instanceID ≠ a.instanceID := by
  rw [replace, List.mem_map]
  constructor
  · rintro ⟨c, mem, rfl⟩
    by_cases same : c.instanceID = a.instanceID
    · simp [same]
    · simp [same, mem]
  · rintro (rfl | ⟨mem, other⟩)
    · obtain ⟨c, mem, same⟩ := List.mem_map.mp stored
      exact ⟨c, mem, if_pos same⟩
    · exact ⟨b, mem, if_neg other⟩

@[simp] theorem mem_set : b ∈ s.set a ↔ b = a ∨ b ∈ s ∧ b.instanceID ≠ a.instanceID := by
  rw [set]
  split
  · rename_i stored
    exact mem_replace stored
  rename_i fresh
  show b ∈ a :: s.entries ↔ _
  rw [List.mem_cons]
  refine or_congr_right ⟨?_, And.left⟩
  intro mem
  exact ⟨mem, fun same => fresh (List.mem_map.mpr ⟨b, mem, same⟩)⟩

variable {id : String}

theorem get_erase_of_ne (other : id ≠ instanceID) : (s.erase instanceID).get id = s.get id := by
  apply Option.ext
  intro b
  rw [get_eq_some, get_eq_some, mem_erase]
  constructor
  · rintro ⟨⟨mem, _⟩, same⟩
    exact ⟨mem, same⟩
  · rintro ⟨mem, rfl⟩
    exact ⟨⟨mem, other⟩, rfl⟩

theorem get_set_of_ne (other : id ≠ a.instanceID) : (s.set a).get id = s.get id := by
  apply Option.ext
  intro b
  rw [get_eq_some, get_eq_some, mem_set]
  constructor
  · rintro ⟨rfl | ⟨mem, _⟩, same⟩
    · exact absurd same.symm other
    · exact ⟨mem, same⟩
  · rintro ⟨mem, rfl⟩
    exact ⟨.inr ⟨mem, other⟩, rfl⟩

end

end Assignments

/-! ## The operations -/

variable (addresses : List PublicAddress)

/-- An address that no assignment holds, if any are configured. -/
def availableAddress (s : Assignments) : Except Err (Option PublicAddress) :=
  if addresses = [] then .ok none
  else
    let used := s.entries.filterMap fun a => a.publicAddress.map PublicAddress.ipv4
    match addresses.find? fun address => address.ipv4 ∉ used with
    | some address => .ok (some address)
    | none => .error .publicAddressesExhausted

/-- Record an initial NAT instance, with a fixed address when configured. -/
def claim
    (tenant instanceSubnetID instanceID instanceType : String) (createdAt : Time)
    (s : Assignments) : Except Err (Assignment × Assignments) :=
  if tenant = "" ∨ instanceSubnetID = "" ∨ instanceID = "" then
    .error (.message "tenant, instance subnet, and instance are required")
  else
    match s.get instanceID with
    | some existing => .ok (existing, s)
    | none =>
      match availableAddress addresses s with
      | .error error => .error error
      | .ok address =>
        let claimed : Assignment :=
          { tenant, instanceSubnetID, instanceID, instanceType
            publicAddress := address, createdAt }
        .ok (claimed, s.set claimed)

/-- As `%q` prints it. -/
def quoted (text : String) : String := "\"" ++ text ++ "\""

/-- Record a replacement that shares the fixed address of the current instance, or
return the one that is pending. -/
def claimReplacement (current : Assignment) (instanceID instanceType : String)
    (createdAt : Time) (s : Assignments) : Except Err (Assignment × Assignments) :=
  match s.get instanceID with
  | some existing => .ok (existing, s)
  | none =>
    match s.entries.find? (·.replaces = current.instanceID) with
    | some pending => .ok (pending, s)
    | none =>
      match s.get current.instanceID with
      | none =>
        .error (.message
          ("NAT instance " ++ quoted current.instanceID ++ " is not assigned"))
      | some _ =>
        let replacement : Assignment :=
          { tenant := current.tenant, instanceSubnetID := current.instanceSubnetID
            instanceID, instanceType
            publicAddress := current.publicAddress
            replaces := current.instanceID, createdAt }
        .ok (replacement, s.set replacement)

/-- What a closure passed to `AssignmentStore.Update` may be: it changes life cycle
fields and preserves the ownership. -/
structure Change where
  apply : Assignment → Assignment
  ownership : ∀ a, (apply a).ownership = a.ownership

variable (instanceID : String)

/-- Change an assignment that is there. -/
def update (change : Change) (s : Assignments) : Except Err Assignments :=
  match s.get instanceID with
  | none => .error (.message ("NAT instance " ++ quoted instanceID ++ " is not assigned"))
  | some assignment => .ok (s.set (change.apply assignment))

/-- The predecessor of a promoted replacement. -/
def Assignment.retire : Assignment :=
  { a with retiring := true, routed := false }

/-- A replacement becomes the one that serves. -/
def Assignment.takeOver (scaledAt : Time) : Assignment :=
  { a with replaces := "", routed := true, lastScaleAt := some scaledAt }

/-- Make a replacement routable and mark its predecessor for removal. -/
def promote (scaledAt : Time) (s : Assignments) : Except Err Assignments :=
  match s.get instanceID with
  | none => .error (.message ("NAT instance " ++ quoted instanceID ++ " is not a replacement"))
  | some replacement =>
    if replacement.replaces = "" then
      .error (.message ("NAT instance " ++ quoted instanceID ++ " is not a replacement"))
    else
      match s.get replacement.replaces with
      | none =>
        .error (.message
          ("replaced NAT instance " ++ quoted replacement.replaces ++ " is not assigned"))
      | some previous =>
        .ok ((s.set previous.retire).set (replacement.takeOver scaledAt))

/-- Forget an assignment, if it is there. -/
def release (s : Assignments) : Assignments := s.erase instanceID

/-- The writing methods of the store. -/
inductive Operation where
  | claim (addresses : List PublicAddress)
      (tenant instanceSubnetID instanceID instanceType : String) (createdAt : Time)
  | claimReplacement (current : Assignment) (instanceID instanceType : String) (createdAt : Time)
  | update (instanceID : String) (change : Change)
  | promote (instanceID : String) (scaledAt : Time)
  | release (instanceID : String)

namespace Operation

/-- What each of them makes of a document. -/
def apply : Operation → Assignments → Except Err Assignments
  | .claim addresses tenant instanceSubnetID instanceID instanceType createdAt, s =>
    (NAT.claim addresses tenant instanceSubnetID instanceID instanceType createdAt s).map Prod.snd
  | .claimReplacement current instanceID instanceType createdAt, s =>
    (NAT.claimReplacement current instanceID instanceType createdAt s).map Prod.snd
  | .update instanceID change, s => NAT.update instanceID change s
  | .promote instanceID scaledAt, s => NAT.promote instanceID scaledAt s
  | .release instanceID, s => .ok (NAT.release instanceID s)

/-- Nothing is written when the operation left the bytes of the document as they
were. -/
def mutate (operation : Operation) (s : Assignments) : Optimistic.Verdict Assignments Err :=
  match operation.apply s with
  | .error error => .fail error
  | .ok after => if after = s then .keep else .write after

end Operation

/-- The loop of `AssignmentStore.update`. -/
def updates : Optimistic.Updates Operation Assignments Err where
  missing := .empty
  mutate := Operation.mutate
  attempts := 8
  exhausted := .message "update NAT assignment state: too many concurrent updates"

/-! ## What an operation can do -/

section

variable {s s' : Assignments}

/-- What each of them has changed. -/
inductive Applied (s : Assignments) : Operation → Assignments → Prop
  | same (operation : Operation) : Applied s operation s
  | claimed {addresses : List PublicAddress}
      {tenant instanceSubnetID instanceID instanceType : String} {createdAt : Time}
      {publicAddress : Option PublicAddress} :
      s.get instanceID = none → availableAddress addresses s = .ok publicAddress →
      Applied s (.claim addresses tenant instanceSubnetID instanceID instanceType createdAt)
        (s.set { tenant, instanceSubnetID, instanceID, instanceType, publicAddress, createdAt })
  | replacing {current stored : Assignment} {instanceID instanceType : String} {createdAt : Time} :
      s.get instanceID = none → (∀ a ∈ s, a.replaces ≠ current.instanceID) →
      s.get current.instanceID = some stored →
      Applied s (.claimReplacement current instanceID instanceType createdAt)
        (s.set { tenant := current.tenant, instanceSubnetID := current.instanceSubnetID
                 instanceID, instanceType, publicAddress := current.publicAddress
                 replaces := current.instanceID, createdAt })
  | updated {instanceID : String} {change : Change} {assignment : Assignment} :
      s.get instanceID = some assignment →
      Applied s (.update instanceID change) (s.set (change.apply assignment))
  | promoted {instanceID : String} {scaledAt : Time} {replacement previous : Assignment} :
      s.get instanceID = some replacement → replacement.replaces ≠ "" →
      s.get replacement.replaces = some previous →
      Applied s (.promote instanceID scaledAt)
        ((s.set previous.retire).set (replacement.takeOver scaledAt))
  | released (instanceID : String) : Applied s (.release instanceID) (s.erase instanceID)

theorem Except.map_eq_ok {ε α β : Type} {f : α → β} {result : Except ε α} {value : β} :
    result.map f = .ok value ↔ ∃ found, result = .ok found ∧ f found = value := by
  cases result <;> simp [Except.map]

variable {instanceID instanceType : String} {createdAt : Time} {operation : Operation}

theorem claim_applied {addresses : List PublicAddress} {tenant instanceSubnetID : String}
    {claimed : Assignment}
    (done : claim addresses tenant instanceSubnetID instanceID instanceType createdAt s =
      .ok (claimed, s')) :
    Applied s (.claim addresses tenant instanceSubnetID instanceID instanceType createdAt) s' := by
  rw [claim] at done
  split at done
  · cases done
  cases stored : s.get instanceID with
  | some existing =>
    rw [stored] at done
    cases done
    exact .same _
  | none =>
    rw [stored] at done
    cases free : availableAddress addresses s with
    | error error =>
      rw [free] at done
      cases done
    | ok address =>
      rw [free] at done
      cases done
      exact .claimed stored free

theorem claimReplacement_applied {current replacement : Assignment}
    (done : claimReplacement current instanceID instanceType createdAt s = .ok (replacement, s')) :
    Applied s (.claimReplacement current instanceID instanceType createdAt) s' := by
  rw [claimReplacement] at done
  cases stored : s.get instanceID with
  | some existing =>
    rw [stored] at done
    cases done
    exact .same _
  | none =>
    rw [stored] at done
    cases found : s.entries.find? (·.replaces = current.instanceID) with
    | some pending =>
      rw [found] at done
      cases done
      exact .same _
    | none =>
      rw [found] at done
      cases present : s.get current.instanceID with
      | none =>
        rw [present] at done
        cases done
      | some =>
        rw [present] at done
        cases done
        refine .replacing stored ?_ present
        intro a mem
        simpa using List.find?_eq_none.mp found a mem

theorem update_applied {change : Change} (done : update instanceID change s = .ok s') :
    Applied s (.update instanceID change) s' := by
  rw [update] at done
  cases stored : s.get instanceID with
  | none =>
    rw [stored] at done
    cases done
  | some assignment =>
    rw [stored] at done
    cases done
    exact .updated stored

theorem promote_applied {scaledAt : Time} (done : promote instanceID scaledAt s = .ok s') :
    Applied s (.promote instanceID scaledAt) s' := by
  rw [promote] at done
  cases stored : s.get instanceID with
  | none =>
    rw [stored] at done
    cases done
  | some replacement =>
    rw [stored] at done
    simp only at done
    split at done
    · cases done
    rename_i named
    cases present : s.get replacement.replaces with
    | none =>
      rw [present] at done
      cases done
    | some previous =>
      rw [present] at done
      cases done
      exact .promoted stored named present

theorem apply_applied (done : operation.apply s = .ok s') : Applied s operation s' := by
  cases operation with
  | claim =>
    obtain ⟨⟨claimed, after⟩, claims, rfl⟩ := Except.map_eq_ok.mp done
    exact claim_applied claims
  | claimReplacement =>
    obtain ⟨⟨replacement, after⟩, claims, rfl⟩ := Except.map_eq_ok.mp done
    exact claimReplacement_applied claims
  | update => exact update_applied done
  | promote => exact promote_applied done
  | release instanceID =>
    cases done
    exact .released instanceID

theorem mutate_applied (writes : operation.mutate s = .write s') : Applied s operation s' := by
  rw [Operation.mutate] at writes
  split at writes
  · cases writes
  rename_i after done
  split at writes <;> cases writes
  exact apply_applied done

end

/-! ## What an operation leaves alone -/

/-- The instances whose assignments an operation may change. A promotion changes
the replacement and its predecessor. -/
def Operation.touches (s : Assignments) : Operation → List String
  | .claim _ _ _ instanceID _ _ => [instanceID]
  | .claimReplacement _ instanceID _ _ => [instanceID]
  | .update instanceID _ => [instanceID]
  | .promote instanceID _ =>
    match s.get instanceID with
    | some replacement => [instanceID, replacement.replaces]
    | none => [instanceID]
  | .release instanceID => [instanceID]

theorem Change.instanceID_apply (change : Change) (a : Assignment) :
    (change.apply a).instanceID = a.instanceID :=
  congrArg Ownership.instanceID (change.ownership a)

theorem get_of_not_touched {s s' : Assignments} {operation : Operation}
    (applied : Applied s operation s') {instanceID : String}
    (other : instanceID ∉ operation.touches s) : s'.get instanceID = s.get instanceID := by
  cases applied with
  | same => rfl
  | claimed | replacing =>
    exact Assignments.get_set_of_ne (by simpa [Operation.touches] using other)
  | updated stored =>
    apply Assignments.get_set_of_ne
    rw [Change.instanceID_apply, (Assignments.get_eq_some.mp stored).2]
    simpa [Operation.touches] using other
  | @promoted promotedID scaledAt replacement previous stored _ present =>
    obtain ⟨_, rfl⟩ := Assignments.get_eq_some.mp stored
    obtain ⟨_, same⟩ := Assignments.get_eq_some.mp present
    simp only [Operation.touches, stored, List.mem_cons, List.not_mem_nil, or_false,
      not_or] at other
    have kept : (s.set previous.retire).get instanceID = s.get instanceID :=
      Assignments.get_set_of_ne (same ▸ other.2)
    have moved : ((s.set previous.retire).set (replacement.takeOver scaledAt)).get instanceID =
        (s.set previous.retire).get instanceID := Assignments.get_set_of_ne other.1
    exact moved.trans kept
  | released => exact Assignments.get_erase_of_ne (by simpa [Operation.touches] using other)

end Nstance.NAT
