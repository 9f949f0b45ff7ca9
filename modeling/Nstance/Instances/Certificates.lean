import Nstance.Instances.Registration

/-!
# One key for a nonce

Two calls with one nonce may both find its row unused and both return a certificate. If a
call looks up its nonce only on the leader, and only while every call under way with the
nonce carries the same key (`exclusive`), careful runs return certificates for one key of a
nonce (`one_key_of_reaches`).
-/

namespace Nstance.Instances

open Objects Interaction

variable {T : Type} [DecidableEq T]

/-- A call looks up its nonce on the leader, while the calls that have passed the test
with its nonce carry its key. -/
def exclusive (s : State T) : Label T → Bool
  | .lookup j _ =>
    (s.calls[j]?).all fun call =>
      s.leader = some call.server && s.calls.all fun other =>
        !(decide other.accepted && other.nonce = call.nonce) ||
          other.publicKeyPEM = call.publicKeyPEM
  | _ => true

/-- Whether the steps of a run keep a nonce to one key. -/
def keepsOneKey (D : Setting T) (s : State T) (label : Label T) : Bool :=
  careful D s label && exclusive s label

/-- The calls that have passed the test, and the certificates, have one key for a nonce. -/
structure OneKey (s : State T) : Prop where
  calls : ∀ {call other : Call T}, call ∈ s.calls → other ∈ s.calls → call.accepted →
    other.accepted → call.nonce = other.nonce → call.publicKeyPEM = other.publicKeyPEM
  pending : ∀ {call : Call T} {certificate : T × String}, call ∈ s.calls →
    call.accepted → certificate ∈ s.certificates → certificate.1 = call.nonce →
      certificate.2 = call.publicKeyPEM
  certificates : ∀ {certificate other : T × String}, certificate ∈ s.certificates →
    other ∈ s.certificates → certificate.1 = other.1 → certificate.2 = other.2

section

variable {D : Setting T} {s s' : State T} {label : Label T} {call : Call T} {j : Nat} {ok : Bool}

theorem Step.accepted_from (move : Step D s label s') (there : call ∈ s'.calls)
    (accepted : call.accepted) :
    (∃ old ∈ s.calls, old.accepted ∧ call.nonce = old.nonce ∧
        call.publicKeyPEM = old.publicKeyPEM) ∨
      ∃ j ok old entry, label = .lookup j ok ∧ s.calls[j]? = some old ∧
        call.nonce = old.nonce ∧ call.publicKeyPEM = old.publicKeyPEM ∧
        (s.tables old.server).getInstanceByNonce old.nonce = some entry ∧
        entry.2.registeredAt = none := by
  rcases move.call_from there with there | origin
  · exact .inl ⟨call, there, accepted, rfl, rfl⟩
  cases origin with
  | received => exact absurd rfl accepted.1
  | found at_ _ row unused => exact .inr ⟨_, _, _, _, rfl, at_, rfl, rfl, row, unused⟩
  | read at_ found =>
    exact .inl ⟨_, List.mem_of_getElem? at_, by simp [Call.accepted, found], rfl, rfl⟩
  | stored at_ reading =>
    exact .inl ⟨_, List.mem_of_getElem? at_, by simp [Call.accepted, reading], rfl, rfl⟩
  | returned => exact absurd rfl accepted.2

theorem exclusive_lookup {other : Call T} (alone : exclusive s (.lookup j ok))
    (at_ : s.calls[j]? = some call) (there : other ∈ s.calls) (accepted : other.accepted)
    (same : other.nonce = call.nonce) : other.publicKeyPEM = call.publicKeyPEM := by
  simp only [exclusive, at_, Option.all_some, Bool.and_eq_true, List.all_eq_true] at alone
  simpa [accepted, same] using alone.2 other there

theorem leader_of_exclusive (alone : exclusive s (.lookup j ok)) (at_ : s.calls[j]? = some call) :
    s.leader = some call.server := by
  simp only [exclusive, at_, Option.all_some, Bool.and_eq_true, decide_eq_true_eq] at alone
  exact alone.1

theorem Guarded.registered_of_lookup (guarded : Guarded s) {server : ServerID} {nonce : T}
    {certificate : T × String} {entry : InstanceID × Row T}
    (leading : s.leader = some server) (there : certificate ∈ s.certificates)
    (same : certificate.1 = nonce)
    (row : (s.tables server).getInstanceByNonce nonce = some entry) :
    entry.2.registeredAt.isSome := by
  obtain ⟨at_, carries, live⟩ := Rows.getInstanceByNonce_eq_some.mp row
  exact guarded.refused leading there at_ (carries.trans same.symm) live

namespace OneKey

variable {call : Call T} {certificate : T × String}

theorem calls_step (one : OneKey s) (alone : exclusive s label) (move : Step D s label s')
    {other : Call T} (there : call ∈ s'.calls) (there' : other ∈ s'.calls)
    (accepted : call.accepted) (accepted' : other.accepted) (same : call.nonce = other.nonce) :
    call.publicKeyPEM = other.publicKeyPEM := by
  rcases move.accepted_from there accepted with
    ⟨old, was, passed, nonce, key⟩ | ⟨j, ok, old, entry, rfl, at_, nonce, key, -, -⟩
  · rcases move.accepted_from there' accepted' with
      ⟨old', was', passed', nonce', key'⟩ | ⟨j, ok, old', entry, rfl, at_', nonce', key', -, -⟩
    · rw [key, key']
      exact one.calls was was' passed passed' (nonce ▸ nonce' ▸ same)
    · rw [key, key']
      exact exclusive_lookup alone at_' was passed (nonce ▸ nonce' ▸ same)
  rcases move.accepted_from there' accepted' with
    ⟨old', was', passed', nonce', key'⟩ | ⟨_, _, old', entry', sameLabel, at_', -, key', -, -⟩
  · rw [key, key']
    exact (exclusive_lookup alone at_ was' passed' (nonce ▸ nonce' ▸ same.symm)).symm
  · cases sameLabel
    rw [key, key', Option.some.inj (at_.symm.trans at_')]

theorem pending_step (one : OneKey s) (guarded : Guarded s) (alone : exclusive s label)
    (move : Step D s label s') (there : call ∈ s'.calls) (accepted : call.accepted)
    (certified : certificate ∈ s'.certificates) (same : certificate.1 = call.nonce) :
    certificate.2 = call.publicKeyPEM := by
  rcases move.accepted_from there accepted with
    ⟨old, was, passed, nonce, key⟩ | ⟨j, ok, old, entry, rfl, at_, nonce, key, row, unused⟩
  · rw [key]
    rcases move.certificate_from certified with certified | ⟨j, ok, marked, rfl, at_, stored, rfl⟩
    · exact one.pending was passed certified (same.trans nonce)
    · exact one.calls (List.mem_of_getElem? at_) was (by simp [Call.accepted, stored]) passed
        (same.trans nonce)
  rcases move.certificate_from certified with certified | ⟨_, _, _, otherLabel, -, -, -⟩
  · have registered := guarded.registered_of_lookup (leader_of_exclusive alone at_) certified
      (same.trans nonce) row
    rw [unused] at registered
    cases registered
  · cases otherLabel

theorem certificates_step (one : OneKey s) (move : Step D s label s') {other : T × String}
    (there : certificate ∈ s'.certificates) (there' : other ∈ s'.certificates)
    (same : certificate.1 = other.1) : certificate.2 = other.2 := by
  rcases move.certificate_from there with there | ⟨j, ok, call, rfl, at_, stored, rfl⟩
  · rcases move.certificate_from there' with there' | ⟨j, ok, call, rfl, at_, stored, rfl⟩
    · exact one.certificates there there' same
    · exact one.pending (List.mem_of_getElem? at_) (by simp [Call.accepted, stored]) there same
  rcases move.certificate_from there' with there' | ⟨_, _, call', sameLabel, at_', -, rfl⟩
  · exact (one.pending (List.mem_of_getElem? at_) (by simp [Call.accepted, stored]) there'
      same.symm).symm
  · cases sameLabel
    rw [Option.some.inj (at_.symm.trans at_')]

theorem step (one : OneKey s) (guarded : Guarded s) (alone : exclusive s label)
    (move : Step D s label s') : OneKey s' where
  calls := one.calls_step alone move
  pending := one.pending_step guarded alone move
  certificates := one.certificates_step move

end OneKey

end

/-! ## Runs -/

section

variable {D : Setting T} {start s : State T}

theorem careful_of_keepsOneKey (s : State T) (label : Label T)
    (ok : keepsOneKey D s label = true) : careful D s label = true :=
  (Bool.and_eq_true _ _ ▸ ok).1

omit [DecidableEq T] in
theorem Quiet.oneKey (quiet : Quiet D start) : OneKey start where
  calls := by simp [quiet.calls]
  pending := by simp [quiet.calls]
  certificates := by simp [quiet.certificates]

/-- All certificates issued for one nonce are for the same key. -/
theorem one_key_of_reaches (quiet : Quiet D start)
    (reached : (lifecycle D start).Reaches (fun s label => keepsOneKey D s label = true) s)
    {nonce : T} {publicKeyPEM other : String} (there : (nonce, publicKeyPEM) ∈ s.certificates)
    (there' : (nonce, other) ∈ s.certificates) : publicKeyPEM = other := by
  have one : OneKey s := by
    refine reached.invariant quiet.oneKey ?_
    intro s s' label before one ok stepped
    have guarded := guarded_of_reaches quiet (before.mono careful_of_keepsOneKey)
    exact one.step guarded ((Bool.and_eq_true _ _).mp ok).2 (step_of stepped)
  exact one.certificates there there' rfl

end

/-! ## Two agents with one nonce -/

namespace Race

/-- Tokens that anybody can sign. -/
def setting : Setting Claims where
  clusterID := "cluster"
  shard := "east"
  sign := id
  verify := some
  verify_sign _ := rfl
  storageKey := some

/-- The nonce of the instance. -/
def nonce : Claims where
  subject := "web1"
  kind := "agent"
  clusterID := "cluster"
  shard := "east"
  group := "web"
  tenant := "acme"
  notBefore := 0
  issuedAt := 0
  expiresAt := 600

/-- The record of the instance. -/
def web : InstanceRecord Claims where
  instanceID := "web1"
  tenant := "acme"
  group := "web"
  subnetID := "subnet"
  createdAt := 0
  lastUpdated := 0
  registrationJWT := nonce
  infraConfigHash := "current"

/-- The row is inserted and the record stored. -/
def start : State Claims where
  now := 1
  timeout := 600
  ages := fun _ => 600
  leader := some "first"
  tables := fun _ => (Rows.createInstance .empty "web1" web.preInserted).getD .empty
  objects := Dict.empty.set (recordKey "acme" "web1") (some web)

theorem stored_eq {key : StorageKey} {record : InstanceRecord Claims}
    (stored : start.objects.get key = some (some record)) :
    key = recordKey "acme" "web1" ∧ record = web := by
  have entry := Dict.get_eq_some_iff.mp stored
  cases List.mem_singleton.mp entry
  exact ⟨rfl, rfl⟩

theorem quiet : Quiet setting start where
  creations := rfl
  calls := rfl
  deletions := rfl
  collections := rfl
  registered := rfl
  certificates := rfl
  collected := rfl
  stored := by
    intro key record stored
    obtain ⟨rfl, rfl⟩ := stored_eq stored
    refine ⟨rfl, ?_, ?_⟩
    · intro claims verified
      cases verified
      exact ⟨rfl, rfl⟩
    · intro registered
      cases registered

/-- A call of `RegisterAgent` from its lookup on. -/
def finish (j : Nat) : List (Label Claims) :=
  [.readRecord j true "serial" 1000, .writeRecord j .stored, .mark j true]

/-- Both calls look up the nonce before either has marked the row. -/
def together : List (Label Claims) :=
  [.receive "first" nonce "key-a" {}, .receive "first" nonce "key-b" {}, .lookup 0 true,
    .lookup 1 true] ++ finish 0 ++ finish 1

/-- Both keys receive a certificate. -/
theorem two_keys_certified :
    Quiet setting start ∧ ∃ s, (lifecycle setting start).Reachable s ∧
      (nonce, "key-a") ∈ s.certificates ∧ (nonce, "key-b") ∈ s.certificates := by
  refine ⟨quiet, _, Machine.reachable_of_run together .start rfl, ?_, ?_⟩
  · exact .tail _ (.head _)
  · exact .head _

/-- The second call looks up the nonce when the first has ended. -/
def inTurn : List (Label Claims) :=
  [.receive "first" nonce "key-a" {}, .receive "first" nonce "key-b" {}, .lookup 0 true] ++
    finish 0 ++ [.lookup 1 true]

theorem reaches_inTurn :
    ∃ s, (lifecycle setting start).Reaches (fun s label => keepsOneKey setting s label = true) s ∧
      s.certificates = [(nonce, "key-a")] :=
  ⟨_, Machine.reaches_of_runWithin inTurn .start rfl, rfl⟩

theorem one_key_in_turn :
    ∃ s, (lifecycle setting start).Reaches (fun s label => keepsOneKey setting s label = true) s ∧
      (nonce, "key-a") ∈ s.certificates ∧
      ∀ other, (nonce, other) ∈ s.certificates → "key-a" = other := by
  obtain ⟨s, reached, certificates⟩ := reaches_inTurn
  have there : (nonce, "key-a") ∈ s.certificates := by
    rw [certificates]
    exact .head _
  exact ⟨s, reached, there, fun other there' => one_key_of_reaches quiet reached there there'⟩

end Race

end Nstance.Instances
