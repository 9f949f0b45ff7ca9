import Nstance.Encoding.Base64
import Nstance.Instances.Lifecycle

/-!
# Operator nonces

An operator registers with a signed token of three segments. The signature is made over the
texts of the first two, and is itself decoded leniently.

The public key that first registers with a nonce is bound to it by an object that is created
once. Its name is a digest of the request's text, so two spellings of one token are bound
separately (`Respelling.respelled_nonce_certified`). If every request spells its token as it
was issued, a token has one key (`operator_nonce_bound`).
-/

namespace Nstance.Registration

open Objects Interaction Encoding
open Nstance.Instances (Claims Time Put)

/-! ## Tokens and their texts -/

/-- The signed segments and the bytes of the signature. -/
structure T where
  header : List Char
  payload : List Char
  signature : List UInt8
deriving DecidableEq

/-- Split at points. -/
def segments : List Char → List (List Char)
  | [] => [[]]
  | char :: rest =>
    if char = '.' then [] :: segments rest
    else
      match segments rest with
      | [] => [[char]]
      | first :: others => (char :: first) :: others

/-- The token that the JWT library makes of a text. -/
def parse (text : String) : Option T :=
  match segments text.toList with
  | [header, payload, signature] =>
    (Base64.decode signature).map fun bytes => ⟨header, payload, bytes⟩
  | _ => none

/-- The text of a token. -/
def T.text (token : T) : String :=
  String.ofList (token.header ++ '.' :: token.payload ++ '.' :: Base64.encode token.signature)

/-! ## Registration -/

/-- What is fixed for a cluster. `verify` checks the signature over the header and the
payload, and reads the claims. The digest is SHA-256, taken to be injective. -/
structure Setting (Digest : Type) where
  clusterID : String
  verify : T → Option Claims
  digest : String → Digest
  injective : Function.Injective digest

/-- Where a registration is. -/
inductive Stage where
  /-- The token is valid and a certificate is generated. -/
  | validated
  /-- The conditional create was refused because there is a binding. -/
  | contested
  /-- `claimOperatorNonce` has returned without error. -/
  | claimed
  | returned
deriving DecidableEq

/-- A call of `RegisterOperator`, on any server. -/
structure Call where
  request : String
  token : T
  publicKeyPEM : String
  stage : Stage

/-- The bindings, and the registrations under way. -/
structure State (Digest : Type) where
  now : Time
  /-- The objects below `operator-nonce/`, by the digest in their name. -/
  bindings : Dict Digest String
  calls : List Call := []
  /-- The requests, with their key, that `claimOperatorNonce` has accepted. -/
  accepted : List (String × String) := []
  /-- The tokens and keys that a certificate was returned for. -/
  certificates : List (T × String) := []

/-- The steps of registrations, and the passing of time. -/
inductive Label where
  | tick (elapsed : Nat)
  | receive (request publicKeyPEM : String)
  /-- `PutIfMatch` with the empty etag. -/
  | create (j : Nat) (put : Put)
  /-- `Get` of the binding, and the comparison. -/
  | compare (j : Nat) (ok : Bool)
  /-- `storeRegistrationInS3`, and the answer. -/
  | store (j : Nat) (ok : Bool)
  /-- The server stops, or the call ends for another reason. -/
  | abandon (j : Nat)

section

variable {Digest : Type} (D : Setting Digest) (s : State Digest)

/-- `nonce.Validate` for an operator, and the checks of the cluster. -/
def Setting.validate (now : Time) (token : T) : Bool :=
  (D.verify token).any fun claims =>
    claims.notBefore ≤ now && now < claims.expiresAt && claims.kind = "operator" &&
      claims.subject ≠ "" && claims.clusterID ≠ "" && claims.tenant ≠ "" &&
      claims.clusterID = D.clusterID && claims.subject = claims.clusterID

/-- A registration has moved on. -/
def State.withCall (j : Nat) (call : Call) (stage : Stage) : State Digest :=
  { s with calls := s.calls.set j { call with stage := stage } }

/-- The call passes `claimOperatorNonce`. -/
def State.claim (j : Nat) (call : Call) : State Digest :=
  { s.withCall j call .claimed with
    accepted := (call.request, call.publicKeyPEM) :: s.accepted }

/-- A registration arrives with a valid token. -/
def receive (request publicKeyPEM : String) : Option (State Digest) :=
  (parse request).bind fun token =>
    if D.validate s.now token then
      some { s with calls := s.calls ++
        [{ request, token, publicKeyPEM, stage := .validated }] }
    else none

/-- The certificate is recorded and returned, or not. -/
def store (j : Nat) (ok : Bool) : Option (State Digest) :=
  (s.calls[j]?).bind fun call =>
    if call.stage = .claimed then
      some { s.withCall j call .returned with
        certificates := if ok then (call.token, call.publicKeyPEM) :: s.certificates
          else s.certificates }
    else none

end

section

variable {Digest : Type} [DecidableEq Digest] (D : Setting Digest) (s : State Digest)

/-- The binding, if there is none, is created atomically. A failed create may have been
applied. -/
def create (j : Nat) (put : Put) : Option (State Digest) :=
  (s.calls[j]?).bind fun call =>
    if call.stage = .validated then
      match s.bindings.get (D.digest call.request) with
      | some _ => some (s.withCall j call (if put.reported then .contested else .returned))
      | none =>
        let bindings := if put.applied then
          s.bindings.set (D.digest call.request) call.publicKeyPEM else s.bindings
        let s := { s with bindings := bindings }
        some (if put.reported then s.claim j call else s.withCall j call .returned)
    else none

/-- Compare with the key that is bound. -/
def compare (j : Nat) (ok : Bool) : Option (State Digest) :=
  (s.calls[j]?).bind fun call =>
    if call.stage = .contested then
      match (if ok then s.bindings.get (D.digest call.request) else none) with
      | some existing =>
        if existing = call.publicKeyPEM then some (s.claim j call)
        else some (s.withCall j call .returned)
      | none => some (s.withCall j call .returned)
    else none

/-- One step. -/
def step : Label → Option (State Digest)
  | .tick elapsed => some { s with now := s.now + elapsed }
  | .receive request publicKeyPEM => receive D s request publicKeyPEM
  | .create j put => create D s j put
  | .compare j ok => compare D s j ok
  | .store j ok => store s j ok
  | .abandon j => (s.calls[j]?).map fun call => s.withCall j call .returned

/-- Runs from given bindings. -/
def registration (now : Time) (bindings : Dict Digest String) : Machine (State Digest) Label where
  start := { now, bindings }
  step := step D

end

/-! ## What each step can do -/

section

variable {Digest : Type} [DecidableEq Digest]

/-- What each label does, with what it found before. -/
inductive Step (D : Setting Digest) (s : State Digest) : Label → State Digest → Prop where
  | tick {elapsed : Nat} : Step D s (.tick elapsed) { s with now := s.now + elapsed }
  | received {request publicKeyPEM : String} {token : T} (parsed : parse request = some token) :
      Step D s (.receive request publicKeyPEM) { s with calls := s.calls ++
        [{ request, token, publicKeyPEM, stage := .validated }] }
  | contested {label : Label} {j : Nat} {call : Call} {existing : String}
      (there : s.calls[j]? = some call)
      (bound : s.bindings.get (D.digest call.request) = some existing) :
      Step D s label (s.withCall j call .contested)
  | created {label : Label} {j : Nat} {call : Call} (there : s.calls[j]? = some call)
      (free : s.bindings.get (D.digest call.request) = none) :
      Step D s label (State.claim
        { s with bindings := s.bindings.set (D.digest call.request) call.publicKeyPEM } j call)
  | bound {label : Label} {j : Nat} {call : Call} (there : s.calls[j]? = some call)
      (free : s.bindings.get (D.digest call.request) = none) :
      Step D s label (State.withCall
        { s with bindings := s.bindings.set (D.digest call.request) call.publicKeyPEM } j call
        .returned)
  | compared {label : Label} {j : Nat} {call : Call} (there : s.calls[j]? = some call)
      (bound : s.bindings.get (D.digest call.request) = some call.publicKeyPEM) :
      Step D s label (s.claim j call)
  | certified {label : Label} {j : Nat} {call : Call} (there : s.calls[j]? = some call)
      (claimed : call.stage = .claimed) :
      Step D s label { s.withCall j call .returned with
        certificates := (call.token, call.publicKeyPEM) :: s.certificates }
  | returned {label : Label} {j : Nat} {call : Call} (there : s.calls[j]? = some call) :
      Step D s label (s.withCall j call .returned)

variable {D : Setting Digest} {s s' : State Digest} {j : Nat} {label : Label}

theorem step_create {put : Put} (stepped : create D s j put = some s') :
    Step D s (.create j put) s' := by
  obtain ⟨call, there, stepped⟩ := Option.bind_eq_some_iff.mp stepped
  split at stepped
  · split at stepped
    · rename_i existing bound
      cases stepped
      split
      · exact .contested there bound
      · exact .returned there
    rename_i free
    cases put with
    | stored =>
      cases stepped
      exact .created there free
    | lost =>
      cases stepped
      exact .returned there
    | unsure =>
      cases stepped
      exact .bound there free
  · cases stepped

theorem step_compare {ok : Bool} (stepped : compare D s j ok = some s') :
    Step D s (.compare j ok) s' := by
  obtain ⟨call, there, stepped⟩ := Option.bind_eq_some_iff.mp stepped
  split at stepped
  · split at stepped
    · rename_i existing found
      split at found
      · split at stepped <;> cases stepped
        · rename_i same
          exact .compared there (same ▸ found)
        · exact .returned there
      · cases found
    · cases stepped
      exact .returned there
  · cases stepped

theorem step_store {ok : Bool} (stepped : store s j ok = some s') : Step D s (.store j ok) s' := by
  obtain ⟨call, there, stepped⟩ := Option.bind_eq_some_iff.mp stepped
  split at stepped <;> cases stepped
  rename_i claimed
  cases ok with
  | true => exact .certified there claimed
  | false => exact .returned there

/-- **Every step has one of the outcomes.** -/
theorem step_of (stepped : step D s label = some s') : Step D s label s' := by
  cases label with
  | tick elapsed =>
    cases stepped
    exact .tick
  | receive request publicKeyPEM =>
    obtain ⟨token, parsed, stepped⟩ := Option.bind_eq_some_iff.mp stepped
    split at stepped <;> cases stepped
    exact .received parsed
  | create j put => exact step_create stepped
  | compare j ok => exact step_compare stepped
  | store j ok => exact step_store stepped
  | abandon j =>
    obtain ⟨call, there, rfl⟩ := Option.map_eq_some_iff.mp stepped
    exact .returned there

theorem Step.binding_kept (move : Step D s label s') {digest : Digest} {publicKeyPEM : String}
    (bound : s.bindings.get digest = some publicKeyPEM) :
    s'.bindings.get digest = some publicKeyPEM := by
  have fresh : ∀ {call : Call}, s.bindings.get (D.digest call.request) = none →
      (s.bindings.set (D.digest call.request) call.publicKeyPEM).get digest =
        some publicKeyPEM := by
    intro call free
    have different : digest ≠ D.digest call.request := by
      rintro rfl
      rw [free] at bound
      cases bound
    rw [Dict.get_set_of_ne different, bound]
  cases move with
  | created _ free | bound _ free => exact fresh free
  | _ => exact bound

theorem Step.call_from (move : Step D s label s') {call : Call} (there : call ∈ s'.calls) :
    (∃ old ∈ s.calls, call = { old with stage := call.stage }) ∨
      label = .receive call.request call.publicKeyPEM ∧ parse call.request = some call.token ∧
        call.stage = .validated := by
  have moved : ∀ {j : Nat} {old : Call} {stage : Stage}, s.calls[j]? = some old →
      call ∈ s.calls.set j { old with stage := stage } →
        ∃ old ∈ s.calls, call = { old with stage := call.stage } := by
    intro j old stage at_ there
    rcases List.mem_or_eq_of_mem_set there with there | rfl
    · exact ⟨call, there, rfl⟩
    · exact ⟨old, List.mem_of_getElem? at_, rfl⟩
  cases move with
  | tick => exact .inl ⟨call, there, rfl⟩
  | received parsed =>
    rcases List.mem_append.mp there with there | there
    · exact .inl ⟨call, there, rfl⟩
    · rw [List.mem_singleton.mp there]
      exact .inr ⟨rfl, parsed, rfl⟩
  | contested at_ | created at_ | bound at_ | compared at_ => exact .inl (moved at_ there)
  | certified at_ | returned at_ => exact .inl (moved at_ there)

end

/-! ## Bindings -/

section

variable {Digest : Type} [DecidableEq Digest]

/-- What was accepted or is claimed is bound. -/
structure Bound (D : Setting Digest) (s : State Digest) : Prop where
  accepted : ∀ {request publicKeyPEM : String}, (request, publicKeyPEM) ∈ s.accepted →
    s.bindings.get (D.digest request) = some publicKeyPEM
  claimed : ∀ {call : Call}, call ∈ s.calls → call.stage = .claimed →
    (call.request, call.publicKeyPEM) ∈ s.accepted

namespace Bound

variable {D : Setting Digest} {s s' : State Digest} {label : Label}

theorem accepted_step (bound : Bound D s) (move : Step D s label s')
    {request publicKeyPEM : String} (there : (request, publicKeyPEM) ∈ s'.accepted) :
    s'.bindings.get (D.digest request) = some publicKeyPEM := by
  have before : (request, publicKeyPEM) ∈ s.accepted →
      s'.bindings.get (D.digest request) = some publicKeyPEM :=
    fun there => move.binding_kept (bound.accepted there)
  cases move with
  | created =>
    rcases List.mem_cons.mp there with same | there
    · cases same
      exact Dict.get_set_self
    · exact before there
  | compared _ existing =>
    rcases List.mem_cons.mp there with same | there
    · cases same
      exact existing
    · exact before there
  | _ => exact before there

theorem claimed_step (bound : Bound D s) (move : Step D s label s') {call : Call}
    (there : call ∈ s'.calls) (stage : call.stage = .claimed) :
    (call.request, call.publicKeyPEM) ∈ s'.accepted := by
  have other : ∀ {j : Nat} {new : Call}, call ∈ s.calls.set j new → new.stage ≠ .claimed →
      (call.request, call.publicKeyPEM) ∈ s.accepted := by
    intro j new there different
    rcases List.mem_or_eq_of_mem_set there with there | rfl
    · exact bound.claimed there stage
    · exact absurd stage different
  have claims : ∀ {j : Nat} {new : Call}, call ∈ s.calls.set j { new with stage := .claimed } →
      (call.request, call.publicKeyPEM) ∈ (new.request, new.publicKeyPEM) :: s.accepted := by
    intro j new there
    rcases List.mem_or_eq_of_mem_set there with there | rfl
    · exact List.mem_cons_of_mem _ (bound.claimed there stage)
    · exact List.mem_cons_self
  cases move with
  | tick => exact bound.claimed there stage
  | received =>
    rcases List.mem_append.mp there with there | there
    · exact bound.claimed there stage
    · rw [List.mem_singleton.mp there] at stage
      cases stage
  | contested | bound | certified | returned => exact other there (by simp)
  | created | compared => exact claims there

end Bound

theorem bound_of_reaches {D : Setting Digest} {now : Time} {bindings : Dict Digest String}
    {allowed : State Digest → Label → Prop} {s : State Digest}
    (reached : (registration D now bindings).Reaches allowed s) : Bound D s := by
  refine reached.invariant (P := Bound D) ⟨?_, ?_⟩ ?_
  · intro request publicKeyPEM there
    cases there
  · intro call there
    cases there
  · intro s s' label _ bound _ stepped
    exact ⟨bound.accepted_step (step_of stepped), bound.claimed_step (step_of stepped)⟩

/-- A request whose token and key were accepted before is accepted again: the create finds
the binding, and the comparison succeeds. -/
theorem Bound.retried {D : Setting Digest} {s : State Digest} (bound : Bound D s) {j : Nat}
    {call : Call} (there : s.calls[j]? = some call)
    (accepted : (call.request, call.publicKeyPEM) ∈ s.accepted) :
    (call.stage = .validated → step D s (.create j .stored) = some (s.withCall j call .contested)) ∧
      (call.stage = .contested → step D s (.compare j true) = some (s.claim j call)) := by
  have existing := bound.accepted accepted
  constructor
  · intro validated
    simp [step, create, there, validated, existing, Put.reported]
  · intro contested
    simp [step, compare, there, contested, existing]

end

/-! ## Requests that are spelled as issued -/

section

variable {Digest : Type} [DecidableEq Digest]

/-- Tokens come in the spelling they were issued in. -/
def spelledAsIssued : Label → Bool
  | .receive request _ => (parse request).all fun token => token.text = request
  | _ => true

/-- Every call has spelled its token as issued, and every certificate comes from a request
that did. -/
structure Spelled (s : State Digest) : Prop where
  calls : ∀ {call : Call}, call ∈ s.calls → call.request = call.token.text
  certificates : ∀ {token : T} {publicKeyPEM : String},
    (token, publicKeyPEM) ∈ s.certificates → (token.text, publicKeyPEM) ∈ s.accepted

variable {D : Setting Digest} {s s' : State Digest} {label : Label}

theorem Step.accepted_mono (move : Step D s label s') {entry : String × String}
    (there : entry ∈ s.accepted) : entry ∈ s'.accepted := by
  cases move with
  | created | compared => exact List.mem_cons_of_mem _ there
  | _ => exact there

theorem Spelled.step (spelled : Spelled s) (bound : Bound D s) (ok : spelledAsIssued label)
    (move : Step D s label s') : Spelled s' where
  calls := by
    intro call there
    rcases move.call_from there with ⟨old, was, same⟩ | ⟨rfl, parsed, -⟩
    · have issued := spelled.calls was
      rw [same]
      exact issued
    · simp only [spelledAsIssued, parsed, Option.all_some, decide_eq_true_eq] at ok
      exact ok.symm
  certificates := by
    intro token publicKeyPEM there
    have before : (token, publicKeyPEM) ∈ s.certificates →
        (token.text, publicKeyPEM) ∈ s'.accepted :=
      fun there => move.accepted_mono (spelled.certificates there)
    cases move with
    | certified at_ claimed =>
      rcases List.mem_cons.mp there with same | there
      · cases same
        have mem := List.mem_of_getElem? at_
        rw [← spelled.calls mem]
        exact bound.claimed mem claimed
      · exact before there
    | _ => exact before there

/-- A token spelled as issued is bound to one key, which may register again. -/
theorem operator_nonce_bound (D : Setting Digest) (now : Time) (bindings : Dict Digest String) :
    (∀ s, (registration D now bindings).Reaches (fun _ label => spelledAsIssued label = true) s →
      ∀ token publicKeyPEM other, (token, publicKeyPEM) ∈ s.certificates →
        (token, other) ∈ s.certificates → publicKeyPEM = other) ∧
    ∀ s, (registration D now bindings).Reachable s → ∀ j call, s.calls[j]? = some call →
      (call.request, call.publicKeyPEM) ∈ s.accepted →
        (call.stage = .validated →
          step D s (.create j .stored) = some (s.withCall j call .contested)) ∧
        (call.stage = .contested → step D s (.compare j true) = some (s.claim j call)) := by
  constructor
  · intro s reached token publicKeyPEM other there there'
    have spelled : Spelled s := by
      refine reached.invariant (P := Spelled) ⟨?_, ?_⟩ ?_
      · intro call there
        cases there
      · intro token publicKeyPEM there
        cases there
      · intro s s' label before spelled ok stepped
        exact spelled.step (bound_of_reaches before) ok (step_of stepped)
    have bound := bound_of_reaches reached
    have first := bound.accepted (spelled.certificates there)
    have second := bound.accepted (spelled.certificates there')
    exact Option.some.inj (first.symm.trans second)
  · intro s reached j call there accepted
    exact (bound_of_reaches reached).retried there accepted

end

/-! ## Two spellings of one token -/

namespace Respelling

/-- A token. -/
def token : T where
  header := ['h']
  payload := ['p']
  signature := List.replicate 64 0

/-- What it says. -/
def claims : Claims where
  subject := "cluster"
  kind := "operator"
  clusterID := "cluster"
  shard := ""
  group := ""
  tenant := "acme"
  notBefore := 0
  issuedAt := 0
  expiresAt := 600

/-- One token is valid. -/
def setting : Setting String where
  clusterID := "cluster"
  verify given := if given = token then some claims else none
  digest := id
  injective := Function.injective_id

/-- The issued text with another last digit. -/
def respelled : String :=
  String.ofList (token.header ++ '.' :: token.payload ++ '.' :: (List.replicate 85 'A' ++ ['B']))

/-- Two operators register with the two spellings, one after the other. -/
def registrations : List Label :=
  [.receive token.text "key-a", .create 0 .stored, .store 0 true,
    .receive respelled "key-b", .create 1 .stored, .store 1 true]

/-- Two keys are certified for one token under two spellings. -/
theorem respelled_nonce_certified :
    ∃ s, (registration setting 0 Dict.empty).Reachable s ∧
      (token, "key-a") ∈ s.certificates ∧ (token, "key-b") ∈ s.certificates :=
  ⟨_, Machine.reachable_of_run registrations .start rfl, by decide, by decide⟩

/-- An operator registers with the text of the token as it was issued, and once more. -/
def retry : List Label :=
  [.receive token.text "key-a", .create 0 .stored, .store 0 true, .receive token.text "key-a"]

theorem reaches_retry : ∃ s, (registration setting 0 Dict.empty).Reaches
        (fun _ label => spelledAsIssued label = true) s ∧
      s.calls[1]? = some ⟨token.text, token, "key-a", .validated⟩ ∧
      s.accepted = [(token.text, "key-a")] ∧ s.certificates = [(token, "key-a")] :=
  ⟨_, Machine.reaches_of_runWithin retry .start rfl, rfl, rfl, rfl⟩

theorem nonce_bound_on_retry :
    ∃ s, (registration setting 0 Dict.empty).Reaches
        (fun _ label => spelledAsIssued label = true) s ∧
      (token, "key-a") ∈ s.certificates ∧
      (∀ other, (token, other) ∈ s.certificates → "key-a" = other) ∧
      step setting s (.create 1 .stored) =
        some (s.withCall 1 ⟨token.text, token, "key-a", .validated⟩ .contested) := by
  obtain ⟨s, reached, there, accepted, certificates⟩ := reaches_retry
  have certified : (token, "key-a") ∈ s.certificates := by simp [certificates]
  have bound := operator_nonce_bound setting 0 Dict.empty
  have again := bound.2 s (reached.mono fun _ _ _ => trivial) 1 _ there (by simp [accepted])
  exact ⟨s, reached, certified, fun other => bound.1 s reached token "key-a" other certified,
    again.1 rfl⟩

end Respelling

end Nstance.Registration
