import Mathlib.Data.String.Basic
import Nstance.Interaction.Trace
import Nstance.Objects.Dict

/-!
# The log of issued certificates

`GenerateBatch` writes the serial numbers of a batch to one object, whose key has the tenant, the
second and the instance: zeros at the end of a time layout that follow no point or comma are text.
A second batch of an instance in the same second overwrites the first
(`overwritten_in_a_second`). If there is none, and no tenant has a point in its name, the log is
complete (`log_complete`).
-/

namespace Nstance.PKI

open Interaction Objects

/-- A time in UTC. -/
structure Clock where
  year : Nat
  month : Nat
  day : Nat
  hour : Nat
  minute : Nat
  second : Nat
  millisecond : Nat

/-- `Format("20060102150405000")`. -/
def timestamp (now : Clock) : List Char :=
  ([(4, now.year), (2, now.month), (2, now.day), (2, now.hour), (2, now.minute),
    (2, now.second)].flatMap fun field => (Nat.toDigits 10 field.2).leftpad field.1 '0') ++
    ['0', '0', '0']

/-- A certificate to generate. -/
structure CertificateRequest where
  instanceID : String
  tenant : String
  filename : String

/-- A certificate in the log. -/
structure SerialLogEntry where
  certificateName : String
  serialNumber : String

/-- The object of one call. -/
structure LogBatch where
  instanceID : String
  tenant : String
  issuedAt : Clock
  certificates : List SerialLogEntry

/-- The objects by their keys. -/
abbrev Log := Dict String LogBatch

/-- The key of an object. -/
def logFilePath (batch : LogBatch) : String :=
  "certlog/" ++ batch.tenant ++ "." ++ .ofList (timestamp batch.issuedAt) ++ "." ++
    batch.instanceID ++ ".json"

/-- How a write to the storage ends. It may have taken effect when it fails. -/
inductive Put where
  | done
  | refused
  | lost

/-- `WriteBatch`, of entries that there are. -/
def writeBatch (log : Log) (batch : LogBatch) : Put → Except String Unit × Log
  | .done => (.ok (), log.set (logFilePath batch) batch)
  | .refused => (.error "failed to write certificate log to S3", log)
  | .lost => (.error "failed to write certificate log to S3", log.set (logFilePath batch) batch)

/-- What a call is given: the requests, each with the serial number of the certificate that is
generated for it, or why none is; the time; and how the log is written. -/
structure Call where
  requests : List (CertificateRequest × Except String String)
  now : Clock
  put : Put

/-- `GenerateBatch`: the certificates by their serial numbers, and the log. -/
def generateBatch (log : Log) (call : Call) : Except String (List SerialLogEntry) × Log :=
  match call.requests with
  | [] => (.ok [], log)
  | (first, _) :: _ =>
    match call.requests.mapM fun (request, serial) =>
        serial.map (SerialLogEntry.mk request.filename) with
    | .error error => (.error error, log)
    | .ok entries =>
      if first.tenant = "" then (.error "tenant is required for certificate batch", log)
      else
        match writeBatch log ⟨first.instanceID, first.tenant, call.now, entries⟩ call.put with
        | (.error error, log) => (.error ("failed to write certificate serial log: " ++ error), log)
        | (.ok (), log) => (.ok entries, log)

/-- The log, and the certificates that were returned. -/
structure State where
  log : Log := .empty
  returned : List SerialLogEntry := []

/-- Calls one after another. -/
def issuance : Machine State Call where
  start := {}
  step s call := some ⟨(generateBatch s.log call).2,
    (match (generateBatch s.log call).1 with
      | .ok entries => entries
      | .error _ => []) ++ s.returned⟩

/-- The tenant has no point in its name, and its instance no batch in this second. -/
def Apart (s : State) (call : Call) : Prop :=
  ∀ first ∈ call.requests.head?, '.' ∉ first.1.tenant.toList ∧ ∀ path batch,
    s.log.get path = some batch → batch.tenant = first.1.tenant →
      batch.instanceID = first.1.instanceID → timestamp batch.issuedAt ≠ timestamp call.now

/-! ## Keys -/

theorem split_at_point {x y z w : List Char} (first : '.' ∉ x) (second : '.' ∉ z)
    (same : x ++ '.' :: y = z ++ '.' :: w) : x = z ∧ y = w := by
  induction x generalizing z with
  | nil => cases z <;> simp_all
  | cons c x ih => cases z <;> grind

theorem point_notMem_timestamp (now : Clock) : '.' ∉ timestamp now := by
  have digits : ∀ n, '.' ∉ Nat.toDigits 10 n := by
    intro n mem
    exact absurd (Nat.isDigit_of_mem_toDigits (by decide) (by decide) mem) (by decide)
  simp [timestamp, List.leftpad, digits]

theorem logFilePath_inj {a b : LogBatch} (plain : '.' ∉ a.tenant.toList)
    (plain' : '.' ∉ b.tenant.toList) (same : logFilePath a = logFilePath b) :
    a.tenant = b.tenant ∧ timestamp a.issuedAt = timestamp b.issuedAt ∧
      a.instanceID = b.instanceID := by
  have same := congrArg String.toList same
  simp only [logFilePath, String.toList_append, String.toList_ofList, List.append_assoc,
    List.append_cancel_left_eq] at same
  obtain ⟨tenant, rest⟩ := split_at_point plain plain' same
  obtain ⟨time, rest⟩ := split_at_point (point_notMem_timestamp _) (point_notMem_timestamp _) rest
  exact ⟨String.toList_injective tenant, time,
    String.toList_injective (List.append_cancel_right rest)⟩

/-! ## Completeness -/

/-- A call leaves the log as it was and returns nothing, or adds the batch that it returns. -/
theorem generateBatch_cases (log : Log) (call : Call) : (generateBatch log call).2 = log ∧
        (∀ entries, (generateBatch log call).1 = .ok entries → entries = []) ∨
      ∃ first ∈ call.requests.head?, ∃ batch : LogBatch, batch.tenant = first.1.tenant ∧
        batch.instanceID = first.1.instanceID ∧ batch.issuedAt = call.now ∧
        (generateBatch log call).2 = log.set (logFilePath batch) batch ∧
        ∀ entries, (generateBatch log call).1 = .ok entries → entries = batch.certificates := by
  rw [generateBatch]
  split
  · simp
  split
  · simp
  split
  · simp
  rename_i first _ _ requests _ entries _ _
  rw [requests]
  cases call.put with
  | refused => simp [writeBatch]
  | done | lost =>
    exact .inr ⟨_, rfl, ⟨first.instanceID, first.tenant, call.now, entries⟩, by simp [writeBatch]⟩

/-- Every object is under its own key, and every certificate in an object. -/
structure Complete (s : State) : Prop where
  keyed : ∀ path batch, s.log.get path = some batch →
    path = logFilePath batch ∧ '.' ∉ batch.tenant.toList
  logged : ∀ entry ∈ s.returned, ∃ path batch, s.log.get path = some batch ∧
    entry ∈ batch.certificates

theorem Complete.kept {s : State} {call : Call} (complete : Complete s) (apart : Apart s call)
    {path : String} {batch : LogBatch} (there : s.log.get path = some batch) :
    (generateBatch s.log call).2.get path = some batch := by
  rcases generateBatch_cases s.log call with
    ⟨same, -⟩ | ⟨first, named, new, tenant, id, now, written, -⟩
  · rw [same, there]
  obtain ⟨plain, fresh⟩ := apart first named
  obtain ⟨keyed, plain'⟩ := complete.keyed path batch there
  rw [written, Dict.get_set_of_ne, there]
  intro same
  obtain ⟨tenants, times, ids⟩ := logFilePath_inj plain' (tenant ▸ plain) (keyed.symm.trans same)
  exact fresh path batch there (tenants.trans tenant) (ids.trans id) (now ▸ times)

theorem Complete.step {s s' : State} {call : Call} (complete : Complete s) (apart : Apart s call)
    (stepped : issuance.step s call = some s') : Complete s' := by
  cases stepped
  constructor
  · intro path batch there
    rcases generateBatch_cases s.log call with
      ⟨same, -⟩ | ⟨first, named, new, tenant, -, -, written, -⟩
    · exact complete.keyed path batch (same ▸ there)
    by_cases here : path = logFilePath new
    · cases (written ▸ here ▸ there).symm.trans Dict.get_set_self
      exact ⟨here, tenant ▸ (apart first named).1⟩
    · exact complete.keyed path batch ((Dict.get_set_of_ne here).symm.trans (written ▸ there))
  · intro entry mem
    rcases List.mem_append.mp mem with new | old
    · split at new
      · rename_i entries returned
        rcases generateBatch_cases s.log call with ⟨-, none⟩ | ⟨-, -, batch, -, -, -, written, own⟩
        · cases none entries returned ▸ new
        · exact ⟨logFilePath batch, batch, written ▸ Dict.get_set_self, own entries returned ▸ new⟩
      · cases new
    · obtain ⟨path, batch, there, logged⟩ := complete.logged entry old
      exact ⟨path, batch, complete.kept apart there, logged⟩

/-- **The log is complete**: every certificate that a call has returned is in an object, and no
call overwrites an object, if no instance has two batches in one second and no tenant a point in
its name. -/
theorem log_complete {s : State} (reached : issuance.Reaches Apart s) :
    (∀ entry ∈ s.returned, ∃ path batch, s.log.get path = some batch ∧
      ∃ logged ∈ batch.certificates, logged.serialNumber = entry.serialNumber) ∧
    ∀ call s', Apart s call → issuance.step s call = some s' →
      ∀ path batch, s.log.get path = some batch → s'.log.get path = some batch := by
  have complete : Complete s :=
    reached.invariant ⟨by simp [issuance], by simp [issuance]⟩
      fun _ complete apart stepped => complete.step apart stepped
  refine ⟨fun entry mem => ?_, fun call s' apart stepped path batch there => ?_⟩
  · obtain ⟨path, batch, there, logged⟩ := complete.logged entry mem
    exact ⟨path, batch, there, entry, logged, rfl⟩
  · cases stepped
    exact complete.kept apart there

/-- A batch of one certificate for an instance, at a second and millisecond of a minute. -/
def callOf (serial : String) (second millisecond : Nat) : Call :=
  ⟨[(⟨"node", "acme", "tls.crt"⟩, .ok serial)], ⟨2026, 1, 2, 3, 4, second, millisecond⟩, .done⟩

/-- Two batches of an instance in different seconds: the second keeps the object of the first, and
the certificates of both are in the log. -/
theorem two_batches_complete : ∃ s s', issuance.Reaches Apart s ∧ Apart s (callOf "2" 6 0) ∧
    issuance.step s (callOf "2" 6 0) = some s' ∧
    s'.returned.map SerialLogEntry.serialNumber = ["2", "1"] ∧
    (∀ path batch, s.log.get path = some batch → s'.log.get path = some batch) ∧
    ∀ entry ∈ s'.returned, ∃ path batch, s'.log.get path = some batch ∧
      ∃ logged ∈ batch.certificates, logged.serialNumber = entry.serialNumber := by
  have reached : issuance.Reaches Apart _ :=
    Machine.Reaches.start.extend (callOf "1" 5 0) (by simp [Apart, callOf, issuance]) rfl
  have apart : ∀ s, issuance.step issuance.start (callOf "1" 5 0) = some s →
      Apart s (callOf "2" 6 0) := by
    rintro _ ⟨⟩ _ ⟨⟩
    refine ⟨by decide, fun path batch there _ _ => ?_⟩
    have mem := Dict.get_eq_some_iff.mp there
    cases List.mem_singleton.mp mem
    decide +kernel
  have both := reached.extend (callOf "2" 6 0) (apart _ rfl) rfl
  exact ⟨_, _, reached, apart _ rfl, rfl, rfl, (log_complete reached).2 _ _ (apart _ rfl) rfl,
    (log_complete both).1⟩

/-- Two batches of an instance, some milliseconds apart: the first is no longer in the log. -/
theorem overwritten_in_a_second : ∃ s, issuance.Reachable s ∧
    s.returned.map SerialLogEntry.serialNumber = ["2", "1"] ∧
    s.log.entries.map (fun entry => entry.2.certificates.map SerialLogEntry.serialNumber) =
      [["2"]] :=
  ⟨_, Machine.reachable_of_run [callOf "1" 5 0, callOf "2" 5 7] .start rfl, rfl, by decide +kernel⟩

end Nstance.PKI
