import Nstance.Instances.Lifecycle

/-!
# What each step of the lifecycle can do

`Step` lists the outcomes of the steps (`step_of`). What follows says of each part of the
state where its new contents come from.
-/

namespace Nstance.Instances

open Objects Interaction

variable {T : Type} [DecidableEq T]

/-- What each label does, with what it found before. -/
inductive Step (D : Setting T) (s : State T) : Label T → State T → Prop where
  | tick {elapsed : Nat} : Step D s (.tick elapsed) { s with now := s.now + elapsed }
  | refresh {timeout : Duration} : Step D s (.refresh timeout) { s with timeout := timeout }
  | restart {server : ServerID} : Step D s (.restart server)
      { s with ages := fun other => if other = server then s.timeout else s.ages other }
  | led {server : ServerID} {surroundings : Surroundings T} {t : Rows T}
      (rebuilt : (rebuildIn s surroundings).rebuildCache (s.tables server) = (.ok (), t)) :
      Step D s (.lead server surroundings) { s.withTable server t with leader := some server }
  | unled {server : ServerID} {surroundings : Surroundings T} {failure : RebuildError}
      {t : Rows T}
      (failed : (rebuildIn s surroundings).rebuildCache (s.tables server) = (.error failure, t)) :
      Step D s (.lead server surroundings) { s.withTable server t with leader := none }
  | created {server : ServerID} {request : CreateInstanceRequest} : Step D s
      (.create server request) { s with creations := s.creations ++ [signed D s server request] }
  | inserted {k : Nat} {ok : Bool} {creation : Creation T} {t : Rows T}
      (there : s.creations[k]? = some creation)
      (fresh : (s.tables creation.server).createInstance creation.record.instanceID
        (creation.record.at s.now).preInserted = some t) :
      Step D s (.preInsert k ok) ((s.withTable creation.server t).withCreation k
        { creation with record := creation.record.at s.now, stage := .inserted })
  | creationStored {k : Nat} {put : Put} {creation : Creation T} {stage : CreationStage}
      {key : StorageKey} (there : s.creations[k]? = some creation)
      (key_of : D.keyOf creation.record = some key) :
      Step D s (.storeRecord k put) { s with
        objects := s.objects.set key (some creation.record)
        creations := s.creations.set k { creation with stage := stage } }
  | launched {k : Nat} {answer : Option ProviderResponse} {creation : Creation T}
      {response : ProviderResponse} (there : s.creations[k]? = some creation) :
      Step D s (.launch k answer) (s.withCreation k
        { creation with record := creation.record.launched s.now response, stage := .launched })
  | updated {k : Nat} {ok : Bool} {creation : Creation T} {t : Rows T}
      (there : s.creations[k]? = some creation)
      (written : (s.tables creation.server).updateInstance s.now creation.record.instanceID
        (creation.record.updated s.now) = some t) :
      Step D s (.updateRow k ok) ((s.withTable creation.server t).withCreation k
        { creation with stage := .returned })
  | creationMoved {label : Label T} {k : Nat} {creation : Creation T}
      {stage : CreationStage} (there : s.creations[k]? = some creation) :
      Step D s label (s.withCreation k { creation with stage := stage })
  | received {server : ServerID} {nonce : T} {publicKeyPEM : String} {report : Rows.Report}
      {claims : Claims} (leading : s.leader = some server)
      (valid : D.validate s.now nonce = some claims) :
      Step D s (.receive server nonce publicKeyPEM report) { s with calls := s.calls ++
        [{ server, nonce, claims, publicKeyPEM, report, stage := .validated }] }
  | found {j : Nat} {ok : Bool} {call : Call T} {entry : InstanceID × Row T}
      (there : s.calls[j]? = some call) (validated : call.stage = .validated)
      (row : (s.tables call.server).getInstanceByNonce call.nonce = some entry)
      (unused : entry.2.registeredAt = none) :
      Step D s (.lookup j ok) (s.withCall j call (.found entry.2.providerID))
  | read {j : Nat} {ok : Bool} {certSerial : String} {certExpiresAt : Time} {call : Call T}
      {providerID : Option ProviderID} {record : InstanceRecord T}
      (there : s.calls[j]? = some call) (found : call.stage = .found providerID)
      (keyed : call.publicKeyPEM ≠ "")
      (stored : s.recordFor D call.claims.tenant call.claims.subject = some record) :
      Step D s (.readRecord j ok certSerial certExpiresAt) (s.withCall j call
        (.read (record.registration s.now call.publicKeyPEM certSerial certExpiresAt providerID
          call.report)))
  | registrationStored {j : Nat} {put : Put} {call : Call T} {record : InstanceRecord T}
      {stage : CallStage T} {key : StorageKey} (there : s.calls[j]? = some call)
      (reading : call.stage = .read record) (key_of : D.keyOf record = some key)
      (next : stage = .stored ∨ stage = .returned) :
      Step D s (.writeRecord j put) { s with
        objects := s.objects.set key (some record)
        calls := s.calls.set j { call with stage := stage }
        registered := call.nonce :: s.registered }
  | marked {j : Nat} {call : Call T} (there : s.calls[j]? = some call)
      (stored : call.stage = .stored) :
      Step D s (.mark j true) (State.withTable
        { s.withCall j call .returned with
          certificates := (call.nonce, call.publicKeyPEM) :: s.certificates } call.server
        ((s.tables call.server).markInstanceRegistered s.now call.claims.subject
          call.publicKeyPEM call.report))
  | unmarked {j : Nat} {call : Call T} (there : s.calls[j]? = some call)
      (stored : call.stage = .stored) :
      Step D s (.mark j false) { s.withCall j call .returned with
        certificates := (call.nonce, call.publicKeyPEM) :: s.certificates }
  | callReturned {label : Label T} {j : Nat} {call : Call T}
      (there : s.calls[j]? = some call) : Step D s label (s.withCall j call .returned)
  | reported {server : ServerID} {id : InstanceID} {health : String} {t : Rows T}
      (written : (s.tables server).updateInstanceHealth s.now id health = some t) :
      Step D s (.health server id health) (s.withTable server t)
  | deleting {tenant : Tenant} {id : InstanceID} {record : InstanceRecord T}
      (stored : s.recordFor D tenant id = some record) :
      Step D s (.readDeleting tenant id) { s with deletions := s.deletions ++
        [some { record with status := "deleting", lastUpdated := s.now }] }
  | deletionStored {k : Nat} {put : Put} {record : InstanceRecord T} {key : StorageKey}
      (there : s.deletions[k]? = some (some record)) (key_of : D.keyOf record = some key) :
      Step D s (.writeDeleting k put) { s with
        objects := s.objects.set key (some record)
        deletions := s.deletions.set k none }
  | deletionDropped {k : Nat} {put : Put} :
      Step D s (.writeDeleting k put) { s with deletions := s.deletions.set k none }
  | deleted {server : ServerID} {id : InstanceID} {t : Rows T}
      (written : (s.tables server).deleteInstance s.now id = some t) :
      Step D s (.softDelete server id) (s.withTable server t)
  | purged {server : ServerID} {id : InstanceID} {t : Rows T}
      (written : (s.tables server).purgeDeletedInstance id = some t) :
      Step D s (.purge server id) (s.withTable server t)
  | erased {key : StorageKey} : Step D s (.erase key) { s with objects := s.objects.erase key }
  | collecting {server : ServerID} (leading : s.leader = some server) :
      Step D s (.find server) { s with collections := s.collections ++
        [(s.tables server).findDanglingInstances s.now (s.ages server)] }
  | terminated {k : Nat} {ok : Bool} {entry : InstanceID × Row T}
      {rest : List (InstanceID × Row T)} {collected : List (T × Time)}
      (there : s.collections[k]? = some (entry :: rest))
      (next : collected = s.collected ∨ collected = (entry.2.nonce, s.now) :: s.collected) :
      Step D s (.terminate k ok)
        { s with collections := s.collections.set k rest, collected := collected }

section

variable {D : Setting T} {s s' : State T}

omit [DecidableEq T] in
theorem withRecord_cases (D : Setting T) (s : State T) (put : Put) (record : InstanceRecord T) :
    (s.withRecord D put record = s ∧ State.reports D put record = false ∧
        (put.applied && (D.keyOf record).isSome) = false) ∨
      ∃ key, D.keyOf record = some key ∧ put.applied = true ∧
        s.withRecord D put record = { s with objects := s.objects.set key (some record) } := by
  rw [State.withRecord, State.reports]
  cases key_of : D.keyOf record with
  | none => exact .inl ⟨rfl, by simp, by simp⟩
  | some key =>
    cases put with
    | stored | unsure => exact .inr ⟨key, rfl, rfl, rfl⟩
    | lost => exact .inl ⟨rfl, rfl, rfl⟩

variable {put : Put} {server : ServerID} {k : Nat} {ok : Bool} {j : Nat}

theorem step_lead {surroundings : Surroundings T}
    (stepped : some (lead s server surroundings) = some s') :
    Step D s (.lead server surroundings) s' := by
  rw [lead] at stepped
  split at stepped <;> cases stepped
  · rename_i rebuilt
    exact .led rebuilt
  rename_i failed
  exact .unled failed

theorem step_create {request : CreateInstanceRequest}
    (stepped : create D s server request = some s') : Step D s (.create server request) s' := by
  rw [create] at stepped
  split at stepped <;> cases stepped
  exact .created

theorem step_preInsert (stepped : preInsert s k ok = some s') : Step D s (.preInsert k ok) s' := by
  obtain ⟨creation, there, stepped⟩ := Option.bind_eq_some_iff.mp stepped
  split at stepped
  · simp only at stepped
    split at stepped <;> cases stepped
    · rename_i t written
      split at written
      · exact .inserted there written
      · cases written
    · exact .creationMoved there
  · cases stepped

theorem step_storeRecord (stepped : storeRecord D s k put = some s') :
    Step D s (.storeRecord k put) s' := by
  obtain ⟨creation, there, stepped⟩ := Option.bind_eq_some_iff.mp stepped
  -- both stores leave a state of this form
  have stored : ∀ stage, Step D s (.storeRecord k put)
      ((s.withRecord D put creation.record).withCreation k { creation with stage := stage }) := by
    intro stage
    rcases withRecord_cases D s put creation.record with ⟨same, -, -⟩ | ⟨key, key_of, -, written⟩
    · rw [same]
      exact .creationMoved there
    · rw [written]
      exact .creationStored there key_of
  split at stepped
  · cases stepped
    exact stored _
  split at stepped <;> cases stepped
  exact stored _

theorem step_launch {response : Option ProviderResponse} (stepped : launch s k response = some s') :
    Step D s (.launch k response) s' := by
  obtain ⟨creation, there, stepped⟩ := Option.bind_eq_some_iff.mp stepped
  split at stepped
  · split at stepped <;> cases stepped
    · exact .launched there
    · exact .creationMoved there
  · cases stepped

theorem step_updateRow (stepped : updateRow s k ok = some s') : Step D s (.updateRow k ok) s' := by
  obtain ⟨creation, there, stepped⟩ := Option.bind_eq_some_iff.mp stepped
  split at stepped
  · split at stepped <;> cases stepped
    · rename_i t written
      split at written
      · exact .updated there written
      · cases written
    · exact .creationMoved there
  · cases stepped

theorem step_receive {nonce : T} {publicKeyPEM : String} {report : Rows.Report}
    (stepped : receive D s server nonce publicKeyPEM report = some s') :
    Step D s (.receive server nonce publicKeyPEM report) s' := by
  rw [receive] at stepped
  split at stepped
  · rename_i leading
    obtain ⟨claims, valid, stepped⟩ := Option.bind_eq_some_iff.mp stepped
    split at stepped <;> cases stepped
    exact .received leading valid
  · cases stepped

theorem step_lookup (stepped : lookup s j ok = some s') : Step D s (.lookup j ok) s' := by
  obtain ⟨call, there, stepped⟩ := Option.bind_eq_some_iff.mp stepped
  split at stepped
  · rename_i validated
    split at stepped
    · rename_i entry row
      split at row
      · split at stepped <;> cases stepped
        · rename_i unused
          exact .found there validated row (Option.isNone_iff_eq_none.mp unused)
        · exact .callReturned there
      · cases row
    · cases stepped
      exact .callReturned there
  · cases stepped

theorem step_readRecord {certSerial : String} {certExpiresAt : Time}
    (stepped : readRecord D s j ok certSerial certExpiresAt = some s') :
    Step D s (.readRecord j ok certSerial certExpiresAt) s' := by
  obtain ⟨call, there, stepped⟩ := Option.bind_eq_some_iff.mp stepped
  split at stepped
  · rename_i providerID found
    split at stepped <;> cases stepped
    · rename_i record stored
      split at stored
      · rename_i ready
        rw [Bool.and_eq_true] at ready
        exact .read there found (of_decide_eq_true ready.2) stored
      · cases stored
    · exact .callReturned there
  · cases stepped

theorem step_writeRecord (stepped : writeRecord D s j put = some s') :
    Step D s (.writeRecord j put) s' := by
  obtain ⟨call, there, stepped⟩ := Option.bind_eq_some_iff.mp stepped
  split at stepped
  · rename_i record reading
    simp only [Option.some.injEq] at stepped
    rcases withRecord_cases D s put record with
      ⟨same, silent, lost⟩ | ⟨key, key_of, applied, written⟩
    · rw [same, silent, lost] at stepped
      subst stepped
      exact .callReturned there
    rw [written, applied, key_of] at stepped
    subst stepped
    refine .registrationStored there reading key_of ?_
    split
    · exact .inl rfl
    · exact .inr rfl
  · cases stepped

theorem step_mark (stepped : mark s j ok = some s') : Step D s (.mark j ok) s' := by
  obtain ⟨call, there, stepped⟩ := Option.bind_eq_some_iff.mp stepped
  split at stepped
  · rename_i stored
    cases ok with
    | true =>
      cases stepped
      exact .marked there stored
    | false =>
      cases stepped
      exact .unmarked there stored
  · cases stepped

theorem step_writeDeleting (stepped : writeDeleting D s k put = some s') :
    Step D s (.writeDeleting k put) s' := by
  obtain ⟨record, there, rfl⟩ := Option.map_eq_some_iff.mp stepped
  rcases withRecord_cases D s put record with ⟨same, -, -⟩ | ⟨key, key_of, -, written⟩
  · rw [same]
    exact .deletionDropped
  · rw [written]
    exact .deletionStored (Option.join_eq_some_iff.mp there) key_of

theorem step_terminate (stepped : terminate s k ok = some s') : Step D s (.terminate k ok) s' := by
  rw [terminate] at stepped
  split at stepped <;> cases stepped
  rename_i entry rest there
  refine .terminated there ?_
  split
  · exact .inl rfl
  · exact .inr rfl

/-- **Every step has one of the outcomes.** -/
theorem step_of {label : Label T} (stepped : step D s label = some s') : Step D s label s' := by
  cases label with
  | tick elapsed =>
    cases stepped
    exact .tick
  | refresh timeout =>
    cases stepped
    exact .refresh
  | restart server =>
    cases stepped
    exact .restart
  | lead server surroundings => exact step_lead stepped
  | create server request => exact step_create stepped
  | preInsert k ok => exact step_preInsert stepped
  | storeRecord k put => exact step_storeRecord stepped
  | launch k response => exact step_launch stepped
  | updateRow k ok => exact step_updateRow stepped
  | receive server nonce publicKeyPEM report => exact step_receive stepped
  | lookup j ok => exact step_lookup stepped
  | readRecord j ok certSerial certExpiresAt => exact step_readRecord stepped
  | writeRecord j put => exact step_writeRecord stepped
  | mark j ok => exact step_mark stepped
  | abandon j =>
    obtain ⟨call, there, stepped⟩ := Option.bind_eq_some_iff.mp stepped
    cases stepped
    exact .callReturned there
  | health server id health =>
    obtain ⟨t, written, rfl⟩ := Option.map_eq_some_iff.mp stepped
    exact .reported written
  | readDeleting tenant id =>
    obtain ⟨record, stored, rfl⟩ := Option.map_eq_some_iff.mp stepped
    exact .deleting stored
  | writeDeleting k put => exact step_writeDeleting stepped
  | softDelete server id =>
    obtain ⟨t, written, rfl⟩ := Option.map_eq_some_iff.mp stepped
    exact .deleted written
  | purge server id =>
    obtain ⟨t, written, rfl⟩ := Option.map_eq_some_iff.mp stepped
    exact .purged written
  | erase key =>
    cases stepped
    exact .erased
  | find server =>
    rw [step, find] at stepped
    split at stepped <;> cases stepped
    rename_i leading
    exact .collecting leading
  | terminate k ok => exact step_terminate stepped

end

/-! ## Where the contents of the state come from -/

section

variable {D : Setting T} {s s' : State T} {label : Label T}

theorem Step.now_le (move : Step D s label s') : s.now ≤ s'.now := by
  cases move with
  | tick => exact Int.le_add_of_nonneg_right (Int.natCast_nonneg _)
  | _ => exact Int.le_refl _

/-- A step stores a record that a creation, a registration or a deletion holds. -/
inductive Stores (s : State T) : Label T → InstanceRecord T → Prop where
  | creation {k : Nat} {put : Put} {creation : Creation T}
      (there : s.creations[k]? = some creation) : Stores s (.storeRecord k put) creation.record
  | registration {j : Nat} {put : Put} {call : Call T} {record : InstanceRecord T}
      (there : s.calls[j]? = some call) (reading : call.stage = .read record) :
      Stores s (.writeRecord j put) record
  | deletion {k : Nat} {put : Put} {record : InstanceRecord T}
      (there : s.deletions[k]? = some (some record)) : Stores s (.writeDeleting k put) record

theorem Step.objects (move : Step D s label s') :
    s'.objects = s.objects ∨ (∃ key, label = .erase key ∧ s'.objects = s.objects.erase key) ∨
      ∃ key record, Stores s label record ∧ D.keyOf record = some key ∧
        s'.objects = s.objects.set key (some record) := by
  cases move with
  | creationStored there key_of => exact .inr (.inr ⟨_, _, .creation there, key_of, rfl⟩)
  | registrationStored there reading key_of =>
    exact .inr (.inr ⟨_, _, .registration there reading, key_of, rfl⟩)
  | deletionStored there key_of => exact .inr (.inr ⟨_, _, .deletion there, key_of, rfl⟩)
  | erased => exact .inr (.inl ⟨_, rfl, rfl⟩)
  | _ => exact .inl rfl

variable {record : InstanceRecord T} {call : Call T} {key : StorageKey} {nonce : T}

theorem Step.object_from (move : Step D s label s')
    (there : s'.objects.get key = some (some record)) :
    s.objects.get key = some (some record) ∨ Stores s label record ∧ D.keyOf record = some key := by
  rcases move.objects with same | ⟨gone, -, erased⟩ | ⟨at_, stored, stores, key_of, written⟩
  · rw [same] at there
    exact .inl there
  · rw [erased] at there
    by_cases same : key = gone
    · rw [same, Dict.get_erase_self] at there
      cases there
    · rw [Dict.get_erase_of_ne same] at there
      exact .inl there
  rw [written] at there
  by_cases same : key = at_
  · rw [same, Dict.get_set_self] at there
    cases there
    exact .inr ⟨stores, same ▸ key_of⟩
  · rw [Dict.get_set_of_ne same] at there
    exact .inl there

/-- A call that was not there in its present stage. -/
inductive CallOrigin (D : Setting T) (s : State T) : Label T → Call T → Prop where
  | received {server : ServerID} {nonce : T} {publicKeyPEM : String} {report : Rows.Report}
      {claims : Claims} (leading : s.leader = some server)
      (valid : D.validate s.now nonce = some claims) :
      CallOrigin D s (.receive server nonce publicKeyPEM report)
        { server, nonce, claims, publicKeyPEM, report, stage := .validated }
  | found {j : Nat} {ok : Bool} {call : Call T} {entry : InstanceID × Row T}
      (there : s.calls[j]? = some call) (validated : call.stage = .validated)
      (row : (s.tables call.server).getInstanceByNonce call.nonce = some entry)
      (unused : entry.2.registeredAt = none) :
      CallOrigin D s (.lookup j ok) { call with stage := .found entry.2.providerID }
  | read {j : Nat} {ok : Bool} {certSerial : String} {certExpiresAt : Time} {call : Call T}
      {providerID : Option ProviderID} {record : InstanceRecord T}
      (there : s.calls[j]? = some call) (found : call.stage = .found providerID)
      (keyed : call.publicKeyPEM ≠ "")
      (stored : s.recordFor D call.claims.tenant call.claims.subject = some record) :
      CallOrigin D s (.readRecord j ok certSerial certExpiresAt)
        { call with
          stage := .read (record.registration s.now call.publicKeyPEM certSerial certExpiresAt
            providerID call.report) }
  | stored {j : Nat} {put : Put} {call : Call T} {record : InstanceRecord T}
      (there : s.calls[j]? = some call) (reading : call.stage = .read record) :
      CallOrigin D s (.writeRecord j put) { call with stage := .stored }
  | returned {label : Label T} {j : Nat} {call : Call T}
      (there : s.calls[j]? = some call) : CallOrigin D s label { call with stage := .returned }

theorem Step.call_from (move : Step D s label s') (there : call ∈ s'.calls) :
    call ∈ s.calls ∨ CallOrigin D s label call := by
  have moved : ∀ {j : Nat} {new : Call T}, call ∈ s.calls.set j new →
      CallOrigin D s label new → call ∈ s.calls ∨ CallOrigin D s label call := by
    intro j new there origin
    rcases List.mem_or_eq_of_mem_set there with there | rfl
    · exact .inl there
    · exact .inr origin
  cases move with
  | received leading valid =>
    rcases List.mem_append.mp there with there | there
    · exact .inl there
    · rw [List.mem_singleton.mp there]
      exact .inr (.received leading valid)
  | found at_ validated row unused => exact moved there (.found at_ validated row unused)
  | read at_ found keyed stored => exact moved there (.read at_ found keyed stored)
  | registrationStored at_ reading _ next =>
    rcases next with rfl | rfl
    · exact moved there (.stored at_ reading)
    · exact moved there (.returned at_)
  | marked at_ | unmarked at_ | callReturned at_ => exact moved there (.returned at_)
  | _ => exact .inl there

theorem Step.call_source (move : Step D s label s') (there : call ∈ s'.calls) :
    (∃ old ∈ s.calls, call = { old with stage := call.stage }) ∨
      D.validate s.now call.nonce = some call.claims ∧ call.stage = .validated := by
  rcases move.call_from there with there | origin
  · exact .inl ⟨call, there, rfl⟩
  cases origin with
  | received _ valid => exact .inr ⟨valid, rfl⟩
  | found at_ | read at_ | stored at_ => exact .inl ⟨_, List.mem_of_getElem? at_, rfl⟩
  | returned at_ => exact .inl ⟨_, List.mem_of_getElem? at_, rfl⟩

theorem Step.deletion_from (move : Step D s label s') (there : some record ∈ s'.deletions) :
    some record ∈ s.deletions ∨ ∃ tenant id old, s.recordFor D tenant id = some old ∧
      record = { old with status := "deleting", lastUpdated := s.now } := by
  have dropped : ∀ {k : Nat}, some record ∈ s.deletions.set k none → some record ∈ s.deletions := by
    intro k there
    rcases List.mem_or_eq_of_mem_set there with there | none_
    · exact there
    · cases none_
  cases move with
  | deleting read =>
    rcases List.mem_append.mp there with there | there
    · exact .inl there
    · cases List.mem_singleton.mp there
      exact .inr ⟨_, _, _, read, rfl⟩
  | deletionStored | deletionDropped => exact .inl (dropped there)
  | _ => exact .inl there

omit [DecidableEq T] in
theorem row_of_withTable {changed server : ServerID} {t : Rows T} {id : InstanceID}
    {row : Row T} (there : ((s.withTable changed t).tables server).get id = some row) :
    server = changed ∧ t.get id = some row ∨
      server ≠ changed ∧ (s.tables server).get id = some row := by
  rw [State.tables_withTable] at there
  by_cases same : server = changed
  · rw [if_pos same] at there
    exact .inl ⟨same, there⟩
  · rw [if_neg same] at there
    exact .inr ⟨same, there⟩

theorem Step.certificate_from (move : Step D s label s') {certificate : T × String}
    (there : certificate ∈ s'.certificates) :
    certificate ∈ s.certificates ∨ ∃ j ok call, label = .mark j ok ∧ s.calls[j]? = some call ∧
      call.stage = .stored ∧ certificate = (call.nonce, call.publicKeyPEM) := by
  cases move with
  | marked at_ stored | unmarked at_ stored =>
    rcases List.mem_cons.mp there with rfl | there
    · exact .inr ⟨_, _, _, rfl, at_, stored, rfl⟩
    · exact .inl there
  | _ => exact .inl there

/-- A call stores the record of a registration. -/
structure StoresRegistration (D : Setting T) (s s' : State T) (label : Label T)
    (call : Call T) (record : InstanceRecord T) (key : StorageKey) : Prop where
  label : ∃ j put, label = .writeRecord j put ∧ s.calls[j]? = some call
  reading : call.stage = .read record
  key_of : D.keyOf record = some key
  objects : s'.objects = s.objects.set key (some record)
  registered : s'.registered = call.nonce :: s.registered

omit [DecidableEq T] in
theorem StoresRegistration.mem (stores : StoresRegistration D s s' label call record key) :
    call ∈ s.calls := by
  obtain ⟨j, put, -, at_⟩ := stores.label
  exact List.mem_of_getElem? at_

theorem Step.registered_from (move : Step D s label s') (there : nonce ∈ s'.registered) :
    nonce ∈ s.registered ∨ ∃ call record key, call.nonce = nonce ∧
      StoresRegistration D s s' label call record key := by
  cases move with
  | registrationStored at_ reading key_of =>
    rcases List.mem_cons.mp there with rfl | there
    · exact .inr ⟨_, _, _, rfl, ⟨_, _, rfl, at_⟩, reading, key_of, rfl, rfl⟩
    · exact .inl there
  | _ => exact .inl there

theorem Step.stored_from (move : Step D s label s') (there : call ∈ s'.calls)
    (stage : call.stage = .stored) :
    call ∈ s.calls ∨ ∃ old record key, call = { old with stage := .stored } ∧
      StoresRegistration D s s' label old record key := by
  have other : ∀ {j : Nat} {new : Call T}, call ∈ s.calls.set j new →
      new.stage ≠ .stored → call ∈ s.calls := by
    intro j new there different
    rcases List.mem_or_eq_of_mem_set there with there | rfl
    · exact there
    · exact absurd stage different
  cases move with
  | registrationStored at_ reading key_of =>
    rcases List.mem_or_eq_of_mem_set there with there | rfl
    · exact .inl there
    · cases stage
      exact .inr ⟨_, _, _, rfl, ⟨_, _, rfl, at_⟩, reading, key_of, rfl, rfl⟩
  | received =>
    rcases List.mem_append.mp there with there | there
    · exact .inl there
    · rw [List.mem_singleton.mp there] at stage
      cases stage
  | found | read | marked | unmarked | callReturned => exact .inl (other there (by simp))
  | _ => exact .inl there

theorem Step.registered_mono (move : Step D s label s') (there : nonce ∈ s.registered) :
    nonce ∈ s'.registered := by
  cases move with
  | registrationStored => exact List.mem_cons_of_mem _ there
  | _ => exact there

end

end Nstance.Instances
