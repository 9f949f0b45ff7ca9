import Nstance.Instances.Effects

/-!
# What becomes of a registration

A registration is stored in the record, then marked in the row, and then the certificate is
returned. A creation that is under way may write over both, a mark may fail or come too
late for the leader, and a rebuild may keep an unregistered row whose record it could not
read. In a run of steps that do none of this (`careful`) the leader has no live and
unregistered row for a nonce with a certificate (`Guarded.refused`).
-/

namespace Nstance.Instances

open Objects Interaction

variable {T : Type}

/-! ## Sound records -/

/-- The token of a record is for the record's instance, and a registered record has the
agent's key. -/
structure Sound (D : Setting T) (record : InstanceRecord T) : Prop where
  subject : ∀ {claims : Claims}, D.verify record.registrationJWT = some claims →
    claims.subject = record.instanceID ∧ claims.tenant = record.tenant
  keyed : record.registeredAt.isSome → record.publicKeyPEM ≠ ""

/-- Nothing is under way, and every record is sound and stored under its own key. -/
structure Quiet (D : Setting T) (s : State T) : Prop where
  creations : s.creations = []
  calls : s.calls = []
  deletions : s.deletions = []
  collections : s.collections = []
  registered : s.registered = []
  certificates : s.certificates = []
  collected : s.collected = []
  stored : ∀ {key : StorageKey} {record : InstanceRecord T},
    s.objects.get key = some (some record) → D.keyOf record = some key ∧ Sound D record

/-- What holds of the records in every run, in the storage and in memory. -/
structure Wellformed (D : Setting T) (s : State T) : Prop where
  stored : ∀ {key : StorageKey} {record : InstanceRecord T},
    s.objects.get key = some (some record) → D.keyOf record = some key ∧ Sound D record
  creations : ∀ {creation : Creation T}, creation ∈ s.creations → Sound D creation.record
  deletions : ∀ {record : InstanceRecord T}, some record ∈ s.deletions → Sound D record
  verified : ∀ {call : Call T}, call ∈ s.calls → D.verify call.nonce = some call.claims
  reading : ∀ {call : Call T} {record : InstanceRecord T}, call ∈ s.calls →
    call.stage = .read record → Sound D record ∧ record.registeredAt.isSome ∧
      D.keyOf record = D.keyFor call.claims.tenant call.claims.subject

variable {D : Setting T} {s : State T}

theorem Quiet.wellformed (quiet : Quiet D s) : Wellformed D s where
  stored := quiet.stored
  creations := by simp [quiet.creations]
  deletions := by simp [quiet.deletions]
  verified := by simp [quiet.calls]
  reading := by simp [quiet.calls]

theorem get_of_recordFor {tenant : Tenant} {id : InstanceID}
    {record : InstanceRecord T} (read : s.recordFor D tenant id = some record) :
    ∃ key, D.keyFor tenant id = some key ∧ s.objects.get key = some (some record) := by
  obtain ⟨key, key_for, there⟩ := Option.bind_eq_some_iff.mp read
  exact ⟨key, key_for, Option.join_eq_some_iff.mp there⟩

theorem verify_of_validate {now : Time} {nonce : T} {claims : Claims}
    (valid : D.validate now nonce = some claims) : D.verify nonce = some claims :=
  (Option.filter_eq_some_iff.mp valid).1

namespace Wellformed

variable [DecidableEq T] {D : Setting T} {s s' : State T} {label : Label T}
  {record : InstanceRecord T}

omit [DecidableEq T] in
theorem stored_of_read (wf : Wellformed D s) {tenant : Tenant} {id : InstanceID}
    (read : s.recordFor D tenant id = some record) :
    D.keyOf record = D.keyFor tenant id ∧ Sound D record := by
  obtain ⟨key, key_for, there⟩ := get_of_recordFor read
  rw [key_for]
  exact wf.stored there

theorem stored_step (wf : Wellformed D s) (move : Step D s label s') {key : StorageKey}
    (there : s'.objects.get key = some (some record)) :
    D.keyOf record = some key ∧ Sound D record := by
  rcases move.object_from there with there | ⟨stores, key_of⟩
  · exact wf.stored there
  refine ⟨key_of, ?_⟩
  cases stores with
  | creation at_ => exact wf.creations (List.mem_of_getElem? at_)
  | registration at_ reading => exact (wf.reading (List.mem_of_getElem? at_) reading).1
  | deletion at_ => exact wf.deletions (List.mem_of_getElem? at_)

omit [DecidableEq T] in
theorem sound_signed (D : Setting T) (s : State T) (server : ServerID)
    (request : CreateInstanceRequest) : Sound D (signed D s server request).record where
  subject := by
    intro claims verified
    have same := (D.verify_sign (claimsFor D s request)).symm.trans verified
    cases same
    exact ⟨rfl, rfl⟩
  keyed := by
    intro registered
    cases registered

theorem creations_step (wf : Wellformed D s) (move : Step D s label s')
    {creation : Creation T} (there : creation ∈ s'.creations) : Sound D creation.record := by
  have moved : ∀ {k : Nat} {old new : Creation T}, s.creations[k]? = some old →
      creation ∈ s.creations.set k new → (Sound D old.record → Sound D new.record) →
        Sound D creation.record := by
    intro k old new at_ there keeps
    rcases List.mem_or_eq_of_mem_set there with there | rfl
    · exact wf.creations there
    · exact keeps (wf.creations (List.mem_of_getElem? at_))
  cases move with
  | created =>
    rcases List.mem_append.mp there with there | there
    · exact wf.creations there
    · rw [List.mem_singleton.mp there]
      exact sound_signed D s _ _
  | inserted at_ | launched at_ => exact moved at_ there fun sound => ⟨sound.subject, sound.keyed⟩
  | creationStored at_ | updated at_ | creationMoved at_ => exact moved at_ there id
  | _ => exact wf.creations there

theorem deletions_step (wf : Wellformed D s) (move : Step D s label s')
    (there : some record ∈ s'.deletions) : Sound D record := by
  rcases move.deletion_from there with there | ⟨tenant, id, old, read, rfl⟩
  · exact wf.deletions there
  · have sound := (wf.stored_of_read read).2
    exact ⟨sound.subject, sound.keyed⟩

variable {call : Call T}

section

variable (wf : Wellformed D s) (move : Step D s label s')
include wf move

theorem verified_step (there : call ∈ s'.calls) : D.verify call.nonce = some call.claims := by
  rcases move.call_source there with ⟨old, was, same⟩ | ⟨valid, -⟩
  · have verified := wf.verified was
    rw [same]
    exact verified
  · exact verify_of_validate valid

theorem reading_step (there : call ∈ s'.calls) (stage : call.stage = .read record) :
    Sound D record ∧ record.registeredAt.isSome ∧
      D.keyOf record = D.keyFor call.claims.tenant call.claims.subject := by
  rcases move.call_from there with there | origin
  · exact wf.reading there stage
  cases origin with
  | read at_ _ keyed read =>
    cases stage
    obtain ⟨key_of, sound⟩ := wf.stored_of_read read
    exact ⟨⟨sound.subject, fun _ => keyed⟩, rfl, key_of⟩
  | received | found | stored | returned => cases stage

theorem step : Wellformed D s' where
  stored := wf.stored_step move
  creations := wf.creations_step move
  deletions := wf.deletions_step move
  verified := wf.verified_step move
  reading := wf.reading_step move

end

end Wellformed

theorem wellformed_of_reaches [DecidableEq T] {start s : State T}
    {allowed : State T → Label T → Prop} (quiet : Quiet D start)
    (reached : (lifecycle D start).Reaches allowed s) : Wellformed D s :=
  reached.invariant quiet.wellformed fun _ wf _ stepped => wf.step (step_of stepped)

/-- **Records stay with the instance their nonce names.** In every run, a stored record whose
nonce verifies is under the key of the tenant and the instance the nonce is for, and a call that
has read a record has a verified nonce and read the record of the instance it is for. -/
theorem records_filed [DecidableEq T] {start s : State T} (quiet : Quiet D start)
    (reached : (lifecycle D start).Reachable s) :
    (∀ key record claims, s.objects.get key = some (some record) →
      D.verify record.registrationJWT = some claims →
        D.keyFor claims.tenant claims.subject = some key) ∧
    ∀ call ∈ s.calls, ∀ record, call.stage = .read record →
      D.verify call.nonce = some call.claims ∧
        D.keyOf record = D.keyFor call.claims.tenant call.claims.subject := by
  have wf := wellformed_of_reaches quiet reached
  refine ⟨fun key record claims there verified => ?_, fun call mem record read => ?_⟩
  · obtain ⟨filed, sound⟩ := wf.stored there
    obtain ⟨subject, tenant⟩ := sound.subject verified
    rw [subject, tenant]
    exact filed
  · exact ⟨wf.verified mem, (wf.reading mem read).2.2⟩

/-! ## Careful steps -/

section

variable [DecidableEq T] (D : Setting T) (s : State T)

/-- Whether storing a record would put an unregistered one in the place of a registration:
one that was stored for its nonce, or one that is stored under its key. -/
def overwrites (record : InstanceRecord T) : Bool :=
  record.registeredAt.isNone && (decide (record.registrationJWT ∈ s.registered) ||
    (s.recordFor D record.tenant record.instanceID).any fun stored => stored.registeredAt.isSome)

/-- A certificate was issued for the nonce. -/
def wasCertified (nonce : T) : Bool :=
  s.certificates.any fun certificate => certificate.1 = nonce

/-- When a step cannot undo a registration.

* A creation inserts its row while no registration of its nonce has been stored.
* A creation or a deletion stores its record where this overwrites no registration.
* A creation updates its row while that is neither registered nor deleted.
* A call marks its row successfully, on the server that leads, and the row with its nonce
  is that of its subject.
* A rebuild reads a record for every live and unregistered row whose nonce was certified. -/
def careful : Label T → Bool
  | .preInsert k _ =>
    (s.creations[k]?).all fun creation =>
      creation.record.registrationJWT ∉ s.registered
  | .storeRecord k _ =>
    (s.creations[k]?).all fun creation => !overwrites D s creation.record
  | .writeDeleting k _ => (s.deletions[k]?).join.all fun record => !overwrites D s record
  | .updateRow k _ =>
    (s.creations[k]?).all fun creation =>
      ((s.tables creation.server).get creation.record.instanceID).all fun row =>
        row.live && row.registeredAt.isNone
  | .mark j ok =>
    ok && (s.calls[j]?).all fun call =>
      s.leader = some call.server &&
        ((s.tables call.server).find call.nonce).all fun entry => entry.1 = call.claims.subject
  | .lead server surroundings =>
    (s.tables server).rows.entries.all fun entry =>
      !(entry.2.live && entry.2.registeredAt.isNone && wasCertified s entry.2.nonce) ||
        !((rebuildIn s surroundings).readFor entry.1).isEmpty
  | _ => true

end

/-- No certificate without a registration. -/
structure Guarded (s : State T) : Prop where
  certified : ∀ {certificate : T × String}, certificate ∈ s.certificates →
    certificate.1 ∈ s.registered
  storing : ∀ {call : Call T}, call ∈ s.calls → call.stage = .stored →
    call.nonce ∈ s.registered
  /-- A stored record whose nonce was registered is a registered one. -/
  recorded : ∀ {key : StorageKey} {record : InstanceRecord T},
    s.objects.get key = some (some record) → record.registrationJWT ∈ s.registered →
      record.registeredAt.isSome
  /-- The leader has no live and unregistered row for a certified nonce. -/
  refused : ∀ {server : ServerID} {certificate : T × String} {id : InstanceID}
    {row : Row T}, s.leader = some server → certificate ∈ s.certificates →
      (s.tables server).get id = some row → row.nonce = certificate.1 → row.live →
        row.registeredAt.isSome

theorem Quiet.guarded (quiet : Quiet D s) : Guarded s where
  certified := by simp [quiet.certificates]
  storing := by simp [quiet.calls]
  recorded := by simp [quiet.registered]
  refused := by simp [quiet.certificates]

namespace Guarded

variable [DecidableEq T] {D : Setting T} {s s' : State T} {label : Label T}
  {certificate : T × String}

theorem certified_step (guarded : Guarded s) (move : Step D s label s')
    (there : certificate ∈ s'.certificates) : certificate.1 ∈ s'.registered := by
  rcases move.certificate_from there with there | ⟨j, ok, call, rfl, at_, stored, rfl⟩
  · exact move.registered_mono (guarded.certified there)
  · exact move.registered_mono (guarded.storing (List.mem_of_getElem? at_) stored)

theorem storing_step (guarded : Guarded s) (move : Step D s label s') {call : Call T}
    (there : call ∈ s'.calls) (stage : call.stage = .stored) : call.nonce ∈ s'.registered := by
  rcases move.stored_from there stage with there | ⟨old, record, key, rfl, stores⟩
  · exact move.registered_mono (guarded.storing there stage)
  · rw [stores.registered]
    exact List.mem_cons_self

theorem recorded_step (guarded : Guarded s) (wf : Wellformed D s) (ok : careful D s label)
    (move : Step D s label s') {key : StorageKey} {record : InstanceRecord T}
    (there : s'.objects.get key = some (some record))
    (registered : record.registrationJWT ∈ s'.registered) : record.registeredAt.isSome := by
  rcases move.registered_from registered with registered | ⟨call, written, at_, same, stores⟩
  · rcases move.object_from there with there | ⟨stores, -⟩
    · exact guarded.recorded there registered
    cases stores with
    | creation at_ =>
      have kept := ok
      simp only [careful, at_, Option.all_some, overwrites, registered] at kept
      simpa using kept
    | registration at_ reading => exact (wf.reading (List.mem_of_getElem? at_) reading).2.1
    | deletion at_ =>
      have kept := ok
      simp only [careful, at_, Option.join_some, Option.all_some, overwrites, registered] at kept
      simpa using kept
  · -- every record with this nonce is stored under the key that was just written
    obtain ⟨sound, is_registered, key_of⟩ := wf.reading stores.mem stores.reading
    have stored := wf.stored_step move there
    have verified := wf.verified stores.mem
    rw [same] at verified
    obtain ⟨subject, tenant⟩ := stored.2.subject verified
    have same_key : some key = some at_ := by
      rw [← stored.1, ← stores.key_of, key_of, subject, tenant]
      rfl
    rw [stores.objects, Option.some.inj same_key, Dict.get_set_self] at there
    cases there
    exact is_registered

variable {server : ServerID} {id : InstanceID} {row : Row T}

omit [DecidableEq T] in
theorem refused_of_follows (guarded : Guarded s) {old : Row T}
    (leading : s.leader = some server) (there : certificate ∈ s.certificates)
    (was : (s.tables server).get id = some old) (follows : row.Follows old)
    (carries : row.nonce = certificate.1) (live : row.live) : row.registeredAt.isSome := by
  rw [follows.registeredAt]
  exact guarded.refused leading there was (follows.nonce ▸ carries) (follows.live live)

theorem refused_step (guarded : Guarded s) (ok : careful D s label) (move : Step D s label s')
    (leading : s'.leader = some server) (there : certificate ∈ s'.certificates)
    (at_ : (s'.tables server).get id = some row) (carries : row.nonce = certificate.1)
    (live : row.live) : row.registeredAt.isSome := by
  cases move with
  | @led leader surroundings t rebuilt =>
    cases leading
    have after : t.get id = some row := by
      rcases row_of_withTable at_ with ⟨-, after⟩ | ⟨different, -⟩
      · exact after
      · exact absurd rfl different
    rcases Surroundings.follows_rebuildCache _ rebuilt after with
      ⟨record, read, follows⟩ | ⟨unread, old, was, follows⟩
    · obtain ⟨key, stored⟩ := Surroundings.stored_of_read _ read
      rw [follows.registeredAt]
      refine guarded.recorded stored ?_
      have nonce : record.registrationJWT = certificate.1 := follows.nonce.symm.trans carries
      rw [nonce]
      exact guarded.certified there
    rw [follows.registeredAt]
    by_contra unregistered
    have kept := List.all_eq_true.mp ok _ (Dict.get_eq_some_iff.mp was)
    have is_certified : wasCertified s old.nonce := by
      rw [wasCertified, List.any_eq_true]
      exact ⟨certificate, there, decide_eq_true (carries.symm.trans follows.nonce)⟩
    simp [follows.live live, unregistered, is_certified, unread] at kept
  | unled => cases leading
  | @inserted k okay creation t created fresh =>
    rcases row_of_withTable at_ with ⟨rfl, after⟩ | ⟨-, before⟩
    · by_cases same : id = creation.record.instanceID
      · subst same
        rw [(Rows.get_createInstance_self fresh).2] at after
        cases after
        have unregistered : creation.record.registrationJWT ∉ s.registered := by
          simpa [careful, created] using ok
        have nonce : creation.record.registrationJWT = certificate.1 := carries
        rw [nonce] at unregistered
        exact absurd (guarded.certified there) unregistered
      · rw [Rows.get_createInstance_of_ne fresh same] at after
        exact guarded.refused leading there after carries live
    · exact guarded.refused leading there before carries live
  | updated created written =>
    rcases row_of_withTable at_ with ⟨rfl, after⟩ | ⟨-, before⟩
    · rw [Rows.get_updateInstance written, Option.map_eq_some_iff] at after
      obtain ⟨old, was, rfl⟩ := after
      split at carries
      · rename_i same
        subst same
        have kept : old.live ∧ old.registeredAt = none := by
          simpa [careful, created, was] using ok
        have registered := guarded.refused leading there was carries kept.1
        rw [kept.2] at registered
        cases registered
      rename_i different
      rw [if_neg different] at live ⊢
      exact guarded.refused leading there was carries live
    · exact guarded.refused leading there before carries live
  | @marked j call received stored =>
    have kept : s.leader = some call.server ∧ ∀ entry, (s.tables call.server).find call.nonce =
        some entry → entry.1 = call.claims.subject := by
      simpa [careful, received, Option.all_eq_true] using ok
    rcases row_of_withTable at_ with ⟨rfl, after⟩ | ⟨different, -⟩
    · rw [Rows.markInstanceRegistered, Table.get_update, Option.map_eq_some_iff] at after
      obtain ⟨old, was, rfl⟩ := after
      split
      · rfl
      rename_i unmarked
      rw [if_neg unmarked] at carries live
      rcases List.mem_cons.mp there with rfl | there
      · -- the row with the nonce is the one that was marked
        have subject : id = call.claims.subject :=
          kept.2 (id, old) (Table.find_eq_some.mpr ⟨was, carries⟩)
        exact absurd (by simp [Rows.liveAt, subject, live]) unmarked
      · exact guarded.refused leading there was carries live
    · exact absurd (Option.some.inj (leading.symm.trans kept.1)) different
  | unmarked => cases ok
  | reported written =>
    rcases row_of_withTable at_ with ⟨rfl, after⟩ | ⟨-, before⟩
    · obtain ⟨old, was, follows⟩ :=
        Rows.follows_updateLive (Rows.follows_reported s.now _) written after
      exact guarded.refused_of_follows leading there was follows carries live
    · exact guarded.refused leading there before carries live
  | deleted written =>
    rcases row_of_withTable at_ with ⟨rfl, after⟩ | ⟨-, before⟩
    · obtain ⟨old, was, follows⟩ :=
        Rows.follows_updateLive (Rows.follows_deleted s.now) written after
      exact guarded.refused_of_follows leading there was follows carries live
    · exact guarded.refused leading there before carries live
  | purged written =>
    rcases row_of_withTable at_ with ⟨rfl, after⟩ | ⟨-, before⟩
    · exact guarded.refused leading there (Rows.get_of_purge written after) carries live
    · exact guarded.refused leading there before carries live
  | _ => exact guarded.refused leading there at_ carries live

theorem step (guarded : Guarded s) (wf : Wellformed D s) (ok : careful D s label)
    (move : Step D s label s') : Guarded s' where
  certified := guarded.certified_step move
  storing := guarded.storing_step move
  recorded := guarded.recorded_step wf ok move
  refused := guarded.refused_step ok move

end Guarded

theorem guarded_of_reaches [DecidableEq T] {start s : State T} (quiet : Quiet D start)
    (reached : (lifecycle D start).Reaches (fun s label => careful D s label = true) s) :
    Guarded s :=
  reached.invariant quiet.guarded fun before guarded ok stepped =>
    guarded.step (wellformed_of_reaches quiet before) ok (step_of stepped)

end Nstance.Instances
