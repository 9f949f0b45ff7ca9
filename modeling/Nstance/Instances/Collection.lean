import Nstance.Instances.Persistence

/-!
# What the collector may take for dangling

The collector takes a row for dangling when it is older than the collector's age, which is
that of the configuration the process started with, and has not registered. If the token
of every row that is found lives no longer than that, and no call with its nonce is under
way (`patient`), the nonce of a collected instance is finished: its token has expired, and
there never is a certificate for it (`Finished.step`).
-/

namespace Nstance.Instances

open Objects Interaction

variable {T : Type} [DecidableEq T]

/-! ## Dates -/

/-- The rows of a table are no older than the tokens they carry. -/
def DatedRows (D : Setting T) (t : Rows T) : Prop :=
  ∀ id row claims time, t.get id = some row → D.verify row.nonce = some claims →
    row.issuedAt = some time → claims.issuedAt ≤ time

/-- Rows and records are no older than the tokens they carry. -/
structure Dated (D : Setting T) (s : State T) : Prop where
  rows : ∀ server, DatedRows D (s.tables server)
  objects : ∀ {key : StorageKey} {record : InstanceRecord T} {claims : Claims},
    s.objects.get key = some (some record) → D.verify record.registrationJWT = some claims →
      claims.issuedAt ≤ record.createdAt
  creations : ∀ {creation : Creation T} {claims : Claims}, creation ∈ s.creations →
    D.verify creation.record.registrationJWT = some claims →
      claims.issuedAt ≤ creation.record.createdAt ∧ creation.record.createdAt ≤ s.now
  reading : ∀ {call : Call T} {record : InstanceRecord T} {claims : Claims},
    call ∈ s.calls → call.stage = .read record →
      D.verify record.registrationJWT = some claims → claims.issuedAt ≤ record.createdAt
  deletions : ∀ {record : InstanceRecord T} {claims : Claims}, some record ∈ s.deletions →
    D.verify record.registrationJWT = some claims → claims.issuedAt ≤ record.createdAt

namespace Dated

variable {D : Setting T} {s s' : State T} {label : Label T} {t t' : Rows T} {id : InstanceID}
  {record : InstanceRecord T} {claims : Claims} {change : Row T → Row T}

omit [DecidableEq T] in
theorem table_update {selected : InstanceID → Row T → Bool}
    {keeps : ∀ row, (change row).nonce = row.nonce} (dated : DatedRows D t)
    (issued : ∀ row, (change row).issuedAt = row.issuedAt) :
    DatedRows D (t.update selected change keeps) := by
  intro id row claims time there verified at_
  rw [Table.get_update, Option.map_eq_some_iff] at there
  obtain ⟨old, was, rfl⟩ := there
  split at verified
  · rename_i selected
    rw [if_pos selected, issued] at at_
    rw [keeps] at verified
    exact dated id _ claims time was verified at_
  rename_i unselected
  rw [if_neg unselected] at at_
  exact dated id _ claims time was verified at_

omit [DecidableEq T] in
theorem table_updateLive {keeps : ∀ row, (change row).nonce = row.nonce} (dated : DatedRows D t)
    (done : t.updateLive id change keeps = some t')
    (issued : ∀ row, (change row).issuedAt = row.issuedAt) : DatedRows D t' := by
  rw [Rows.updateLive] at done
  split at done <;> cases done
  exact table_update dated issued

omit [DecidableEq T] in
theorem table_updateInstance {now : Time} {given : Row T} (dated : DatedRows D t)
    (done : t.updateInstance now id given = some t') : DatedRows D t' := by
  rw [Rows.updateInstance] at done
  split at done <;> cases done
  refine table_update dated ?_
  intro row
  rfl

theorem table_createInstance {row : Row T} (dated : DatedRows D t)
    (fresh : ∀ {claims : Claims} {time : Time},
      D.verify row.nonce = some claims → row.issuedAt = some time → claims.issuedAt ≤ time)
    (done : t.createInstance id row = some t') : DatedRows D t' := by
  intro other row' claims time there verified issued
  by_cases same : other = id
  · subst same
    rw [(Rows.get_createInstance_self done).2] at there
    cases there
    exact fresh verified issued
  · rw [Rows.get_createInstance_of_ne done same] at there
    exact dated other row' claims time there verified issued

theorem table_rebuild (dated : Dated D s) (surroundings : Surroundings T) (server : ServerID) :
    DatedRows D ((rebuildIn s surroundings).rebuildCache (s.tables server)).2 := by
  intro id row claims time there verified issued
  rcases Surroundings.follows_rebuild _ there with ⟨record, read, follows⟩ | ⟨old, was, follows⟩
  · obtain ⟨key, stored⟩ := Surroundings.stored_of_read _ read
    rw [follows.issuedAt] at issued
    rw [follows.nonce] at verified
    cases issued
    exact dated.objects stored verified
  rw [follows.issuedAt] at issued
  rw [follows.nonce] at verified
  exact dated.rows server id old claims time was verified issued

section

variable (dated : Dated D s) (move : Step D s label s')
include dated move

theorem table_step (server : ServerID) : DatedRows D (s'.tables server) := by
  have changed : ∀ {at_ : ServerID} {t : Rows T}, DatedRows D t →
      DatedRows D ((s.withTable at_ t).tables server) := by
    intro at_ t new
    rw [State.tables_withTable]
    split
    · exact new
    · exact dated.rows server
  cases move with
  | @led leader surroundings t rebuilt =>
    have new := dated.table_rebuild surroundings leader
    rw [rebuilt] at new
    exact changed new
  | @unled leader surroundings failure t failed =>
    have new := dated.table_rebuild surroundings leader
    rw [failed] at new
    exact changed new
  | inserted created fresh =>
    refine changed (table_createInstance (dated.rows _) ?_ fresh)
    intro claims time verified issued
    cases issued
    obtain ⟨signed, past⟩ := dated.creations (List.mem_of_getElem? created) verified
    exact Int.le_trans signed past
  | updated _ written => exact changed (table_updateInstance (dated.rows _) written)
  | marked => exact changed (table_update (dated.rows _) fun _ => rfl)
  | reported written => exact changed (table_updateLive (dated.rows _) written fun _ => rfl)
  | deleted written => exact changed (table_updateLive (dated.rows _) written fun _ => rfl)
  | purged written =>
    refine changed ?_
    intro id row claims time there verified issued
    exact dated.rows _ id row claims time (Rows.get_of_purge written there) verified issued
  | _ => exact dated.rows server

theorem objects_step {key : StorageKey} (there : s'.objects.get key = some (some record))
    (verified : D.verify record.registrationJWT = some claims) :
    claims.issuedAt ≤ record.createdAt := by
  rcases move.object_from there with there | ⟨stores, -⟩
  · exact dated.objects there verified
  cases stores with
  | creation at_ => exact (dated.creations (List.mem_of_getElem? at_) verified).1
  | registration at_ reading => exact dated.reading (List.mem_of_getElem? at_) reading verified
  | deletion at_ => exact dated.deletions (List.mem_of_getElem? at_) verified

theorem creations_step {creation : Creation T} (there : creation ∈ s'.creations)
    (verified : D.verify creation.record.registrationJWT = some claims) :
    claims.issuedAt ≤ creation.record.createdAt ∧ creation.record.createdAt ≤ s'.now := by
  have before : creation ∈ s.creations →
      claims.issuedAt ≤ creation.record.createdAt ∧ creation.record.createdAt ≤ s'.now := by
    intro there
    obtain ⟨signed, past⟩ := dated.creations there verified
    exact ⟨signed, Int.le_trans past move.now_le⟩
  have same : ∀ {k : Nat} {old : Creation T} {stage : CreationStage}, s.creations[k]? = some old →
      creation ∈ s.creations.set k { old with stage := stage } →
        claims.issuedAt ≤ creation.record.createdAt ∧ creation.record.createdAt ≤ s'.now := by
    intro k old stage at_ there
    rcases List.mem_or_eq_of_mem_set there with there | rfl
    · exact before there
    · obtain ⟨signed, past⟩ := dated.creations (List.mem_of_getElem? at_) verified
      exact ⟨signed, Int.le_trans past move.now_le⟩
  cases move with
  | created =>
    rcases List.mem_append.mp there with there | there
    · exact before there
    rw [List.mem_singleton.mp there] at verified ⊢
    have signed := (D.verify_sign _).symm.trans verified
    cases signed
    exact ⟨numericDate_le s.now, Int.le_refl _⟩
  | inserted at_ =>
    rcases List.mem_or_eq_of_mem_set there with there | rfl
    · exact before there
    · obtain ⟨signed, past⟩ := dated.creations (List.mem_of_getElem? at_) verified
      exact ⟨Int.le_trans signed past, Int.le_refl _⟩
  | launched at_ =>
    rcases List.mem_or_eq_of_mem_set there with there | rfl
    · exact before there
    · have old := dated.creations (List.mem_of_getElem? at_) verified
      exact old
  | creationStored at_ | updated at_ | creationMoved at_ => exact same at_ there
  | _ => exact before there

end

omit [DecidableEq T] in
theorem of_recordFor (dated : Dated D s) {tenant : Tenant}
    (read : s.recordFor D tenant id = some record)
    (verified : D.verify record.registrationJWT = some claims) :
    claims.issuedAt ≤ record.createdAt := by
  obtain ⟨key, -, there⟩ := get_of_recordFor read
  exact dated.objects there verified

section

variable (dated : Dated D s) (move : Step D s label s')
include dated move

theorem reading_step {call : Call T} (there : call ∈ s'.calls) (stage : call.stage = .read record)
    (verified : D.verify record.registrationJWT = some claims) :
    claims.issuedAt ≤ record.createdAt := by
  rcases move.call_from there with there | origin
  · exact dated.reading there stage verified
  cases origin with
  | read at_ _ _ read =>
    cases stage
    have old := dated.of_recordFor read verified
    exact old
  | received | found | stored | returned => cases stage

theorem deletions_step
    (there : some record ∈ s'.deletions) (verified : D.verify record.registrationJWT = some claims)
    : claims.issuedAt ≤ record.createdAt := by
  rcases move.deletion_from there with there | ⟨tenant, id, old, read, rfl⟩
  · exact dated.deletions there verified
  · have before := dated.of_recordFor read verified
    exact before

theorem step : Dated D s' where
  rows := dated.table_step move
  objects := dated.objects_step move
  creations := dated.creations_step move
  reading := dated.reading_step move
  deletions := dated.deletions_step move

end

end Dated

theorem dated_of_reaches {D : Setting T} {start s : State T}
    {allowed : State T → Label T → Prop} (dated : Dated D start)
    (reached : (lifecycle D start).Reaches allowed s) : Dated D s :=
  reached.invariant dated fun _ dated _ stepped => dated.step (step_of stepped)

/-! ## Finished nonces -/

/-- The token has expired, no call with it is under way, and no certificate was returned
for it. -/
structure Finished (D : Setting T) (s : State T) (nonce : T) : Prop where
  expired : ∀ {claims : Claims}, D.verify nonce = some claims → claims.expiresAt ≤ s.now
  returned : ∀ {call : Call T}, call ∈ s.calls → call.nonce = nonce → call.stage = .returned
  uncertified : ∀ {certificate : T × String}, certificate ∈ s.certificates →
    certificate.1 ≠ nonce

section

variable {D : Setting T} {s s' : State T} {label : Label T}

theorem Finished.returned_step {nonce : T} (finished : Finished D s nonce)
    (move : Step D s label s') {call : Call T} (there : call ∈ s'.calls)
    (same : call.nonce = nonce) : call.stage = .returned := by
  rcases move.call_from there with there | origin
  · exact finished.returned there same
  cases origin with
  | received _ valid =>
    -- an expired token is not valid
    obtain ⟨verified, valid⟩ := Option.filter_eq_some_iff.mp valid
    subst same
    have expired := finished.expired verified
    simp only [Bool.and_eq_true, decide_eq_true_eq] at valid
    exact absurd expired (Int.not_le.mpr valid.1.1.1.1.2)
  | found at_ validated =>
    have stage := finished.returned (List.mem_of_getElem? at_) same
    rw [validated] at stage
    cases stage
  | read at_ found =>
    have stage := finished.returned (List.mem_of_getElem? at_) same
    rw [found] at stage
    cases stage
  | stored at_ reading =>
    have stage := finished.returned (List.mem_of_getElem? at_) same
    rw [reading] at stage
    cases stage
  | returned => rfl

/-- **A finished nonce stays finished, whatever happens.** -/
theorem Finished.step {nonce : T} (finished : Finished D s nonce)
    (move : Step D s label s') : Finished D s' nonce where
  expired := fun verified => Int.le_trans (finished.expired verified) move.now_le
  returned := finished.returned_step move
  uncertified := by
    intro certificate there same
    rcases move.certificate_from there with there | ⟨j, ok, call, rfl, at_, stored, rfl⟩
    · exact finished.uncertified there same
    have stage := finished.returned (List.mem_of_getElem? at_) same
    rw [stored] at stage
    cases stage

end

/-! ## Patient collections -/

/-- Every row that a collection finds has a token whose lifetime is at most the age of the
collector, and no call with its nonce is under way. -/
def patient (D : Setting T) (s : State T) (label : Label T) : Bool :=
  careful D s label &&
    match label with
    | .find server =>
      ((s.tables server).findDanglingInstances s.now (s.ages server)).all fun entry =>
        (D.verify entry.2.nonce).all (fun claims =>
          claims.expiresAt - claims.issuedAt ≤ s.ages server) &&
        s.calls.all fun call => !(decide (call.nonce = entry.2.nonce)) || call.stage = .returned
    | _ => true

theorem careful_of_patient {D : Setting T} (s : State T) (label : Label T)
    (ok : patient D s label = true) : careful D s label = true :=
  ((Bool.and_eq_true _ _).mp ok).1

/-- The nonces that are collected, or are to be, are finished, and those that are collected
had expired. -/
structure Collected (D : Setting T) (s : State T) : Prop where
  collections : ∀ {found : List (InstanceID × Row T)} {entry : InstanceID × Row T},
    found ∈ s.collections → entry ∈ found → Finished D s entry.2.nonce
  collected : ∀ {nonce : T} {time : Time}, (nonce, time) ∈ s.collected →
    Finished D s nonce ∧
      ∀ {claims : Claims}, D.verify nonce = some claims → claims.expiresAt ≤ time

section

variable {D : Setting T} {start s s' : State T} {label : Label T} {entry : InstanceID × Row T}

theorem finished_of_find (dated : Dated D s) (guarded : Guarded s) {server : ServerID}
    (ok : patient D s (.find server)) (leading : s.leader = some server)
    (found : entry ∈ (s.tables server).findDanglingInstances s.now (s.ages server)) :
    Finished D s entry.2.nonce := by
  have waits := List.all_eq_true.mp ((Bool.and_eq_true _ _).mp ok).2 entry found
  rw [Bool.and_eq_true] at waits
  refine ⟨?_, ?_, ?_⟩
  · intro claims verified
    obtain ⟨listed, dangling⟩ := List.mem_filter.mp found
    rw [Rows.dangling, Bool.and_eq_true, Option.any_eq_true] at dangling
    obtain ⟨issued, issuedAt, past⟩ := dangling.2
    have signed := dated.rows server _ _ claims issued (Dict.get_eq_some_iff.mpr listed) verified
      issuedAt
    have lifetime : claims.expiresAt - claims.issuedAt ≤ s.ages server := by
      simpa [verified] using waits.1
    have old : issued < s.now - s.ages server := of_decide_eq_true past
    calc claims.expiresAt ≤ claims.issuedAt + s.ages server := Int.le_add_of_sub_left_le lifetime
      _ ≤ issued + s.ages server := Int.add_le_add_right signed _
      _ ≤ s.now := Int.le_of_lt (Int.add_lt_of_lt_sub_right old)
  · intro call there same
    have waiting := List.all_eq_true.mp waits.2 call there
    simpa [same] using waiting
  · intro certificate there same
    exact guarded.not_dangling leading there found same.symm

theorem Collected.collections_step (collected : Collected D s) (dated : Dated D s)
    (guarded : Guarded s) (ok : patient D s label) (move : Step D s label s')
    {found : List (InstanceID × Row T)} (there : found ∈ s'.collections)
    (listed : entry ∈ found) : Finished D s' entry.2.nonce := by
  refine Finished.step ?_ move
  cases move with
  | collecting leading =>
    rcases List.mem_append.mp there with there | there
    · exact collected.collections there listed
    · rw [List.mem_singleton.mp there] at listed
      exact finished_of_find dated guarded ok leading listed
  | terminated at_ =>
    rcases List.mem_or_eq_of_mem_set there with there | rfl
    · exact collected.collections there listed
    · exact collected.collections (List.mem_of_getElem? at_) (List.mem_cons_of_mem _ listed)
  | _ => exact collected.collections there listed

theorem Collected.collected_step (collected : Collected D s) (move : Step D s label s')
    {nonce : T} {time : Time} (there : (nonce, time) ∈ s'.collected) :
    Finished D s' nonce ∧
      ∀ {claims : Claims}, D.verify nonce = some claims → claims.expiresAt ≤ time := by
  have before : (nonce, time) ∈ s.collected → Finished D s' nonce ∧
      ∀ {claims : Claims}, D.verify nonce = some claims → claims.expiresAt ≤ time := by
    intro there
    obtain ⟨finished, expired⟩ := collected.collected there
    exact ⟨finished.step move, expired⟩
  cases move with
  | @terminated k ok entry rest next at_ either =>
    rcases either with rfl | rfl
    · exact before there
    rcases List.mem_cons.mp there with same | there
    · cases same
      have finished := collected.collections (List.mem_of_getElem? at_) List.mem_cons_self
      have move : Step D s (.terminate k ok) _ := .terminated at_ (.inr rfl)
      exact ⟨finished.step move, finished.expired⟩
    · exact before there
  | _ => exact before there

theorem collected_of_reaches (quiet : Quiet D start) (dated : Dated D start)
    (reached : (lifecycle D start).Reaches (fun s label => patient D s label = true) s) :
    Collected D s := by
  refine reached.invariant (P := Collected D) ⟨?_, ?_⟩ ?_
  · simp [lifecycle, quiet.collections]
  · simp [lifecycle, quiet.collected]
  · intro s s' label before collected ok stepped
    have guarded := guarded_of_reaches quiet (before.mono careful_of_patient)
    have dated := dated_of_reaches dated before
    exact ⟨collected.collections_step dated guarded ok (step_of stepped),
      collected.collected_step (step_of stepped)⟩

/-- The token of a collected instance has expired, and it never had a certificate. -/
theorem collected_expired_and_uncertified (quiet : Quiet D start) (dated : Dated D start)
    (reached : (lifecycle D start).Reaches (fun s label => patient D s label = true) s)
    {nonce : T} {time : Time} (there : (nonce, time) ∈ s.collected) :
    (∀ {claims : Claims}, D.verify nonce = some claims → claims.expiresAt ≤ time) ∧
      ∀ {publicKeyPEM : String}, (nonce, publicKeyPEM) ∉ s.certificates := by
  obtain ⟨finished, expired⟩ := (collected_of_reaches quiet dated reached).collected there
  exact ⟨expired, fun certified => finished.uncertified certified rfl⟩

end

/-! ## A timeout that is raised while the collector keeps its age -/

namespace Raised

open Race (setting)
open Overlap (request launching finishing)

/-- A minute to register. -/
def start : State Claims :=
  { Overlap.start with timeout := 60000000000, ages := fun _ => 60000000000 }

theorem quiet : Quiet setting start := { Overlap.quiet with }

omit [DecidableEq T] in
theorem dated_of_empty {D : Setting T} {s : State T} (quiet : Quiet D s)
    (rows : ∀ server, s.tables server = .empty) (objects : s.objects = .empty) : Dated D s where
  rows := by
    intro server id row claims time there
    rw [rows server] at there
    cases there
  objects := by simp [objects]
  creations := by simp [quiet.creations]
  reading := by simp [quiet.calls]
  deletions := by simp [quiet.deletions]

theorem dated : Dated setting start := dated_of_empty quiet (fun _ => rfl) rfl

/-- The token of an instance that is created after the timeout was raised to ten minutes. -/
def nonce : Claims := claimsFor setting { start with timeout := 600000000000 } request

/-- The timeout is raised after the collector has started. -/
def raising : List (Label Claims) :=
  [.refresh 600000000000] ++ launching ++ finishing ++
    [.tick 61000000000, .find "first", .terminate 0 true]

/-- The instance is terminated after a minute, long before its token expires. -/
theorem collected_unexpired :
    Quiet setting start ∧ Dated setting start ∧ ∃ s, (lifecycle setting start).Reachable s ∧
      (nonce, 61000000001) ∈ s.collected ∧ setting.verify nonce = some nonce ∧
      61000000001 < nonce.expiresAt :=
  ⟨quiet, dated, _, Machine.reachable_of_run raising .start rfl, .head _, rfl, by decide⟩

/-- The token of an instance that is created under the timeout the collector was started
with. -/
def early : Claims := claimsFor setting start request

theorem reaches_collected :
    ∃ s, (lifecycle setting start).Reaches (fun s label => patient setting s label = true) s ∧
      (early, 61000000001) ∈ s.collected :=
  ⟨_, Machine.reaches_of_runWithin (launching ++ finishing ++
    [.tick 61000000000, .find "first", .terminate 0 true]) .start rfl, .head _⟩

theorem collected_expired :
    ∃ s, (lifecycle setting start).Reaches (fun s label => patient setting s label = true) s ∧
      (early, 61000000001) ∈ s.collected ∧ early.expiresAt ≤ 61000000001 ∧
      ∀ publicKeyPEM, (early, publicKeyPEM) ∉ s.certificates := by
  obtain ⟨s, reached, there⟩ := reaches_collected
  obtain ⟨expired, uncertified⟩ := collected_expired_and_uncertified quiet dated reached there
  exact ⟨s, reached, there, expired rfl, fun _ => uncertified⟩

end Raised

end Nstance.Instances
