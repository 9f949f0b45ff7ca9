import Nstance.Instances.Certificates

/-!
# A registration lasts

Between two rebuilds a registration can only be lost to a write that replaces more than it
means to: the record that a creation or a deletion stores, the row that a creation updates.
A run that is careful about these (`lasting`) keeps the registration of every nonce that a
certificate was returned for (`registration_lasts`).
-/

namespace Nstance.Instances

open Objects Interaction

variable {T : Type} [DecidableEq T]

/-- The steps of creations, registrations and deletions, health reports and collections,
careful and with marks that find the live row of their nonce. -/
def lasting (D : Setting T) (s : State T) (label : Label T) : Bool :=
  careful D s label &&
    match label with
    | .lead _ _ => false
    | .erase _ => false
    | .purge _ _ => false
    | .mark j _ =>
      (s.calls[j]?).all fun call =>
        ((s.tables call.server).get call.claims.subject).any fun row =>
          row.live && row.nonce = call.nonce
    | _ => true

/-- A registration that row and record know of. -/
structure InForce (D : Setting T) (s : State T) (nonce : T) : Prop where
  row : ∃ claims server row, D.verify nonce = some claims ∧ s.leader = some server ∧
    (s.tables server).get claims.subject = some row ∧ row.nonce = nonce ∧
      row.registeredAt.isSome ∧ row.instancePub.isSome
  record : ∃ claims record, D.verify nonce = some claims ∧
    s.recordFor D claims.tenant claims.subject = some record ∧
      record.registeredAt.isSome ∧ record.publicKeyPEM ≠ ""
  /-- The nonce is not accepted again. -/
  refused : ∀ server entry, s.leader = some server →
    (s.tables server).getInstanceByNonce nonce = some entry → entry.2.registeredAt.isSome
  /-- The instance is not dangling, whatever the age. -/
  uncollected : ∀ server maxAge entry, s.leader = some server →
    entry ∈ (s.tables server).findDanglingInstances s.now maxAge → entry.2.nonce ≠ nonce

/-! ## Rows -/

/-- A row that has lost nothing of the registration and the deletion of an earlier one. -/
structure Row.Keeps (row old : Row T) : Prop where
  nonce : row.nonce = old.nonce
  registered : old.registeredAt.isSome → row.registeredAt.isSome
  keyed : old.registeredAt.isSome → old.instancePub.isSome → row.instancePub.isSome
  deleted : old.deletedAt.isSome → row.deletedAt.isSome

omit [DecidableEq T] in
theorem Row.Keeps.refl (row : Row T) : row.Keeps row := ⟨rfl, id, fun _ => id, id⟩

omit [DecidableEq T] in
theorem keeps_reported (now : Time) (health : String) (row : Row T) :
    ({ row with health := some health, healthAt := some now, updatedAt := some now } :
      Row T).Keeps row := ⟨rfl, id, fun _ => id, id⟩

omit [DecidableEq T] in
theorem keeps_deleted (now : Time) (row : Row T) :
    ({ row with deletedAt := some now, updatedAt := some now } : Row T).Keeps row :=
  ⟨rfl, id, fun _ => id, fun _ => rfl⟩

section

variable {D : Setting T} {s s' : State T} {label : Label T}

theorem careful_of_lasting (s : State T) (label : Label T)
    (ok : lasting D s label = true) : careful D s label = true :=
  ((Bool.and_eq_true _ _).mp ok).1

variable {t : Rows T} {id : InstanceID} {old : Row T} {server : ServerID} {change : Row T → Row T}
  {t' : Rows T} {other : InstanceID} {claims : Claims} {key : StorageKey}
  {record : InstanceRecord T}

omit [DecidableEq T] in
theorem kept_withTable {changed : ServerID} (was : (s.tables server).get id = some old)
    (kept : (s.tables changed).get id = some old → ∃ row, t.get id = some row ∧ row.Keeps old) :
    ∃ row, ((s.withTable changed t).tables server).get id = some row ∧ row.Keeps old := by
  rw [State.tables_withTable]
  by_cases same : server = changed
  · subst same
    rw [if_pos rfl]
    exact kept was
  · rw [if_neg same]
    exact ⟨old, was, .refl old⟩

omit [DecidableEq T] in
theorem kept_update {selected : InstanceID → Row T → Bool}
    {keeps : ∀ row, (change row).nonce = row.nonce} (kept : ∀ row, (change row).Keeps row)
    (was : t.get id = some old) :
    ∃ row, (t.update selected change keeps).get id = some row ∧ row.Keeps old := by
  rw [Table.get_update, was, Option.map_some]
  refine ⟨_, rfl, ?_⟩
  split
  · exact kept old
  · exact .refl old

omit [DecidableEq T] in
theorem kept_updateLive {keeps : ∀ row, (change row).nonce = row.nonce}
    (kept : ∀ row, (change row).Keeps row) (done : t.updateLive id change keeps = some t')
    (was : t.get other = some old) : ∃ row, t'.get other = some row ∧ row.Keeps old := by
  rw [Rows.updateLive] at done
  split at done <;> cases done
  exact kept_update kept was

theorem kept_createInstance {row : Row T} (done : t.createInstance id row = some t')
    (was : t.get other = some old) : t'.get other = some old := by
  have different : other ≠ id := by
    rintro rfl
    rw [(Rows.get_createInstance_self done).1] at was
    cases was
  rw [Rows.get_createInstance_of_ne done different, was]

theorem Step.row_kept (move : Step D s label s') (ok : lasting D s label)
    (was : (s.tables server).get id = some old) :
    ∃ row, (s'.tables server).get id = some row ∧ row.Keeps old := by
  cases move with
  | led | unled | purged => cases ((Bool.and_eq_true _ _).mp ok).2
  | inserted created fresh =>
    refine kept_withTable was fun was => ?_
    exact ⟨old, kept_createInstance fresh was, .refl old⟩
  | @updated k okay creation t created written =>
    refine kept_withTable was fun was => ?_
    rw [Rows.get_updateInstance written, was, Option.map_some]
    refine ⟨_, rfl, ?_⟩
    split
    · rename_i same
      subst same
      -- the row is neither registered nor deleted
      have kept : old.live ∧ old.registeredAt = none := by
        simpa [careful, created, was] using careful_of_lasting s _ ok
      have undeleted : old.deletedAt = none := Option.isNone_iff_eq_none.mp kept.1
      exact ⟨rfl, by simp [kept.2], by simp [kept.2], by simp [undeleted]⟩
    · exact .refl old
  | marked at_ stored =>
    exact kept_withTable was (kept_update fun row =>
      ⟨rfl, fun _ => rfl, fun _ _ => rfl, fun deleted => deleted⟩)
  | reported written =>
    exact kept_withTable was (kept_updateLive (keeps_reported s.now _) written)
  | deleted written => exact kept_withTable was (kept_updateLive (keeps_deleted s.now) written)
  | _ => exact ⟨old, was, .refl old⟩

theorem Step.leader_kept (move : Step D s label s') (ok : lasting D s label) :
    s'.leader = s.leader := by
  cases move with
  | led | unled => cases ((Bool.and_eq_true _ _).mp ok).2
  | _ => rfl

/-! ## Records -/

/-- The record of an instance says that it has registered. -/
def Recorded (D : Setting T) (s : State T) (claims : Claims) : Prop :=
  ∃ record, s.recordFor D claims.tenant claims.subject = some record ∧ record.registeredAt.isSome

omit [DecidableEq T] in
theorem recorded_of_get (key_for : D.keyFor claims.tenant claims.subject = some key)
    (there : s.objects.get key = some (some record)) (registered : record.registeredAt.isSome) :
    Recorded D s claims := by
  refine ⟨record, ?_, registered⟩
  rw [State.recordFor, key_for, Option.bind_some, there]
  rfl

theorem registered_of_not_overwrites {stored : InstanceRecord T}
    (kept : overwrites D s record = false) (key_of : D.keyOf record = some key)
    (there : s.objects.get key = some (some stored)) (registered : stored.registeredAt.isSome) :
    record.registeredAt.isSome := by
  have read : s.recordFor D record.tenant record.instanceID = some stored := by
    rw [Setting.keyOf] at key_of
    rw [State.recordFor, key_of, Option.bind_some, there]
    rfl
  simpa [overwrites, read, registered] using kept

theorem Step.recorded_kept (move : Step D s label s') (wf : Wellformed D s) (ok : lasting D s label)
    (recorded : Recorded D s claims) : Recorded D s' claims := by
  obtain ⟨record, read, registered⟩ := recorded
  obtain ⟨key, key_for, there⟩ := get_of_recordFor read
  rcases move.objects with same | ⟨gone, rfl, -⟩ | ⟨at_, stored, stores, key_of, written⟩
  · exact recorded_of_get key_for (same ▸ there) registered
  · cases ((Bool.and_eq_true _ _).mp ok).2
  by_cases same : key = at_
  · subst same
    refine recorded_of_get key_for (by rw [written, Dict.get_set_self]) ?_
    cases stores with
    | creation created =>
      refine registered_of_not_overwrites ?_ key_of there registered
      simpa [careful, created] using careful_of_lasting s _ ok
    | registration at_ reading => exact (wf.reading (List.mem_of_getElem? at_) reading).2.1
    | deletion deleting =>
      refine registered_of_not_overwrites ?_ key_of there registered
      simpa [careful, deleting] using careful_of_lasting s _ ok
  · refine recorded_of_get key_for ?_ registered
    rw [written, Dict.get_set_of_ne same, there]

/-! ## Registrations -/

/-- The rows and records of the certified nonces are registered. -/
structure Lasts (D : Setting T) (s : State T) : Prop where
  rows : ∀ {certificate : T × String}, certificate ∈ s.certificates →
    ∃ claims server row, D.verify certificate.1 = some claims ∧ s.leader = some server ∧
      (s.tables server).get claims.subject = some row ∧ row.nonce = certificate.1 ∧
        row.registeredAt.isSome ∧ row.instancePub.isSome
  storing : ∀ {call : Call T}, call ∈ s.calls → call.stage = .stored →
    Recorded D s call.claims
  records : ∀ {certificate : T × String}, certificate ∈ s.certificates →
    ∃ claims, D.verify certificate.1 = some claims ∧ Recorded D s claims

namespace Lasts

variable {certificate : T × String}

section

variable (lasts : Lasts D s) (wf : Wellformed D s) (ok : lasting D s label)
  (move : Step D s label s')
include lasts wf ok move

theorem rows_step (there : certificate ∈ s'.certificates) :
    ∃ claims server row, D.verify certificate.1 = some claims ∧ s'.leader = some server ∧
      (s'.tables server).get claims.subject = some row ∧ row.nonce = certificate.1 ∧
        row.registeredAt.isSome ∧ row.instancePub.isSome := by
  have before : certificate ∈ s.certificates → ∃ claims server row,
      D.verify certificate.1 = some claims ∧ s'.leader = some server ∧
        (s'.tables server).get claims.subject = some row ∧ row.nonce = certificate.1 ∧
          row.registeredAt.isSome ∧ row.instancePub.isSome := by
    intro there
    obtain ⟨claims, server, old, verified, leading, was, nonce, registered, keyed⟩ :=
      lasts.rows there
    obtain ⟨row, now_, keeps⟩ := move.row_kept ok was
    exact ⟨claims, server, row, verified, (move.leader_kept ok).trans leading, now_,
      keeps.nonce.trans nonce, keeps.registered registered, keeps.keyed registered keyed⟩
  cases move with
  | @marked j call at_ stored =>
    rcases List.mem_cons.mp there with rfl | there
    · have leading : s.leader = some call.server := by
        have kept := careful_of_lasting s _ ok
        simp only [careful, at_, Option.all_some, Bool.and_eq_true, decide_eq_true_eq] at kept
        exact kept.2.1
      have found := ((Bool.and_eq_true _ _).mp ok).2
      simp only [at_, Option.all_some, Option.any_eq_true, Bool.and_eq_true,
        decide_eq_true_eq] at found
      obtain ⟨row, was, live, nonce⟩ := found
      obtain ⟨marked, now_, same, registered, keyed⟩ := Rows.marked_row was live
      refine ⟨call.claims, call.server, marked, wf.verified (List.mem_of_getElem? at_), leading,
        ?_, same.trans nonce, registered, keyed⟩
      rw [State.tables_withTable, if_pos rfl]
      exact now_
    · exact before there
  | unmarked => cases careful_of_lasting s _ ok
  | _ => exact before there

theorem storing_step {call : Call T} (there : call ∈ s'.calls) (stage : call.stage = .stored) :
    Recorded D s' call.claims := by
  rcases move.stored_from there stage with there | ⟨old, record, key, rfl, stores⟩
  · exact move.recorded_kept wf ok (lasts.storing there stage)
  obtain ⟨-, registered, key_of⟩ := wf.reading stores.mem stores.reading
  refine recorded_of_get (key_of ▸ stores.key_of) ?_ registered
  rw [stores.objects, Dict.get_set_self]

theorem records_step (there : certificate ∈ s'.certificates) :
    ∃ claims, D.verify certificate.1 = some claims ∧ Recorded D s' claims := by
  rcases move.certificate_from there with there | ⟨j, marked, call, rfl, at_, stored, rfl⟩
  · obtain ⟨claims, verified, recorded⟩ := lasts.records there
    exact ⟨claims, verified, move.recorded_kept wf ok recorded⟩
  · have mem := List.mem_of_getElem? at_
    exact ⟨call.claims, wf.verified mem, move.recorded_kept wf ok (lasts.storing mem stored)⟩

theorem step : Lasts D s' where
  rows := lasts.rows_step wf ok move
  storing := lasts.storing_step wf ok move
  records := lasts.records_step wf ok move

end

end Lasts

end

/-! ## Runs -/

section

variable {D : Setting T} {start s : State T}

omit [DecidableEq T] in
theorem Quiet.lasts (quiet : Quiet D start) : Lasts D start where
  rows := by simp [quiet.certificates]
  storing := by simp [quiet.calls]
  records := by simp [quiet.certificates]

theorem lasts_of_reaches (quiet : Quiet D start)
    (reached : (lifecycle D start).Reaches (fun s label => lasting D s label = true) s) :
    Lasts D s :=
  reached.invariant quiet.lasts fun before lasts ok stepped =>
    lasts.step (wellformed_of_reaches quiet before) ok (step_of stepped)

omit [DecidableEq T] in
theorem Guarded.not_dangling (guarded : Guarded s) {server : ServerID}
    {certificate : T × String} {entry : InstanceID × Row T} {maxAge : Duration}
    (leading : s.leader = some server) (there : certificate ∈ s.certificates)
    (found : entry ∈ (s.tables server).findDanglingInstances s.now maxAge) :
    entry.2.nonce ≠ certificate.1 := by
  intro carries
  obtain ⟨listed, dangling⟩ := List.mem_filter.mp found
  rw [Rows.dangling, Bool.and_eq_true, Bool.and_eq_true] at dangling
  have registered := guarded.refused leading there (Dict.get_eq_some_iff.mpr listed) carries
    dangling.1.2
  rw [Option.isNone_iff_eq_none.mp dangling.1.1] at registered
  cases registered

/-- A certified registration stays in force, and a deleted row stays deleted. -/
theorem registration_lasts (quiet : Quiet D start)
    (reached : (lifecycle D start).Reaches (fun s label => lasting D s label = true) s) :
    (∀ {nonce : T} {publicKeyPEM : String}, (nonce, publicKeyPEM) ∈ s.certificates →
      InForce D s nonce) ∧
    ∀ {label : Label T} {s' : State T}, lasting D s label → step D s label = some s' →
      ∀ {server : ServerID} {id : InstanceID} {row : Row T},
        (s.tables server).get id = some row → row.deletedAt.isSome →
          ∃ row', (s'.tables server).get id = some row' ∧ row'.deletedAt.isSome := by
  have wf := wellformed_of_reaches quiet reached
  have guarded := guarded_of_reaches quiet (reached.mono careful_of_lasting)
  have lasts := lasts_of_reaches quiet reached
  constructor
  · intro nonce publicKeyPEM there
    obtain ⟨claims, verified, record, read, registered⟩ := lasts.records there
    exact {
      row := lasts.rows there
      record := ⟨claims, record, verified, read, registered,
        (wf.stored_of_read read).2.keyed registered⟩
      refused := fun server entry leading found =>
        guarded.registered_of_lookup leading there rfl found
      uncollected := fun server maxAge entry leading found =>
        guarded.not_dangling leading there found }
  · intro label s' ok stepped server id row was deleted
    obtain ⟨row', now_, keeps⟩ := (step_of stepped).row_kept ok was
    exact ⟨row', now_, keeps.deleted deleted⟩

end

/-! ## An agent that registers before its creation ends -/

namespace Overlap

open Race (setting finish)

/-- Nothing has been created. -/
def start : State Claims where
  now := 1
  timeout := 600000000000
  ages := fun _ => 600000000000
  leader := some "first"
  tables := fun _ => .empty
  objects := .empty

theorem quiet : Quiet setting start where
  creations := rfl
  calls := rfl
  deletions := rfl
  collections := rfl
  registered := rfl
  certificates := rfl
  collected := rfl
  stored := by
    intro key record stored
    cases stored

/-- The instance to create. -/
def request : CreateInstanceRequest where
  instanceID := "web1"
  tenant := "acme"
  group := "web"
  subnetID := "subnet"
  infraConfigHash := "current"

/-- The nonce that it gets. -/
def nonce : Claims := claimsFor setting start request

/-- The creation up to the provider's answer. -/
def launching : List (Label Claims) :=
  [.create "first" request, .preInsert 0 true, .storeRecord 0 .stored,
    .launch 0 (some { providerInstanceID := "vm1" })]

/-- The rest of the creation. -/
def finishing : List (Label Claims) := [.storeRecord 0 .stored, .updateRow 0 true]

/-- A registration from its arrival to its answer. -/
def registering : List (Label Claims) :=
  [.receive "first" nonce "key" {}, .lookup 0 true] ++ finish 0

/-- The end of the creation takes the registration from the record and from the row, and
the nonce counts as unused. -/
theorem registration_lost :
    Quiet setting start ∧ ∃ s, (lifecycle setting start).Reachable s ∧
      (nonce, "key") ∈ s.certificates ∧
      ((s.tables "first").get "web1").map Row.registeredAt = some none ∧
      ((s.tables "first").get "web1").map Row.instancePub = some none ∧
      (s.recordFor setting "acme" "web1").map InstanceRecord.registeredAt = some none ∧
      ((s.tables "first").getInstanceByNonce nonce).map (fun entry => entry.2.registeredAt) =
        some none :=
  ⟨quiet, _, Machine.reachable_of_run (launching ++ registering ++ finishing) .start rfl,
    .head _, rfl, rfl, rfl, rfl⟩

theorem reading_filed :
    ∃ s, (lifecycle setting start).run start (launching ++ registering.take 3) = some s ∧
      ∃ call ∈ s.calls, ∃ record, call.stage = .read record ∧
        setting.keyOf record = setting.keyFor "acme" "web1" :=
  ⟨_, rfl, _, .head _, _, rfl, ((records_filed quiet (Machine.reachable_of_run
    (launching ++ registering.take 3) .start rfl)).2 _ (.head _) _ rfl).2⟩

theorem reaches_finished :
    ∃ s, (lifecycle setting start).Reaches (fun s label => lasting setting s label = true) s ∧
      (nonce, "key") ∈ s.certificates :=
  ⟨_, Machine.reaches_of_runWithin (launching ++ finishing ++ registering ++
    [.health "first" "web1" "ok", .softDelete "first" "web1"]) .start rfl, .head _⟩

theorem registration_lasts_finished :
    ∃ s, (lifecycle setting start).Reaches (fun s label => lasting setting s label = true) s ∧
      (nonce, "key") ∈ s.certificates ∧ InForce setting s nonce := by
  obtain ⟨s, reached, there⟩ := reaches_finished
  exact ⟨s, reached, there, (registration_lasts quiet reached).1 there⟩

end Overlap

end Nstance.Instances
