import Mathlib.Logic.Function.Basic
import Nstance.Interaction.Trace

/-!
# Optimistic updates of one object

A task loads the document with its validator, computes a new document from it, and writes
that on the condition that the object still has the validator. A failed condition sends it
back to the load, a bounded number of times.

Equal validators mean equal documents, by assumption on the store (`Faithful`). Then every
run is serial (`Serial`): the document is the first one with the mutations of the tasks
that report a write applied in the order of their writes.
-/

namespace Nstance.Interaction.Optimistic

/-- What an update makes of a loaded document. -/
inductive Verdict (Doc ε : Type) where
  /-- Nothing is to be written. -/
  | keep
  | write (doc : Doc)
  | fail (error : ε)
deriving DecidableEq

/-- A family of updates with a number of attempts. -/
structure Updates (Op Doc ε : Type) where
  /-- What is read when there is no object. -/
  missing : Doc
  mutate : Op → Doc → Verdict Doc ε
  attempts : Nat
  exhausted : ε

/-- A document under the validator of its version. -/
structure Stored (Tag Doc : Type) where
  tag : Tag
  doc : Doc

/-- How an update ends. -/
inductive Outcome (ε : Type) where
  | kept
  | wrote
  | failed (error : ε)
deriving DecidableEq

/-- Where a caller of the loop is. -/
inductive Task (Op Tag Doc ε : Type) where
  | idle
  /-- About to load, with the given number of attempts after this one. -/
  | loading (op : Op) (left : Nat)
  /-- The document and its validator were loaded; a missing object has none. -/
  | loaded (op : Op) (left : Nat) (tag : Option Tag) (found : Doc)
  | returned (op : Op) (outcome : Outcome ε)

/-- The operation of a task that has begun and not returned. -/
def Task.underway {Op Tag Doc ε : Type} : Task Op Tag Doc ε → Option Op
  | .loading op _ | .loaded op _ _ _ => some op
  | _ => none

/-- The object, the callers and the writes so far. -/
structure State (Op Tag Doc ε : Type) where
  object : Option (Stored Tag Doc)
  tasks : Nat → Task Op Tag Doc ε := fun _ => .idle
  /-- The tasks whose writes took effect, the latest first. -/
  log : List (Nat × Op) := []

/-- A caller begins, loads, decides, writes or fails. -/
inductive Label (Op Tag ε : Type) where
  | begin (id : Nat) (op : Op)
  | load (id : Nat)
  /-- The loaded document needs no write, or must not be written. -/
  | decide (id : Nat)
  /-- The conditional write; the document gets the given validator. -/
  | put (id : Nat) (tag : Tag)
  /-- The conditional write fails as if the validator did not match. -/
  | conflict (id : Nat)
  /-- A load or a write fails in another way, or the task is cancelled. -/
  | abort (id : Nat) (error : ε)

variable {Op Tag Doc ε : Type}

namespace State

variable (U : Updates Op Doc ε) (s : State Op Tag Doc ε)

/-- The stored document. -/
def document : Doc :=
  match s.object with
  | none => U.missing
  | some stored => stored.doc

/-- The stored validator. -/
def tag : Option Tag := s.object.map Stored.tag

/-- A task has moved on. -/
def setTask (id : Nat) (task : Task Op Tag Doc ε) : State Op Tag Doc ε :=
  { s with tasks := Function.update s.tasks id task }

/-- A write takes effect. -/
def commit (id : Nat) (op : Op) (stored : Stored Tag Doc) : State Op Tag Doc ε :=
  { object := some stored
    tasks := Function.update s.tasks id (.returned op .wrote)
    log := (id, op) :: s.log }

end State

variable (U : Updates Op Doc ε)

/-- The next attempt, or the return after the last one. -/
def retry (op : Op) : Nat → Task Op Tag Doc ε
  | 0 => .returned op (.failed U.exhausted)
  | left + 1 => .loading op left

section

variable [DecidableEq Tag] (U : Updates Op Doc ε)

/-- One step of a task. -/
def step (s : State Op Tag Doc ε) : Label Op Tag ε → Option (State Op Tag Doc ε)
  | .begin id op =>
    match s.tasks id with
    | .idle => some (s.setTask id (retry U op U.attempts))
    | _ => none
  | .load id =>
    match s.tasks id with
    | .loading op left => some (s.setTask id (.loaded op left s.tag (s.document U)))
    | _ => none
  | .decide id =>
    match s.tasks id with
    | .loaded op _ _ found =>
      match U.mutate op found with
      | .keep => some (s.setTask id (.returned op .kept))
      | .fail error => some (s.setTask id (.returned op (.failed error)))
      | .write _ => none
    | _ => none
  | .put id tag =>
    match s.tasks id with
    | .loaded op left expected found =>
      match U.mutate op found with
      | .write next =>
        if s.tag = expected then some (s.commit id op ⟨tag, next⟩)
        else some (s.setTask id (retry U op left))
      | _ => none
    | _ => none
  | .conflict id =>
    match s.tasks id with
    | .loaded op left _ found =>
      match U.mutate op found with
      | .write _ => some (s.setTask id (retry U op left))
      | _ => none
    | _ => none
  | .abort id error =>
    match s.tasks id with
    | .loading op _ => some (s.setTask id (.returned op (.failed error)))
    | .loaded op _ _ _ => some (s.setTask id (.returned op (.failed error)))
    | _ => none

/-- The tasks over an object that holds the given document at the start. -/
def shared (initial : Option (Stored Tag Doc)) : Machine (State Op Tag Doc ε) (Label Op Tag ε) where
  start := { object := initial }
  step := step U

end

/-! ## What a step can do -/

section

variable {U : Updates Op Doc ε} {s s' : State Op Tag Doc ε}

/-- A step either moves one task, which has not returned and does not report a
write, or it is a write of a task over the document that the task loaded. A task is given
its operation when it begins. -/
inductive Change (U : Updates Op Doc ε) (s : State Op Tag Doc ε) :
    Label Op Tag ε → State Op Tag Doc ε → Prop
  | moved {label : Label Op Tag ε} {id : Nat} {task : Task Op Tag Doc ε} :
      (∀ op outcome, s.tasks id ≠ .returned op outcome) →
      (∀ op, task ≠ .returned op .wrote) →
      (∀ op left tag found, task = .loaded op left tag found →
        tag = s.tag ∧ found = s.document U) →
      (∀ op, task.underway = some op →
        (s.tasks id).underway = some op ∨ label = .begin id op) →
      Change U s label (s.setTask id task)
  | wrote {id : Nat} {op : Op} {left : Nat} {found next : Doc} {tag : Tag} :
      s.tasks id = .loaded op left s.tag found → U.mutate op found = .write next →
      Change U s (.put id tag) (s.commit id op ⟨tag, next⟩)

theorem retry_ne_wrote (op op' : Op) (left : Nat) :
    (retry U op left : Task Op Tag Doc ε) ≠ .returned op' .wrote := by
  cases left <;> simp [retry]

theorem retry_ne_loaded (op op' : Op) (left left' : Nat) (tag : Option Tag) (found : Doc) :
    (retry U op left : Task Op Tag Doc ε) ≠ .loaded op' left' tag found := by
  cases left <;> simp [retry]

variable {label : Label Op Tag ε}

theorem Change.retried {id : Nat} (op : Op) (left : Nat)
    (going : ∀ op outcome, s.tasks id ≠ .returned op outcome)
    (own : (s.tasks id).underway = some op ∨ label = .begin id op) :
    Change U s label (s.setTask id (retry U op left)) := by
  refine .moved going (fun op' => retry_ne_wrote op op' left) ?_ ?_
  · intro op' left' tag found same
    exact absurd same (retry_ne_loaded op op' left left' tag found)
  · cases left with
    | zero => exact nofun
    | succ left =>
      rintro _ ⟨⟩
      exact own

theorem Change.stopped {id : Nat} {op : Op} {outcome : Outcome ε}
    (going : ∀ op outcome, s.tasks id ≠ .returned op outcome) (silent : outcome ≠ .wrote) :
    Change U s label (s.setTask id (.returned op outcome)) :=
  .moved going (by simp [silent]) (by simp) nofun

theorem step_change [DecidableEq Tag] (stepped : step U s label = some s') :
    Change U s label s' := by
  cases label with simp only [step] at stepped
  | begin id op =>
    split at stepped <;> cases stepped
    exact .retried op U.attempts (by simp [*]) (.inr rfl)
  | load id =>
    split at stepped <;> cases stepped
    rename_i loads
    refine .moved (by simp [loads]) (by simp) (by simp +contextual) ?_
    rintro _ ⟨⟩
    exact .inl (loads ▸ rfl)
  | decide id =>
    split at stepped
    · split at stepped <;> cases stepped
      · exact .stopped (by simp [*]) (by simp)
      · exact .stopped (by simp [*]) (by simp)
    · cases stepped
  | put id tag =>
    split at stepped
    · rename_i op left expected found loads
      split at stepped
      · rename_i next writes
        split at stepped <;> cases stepped
        · rename_i same
          exact .wrote (same ▸ loads) writes
        · exact .retried op left (by simp [loads]) (.inl (loads ▸ rfl))
      · cases stepped
    · cases stepped
  | conflict id =>
    split at stepped
    · rename_i op left expected found loads
      split at stepped <;> cases stepped
      exact .retried op left (by simp [loads]) (.inl (loads ▸ rfl))
    · cases stepped
  | abort id error =>
    split at stepped <;> cases stepped
    · exact .stopped (by simp [*]) (by simp)
    · exact .stopped (by simp [*]) (by simp)

end

/-! ## Serial runs -/

/-- The document after the logged mutations, the latest being the first of the
list. Each was a write on the document that the earlier ones left. -/
inductive Replays (U : Updates Op Doc ε) (initial : Doc) : List (Nat × Op) → Doc → Prop
  | nil : Replays U initial [] initial
  | cons {log : List (Nat × Op)} {before after : Doc} {id : Nat} {op : Op} :
      Replays U initial log before → U.mutate op before = .write after →
        Replays U initial ((id, op) :: log) after

/-- The document is the result of the logged writes, and the log lists every task
that reports a write, once, and no other. -/
structure Serial (U : Updates Op Doc ε) (initial : Doc) (s : State Op Tag Doc ε) : Prop where
  replays : Replays U initial s.log (s.document U)
  logged : ∀ id op, (id, op) ∈ s.log ↔ s.tasks id = .returned op .wrote
  once : (s.log.map Prod.fst).Nodup

/-- A validator stands for one document: a write that takes effect is given the
validator of the document it writes. -/
def Faithful (contents : Tag → Doc) (s : State Op Tag Doc ε) :
    Label Op Tag ε → Prop
  | .put id tag => ∀ op left found next,
      s.tasks id = .loaded op left s.tag found → U.mutate op found = .write next →
        contents tag = next
  | _ => True

/-- The document that a validator stands for. -/
def Means (contents : Tag → Doc) : Option Tag → Doc → Prop
  | none, doc => doc = U.missing
  | some tag, doc => doc = contents tag

section

variable {U : Updates Op Doc ε} {contents : Tag → Doc} {initial : Option (Stored Tag Doc)}
  {s s' : State Op Tag Doc ε}

theorem Means.unique {tag : Option Tag} {first second : Doc} (one : Means U contents tag first)
    (other : Means U contents tag second) : first = second := by
  cases tag with
  | none | some => exact Eq.trans one (Eq.symm other)

/-- What every step keeps: the run so far is serial, and the validators of the
object and of every loaded document stand for what was read with them. -/
structure Kept (U : Updates Op Doc ε) (contents : Tag → Doc) (initial : Doc)
    (s : State Op Tag Doc ε) : Prop where
  serial : Serial U initial s
  object : Means U contents s.tag (s.document U)
  loads : ∀ {id op left tag found}, s.tasks id = .loaded op left tag found →
    Means U contents tag found

variable {origin : Doc}

theorem Kept.setTask (kept : Kept U contents origin s) {id : Nat} {task : Task Op Tag Doc ε}
    (going : ∀ op outcome, s.tasks id ≠ .returned op outcome)
    (silent : ∀ op, task ≠ .returned op .wrote)
    (current : ∀ op left tag found, task = .loaded op left tag found →
      tag = s.tag ∧ found = s.document U) : Kept U contents origin (s.setTask id task) where
  serial.replays := kept.serial.replays
  serial.once := kept.serial.once
  serial.logged other op := by
    refine (kept.serial.logged other op).trans ?_
    by_cases same : other = id
    · subst same
      simp [State.setTask, going, silent]
    · simp [State.setTask, same]
  object := kept.object
  loads {other op left tag found} loads := by
    by_cases same : other = id
    · subst same
      obtain ⟨rfl, rfl⟩ := current op left tag found (by simpa [State.setTask] using loads)
      exact kept.object
    · exact kept.loads (by simpa [State.setTask, same] using loads)

theorem Kept.commit (kept : Kept U contents origin s) {id : Nat} {op : Op} {left : Nat}
    {found next : Doc} {tag : Tag} (loads : s.tasks id = .loaded op left s.tag found)
    (writes : U.mutate op found = .write next) (means : contents tag = next) :
    Kept U contents origin (s.commit id op ⟨tag, next⟩) where
  serial.replays := by
    -- the matching validator means that nothing was written since the load
    have unchanged : found = s.document U := (kept.loads loads).unique kept.object
    exact .cons kept.serial.replays (unchanged ▸ writes)
  serial.logged other op' := by
    by_cases same : other = id
    · subst same
      have fresh : (other, op') ∉ s.log := by
        rw [kept.serial.logged, loads]
        simp
      simp [State.commit, fresh, eq_comm]
    · simpa [State.commit, same] using kept.serial.logged other op'
  serial.once := by
    have fresh : id ∉ s.log.map Prod.fst := by
      intro listed
      obtain ⟨⟨other, op'⟩, mem, rfl⟩ := List.mem_map.mp listed
      rw [kept.serial.logged, loads] at mem
      cases mem
    exact List.nodup_cons.mpr ⟨fresh, kept.serial.once⟩
  object := means.symm
  loads {other op' left' tag' found'} loads' := by
    by_cases same : other = id
    · subst same
      simp [State.commit] at loads'
    · exact kept.loads (by simpa [State.commit, same] using loads')

variable [DecidableEq Tag]

theorem Kept.step (kept : Kept U contents origin s) {label : Label Op Tag ε}
    (faithful : Faithful U contents s label) (stepped : step U s label = some s') :
    Kept U contents origin s' := by
  cases step_change stepped with
  | moved going silent current _ => exact kept.setTask going silent current
  | wrote loads writes => exact kept.commit loads writes (faithful _ _ _ _ loads writes)

/-- The document at the beginning. -/
def firstDocument (U : Updates Op Doc ε) (initial : Option (Stored Tag Doc)) : Doc :=
  match initial with
  | none => U.missing
  | some stored => stored.doc

section

variable (named : ∀ stored ∈ initial, contents stored.tag = stored.doc)
  (reached : (shared U initial).Reaches (Faithful U contents) s)
include named reached

theorem kept_of_reaches : Kept U contents (firstDocument U initial) s := by
  refine reached.invariant ?_ fun _ kept faithful stepped => kept.step faithful stepped
  refine ⟨⟨?_, by simp [shared], List.nodup_nil⟩, ?_, by simp [shared]⟩
  · cases initial <;> exact .nil
  · cases initial with
    | none => rfl
    | some stored => exact (named stored rfl).symm

/-- **Optimistic updates are serial.** -/
theorem serial_of_reaches : Serial U (firstDocument U initial) s :=
  (kept_of_reaches named reached).serial

end

end

end Nstance.Interaction.Optimistic
