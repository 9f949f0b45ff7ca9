import Mathlib.Logic.Function.Basic
import Nstance.Interaction.Trace

/-!
# The allocation of VMIDs

Concurrent calls of `nextVMID` draw candidates from one counter. Past the largest VMID a call
stores the floor and draws again, in two steps. Two calls that are past it together both store
the floor, and both may draw the candidate after it (`wrapped_together`). If no other call
accesses the counter while a call wraps it, no VMID is handed out twice (`vmid_unique`).
-/

namespace Nstance.Proxmox

open Interaction

/-- Below the first VMID. -/
def vmidFloor : Nat := 10000

/-- The last VMID. -/
def vmidMax : Nat := 999999999

/-- How often an answer of `CheckID` may be no. -/
def vmidCheckAttempts : Nat := 100

/-- Where a call of `nextVMID` is, with the attempts that it has left. -/
inductive Phase where
  | loading
  | seeding
  | drawing (left : Nat)
  | storing (left : Nat)
  | redrawing (left : Nat)
  | checking (left vmid : Nat)
  | returned (vmid : Nat)
  | failed

/-- The shared counter and the calls. -/
structure State where
  vmidCounter : Nat := 0
  calls : Nat → Phase := fun _ => .loading
  /-- The number of candidates that were drawn. -/
  drawn : Nat := 0

/-- What the counter is seeded with: the highest VMID of the cluster or, if it can be read, of
the database. -/
def highest (resources : List Nat) (database : Option Nat) : Nat :=
  let known := max (resources.foldl max 0) (database.getD 0)
  if known < vmidFloor then vmidFloor - 1 else known

/-- The accesses of the counter, and the answer of `CheckID` if there is one. A call whose other
requests fail takes no further step. -/
inductive Label where
  | load (i : Nat)
  | compareAndSwap (i : Nat) (resources : List Nat) (database : Option Nat)
  | add (i : Nat)
  | store (i : Nat)
  | check (i : Nat) (free : Option Bool)

section Calls

variable (s : State) (i : Nat)

/-- A call moves on. -/
def State.goes (phase : Phase) : State := { s with calls := Function.update s.calls i phase }

/-- The counter after an addition is the candidate. -/
def State.draws (left : Nat) : State :=
  { s.goes i (.checking left (s.vmidCounter + 1)) with
    vmidCounter := s.vmidCounter + 1, drawn := s.drawn + 1 }

end Calls

/-- `nextVMID` and `seedVMIDCounter`. -/
def step (s : State) : Label → Option State
  | .load i =>
    match s.calls i with
    | .loading =>
      some (s.goes i (if s.vmidCounter ≠ 0 then .drawing vmidCheckAttempts else .seeding))
    | _ => none
  | .compareAndSwap i resources database =>
    match s.calls i with
    | .seeding => some { s.goes i (.drawing vmidCheckAttempts) with
        vmidCounter := if s.vmidCounter = 0 then highest resources database else s.vmidCounter }
    | _ => none
  | .add i =>
    match s.calls i with
    | .drawing 0 => some (s.goes i .failed)
    | .drawing (left + 1) =>
      if s.vmidCounter + 1 > vmidMax then
        some { s.goes i (.storing left) with vmidCounter := s.vmidCounter + 1 }
      else some (s.draws i left)
    | .redrawing left => some (s.draws i left)
    | _ => none
  | .store i =>
    match s.calls i with
    | .storing left => some { s.goes i (.redrawing left) with vmidCounter := vmidFloor }
    | _ => none
  | .check i free =>
    match s.calls i, free with
    | .checking _ vmid, some true => some (s.goes i (.returned vmid))
    | .checking left _, some false => some (s.goes i (.drawing left))
    | .checking _ _, none => some (s.goes i .failed)
    | _, _ => none

/-- Runs of any number of calls. -/
def provider : Machine State Label := ⟨{}, step⟩

/-- The call has drawn past the largest VMID and not yet drawn again. -/
def Phase.wraps : Phase → Bool
  | .storing _ | .redrawing _ => true
  | _ => false

/-- No other call accesses the counter while a call wraps it. -/
def Alone (s : State) : Label → Prop
  | .add i | .store i => ∀ j, (s.calls j).wraps = true → j = i
  | _ => True

/-! ## The order of the candidates -/

/-- The candidate that is drawn as the given one from a seed. -/
def candidate (seed count : Nat) : Nat :=
  if seed + count ≤ vmidMax then seed + count else vmidFloor + (count - (vmidMax - seed))

/-- The candidate that follows a value of the counter. -/
def following (value : Nat) : Nat := if value + 1 > vmidMax then vmidFloor + 1 else value + 1

/-- The VMID that a call has drawn. -/
def Phase.vmid? : Phase → Option Nat
  | .checking _ vmid | .returned vmid => some vmid
  | _ => none

/-- Candidates are drawn in order from a seed, and every call has its own. -/
structure Ordered (seed : Nat) (s : State) : Prop where
  seeded : vmidFloor ≤ seed + 1
  positive : s.vmidCounter ≠ 0
  one : ∀ i j, (s.calls i).wraps = true → (s.calls j).wraps = true → i = j
  storing : ∀ i left, s.calls i = .storing left → candidate seed (s.drawn + 1) = vmidFloor + 1
  redrawing : ∀ i left, s.calls i = .redrawing left → s.vmidCounter = vmidFloor
  next : (∀ i left, s.calls i ≠ .storing left) →
    following s.vmidCounter = candidate seed (s.drawn + 1)
  own : ∀ i vmid, (s.calls i).vmid? = some vmid →
    ∃ count, 0 < count ∧ count ≤ s.drawn ∧ vmid = candidate seed count
  distinct : ∀ i j vmid, (s.calls i).vmid? = some vmid → (s.calls j).vmid? = some vmid → i = j

/-- Before the counter is seeded, calls can only be about to seed it. -/
structure Unseeded (s : State) : Prop where
  zero : s.vmidCounter = 0
  early : ∀ i, s.calls i = .loading ∨ s.calls i = .seeding

section Steps

variable {seed count other i left : Nat} {s s' : State} {phase : Phase} {label : Label}

section Candidates

variable (some : 0 < count) (few : count ≤ vmidMax - vmidFloor)
include some few

theorem following_candidate (fewer : count < vmidMax - vmidFloor) :
    following (candidate seed count) = candidate seed (count + 1) := by
  simp only [following, candidate, vmidMax, vmidFloor] at *
  grind

theorem candidate_inj (some' : 0 < other) (few' : other ≤ vmidMax - vmidFloor)
    (same : candidate seed count = candidate seed other) : count = other := by
  simp only [candidate, vmidMax, vmidFloor] at *
  grind

theorem candidate_bounds (seeded : vmidFloor ≤ seed + 1) :
    vmidFloor ≤ candidate seed count ∧ candidate seed count ≤ vmidMax := by
  simp only [candidate, vmidMax, vmidFloor] at *
  grind

end Candidates

theorem calls_goes (s : State) (i : Nat) (phase : Phase) (j : Nat) :
    j = i ∧ (s.goes i phase).calls j = phase ∨ j ≠ i ∧ (s.goes i phase).calls j = s.calls j := by
  by_cases same : j = i
  · subst same
    exact .inl ⟨rfl, Function.update_self ..⟩
  · exact .inr ⟨same, Function.update_of_ne same ..⟩

/-- A call goes on without an access of the counter. -/
theorem Ordered.goes (ordered : Ordered seed s) (calm : (s.calls i).wraps = false)
    (calm' : phase.wraps = false) (same : ∀ vmid, phase.vmid? = some vmid →
      (s.calls i).vmid? = some vmid) : Ordered seed (s.goes i phase) := by
  have wrapping : ∀ j, ((s.goes i phase).calls j).wraps = true →
      (s.goes i phase).calls j = s.calls j := by
    intro j wraps
    rcases calls_goes s i phase j with ⟨rfl, here⟩ | ⟨-, there⟩
    · rw [here, calm'] at wraps
      cases wraps
    · exact there
  have shown : ∀ j vmid, ((s.goes i phase).calls j).vmid? = some vmid →
      (s.calls j).vmid? = some vmid := by
    intro j vmid shows
    rcases calls_goes s i phase j with ⟨rfl, here⟩ | ⟨-, there⟩
    · exact same vmid (here ▸ shows)
    · exact there ▸ shows
  refine ⟨ordered.seeded, ordered.positive, ?_, ?_, ?_, ?_, ?_, ?_⟩
  · intro a b first second
    exact ordered.one a b (wrapping a first ▸ first) (wrapping b second ▸ second)
  · intro j left here
    exact ordered.storing j left ((wrapping j (by rw [here]; rfl)).symm.trans here)
  · intro j left here
    exact ordered.redrawing j left ((wrapping j (by rw [here]; rfl)).symm.trans here)
  · intro none
    refine ordered.next fun j left storing => ?_
    rcases calls_goes s i phase j with ⟨rfl, -⟩ | ⟨-, there⟩
    · rw [storing] at calm
      cases calm
    · exact none j left (there.trans storing)
  · intro j vmid shows
    exact ordered.own j vmid (shown j vmid shows)
  · intro a b vmid first second
    exact ordered.distinct a b vmid (shown a vmid first) (shown b vmid second)

/-- A call accesses the counter, which no other call is wrapping. -/
theorem Ordered.accesses (ordered : Ordered seed s)
    (alone : ∀ j, (s.calls j).wraps = true → j = i) (counter drawn : Nat)
    (grown : s.drawn ≤ drawn) (positive : counter ≠ 0)
    (storing : ∀ left, phase = .storing left → candidate seed (drawn + 1) = vmidFloor + 1)
    (redrawing : ∀ left, phase = .redrawing left → counter = vmidFloor)
    (next : (∀ left, phase ≠ .storing left) → following counter = candidate seed (drawn + 1))
    (own : ∀ vmid, phase.vmid? = some vmid → (∀ j, (s.calls j).vmid? ≠ some vmid) ∧
      ∃ count, 0 < count ∧ count ≤ drawn ∧ vmid = candidate seed count) :
    Ordered seed { s.goes i phase with vmidCounter := counter, drawn } := by
  have wrapping : ∀ j, ((s.goes i phase).calls j).wraps = true →
      j = i ∧ (s.goes i phase).calls j = phase := by
    intro j wraps
    rcases calls_goes s i phase j with here | ⟨other, there⟩
    · exact here
    · exact absurd (alone j (there ▸ wraps)) other
  have shown : ∀ j vmid, ((s.goes i phase).calls j).vmid? = some vmid →
      j = i ∧ phase.vmid? = some vmid ∨ (s.calls j).vmid? = some vmid := by
    intro j vmid shows
    rcases calls_goes s i phase j with ⟨same, here⟩ | ⟨-, there⟩
    · exact .inl ⟨same, here ▸ shows⟩
    · exact .inr (there ▸ shows)
  refine ⟨ordered.seeded, positive, ?_, ?_, ?_, ?_, ?_, ?_⟩
  · intro a b first second
    rw [(wrapping a first).1, (wrapping b second).1]
  · intro j left here
    exact storing left ((wrapping j (by rw [here]; rfl)).2.symm.trans here)
  · intro j left here
    exact redrawing left ((wrapping j (by rw [here]; rfl)).2.symm.trans here)
  · intro none
    exact next fun left same => none i left ((Function.update_self ..).trans same)
  · intro j vmid shows
    rcases shown j vmid shows with ⟨-, drawn⟩ | old
    · exact (own vmid drawn).2
    · obtain ⟨count, some, within, is⟩ := ordered.own j vmid old
      exact ⟨count, some, Nat.le_trans within grown, is⟩
  · intro a b vmid first second
    rcases shown a vmid first with ⟨rfl, drawn⟩ | old
    · rcases shown b vmid second with ⟨rfl, -⟩ | old
      · rfl
      · exact absurd old ((own vmid drawn).1 b)
    rcases shown b vmid second with ⟨-, drawn⟩ | old'
    · exact absurd old ((own vmid drawn).1 a)
    · exact ordered.distinct a b vmid old old'

theorem Ordered.draws (ordered : Ordered seed s) (alone : Alone s (.add i))
    (ready : ∀ left, s.calls i ≠ .storing left) (low : s.vmidCounter + 1 ≤ vmidMax)
    (few : (s.draws i left).drawn < vmidMax - vmidFloor) : Ordered seed (s.draws i left) := by
  have calm : ∀ j left, s.calls j ≠ .storing left := by
    intro j left here
    cases alone j (by simp [here, Phase.wraps])
    exact ready left here
  have few : s.drawn + 1 < vmidMax - vmidFloor := few
  have drawn : s.vmidCounter + 1 = candidate seed (s.drawn + 1) := by
    rw [← ordered.next calm, following, if_neg (by omega)]
  refine ordered.accesses alone _ _ (Nat.le_succ _) (Nat.succ_ne_zero _) nofun nofun ?_ ?_
  · intro _
    rw [drawn]
    exact following_candidate s.drawn.succ_pos (Nat.le_of_lt few) few
  · rintro _ ⟨⟩
    refine ⟨fun j here => ?_, s.drawn + 1, s.drawn.succ_pos, Nat.le_refl _, drawn⟩
    obtain ⟨count, some, within, same⟩ := ordered.own j _ here
    have := candidate_inj some (by omega) s.drawn.succ_pos (Nat.le_of_lt few)
      (same.symm.trans drawn)
    omega

theorem drawn_le_of_step (stepped : step s label = some s') : s.drawn ≤ s'.drawn := by
  cases label <;> simp only [step] at stepped <;> split at stepped <;>
    grind [State.goes, State.draws]

theorem Ordered.step (ordered : Ordered seed s) (alone : Alone s label)
    (few : s'.drawn < vmidMax - vmidFloor) (stepped : step s label = some s') :
    Ordered seed s' := by
  simp only [Proxmox.step, ordered.positive, ne_eq, not_false_eq_true, if_true, if_false] at stepped
  cases label with
  | add i =>
    dsimp only at stepped
    split at stepped
    · cases stepped
      exact ordered.goes (by simp [*, Phase.wraps]) rfl nofun
    · split at stepped <;> cases stepped
      · rename_i left here high
        have calm : ∀ j left, s.calls j ≠ .storing left := by
          intro j left' storing
          cases alone j (by rw [storing]; rfl)
          cases here.symm.trans storing
        refine ordered.accesses alone _ s.drawn (Nat.le_refl _) (Nat.succ_ne_zero _) ?_ nofun ?_
          nofun
        · intro _ _
          rw [← ordered.next calm, following, if_pos high]
        · intro moved
          exact absurd rfl (moved left)
      · exact ordered.draws alone (by simp [*]) (by omega) few
    · cases stepped
      rename_i here
      refine ordered.draws alone (by simp [here]) ?_ few
      rw [ordered.redrawing i _ here]
      decide
    · cases stepped
  | store i =>
    dsimp only at stepped
    split at stepped <;> cases stepped
    rename_i left here
    refine ordered.accesses alone vmidFloor s.drawn (Nat.le_refl _) (by decide) nofun
      (fun _ _ => rfl) ?_ nofun
    intro _
    exact (ordered.storing i left here).symm
  | _ =>
    dsimp only at stepped
    split at stepped <;> cases stepped
    all_goals exact ordered.goes (by simp [*, Phase.wraps]) rfl (by simp [*, Phase.vmid?])

theorem Unseeded.seeds (unseeded : Unseeded s) (none : s.drawn = 0)
    (floor : vmidFloor ≤ seed + 1) :
    Ordered seed { s.goes i (.drawing left) with vmidCounter := seed } := by
  have early : ∀ j, ((s.goes i (.drawing left)).calls j).wraps = false ∧
      ((s.goes i (.drawing left)).calls j).vmid? = .none := by
    intro j
    rcases calls_goes s i (.drawing left) j with ⟨-, same⟩ | ⟨-, same⟩
    · rw [same]
      exact ⟨rfl, rfl⟩
    · rw [same]
      rcases unseeded.early j with here | here <;> rw [here] <;> exact ⟨rfl, rfl⟩
  refine ⟨floor, ?_, ?_, ?_, ?_, ?_, ?_, ?_⟩
  · rintro rfl
    exact absurd floor (by decide)
  · intro a b wraps
    cases (early a).1.symm.trans wraps
  · intro j left' here
    cases (early j).1.symm.trans (congrArg Phase.wraps here)
  · intro j left' here
    cases (early j).1.symm.trans (congrArg Phase.wraps here)
  · intro _
    show following seed = candidate seed (s.drawn + 1)
    rw [none, following, candidate]
    split <;> split <;> omega
  · intro j vmid shows
    cases (early j).2.symm.trans shows
  · intro a b vmid shows
    cases (early a).2.symm.trans shows

theorem Unseeded.step (unseeded : Unseeded s) (none : s.drawn = 0)
    (stepped : step s label = some s') : Unseeded s' ∧ s'.drawn = 0 ∨ ∃ seed, Ordered seed s' := by
  have ⟨zero, early⟩ := unseeded
  cases label with
  | compareAndSwap i resources database =>
    simp only [Proxmox.step, zero, if_true] at stepped
    split at stepped <;> cases stepped
    refine .inr ⟨highest resources database, unseeded.seeds none ?_⟩
    rw [highest]
    split <;> omega
  | load i =>
    simp only [Proxmox.step, zero] at stepped
    split at stepped <;> cases stepped
    have := calls_goes s i .seeding
    exact .inl ⟨⟨zero, by grind⟩, none⟩
  | add i | store i | check i answer =>
    rcases early i with here | here <;> simp [Proxmox.step, here] at stepped

end Steps

/-- **No VMID is handed out twice**, as long as fewer candidates were drawn than there are VMIDs,
if no other call accesses the counter while a call wraps it. -/
theorem vmid_unique {s : State} (reached : provider.Reaches Alone s)
    (few : s.drawn < vmidMax - vmidFloor) :
    (∀ i j vmid, s.calls i = .returned vmid → s.calls j = .returned vmid → i = j) ∧
      ∀ i vmid, s.calls i = .returned vmid → vmidFloor ≤ vmid ∧ vmid ≤ vmidMax := by
  have reaches := reached.invariant (P := fun s => s.drawn < vmidMax - vmidFloor →
    Unseeded s ∧ s.drawn = 0 ∨ ∃ seed, Ordered seed s)
    (fun _ => .inl ⟨⟨rfl, fun _ => .inl rfl⟩, rfl⟩) <| by
    intro s s' label _ before alone stepped few
    have few' := Nat.lt_of_le_of_lt (drawn_le_of_step stepped) few
    rcases before few' with ⟨unseeded, none⟩ | ⟨seed, ordered⟩
    · exact unseeded.step none stepped
    · exact .inr ⟨seed, ordered.step alone few stepped⟩
  rcases reaches few with ⟨unseeded, -⟩ | ⟨seed, ordered⟩
  · have := unseeded.early
    grind
  · have own : ∀ i vmid, s.calls i = .returned vmid → (s.calls i).vmid? = some vmid := by
      intro i vmid here
      rw [here, Phase.vmid?]
    refine ⟨fun i j vmid first second => ordered.distinct i j vmid (own i vmid first)
      (own j vmid second), fun i vmid here => ?_⟩
    obtain ⟨count, some, within, rfl⟩ := ordered.own i vmid (own i vmid here)
    exact candidate_bounds some (by omega) ordered.seeded

/-- One of two calls wraps the counter, and the other draws after it. -/
theorem wrapped_alone :
    ∃ s, provider.Reaches Alone s ∧ s.calls 0 = .returned (vmidFloor + 1) ∧
      s.calls 1 = .returned (vmidFloor + 2) ∧
      (∀ i j vmid, s.calls i = .returned vmid → s.calls j = .returned vmid → i = j) ∧
      ∀ i vmid, s.calls i = .returned vmid → vmidFloor ≤ vmid ∧ vmid ≤ vmidMax := by
  have loaded := (Machine.Reaches.start : provider.Reaches Alone _).extend (.load 0) trivial rfl
  have seeded := loaded.extend (.compareAndSwap 0 [vmidMax] none) trivial rfl
  have loaded := seeded.extend (.load 1) trivial rfl
  have past := loaded.extend (.add 0) (fun | 0, _ => rfl | 1, wraps | _ + 2, wraps => nomatch wraps)
    rfl
  have stored := past.extend (.store 0)
    (fun | 0, _ => rfl | 1, wraps | _ + 2, wraps => nomatch wraps) rfl
  have drawn := stored.extend (.add 0)
    (fun | 0, _ => rfl | 1, wraps | _ + 2, wraps => nomatch wraps) rfl
  have first := drawn.extend (.check 0 (some true)) trivial rfl
  have drawn := first.extend (.add 1)
    (fun | 1, _ => rfl | 0, wraps | _ + 2, wraps => nomatch wraps) rfl
  have both := drawn.extend (.check 1 (some true)) trivial rfl
  exact ⟨_, both, rfl, rfl, vmid_unique both (by decide)⟩

/-- Two calls draw past the largest VMID before either stores the floor. -/
def wrappedTogether : List Label :=
  [.load 0, .compareAndSwap 0 [vmidMax] none, .load 1, .add 0, .add 1, .store 0, .add 0,
    .check 0 (some true), .store 1, .add 1, .check 1 (some true)]

/-- Both calls return the VMID above the floor. -/
theorem wrapped_together :
    ∃ s, provider.Reachable s ∧ s.drawn = 2 ∧ s.calls 0 = .returned (vmidFloor + 1) ∧
      s.calls 1 = .returned (vmidFloor + 1) :=
  ⟨_, Machine.reachable_of_run wrappedTogether .start rfl, rfl, rfl, rfl⟩

end Nstance.Proxmox
