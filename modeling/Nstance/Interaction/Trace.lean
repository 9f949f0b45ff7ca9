import Mathlib.Logic.Basic
import Mathlib.Data.List.Basic

/-!
# Machines, their runs and their histories

A machine takes labelled steps, each a partial function of the state; the label fixes every
choice of the step. The states of the runs whose steps all meet a condition form an
inductive predicate (`Machine.Reaches`), with its invariants (`Machine.Reaches.invariant`).
A watched machine carries a note beside its state (`Machine.watched`), and two machines may
run side by side (`Machine.beside`).

A history lists what happened, the latest event first. A law says of an event what must
have come before it, and holds of a history when it holds of each event (`Always`).
-/

namespace Nstance.Interaction

/-! ## Machines -/

/-- A start state and a partial step for every label. -/
structure Machine (σ Label : Type) where
  start : σ
  step : σ → Label → Option σ

namespace Machine

variable {σ Label : Type} (M : Machine σ Label)

/-- The states of the runs whose steps are all allowed. -/
inductive Reaches (allowed : σ → Label → Prop) : σ → Prop where
  | start : Reaches allowed M.start
  | step {s s' : σ} {label : Label} : Reaches allowed s → allowed s label →
      M.step s label = some s' → Reaches allowed s'

/-- Reached by any steps. -/
abbrev Reachable (s : σ) : Prop := M.Reaches (fun _ _ => True) s

/-- Take steps one after another, if each is possible. -/
def run : σ → List Label → Option σ
  | s, [] => some s
  | s, label :: labels => (M.step s label).bind fun s' => run s' labels

variable {M}

variable {allowed : σ → Label → Prop} {s : σ}

/-- **The invariant rule.** What holds at the start and is kept by every
allowed step holds of every state of every run. -/
theorem Reaches.invariant {P : σ → Prop} (start : P M.start)
    (kept : ∀ {s s' : σ} {label : Label}, M.Reaches allowed s → P s → allowed s label →
      M.step s label = some s' → P s') (reached : M.Reaches allowed s) : P s := by
  induction reached with
  | start => exact start
  | step before ok stepped ih => exact kept before ih ok stepped

theorem Reaches.mono {more : σ → Label → Prop} (weaker : ∀ s label, allowed s label → more s label)
    (reached : M.Reaches allowed s) : M.Reaches more s := by
  induction reached with
  | start => exact .start
  | step _ ok stepped ih => exact .step ih (weaker _ _ ok) stepped

theorem Reaches.extend {s' : σ} (reached : M.Reaches allowed s) (label : Label)
    (ok : allowed s label) (stepped : M.step s label = some s') : M.Reaches allowed s' :=
  .step reached ok stepped

/-- Follow a list of labels as long as every step is allowed. -/
def runWithin (M : Machine σ Label) (allowed : σ → Label → Bool) : σ → List Label → Option σ
  | s, [] => some s
  | s, label :: labels =>
    if allowed s label then (M.step s label).bind fun s' => runWithin M allowed s' labels
    else none

variable (labels : List Label) {allowed : σ → Label → Bool}

theorem reaches_of_runWithin : ∀ {s s' : σ}, M.Reaches (fun s label => allowed s label = true) s →
      M.runWithin allowed s labels = some s' →
        M.Reaches (fun s label => allowed s label = true) s' := by
  induction labels with
  | nil =>
    intro s s' reached ran
    cases ran
    exact reached
  | cons label labels ih =>
    intro s s' reached ran
    by_cases ok : allowed s label = true
    · rw [runWithin, if_pos ok] at ran
      obtain ⟨middle, stepped, rest⟩ := Option.bind_eq_some_iff.mp ran
      exact ih (.step reached ok stepped) rest
    · rw [runWithin, if_neg ok] at ran
      cases ran

theorem reachable_of_run :
    ∀ {s s' : σ}, M.Reachable s → M.run s labels = some s' → M.Reachable s' := by
  induction labels with
  | nil =>
    intro s s' reached ran
    cases ran
    exact reached
  | cons label labels ih =>
    intro s s' reached ran
    obtain ⟨middle, stepped, rest⟩ := Option.bind_eq_some_iff.mp ran
    exact ih (.step reached trivial stepped) rest

variable {check : σ → Bool}

theorem exists_reachable_of_run
    (ran : (M.run M.start labels).any check = true) : ∃ s, M.Reachable s ∧ check s = true := by
  obtain ⟨s, ran, checked⟩ := (Option.any_eq_true _ _).mp ran
  exact ⟨s, reachable_of_run labels .start ran, checked⟩

theorem exists_reaches_of_runWithin (ran : (M.runWithin allowed M.start labels).any check = true) :
    ∃ s, M.Reaches (fun s label => allowed s label = true) s ∧ check s = true := by
  obtain ⟨s, ran, checked⟩ := (Option.any_eq_true _ _).mp ran
  exact ⟨s, reaches_of_runWithin labels .start ran, checked⟩

/-! ## Notes beside the state -/

section

variable {μ : Type}

/-- A machine with a note that every step brings up to date. The note has no say
in the steps. -/
def watched (M : Machine σ Label) (note : μ) (watch : σ → Label → σ → μ → μ) :
    Machine (σ × μ) Label where
  start := (M.start, note)
  step noted label := (M.step noted.1 label).map fun s' => (s', watch noted.1 label s' noted.2)

variable {note : μ} {watch : σ → Label → σ → μ → μ}

theorem step_of_watched {noted noted' : σ × μ} {label : Label}
    (stepped : (M.watched note watch).step noted label = some noted') :
    ∃ s', M.step noted.1 label = some s' ∧ noted' = (s', watch noted.1 label s' noted.2) := by
  obtain ⟨s', stepped, same⟩ := Option.map_eq_some_iff.mp stepped
  exact ⟨s', stepped, same.symm⟩

end

/-! ## Machines side by side -/

section

variable {τ Label' : Type}

/-- Two machines that take their steps in any order. -/
def beside (M : Machine σ Label) (N : Machine τ Label') : Machine (σ × τ) (Label ⊕ Label') where
  start := (M.start, N.start)
  step both
    | .inl label => (M.step both.1 label).map fun after => (after, both.2)
    | .inr label => (N.step both.2 label).map fun after => (both.1, after)

theorem Reaches.beside {N : Machine τ Label'} {allowed : σ → Label → Prop}
    {allowed' : τ → Label' → Prop} {both : σ × τ}
    (reached : (M.beside N).Reaches
      (fun both => Sum.elim (allowed both.1) (allowed' both.2)) both) :
    M.Reaches allowed both.1 ∧ N.Reaches allowed' both.2 := by
  induction reached with
  | start => exact ⟨.start, .start⟩
  | @step both both' label _ ok stepped ih =>
    cases label with
    | inl label =>
      obtain ⟨after, moved, rfl⟩ := Option.map_eq_some_iff.mp stepped
      exact ⟨.step ih.1 ok moved, ih.2⟩
    | inr label =>
      obtain ⟨after, moved, rfl⟩ := Option.map_eq_some_iff.mp stepped
      exact ⟨ih.1, .step ih.2 ok moved⟩

end

end Machine

/-! ## Histories -/

section

variable {Event : Type}

/-- Every event of a history, newest first, meets the law given what came
before it. -/
def Always (law : List Event → Event → Prop) : List Event → Prop
  | [] => True
  | event :: before => law before event ∧ Always law before

variable {law other : List Event → Event → Prop}

theorem Always.imp (implied : ∀ before event, law before event → other before event) :
    ∀ {history : List Event}, Always law history → Always other history
  | [], _ => trivial
  | _ :: _, ⟨here, earlier⟩ => ⟨implied _ _ here, earlier.imp implied⟩

end

end Nstance.Interaction
