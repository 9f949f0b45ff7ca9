import Nstance.Interaction.Program

/-!
# Programs that run side by side

A team is a shared store and the programs that run on it, one action of one program at a
time. If the store keeps to a contract, then so do the programs
(`Team.Conforms.advance`, `Team.Conforms.next_demand`).
-/

namespace Nstance.Interaction

variable {I : Interface} {ε σ Outcome N : Type}

/-- Programs under way over a shared store. -/
structure Team (I : Interface) (ε σ : Type) where
  store : σ
  tasks : List (Program I ε Unit)

namespace Team

/-- One program more. -/
def launch (team : Team I ε σ) (program : Program I ε Unit) : Team I ε σ :=
  { team with tasks := team.tasks ++ [program] }

/-- One program performs its next action. -/
def advance (perform : σ → (action : I.Action) → Outcome → σ × I.Reply action)
    (team : Team I ε σ) (j : Nat) (outcome : Outcome) : Option (Team I ε σ) :=
  match team.tasks[j]? with
  | some (.perform action next) =>
    let result := perform team.store action outcome
    some ⟨result.1, team.tasks.set j (next result.2)⟩
  | _ => none

/-- Every program is in a position from which it meets the contract, with notes that are
true of the store. -/
def Conforms (C : Contract I N) (Truth : N → σ → Prop) (team : Team I ε σ) : Prop :=
  ∀ task ∈ team.tasks, ∃ notes, Truth notes team.store ∧ task.wp C (fun _ _ => True) notes

section

variable {C : Contract I N} {Truth : N → σ → Prop} {team team' : Team I ε σ}
  {perform : σ → (action : I.Action) → Outcome → σ × I.Reply action} {j : Nat} {outcome : Outcome}

theorem Conforms.launch {program : Program I ε Unit} {notes : N} (conforms : Conforms C Truth team)
    (holds : Truth notes team.store) (spec : program.wp C (fun _ _ => True) notes) :
    Conforms C Truth (team.launch program) := by
  intro task mem
  rcases List.mem_append.mp mem with mem | mem
  · exact conforms task mem
  · rw [List.mem_singleton.mp mem]
    exact ⟨notes, holds, spec⟩

theorem advance_eq_some (advanced : team.advance perform j outcome = some team') :
    ∃ action next, .perform action next ∈ team.tasks ∧
      team.tasks[j]? = some (.perform action next) ∧
      team'.store = (perform team.store action outcome).1 ∧
      team'.tasks = team.tasks.set j (next (perform team.store action outcome).2) := by
  unfold advance at advanced
  split at advanced <;> cases advanced
  rename_i action next there
  exact ⟨action, next, List.mem_of_getElem? there, there, rfl, rfl⟩

/-- What a program is about to do meets the demand of the contract. -/
theorem Conforms.next_demand (conforms : Conforms C Truth team) {action : I.Action}
    {next : I.Reply action → Program I ε Unit} (mem : .perform action next ∈ team.tasks) :
    ∃ notes, Truth notes team.store ∧
      C.demand action (fun reply => (next reply).wp C fun _ _ => True) notes :=
  conforms _ mem

/-- If what is true stays true, and the action that is performed keeps the promise of the
contract, then the programs go on meeting it. -/
theorem Conforms.advance (conforms : Conforms C Truth team)
    (stable : ∀ notes, Truth notes team.store → Truth notes team'.store)
    (keeps : ∀ (action : I.Action) (Q : I.Reply action → N → Prop) (notes : N),
      (∃ next, team.tasks[j]? = some (.perform action next)) →
        team'.store = (perform team.store action outcome).1 →
        Truth notes team.store → C.demand action Q notes →
          ∃ notes', Truth notes' team'.store ∧ Q (perform team.store action outcome).2 notes')
    (advanced : team.advance perform j outcome = some team') : Conforms C Truth team' := by
  obtain ⟨action, next, mem, there, store, tasks⟩ := advance_eq_some advanced
  intro task of
  rw [tasks] at of
  rcases List.mem_or_eq_of_mem_set of with old | rfl
  · obtain ⟨notes, holds, spec⟩ := conforms task old
    exact ⟨notes, stable notes holds, spec⟩
  · obtain ⟨notes, holds, demand⟩ := conforms.next_demand mem
    exact keeps action _ notes ⟨next, there⟩ store holds demand

end

end Team

end Nstance.Interaction
