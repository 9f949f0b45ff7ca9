import Mathlib.Order.Basic
import Nstance.Interaction.Program

/-!
# Programs that act on what they have learned

A lore says which notes an action needs and what its reply teaches. The notes only grow; it
is a contract (`Lore.contract`) in which they may also grow on their own.

A program is careful if it needs no notes that it has not got (`Lore.Careful`). Care is
checked along the program (`Careful.bind`, `Careful.recover`), and kept when the actions
are carried out by careful programs that teach as much (`Careful.interpret`).
-/

namespace Nstance.Interaction

open Program hiding pure bind

variable {I J : Interface} {ε δ α β N : Type} [Preorder N]

/-- The notes that an action needs, and what is true of the notes after a reply. -/
structure Lore (I : Interface) (N : Type) [Preorder N] where
  Allowed : I.Action → N → Prop
  Learned : (action : I.Action) → I.Reply action → N → Prop

namespace Lore

variable (L : Lore I N)

/-- An action may be performed with the notes it needs. The notes after its reply are any
that contain those before and what the reply teaches. -/
def contract : Contract I N where
  demand action Q notes := L.Allowed action notes ∧
    ∀ reply notes', notes ≤ notes' → L.Learned action reply notes' → Q reply notes'
  mono _ _ _ weaker _ holds :=
    ⟨holds.1, fun reply notes' grown learned => weaker _ _ (holds.2 reply notes' grown learned)⟩

/-- A condition on the value of a program, if it has one. -/
def Gives (post : α → N → Prop) : Except ε α → N → Prop
  | .ok value, notes => post value notes
  | .error _, _ => True

/-- The program never needs notes that it has not got, and its value meets a condition. -/
def Careful (post : α → N → Prop) (program : Program I ε α) (notes : N) : Prop :=
  program.wp L.contract (Gives post) notes

/-- The program never needs notes that it has not got. -/
abbrev Safe (program : Program I ε α) (notes : N) : Prop :=
  L.Careful (fun _ _ => True) program notes

variable {L : Lore I N} {post : α → N → Prop} {notes : N} {value : α} {action : I.Action}
  {rest : α → Program I ε β}

theorem careful_pure (holds : post value notes) :
    L.Careful post (pure value : Program I ε α) notes := holds

@[simp] theorem safe_pure : L.Safe (pure value : Program I ε α) notes := trivial

@[simp] theorem careful_fail {error : ε} :
    L.Careful post (.fail error : Program I ε α) notes := trivial

theorem careful_perform {next : I.Reply action → Program I ε α} (allowed : L.Allowed action notes)
    (then_ : ∀ reply notes', notes ≤ notes' → L.Learned action reply notes' →
      L.Careful post (next reply) notes') :
    L.Careful post (.perform action next) notes := ⟨allowed, then_⟩

theorem careful_act {post : I.Reply action → N → Prop} (allowed : L.Allowed action notes)
    (then_ : ∀ reply notes', notes ≤ notes' → L.Learned action reply notes' → post reply notes') :
    L.Careful post (act action : Program I ε (I.Reply action)) notes := ⟨allowed, then_⟩

theorem careful_ofExcept {result : Except ε α}
    (holds : ∀ value, result = .ok value → post value notes) :
    L.Careful post (ofExcept result : Program I ε α) notes := by
  cases result with
  | ok value => exact holds value rfl
  | error error => trivial

variable {program : Program I ε α}

theorem Careful.imp {weaker : α → N → Prop} (careful : L.Careful post program notes)
    (implies : ∀ value notes', post value notes' → weaker value notes') :
    L.Careful weaker program notes := by
  refine wp_mono ?_ program notes careful
  intro result notes' holds
  cases result with
  | ok value => exact implies value notes' holds
  | error error => trivial

theorem Careful.bind {P : α → N → Prop} {Q : β → N → Prop} (first : L.Careful P program notes)
    (second : ∀ value notes', notes ≤ notes' → P value notes' → L.Careful Q (rest value) notes') :
    L.Careful Q (program >>= rest) notes := by
  induction program generalizing notes with
  | pure value => exact second value notes le_rfl first
  | fail error => trivial
  | perform action next ih =>
    refine ⟨first.1, fun reply notes' grown learned => ?_⟩
    exact ih reply (first.2 reply notes' grown learned)
      fun value notes'' further => second value notes'' (grown.trans further)

theorem Careful.recover {handler : ε → Program I ε α} (first : L.Careful post program notes)
    (second : ∀ error notes', notes ≤ notes' → L.Careful post (handler error) notes') :
    L.Careful post (program.recover handler) notes := by
  induction program generalizing notes with
  | pure value => exact first
  | fail error => exact second error notes le_rfl
  | perform action next ih =>
    refine ⟨first.1, fun reply notes' grown learned => ?_⟩
    exact ih reply (first.2 reply notes' grown learned)
      fun error notes'' further => second error notes'' (grown.trans further)

theorem Careful.tried (careful : L.Careful post program notes) :
    L.Careful (fun result => Gives post result) program.tried notes := by
  refine Careful.recover (careful.bind (Q := Gives post) ?_) ?_
  · intro value notes' _ holds
    exact holds
  · intro error notes' _
    exact trivial

/-- Two programs of which the second does not use the value of the first. -/
theorem Careful.seq {post' : β → N → Prop} (first : L.Safe program notes)
    (second : ∀ value notes', notes ≤ notes' → L.Careful post' (rest value) notes') :
    L.Careful post' (program >>= rest) notes :=
  first.bind fun value notes' grown _ => second value notes' grown

theorem safe_of_free (free : ∀ action notes, L.Allowed action notes) (program : Program I ε α) :
    ∀ notes, L.Safe program notes := by
  induction program with
  | pure | fail => exact fun _ => trivial
  | perform action next ih =>
    exact fun notes => ⟨free action notes, fun reply notes' _ _ => ih reply notes'⟩

/-- **Care is kept by careful interpretations.** -/
theorem Careful.interpret {M : Lore J N}
    {carryOut : (action : I.Action) → Program J δ (I.Reply action)} {report : ε → δ}
    (careful : L.Careful post program notes) (teaches : ∀ action notes, L.Allowed action notes →
      M.Careful (L.Learned action) (carryOut action) notes) :
    M.Careful post (program.interpret carryOut report) notes := by
  induction program generalizing notes with
  | pure value => exact careful
  | fail error => trivial
  | perform action next ih =>
    refine Careful.bind (teaches action notes careful.1) ?_
    intro reply notes' grown learned
    exact ih reply (careful.2 reply notes' grown learned)

end Lore

end Nstance.Interaction
