import Mathlib.Order.Defs.Unbundled

/-!
# Programs over an interface, and their weakest preconditions

A program is a finite tree of actions of an interface, with one subtree per reply. It ends
with a value or with an error, and an error may be recovered from.

A contract says, for every action, what has to hold before it so that a given condition
holds of every reply together with the world it leaves. The weakest precondition of a
program follows the tree (`Program.wp`), exactly so through sequencing and recovery
(`Program.wp_bind`, `Program.wp_recover`).
-/

namespace Nstance.Interaction

/-- The actions a program may perform and the type of the reply to each. -/
structure Interface where
  Action : Type
  Reply : Action → Type

/-- A finite tree of actions that ends with a value or an error. -/
inductive Program (I : Interface) (ε α : Type) : Type where
  | pure (value : α)
  | fail (error : ε)
  | perform (action : I.Action) (next : I.Reply action → Program I ε α)

namespace Program

variable {I : Interface} {ε α β : Type}

/-- Run the second program on the value of the first; an error skips it. -/
protected def bind : Program I ε α → (α → Program I ε β) → Program I ε β
  | .pure value, rest => rest value
  | .fail error, _ => .fail error
  | .perform action next, rest => .perform action fun reply => (next reply).bind rest

/-- Run the handler on the error of a program; a value skips it. -/
def recover : Program I ε α → (ε → Program I ε α) → Program I ε α
  | .pure value, _ => .pure value
  | .fail error, handler => handler error
  | .perform action next, handler => .perform action fun reply => (next reply).recover handler

instance : Monad (Program I ε) where
  pure := Program.pure
  bind := Program.bind

protected theorem bind_assoc {γ : Type} (program : Program I ε α) (rest : α → Program I ε β)
    (last : β → Program I ε γ) :
    program >>= rest >>= last = program >>= fun value => rest value >>= last := by
  induction program with
  | pure | fail => rfl
  | perform action next ih => exact congrArg (Program.perform action) (funext ih)

/-- An action and nothing else. -/
def act (action : I.Action) : Program I ε (I.Reply action) :=
  .perform action .pure

/-- Turn a reply that carries an error into an error of the program. -/
def ofExcept : Except ε α → Program I ε α
  | .ok value => .pure value
  | .error error => .fail error

/-- A program as a part of programs over a larger interface. -/
def embed {J : Interface} (f : I.Action → J.Action)
    (back : (action : I.Action) → J.Reply (f action) → I.Reply action) :
    Program I ε α → Program J ε α
  | .pure value => .pure value
  | .fail error => .fail error
  | .perform action next => .perform (f action) fun reply => (next (back action reply)).embed f back

/-- A program in which every action is carried out by a program over another interface. -/
def interpret {J : Interface} {δ : Type}
    (carryOut : (action : I.Action) → Program J δ (I.Reply action)) (report : ε → δ) :
    Program I ε α → Program J δ α
  | .pure value => .pure value
  | .fail error => .fail (report error)
  | .perform action next =>
    (carryOut action).bind fun reply => (next reply).interpret carryOut report

/-- A program with its error as a value. -/
def tried (program : Program I ε α) : Program I ε (Except ε α) :=
  (program.bind fun value => .pure (.ok value)).recover fun error => .pure (.error error)

/-- The action a program performs next, if it has not ended. -/
def next? : Program I ε α → Option I.Action
  | .perform action _ => some action
  | _ => none

end Program

/-! ## Contracts and weakest preconditions -/

/-- What an action demands of the world so that a condition on its reply and on
the world after it is sure to hold. -/
structure Contract (I : Interface) (V : Type) where
  demand : (action : I.Action) → (I.Reply action → V → Prop) → V → Prop
  mono : ∀ (action : I.Action) {P Q : I.Reply action → V → Prop},
    (∀ reply world, P reply world → Q reply world) →
      ∀ world, demand action P world → demand action Q world

namespace Program

variable {I : Interface} {ε α β V : Type} (C : Contract I V)

/-- The weakest precondition of a program: the demands of its actions, along
every branch, down to a condition on how it ends. -/
def wp (post : Except ε α → V → Prop) : Program I ε α → V → Prop
  | .pure value => post (.ok value)
  | .fail error => post (.error error)
  | .perform action next => C.demand action fun reply => wp post (next reply)

variable {C}

variable {post : Except ε α → V → Prop}

@[simp] theorem wp_pure (value : α) (world : V) :
    wp C post (pure value : Program I ε α) world ↔ post (.ok value) world := Iff.rfl

theorem wp_mono {P Q : Except ε α → V → Prop}
    (weaker : ∀ result world, P result world → Q result world)
    (program : Program I ε α) (world : V) (holds : wp C P program world) :
    wp C Q program world := by
  induction program generalizing world with
  | pure | fail => exact weaker _ _ holds
  | perform action next ih =>
    exact C.mono action (fun reply after inner => ih reply after inner) world holds

/-- What has to hold between a program and the one that follows it. -/
def Then (C : Contract I V) (post : Except ε β → V → Prop) (rest : α → Program I ε β) :
    Except ε α → V → Prop
  | .ok value => wp C post (rest value)
  | .error error => post (.error error)

/-- What has to hold between a program and the handler of its errors. -/
def Else (C : Contract I V) (post : Except ε α → V → Prop) (handler : ε → Program I ε α) :
    Except ε α → V → Prop
  | .ok value => post (.ok value)
  | .error error => wp C post (handler error)

variable (program : Program I ε α)

theorem wp_bind {post : Except ε β → V → Prop} (rest : α → Program I ε β) (world : V) :
    wp C post (program >>= rest) world ↔ wp C (Then C post rest) program world := by
  have same : wp C post (program >>= rest) = wp C (Then C post rest) program := by
    induction program with
    | pure | fail => rfl
    | perform action next ih =>
      exact congrArg (C.demand action) (funext ih)
  exact iff_of_eq (congrFun same world)

variable {rest : α → Program I ε β} {world : V}

theorem wp_then {post : Except ε β → V → Prop} {program : Program I ε α}
    (holds : wp C (Then C post rest) program world) : wp C post (program >>= rest) world :=
  (wp_bind ..).mpr holds

variable {action : I.Action}

theorem wp_act_bind {post : Except ε β → V → Prop} {rest : I.Reply action → Program I ε β}
    (holds : C.demand action (fun reply after => wp C post (rest reply) after) world) :
    wp C post (act action >>= rest) world :=
  holds

/-- The rule for a sequence: what the first program leaves is enough for the rest. -/
theorem wp_seq {middle : Except ε α → V → Prop} {post : Except ε β → V → Prop}
    {program : Program I ε α}
    (first : wp C middle program world)
    (failed : ∀ error after, middle (.error error) after → post (.error error) after)
    (next : ∀ value after, middle (.ok value) after → wp C post (rest value) after) :
    wp C post (program >>= rest) world := by
  refine (wp_bind ..).mpr (wp_mono ?_ _ _ first)
  intro result after holds
  cases result with
  | error error => exact failed error after holds
  | ok value => exact next value after holds

theorem wp_recover (handler : ε → Program I ε α) (world : V) :
    wp C post (program.recover handler) world ↔ wp C (Else C post handler) program world := by
  have same : wp C post (program.recover handler) = wp C (Else C post handler) program := by
    induction program with
    | pure | fail => rfl
    | perform action next ih =>
      exact congrArg (C.demand action) (funext ih)
  exact iff_of_eq (congrFun same world)

variable {handler : ε → Program I ε α}

theorem wp_else {program : Program I ε α} (holds : wp C (Else C post handler) program world) :
    wp C post (program.recover handler) world :=
  (wp_recover ..).mpr holds

theorem wp_tried {post : Except ε (Except ε α) → V → Prop} (world : V) :
    wp C post program.tried world ↔ wp C (fun result => post (.ok result)) program world := by
  refine (wp_recover _ _ world).trans ((wp_bind program _ world).trans ?_)
  constructor
  · refine wp_mono ?_ program world
    intro result after holds
    cases result with
    | ok | error => exact holds
  · refine wp_mono ?_ program world
    intro result after holds
    cases result with
    | ok | error => exact holds

@[simp] theorem then_ok {post : Except ε β → V → Prop} (rest : α → Program I ε β) (value : α) :
    Then C post rest (.ok value) = wp C post (rest value) := rfl

@[simp] theorem else_error (handler : ε → Program I ε α) (error : ε) :
    Else C post handler (.error error) = wp C post (handler error) := rfl

theorem wp_ite {c : Prop} [Decidable c] {yes no : Program I ε α}
    (whenYes : c → wp C post yes world) (whenNo : ¬ c → wp C post no world) :
    wp C post (if c then yes else no) world := by
  split
  · exact whenYes ‹_›
  · exact whenNo ‹_›

variable (result : Except ε α)

theorem wp_ofExcept (world : V) : wp C post (ofExcept result) world ↔ post result world := by
  cases result <;> exact Iff.rfl

/-! ## Programs that only use some actions -/

/-- Every action of the tree, on every branch, is one of the given ones. -/
def Uses (P : I.Action → Prop) : Program I ε α → Prop
  | .pure _ => True
  | .fail _ => True
  | .perform action next => P action ∧ ∀ reply, (next reply).Uses P

section

variable {P : I.Action → Prop}

@[simp] theorem uses_pure (value : α) : Uses P (pure value : Program I ε α) := trivial

@[simp] theorem uses_fail (error : ε) : Uses P (.fail error : Program I ε α) := trivial

theorem uses_act (used : P action) :
    Uses P (act action : Program I ε (I.Reply action)) := ⟨used, fun _ => trivial⟩

theorem uses_ofExcept : Uses P (ofExcept result : Program I ε α) := by
  cases result <;> trivial

variable {program : Program I ε α}

theorem Uses.bind (first : Uses P program)
    (second : ∀ value, Uses P (rest value)) : Uses P (program >>= rest) := by
  induction program with
  | pure value => exact second value
  | fail error => trivial
  | perform action next ih => exact ⟨first.1, fun reply => ih reply (first.2 reply)⟩

theorem Uses.recover (first : Uses P program)
    (second : ∀ error, Uses P (handler error)) : Uses P (program.recover handler) := by
  induction program with
  | pure value => trivial
  | fail error => exact second error
  | perform action next ih => exact ⟨first.1, fun reply => ih reply (first.2 reply)⟩

theorem uses_embed {J : Interface} {P : J.Action → Prop} {f : I.Action → J.Action}
    {back : (action : I.Action) → J.Reply (f action) → I.Reply action}
    (uses : ∀ action, P (f action)) (program : Program I ε α) : Uses P (program.embed f back) := by
  induction program with
  | pure | fail => trivial
  | perform action next ih => exact ⟨uses action, fun reply => ih _⟩

theorem Uses.wp_of_keeps {C : Contract I V} {J : V → Prop} (uses : Uses P program)
    (keeps : ∀ action, P action → ∀ world, J world → C.demand action (fun _ after => J after) world)
    (world : V) (holds : J world) : wp C (fun _ after => J after) program world := by
  induction program generalizing world with
  | pure | fail => exact holds
  | perform action next ih =>
    exact C.mono action (fun reply after kept => ih reply (uses.2 reply) after kept) world
      (keeps action uses.1 world holds)

/-- A program whose actions may be performed anywhere and change nothing ends
where it began, with any result. -/
theorem Uses.wp_of_idle {C : Contract I V} {post : Except ε α → V → Prop}
    (uses : Uses P program) (idle : ∀ action, P action → ∀ Q : I.Reply action → V → Prop,
      (∀ reply, Q reply world) → C.demand action Q world) (anyhow : ∀ result, post result world) :
    wp C post program world := by
  induction program with
  | pure | fail => exact anyhow _
  | perform action next ih =>
    apply idle action uses.1
    intro reply
    exact ih reply (uses.2 reply)

end

/-! ## Programs that keep to a relation -/

/-- The world that the program leaves is related to the one that it found. -/
def Relates (C : Contract I V) (R : V → V → Prop) (program : Program I ε α) : Prop :=
  ∀ world, wp C (fun _ after => R world after) program world

section

variable {C : Contract I V} {R : V → V → Prop} [IsPreorder V R] {program : Program I ε α}

theorem relates_pure (value : α) : Relates C R (pure value : Program I ε α) :=
  fun world => refl_of R world

theorem relates_fail (error : ε) : Relates C R (.fail error : Program I ε α) :=
  fun world => refl_of R world

omit [IsPreorder V R] in
theorem Relates.after [IsTrans V R] {world after : V} (first : R world after)
    (relates : Relates C R program) : wp C (fun _ last => R world last) program after :=
  wp_mono (fun _ _ more => trans_of R first more) program after (relates after)

theorem relates_perform {next : I.Reply action → Program I ε α}
    (fine : ∀ world, C.demand action (fun _ after => R world after) world)
    (relates : ∀ reply, Relates C R (next reply)) : Relates C R (.perform action next) :=
  fun world => C.mono action (fun reply _ first => (relates reply).after first) world (fine world)

theorem relates_ofExcept : Relates C R (ofExcept result : Program I ε α) := by
  cases result with
  | ok value => exact relates_pure value
  | error error => exact relates_fail error

theorem Relates.bind (first : Relates C R program)
    (second : ∀ value, Relates C R (rest value)) : Relates C R (program >>= rest) := by
  intro world
  refine (wp_bind program rest world).mpr (wp_mono ?_ program world (first world))
  intro result after kept
  cases result with
  | error error => exact kept
  | ok value => exact (second value).after kept

theorem Relates.recover (first : Relates C R program)
    (second : ∀ error, Relates C R (handler error)) : Relates C R (program.recover handler) := by
  intro world
  refine (wp_recover program handler world).mpr (wp_mono ?_ program world (first world))
  intro result after kept
  cases result with
  | ok value => exact kept
  | error error => exact (second error).after kept

theorem Relates.tried (relates : Relates C R program) : Relates C R program.tried :=
  Relates.recover (relates.bind fun _ => relates_pure _) fun _ => relates_pure _

omit [IsPreorder V R] in
theorem relates_ite {c : Prop} [Decidable c] {yes no : Program I ε α} (first : Relates C R yes)
    (second : Relates C R no) : Relates C R (if c then yes else no) := by
  split
  · exact first
  · exact second

/-- An interpreted program keeps to what its actions keep to when they are carried out. -/
theorem relates_interpret {J : Interface} {δ : Type} {P : J.Action → Prop}
    {carryOut : (action : J.Action) → Program I ε (J.Reply action)} {report : δ → ε}
    (relates : ∀ action, P action → Relates C R (carryOut action)) {program : Program J δ α}
    (uses : Uses P program) : Relates C R (program.interpret carryOut report) := by
  induction program with
  | pure value => exact relates_pure value
  | fail error => exact relates_fail _
  | perform action next ih =>
    exact (relates action uses.1).bind fun reply => ih reply (uses.2 reply)

end

end Program

end Nstance.Interaction
