import Nstance.Interaction.Program

/-!
# Executions of a program in an environment

An environment says which replies an action may get in a world and which world each leaves.
A program may end with a result in it (`Program.Ends`), and on the way issue an action
(`Program.Issues`). Both follow sequences (`Program.ends_bind`,
`Program.Issues.bind_next`) and embeddings (`Program.ends_embed`). Under a contract that
the environment keeps, an action is issued only if it is allowed
(`Program.Issues.demand`).
-/

namespace Nstance.Interaction

/-- The replies that an action may get in a world, each with the world after it. -/
abbrev Environment (I : Interface) (V : Type) : Type :=
  V → (action : I.Action) → I.Reply action → V → Prop

namespace Program

variable {I : Interface} {ε α β V : Type} {E : Environment I V}

/-- The program may end with the result in the last world. -/
def Ends (E : Environment I V) (result : Except ε α) (last : V) : Program I ε α → V → Prop
  | .pure value, world => result = .ok value ∧ last = world
  | .fail error, world => result = .error error ∧ last = world
  | .perform action next, world =>
    ∃ reply after, E world action reply after ∧ (next reply).Ends E result last after

/-- The program may get to the action. -/
def Issues (E : Environment I V) (wanted : I.Action) : Program I ε α → V → Prop
  | .pure _, _ => False
  | .fail _, _ => False
  | .perform action next, world =>
    action = wanted ∨
      ∃ reply after, E world action reply after ∧ (next reply).Issues E wanted after

variable {program : Program I ε α} {rest : α → Program I ε β} {handler : ε → Program I ε α}
  {wanted : I.Action} {world middle last : V} {result : Except ε α} {error : ε} {value : α}

theorem ends_ofExcept {given : Except ε α} :
    (ofExcept given : Program I ε α).Ends E result last world ↔ result = given ∧ last = world := by
  cases given <;> exact Iff.rfl

theorem not_ends_fail : ¬ (fail error : Program I ε α).Ends E (.ok value) last world := by
  rintro ⟨impossible, _⟩
  cases impossible

/-- A sequence ends with the error of its first part, or as its second part does. -/
theorem ends_bind_iff {result : Except ε β} (program : Program I ε α) : ∀ {world : V},
    (program >>= rest).Ends E result last world ↔
      (∃ error, result = .error error ∧ program.Ends E (.error error) last world) ∨
        ∃ first middle, program.Ends E (.ok first) middle world ∧
          (rest first).Ends E result last middle := by
  induction program with
  | pure first =>
    intro world
    constructor
    · intro ends
      exact .inr ⟨first, world, ⟨rfl, rfl⟩, ends⟩
    · rintro (⟨error, _, impossible, _⟩ | ⟨_, _, ⟨same, rfl⟩, ends⟩)
      · cases impossible
      · cases same
        exact ends
  | fail error =>
    intro world
    constructor
    · rintro ⟨rfl, rfl⟩
      exact .inl ⟨error, rfl, rfl, rfl⟩
    · rintro (⟨_, rfl, ends⟩ | ⟨_, _, ends, _⟩)
      · cases ends.1
        exact ⟨rfl, ends.2⟩
      · exact (not_ends_fail ends).elim
  | perform action next ih =>
    intro world
    constructor
    · rintro ⟨reply, after, replied, ends⟩
      rcases (ih reply).mp ends with ⟨error, same, ends⟩ | ⟨first, middle, before, behind⟩
      · exact .inl ⟨error, same, reply, after, replied, ends⟩
      · exact .inr ⟨first, middle, ⟨reply, after, replied, before⟩, behind⟩
    · rintro (⟨error, same, reply, after, replied, ends⟩ |
        ⟨first, middle, ⟨reply, after, replied, before⟩, behind⟩)
      · exact ⟨reply, after, replied, (ih reply).mpr (.inl ⟨error, same, ends⟩)⟩
      · exact ⟨reply, after, replied, (ih reply).mpr (.inr ⟨first, middle, before, behind⟩)⟩

/-- A sequence ends well exactly if its first part does and then its second. -/
theorem ends_bind {value : β} (program : Program I ε α) {world : V} :
    (program >>= rest).Ends E (.ok value) last world ↔
      ∃ first middle, program.Ends E (.ok first) middle world ∧
        (rest first).Ends E (.ok value) last middle := by
  rw [ends_bind_iff, or_iff_right]
  rintro ⟨_, impossible, _⟩
  cases impossible

/-- A recovered program ends with its own value, or as its handler does. -/
theorem ends_recover (program : Program I ε α) : ∀ {world : V},
    (program.recover handler).Ends E result last world ↔
      (∃ value, result = .ok value ∧ program.Ends E (.ok value) last world) ∨
        ∃ error middle, program.Ends E (.error error) middle world ∧
          (handler error).Ends E result last middle := by
  induction program with
  | pure first =>
    intro world
    constructor
    · rintro ⟨rfl, rfl⟩
      exact .inl ⟨first, rfl, rfl, rfl⟩
    · rintro (⟨value, rfl, ends⟩ | ⟨error, middle, ⟨impossible, _⟩, _⟩)
      · exact ends
      · cases impossible
  | fail first =>
    intro world
    constructor
    · intro ends
      exact .inr ⟨first, world, ⟨rfl, rfl⟩, ends⟩
    · rintro (⟨value, _, ends⟩ | ⟨error, middle, ⟨same, rfl⟩, ends⟩)
      · exact (not_ends_fail ends).elim
      · cases same
        exact ends
  | perform action next ih =>
    intro world
    constructor
    · rintro ⟨reply, after, replied, ends⟩
      rcases (ih reply).mp ends with ⟨value, same, ends⟩ | ⟨error, middle, ends, handled⟩
      · exact .inl ⟨value, same, reply, after, replied, ends⟩
      · exact .inr ⟨error, middle, ⟨reply, after, replied, ends⟩, handled⟩
    · rintro (⟨value, same, reply, after, replied, ends⟩ |
        ⟨error, middle, ⟨reply, after, replied, ends⟩, handled⟩)
      · exact ⟨reply, after, replied, (ih reply).mpr (.inl ⟨value, same, ends⟩)⟩
      · exact ⟨reply, after, replied, (ih reply).mpr (.inr ⟨error, middle, ends, handled⟩)⟩

theorem ends_recover_fail {wrap : ε → ε} (program : Program I ε α) {world : V} :
    (program.recover fun error => .fail (wrap error)).Ends E (.ok value) last world ↔
      program.Ends E (.ok value) last world := by
  rw [ends_recover]
  constructor
  · rintro (⟨_, same, ends⟩ | ⟨_, _, _, handled⟩)
    · cases same
      exact ends
    · exact (not_ends_fail handled).elim
  · intro ends
    exact .inl ⟨value, rfl, ends⟩

theorem Ends.bind_fail (ends : program.Ends E (.error error) last world) :
    (program >>= rest).Ends E (.error error) last world :=
  (ends_bind_iff program).mpr (.inl ⟨error, rfl, ends⟩)

theorem Ends.recover_of_ok (ends : program.Ends E (.ok value) last world) :
    (program.recover handler).Ends E (.ok value) last world :=
  (ends_recover program).mpr (.inl ⟨value, rfl, ends⟩)

theorem Ends.recover (ends : program.Ends E (.error error) middle world)
    (handled : (handler error).Ends E result last middle) :
    (program.recover handler).Ends E result last world :=
  (ends_recover program).mpr (.inr ⟨error, middle, ends, handled⟩)

theorem Ends.keeps {J : V → Prop}
    (keeps : ∀ {world : V} {action : I.Action} {reply : I.Reply action} {after : V},
      E world action reply after → J world → J after) (ends : program.Ends E result last world)
    (holds : J world) : J last := by
  induction program generalizing world with
  | pure | fail =>
    obtain ⟨_, rfl⟩ := ends
    exact holds
  | perform action next ih =>
    obtain ⟨reply, after, replied, ends⟩ := ends
    exact ih reply ends (keeps replied holds)

/-- An execution in an environment is one in every environment that gives its replies. -/
theorem Ends.mono {F : Environment I V}
    (more : ∀ {world : V} {action : I.Action} {reply : I.Reply action} {after : V},
      E world action reply after → F world action reply after)
    (ends : program.Ends E result last world) : program.Ends F result last world := by
  induction program generalizing world with
  | pure | fail => exact ends
  | perform action next ih =>
    obtain ⟨reply, after, replied, ends⟩ := ends
    exact ⟨reply, after, more replied, ih reply ends⟩

/-- Run a program where the world determines every reply. -/
def run (answer : V → (action : I.Action) → V × I.Reply action) :
    Program I ε α → V → Except ε α × V
  | .pure value, world => (.ok value, world)
  | .fail error, world => (.error error, world)
  | .perform action next, world => (next (answer world action).2).run answer (answer world action).1

variable {answer : V → (action : I.Action) → V × I.Reply action}

theorem ends_run
    (answers : ∀ world action, E world action (answer world action).2 (answer world action).1)
    (program : Program I ε α) (world : V) :
    program.Ends E (program.run answer world).1 (program.run answer world).2 world := by
  induction program generalizing world with
  | pure | fail => exact ⟨rfl, rfl⟩
  | perform action next ih => exact ⟨_, _, answers world action, ih _ _⟩

theorem Issues.bind (issues : program.Issues E wanted world) :
    (program >>= rest).Issues E wanted world := by
  induction program generalizing world with
  | pure | fail => exact issues.elim
  | perform action next ih =>
    refine issues.imp_right ?_
    rintro ⟨reply, after, replied, issues⟩
    exact ⟨reply, after, replied, ih reply issues⟩

theorem Issues.bind_next {first : α} (ends : program.Ends E (.ok first) middle world)
    (issues : (rest first).Issues E wanted middle) : (program >>= rest).Issues E wanted world := by
  induction program generalizing world with
  | pure value =>
    obtain ⟨same, rfl⟩ := ends
    cases same
    exact issues
  | fail error => cases ends.1
  | perform action next ih =>
    obtain ⟨reply, after, replied, ends⟩ := ends
    exact .inr ⟨reply, after, replied, ih reply ends⟩

theorem Issues.recover (issues : program.Issues E wanted world) :
    (program.recover handler).Issues E wanted world := by
  induction program generalizing world with
  | pure | fail => exact issues.elim
  | perform action next ih =>
    refine issues.imp_right ?_
    rintro ⟨reply, after, replied, issues⟩
    exact ⟨reply, after, replied, ih reply issues⟩

theorem ends_act {action : I.Action} {reply : I.Reply action}
    (replied : E world action reply last) :
    (act action : Program I ε (I.Reply action)).Ends E (.ok reply) last world :=
  ⟨reply, last, replied, rfl, rfl⟩

theorem Uses.of_issues {P : I.Action → Prop} (uses : Uses P program)
    (issues : program.Issues E wanted world) : P wanted := by
  induction program generalizing world with
  | pure | fail => exact issues.elim
  | perform action next ih =>
    rcases issues with rfl | ⟨reply, after, _, issues⟩
    · exact uses.1
    · exact ih reply (uses.2 reply) issues

/-! ## Parts of larger programs -/

/-- An environment as the programs over a smaller interface meet it. -/
def within {J : Interface} (f : I.Action → J.Action)
    (back : (action : I.Action) → J.Reply (f action) → I.Reply action) (E : Environment J V) :
    Environment I V :=
  fun world action reply after =>
    ∃ given, back action given = reply ∧ E world (f action) given after

theorem ends_embed {J : Interface} {f : I.Action → J.Action}
    {back : (action : I.Action) → J.Reply (f action) → I.Reply action} {E : Environment J V}
    (program : Program I ε α) : ∀ {world : V},
    (program.embed f back).Ends E result last world ↔
      program.Ends (within f back E) result last world := by
  induction program with
  | pure | fail => exact Iff.rfl
  | perform action next ih =>
    intro world
    constructor
    · rintro ⟨given, after, replied, ends⟩
      exact ⟨_, after, ⟨given, rfl, replied⟩, (ih _).mp ends⟩
    · rintro ⟨reply, after, ⟨given, rfl, replied⟩, ends⟩
      exact ⟨given, after, replied, (ih _).mpr ends⟩

/-! ## Journals -/

/-- An action with its reply. -/
abbrev Exchange (I : Interface) : Type := (action : I.Action) × I.Reply action

/-- The environment that gives any of the replies and keeps a journal of the
exchanges, the latest first. -/
def journal (Answers : (action : I.Action) → I.Reply action → Prop) :
    Environment I (List (Exchange I)) :=
  fun notes action reply after => Answers action reply ∧ after = ⟨action, reply⟩ :: notes

variable {Answers : (action : I.Action) → I.Reply action → Prop} {notes last : List (Exchange I)}

theorem Ends.mem_or_used {P : I.Action → Prop}
    (ends : program.Ends (journal Answers) result last notes) (uses : Uses P program)
    {exchange : Exchange I} (mem : exchange ∈ last) : exchange ∈ notes ∨ P exchange.1 := by
  induction program generalizing notes with
  | pure | fail =>
    obtain ⟨_, rfl⟩ := ends
    exact .inl mem
  | perform action next ih =>
    obtain ⟨reply, _, ⟨_, rfl⟩, ends⟩ := ends
    rcases ih reply ends (uses.2 reply) with mem | used
    · rcases List.mem_cons.mp mem with rfl | mem
      · exact .inr uses.1
      · exact .inl mem
    · exact .inr used

/-- Run a program against fixed replies. -/
def follow (answer : (action : I.Action) → I.Reply action) :
    List (Exchange I) → Program I ε α → Except ε α × List (Exchange I)
  | notes, .pure value => (.ok value, notes)
  | notes, .fail error => (.error error, notes)
  | notes, .perform action next =>
    follow answer (⟨action, answer action⟩ :: notes) (next (answer action))

theorem ends_of_follow {answer : (action : I.Action) → I.Reply action}
    (answers : ∀ action, Answers action (answer action))
    (followed : follow answer notes program = (result, last)) :
    program.Ends (journal Answers) result last notes := by
  induction program generalizing notes with
  | pure | fail =>
    cases followed
    exact ⟨rfl, rfl⟩
  | perform action next ih =>
    exact ⟨answer action, _, ⟨answers action, rfl⟩, ih _ followed⟩

/-! ## Contracts that an environment keeps -/

section

variable {N : Type}

/-- Under every reply of the environment the promise of a contract can be taken up
in notes that are true of the world. -/
def Keeps (E : Environment I V) (C : Contract I N) (Truth : N → V → Prop) : Prop :=
  ∀ {action : I.Action} {notes : N} {world : V} {Q : I.Reply action → N → Prop},
    Truth notes world → C.demand action Q notes →
      ∀ reply after, E world action reply after → ∃ notes', Truth notes' after ∧ Q reply notes'

/-- An action that is issued by a program that keeps to a contract meets the demand
of the contract in notes that are true at the time. -/
theorem Issues.demand {C : Contract I N} {Truth : N → V → Prop} {post : Except ε α → N → Prop}
    (keeps : Keeps E C Truth) (issues : program.Issues E wanted world) :
    ∀ {notes : N}, Truth notes world → wp C post program notes →
      ∃ notes' world' Q, Truth notes' world' ∧ C.demand wanted Q notes' := by
  induction program generalizing world with
  | pure | fail => exact issues.elim
  | perform action next ih =>
    intro notes true_ spec
    rcases issues with rfl | ⟨reply, after, replied, issues⟩
    · exact ⟨notes, world, _, true_, spec⟩
    · obtain ⟨notes', true', spec'⟩ := keeps true_ spec reply after replied
      exact ih reply issues true' spec'

end

/-! ## The contract of an environment -/

/-- What holds of every reply that the environment may give. -/
def contractOf (E : Environment I V) : Contract I V where
  demand action Q world := ∀ reply after, E world action reply after → Q reply after
  mono _ _ _ weaker _ holds reply after replied := weaker reply after (holds reply after replied)

/-- The weakest precondition in an environment is what holds of all executions. -/
theorem wp_contractOf {post : Except ε α → V → Prop} (program : Program I ε α) : ∀ {world : V},
    wp (contractOf E) post program world ↔
      ∀ result last, program.Ends E result last world → post result last := by
  induction program with
  | pure | fail =>
    intro world
    constructor
    · rintro holds result last ⟨rfl, rfl⟩
      exact holds
    · intro holds
      exact holds _ _ ⟨rfl, rfl⟩
  | perform action next ih =>
    intro world
    constructor
    · rintro holds result last ⟨reply, after, replied, ends⟩
      exact (ih reply).mp (holds reply after replied) result last ends
    · intro holds reply after replied
      exact (ih reply).mpr fun result last ends => holds result last ⟨reply, after, replied, ends⟩

end Program

end Nstance.Interaction
