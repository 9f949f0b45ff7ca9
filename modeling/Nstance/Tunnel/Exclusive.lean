import Nstance.Tunnel.Service

/-!
# One run at a time, and only under a lease

A run is started when there is none, and the service forgets a run only when its goroutine
has ended (`Inv.retired`). So the calls of the runner for one tunnel do not overlap, a stop is
reported only when none is in flight, and after that none begins without a new request. A run
whose context is not cancelled has a timer for the lease of the latest request (`Inv.leased`).
A run whose drain failed is never forgotten (`Inv.drains`).
-/

namespace Nstance.Tunnel

open Interaction Objects

/-! ## Reading the history -/

/-- The tunnel that an event is about. -/
def Event.tunnelName : Event → TunnelName
  | .applied request _ => request.tunnelName
  | .began name => name
  | .reported name _ => name
  | .returned name _ => name
  | .emitted status => status.tunnelName

/-- Whether a call of the runner has begun and not returned. -/
def inFlight (name : TunnelName) : List Event → Bool
  | [] => false
  | .began other :: rest => if other = name then true else inFlight name rest
  | .returned other _ :: rest => if other = name then false else inFlight name rest
  | .applied _ _ :: rest => inFlight name rest
  | .reported _ _ :: rest => inFlight name rest
  | .emitted _ :: rest => inFlight name rest

/-- Whether the tunnel was reported as stopped, and not requested to run since. -/
def halted (name : TunnelName) : List Event → Bool
  | [] => false
  | .emitted status :: rest =>
    if status.tunnelName = name ∧ status.state = .stopped then true else halted name rest
  | .applied request _ :: rest =>
    if request.tunnelName = name ∧ request.state = .running then false else halted name rest
  | .began _ :: rest => halted name rest
  | .reported _ _ :: rest => halted name rest
  | .returned _ _ :: rest => halted name rest

/-- A drain of the tunnel has failed. -/
def drained (name : TunnelName) : List Event → Bool
  | [] => false
  | .returned other err :: rest => (other = name && isDrain err) || drained name rest
  | .applied _ _ :: rest => drained name rest
  | .began _ :: rest => drained name rest
  | .reported _ _ :: rest => drained name rest
  | .emitted _ :: rest => drained name rest

/-- The last request applied, with the end of its lease. -/
def latest (name : TunnelName) : List Event → Option (TunnelDesiredState × Time)
  | [] => none
  | .applied request expires :: rest =>
    if request.tunnelName = name then some (request, expires) else latest name rest
  | .began _ :: rest => latest name rest
  | .reported _ _ :: rest => latest name rest
  | .returned _ _ :: rest => latest name rest
  | .emitted _ :: rest => latest name rest

/-- What an event needs of those before. -/
def Fits (earlier : List Event) : Event → Prop
  | .began name =>
    inFlight name earlier = false ∧ halted name earlier = false ∧ drained name earlier = false
  | .emitted status => status.state = .stopped →
      inFlight status.tunnelName earlier = false ∧ drained status.tunnelName earlier = false
  | _ => True

/-- The calls of the runner for one tunnel do not overlap. A stop is reported when none is in
flight, and no call begins after it without a new request. Neither follows a failed drain. -/
def Orderly : List Event → Prop
  | [] => True
  | event :: earlier => Fits earlier event ∧ Orderly earlier

/-- Two histories that differ in nothing that matters for the order. -/
structure Alike (history history' : List Event) : Prop where
  inFlight : ∀ name, inFlight name history' = inFlight name history
  halted : ∀ name, halted name history' = halted name history
  drained : ∀ name, drained name history' = drained name history
  latest : ∀ name, latest name history' = latest name history
  orderly : Orderly history → Orderly history'

namespace Alike

variable {history history' history'' : List Event}

theorem refl (history : List Event) : Alike history history :=
  ⟨fun _ => rfl, fun _ => rfl, fun _ => rfl, fun _ => rfl, id⟩

theorem emitted {status : TunnelStatus} (going : status.state ≠ .stopped) :
    Alike history (.emitted status :: history) where
  inFlight _ := rfl
  halted _ := if_neg fun both => going both.2
  drained _ := rfl
  latest _ := rfl
  orderly before := ⟨fun stopped => absurd stopped going, before⟩

theorem reported (name : TunnelName) (healthy : Bool) :
    Alike history (.reported name healthy :: history) where
  inFlight _ := rfl
  halted _ := rfl
  drained _ := rfl
  latest _ := rfl
  orderly before := ⟨trivial, before⟩

end Alike

theorem alike_elsewhere {event : Event} {name : TunnelName} (other : event.tunnelName ≠ name)
    (history : List Event) :
    inFlight name (event :: history) = inFlight name history ∧
      halted name (event :: history) = halted name history ∧
      drained name (event :: history) = drained name history ∧
      latest name (event :: history) = latest name history := by
  cases event with
  | applied request expires =>
    exact ⟨rfl, if_neg fun both => other both.1, rfl, if_neg other⟩
  | began began => exact ⟨if_neg other, rfl, rfl, rfl⟩
  | reported reported healthy => exact ⟨rfl, rfl, rfl, rfl⟩
  | returned returned err =>
    refine ⟨if_neg other, rfl, ?_, rfl⟩
    have apart : returned ≠ name := other
    rw [drained, decide_eq_false apart]
    rfl
  | emitted status => exact ⟨rfl, if_neg fun both => other both.1, rfl, rfl⟩

/-! ## The invariant -/

/-- A run whose drain has failed, and which does nothing any more but say so. -/
def OwnedTunnel.Drained (tunnel : OwnedTunnel) : Prop :=
  match tunnel.phase with
  | .returned err => isDrain err = true
  | .failing err => isDrain err = true
  | .notifying _ => isDrain tunnel.runErr = true
  | .closing => isDrain tunnel.runErr = true
  | .done => isDrain tunnel.runErr = true
  | _ => False

/-- What holds between the steps. One run may be exempt from having a lease, because it is
about to be stopped. -/
structure InvBut (exempt : Option Nat) (s : Service) : Prop where
  /-- The service owns runs of the tunnel that it owns them for. -/
  known : ∀ name i, s.owned.get name = some i →
    ∃ tunnel, s.handles[i]? = some tunnel ∧ tunnel.tunnelName = name
  /-- A run that it does not own is over. -/
  retired : ∀ i tunnel, s.handles[i]? = some tunnel → s.owned.get tunnel.tunnelName ≠ some i →
    tunnel.phase = .done ∧ tunnel.cancelled = true
  going : ∀ (i : Nat) (tunnel : OwnedTunnel), s.handles[i]? = some tunnel → tunnel.state ≠ .stopped
  wants : ∀ i tunnel, s.handles[i]? = some tunnel → s.owned.get tunnel.tunnelName = some i →
    tunnel.wantRun = true →
      ∃ request, latest tunnel.tunnelName s.history = some (request, tunnel.expires) ∧
        request.state = .running
  leased : ∀ i tunnel, s.handles[i]? = some tunnel → exempt ≠ some i → tunnel.cancelled = false →
    tunnel.wantRun = true ∧ ⟨i, tunnel.generation, tunnel.expires⟩ ∈ s.timers
  due : ∀ timer ∈ s.timers, s.now ≤ timer.due
  finishing : ∀ i ∈ s.finishers, ∃ tunnel, s.handles[i]? = some tunnel ∧ tunnel.cancelled = true
  flying : ∀ name, inFlight name s.history = true → ∃ i tunnel ready,
    s.owned.get name = some i ∧ s.handles[i]? = some tunnel ∧ tunnel.phase = .running ready
  halts : ∀ name, halted name s.history = true → s.owned.get name = none
  drains : ∀ name, drained name s.history = true →
    ∃ i tunnel, s.owned.get name = some i ∧ s.handles[i]? = some tunnel ∧ tunnel.Drained
  orderly : Orderly s.history

/-- The invariant of every run. -/
abbrev Inv (s : Service) : Prop := InvBut none s

/-- A step that changes one run. -/
structure Change (s s' : Service) (i : Nat) (tunnel tunnel' : OwnedTunnel) : Prop where
  there : s.handles[i]? = some tunnel
  mine : s.owned.get tunnel.tunnelName = some i
  handles : s'.handles = s.handles.set i tunnel'
  owned : s'.owned = s.owned
  now : s'.now = s.now
  name : tunnel'.tunnelName = tunnel.tunnelName
  going : tunnel'.state ≠ .stopped
  wants : tunnel'.wantRun = true → ∃ request,
    latest tunnel.tunnelName s'.history = some (request, tunnel'.expires) ∧ request.state = .running
  cancel : tunnel.cancelled = true → tunnel'.cancelled = true
  timers : ∀ timer ∈ s.timers, timer.handle ≠ i → timer ∈ s'.timers
  due : ∀ timer ∈ s'.timers, timer ∈ s.timers ∨ s.now ≤ timer.due
  finishers : ∀ j ∈ s'.finishers, j ∈ s.finishers ∨ j = i ∧ tunnel'.cancelled = true
  elsewhere : ∀ name, name ≠ tunnel.tunnelName →
    inFlight name s'.history = inFlight name s.history ∧
      halted name s'.history = halted name s.history ∧
      drained name s'.history = drained name s.history ∧
      latest name s'.history = latest name s.history
  flying : inFlight tunnel.tunnelName s'.history = true → ∃ ready, tunnel'.phase = .running ready
  halts : halted tunnel.tunnelName s'.history = false
  drains : drained tunnel.tunnelName s'.history = true → tunnel'.Drained
  orderly : Orderly s'.history

section

variable {s s' : Service} {i : Nat} {tunnel tunnel' : OwnedTunnel} {exempt exempt' : Option Nat}

theorem Change.get_self (change : Change s s' i tunnel tunnel') :
    s'.handles[i]? = some tunnel' := by
  have within := (List.getElem?_eq_some_iff.mp change.there).1
  rw [change.handles, List.getElem?_set_self within]

variable {j : Nat}

section

variable (change : Change s s' i tunnel tunnel')
include change

theorem Change.get_of_ne (other : j ≠ i) : s'.handles[j]? = s.handles[j]? := by
  rw [change.handles, List.getElem?_set_ne (Ne.symm other)]

theorem Change.cases {found : OwnedTunnel} (there : s'.handles[j]? = some found) :
    j = i ∧ found = tunnel' ∨ j ≠ i ∧ s.handles[j]? = some found := by
  by_cases same : j = i
  · subst same
    exact .inl ⟨rfl, Option.some.inj (there.symm.trans change.get_self)⟩
  · exact .inr ⟨same, (change.get_of_ne same).symm.trans there⟩

theorem Change.ne_of_name (inv : InvBut exempt s)
    {name : TunnelName} (of : s.owned.get name = some j) (other : name ≠ tunnel.tunnelName) :
    j ≠ i := by
  rintro rfl
  obtain ⟨found, there, named⟩ := inv.known name j of
  cases change.there.symm.trans there
  exact other named.symm

end

theorem InvBut.change (inv : InvBut exempt s) (change : Change s s' i tunnel tunnel')
    (exempts : ∀ j, exempt = some j → j = i)
    (leased : exempt' ≠ some i → tunnel'.cancelled = false →
      tunnel'.wantRun = true ∧ ⟨i, tunnel'.generation, tunnel'.expires⟩ ∈ s'.timers) :
    InvBut exempt' s' where
  known name j of := by
    rw [change.owned] at of
    obtain ⟨found, there, named⟩ := inv.known name j of
    by_cases same : j = i
    · subst same
      cases change.there.symm.trans there
      exact ⟨tunnel', change.get_self, change.name.trans named⟩
    · exact ⟨found, (change.get_of_ne same).trans there, named⟩
  retired j found there outside := by
    rw [change.owned] at outside
    rcases change.cases there with ⟨rfl, rfl⟩ | ⟨-, there⟩
    · rw [change.name] at outside
      exact absurd change.mine outside
    · exact inv.retired j found there outside
  going j found there := by
    rcases change.cases there with ⟨rfl, rfl⟩ | ⟨-, there⟩
    · exact change.going
    · exact inv.going j found there
  wants j found there mine wants := by
    rw [change.owned] at mine
    rcases change.cases there with ⟨rfl, rfl⟩ | ⟨other, there⟩
    · rw [change.name]
      exact change.wants wants
    have apart : found.tunnelName ≠ tunnel.tunnelName := by
      intro same
      rw [same, change.mine] at mine
      exact other (Option.some.inj mine).symm
    rw [(change.elsewhere _ apart).2.2.2]
    exact inv.wants j found there mine wants
  leased j found there due open_ := by
    rcases change.cases there with ⟨rfl, rfl⟩ | ⟨other, there⟩
    · exact leased due open_
    · obtain ⟨wants, timer⟩ := inv.leased j found there (fun same => other (exempts j same)) open_
      exact ⟨wants, change.timers _ timer other⟩
  due timer mem := by
    rw [change.now]
    exact (change.due timer mem).elim (inv.due timer) id
  finishing j mem := by
    rcases change.finishers j mem with old | ⟨rfl, cancelled⟩
    · obtain ⟨found, there, cancelled⟩ := inv.finishing j old
      by_cases same : j = i
      · subst same
        cases change.there.symm.trans there
        exact ⟨tunnel', change.get_self, change.cancel cancelled⟩
      · exact ⟨found, (change.get_of_ne same).trans there, cancelled⟩
    · exact ⟨tunnel', change.get_self, cancelled⟩
  flying name flies := by
    rw [change.owned]
    by_cases same : name = tunnel.tunnelName
    · subst same
      obtain ⟨ready, runs⟩ := change.flying flies
      exact ⟨i, tunnel', ready, change.mine, change.get_self, runs⟩
    rw [(change.elsewhere name same).1] at flies
    obtain ⟨j, found, ready, of, there, runs⟩ := inv.flying name flies
    have other := change.ne_of_name inv of same
    exact ⟨j, found, ready, of, (change.get_of_ne other).trans there, runs⟩
  halts name halts := by
    rw [change.owned]
    by_cases same : name = tunnel.tunnelName
    · subst same
      rw [change.halts] at halts
      cases halts
    · rw [(change.elsewhere name same).2.1] at halts
      exact inv.halts name halts
  drains name drains := by
    rw [change.owned]
    by_cases same : name = tunnel.tunnelName
    · subst same
      exact ⟨i, tunnel', change.mine, change.get_self, change.drains drains⟩
    rw [(change.elsewhere name same).2.2.1] at drains
    obtain ⟨j, found, of, there, failed⟩ := inv.drains name drains
    have other := change.ne_of_name inv of same
    exact ⟨j, found, of, (change.get_of_ne other).trans there, failed⟩
  orderly := change.orderly

end

/-! ## The cases of a step of a run -/

/-- Whether the goroutine of a run does nothing any more but end. -/
def Phase.ending : Phase → Bool
  | .notifying _ => true
  | .closing => true
  | .done => true
  | _ => false

/-- The cases of a step of a run: where its goroutine is, and what it leaves. -/
inductive Ran (s : Service) (i : Nat) (owned : OwnedTunnel) : Service → Prop where
  | begins (calling : owned.phase = .calling) :
      Ran s i owned
        ((s.set i { owned with phase := .running false }).note (.began owned.tunnelName))
  | reported {ready : Bool} (runs : owned.phase = .running ready) :
      Ran s i owned (s.note (.reported owned.tunnelName true))
  | readied {ready : Bool} (runs : owned.phase = .running ready) :
      Ran s i owned ((s.note (.reported owned.tunnelName true)).setStatus i
        { owned with phase := .running true } .ready none)
  | unwell {ready : Bool} (runs : owned.phase = .running ready) :
      Ran s i owned
        ((s.note (.reported owned.tunnelName false)).setStatus i owned .starting none)
  | returns {ready : Bool} (err : Option RunError) (runs : owned.phase = .running ready) :
      Ran s i owned ((s.set i { owned with phase := .returned err }).note
        (.returned owned.tunnelName err))
  | moves {phase : Phase} {failures : Option RunError} (going : owned.phase ≠ .done)
      (idle : ∀ ready, owned.phase ≠ .running ready) (parked : ∀ ready, phase ≠ .running ready)
      (begun : phase ≠ .calling) (drains : owned.Drained → { owned with phase := phase }.Drained)
      (ends : phase.ending = true ∨ owned.phase.ending = false) :
      Ran s i owned { s.set i { owned with phase := phase } with failures := failures }
  | fails {err : Option RunError} (failing : owned.phase = .failing err) :
      Ran s i owned (s.setStatus i
        { owned with phase := if isDrain err then .notifying err else .backoff } .failed err)
  | resumes (resumed : owned.phase = .resumed) :
      Ran s i owned (s.setStatus i { owned with phase := .calling } .starting none)

theorem Ran.moved {s : Service} {i : Nat} {owned : OwnedTunnel} {was phase : Phase}
    {failures : Option RunError} (is : owned.phase = was)
    (drains : { owned with phase := was }.Drained → { owned with phase := phase }.Drained)
    (ends : phase.ending = true ∨ was.ending = false) (going : was ≠ .done := by simp)
    (idle : ∀ ready, was ≠ .running ready := by simp)
    (parked : ∀ ready, phase ≠ .running ready := by simp) (begun : phase ≠ .calling := by simp) :
    Ran s i owned { s.set i { owned with phase := phase } with failures := failures } := by
  subst is
  exact .moves going idle parked begun drains ends

theorem ran_of_run {s s' : Service} {i : Nat} {owned : OwnedTunnel} {step : Service.RunStep}
    (ran : s.run i owned step = some s') : Ran s i owned s' := by
  cases step <;> simp only [Service.run] at ran <;> split at ran <;> try cases ran
  · exact .begins ‹_›
  · rename_i runs
    split at ran
    · rename_i well
      subst well
      split at ran <;> cases ran
      · exact .reported runs
      · exact .readied runs
    rename_i unwell
    cases ran
    rw [Bool.not_eq_true] at unwell
    subst unwell
    exact .unwell runs
  · exact .returns _ ‹_›
  · rename_i err is
    split at ran <;> cases ran
    · rename_i sound
      refine .moved is (fun failed => ?_) (.inl rfl)
      have failed : isDrain err = true := failed
      rw [failed] at sound
      cases sound
    · exact .moved is id (.inr rfl)
  · exact .fails ‹_›
  · rename_i is
    exact .moved is id (.inl rfl)
  · rename_i is
    split
    · exact .moved is False.elim (.inr rfl)
    · exact .moved is False.elim (.inl rfl)
  · rename_i is
    exact .moved is.1 False.elim (.inl rfl)
  · exact .resumes ‹_›
  · rename_i is
    exact .moved is id (.inl rfl)

/-! ## Steps of one run -/

section

variable {s s' : Service} {i : Nat} {tunnel tunnel' : OwnedTunnel} {exempt exempt' : Option Nat}

section

variable (inv : InvBut exempt s) (there : s.handles[i]? = some tunnel)
include inv there

theorem InvBut.mine (going : tunnel.phase ≠ .done) : s.owned.get tunnel.tunnelName = some i := by
  by_contra outside
  exact going (inv.retired i tunnel there outside).1

theorem InvBut.running (mine : s.owned.get tunnel.tunnelName = some i)
    (flies : inFlight tunnel.tunnelName s.history = true) :
    ∃ ready, tunnel.phase = .running ready := by
  obtain ⟨j, found, ready, of, at_, runs⟩ := inv.flying _ flies
  cases mine.symm.trans of
  cases there.symm.trans at_
  exact ⟨ready, runs⟩

theorem InvBut.failed (mine : s.owned.get tunnel.tunnelName = some i)
    (drains : drained tunnel.tunnelName s.history = true) : tunnel.Drained := by
  obtain ⟨j, found, of, at_, failed⟩ := inv.drains _ drains
  cases mine.symm.trans of
  cases there.symm.trans at_
  exact failed

end

theorem InvBut.unhalted (inv : InvBut exempt s) (mine : s.owned.get tunnel.tunnelName = some i) :
    halted tunnel.tunnelName s.history = false := by
  by_contra halts
  rw [inv.halts _ ((Bool.not_eq_false _).mp halts)] at mine
  cases mine

theorem InvBut.alike (inv : InvBut exempt s) {history : List Event}
    (alike : Alike s.history history) : InvBut exempt { s with history := history } :=
  { inv with
    wants := fun i tunnel there mine wants =>
      (alike.latest _).symm ▸ inv.wants i tunnel there mine wants
    flying := fun name flies => inv.flying name ((alike.inFlight name).symm.trans flies)
    halts := fun name halts => inv.halts name ((alike.halted name).symm.trans halts)
    drains := fun name drains => inv.drains name ((alike.drained name).symm.trans drains)
    orderly := alike.orderly inv.orderly }

theorem Inv.mild (inv : Inv s) (there : s.handles[i]? = some tunnel)
    (mine : s.owned.get tunnel.tunnelName = some i) (handles : s'.handles = s.handles.set i tunnel')
    (owned : s'.owned = s.owned) (now : s'.now = s.now) (timers : s'.timers = s.timers)
    (finishers : s'.finishers = s.finishers) (history : Alike s.history s'.history)
    (name : tunnel'.tunnelName = tunnel.tunnelName) (expires : tunnel'.expires = tunnel.expires)
    (generation : tunnel'.generation = tunnel.generation)
    (wantRun : tunnel'.wantRun = tunnel.wantRun) (cancelled : tunnel'.cancelled = tunnel.cancelled)
    (going : tunnel'.state ≠ .stopped)
    (flying : ∀ ready, tunnel.phase = .running ready → ∃ ready, tunnel'.phase = .running ready)
    (drains : tunnel.Drained → tunnel'.Drained) : Inv s' := by
  refine inv.change (?_ : Change s s' i tunnel tunnel') (fun j none => by cases none) ?_
  · refine
    { there, mine, handles, owned, now, name, going
      wants := fun wants => ?_
      cancel := fun before => cancelled.trans before
      timers := fun timer mem _ => timers ▸ mem
      due := fun timer mem => .inl (timers ▸ mem)
      finishers := fun j mem => .inl (finishers ▸ mem)
      elsewhere := fun name _ => ⟨history.inFlight name, history.halted name, history.drained name,
        history.latest name⟩
      flying := fun flies => ?_
      halts := (history.halted _).trans (inv.unhalted mine)
      drains := fun failed => drains (inv.failed there mine ((history.drained _).symm.trans failed))
      orderly := history.orderly inv.orderly }
    · rw [history.latest, expires]
      exact inv.wants i tunnel there mine (wantRun.symm.trans wants)
    · obtain ⟨ready, runs⟩ := inv.running there mine ((history.inFlight _).symm.trans flies)
      exact flying ready runs
  · intro due open_
    rw [wantRun, generation, expires, timers]
    exact inv.leased i tunnel there due (cancelled.symm.trans open_)

variable {phase : Phase} {request : TunnelDesiredState} {revision k : Nat}

section

variable (inv : Inv s) (there : s.handles[i]? = some tunnel)
  (mine : s.owned.get tunnel.tunnelName = some i)
include inv there mine

theorem Inv.move (flying : ∀ ready, tunnel.phase = .running ready → ∃ ready, phase = .running ready)
    (drains : tunnel.Drained → { tunnel with phase := phase }.Drained) :
    Inv (s.set i { tunnel with phase := phase }) :=
  inv.mild there mine rfl rfl rfl rfl rfl (.refl _) rfl rfl rfl rfl rfl (inv.going i tunnel there)
    flying drains

theorem Inv.setStatus {state : StatusState} {runErr : Option RunError} (going : state ≠ .stopped)
    (flying : ∀ ready, tunnel.phase = .running ready → ∃ ready, phase = .running ready)
    (stored : tunnel.Drained →
      { tunnel with phase := phase, state := state, runErr := runErr }.Drained)
    (skipped : tunnel.Drained → isDrain runErr = true) :
    Inv (s.setStatus i { tunnel with phase := phase } state runErr) := by
  unfold Service.setStatus
  split
  · rename_i skips
    refine inv.move there mine flying fun failed => ?_
    simp [mine, skipped failed] at skips
  · exact inv.mild there mine rfl rfl rfl rfl rfl (.emitted going) rfl rfl rfl rfl rfl going flying
      stored

end

theorem InvBut.undrained (inv : InvBut exempt s) (there : s.handles[i]? = some tunnel)
    (mine : s.owned.get tunnel.tunnelName = some i) (sound : ¬ tunnel.Drained) :
    drained tunnel.tunnelName s.history = false := by
  by_contra drains
  exact sound (inv.failed there mine ((Bool.not_eq_false _).mp drains))

section

variable (inv : Inv s) (there : s.handles[i]? = some tunnel)
include inv there

theorem Inv.tell {event : Event} (mine : s.owned.get tunnel.tunnelName = some i)
    (about : event.tunnelName = tunnel.tunnelName)
    (same : latest tunnel.tunnelName (event :: s.history) = latest tunnel.tunnelName s.history)
    (flying : inFlight tunnel.tunnelName (event :: s.history) = true →
      ∃ ready, phase = .running ready)
    (halts : halted tunnel.tunnelName (event :: s.history) = false)
    (drains : drained tunnel.tunnelName (event :: s.history) = true →
      { tunnel with phase := phase }.Drained)
    (fits : Fits s.history event) : Inv ((s.set i { tunnel with phase := phase }).note event) := by
  refine inv.change (?_ : Change s _ i tunnel { tunnel with phase := phase })
    (fun j none => by cases none) (inv.leased i tunnel there)
  exact
    { there, mine, flying, halts, drains
      handles := rfl
      owned := rfl
      now := rfl
      name := rfl
      going := inv.going i tunnel there
      wants := fun wants => same ▸ inv.wants i tunnel there mine wants
      cancel := id
      timers := fun timer mem _ => mem
      due := fun timer mem => .inl mem
      finishers := fun j mem => .inl mem
      elsewhere := fun name other => alike_elsewhere (about ▸ Ne.symm other) s.history
      orderly := ⟨fits, inv.orderly⟩ }

theorem Inv.begin (calling : tunnel.phase = .calling) :
    Inv ((s.set i { tunnel with phase := .running false }).note (.began tunnel.tunnelName)) := by
  have mine := inv.mine there (by rw [calling]; exact Phase.noConfusion)
  have idle : inFlight tunnel.tunnelName s.history = false := by
    by_contra flies
    obtain ⟨ready, runs⟩ := inv.running there mine ((Bool.not_eq_false _).mp flies)
    rw [calling] at runs
    cases runs
  have halts := inv.unhalted mine
  have drains := inv.undrained there mine (by rw [OwnedTunnel.Drained, calling]; exact id)
  exact inv.tell there mine rfl rfl (fun _ => ⟨false, rfl⟩) halts
    (fun failed => absurd (drains.symm.trans failed) Bool.false_ne_true) ⟨idle, halts, drains⟩

theorem Inv.return_ {ready : Bool} (runs : tunnel.phase = .running ready) (err : Option RunError) :
    Inv ((s.set i { tunnel with phase := .returned err }).note
      (.returned tunnel.tunnelName err)) := by
  have mine := inv.mine there (by rw [runs]; exact Phase.noConfusion)
  have drains := inv.undrained there mine (by rw [OwnedTunnel.Drained, runs]; exact id)
  refine inv.tell there mine rfl rfl (fun flies => ?_) (inv.unhalted mine) (fun failed => ?_) trivial
  · exact absurd ((if_pos rfl).symm.trans flies) Bool.false_ne_true
  · rw [drained, drains, Bool.or_false, decide_eq_true rfl, Bool.true_and] at failed
    exact failed

theorem Inv.run {step : Service.RunStep} (ran : s.run i tunnel step = some s') : Inv s' := by
  -- No drain has failed in a phase in which the runner is called or its report is stored.
  have stores {s₁ : Service} {phase : Phase} {state : StatusState} (inv : Inv s₁)
      (there : s₁.handles[i]? = some tunnel) (going : tunnel.phase ≠ .done)
      (sound : ¬ tunnel.Drained) (unstopped : state ≠ .stopped)
      (flying : ∀ ready, tunnel.phase = .running ready → ∃ ready, phase = .running ready) :
      Inv (s₁.setStatus i { tunnel with phase := phase } state none) :=
    inv.setStatus there (inv.mine there going) unstopped flying (fun failed => absurd failed sound)
      fun failed => absurd failed sound
  cases ran_of_run ran with
  | begins calling => exact inv.begin there calling
  | reported => exact inv.alike (.reported _ _)
  | readied runs =>
    exact stores (inv.alike (.reported _ _)) there (by rw [runs]; exact Phase.noConfusion)
      (by rw [OwnedTunnel.Drained, runs]; exact id) StatusState.noConfusion fun _ _ => ⟨true, rfl⟩
  | unwell runs =>
    exact stores (inv.alike (.reported _ _)) there (by rw [runs]; exact Phase.noConfusion)
      (by rw [OwnedTunnel.Drained, runs]; exact id) StatusState.noConfusion
      fun ready same => ⟨ready, same⟩
  | returns err runs => exact inv.return_ there runs err
  | moves going idle parked begun drains ends =>
    have moved := inv.move there (inv.mine there going) (fun ready runs => absurd runs (idle ready))
      drains
    exact { moved with }
  | @fails err failing =>
    have drain : tunnel.Drained → isDrain err = true := by
      rw [OwnedTunnel.Drained, failing]
      exact id
    refine inv.setStatus there (inv.mine there (by rw [failing]; exact Phase.noConfusion))
      StatusState.noConfusion (fun ready runs => ?_) (fun failed => ?_) drain
    · rw [failing] at runs
      cases runs
    · rw [drain failed]
      exact drain failed
  | resumes resumed =>
    refine stores inv there (by rw [resumed]; exact Phase.noConfusion)
      (by rw [OwnedTunnel.Drained, resumed]; exact id) StatusState.noConfusion fun ready runs => ?_
    rw [resumed] at runs
    cases runs

end

/-! ## Requests, timers and stops -/

theorem OwnedTunnel.Drained.cleared (failed : tunnel.Drained) (kept : isDrain tunnel.runErr = false)
    (phase : tunnel'.phase = tunnel.phase) : tunnel'.Drained := by
  unfold OwnedTunnel.Drained at failed ⊢
  rw [phase]
  cases is : tunnel.phase with
  | returned | failing | calling | running | backoff | resumed =>
    rw [is] at failed
    exact failed
  | notifying err | closing | done =>
    rw [is] at failed
    exact absurd (kept.symm.trans failed) Bool.false_ne_true

theorem InvBut.stopLocked (inv : InvBut exempt s) (exempts : ∀ j, exempt = some j → j = i)
    (there : s.handles[i]? = some tunnel) (mine : s.owned.get tunnel.tunnelName = some i)
    (name : tunnel'.tunnelName = tunnel.tunnelName) (phase : tunnel'.phase = tunnel.phase)
    (runErr : tunnel'.runErr = tunnel.runErr) (state : tunnel'.state = tunnel.state)
    (wantRun : tunnel'.wantRun = false) : Inv (s.stopLocked i tunnel') := by
  -- Whatever else the stop does, the context is cancelled and nothing else is wanted.
  have stopped : ∀ {s₁ : Service} {final : OwnedTunnel}, s₁.handles = s.handles.set i final →
      s₁.owned = s.owned → s₁.now = s.now → s₁.timers = s.timers →
      (∀ j ∈ s₁.finishers, j ∈ s.finishers ∨ j = i) → Alike s.history s₁.history →
      final.tunnelName = tunnel.tunnelName → final.state ≠ .stopped → final.wantRun = false →
      final.cancelled = true → final.phase = tunnel.phase → (tunnel.Drained → final.Drained) →
      Inv s₁ := by
    intro s₁ final handles owned now timers finishers history name going unwanted cancelled phase
      drains
    refine inv.change (?_ : Change s s₁ i tunnel final) exempts fun _ open_ => ?_
    · exact
        { there, mine, handles, owned, now, name, going
          wants := fun wants => absurd (unwanted.symm.trans wants) Bool.false_ne_true
          cancel := fun _ => cancelled
          timers := fun timer mem _ => timers ▸ mem
          due := fun timer mem => .inl (timers ▸ mem)
          finishers := fun j mem => (finishers j mem).imp_right fun same => ⟨same, cancelled⟩
          elsewhere := fun name _ => ⟨history.inFlight name, history.halted name,
            history.drained name, history.latest name⟩
          flying := fun flies => phase ▸ inv.running there mine
            ((history.inFlight _).symm.trans flies)
          halts := (history.halted _).trans (inv.unhalted mine)
          drains := fun failed =>
            drains (inv.failed there mine ((history.drained _).symm.trans failed))
          orderly := history.orderly inv.orderly }
    · rw [cancelled] at open_
      cases open_
  unfold Service.stopLocked
  split
  · refine stopped rfl rfl rfl rfl (fun j mem => .inl mem) (.refl _) name ?_ wantRun rfl phase ?_
    · exact state ▸ inv.going i tunnel there
    · intro failed
      unfold OwnedTunnel.Drained at failed ⊢
      rw [phase, runErr]
      exact failed
  rename_i first
  rw [Bool.or_eq_true, not_or, Bool.not_eq_true, runErr] at first
  refine stopped rfl rfl rfl rfl ?_ (.emitted StatusState.noConfusion) name
    StatusState.noConfusion wantRun rfl phase fun failed =>
      failed.cleared (Bool.eq_false_iff.mpr first.2) phase
  intro j mem
  exact (List.mem_append.mp mem).imp_right List.mem_singleton.mp

theorem InvBut.emit (inv : InvBut exempt s) {status : TunnelStatus}
    (going : status.state ≠ .stopped) : InvBut exempt (s.emit status) := by
  have emitted : InvBut exempt { s with history := (s.emit status).history } :=
    inv.alike (.emitted going)
  exact { emitted with }

theorem InvBut.emitCurrent (inv : InvBut exempt s) (i : Nat) : InvBut exempt (s.emitCurrent i) := by
  unfold Service.emitCurrent
  split
  · rename_i tunnel there
    exact inv.emit (inv.going i tunnel there)
  · exact inv

variable {name : TunnelName} {expires : Time}

theorem InvBut.renew (inv : Inv s) (there : s.handles[i]? = some tunnel)
    (mine : s.owned.get tunnel.tunnelName = some i) (name : request.tunnelName = tunnel.tunnelName)
    (later : s.now ≤ expires) : Inv (s.renew i tunnel request expires) := by
  have within := (List.getElem?_eq_some_iff.mp there).1
  -- The request is written down, and the run has it.
  have noted : InvBut (some i) ((s.note (.applied request expires)).set i
      (tunnel.renewed request expires)) := by
    refine inv.change (?_ : Change s _ i tunnel
      (tunnel.renewed request expires)) (fun j none => by cases none)
      fun apart => absurd rfl apart
    exact
      { there, mine
        handles := rfl
        owned := rfl
        now := rfl
        name := rfl
        going := inv.going i tunnel there
        wants := fun wants => ⟨request, if_pos name, of_decide_eq_true wants⟩
        cancel := id
        timers := fun timer mem _ => mem
        due := fun timer mem => .inl mem
        finishers := fun j mem => .inl mem
        elsewhere := fun other apart => by
          have elsewhere : (Event.applied request expires).tunnelName ≠ other :=
            fun same => apart (same.symm.trans name)
          exact alike_elsewhere elsewhere s.history
        flying := inv.running there mine
        halts := by
          show (if _ then false else halted tunnel.tunnelName s.history) = false
          rw [inv.unhalted mine, ite_self]
        drains := inv.failed there mine
        orderly := ⟨trivial, inv.orderly⟩ }
  have at_ : ((s.note (.applied request expires)).set i
      (tunnel.renewed request expires)).handles[i]? = some (tunnel.renewed request expires) :=
    List.getElem?_set_self within
  have exempts : ∀ j, some i = some j → j = i := fun j same => (Option.some.inj same).symm
  unfold Service.renew
  dsimp only
  by_cases runs : request.state = .running
  · rw [if_pos runs]
    refine InvBut.emitCurrent ?_ i
    refine noted.change (?_ : Change _ _ i (tunnel.renewed request expires)
      (tunnel.renewed request expires)) exempts fun _ _ =>
        ⟨decide_eq_true runs, List.mem_append_right _ List.mem_cons_self⟩
    exact
      { there := at_
        mine
        handles := (List.set_set ..).symm
        owned := rfl
        now := rfl
        name := rfl
        going := inv.going i tunnel there
        wants := noted.wants i _ at_ mine
        cancel := id
        timers := fun timer mem _ => List.mem_append_left _ mem
        due := fun timer mem => (List.mem_append.mp mem).imp_right fun new => by
          cases List.mem_singleton.mp new
          exact later
        finishers := fun j mem => .inl mem
        elsewhere := fun _ _ => ⟨rfl, rfl, rfl, rfl⟩
        flying := noted.running at_ mine
        halts := noted.unhalted mine
        drains := noted.failed at_ mine
        orderly := noted.orderly }
  · rw [if_neg runs]
    refine InvBut.emitCurrent ?_ i
    exact noted.stopLocked exempts at_ mine rfl rfl rfl rfl (decide_eq_false runs)

theorem startLocked_cases {j : Nat} {found : OwnedTunnel}
    (there : (s.startLocked name revision expires).handles[j]? = some found) :
    s.handles[j]? = some found ∧ j < s.handles.length ∨
      j = s.handles.length ∧ found = { tunnelName := name, revision, expires } := by
  rcases Nat.lt_trichotomy j s.handles.length with below | rfl | above
  · exact .inl ⟨(List.getElem?_append_left below).symm.trans there, below⟩
  · exact .inr ⟨rfl, (Option.some.inj (List.getElem?_concat_length.symm.trans there)).symm⟩
  have beyond : (s.handles ++ [_])[j]? = some found := there
  rw [List.getElem?_eq_none (by simp; omega)] at beyond
  cases beyond

section

variable (inv : Inv s)
include inv

theorem InvBut.startLocked (vacant : s.owned.get name = none)
    (unhalted : halted name s.history = false)
    (wanted : ∃ request, latest name s.history = some (request, expires) ∧ request.state = .running)
    (later : s.now ≤ expires) : Inv (s.startLocked name revision expires) := by
  have history : Alike s.history (s.startLocked name revision expires).history :=
    .emitted StatusState.noConfusion
  have cases {j : Nat} {found : OwnedTunnel}
      (there : (s.startLocked name revision expires).handles[j]? = some found) :=
    startLocked_cases there
  have old : ∀ {j : Nat} {found : OwnedTunnel}, s.handles[j]? = some found →
      (s.startLocked name revision expires).handles[j]? = some found := by
    intro j found there
    exact (List.getElem?_append_left (List.getElem?_eq_some_iff.mp there).1).trans there
  have elsewhere : ∀ {other}, other ≠ name →
      (s.startLocked name revision expires).owned.get other = s.owned.get other :=
    fun different => Dict.get_set_of_ne different
  have apart : ∀ {other j}, s.owned.get other = some j → other ≠ name := by
    rintro _ j of rfl
    rw [vacant] at of
    cases of
  refine ⟨?_, ?_, ?_, ?_, ?_, ?_, ?_, ?_, ?_, ?_, history.orderly inv.orderly⟩
  · intro other j of
    by_cases same : other = name
    · subst same
      cases Dict.get_set_self.symm.trans of
      exact ⟨_, List.getElem?_concat_length, rfl⟩
    · obtain ⟨found, there, named⟩ := inv.known other j ((elsewhere same).symm.trans of)
      exact ⟨found, old there, named⟩
  · intro j found there outside
    rcases cases there with ⟨there, -⟩ | ⟨rfl, rfl⟩
    · refine inv.retired j found there fun mine => outside ?_
      exact (elsewhere (apart mine)).trans mine
    · exact absurd Dict.get_set_self outside
  · intro j found there
    rcases cases there with ⟨there, -⟩ | ⟨rfl, rfl⟩
    · exact inv.going j found there
    · exact StatusState.noConfusion
  · intro j found there mine wants
    rw [history.latest]
    rcases cases there with ⟨there, below⟩ | ⟨rfl, rfl⟩
    · by_cases same : found.tunnelName = name
      · rw [same] at mine
        cases Dict.get_set_self.symm.trans mine
        exact absurd below (Nat.lt_irrefl _)
      · exact inv.wants j found there ((elsewhere same).symm.trans mine) wants
    · exact wanted
  · intro j found there due open_
    rcases cases there with ⟨there, -⟩ | ⟨rfl, rfl⟩
    · obtain ⟨wants, timer⟩ := inv.leased j found there due open_
      exact ⟨wants, List.mem_append_left _ timer⟩
    · exact ⟨rfl, List.mem_append_right _ List.mem_cons_self⟩
  · intro timer mem
    rcases List.mem_append.mp mem with mem | new
    · exact inv.due timer mem
    · cases List.mem_singleton.mp new
      exact later
  · intro j mem
    obtain ⟨found, there, cancelled⟩ := inv.finishing j mem
    exact ⟨found, old there, cancelled⟩
  · intro other flies
    obtain ⟨j, found, ready, of, there, runs⟩ :=
      inv.flying other ((history.inFlight other).symm.trans flies)
    exact ⟨j, found, ready, (elsewhere (apart of)).trans of, old there, runs⟩
  · intro other halts
    rw [history.halted] at halts
    have different : other ≠ name := by
      rintro rfl
      rw [unhalted] at halts
      cases halts
    exact (elsewhere different).trans (inv.halts other halts)
  · intro other drains
    obtain ⟨j, found, of, there, failed⟩ :=
      inv.drains other ((history.drained other).symm.trans drains)
    exact ⟨j, found, (elsewhere (apart of)).trans of, old there, failed⟩

theorem InvBut.forget (there : s.handles[i]? = some tunnel)
    (mine : s.owned.get tunnel.tunnelName = some i) (ended : tunnel.phase = .done)
    (cancelled : tunnel.cancelled = true) (sound : isDrain tunnel.runErr = false) :
    Inv { s with owned := s.owned.erase tunnel.tunnelName } := by
  have kept : ∀ {name j}, s.owned.get name = some j → name ≠ tunnel.tunnelName →
      (s.owned.erase tunnel.tunnelName).get name = some j :=
    fun of other => (Dict.get_erase_of_ne other).trans of
  have before : ∀ {name j}, (s.owned.erase tunnel.tunnelName).get name = some j →
      s.owned.get name = some j := by
    intro name j of
    by_cases same : name = tunnel.tunnelName
    · rw [same, Dict.get_erase_self] at of
      cases of
    · exact (Dict.get_erase_of_ne same).symm.trans of
  refine
    { inv with
      known := fun name j of => inv.known name j (before of)
      retired := fun j found at_ outside => ?_
      wants := fun j found at_ of wants => inv.wants j found at_ (before of) wants
      flying := fun name flies => ?_
      halts := fun name halts => ?_
      drains := fun name drains => ?_ }
  · by_cases same : found.tunnelName = tunnel.tunnelName
    · by_cases is : j = i
      · subst is
        cases there.symm.trans at_
        exact ⟨ended, cancelled⟩
      refine inv.retired j found at_ fun of => is ?_
      rw [same, mine] at of
      exact (Option.some.inj of).symm
    · exact inv.retired j found at_ fun of => outside (kept of same)
  · obtain ⟨j, found, ready, of, at_, runs⟩ := inv.flying name flies
    refine ⟨j, found, ready, kept of ?_, at_, runs⟩
    rintro rfl
    obtain ⟨ready, runs⟩ := inv.running there mine flies
    rw [ended] at runs
    cases runs
  · by_cases same : name = tunnel.tunnelName
    · rw [same]
      exact Dict.get_erase_self
    · exact (Dict.get_erase_of_ne same).trans (inv.halts name halts)
  · obtain ⟨j, found, of, at_, failed⟩ := inv.drains name drains
    refine ⟨j, found, kept of ?_, at_, failed⟩
    rintro rfl
    have failed := inv.failed there mine drains
    rw [OwnedTunnel.Drained, ended] at failed
    exact Bool.false_ne_true (sound.symm.trans failed)

theorem InvBut.emitStopped (vacant : s.owned.get name = none) (revision : Nat)
    : Inv (s.emit (stoppedMessage name revision)) := by
  have idle : inFlight name s.history = false := by
    by_contra flies
    obtain ⟨j, found, ready, of, -⟩ := inv.flying name ((Bool.not_eq_false _).mp flies)
    rw [vacant] at of
    cases of
  have sound : drained name s.history = false := by
    by_contra drains
    obtain ⟨j, found, of, -⟩ := inv.drains name ((Bool.not_eq_false _).mp drains)
    rw [vacant] at of
    cases of
  refine { inv with
    halts := fun other halts => ?_, orderly := ⟨fun _ => ⟨idle, sound⟩, inv.orderly⟩ }
  by_cases same : other = name
  · rw [same]
    exact vacant
  refine inv.halts other ?_
  have halts : (if name = other ∧ StatusState.stopped = .stopped then true
    else halted other s.history) = true := halts
  rw [if_neg fun both => same both.1.symm] at halts
  exact halts

theorem InvBut.finishStop (there : s.handles[i]? = some tunnel)
    (ended : tunnel.phase = .done) (cancelled : tunnel.cancelled = true) :
    Inv (s.finishStop i tunnel) := by
  unfold Service.finishStop
  split
  · exact inv
  rename_i mine
  simp only [Bool.or_eq_true, not_or, decide_eq_true_eq, not_not, Bool.not_eq_true] at mine
  have forgotten := inv.forget there mine.1 ended cancelled mine.2
  dsimp only
  split
  · rename_i again
    rw [Bool.and_eq_true, decide_eq_true_eq] at again
    exact forgotten.startLocked Dict.get_erase_self (inv.unhalted mine.1)
      (inv.wants i tunnel there mine.1 again.1) (Nat.le_of_lt again.2)
  · exact forgotten.emitStopped Dict.get_erase_self tunnel.revision

theorem InvBut.note (vacant : s.owned.get request.tunnelName = none) (expires : Time)
    : Inv (s.note (.applied request expires)) := by
  refine
    { inv with
      wants := fun j found there mine wants => ?_
      halts := fun other halts => inv.halts other ?_
      orderly := ⟨trivial, inv.orderly⟩ }
  · have different : request.tunnelName ≠ found.tunnelName := by
      intro same
      rw [same] at vacant
      cases vacant.symm.trans mine
    have same : latest found.tunnelName (.applied request expires :: s.history) =
      latest found.tunnelName s.history := if_neg different
    exact same ▸ inv.wants j found there mine wants
  · have halts :
        (if request.tunnelName = other ∧ _ then false else halted other s.history) = true := halts
    split at halts
    · cases halts
    · exact halts

theorem InvBut.apply (request : TunnelDesiredState) : Inv (s.apply request).2 := by
  unfold Service.apply
  split
  · exact inv
  dsimp only
  have later : s.now ≤ s.now + request.leaseSeconds * Service.second := Nat.le_add_right _ _
  split
  · rename_i i of
    split
    · rename_i tunnel there
      obtain ⟨found, at_, named⟩ := inv.known _ i of
      cases there.symm.trans at_
      split
      · exact inv
      · exact inv.renew there (named ▸ of) named.symm later
    · exact inv
  · rename_i vacant
    have noted := inv.note vacant (s.now + request.leaseSeconds * Service.second)
    split
    · exact noted.emitStopped vacant request.revision
    rename_i runs
    have runs := not_not.mp runs
    exact noted.startLocked vacant (if_pos ⟨rfl, runs⟩) ⟨request, if_pos rfl, runs⟩ later

end

theorem mem_eraseIdx {α : Type} {l : List α} {x y : α} (there : l[k]? = some x) (mem : y ∈ l)
    (other : y ≠ x) : y ∈ l.eraseIdx k := by
  obtain ⟨j, at_⟩ := List.mem_iff_getElem?.mp mem
  refine List.mem_eraseIdx_iff_getElem?.mpr ⟨j, ?_, at_⟩
  rintro rfl
  exact other (Option.some.inj (at_.symm.trans there))

theorem InvBut.fire (inv : Inv s) {timer : Timer} (there : s.timers[k]? = some timer) :
    Inv ({ s with timers := s.timers.eraseIdx k }.fire timer) := by
  have due : ∀ other ∈ s.timers.eraseIdx k, s.now ≤ other.due :=
    fun other mem => inv.due other (List.mem_of_mem_eraseIdx mem)
  have dropped : InvBut (some timer.handle) { s with timers := s.timers.eraseIdx k } := by
    refine { inv with due, leased := fun j found at_ apart open_ => ?_ }
    obtain ⟨wants, mem⟩ := inv.leased j found at_ (by simp) open_
    refine ⟨wants, mem_eraseIdx there mem ?_⟩
    rintro rfl
    exact apart rfl
  unfold Service.fire
  split
  · rename_i tunnel at_
    split
    · rename_i current
      exact dropped.stopLocked (fun j same => (Option.some.inj same).symm) at_ current.1 rfl rfl rfl
        rfl rfl
    rename_i stale
    refine { dropped with leased := fun j found here _ open_ => ?_ }
    obtain ⟨wants, mem⟩ := inv.leased j found here (by simp) open_
    refine ⟨wants, mem_eraseIdx there mem ?_⟩
    rintro rfl
    cases at_.symm.trans here
    refine stale ⟨?_, rfl⟩
    by_contra outside
    rw [(inv.retired _ _ here outside).2] at open_
    cases open_
  · rename_i missing
    refine { dropped with leased := fun j found here _ open_ => ?_ }
    obtain ⟨wants, mem⟩ := inv.leased j found here (by simp) open_
    refine ⟨wants, mem_eraseIdx there mem ?_⟩
    rintro rfl
    cases missing.symm.trans here

theorem InvBut.shutdown (inv : Inv s) (name : TunnelName) : Inv (s.shutdown name) := by
  unfold Service.shutdown
  split
  · rename_i i of
    split
    · rename_i tunnel there
      obtain ⟨found, at_, named⟩ := inv.known name i of
      cases there.symm.trans at_
      exact inv.stopLocked (fun j none => by cases none) there (named ▸ of) rfl rfl rfl rfl rfl
    · exact inv
  · exact inv

theorem InvBut.stopAll (inv : Inv s) (order : List TunnelName) : Inv (s.stopAll order) := by
  unfold Service.stopAll
  induction order generalizing s with
  | nil => exact inv
  | cons name rest ih => exact ih (inv.shutdown name)

end

/-! ## Runs of the machine -/

theorem InvBut.step {s s' : Service} {label : Label} (inv : Inv s)
    (stepped : step s label = some s') : Inv s' := by
  cases label with
  | tick elapsed =>
    rw [Tunnel.step] at stepped
    split at stepped <;> cases stepped
    rename_i early
    exact { inv with due := fun timer mem =>
      of_decide_eq_true (List.all_eq_true.mp early timer mem) }
  | apply request =>
    cases stepped
    exact inv.apply request
  | run i step =>
    obtain ⟨tunnel, there, ran⟩ := Option.bind_eq_some_iff.mp stepped
    exact inv.run there ran
  | fire k =>
    obtain ⟨timer, there, fired⟩ := Option.bind_eq_some_iff.mp stepped
    split at fired <;> cases fired
    exact inv.fire there
  | finishStop k =>
    obtain ⟨i, waiting, rest⟩ := Option.bind_eq_some_iff.mp stepped
    obtain ⟨tunnel, there, finished⟩ := Option.bind_eq_some_iff.mp rest
    split at finished <;> cases finished
    rename_i ended
    obtain ⟨found, at_, cancelled⟩ := inv.finishing i (List.mem_of_getElem? waiting)
    cases there.symm.trans at_
    have waits : Inv { s with finishers := s.finishers.eraseIdx k } :=
      { inv with finishing := fun j mem => inv.finishing j (List.mem_of_mem_eraseIdx mem) }
    exact waits.finishStop there ended cancelled
  | stopAll order =>
    rw [Tunnel.step] at stepped
    split at stepped <;> cases stepped
    exact inv.stopAll order
  | takeUpdate | takeFailure =>
    rw [Tunnel.step] at stepped
    split at stepped <;> cases stepped
    exact { inv with }

theorem inv_start (allowed : List TunnelName) : Inv { allowed } where
  known _ _ of := by cases of
  retired _ _ there := by cases there
  going _ _ there := by cases there
  wants _ _ there := by cases there
  leased _ _ there := by cases there
  due _ mem := by cases mem
  finishing _ mem := by cases mem
  flying _ flies := by cases flies
  halts _ halts := by cases halts
  drains _ drains := by cases drains
  orderly := trivial

theorem inv_of_reachable {allowed : List TunnelName} {s : Service}
    (reached : (supervisor allowed).Reachable s) : Inv s :=
  reached.invariant (inv_start allowed) fun _ inv _ stepped => inv.step stepped

/-- **One run at a time, and only under a lease.** In every run of the supervisor, at most one
call of the runner is in flight for a tunnel. A run whose context is not cancelled serves the
latest request, which asks for the tunnel to run and whose lease has not ended. What was
started, returned and emitted is in order. -/
theorem supervisor_exclusive {allowed : List TunnelName} {s : Service}
    (reached : (supervisor allowed).Reachable s) :
    (∀ (i j : Nat) (tunnel other : OwnedTunnel) (ready ready' : Bool),
      s.handles[i]? = some tunnel → s.handles[j]? = some other →
        tunnel.tunnelName = other.tunnelName → tunnel.phase = .running ready →
          other.phase = .running ready' → i = j) ∧
    (∀ tunnel ∈ s.handles, tunnel.cancelled = false → ∃ request expires,
      latest tunnel.tunnelName s.history = some (request, expires) ∧ request.state = .running ∧
        s.now ≤ expires) ∧
    Orderly s.history := by
  have inv := inv_of_reachable reached
  refine ⟨?_, ?_, inv.orderly⟩
  · intro i j tunnel other ready ready' there there' same runs runs'
    have mine := inv.mine there (by rw [runs]; exact Phase.noConfusion)
    have mine' := inv.mine there' (by rw [runs']; exact Phase.noConfusion)
    rw [same, mine'] at mine
    exact (Option.some.inj mine).symm
  · intro tunnel mem open_
    obtain ⟨i, there⟩ := List.mem_iff_getElem?.mp mem
    obtain ⟨wants, timer⟩ := inv.leased i tunnel there (by simp) open_
    have mine : s.owned.get tunnel.tunnelName = some i := by
      by_contra outside
      rw [(inv.retired i tunnel there outside).2] at open_
      cases open_
    obtain ⟨request, is, runs⟩ := inv.wants i tunnel there mine wants
    exact ⟨request, tunnel.expires, is, runs, inv.due _ timer⟩

/-! A tunnel is requested, becomes ready, and is stopped. -/

namespace Cycle

/-- The request to run. -/
def wanted : TunnelDesiredState := ⟨"wake", 1, .running, 30⟩

/-- The request to stop. -/
def unwanted : TunnelDesiredState := ⟨"wake", 2, .stopped, 0⟩

/-- The run, step by step. -/
def labels : List Label :=
  [.apply wanted, .run 0 .begin, .run 0 (.report true), .tick 5, .apply unwanted,
    .run 0 (.return_ none), .run 0 .check, .run 0 .close, .finishStop 0]

theorem stopped_in_order : ∃ s, (supervisor ["wake"]).Reachable s ∧
    s.history.take 1 = [.emitted ⟨"wake", 2, .stopped, none⟩] ∧ .began "wake" ∈ s.history ∧
      Orderly s.history := by
  have ran : ((supervisor ["wake"]).run (supervisor ["wake"]).start labels).any (fun s =>
      s.history.take 1 = [.emitted ⟨"wake", 2, .stopped, none⟩] &&
        s.history.contains (.began "wake")) = true := by
    decide +kernel
  obtain ⟨s, reached, found⟩ := Machine.exists_reachable_of_run _ ran
  rw [Bool.and_eq_true, decide_eq_true_eq, List.contains_iff_mem] at found
  exact ⟨s, reached, found.1, found.2, (supervisor_exclusive reached).2.2⟩

end Cycle

end Nstance.Tunnel
