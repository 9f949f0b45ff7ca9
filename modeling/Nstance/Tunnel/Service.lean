import Nstance.Interaction.Trace
import Nstance.Objects.Dict

/-!
# The tunnel supervisor

A request asks for a tunnel to run, for the time of a lease, or to stop. Every run has a
goroutine that calls the runner, reports what it hears from it, and calls it again after a
failure; a timer for each lease; and, once it is stopped, a goroutine that waits for its end
and then reports the stop or starts the tunnel anew.

The steps are the sections that hold the lock, the calls and returns of the runner, and the
passing of time; a timer that is due fires before that. What was applied, started and emitted
is written down; no step reads it.
-/

namespace Nstance.Tunnel

open Interaction Objects

abbrev TunnelName := String

/-- Nanoseconds. -/
abbrev Time := Nat

/-! ## Messages -/

/-- What the leader asks for. -/
inductive DesiredState where
  | unspecified
  | running
  | stopped
deriving DecidableEq

/-- A request of the leader. -/
structure TunnelDesiredState where
  tunnelName : TunnelName
  revision : Nat
  state : DesiredState
  leaseSeconds : Nat := 0
deriving DecidableEq

/-- What a status says. -/
inductive StatusState where
  | starting
  | ready
  | failed
  | stopped
deriving DecidableEq

/-- What the supervisor reports of a tunnel, for the revision of the request that it serves. -/
structure TunnelStatus where
  tunnelName : TunnelName
  revision : Nat
  state : StatusState
  error : Option String := none
deriving DecidableEq

/-- An error of the runner, which may be `ErrDrain` or wrap it. -/
structure RunError where
  drain : Bool
  text : String
deriving DecidableEq

/-- `errors.Is(err, ErrDrain)`. -/
def isDrain (err : Option RunError) : Bool := err.any RunError.drain

/-! ## Tunnels -/

/-- Where the goroutine of a run is. -/
inductive Phase where
  /-- About to call the runner. -/
  | calling
  /-- In the call, with whether the runner has reported that it is healthy. -/
  | running (ready : Bool)
  | returned (err : Option RunError)
  /-- About to store the failure. -/
  | failing (err : Option RunError)
  /-- About to report a failed drain. -/
  | notifying (err : Option RunError)
  | backoff
  /-- About to start again. -/
  | resumed
  /-- About to close the channel that the others wait for. -/
  | closing
  | done
deriving DecidableEq

/-- A run of a tunnel. -/
structure OwnedTunnel where
  tunnelName : TunnelName
  revision : Nat
  generation : Nat := 1
  state : StatusState := .starting
  runErr : Option RunError := none
  wantRun : Bool := true
  stopping : Bool := false
  expires : Time
  cancelled : Bool := false
  phase : Phase := .calling

/-- A goroutine of `expire`: the run and the generation it was started for. -/
structure Timer where
  handle : Nat
  generation : Nat
  due : Time

/-- What is written down of a run. -/
inductive Event where
  /-- A request was applied, with the end of its lease. -/
  | applied (request : TunnelDesiredState) (expires : Time)
  | began (tunnelName : TunnelName)
  | reported (tunnelName : TunnelName) (healthy : Bool)
  | returned (tunnelName : TunnelName) (err : Option RunError)
  | emitted (status : TunnelStatus)
deriving DecidableEq

/-- The supervisor. -/
structure Service where
  allowed : List TunnelName
  now : Time := 0
  /-- The runs so far. A pointer to one is its index. -/
  handles : List OwnedTunnel := []
  owned : Dict TunnelName Nat := .empty
  timers : List Timer := []
  /-- The runs that a goroutine of `finishStop` waits for. -/
  finishers : List Nat := []
  /-- The statuses that are to be sent, of which the channel holds 64. -/
  updates : List TunnelStatus := []
  failures : Option RunError := none
  history : List Event := []

/-- A request renews the lease of a run. -/
def OwnedTunnel.renewed (owned : OwnedTunnel) (request : TunnelDesiredState) (expires : Time) :
    OwnedTunnel :=
  { owned with
    revision := request.revision
    generation := owned.generation + 1
    wantRun := request.state = .running
    expires := expires }

/-- The status of a run. -/
def statusMessage (owned : OwnedTunnel) : TunnelStatus where
  tunnelName := owned.tunnelName
  revision := owned.revision
  state := owned.state
  error := owned.runErr.map RunError.text

/-- The status of a tunnel that has stopped. -/
def stoppedMessage (tunnelName : TunnelName) (revision : Nat) : TunnelStatus where
  tunnelName
  revision
  state := .stopped

namespace Service

variable (s : Service)

/-- Write something down. -/
def note (event : Event) : Service := { s with history := event :: s.history }

/-- A status is dropped when the channel is full. -/
def emit (message : TunnelStatus) : Service :=
  { s with
    updates := if s.updates.length < 64 then s.updates ++ [message] else s.updates
    history := .emitted message :: s.history }

variable (i : Nat) (request : TunnelDesiredState) (owned : OwnedTunnel)

/-- Emit the status of a run. -/
def emitCurrent : Service :=
  match s.handles[i]? with
  | some owned => s.emit (statusMessage owned)
  | none => s

/-- A run has changed. -/
def set (i : Nat) (owned : OwnedTunnel) : Service := { s with handles := s.handles.set i owned }

/-- A goroutine waits for the end of a lease. -/
def expire (generation : Nat) (due : Time) : Service :=
  { s with timers := s.timers ++ [⟨i, generation, due⟩] }

/-- Start a tunnel whose last run has ended. -/
def startLocked (tunnelName : TunnelName) (revision : Nat) (expires : Time) : Service :=
  let owned : OwnedTunnel := { tunnelName, revision, expires }
  let i := s.handles.length
  ({ s with
    handles := s.handles ++ [owned]
    owned := s.owned.set tunnelName i }.emit (statusMessage owned)).expire i owned.generation
      expires

/-- Cancel a run, and wait for its end. -/
def stopLocked : Service :=
  if owned.stopping || isDrain owned.runErr then s.set i { owned with cancelled := true }
  else
    let owned := { owned with
      cancelled := true, stopping := true, state := .starting, runErr := none }
    { (s.set i owned).emit (statusMessage owned) with finishers := s.finishers ++ [i] }

/-- Store a status. A run that is being stopped can only report a failed drain. -/
def setStatus (state : StatusState) (runErr : Option RunError) : Service :=
  if s.owned.get owned.tunnelName ≠ some i || (owned.stopping && !isDrain runErr) then s.set i owned
  else
    let owned := { owned with state := state, runErr := runErr }
    (s.set i owned).emit (statusMessage owned)

/-! ## Requests -/

/-- Nanoseconds. -/
def second : Time := 1000000000

/-- What `apply` rejects before it takes the lock. -/
def validate : Except String Unit :=
  if request.tunnelName = "" then .error "tunnel name is required"
  else if request.tunnelName ∉ s.allowed then
    .error ("tunnel \"" ++ request.tunnelName ++ "\" is not configured")
  else if request.revision = 0 then .error "tunnel revision must be non-zero"
  else if request.state ≠ .running ∧ request.state ≠ .stopped then
    .error "tunnel state must be RUNNING or STOPPED"
  else if request.state = .running ∧ request.leaseSeconds = 0 then
    .error "running tunnel requires a positive lease"
  else .ok ()

/-- Apply a request to a run, and report. -/
def renew (request : TunnelDesiredState) (expires : Time) : Service :=
  let owned := owned.renewed request expires
  let s := (s.note (.applied request expires)).set i owned
  (if request.state = .running then s.expire i owned.generation expires
    else s.stopLocked i owned).emitCurrent i

/-- Why a request is refused. -/
inductive ApplyError where
  | invalid (text : String)
  | drain (err : Option RunError)

/-- Apply a request: renew, stop or start. -/
def apply : Except ApplyError Unit × Service :=
  match s.validate request with
  | .error text => (.error (.invalid text), s)
  | .ok () =>
    let expires := s.now + request.leaseSeconds * second
    match s.owned.get request.tunnelName with
    | some i =>
      match s.handles[i]? with
      | some owned =>
        if isDrain owned.runErr then (.error (.drain owned.runErr), s)
        else (.ok (), s.renew i owned request expires)
      | none => (.ok (), s)
    | none =>
      let s := s.note (.applied request expires)
      if request.state ≠ .running then
        (.ok (), s.emit (stoppedMessage request.tunnelName request.revision))
      else
        (.ok (), s.startLocked request.tunnelName request.revision expires)

/-! ## Runs -/

/-- The steps of a run. -/
inductive RunStep where
  /-- Call the runner. -/
  | begin
  | report (healthy : Bool)
  | return_ (err : Option RunError)
  /-- Look at the error and at the context. -/
  | check
  | fail
  | notify
  /-- The backoff has passed. -/
  | wake
  /-- The context was cancelled during the backoff. -/
  | giveUp
  | resume
  | close

/-- The goroutine of `run`. -/
def run : RunStep → Option Service
  | .begin =>
    if owned.phase = .calling then
      some ((s.set i { owned with phase := .running false }).note (.began owned.tunnelName))
    else none
  | .report healthy =>
    match owned.phase with
    | .running ready =>
      let s := s.note (.reported owned.tunnelName healthy)
      if healthy then
        if ready then some s
        else some (s.setStatus i { owned with phase := .running true } .ready none)
      else some (s.setStatus i owned .starting none)
    | _ => none
  | .return_ err =>
    match owned.phase with
    | .running _ =>
      some ((s.set i { owned with phase := .returned err }).note
        (.returned owned.tunnelName err))
    | _ => none
  | .check =>
    match owned.phase with
    | .returned err =>
      if !isDrain err && owned.cancelled then some (s.set i { owned with phase := .closing })
      else some (s.set i { owned with phase := .failing err })
    | _ => none
  | .fail =>
    match owned.phase with
    | .failing err =>
      let phase := if isDrain err then .notifying err else .backoff
      some (s.setStatus i { owned with phase := phase } .failed err)
    | _ => none
  | .notify =>
    match owned.phase with
    | .notifying err =>
      some { s.set i { owned with phase := .closing } with failures := s.failures.or err }
    | _ => none
  | .wake =>
    if owned.phase = .backoff then
      let phase := if s.owned.get owned.tunnelName = some i then .resumed else .closing
      some (s.set i { owned with phase := phase })
    else none
  | .giveUp =>
    if owned.phase = .backoff ∧ owned.cancelled = true then
      some (s.set i { owned with phase := .closing })
    else none
  | .resume =>
    if owned.phase = .resumed then
      some (s.setStatus i { owned with phase := .calling } .starting none)
    else none
  | .close =>
    if owned.phase = .closing then some (s.set i { owned with phase := .done }) else none

/-! ## Timers, stops and shutdown -/

/-- A timer fires. It stops its run unless that was renewed since. -/
def fire (timer : Timer) : Service :=
  match s.handles[timer.handle]? with
  | some owned =>
    if s.owned.get owned.tunnelName = some timer.handle ∧ owned.generation = timer.generation then
      s.stopLocked timer.handle { owned with wantRun := false }
    else s
  | none => s

/-- Acknowledge the end of a run, or start the latest replacement that still has a lease. -/
def finishStop : Service :=
  if s.owned.get owned.tunnelName ≠ some i || isDrain owned.runErr then s
  else
    let s := { s with owned := s.owned.erase owned.tunnelName }
    if owned.wantRun && s.now < owned.expires then
      s.startLocked owned.tunnelName owned.revision owned.expires
    else s.emit (stoppedMessage owned.tunnelName owned.revision)

/-- Stop one tunnel when the process ends. -/
def shutdown (tunnelName : TunnelName) : Service :=
  match s.owned.get tunnelName with
  | some i =>
    match s.handles[i]? with
    | some owned => s.stopLocked i { owned with wantRun := false }
    | none => s
  | none => s

/-- Stop all tunnels, in the order of an iteration over the map. -/
def stopAll (order : List TunnelName) : Service :=
  order.foldl shutdown s

end Service

/-! ## The machine -/

/-- The steps of requests, runs, timers and stops. -/
inductive Label where
  | tick (elapsed : Time)
  | apply (request : TunnelDesiredState)
  | run (i : Nat) (step : Service.RunStep)
  | fire (k : Nat)
  | finishStop (k : Nat)
  | stopAll (order : List TunnelName)
  /-- The session takes a status or a failure from its channel. -/
  | takeUpdate
  | takeFailure

/-- One step. -/
def step (s : Service) : Label → Option Service
  | .tick elapsed =>
    if s.timers.all fun timer => s.now + elapsed ≤ timer.due then
      some { s with now := s.now + elapsed }
    else none
  | .apply request => some (s.apply request).2
  | .run i step => (s.handles[i]?).bind fun owned => s.run i owned step
  | .fire k =>
    (s.timers[k]?).bind fun timer =>
      if timer.due ≤ s.now then some ({ s with timers := s.timers.eraseIdx k }.fire timer)
      else none
  | .finishStop k =>
    (s.finishers[k]?).bind fun i =>
      (s.handles[i]?).bind fun owned =>
        if owned.phase = .done then
          some ({ s with finishers := s.finishers.eraseIdx k }.finishStop i owned)
        else none
  | .stopAll order =>
    if order.isPerm (s.owned.entries.map Prod.fst) then some (s.stopAll order) else none
  | .takeUpdate => if s.updates = [] then none else some { s with updates := s.updates.tail }
  | .takeFailure => if s.failures = none then none else some { s with failures := none }

/-- Runs of the supervisor. -/
def supervisor (allowed : List TunnelName) : Machine Service Label where
  start := { allowed }
  step := step

end Nstance.Tunnel
