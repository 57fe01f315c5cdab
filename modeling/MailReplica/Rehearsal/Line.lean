import MailReplica.Idle.Run

/-! # A line that follows a script

A rehearsal of an idler runs on connections that follow a script.  While the idler waits for the
reply to a request, the script may act on the idler.  Everything that happens is traced.
-/

namespace MailReplica.Rehearsal

open Idle

/-- What a script does to the idler from outside. -/
inductive Action where
  | stop
  | refresh
  /-- Traces the phase. -/
  | phase
  /-- Lets the timer that was armed last run, unless it was cancelled. -/
  | fire
  /-- Lets the timer that was armed last run, even if it was cancelled. -/
  | fireStale
  deriving DecidableEq

def Action.name : Action → String
  | stop => "stop"
  | refresh => "refresh"
  | phase => "phase"
  | fire => "fire"
  | fireStale => "fire_stale"

/-- What happens while a response is awaited. -/
inductive ScriptEntry where
  /-- The server sends a line; `$TAG` in it stands for the latest tag. -/
  | line (text : String)
  | act (actions : List Action)
  | disconnect
  | fail (failure : Failure)

structure Script where
  connectionFailure : Option Failure
  openFailure : Option Failure
  capable : Except Failure Bool
  timeoutFailure : Option Failure
  restoreFailure : Option Failure
  /-- The failures of the commands sent, first to last. -/
  sendFailures : List (Option Failure)
  /-- The failures of the other lines sent, first to last. -/
  doneFailures : List (Option Failure)
  onConnection : List Action
  onOpen : List Action
  onCapable : List Action
  /-- What happens when the first timer is started. -/
  onTimerStart : List Action
  /-- What happens when the device may sleep for the first time. -/
  onWakeRelease : List Action
  entries : List ScriptEntry

namespace Script

/-- A connection on which nothing goes wrong and nothing happens. -/
def plain : Script where
  connectionFailure := none
  openFailure := none
  capable := .ok true
  timeoutFailure := none
  restoreFailure := none
  sendFailures := []
  doneFailures := []
  onConnection := []
  onOpen := []
  onCapable := []
  onTimerStart := []
  onWakeRelease := []
  entries := []

/-- A connection to a server that does not let clients wait. -/
def incapable : Script :=
  { plain with capable := .ok false }

/-- A bound on how often something can happen on a connection. -/
def size (script : Script) : Nat :=
  let acts (entry : ScriptEntry) : Nat :=
    match entry with
    | .act actions => actions.length + 1
    | _ => 1
  (script.entries.map acts).foldl (· + ·) 0 + script.onConnection.length + script.onOpen.length +
    script.onCapable.length + script.onTimerStart.length + script.onWakeRelease.length

end Script

structure RehearsedTimer where
  cancelled : Bool
  ran : Bool

structure Bench where
  settings : Settings
  /-- How the next connections behave. -/
  coming : List Script
  /-- What is left of the script of the present connection. -/
  script : Script
  connected : Bool
  tags : Nat
  /-- Whether `DONE` was sent and not answered since the last command. -/
  doneOpen : Bool
  /-- The timers, latest first. -/
  timers : List RehearsedTimer
  /-- What happened, latest first. -/
  trace : List String

namespace Bench

/-- A bench on which nothing has happened. -/
def new (settings : Settings) : Bench :=
  ⟨settings, [], .plain, false, 0, false, [], []⟩

def tag (bench : Bench) : String :=
  "A" ++ Nat.repr bench.tags

def note (text : String) (bench : Bench) : Bench :=
  { bench with trace := text :: bench.trace }

def changeTimer (number : Nat) (change : RehearsedTimer → RehearsedTimer) (bench : Bench) :
    Bench :=
  { bench with timers := bench.timers.modify (bench.timers.length - 1 - number) change }

/-- A failure if there is one, and else a value. -/
def orFailure {α : Type} (value : α) (failure : Option Failure) : Except Failure α :=
  match failure with
  | some failure => .error failure
  | none => .ok value

def answer {α : Type} (call : LineCall α) (bench : Bench) : α × Bench :=
  match call with
  | .isConnected _ => (bench.connected, bench)
  | .sendCommand _ command =>
    let bench := bench.note ("send " ++ command)
    let script := { bench.script with sendFailures := bench.script.sendFailures.drop 1 }
    match (bench.script.sendFailures.head?).join with
    | some failure => (.error failure, { bench with script })
    | none =>
      let bench := { bench with script, tags := bench.tags + 1, doneOpen := false }
      (.ok bench.tag, bench)
  | .sendLine _ text =>
    let bench := bench.note ("send " ++ text)
    let script := { bench.script with doneFailures := bench.script.doneFailures.drop 1 }
    match (bench.script.doneFailures.head?).join with
    | some failure => (.error failure, { bench with script })
    | none => (.ok (), { bench with script, doneOpen := true })
  | .setTimeout _ millis =>
    (orFailure () bench.script.timeoutFailure, bench.note ("timeout " ++ Nat.repr millis))
  | .restoreTimeout _ => (orFailure () bench.script.restoreFailure, bench.note "timeout default")
  | .cancelTimer timer =>
    ((), (bench.changeTimer timer fun timer => { timer with cancelled := true }).note
      ("timer " ++ Nat.repr timer ++ " cancel"))

def line : Line Bench where
  run := answer

end Bench

/-! ## Acting on the idler -/

abbrev Rehearsed := Section Bench

def onBench (apply : Bench → Bench) : Rehearsed Unit :=
  modify fun (idler, bench) => (idler, apply bench)

def trace (text : String) : Rehearsed Unit :=
  onBench (.note text)

def bench : Rehearsed Bench :=
  return (← get).2

/-- Lets the timer that was armed last run, if it did not run yet and `allowed` holds of it. -/
def fireLatest (allowed : RehearsedTimer → Bool) : Rehearsed Unit := do
  match (← bench).timers with
  | latest :: others =>
    if !latest.ran && allowed latest then
      onBench fun bench => { bench with timers := { latest with ran := true } :: others }
      Section.refresh Bench.line
    else trace "nothing to fire"
  | [] => trace "nothing to fire"

def act (action : Action) : Rehearsed Unit := do
  trace ("do " ++ action.name)
  match action with
  | .stop => Section.stop Bench.line
  | .refresh => Section.refresh Bench.line
  | .phase => trace ("phase " ++ (← Section.idler).phase.name)
  | .fire => fireLatest fun timer => !timer.cancelled
  | .fireStale => fireLatest fun _ => true

def actAll (actions : List Action) : Rehearsed Unit :=
  actions.forM act

/-! ## Answering requests -/

/-- A line of the server with the latest tag put in. -/
def filled (text tag : String) : String :=
  text.replace "$TAG" tag

/-- Follows the script up to the end of a read. -/
def readEntries : List ScriptEntry → Rehearsed (List ScriptEntry × Except Failure Wire.Response)
  | [] => do
    let found ← bench
    if found.doneOpen then
      onBench fun bench => { bench with doneOpen := false }
      return ([], Wire.Response.ofLine (found.tag ++ " OK IDLE terminated"))
    else return ([], .error (.io "script exhausted"))
  | .line text :: rest => return (rest, Wire.Response.ofLine (filled text (← bench).tag))
  | .fail failure :: rest => return (rest, .error failure)
  | .disconnect :: rest => do
    onBench fun bench => { bench with connected := false }
    readEntries rest
  | .act actions :: rest => do
    actAll actions
    readEntries rest

def handOut : Rehearsed Unit :=
  onBench fun bench =>
    { bench with
      coming := bench.coming.drop 1
      script := bench.coming.head?.getD .incapable
      connected := false
      tags := 0
      doneOpen := false }

def reply : Request → Rehearsed Reply
  | .connect folder => do
    trace ("connection " ++ folder)
    handOut
    let script := (← bench).script
    actAll script.onConnection
    return .connected (Bench.orFailure 0 script.connectionFailure)
  | .openFolder _ => do
    trace "open ReadOnly"
    let script := (← bench).script
    actAll script.onOpen
    if script.openFailure.isNone then
      onBench fun bench => { bench with connected := true }
    return .opened (Bench.orFailure () script.openFailure)
  | .checkCapability _ => do
    trace "capable?"
    let script := (← bench).script
    actAll script.onCapable
    return .capable script.capable
  | .startTimer millis => do
    let number := (← bench).timers.length
    trace ("timer " ++ Nat.repr number ++ " start " ++ Nat.repr millis)
    let actions := (← bench).script.onTimerStart
    onBench fun bench =>
      { bench with
        timers := ⟨false, false⟩ :: bench.timers
        script := { bench.script with onTimerStart := [] } }
    actAll actions
    return .timer number
  | .releaseWake => do
    trace "wake release"
    let actions := (← bench).script.onWakeRelease
    onBench fun bench => { bench with script := { bench.script with onWakeRelease := [] } }
    actAll actions
    return .done
  | .read _ => do
    trace ("read " ++ (← Section.idler).phase.name)
    let (rest, response) ← readEntries (← bench).script.entries
    onBench fun bench => { bench with script := { bench.script with entries := rest } }
    return .response response
  | .acquireWake => do
    trace "wake acquire"
    return .done
  | .close _ => do
    trace "close"
    onBench fun bench => { bench with connected := false }
    return .done

/-! ## Runs -/

/-- Runs from a point to the end of the run, in at most `fuel` steps. -/
def runFrom : Nat → Point → Rehearsed Ending
  | 0, _ => return .error (.io "script exhausted")
  | fuel + 1, point => do
    match point with
    | .ended ending => return ending
    | _ =>
      match point.request? (← bench).settings with
      | some request => runFrom fuel (point.resume (← reply request))
      | none => runFrom fuel (← Section.work Bench.line (← bench).settings point)

/-- Runs the idler.  Each read takes an entry of the script or answers a `DONE`, which somebody sent
on an entry or an action, so the script bounds the number of steps. -/
def run : Rehearsed Ending := do
  let script := (← bench).coming.head?.getD .incapable
  runFrom (32 * (script.size + 4)) (← Section.enter)

/-- Runs the idler on a connection with a script. -/
def runOn (script : Script) : Rehearsed Ending := do
  onBench fun bench => { bench with coming := [script] }
  run

end MailReplica.Rehearsal
