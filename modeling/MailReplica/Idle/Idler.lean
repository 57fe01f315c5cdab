import MailReplica.Failure
import MailReplica.Idle.Phase

/-! # The idler of a folder

An idler keeps one folder waiting for changes.  One side runs the rounds of waiting; others may stop
the idler or ask for a fresh round at any time.  All of them work on the idler in sections: pieces
of work that nobody else's work comes between.  A section can make calls on the line to the server.
-/

namespace MailReplica.Idle

abbrev ConnectionId := Nat

abbrev TimerId := Nat

/-- What a run of an idler came to. -/
inductive Outcome where
  /-- The server reported a change. -/
  | sync
  | stopped
  /-- The server does not let clients wait. -/
  | notSupported
  deriving DecidableEq

def Outcome.name : Outcome → String
  | sync => "Sync"
  | stopped => "Stopped"
  | notSupported => "NotSupported"

/-- What everybody who works on an idler shares. -/
structure Idler where
  phase : Phase
  stopRequested : Bool
  /-- What the run comes to if it is ended by a stop. -/
  outcome : Outcome
  /-- The timer that will end the round. -/
  timer : Option TimerId
  connection : Option ConnectionId
  deriving DecidableEq

namespace Idler

def new : Idler :=
  ⟨.notStarted, false, .stopped, none, none⟩

/-- The idler in another phase, if it may go there. -/
def move (idler : Idler) (next : Phase) : Except Failure Idler :=
  if idler.phase.allows next then .ok { idler with phase := next }
  else
    .error (.invalidState
      ("illegal IDLE transition " ++ idler.phase.name ++ " -> " ++ next.name))

end Idler

/-! ## Sections -/

/-- A call on the line that is made within a section. -/
inductive LineCall : Type → Type where
  | isConnected (connection : ConnectionId) : LineCall Bool
  /-- Sends a command; the result is its tag. -/
  | sendCommand (connection : ConnectionId) (command : String) : LineCall (Except Failure String)
  /-- Sends a line that is no command. -/
  | sendLine (connection : ConnectionId) (text : String) : LineCall (Except Failure Unit)
  /-- Sets how long a read may take. -/
  | setTimeout (connection : ConnectionId) (millis : Nat) : LineCall (Except Failure Unit)
  /-- Sets how long a read may take to what it was at first. -/
  | restoreTimeout (connection : ConnectionId) : LineCall (Except Failure Unit)
  | cancelTimer (timer : TimerId) : LineCall Unit

/-- A way to answer calls on the line from a state of type `ε`. -/
structure Line (ε : Type) where
  run : {α : Type} → LineCall α → ε → α × ε

/-- Work on an idler and on the line that nobody else's work comes between. -/
abbrev Section (ε : Type) := StateM (Idler × ε)

namespace Section

variable {ε α : Type}

def idler : Section ε Idler :=
  return (← get).1

def put (idler : Idler) : Section ε Unit :=
  modify fun (_, line) => (idler, line)

def change (apply : Idler → Idler) : Section ε Unit :=
  modify fun (idler, line) => (apply idler, line)

def call (line : Line ε) (request : LineCall α) : Section ε α := fun (idler, state) =>
  let (answer, state) := line.run request state
  (answer, idler, state)

/-- Moves the idler to another phase, if it may go there. -/
def move (next : Phase) : Section ε (Except Failure Unit) := do
  match (← idler).move next with
  | .ok moved =>
    put moved
    return .ok ()
  | .error failure => return .error failure

/-- Cancels the timer, if there is one. -/
def cancelTimer (line : Line ε) : Section ε Unit := do
  match (← idler).timer with
  | none => pure ()
  | some timer =>
    change fun idler => { idler with timer := none }
    call line (.cancelTimer timer)

/-- Ends the round by sending `DONE`, at most once in a round.  A failure to send is left to the
side that waits: its next read meets the broken connection. -/
def sendDone (line : Line ε) : Section ε Unit := do
  let found ← idler
  match found.phase.acceptsDone, found.connection with
  | true, some connection =>
    if ← call line (.isConnected connection) then
      cancelTimer line
      match ← move .sendingDone with
      | .error _ => pure ()
      | .ok () =>
        let _ ← call line (.restoreTimeout connection)
        let _ ← call line (.sendLine connection "DONE")
  | _, _ => pure ()

/-- Stops the idler: the run that goes on ends after its round, and if none goes on, the next one
ends before its first round. -/
def stop (line : Line ε) : Section ε Unit := do
  change fun idler => { idler with stopRequested := true }
  sendDone line

/-- Ends the round, so that a fresh one begins.  A timer does the same when its time has come. -/
def refresh (line : Line ε) : Section ε Unit :=
  sendDone line

end Section

end MailReplica.Idle
