import MailReplica.Idle.Idler
import MailReplica.Wire.Response

/-! # A run of an idler

A run opens the folder on a connection of its own and waits there round by round.  It goes from
point to point: at some points it works in a section, at the others it makes a request and goes on
with the reply, while others may act on the idler.
-/

namespace MailReplica.Idle

structure Settings where
  folder : String
  /-- After how many milliseconds a round is renewed. -/
  refreshMillis : Nat
  deriving DecidableEq

/-- By how many milliseconds a read in a round may outlast the renewal. -/
def graceMillis : Nat := 120000

structure Round where
  connection : ConnectionId
  /-- The tag of the command that began the round. -/
  tag : String
  /-- Whether the server agreed to let the client wait. -/
  granted : Bool
  deriving DecidableEq

abbrev Ending := Except Failure Outcome

inductive Point where
  /-- It asks for a connection. -/
  | connecting
  /-- It takes note of its connection. -/
  | connected (connection : ConnectionId)
  | opening (connection : ConnectionId)
  /-- It asks whether the server lets clients wait. -/
  | checking (connection : ConnectionId)
  /-- It takes note that the server does not. -/
  | refused
  /-- It begins a round unless a stop is due. -/
  | starting (connection : ConnectionId)
  /-- It finds out whether the next read needs a timer. -/
  | preparing (round : Round)
  | arming (round : Round)
  /-- It takes note of its timer. -/
  | armed (round : Round) (timer : TimerId)
  /-- It lets the device sleep. -/
  | releasing (round : Round)
  | reading (round : Round)
  /-- It keeps the device awake again. -/
  | acquiring (round : Round) (response : Except Failure Wire.Response)
  | disarming (round : Round) (response : Except Failure Wire.Response)
  | handling (round : Round) (response : Wire.Response)
  /-- It finds out whether a round follows the one that ended. -/
  | deciding (connection : ConnectionId)
  /-- It finds out what a stop makes of it. -/
  | concluding
  | finishing (ending : Ending)
  | closing (connection : ConnectionId) (ending : Ending)
  | ended (ending : Ending)

/-! ## Requests -/

/-- What a run asks for while others may act on the idler. -/
inductive Request where
  | connect (folder : String)
  | openFolder (connection : ConnectionId)
  | checkCapability (connection : ConnectionId)
  | startTimer (millis : Nat)
  | releaseWake
  | read (connection : ConnectionId)
  | acquireWake
  | close (connection : ConnectionId)
  deriving DecidableEq

inductive Reply where
  | connected (result : Except Failure ConnectionId)
  | opened (result : Except Failure Unit)
  | capable (result : Except Failure Bool)
  | timer (timer : TimerId)
  | done
  | response (result : Except Failure Wire.Response)

namespace Point

/-- What a run asks for, if it stands at a request. -/
def request? (settings : Settings) : Point → Option Request
  | connecting => some (.connect settings.folder)
  | opening connection => some (.openFolder connection)
  | checking connection => some (.checkCapability connection)
  | arming _ => some (.startTimer settings.refreshMillis)
  | releasing _ => some .releaseWake
  | reading round => some (.read round.connection)
  | acquiring _ _ => some .acquireWake
  | closing connection _ => some (.close connection)
  | _ => none

/-- Where a run goes on after the reply to its request. -/
def resume : Point → Reply → Point
  | connecting, .connected (.ok connection) => connected connection
  | connecting, .connected (.error failure) => finishing (.error failure)
  | opening connection, .opened (.ok ()) => checking connection
  | opening _, .opened (.error failure) => finishing (.error failure)
  | checking connection, .capable (.ok true) => starting connection
  | checking _, .capable (.ok false) => refused
  | checking _, .capable (.error failure) => finishing (.error failure)
  | arming round, .timer timer => armed round timer
  | releasing round, .done => reading round
  | reading round, .response response =>
    match round.granted, response with
    | true, response => acquiring round response
    | false, .ok response => handling round response
    | false, .error failure => finishing (.error failure)
  | acquiring round response, .done => disarming round response
  | closing _ ending, .done => ended ending
  | point, _ => point

/-- The point at which a round is read on. -/
def next (round : Round) : Point :=
  if round.granted then preparing round else reading round

end Point

/-! ## Sections of a run -/

namespace Section

variable {ε : Type}

/-- Begins a run.  An idler that runs already, or that is not supported, refuses. -/
def enter : Section ε Point := do
  match ← move .capabilityCheck with
  | .error failure => return .ended (.error failure)
  | .ok () =>
    change fun idler => { idler with outcome := .stopped }
    return .connecting

/-- Begins a round unless a stop is due. -/
def startRound (line : Line ε) (connection : ConnectionId) : Section ε Point := do
  if (← idler).stopRequested then return .concluding
  match ← move .sendingIdle with
  | .error failure => return .finishing (.error failure)
  | .ok () =>
    match ← call line (.sendCommand connection "IDLE") with
    | .error failure => return .finishing (.error failure)
    | .ok tag =>
      match ← move .awaitingContinuation with
      | .error failure => return .finishing (.error failure)
      | .ok () => return .reading ⟨connection, tag, false⟩

def handleGrant (line : Line ε) (settings : Settings) (round : Round) : Section ε Point := do
  let granted := { round with granted := true }
  if (← idler).phase = .awaitingContinuation then
    match ← move .inIdle with
    | .error failure => return .finishing (.error failure)
    | .ok () =>
      let timeout := settings.refreshMillis + graceMillis
      match ← call line (.setTimeout round.connection timeout) with
      | .error failure => return .finishing (.error failure)
      | .ok () => return .next granted
  else return .next granted

/-- Handles the completion of the command that began the round. -/
def handleCompletion (round : Round) (response : Wire.Response) : Section ε Point := do
  if (← idler).phase = .awaitingContinuation then
    match ← move .notSupported with
    | .error failure => return .finishing (.error failure)
    | .ok () => return .finishing (.ok .notSupported)
  else if response.isSuccess then return .deciding round.connection
  else
    return .finishing
      (.error (.protocol ("Received non-OK response to IDLE command: " ++ response.line)))

/-- Handles any other response.  The first change that the server reports ends the run, at once if
the server has not agreed to let the client wait. -/
def handleOther (line : Line ε) (round : Round) (response : Wire.Response) :
    Section ε Point := do
  if response.isChange && !(← idler).stopRequested then
    change fun idler => { idler with stopRequested := true, outcome := .sync }
    sendDone line
    if round.granted then return .next round else return .finishing (.ok .sync)
  else return .next round

def handle (line : Line ε) (settings : Settings) (round : Round) (response : Wire.Response) :
    Section ε Point :=
  if response.isContinuation then handleGrant line settings round
  else if response.completes round.tag then handleCompletion round response
  else handleOther line round response

/-- Leaves the idler as the run ends with `ending`: ready for the next run, unless waiting is not
supported. -/
def finish (line : Line ε) (ending : Ending) : Section ε Point := do
  cancelTimer line
  change fun idler => { idler with stopRequested := false }
  match ending with
  | .ok .notSupported => pure ()
  | _ =>
    let _ ← move .stopped
  match (← idler).connection with
  | none => return .ended ending
  | some connection =>
    change fun idler => { idler with connection := none }
    return .closing connection ending

/-- The section at a point; a point at a request has none. -/
def work (line : Line ε) (settings : Settings) : Point → Section ε Point
  | .connected connection => do
    change fun idler => { idler with connection := some connection }
    return .opening connection
  | .refused => do
    match ← move .notSupported with
    | .error failure => return .finishing (.error failure)
    | .ok () => return .finishing (.ok .notSupported)
  | .starting connection => startRound line connection
  | .preparing round => do
    if (← idler).phase = .inIdle then return .arming round else return .releasing round
  | .armed round timer => do
    change fun idler => { idler with timer := some timer }
    return .releasing round
  | .disarming round response => do
    cancelTimer line
    match response with
    | .ok response => return .handling round response
    | .error failure => return .finishing (.error failure)
  | .handling round response => handle line settings round response
  | .deciding connection => do
    if (← idler).stopRequested then return .concluding else return .starting connection
  | .concluding => return .finishing (.ok (← idler).outcome)
  | .finishing ending => finish line ending
  | point => return point

end Section

end MailReplica.Idle
