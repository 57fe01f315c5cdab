import MailReplica.Idle.Run
import MailReplica.Remote.Connection

/-! # Waiting on a connection

An idler's line leads to a connection: its requests open the folder and read responses there, and
its sections send lines there.  A timer never runs out while a response can be read.
-/

namespace MailReplica.Remote

open Idle

variable {ε : Type}

def answerLine {α : Type} (network : Network ε) (call : LineCall α) (state : Connection × ε) :
    α × Connection × ε :=
  match call with
  | .isConnected _ => (state.1.isOpen, state)
  | .sendCommand _ command => (Dialogue.sendCommand network command).run state
  | .sendLine _ text => (Dialogue.sendLine network text).run state
  | .setTimeout _ millis => (Dialogue.setTimeout millis : Dialogue ε Unit).run state
  | .restoreTimeout _ => (Dialogue.setTimeout usualTimeout : Dialogue ε Unit).run state
  | .cancelTimer _ => ((), state)

/-- The line of an idler over a network. -/
def line (network : Network ε) : Line (Connection × ε) where
  run := answerLine network

/-- Answers a request.  Each run gets a connection of its own. -/
def answerRequest (network : Network ε) (request : Request) (state : Connection × ε) :
    Reply × Connection × ε :=
  match request with
  | .connect folder => (.connected (.ok 0), Connection.new state.1.settings folder, state.2)
  | .openFolder _ =>
    let (result, state) := (Dialogue.openFolder network .readOnly).run state
    (.opened result, state)
  | .checkCapability _ =>
    let (result, state) := (Dialogue.isCapable network).run state
    (.capable result, state)
  | .startTimer _ => (.timer 0, state)
  | .releaseWake | .acquireWake => (.done, state)
  | .read _ =>
    let (result, state) := (Dialogue.read : Dialogue ε Wire.Response).run state
    (.response result, state)
  | .close _ =>
    let (_, state) := (Dialogue.close network).run state
    (.done, state)

/-- Runs an idler from a point, in at most `fuel` steps. -/
def waitFrom (network : Network ε) (settings : Settings) :
    Nat → Point → Section (Connection × ε) (Option Ending)
  | 0, _ => return none
  | fuel + 1, point => do
    match point with
    | .ended ending => return some ending
    | _ =>
      match point.request? settings with
      | some request =>
        let (idler, state) ← get
        let (reply, state) := answerRequest network request state
        set (idler, state)
        waitFrom network settings fuel (point.resume reply)
      | none => waitFrom network settings fuel (← Section.work (line network) settings point)

/-- Runs an idler once, in at most `fuel` steps. -/
def wait (network : Network ε) (settings : Settings) (fuel : Nat) :
    Section (Connection × ε) (Option Ending) := do
  waitFrom network settings fuel (← Section.enter)

end MailReplica.Remote
