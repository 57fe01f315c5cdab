/-! # Phases of an idler

An idler runs through its phases round by round.  A phase that refuses a transition keeps the idler
where it is.
-/

namespace MailReplica.Idle

inductive Phase where
  | notStarted
  | capabilityCheck
  | sendingIdle
  | awaitingContinuation
  | inIdle
  | sendingDone
  | stopped
  | notSupported
  deriving DecidableEq

namespace Phase

def named : List (String × Phase) :=
  [("NotStarted", notStarted), ("CapabilityCheck", capabilityCheck), ("SendingIdle", sendingIdle),
    ("AwaitingContinuation", awaitingContinuation), ("InIdle", inIdle),
    ("SendingDone", sendingDone), ("Stopped", stopped), ("NotSupported", notSupported)]

def name : Phase → String
  | notStarted => "NotStarted"
  | capabilityCheck => "CapabilityCheck"
  | sendingIdle => "SendingIdle"
  | awaitingContinuation => "AwaitingContinuation"
  | inIdle => "InIdle"
  | sendingDone => "SendingDone"
  | stopped => "Stopped"
  | notSupported => "NotSupported"

/-- Whether an idler may go from one phase to another.  The server may end a round on its own, so a
round can end without `DONE`; any phase but the two last ones may be stopped. -/
def allows : Phase → Phase → Bool
  | notStarted, capabilityCheck | stopped, capabilityCheck => true
  | capabilityCheck, sendingIdle | capabilityCheck, notSupported => true
  | sendingIdle, awaitingContinuation => true
  | awaitingContinuation, inIdle | awaitingContinuation, sendingDone
  | awaitingContinuation, notSupported => true
  | inIdle, sendingDone => true
  | inIdle, sendingIdle | sendingDone, sendingIdle => true
  | notSupported, _ | stopped, _ => false
  | _, stopped => true
  | _, _ => false

/-- Whether `DONE` may be sent: `IDLE` went out and `DONE` did not. -/
def acceptsDone : Phase → Bool
  | awaitingContinuation | inIdle => true
  | _ => false

end Phase

end MailReplica.Idle
