import MailReplica.Failure

/-! # Events of a pass

A pass tells what it does as it goes on.  The first event is its start and the last one its end.
-/

namespace MailReplica.Reconcile

inductive Event where
  | started (folder : String)
  | authenticated
  /-- A message is new here; `old` tells that an earlier pass should have met it. -/
  | newMessage (folder id : String) (old : Bool)
  | flagsUpdated (folder id : String)
  | removed (folder id : String)
  /-- The pass failed; `message` names the step and the failure. -/
  | failed (folder message : String) (failure : Failure)
  | finished (folder : String)
  deriving DecidableEq

/-- How much a line of a log matters. -/
inductive LogLevel where
  | error
  | info
  | debug
  deriving DecidableEq

def LogLevel.name : LogLevel → String
  | error => "ERROR"
  | info => "INFO"
  | debug => "DEBUG"

namespace Event

/-- The level at which an event is logged. -/
def level : Event → LogLevel
  | failed _ _ _ => .error
  | authenticated | flagsUpdated _ _ => .debug
  | _ => .info

/-- What a log says of an event of a pass for `account`. -/
def logText (account : String) (event : Event) : String :=
  "[" ++ account ++ "] " ++
    match event with
    | started folder => "Sync of " ++ folder ++ " started"
    | authenticated => "Authenticated"
    | newMessage folder id true => folder ++ ": downloaded previously missed message " ++ id
    | newMessage folder id false => folder ++ ": new message " ++ id
    | flagsUpdated folder id => folder ++ ": flags of " ++ id ++ " changed"
    | removed folder id => folder ++ ": message " ++ id ++ " removed"
    | failed folder message failure =>
      "Sync of " ++ folder ++ " failed: " ++ message ++ " (" ++ failure.text ++ ")"
    | finished folder => "Sync of " ++ folder ++ " finished"

/-- An event as a line of a log. -/
def logLine (account : String) (event : Event) : String :=
  event.level.name ++ " " ++ event.logText account

end Event

end MailReplica.Reconcile
