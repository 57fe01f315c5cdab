import MailReplica.Idle.Idler
import MailReplica.Push.Backoff

/-! # The pusher of a folder

A pusher runs the idler of a folder again and again and tells what the runs come to.  After a
failure it waits, longer after each failure in a row.  A stop signal ends it at the next point where
it looks at the signal.
-/

namespace MailReplica.Push

inductive Event where
  /-- The folder changed on the server. -/
  | changed
  | failed (failure : Failure)
  | notSupported
  deriving DecidableEq

inductive Point where
  /-- It looks at the stop signal before a run. -/
  | looking
  /-- A run goes on. -/
  | running
  /-- It looks at the stop signal after a run that met a change. -/
  | met
  /-- It looks at the stop signal after a run that failed. -/
  | failing (failure : Failure)
  | telling (event : Event)
  /-- It waits until so many milliseconds are over or the stop signal is given. -/
  | waiting (millis : Nat)
  | ended
  deriving DecidableEq

structure Pusher where
  point : Point
  backoff : Backoff
  deriving DecidableEq

namespace Pusher

def new (backoff : Backoff) : Pusher :=
  ⟨.looking, backoff⟩

/-- Looks at the stop signal where it has to. -/
def look (pusher : Pusher) (stopped : Bool) : Pusher :=
  match pusher.point with
  | .looking => { pusher with point := if stopped then .ended else .running }
  | .met => { pusher with point := if stopped then .looking else .telling .changed }
  | .failing failure =>
    { pusher with point := if stopped then .ended else .telling (.failed failure) }
  | _ => pusher

def take (pusher : Pusher) (ending : Except Failure Idle.Outcome) : Pusher :=
  match pusher.point, ending with
  | .running, .ok .sync => ⟨.met, pusher.backoff.reset⟩
  | .running, .ok .stopped => { pusher with point := .ended }
  | .running, .ok .notSupported => { pusher with point := .telling .notSupported }
  | .running, .error failure => { pusher with point := .failing failure }
  | _, _ => pusher

/-- Goes on after an event has been told. -/
def told (pusher : Pusher) : Pusher :=
  match pusher.point with
  | .telling .changed => { pusher with point := .looking }
  | .telling (.failed _) =>
    let (delay, backoff) := pusher.backoff.next
    ⟨.waiting delay, backoff⟩
  | .telling .notSupported => { pusher with point := .ended }
  | _ => pusher

/-- Goes on after a wait, which the stop signal may have cut short. -/
def wake (pusher : Pusher) (stopped : Bool) : Pusher :=
  match pusher.point with
  | .waiting _ => { pusher with point := if stopped then .ended else .looking }
  | _ => pusher

end Pusher

end MailReplica.Push
