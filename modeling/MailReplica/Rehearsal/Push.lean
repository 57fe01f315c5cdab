import MailReplica.Push.Pusher
import MailReplica.Rehearsal.Line

/-! # A rehearsal of a pusher

A pusher runs on connections that follow scripts.  What it tells is traced, and its waits are over
at once.
-/

namespace MailReplica.Rehearsal

open Push Idle

/-- What an event of the pusher of a folder looks like in a trace. -/
def eventText (folder : String) : Event → String
  | .changed => "event sync " ++ folder
  | .failed failure => "event error " ++ folder ++ " " ++ failure.text
  | .notSupported => "event not supported " ++ folder

/-- Lets a pusher go on to its end, in at most `fuel` steps. -/
def push (stopped : Bool) : Nat → Pusher → Rehearsed Unit
  | 0, _ => pure ()
  | fuel + 1, pusher => do
    match pusher.point with
    | .ended => pure ()
    | .running => push stopped fuel (pusher.take (← run))
    | .telling event =>
      trace (eventText (← bench).settings.folder event)
      push stopped fuel pusher.told
    | .waiting _ => push stopped fuel (pusher.wake stopped)
    | .looking | .met | .failing _ => push stopped fuel (pusher.look stopped)

/-- Runs a pusher to its end, which comes on the first connection without a script if not before;
then asks for a fresh round and stops it. -/
def rehearsePush (stopFirst : Bool) : Rehearsed Unit := do
  if stopFirst then Section.stop Bench.line
  push stopFirst (8 * ((← bench).coming.length + 2)) (.new (.starting 1 2))
  Section.refresh Bench.line
  Section.stop Bench.line
  Section.stop Bench.line

end MailReplica.Rehearsal
