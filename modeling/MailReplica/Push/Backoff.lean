/-! # Backoff

The delay after a failure doubles with each failure in a row, up to a limit.
-/

namespace MailReplica.Push

structure Backoff where
  initial : Nat
  limit : Nat
  current : Nat
  deriving DecidableEq

namespace Backoff

def starting (initial limit : Nat) : Backoff :=
  ⟨initial, limit, initial⟩

/-- Delays from five seconds up to five minutes. -/
def usual : Backoff :=
  starting 5000 300000

/-- The delay to wait now, and the delays after it. -/
def next (backoff : Backoff) : Nat × Backoff :=
  (backoff.current, { backoff with current := min (backoff.current * 2) backoff.limit })

def reset (backoff : Backoff) : Backoff :=
  { backoff with current := backoff.initial }

end Backoff

end MailReplica.Push
