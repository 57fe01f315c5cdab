/-! # The listing window

Messages are numbered from 1 in the order they arrived, so the latest ones are those with the
highest numbers.
-/

namespace MailReplica.Reconcile

/-- The numbers of the latest `limit` of `count` messages, first and last; a limit of 0 stands for
all messages, and no messages have no window. -/
def window (count limit : UInt32) : Option (UInt32 × UInt32) :=
  if count = 0 then none
  else if limit = 0 ∨ count ≤ limit then some (1, count)
  else some (count - limit + 1, count)

end MailReplica.Reconcile
