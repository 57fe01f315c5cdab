import MailReplica.Failure
import MailReplica.Message

/-! # Calls on a mail server

A pass works with one folder of a mail server.  It gets hold of the folder, opens it, and asks for
listings and messages until it lets the folder go.
-/

namespace MailReplica.Reconcile

inductive ServerCall : Type → Type where
  /-- Gets hold of a folder, which is not open yet. -/
  | folder (id : String) : ServerCall Unit
  | openFolder (mode : OpenMode) : ServerCall Unit
  /-- How many messages there were when the folder was opened. -/
  | count : ServerCall Int
  /-- Lists the messages with the numbers from `first` to `last`; with a cutoff only those that the
  server received on its day or later. -/
  | list (first last : UInt32) (cutoff : Option DatedInstant) : ServerCall (List Listed)
  | fetch (uid : UInt32) (extent : FetchExtent) : ServerCall Octets
  /-- Removes the messages that are marked for removal. -/
  | expunge : ServerCall Unit

/-- A way to answer calls from a state of type `ρ`. -/
structure Server (ρ : Type) where
  run : {α : Type} → ServerCall α → ρ → Except Failure α × ρ
  /-- The number of the present numbering of messages, if the server told one. -/
  validity : ρ → Option UInt64
  /-- Lets the folder go. -/
  close : ρ → ρ

end MailReplica.Reconcile
