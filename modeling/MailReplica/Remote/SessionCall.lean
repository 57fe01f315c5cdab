import MailReplica.Configuration.Account
import MailReplica.Failure
import MailReplica.Message

/-! # Calls in a session

After it has logged in, a client works with a mail server in a session: it opens a folder, asks for
listings and for messages, and takes its leave.
-/

namespace MailReplica.Remote

/-- What the server tells when a folder is opened. -/
structure Selected where
  /-- How many messages there are. -/
  count : UInt32
  /-- The number of the present numbering of messages, if the server told one. -/
  validity : Option UInt32
  deriving DecidableEq

/-- What the server tells about a message.  Every part may be missing. -/
structure Fetched where
  uid : Option UInt32
  /-- The flags, as the server writes them. -/
  flags : List String
  /-- When the server received the message. -/
  date : Option DatedInstant
  size : Option UInt32
  /-- The whole message. -/
  message : Option Octets
  header : Option Octets
  deriving DecidableEq

inductive SessionCall : Type → Type where
  /-- Opens a folder. -/
  | select (mode : OpenMode) (folder : String) : SessionCall Selected
  /-- Asks for items of the messages with some numbers. -/
  | fetch (numbers items : String) : SessionCall (List Fetched)
  /-- Asks for items of the messages with some UIDs. -/
  | fetchByUid (uids items : String) : SessionCall (List Fetched)
  /-- Asks for the UIDs of the messages that `key` finds. -/
  | search (key : String) : SessionCall (Std.ExtTreeSet UInt32)
  /-- Asks for the names of the folders. -/
  | folders (pattern : String) : SessionCall (List String)
  /-- Removes the messages that are marked for removal. -/
  | expunge : SessionCall Unit
  | logOut : SessionCall Unit

/-- A way to answer the calls of a session from a state of type `ε`. -/
structure MailServer (ε : Type) where
  /-- Begins a session. -/
  logIn : ServerSettings → ε → Except Failure Unit × ε
  run : {α : Type} → SessionCall α → ε → Except SessionFailure α × ε

namespace Fetched

/-- The message as a listing shows it, if its UID is known. -/
def listed? (fetched : Fetched) : Option Listed :=
  fetched.uid.map fun uid =>
    ⟨uid, Std.ExtTreeSet.ofList (fetched.flags.filterMap Flag.ofAtom?), fetched.date, fetched.size⟩

/-- The octets of the message that the server told. -/
def octets (fetched : Fetched) : FetchExtent → Option Octets
  | .full => fetched.message
  | .header => fetched.header

/-- Which of the messages that the server told about is the one with the UID `uid`: the first that
says so, and else the first. -/
def choose (uid : UInt32) (told : List Fetched) : Option Fetched :=
  (told.find? fun fetched => fetched.uid == some uid).or told.head?

end Fetched

end MailReplica.Remote
