import MailReplica.Reconcile.Server
import Std.Data.ExtTreeMap

/-! # A mailbox that fails on command

A rehearsal of passes runs on a mailbox in memory, the same for every folder.  It keeps a log of the
calls made on it.  Faults name the calls that fail; a failing call is logged and does nothing else.
-/

namespace MailReplica.Rehearsal

open Reconcile

inductive MailboxCall where
  | folder (id : String)
  | openFolder (mode : OpenMode)
  | list (first last : UInt32) (cutoff : Option DatedInstant)
  | fetch (uid : UInt32) (extent : FetchExtent)
  | expunge
  | close

structure MailboxMessage where
  listed : Listed
  raw : Octets

structure Mailbox where
  messages : Std.ExtTreeMap UInt32 MailboxMessage
  /-- The number of messages to tell, if not the true one. -/
  count : Option Int
  validity : Option UInt64
  /-- The listing to give, if not the true one. -/
  listing : Option (List Listed)
  /-- Failing calls, by name or by name and subject. -/
  faults : List (String × Failure)
  /-- The folder that was got hold of last. -/
  folder : String
  /-- The calls, latest first. -/
  log : List MailboxCall

namespace Mailbox

def empty : Mailbox :=
  ⟨∅, none, none, none, [], "", []⟩

/-! ## Changes -/

/-- Puts a message into the mailbox, in place of one with the same UID. -/
def put (mailbox : Mailbox) (message : MailboxMessage) : Mailbox :=
  { mailbox with messages := mailbox.messages.insert message.listed.uid message }

/-- Takes a message out of the mailbox. -/
def delete (mailbox : Mailbox) (uid : UInt32) : Mailbox :=
  { mailbox with messages := mailbox.messages.erase uid }

def setFlags (mailbox : Mailbox) (uid : UInt32) (flags : FlagSet) : Mailbox :=
  { mailbox with
    messages := mailbox.messages.modify uid fun message =>
      { message with listed := { message.listed with flags } } }

/-! ## Answers -/

/-- Whether a message was received on the day of the cutoff or later, or at an unknown time.  Each
day is counted on the clock of its own date. -/
def isSince (cutoff : Option DatedInstant) (listed : Listed) : Bool :=
  match cutoff, listed.date with
  | some cutoff, some date => cutoff.day ≤ date.day
  | _, _ => true

/-- The messages with the numbers from `first` to `last`, since the day of the cutoff. -/
def list (mailbox : Mailbox) (first last : UInt32) (cutoff : Option DatedInstant) :
    List Listed :=
  match mailbox.listing with
  | some listing => listing
  | none =>
    let numbered := (mailbox.messages.values.map MailboxMessage.listed).take last.toNat
    (numbered.drop (first.toNat - 1)).filter (isSince cutoff)

/-- The octets up to the first empty line, with it. -/
def headerPart : Octets → Octets
  | 0x0D :: 0x0A :: 0x0D :: 0x0A :: _ => [0x0D, 0x0A, 0x0D, 0x0A]
  | octet :: rest => octet :: headerPart rest
  | [] => []

def fetch (mailbox : Mailbox) (uid : UInt32) (extent : FetchExtent) : Except Failure Octets :=
  match mailbox.messages.get? uid, extent with
  | none, _ => .error (.imap ("no message with UID " ++ Nat.repr uid.toNat))
  | some message, .full => .ok message.raw
  | some message, .header => .ok (headerPart message.raw)

/-- The mailbox without the messages that are marked for removal. -/
def expunge (mailbox : Mailbox) : Mailbox :=
  { mailbox with messages := mailbox.messages.filter fun _ message => !message.listed.isDeleted }

def noted (mailbox : Mailbox) (call : MailboxCall) : Mailbox :=
  { mailbox with log := call :: mailbox.log }

/-- The failure of a call that has a fault.  A fault of the name alone comes first. -/
def fault? (mailbox : Mailbox) (name : String) (subject : Option String) : Option Failure :=
  match mailbox.faults.lookup name, subject with
  | some failure, _ => some failure
  | none, some subject => mailbox.faults.lookup (name ++ ":" ++ subject)
  | none, none => none

/-- Fails if the call has a fault, and else goes on. -/
def unlessFaulty {α : Type} (name : String) (subject : Option String)
    (answer : Mailbox → Except Failure α × Mailbox) (mailbox : Mailbox) :
    Except Failure α × Mailbox :=
  match mailbox.fault? name subject with
  | some failure => (.error failure, mailbox)
  | none => answer mailbox

def answer {α : Type} (call : ServerCall α) (mailbox : Mailbox) : Except Failure α × Mailbox :=
  match call with
  | .folder id =>
    ({ mailbox with folder := id }.noted (.folder id)) |>
      unlessFaulty "folder" (some id) fun mailbox => (.ok (), mailbox)
  | .openFolder mode =>
    mailbox.noted (.openFolder mode) |>
      unlessFaulty "open" (some mailbox.folder) fun mailbox => (.ok (), mailbox)
  | .count =>
    mailbox |> unlessFaulty "message_count" none fun mailbox =>
      (.ok (mailbox.count.getD mailbox.messages.size), mailbox)
  | .list first last cutoff =>
    mailbox.noted (.list first last cutoff) |>
      unlessFaulty "list_messages" none fun mailbox =>
        (.ok (mailbox.list first last cutoff), mailbox)
  | .fetch uid extent =>
    mailbox.noted (.fetch uid extent) |>
      unlessFaulty "fetch_message" (some (Nat.repr uid.toNat)) fun mailbox =>
        (mailbox.fetch uid extent, mailbox)
  | .expunge =>
    mailbox.noted .expunge |>
      unlessFaulty "expunge" none fun mailbox => (.ok (), mailbox.expunge)

def server : Server Mailbox where
  run := answer
  validity := Mailbox.validity
  close mailbox := mailbox.noted .close

end Mailbox

end MailReplica.Rehearsal
