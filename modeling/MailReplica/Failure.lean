import MailReplica.Text.Blank

/-! # Failures

What can go wrong on the server side of a pass or of a push session, and the text that says so.
-/

namespace MailReplica

/-- A failure of the mail server, of the connection to it, or of the work done with it. -/
inductive Failure where
  /-- The server refused, or answered with something unusable. -/
  | imap (message : String)
  /-- The connection broke. -/
  | io (message : String)
  /-- The encryption of the connection broke. -/
  | tls (message : String)
  /-- What arrived is no response, or not the one that was due. -/
  | protocol (message : String)
  /-- The local store failed. -/
  | storage (message : String)
  /-- A pass met something that it cannot work with. -/
  | sync (message : String)
  /-- A call came at a time when it is not allowed. -/
  | invalidState (message : String)
  deriving DecidableEq

namespace Failure

/-- The text that tells a person about a failure. -/
def text : Failure → String
  | imap message => "IMAP error: " ++ message
  | io message => "IO error: " ++ message
  | tls message => "TLS error: " ++ message
  | protocol message => "Protocol error: " ++ message
  | storage message => "Storage error: " ++ message
  | sync message => message
  | invalidState message => "Invalid state: " ++ message

/-- Whether a failure means that the connection is gone: every failure of the connection itself, and
a refusal whose text names the connection. -/
def connectionLost : Failure → Bool
  | io _ | tls _ => true
  | imap message => Text.occursIn "connection".toList (Text.foldCase message).toList
  | _ => false

end Failure

/-- What a session of the mail client can report. -/
inductive SessionFailure where
  /-- The server answered `BAD`. -/
  | bad (message : String)
  /-- The server answered `NO`. -/
  | no (message : String)
  | connectionLost
  /-- A message could not be appended. -/
  | append
  | io (message : String)
  /-- The server's answer could not be read. -/
  | unreadable (message : String)
  deriving DecidableEq

namespace SessionFailure

/-- The text that tells a person about a session failure. -/
def text : SessionFailure → String
  | bad message => "Bad Response: " ++ message
  | no message => "No Response: " ++ message
  | connectionLost => "Connection Lost"
  | append => "Could not append mail to mailbox"
  | io message => message
  | unreadable message => message

/-- A session failure counts as a refusal, with its text. -/
def toFailure (failure : SessionFailure) : Failure :=
  .imap failure.text

end SessionFailure

end MailReplica
