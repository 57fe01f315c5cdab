import MailReplica.Calendar
import MailReplica.Flag
import MailReplica.Text.Utf8

/-! # Messages and the settings of a pass

What a listing says about a message on the server, what the local store keeps of a message, and what
the caller of a pass may choose.
-/

namespace MailReplica

/-- How much of a message the local store holds. -/
inductive DownloadState where
  /-- The header alone, because the message was too large. -/
  | envelope
  | full
  deriving DecidableEq

namespace DownloadState

def text : DownloadState → String
  | envelope => "envelope"
  | full => "full"

/-- The state of a stored text.  A text that names no state stands for `full`. -/
def ofText (text : String) : DownloadState :=
  if text = "envelope" then envelope else full

theorem ofText_text (state : DownloadState) : ofText state.text = state := by
  cases state <;> decide

end DownloadState

/-- How much of a message to download. -/
inductive FetchExtent where
  | full
  | header
  deriving DecidableEq

/-- What a listing says about one message on the server. -/
structure Listed where
  uid : UInt32
  flags : FlagSet
  /-- When the server received the message, on the server's clock. -/
  date : Option DatedInstant
  /-- The length of the message in octets. -/
  size : Option UInt32

namespace Listed

/-- The name under which the local store keeps the message. -/
def id (listed : Listed) : String :=
  Nat.repr listed.uid.toNat

/-- Whether the message is marked for removal. -/
def isDeleted (listed : Listed) : Bool :=
  listed.flags.contains .deleted

end Listed

/-- A message as the local store keeps it. -/
structure MessageRecord where
  id : String
  flags : FlagSet
  state : DownloadState
  date : Option Instant
  size : Option UInt32
  subject : String
  sender : String
  body : Option Octets
  deriving DecidableEq

/-- When deleted messages are removed on the server. -/
inductive ExpungePolicy where
  | immediately
  | manually
  | onPoll
  deriving DecidableEq

namespace ExpungePolicy

/-- The policies with their names in a configuration. -/
def named : List (String × ExpungePolicy) :=
  [("Immediately", immediately), ("Manually", manually), ("OnPoll", onPoll)]

/-- The name of a policy in a configuration. -/
def name : ExpungePolicy → String
  | immediately => "Immediately"
  | manually => "Manually"
  | onPoll => "OnPoll"

end ExpungePolicy

structure PassSettings where
  expungePolicy : ExpungePolicy
  /-- Messages dated before this instant are not kept. -/
  cutoff : Option DatedInstant
  /-- Whether messages that are gone on the server are removed here. -/
  removeVanished : Bool
  /-- The length up to which a message is downloaded whole. -/
  largestDownload : UInt32
  /-- How many of the latest messages are looked at; 0 stands for all of them. -/
  visibleLimit : UInt32
  /-- The flags that are copied from the server. -/
  trackedFlags : FlagSet

namespace PassSettings

/-- The flags that are copied from the server unless a configuration says otherwise. -/
def usualFlags : List Flag :=
  [.forwarded, .answered, .flagged, .seen]

/-- The settings of a pass unless a configuration says otherwise. -/
def usual : PassSettings where
  expungePolicy := .immediately
  cutoff := none
  removeVanished := true
  largestDownload := 32 * 1024
  visibleLimit := 25
  trackedFlags := Std.ExtTreeSet.ofList usualFlags

end PassSettings

/-- A folder as it is announced to the local store. -/
structure FolderInfo where
  id : String
  name : String
  deriving DecidableEq

/-- How a folder is opened on the server. -/
inductive OpenMode where
  | readOnly
  | readWrite
  deriving DecidableEq

end MailReplica
