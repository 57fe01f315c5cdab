import MailReplica.Reconcile.Server
import MailReplica.Remote.SessionCall

/-! # A handle on a folder of a server

A handle begins a session when it is first opened and ends it when it is closed.  It remembers what
the server told when the folder was opened last.
-/

namespace MailReplica.Remote

structure Folder where
  settings : ServerSettings
  id : String
  /-- Whether a session has begun. -/
  inSession : Bool
  mode : Option OpenMode
  /-- How many messages there were when the folder was opened. -/
  count? : Option UInt32
  /-- The number of the present numbering of messages, if the server told one. -/
  validity? : Option UInt32

/-- Work with a handle, in a session with a state of type `ε`. -/
abbrev FolderWork (ε : Type) := ExceptT Failure (StateM (Folder × ε))

namespace Folder

variable {ε : Type}

def new (settings : ServerSettings) (id : String) : Folder :=
  ⟨settings, id, false, none, none, none⟩

/-- The failure of a call that needs an open folder. -/
def notOpen (folder : Folder) : Failure :=
  .invalidState ("Folder " ++ folder.id ++ " is not open")

/-- How many messages there were when the folder was opened. -/
def count (folder : Folder) : Except Failure Int :=
  match folder.count? with
  | some count => .ok count.toNat
  | none => .error folder.notOpen

/-- The number of the present numbering of messages, if the server told one. -/
def validity (folder : Folder) : Option UInt64 :=
  folder.validity?.map UInt32.toUInt64

/-! ## Work -/

def handle : FolderWork ε Folder :=
  return (← get).1

def change (apply : Folder → Folder) : FolderWork ε Unit :=
  modify fun (folder, session) => (apply folder, session)

def logIn (server : MailServer ε) : FolderWork ε Unit := do
  let (folder, session) ← get
  let (result, session) := server.logIn folder.settings session
  set (folder, session)
  result
  change fun folder => { folder with inSession := true }

def call {α : Type} (server : MailServer ε) (request : SessionCall α) : FolderWork ε α := do
  let (folder, session) ← get
  if folder.inSession then
    let (result, session) := server.run request session
    set (folder, session)
    result.mapError SessionFailure.toFailure
  else throw folder.notOpen

/-- Opens the folder, in a new session if there is none. -/
def openAs (server : MailServer ε) (mode : OpenMode) : FolderWork ε Unit := do
  unless (← handle).inSession do
    logIn server
  let selected ← call server (.select mode (← handle).id)
  change fun folder =>
    { folder with mode := some mode, count? := some selected.count, validity? := selected.validity }

/-- The items that a listing asks for. -/
def listingItems : String := "(UID FLAGS INTERNALDATE RFC822.SIZE)"

def decimal (number : UInt32) : String :=
  Nat.repr number.toNat

/-- The search key for the messages with the numbers `range` that came on the day of the cutoff or
later. -/
def sinceKey (range : String) (cutoff : DatedInstant) : String :=
  range ++ " SINCE " ++ cutoff.civilDay.searchKey

/-- Lists the messages with the numbers from `first` to `last`; with a cutoff only those that the
server received on its day or later. -/
def list (server : MailServer ε) (first last : UInt32) (cutoff : Option DatedInstant) :
    FolderWork ε (List Listed) := do
  if first = 0 ∨ last < first then return []
  let range := decimal first ++ ":" ++ decimal last
  let told ←
    match cutoff with
    | none => call server (.fetch range listingItems)
    | some cutoff =>
      let uids := (← call server (.search (sinceKey range cutoff))).toList
      if uids.isEmpty then pure []
      else call server (.fetchByUid (String.intercalate "," (uids.map decimal)) listingItems)
  return told.filterMap Fetched.listed?

/-- The items that a download asks for. -/
def downloadItems : FetchExtent → String
  | .full => "(UID BODY.PEEK[])"
  | .header => "(UID BODY.PEEK[HEADER])"

def fetch (server : MailServer ε) (uid : UInt32) (extent : FetchExtent) :
    FolderWork ε Octets := do
  let told ← call server (.fetchByUid (decimal uid) (downloadItems extent))
  match Fetched.choose uid told with
  | none => throw (.imap ("Message " ++ decimal uid ++ " not found"))
  | some fetched =>
    match fetched.octets extent with
    | none => throw (.imap ("Server returned no data for message " ++ decimal uid))
    | some octets => return octets

/-- Removes the messages that are marked for removal, for which the folder has to be open for
writing. -/
def expunge (server : MailServer ε) : FolderWork ε Unit := do
  unless (← handle).mode = some .readWrite do
    openAs server .readWrite
  call server .expunge

/-- Takes leave of the server.  A handle that is closed knows the numbering of its last opening. -/
def close (server : MailServer ε) : FolderWork ε Unit := do
  let (folder, session) ← get
  if folder.inSession then
    set (folder, (server.run .logOut session).2)
  change fun folder => { folder with inSession := false, mode := none, count? := none }

/-! ## For passes -/

def answer {α : Type} (server : MailServer ε) (settings : ServerSettings) :
    Reconcile.ServerCall α → FolderWork ε α
  | .folder id => change fun _ => new settings id
  | .openFolder mode => openAs server mode
  | .count => do (← handle).count
  | .list first last cutoff => list server first last cutoff
  | .fetch uid extent => fetch server uid extent
  | .expunge => expunge server

def passServer (server : MailServer ε) (settings : ServerSettings) :
    Reconcile.Server (Folder × ε) where
  run call state := (answer server settings call).run state
  validity state := state.1.validity
  close state := ((close server).run state).2

/-- Lists the folders of a server, in a session of its own. -/
def listAll (server : MailServer ε) (settings : ServerSettings) :
    ExceptT Failure (StateM ε) (List FolderInfo) := do
  fun session =>
    match server.logIn settings session with
    | (.error failure, session) => (.error failure, session)
    | (.ok (), session) =>
      match server.run (.folders "*") session with
      | (.error failure, session) => (.error failure.toFailure, session)
      | (.ok names, session) =>
        (.ok (names.map fun name => ⟨name, name⟩), (server.run .logOut session).2)

end Folder

end MailReplica.Remote
