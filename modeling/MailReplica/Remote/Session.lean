import MailReplica.Remote.Network
import MailReplica.Remote.SessionCall
import MailReplica.Wire.InternalDate
import MailReplica.Wire.Quoted
import MailReplica.Wire.Reply

/-! # Sessions over a network

In a session each command is answered by replies and then by a completion with the command's tag.
The session waits for the completion before it goes on.
-/

namespace MailReplica.Remote

open Wire

structure Session where
  /-- How many commands were sent. -/
  commands : Nat
  /-- Octets that have arrived and were not read. -/
  unread : Octets

namespace Session

/-! ## Reading an answer -/

/-- The failure of an answer that the grammar does not know. -/
def unknown : SessionFailure :=
  .unreadable "Unable to parse status response"

/-- The failure of an answer with a reply that does not belong there. -/
def unexpected : SessionFailure :=
  .unreadable "Encountered unexpected parse response"

/-- The first line with its end, and what follows.  The last line may lack its end. -/
def firstLine (octets : Octets) : Octets × Octets :=
  let (line, rest) := octets.span (· != Octet.lf)
  (line ++ rest.take 1, rest.drop 1)

/-- What a completion makes of the replies before it. -/
def conclude (replies : List Reply) (condition : Condition) (text : Option String) :
    Except SessionFailure (List Reply) :=
  let reason := text.getD "no explanation given"
  match condition with
  | .ok => .ok replies
  | .no => .error (.no reason)
  | .bad => .error (.bad reason)
  | _ => .error unknown

/-- Reads at most `fuel` lines, up to the completion with the tag `tag`.  `replies` are the replies
that were read, latest first, and `begun` is the part of a reply that was read. -/
def answerWithin (tag : String) :
    Nat → List Reply → Octets → Octets → Except SessionFailure (List Reply) × Octets
  | 0, _, _, unread => (.error .connectionLost, unread)
  | _ + 1, _, _, [] => (.error .connectionLost, [])
  | fuel + 1, replies, begun, unread =>
    let (line, rest) := firstLine unread
    let begun := begun ++ line
    match Grammar.reply begun with
    | .found (.completion own condition _ text) _ =>
      if own = tag then (conclude replies.reverse condition text, rest)
      else (.error unexpected, rest)
    | .found reply _ => answerWithin tag fuel (reply :: replies) [] rest
    | .incomplete => answerWithin tag fuel replies begun rest
    | _ => (.error unknown, rest)

/-- Reads the replies to the command with the tag `tag`, and what is left unread. -/
def answer (tag : String) (unread : Octets) : Except SessionFailure (List Reply) × Octets :=
  answerWithin tag (unread.length + 1) [] [] unread

/-! ## Understanding an answer -/

/-- Whether a server may send a reply at any time. -/
def isUnasked : Reply → Bool
  | .status | .recent _ | .messageCount _ | .expunge _ => true
  | _ => false

/-- Refuses a reply that does not belong to an answer. -/
def allow (allowed : Bool) : Except SessionFailure Unit :=
  if allowed then .ok () else .error unexpected

/-- What a reply to the opening of a folder adds to what the server told. -/
def addSelected (selected : Selected) : Reply → Except SessionFailure Selected
  | .condition .ok (some (.uidValidity validity)) _ =>
    .ok { selected with validity := some validity }
  | .messageCount count => .ok { selected with count }
  | .condition .ok _ _ | .recent _ | .flags _ | .search _ | .mailbox _ | .status | .expunge _ =>
    .ok selected
  | _ => .error unexpected

/-- What the server told when it opened a folder.  It has to tell something. -/
def selected (replies : List Reply) : Except SessionFailure Selected :=
  if replies.isEmpty then .error unknown else replies.foldlM addSelected ⟨0, none⟩

/-- What an item adds to what the server told about a message.  The first text, header and date
count, and the last UID and size. -/
def addItem (fetched : Fetched) : FetchItem → Fetched
  | .uid uid => { fetched with uid := some uid }
  | .flags atoms => { fetched with flags := fetched.flags ++ atoms }
  | .internalDate text => { fetched with date := fetched.date.or (InternalDate.read? text) }
  | .size size => { fetched with size := some size }
  | .body .whole data | .message data => { fetched with message := fetched.message.or data }
  | .body .header data | .messageHeader data => { fetched with header := fetched.header.or data }
  | _ => fetched

def fetched (replies : List Reply) : Except SessionFailure (List Fetched) := do
  let told ← replies.mapM fun reply =>
    match reply with
    | .fetch _ items => .ok (some (items.foldl addItem ⟨none, [], none, none, none, none⟩))
    | reply => (allow (isUnasked reply)).map fun _ => none
  return told.filterMap id

def found (replies : List Reply) : Except SessionFailure (Std.ExtTreeSet UInt32) := do
  let numbers ← replies.mapM fun reply =>
    match reply with
    | .search numbers => .ok numbers
    | reply => (allow (isUnasked reply)).map fun _ => []
  return Std.ExtTreeSet.ofList numbers.flatten

/-- Whether a reply may come with an answer that has nothing to do with messages. -/
def isPassing : Reply → Bool
  | .fetch _ _ => true
  | reply => isUnasked reply

def names (replies : List Reply) : Except SessionFailure (List String) := do
  let told ← replies.mapM fun reply =>
    match reply with
    | .mailbox name => .ok (some name)
    | reply => (allow (isPassing reply)).map fun _ => none
  return told.filterMap id

/-- Refuses an answer with a reply that does not belong there. -/
def expunged (replies : List Reply) : Except SessionFailure Unit :=
  replies.forM fun reply => allow (isPassing reply)

/-! ## Commands -/

/-- A text as an argument of a command.  No argument can hold a line end. -/
def argument (text : String) : Except SessionFailure String :=
  let refusal (name : String) : SessionFailure :=
    .unreadable ("Invalid character in input: '" ++ name ++ "'")
  if text.contains '\n' then .error (refusal "\\n")
  else if text.contains '\r' then .error (refusal "\\r")
  else .ok (Quoted.write text)

/-- The octets that arrive, with those that were there before. -/
def arrived (unread : Octets) (arrivals : List Arrival) : Octets :=
  unread ++ arrivals.flatMap fun arrival =>
    match arrival with
    | .data octets => octets
    | _ => []

variable {ε : Type}

abbrev SessionWork (ε : Type) := ExceptT SessionFailure (StateM (Session × ε))

/-- Carries out a command; the result is the replies to it. -/
def command (network : Network ε) (text : String) : SessionWork ε (List Reply) := do
  let (session, state) ← get
  let commands := session.commands + 1
  let tag := "a" ++ Nat.repr commands
  let (sent, state) := network.send (Text.encode (tag ++ " " ++ text ++ "\r\n")) state
  set (({ session with commands } : Session), state)
  match sent with
  | .error failure => throw (.io failure.text)
  | .ok arrivals =>
    let (result, unread) := answer tag (arrived session.unread arrivals)
    set ((⟨commands, unread⟩ : Session), state)
    result

def selectVerb : OpenMode → String
  | .readOnly => "EXAMINE "
  | .readWrite => "SELECT "

def answerCall {α : Type} (network : Network ε) : SessionCall α → SessionWork ε α
  | .select mode folder => do
    let name ← argument folder
    selected (← command network (selectVerb mode ++ name))
  | .fetch numbers items => do
    fetched (← command network ("FETCH " ++ numbers ++ " " ++ items))
  | .fetchByUid uids items => do
    fetched (← command network ("UID FETCH " ++ uids ++ " " ++ items))
  | .search key => do found (← command network ("UID SEARCH " ++ key))
  | .folders pattern => do names (← command network ("LIST \"\" " ++ pattern))
  | .expunge => do expunged (← command network "EXPUNGE")
  | .logOut => do
    let _ ← command network "LOGOUT"

def begin (network : Network ε) (settings : ServerSettings) :
    ExceptT Failure (StateM (Session × ε)) Unit := do
  unless settings.security = .plain do
    throw (.tls "encryption is not available")
  let (_, state) ← get
  let (result, state) := network.connect settings.host settings.port state
  set ((⟨0, []⟩ : Session), state)
  let arrivals ← result
  set ((⟨0, arrived [] arrivals⟩ : Session), state)
  let logIn : SessionWork ε Unit := do
    let username ← argument settings.username
    let password ← argument settings.password
    let _ ← command network ("LOGIN " ++ username ++ " " ++ password)
  match ← (ExceptT.run logIn : StateM (Session × ε) _) with
  | .ok () => pure ()
  | .error failure => throw failure.toFailure

/-- The mail server that a network leads to. -/
def server (network : Network ε) : MailServer (Session × ε) where
  logIn settings state := (begin network settings).run state
  run call state := (answerCall network call).run state

def fresh : Session :=
  ⟨0, []⟩

end Session

end MailReplica.Remote
