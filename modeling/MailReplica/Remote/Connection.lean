import MailReplica.Configuration.Account
import MailReplica.Message
import MailReplica.Remote.Network
import MailReplica.Wire.Quoted
import MailReplica.Wire.Response

/-! # A connection that waits for changes

A connection of its own to one folder.  Responses are taken one by one from the octets that have
arrived; a line that the grammar does not know is skipped.  A read goes on until a response is
complete or its time is over.
-/

namespace MailReplica.Remote

open Wire

/-- How long a read may take unless told otherwise, in milliseconds. -/
def usualTimeout : Nat := 60000

structure Connection where
  settings : ServerSettings
  folder : String
  /-- What the coming reads give, while the connection is open. -/
  arrivals : Option (List Arrival)
  /-- Octets that have arrived and were not taken. -/
  pending : Octets
  nextTag : UInt32
  /-- How long a read may take, in milliseconds. -/
  timeout : Nat
  capabilities : List String

namespace Connection

def new (settings : ServerSettings) (folder : String) : Connection :=
  ⟨settings, folder, none, [], 1, usualTimeout, []⟩

def isOpen (connection : Connection) : Bool :=
  connection.arrivals.isSome

/-- Whether the server is known to let clients wait. -/
def canIdle (connection : Connection) : Bool :=
  Response.canIdle connection.capabilities

end Connection

/-! ## Taking responses -/

/-- What can be taken from octets that have arrived. -/
inductive Taken where
  | response (response : Response) (rest : Octets)
  /-- More octets are needed after these. -/
  | more (rest : Octets)
  /-- A reply that cannot be represented stands first; it stays there. -/
  | unrepresentable (rest : Octets)

/-- Takes the first response, skipping at most `fuel` lines that the grammar does not know. -/
def takeWithin (grammar : Scanner Reply) : Nat → Octets → Taken
  | 0, octets => .more octets
  | fuel + 1, octets =>
    match Framed.first grammar octets with
    | .response response length => .response response (octets.drop length)
    | .incomplete => .more octets
    | .unknown length => takeWithin grammar fuel (octets.drop length)
    | .unrepresentable => .unrepresentable octets

/-- Takes the first response, skipping lines that the grammar does not know. -/
def take (grammar : Scanner Reply) (octets : Octets) : Taken :=
  takeWithin grammar (octets.length + 1) octets

/-- Where a read ends: its result, what is left of what had arrived, and what the coming reads
give. -/
structure ReadEnd where
  result : Except Failure Response
  pending : Octets
  arrivals : List Arrival

/-- The failure of a read whose time is over. -/
def late : Failure :=
  .io "timed out waiting for server response"

/-- Whether a read ends before more octets arrive: its result, if it does, and what is left of the
octets that have arrived.  `millis` is the time that is left. -/
def settle (grammar : Scanner Reply) (millis : Nat) (pending : Octets) :
    Option (Except Failure Response) × Octets :=
  match take grammar pending with
  | .response response rest => (some (.ok response), rest)
  | .unrepresentable rest => (some (.error (.protocol "Unrepresentable response")), rest)
  | .more rest => (if millis = 0 then some (.error late) else none, rest)

/-- Reads a response.  Each part of the time that passes in silence is taken from `millis`. -/
def readWithin (grammar : Scanner Reply) (millis : Nat) (pending : Octets) :
    List Arrival → ReadEnd
  | [] =>
    let (result, rest) := settle grammar millis pending
    ⟨result.getD (.error late), rest, []⟩
  | arrival :: others =>
    match settle grammar millis pending with
    | (some result, rest) => ⟨result, rest, arrival :: others⟩
    | (none, rest) =>
      match arrival with
      | .data octets => readWithin grammar millis (rest ++ octets) others
      | .silence => readWithin grammar (millis - sliceMillis) rest others
      | .closed => ⟨.error (.io "connection closed by server"), rest, .closed :: others⟩
      | .failed message => ⟨.error (.io message), rest, others⟩

/-! ## The dialogue -/

/-- A dialogue on a connection over a network with a state of type `ε`. -/
abbrev Dialogue (ε : Type) := ExceptT Failure (StateM (Connection × ε))

namespace Dialogue

variable {ε : Type}

def connection : Dialogue ε Connection :=
  return (← get).1

def change (apply : Connection → Connection) : Dialogue ε Unit :=
  modify fun (connection, network) => (apply connection, network)

def sendLine (network : Network ε) (line : String) : Dialogue ε Unit := do
  let (connection, state) ← get
  match connection.arrivals with
  | none => throw (.io "not connected")
  | some arrivals =>
    let (result, state) := network.send (Text.encode (line ++ "\r\n")) state
    set (connection, state)
    match result with
    | .error failure => throw failure
    | .ok more =>
      change fun connection => { connection with arrivals := some (arrivals ++ more) }

/-- Sends a command; the result is its tag. -/
def sendCommand (network : Network ε) (command : String) : Dialogue ε String := do
  let tag := "M" ++ Nat.repr (← connection).nextTag.toNat
  change fun connection => { connection with nextTag := connection.nextTag + 1 }
  sendLine network (tag ++ " " ++ command)
  return tag

/-- Reads a response by the grammar `grammar`. -/
def readBy (grammar : Scanner Reply) : Dialogue ε Response := do
  let found ← connection
  match found.arrivals with
  | none =>
    let (result, rest) := settle grammar found.timeout found.pending
    change fun connection => { connection with pending := rest }
    result.getD (.error (.io "connection closed"))
  | some arrivals =>
    let ended := readWithin grammar found.timeout found.pending arrivals
    change fun connection =>
      { connection with pending := ended.pending, arrivals := some ended.arrivals }
    ended.result

def read : Dialogue ε Response :=
  readBy Grammar.reply

/-- Reads responses up to the completion of the command with the tag `tag`, at most `fuel` of them.
A list of capabilities among them is remembered. -/
def complete (tag command : String) : Nat → Dialogue ε Unit
  | 0 => throw (.io "timed out waiting for server response")
  | fuel + 1 => do
    let response ← read
    if response.completes tag then
      unless response.isSuccess do
        let verb := String.ofList (command.toList.takeWhile (· != ' '))
        throw (.imap (verb ++ " failed: " ++ response.line))
    else
      match response.capabilities? with
      | some names => change fun connection => { connection with capabilities := names }
      | none => pure ()
      complete tag command fuel

/-- How many octets have arrived or will; each response takes at least one of them. -/
def reserve : Dialogue ε Nat := do
  let found ← connection
  let lengths := (found.arrivals.getD []).map fun arrival =>
    match arrival with
    | .data octets => octets.length
    | _ => 0
  return lengths.foldl (· + ·) found.pending.length

/-- Carries out a command; a completion other than `OK` is a failure. -/
def command (network : Network ε) (text : String) : Dialogue ε Unit := do
  let tag ← sendCommand network text
  complete tag text ((← reserve) + 1)

/-- Encrypts the connection; the result is what arrives from then on.  A connection that cannot be
encrypted is ended. -/
def encrypt (network : Network ε) : Dialogue ε (List Arrival) := do
  let (found, state) ← get
  let (result, state) := network.encrypt found.settings.host state
  match result with
  | .ok arrivals =>
    set (found, state)
    return arrivals
  | .error failure =>
    set ({ found with arrivals := none }, network.close state)
    throw failure

/-- Connects, encrypted from the start if the settings say so. -/
def reach (network : Network ε) : Dialogue ε Unit := do
  let (found, state) ← get
  let settings := found.settings
  let (result, state) := network.connect settings.host settings.port state
  set (found, state)
  let arrivals ←
    match result with
    | .error failure => throw failure
    | .ok arrivals => if settings.security = .tls then encrypt network else pure arrivals
  change fun connection => { connection with pending := [], arrivals := some arrivals }

/-- Reads the greeting; the result is whether the client is logged in already. -/
def greet : Dialogue ε Bool := do
  let greeting ← read
  match greeting.kind with
  | .condition .ok => return false
  | .condition .preAuth => return true
  | _ => throw (.imap ("Unexpected greeting: " ++ greeting.line))

/-- Has the connection encrypted, as the server agrees to it. -/
def startTls (network : Network ε) : Dialogue ε Unit := do
  command network "STARTTLS"
  let arrivals ← encrypt network
  change fun connection => { connection with arrivals := some arrivals }

/-- The request to log in. -/
def logIn (settings : ServerSettings) : String :=
  "LOGIN " ++ Quoted.write settings.username ++ " " ++ Quoted.write settings.password

/-- Connects and logs in, unless the server greets the client as one that is logged in. -/
def connect (network : Network ε) : Dialogue ε Unit := do
  let settings := (← connection).settings
  reach network
  let loggedIn ← greet
  if settings.security = .startTls then
    startTls network
  unless loggedIn do
    command network (logIn settings)
  command network "CAPABILITY"

def openVerb : OpenMode → String
  | .readOnly => "EXAMINE"
  | .readWrite => "SELECT"

/-- Opens the folder, on a new connection if none is open. -/
def openFolder (network : Network ε) (mode : OpenMode) : Dialogue ε Unit := do
  unless (← connection).isOpen do
    connect network
  command network (openVerb mode ++ " " ++ Quoted.write (← connection).folder)

/-- Whether the server lets clients wait; it is asked if it has not listed its capabilities. -/
def isCapable (network : Network ε) : Dialogue ε Bool := do
  if (← connection).capabilities.isEmpty then
    command network "CAPABILITY"
  return (← connection).canIdle

/-- Sets how long a read may take. -/
def setTimeout (millis : Nat) : Dialogue ε Unit :=
  change fun connection => { connection with timeout := millis }

/-- Takes leave of the server and ends the connection. -/
def close (network : Network ε) : Dialogue ε Unit := do
  let (found, state) ← get
  if found.isOpen then
    let line := "M" ++ Nat.repr found.nextTag.toNat ++ " LOGOUT\r\n"
    let (_, state) := network.send (Text.encode line) state
    set ({ found with nextTag := found.nextTag + 1 }, network.close state)
  change fun connection =>
    { connection with arrivals := none, pending := [], capabilities := [] }

end Dialogue

end MailReplica.Remote
