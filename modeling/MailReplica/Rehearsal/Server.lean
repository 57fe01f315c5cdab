import MailReplica.Remote.Network

/-! # A server that follows a script

For each connection a script has a greeting and the replies to the lines of the client.  After the
last reply the server ends its side, or it falls silent.  It keeps the lines that it received.
-/

namespace MailReplica.Rehearsal

open Remote

/-- What a server sends at once: pieces, with pauses between them. -/
abbrev Utterance := List Octets

/-- How a server behaves on a connection. -/
structure Role where
  greeting : Utterance
  /-- The replies to the lines of the client, first to last. -/
  replies : List Utterance
  /-- Whether the server falls silent after the last reply instead of ending its side. -/
  hold : Bool

structure ScriptedServer where
  /-- How the coming connections go. -/
  coming : List Role
  /-- How the present connection goes on. -/
  present : Role
  /-- What the client sent since the last line end. -/
  partialLine : Octets
  /-- The text that stands for the tag of the latest command. -/
  tag : Octets
  /-- The lines received, by connection; the latest line and the latest connection first. -/
  received : List (List Octets)

namespace ScriptedServer

/-- A connection on which nothing is said. -/
def mute : Role :=
  ⟨[], [], false⟩

/-- A server to which nobody has connected. -/
def new (coming : List Role) : ScriptedServer :=
  ⟨coming, mute, [], [], []⟩

/-- The server, if servers can be listened for on the loopback network.  Where they cannot, whatever
needs a server fails before it begins. -/
def listen? (loopback : Bool) (coming : List Role) : Option ScriptedServer :=
  if loopback then some (new coming) else none

/-- The octets with the tag put in place of `$TAG`, if they are text. -/
def filled (tag octets : Octets) : Octets :=
  match Text.decode? octets, Text.decode? tag with
  | some text, some tag => Text.encode (text.replace "$TAG" tag)
  | _, _ => octets

def speak (server : ScriptedServer) (utterance : Utterance) : List Arrival :=
  (utterance.map fun piece => filled server.tag piece).filterMap fun piece =>
    if piece.isEmpty then none else some (.data piece)

/-- What arrives when the server has no more replies. -/
def farewell (server : ScriptedServer) : List Arrival :=
  if server.present.replies.isEmpty && !server.present.hold then [.closed] else []

def accept (server : ScriptedServer) : List Arrival × ScriptedServer :=
  let server : ScriptedServer :=
    { coming := server.coming.drop 1
      present := server.coming.head?.getD mute
      partialLine := []
      tag := []
      received := [] :: server.received }
  (server.speak server.present.greeting ++ server.farewell, server)

def firstWord (line : Octets) : Octets :=
  line.takeWhile fun octet => octet != 0x20

/-- Notes a line on the present connection. -/
def noted (server : ScriptedServer) (received : Octets) : ScriptedServer :=
  match server.received with
  | lines :: others => { server with received := (received :: lines) :: others }
  | [] => { server with received := [[received]] }

def hear (server : ScriptedServer) (received : Octets) : List Arrival × ScriptedServer :=
  let server := server.noted received
  let isDone :=
    received.filter (fun octet => octet != 0x0D && octet != 0x0A) == [0x44, 0x4F, 0x4E, 0x45]
  let server := if isDone then server else { server with tag := firstWord received }
  match server.present.replies with
  | [] => ([], server)
  | reply :: others =>
    let server := { server with present := { server.present with replies := others } }
    (server.speak reply ++ server.farewell, server)

def hearAll (server : ScriptedServer) : Octets → List Arrival × ScriptedServer
  | [] => ([], server)
  | octet :: rest =>
    let line := octet :: server.partialLine
    if octet = 0x0A then
      let (arrivals, server) := { server with partialLine := [] }.hear line.reverse
      let (others, server) := hearAll server rest
      (arrivals ++ others, server)
    else hearAll { server with partialLine := line } rest

/-- The network that leads to the server. -/
def network : Network ScriptedServer where
  connect _ _ server :=
    let (arrivals, server) := server.accept
    (.ok arrivals, server)
  send octets server :=
    let (arrivals, server) := server.hearAll octets
    (.ok arrivals, server)
  close server := server

def lines (server : ScriptedServer) : List (List Octets) :=
  (server.received.map List.reverse).reverse

end ScriptedServer

end MailReplica.Rehearsal
