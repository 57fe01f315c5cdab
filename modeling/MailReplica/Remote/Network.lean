import MailReplica.Failure
import MailReplica.Text.Utf8

/-! # The network

What a client sees of the network: it connects, sends octets, and takes what arrives.  What arrives
on a connection is known as a list of what the coming reads give; what is sent may add to it.
-/

namespace MailReplica.Remote

/-- What comes of one read, which waits for a short time at most. -/
inductive Arrival where
  | data (octets : Octets)
  /-- Nothing came. -/
  | silence
  /-- The server has ended its side. -/
  | closed
  | failed (message : String)
  deriving DecidableEq

/-- A way to answer a client from a state of type `ε`. -/
structure Network (ε : Type) where
  /-- Connects to a port of a host; the result is what arrives unasked. -/
  connect : String → UInt16 → ε → Except Failure (List Arrival) × ε
  /-- Sends octets; the result is what arrives because of them. -/
  send : Octets → ε → Except Failure (List Arrival) × ε
  /-- Ends the connection. -/
  close : ε → ε
  /-- Encrypts the connection to a host; the result is what arrives unasked from then on. -/
  encrypt : String → ε → Except Failure (List Arrival) × ε := fun _ state =>
    (.error (.tls "encryption is not available"), state)

def Network.absent : Network Unit where
  connect _ _ state := (.error (.io "no network is available"), state)
  send _ state := (.error (.io "no network is available"), state)
  close state := state

/-- The milliseconds that a read without result takes. -/
def sliceMillis : Nat := 250

end MailReplica.Remote
