import MailReplica.Proofs.Remote.Dialogue

/-! # What passes between a client and the network

Any network can keep a record of what passes while it answers as it does without one
(`Network.recorded`).  What a client does can be read off the record, which starts with what passed
last.
-/

namespace MailReplica.Remote

variable {ε : Type}

inductive Exchange where
  /-- The client was connected; this arrives unasked. -/
  | connected (arrivals : List Arrival)
  /-- The connection was encrypted; this arrives unasked from then on. -/
  | encrypted (arrivals : List Arrival)
  /-- The client had octets sent; this arrives because of them. -/
  | sent (octets : Octets) (arrivals : List Arrival)
  /-- The client ended the connection. -/
  | closed
  deriving DecidableEq

def Exchange.sent? : Exchange → Option Octets
  | sent octets _ => some octets
  | connected _ | encrypted _ | closed => none

/-- What the client had sent, latest first. -/
def sentIn (record : List Exchange) : List Octets :=
  record.filterMap Exchange.sent?

/-- The network, with a record of what passes. -/
def Network.recorded (network : Network ε) : Network (ε × List Exchange) where
  connect host port := fun (state, record) =>
    let (result, later) := network.connect host port state
    (result, later, (result.toOption.map .connected).toList ++ record)
  send octets := fun (state, record) =>
    let (result, later) := network.send octets state
    (result, later, .sent octets (result.toOption.getD []) :: record)
  close := fun (state, record) => (network.close state, .closed :: record)
  encrypt host := fun (state, record) =>
    let (result, later) := network.encrypt host state
    (result, later, (result.toOption.map .encrypted).toList ++ record)

namespace Network

variable (network : Network ε) (state : ε) (record : List Exchange)

theorem recorded_connect (host : String) (port : UInt16) :
    network.recorded.connect host port (state, record) =
      ((network.connect host port state).1, (network.connect host port state).2,
        ((network.connect host port state).1.toOption.map .connected).toList ++ record) :=
  rfl

theorem recorded_encrypt (host : String) :
    network.recorded.encrypt host (state, record) =
      ((network.encrypt host state).1, (network.encrypt host state).2,
        ((network.encrypt host state).1.toOption.map .encrypted).toList ++ record) :=
  rfl

end Network

end MailReplica.Remote
