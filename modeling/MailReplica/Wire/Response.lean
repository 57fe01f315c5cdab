import MailReplica.Failure
import MailReplica.Wire.Reply

/-! # Responses

A response keeps of a reply what a push session acts on: its kind, and the text for people.  Framing
finds the first response in the octets that have arrived: a reply that the grammar knows, or a line
that it does not know.
-/

namespace MailReplica.Wire

inductive ResponseKind where
  /-- A request to go on. -/
  | continuation
  /-- The completion of a command. -/
  | completion (tag : String) (condition : Condition)
  | condition (condition : Condition)
  /-- The mailbox holds this many messages now. -/
  | messageCount (count : UInt32)
  /-- A message is gone. -/
  | expunge (number : UInt32)
  /-- A message changed. -/
  | fetch (number : UInt32)
  | capabilities (names : List String)
  /-- Data that nothing here looks at. -/
  | other
  deriving DecidableEq

structure Response where
  kind : ResponseKind
  /-- The text for people, empty if there is none. -/
  text : String
  deriving DecidableEq

namespace Condition

/-- The word that stands for a condition. -/
def word : Condition → String
  | ok => "OK"
  | no => "NO"
  | bad => "BAD"
  | preAuth => "PREAUTH"
  | bye => "BYE"

end Condition

namespace Response

def ofReply : Reply → Response
  | .continuation _ text => ⟨.continuation, text.getD ""⟩
  | .completion tag condition _ text => ⟨.completion tag condition, text.getD ""⟩
  | .condition condition _ text => ⟨.condition condition, text.getD ""⟩
  | .messageCount count => ⟨.messageCount count, ""⟩
  | .expunge number => ⟨.expunge number, ""⟩
  | .fetch number _ => ⟨.fetch number, ""⟩
  | .capabilities names => ⟨.capabilities names, ""⟩
  | .recent _ | .flags _ | .search _ | .mailbox _ | .status | .other => ⟨.other, ""⟩

/-- Whether the response asks to go on. -/
def isContinuation (response : Response) : Bool :=
  response.kind == .continuation

def isCompletion (response : Response) : Bool :=
  match response.kind with
  | .completion _ _ => true
  | _ => false

/-- Whether the response completes the command with the tag `tag`. -/
def completes (response : Response) (tag : String) : Bool :=
  match response.kind with
  | .completion own _ => own == tag
  | _ => false

/-- Whether the response tells of a change in the mailbox. -/
def isChange (response : Response) : Bool :=
  match response.kind with
  | .messageCount _ | .expunge _ | .fetch _ => true
  | _ => false

/-- Whether the response completes a command with success. -/
def isSuccess (response : Response) : Bool :=
  match response.kind with
  | .completion _ .ok => true
  | _ => false

def condition? (response : Response) : Option Condition :=
  match response.kind with
  | .completion _ condition | .condition condition => some condition
  | _ => none

def capabilities? (response : Response) : Option (List String) :=
  match response.kind with
  | .capabilities names => some names
  | _ => none

/-- Whether capabilities allow to wait for changes. -/
def canIdle (names : List String) : Bool :=
  names.any (Text.sameButCase · "IDLE")

/-- Whether the response lists the capability to wait for changes. -/
def listsIdle (response : Response) : Bool :=
  (response.capabilities?.map canIdle).getD false

def line (response : Response) : String :=
  let head :=
    match response.kind with
    | .continuation => "+"
    | .completion tag condition => tag ++ " " ++ condition.word
    | .condition condition => "* " ++ condition.word
    | .messageCount count => "* " ++ Nat.repr count.toNat ++ " EXISTS"
    | .expunge number => "* " ++ Nat.repr number.toNat ++ " EXPUNGE"
    | .fetch number => "* " ++ Nat.repr number.toNat ++ " FETCH"
    | .capabilities names => "* CAPABILITY " ++ String.intercalate " " names
    | .other => "*"
  if response.text = "" then head else head ++ " " ++ response.text

end Response

/-! ## Framing -/

/-- What stands first among the octets that have arrived. -/
inductive Framed where
  /-- A response, and how many octets it takes. -/
  | response (response : Response) (length : Nat)
  | incomplete
  /-- A line that the grammar does not know, and how many octets it takes. -/
  | unknown (length : Nat)
  /-- A reply that cannot be represented. -/
  | unrepresentable
  deriving DecidableEq

/-- How many octets the first line takes, if a line end has arrived. -/
def lineLength? : Octets → Option Nat
  | first :: second :: rest =>
    if first == Octet.cr && second == Octet.lf then some 2
    else (lineLength? (second :: rest)).map (· + 1)
  | _ => none

namespace Framed

/-- What stands first among `octets` by the grammar `grammar`. -/
def first (grammar : Scanner Reply) (octets : Octets) : Framed :=
  match grammar octets with
  | .found reply rest => .response (.ofReply reply) (octets.length - rest.length)
  | .incomplete => .incomplete
  | .unrepresentable => .unrepresentable
  | .rejected =>
    match lineLength? octets with
    | some length => .unknown length
    | none => .incomplete

end Framed

namespace Response

inductive ReadFailure where
  | incomplete
  /-- The grammar does not know the line. -/
  | unknown (line : Octets)
  | unrepresentable
  deriving DecidableEq

def read (octets : Octets) : Except ReadFailure Response :=
  match Framed.first Grammar.reply octets with
  | .response response _ => .ok response
  | .incomplete => .error .incomplete
  | .unknown length => .error (.unknown (octets.take length))
  | .unrepresentable => .error .unrepresentable

/-- The failure that octets that are no response make, if there is one to tell of. -/
def ReadFailure.failure? : ReadFailure → Option Failure
  | incomplete => some (.protocol "Incomplete response")
  | unknown line =>
    some (.protocol ("Unparseable response: " ++ Text.trimEnd (Text.decodeLossy line)))
  | unrepresentable => none

/-- Reads a line of text, to which the line end is added. -/
def ofLine (text : String) : Except Failure Response :=
  match read (Text.encode (text ++ "\r\n")) with
  | .ok response => .ok response
  | .error reason => .error (reason.failure?.getD (.protocol "Unrepresentable response"))

end Response

end MailReplica.Wire
