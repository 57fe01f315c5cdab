import MailReplica.Header.Phrase

/-! # Senders

The value of a field such as `From`: mailboxes with commas between them, each with a name, an
address in angle brackets or bare, and comments.  The sender of a message is the list of its
mailboxes; a value that names a group has none.
-/

namespace MailReplica.Header

structure Mailbox where
  name : Option String
  address : Option String
  deriving DecidableEq

namespace Mailbox

/-- `name <address>`, or the address alone for a mailbox without a name. -/
def text (mailbox : Mailbox) : String :=
  let name := mailbox.name.getD ""
  let address := mailbox.address.getD ""
  if name = "" then address else name ++ " <" ++ address ++ ">"

end Mailbox

/-- The part of a mailbox that an octet belongs to. -/
inductive Region where
  | name
  /-- Between angle brackets. -/
  | address
  /-- Between quotation marks. -/
  | quoted
  | comment
  deriving DecidableEq

/-- A list of mailboxes that is being read. -/
structure AddressState where
  region : Region
  /-- The regions around the current one, innermost first. -/
  outer : List Region
  /-- The current token, latest octet first; empty if there is none. -/
  token : Octets
  /-- The octets passed over since the end of the token, latest first. -/
  gap : Octets
  /-- Whether the token is a bare address. -/
  bare : Bool
  /-- Whether a token may begin here, so that an encoded word is known as one. -/
  fresh : Bool
  /-- Whether a backslash takes the meaning from the next octet. -/
  escaped : Bool
  /-- The pieces of the name, of the address and of the comment, latest first. -/
  names : List String
  addresses : List String
  comments : List String
  /-- The mailboxes read so far, latest first. -/
  mailboxes : List Mailbox
  /-- Whether the value names a group. -/
  grouped : Bool

namespace AddressState

def start : AddressState where
  region := .name
  outer := []
  token := []
  gap := []
  bare := false
  fresh := true
  escaped := false
  names := []
  addresses := []
  comments := []
  mailboxes := []
  grouped := false

/-- `piece` after `pieces`, with a space between them. -/
def spaced (piece : String) (pieces : List String) : List String :=
  if pieces.isEmpty then [piece] else piece :: " " :: pieces

/-- Ends the token, if there is one.  With `trail` a space follows it. -/
def endToken (state : AddressState) (trail : Bool) : AddressState :=
  if state.token.isEmpty then state
  else
    let piece := Text.decodeLossy state.token.reverse
    let after (pieces : List String) := if trail then " " :: pieces else pieces
    let ended :=
      { state with token := [], gap := [], bare := false, fresh := true, escaped := false }
    match state.region with
    | .address => { ended with addresses := after (piece :: state.addresses) }
    | .quoted => { ended with names := after (piece :: state.names) }
    | .comment => { ended with comments := after (spaced piece state.comments) }
    | .name =>
      if state.bare then { ended with addresses := after (piece :: state.addresses) }
      else { ended with names := after (spaced piece state.names) }

/-- The pieces put together, if there are any. -/
def joined? (pieces : List String) : Option String :=
  if pieces.isEmpty then none else some (String.join pieces.reverse)

/-- The mailbox that the pieces make: a comment adds to the name, or stands for it; a name alone
counts as the address if there is a comment to stand for the name. -/
def mailbox? (state : AddressState) : Option Mailbox :=
  match joined? state.names, joined? state.addresses, joined? state.comments with
  | some name, some address, some comment =>
    some ⟨some (name ++ " (" ++ comment ++ ")"), some address⟩
  | some name, some address, none => some ⟨some name, some address⟩
  | none, some address, comment => some ⟨comment, some address⟩
  | some name, none, some comment => some ⟨some comment, some name⟩
  | some name, none, none => some ⟨some name, none⟩
  | none, none, some comment => some ⟨some comment, none⟩
  | none, none, none => none

def clearPieces (state : AddressState) : AddressState :=
  { state with names := [], addresses := [], comments := [] }

/-- Ends the mailbox, if there is one. -/
def endMailbox (state : AddressState) : AddressState :=
  match state.mailbox? with
  | some mailbox => { state.clearPieces with mailboxes := mailbox :: state.mailboxes }
  | none => state

/-- A colon ends the name of a group. -/
def beginGroup (state : AddressState) : AddressState :=
  let ended := state.endToken false
  { ended.clearPieces with
    grouped := state.grouped || !state.mailboxes.isEmpty || !ended.names.isEmpty ||
      !ended.addresses.isEmpty }

def endGroup (state : AddressState) : AddressState :=
  let ended := (state.endToken false).endMailbox
  { ended with grouped := ended.grouped || !ended.mailboxes.isEmpty }

def enter (state : AddressState) (region : Region) : AddressState :=
  { state with region := region, outer := state.region :: state.outer }

/-- Leaves the region for the one around it. -/
def leave (state : AddressState) : AddressState :=
  { state with region := state.outer.headD .name, outer := state.outer.tail }

def addOctet (state : AddressState) (octet : UInt8) : AddressState :=
  { state with
    escaped := false
    fresh := false
    token := octet :: (state.gap ++ state.token)
    gap := [] }

def skip (state : AddressState) (octet : UInt8) : AddressState :=
  if state.token.isEmpty then state else { state with gap := octet :: state.gap }

/-- A blank, which is text between quotation marks and separates tokens elsewhere. -/
def addBlank (state : AddressState) (octet : UInt8) : AddressState :=
  let state := { state with fresh := true, escaped := false }
  if state.region = .quoted then
    { state with token := octet :: (state.gap ++ state.token), gap := [] }
  else state.skip octet

def escape (state : AddressState) : AddressState :=
  let whole :=
    if state.region = .quoted && !state.token.isEmpty then
      { state with token := state.gap ++ state.token, gap := [] }
    else state
  { whole.endToken false with escaped := true }

/-- An octet other than a line end and the start of an encoded word. -/
def step (state : AddressState) (octet : UInt8) : AddressState :=
  let inName := state.region = .name
  if octet == Octet.backslash && !inName && !state.escaped then state.escape
  else if octet == Octet.comma && inName then (state.endToken false).endMailbox
  else if octet == Octet.less && inName then
    (AddressState.endToken { state with bare := false } false).enter .address
  else if octet == Octet.greater && state.region = .address then (state.endToken false).leave
  else if octet == Octet.quote && !state.escaped && inName then
    -- The token before the mark is a piece of the name even if it holds an at sign.
    AddressState.endToken (state.enter .quoted) false
  else if octet == Octet.quote && !state.escaped && state.region = .quoted then
    (state.endToken false).leave
  else if octet == Octet.atSign && inName then
    AddressState.addOctet { state with bare := true } octet
  else if Octet.isGap octet then state.addBlank octet
  else if octet == Octet.cr then state.skip octet
  else if octet == Octet.openParen && !state.escaped && state.region = .comment then
    (state.enter .comment).addOctet octet
  else if octet == Octet.openParen && !state.escaped && state.region ≠ .quoted then
    (state.endToken false).enter .comment
  else if octet == Octet.closeParen && !state.escaped && state.region = .comment then
    if state.outer.headD .name = .comment then state.leave.addOctet octet
    else (state.endToken false).leave
  else if octet == Octet.colon && inName && !state.escaped then state.beginGroup
  else if octet == Octet.semicolon && inName then state.endGroup
  else state.addOctet octet

/-- Adds the text of an encoded word. -/
def addEncoded (state : AddressState) (text : String) : AddressState :=
  let ended := state.endToken (state.region ≠ .quoted)
  if state.region = .comment then { ended with comments := text :: ended.comments }
  else { ended with names := text :: ended.names }

/-- The mailboxes read, in order; none for groups. -/
def result (state : AddressState) : List Mailbox :=
  let ended := state.endMailbox
  if ended.grouped then [] else ended.mailboxes.reverse

end AddressState

/-- The mailboxes of a field's value, read on from `state`.  A token that no line end follows is not
read. -/
def mailboxesFrom (state : AddressState) : Octets → List Mailbox
  | [] => state.result
  | octet :: rest =>
    if octet == Octet.lf then
      match rest with
      | [] => (state.endToken false).result
      | next :: after =>
        if Octet.isGap next then
          mailboxesFrom { state.endToken false with fresh := true } after
        else (state.endToken false).result
    else if octet == Octet.equals && state.fresh && !state.escaped then
      match word : encodedWord? rest with
      | some (text, after) =>
        have := encodedWord?_length word
        mailboxesFrom (state.addEncoded text) after
      | none => mailboxesFrom (state.step octet) rest
    else mailboxesFrom (state.step octet) rest
termination_by octets => octets.length
decreasing_by
  all_goals simp_all only [List.length_cons]
  all_goals omega

def mailboxes (value : Octets) : List Mailbox :=
  mailboxesFrom .start value

/-- The mailboxes of a field's value as one text. -/
def senders (value : Octets) : String :=
  String.intercalate ", " ((mailboxes value).map Mailbox.text)

end MailReplica.Header
