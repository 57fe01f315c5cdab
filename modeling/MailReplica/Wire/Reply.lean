import MailReplica.Text.Blank
import MailReplica.Wire.Token

/-! # Server replies

The replies of a mail server and the grammar they follow.  A reply is a request to go on, the
completion of a command, or untagged data; the grammar is that of IMAP4rev1 with the extensions that
servers use, and it lets a few common slips pass, such as a space before a line end.
-/

namespace MailReplica.Wire

open Scanner Token

inductive Condition where
  | ok
  | no
  | bad
  | preAuth
  | bye
  deriving DecidableEq

/-- What stands in brackets before the text of a reply. -/
inductive Code where
  | uidValidity (value : UInt32)
  | uidNext (value : UInt32)
  | capabilities (names : List String)
  /-- A code that nothing here looks at. -/
  | other
  deriving DecidableEq

/-- A part of a message that a fetch can name. -/
inductive Section where
  /-- The whole message. -/
  | whole
  | header
  | text
  /-- A part of a message with several parts. -/
  | part
  deriving DecidableEq

/-- What a fetch tells about a message. -/
inductive FetchItem where
  | uid (value : UInt32)
  | flags (atoms : List String)
  | internalDate (text : String)
  | size (value : UInt32)
  | body (portion : Section) (data : Option Octets)
  /-- The whole message, by its old name. -/
  | message (data : Option Octets)
  /-- The header of the message, by its old name. -/
  | messageHeader (data : Option Octets)
  | other
  deriving DecidableEq

inductive Reply where
  | continuation (code : Option Code) (text : Option String)
  | completion (tag : String) (condition : Condition) (code : Option Code) (text : Option String)
  | condition (condition : Condition) (code : Option Code) (text : Option String)
  | messageCount (count : UInt32)
  | recent (count : UInt32)
  | flags (atoms : List String)
  | search (numbers : List UInt32)
  | mailbox (name : String)
  /-- The status of a mailbox. -/
  | status
  | expunge (number : UInt32)
  | fetch (number : UInt32) (items : List FetchItem)
  | capabilities (names : List String)
  /-- Data that nothing here looks at. -/
  | other
  deriving DecidableEq

namespace Grammar

def skip {α : Type} (scanner : Scanner α) : Scanner Unit :=
  (fun _ => ()) <$> scanner

def after {α : Type} (name : String) (scanner : Scanner α) : Scanner α :=
  following (keyword name) scanner

/-- Reads values one after the other, with single spaces between them. -/
def spaced : List (Scanner Unit) → Scanner Unit
  | [] => succeed ()
  | [last] => last
  | first :: others => do
    first
    word " "
    spaced others

/-! ## Flags, names and codes -/

/-- A flag: a backslash and an atom, or an atom. -/
def flag : Scanner String :=
  orElse
    (do
      word "\\"
      let name ← run isAtom
      pure ("\\" ++ Text.decodeLossy name))
    (utf8 (run1 isAtomOrBracket))

/-- A list of flags, in which `\*` may stand for new ones. -/
def flagList : Scanner (List String) :=
  listOf (orElse ((fun _ => "\\*") <$> word "\\*") flag)

/-- The name of a mailbox; the inbox is known in any case. -/
def mailboxName : Scanner String :=
  (fun name => if Text.sameButCase name "INBOX" then "INBOX" else name) <$> astring

def capability : Scanner String :=
  choice [
    (fun _ => "IMAP4rev1") <$> keyword "IMAP4rev1",
    ("AUTH=" ++ ·) <$> after "AUTH=" atom,
    atom]

/-- The capabilities of a server, which have to name the protocol. -/
def capabilityData : Scanner (List String) :=
  convert (after "CAPABILITY" (many (following (word " ") capability))) fun names =>
    if names.contains "IMAP4rev1" then some names else none

/-- A set of message numbers: numbers and ranges. -/
def uidSet : Scanner Unit :=
  skip (separated1 (word ",")
    (orElse
      (do
        let _ ← number
        word ":"
        skip number)
      (skip number)))

/-- The code that stands in brackets before a text. -/
def code : Scanner Code := do
  word "["
  let code ← choice [
    (fun _ => .other) <$> keyword "ALERT",
    (fun _ => .other) <$> after "BADCHARSET" (optional (following (word " ") (listOf1 astring))),
    Code.capabilities <$> capabilityData,
    (fun _ => .other) <$> keyword "PARSE",
    (fun _ => .other) <$> after "PERMANENTFLAGS " flagList,
    Code.uidValidity <$> after "UIDVALIDITY " number,
    Code.uidNext <$> after "UIDNEXT " number,
    (fun _ => .other) <$> after "UNSEEN " number,
    (fun _ => .other) <$> keyword "READ-ONLY",
    (fun _ => .other) <$> keyword "READ-WRITE",
    (fun _ => .other) <$> keyword "TRYCREATE",
    (fun _ => .other) <$> after "HIGHESTMODSEQ " number64,
    (fun _ => .other) <$> after "APPENDUID " (spaced [skip number, uidSet]),
    (fun _ => .other) <$> after "COPYUID " (spaced [skip number, uidSet, uidSet]),
    (fun _ => .other) <$> keyword "UIDNOTSTICKY",
    (fun _ => .other) <$> after "METADATA LONGENTRIES " number64,
    (fun _ => .other) <$> after "METADATA MAXSIZE " number64,
    (fun _ => .other) <$> keyword "METADATA TOOMANY",
    (fun _ => .other) <$> keyword "METADATA NOPRIVATE"]
  word "]"
  pure code

/-- A code and a text.  One octet stands between them, whatever it is, and an empty text is none. -/
def codeAndText : Scanner (Option Code × Option String) := do
  let code ← optional code
  let text ← text
  if text = "" then pure (code, none)
  else if code.isSome then pure (code, some (String.ofList (text.toList.drop 1)))
  else pure (code, some text)

/-- The code and the text at the end of a reply, which may be missing together with the space before
them. -/
def trailingText : Scanner (Option Code × Option String) :=
  (·.getD (none, none)) <$> optional (following (word " ") codeAndText)

def condition : Scanner Condition :=
  choice [
    (fun _ => .ok) <$> keyword "OK",
    (fun _ => .no) <$> keyword "NO",
    (fun _ => .bad) <$> keyword "BAD",
    (fun _ => .preAuth) <$> keyword "PREAUTH",
    (fun _ => .bye) <$> keyword "BYE"]

/-! ## Data about mailboxes -/

/-- An attribute of a mailbox in a list of mailboxes. -/
def nameAttribute : Scanner Unit :=
  choice ((["\\Noinferiors", "\\Noselect", "\\Marked", "\\Unmarked", "\\All", "\\Archive",
    "\\Drafts", "\\Flagged", "\\Junk", "\\Sent", "\\Trash"].map keyword) ++
    [following (word "\\") (skip (run isAtom))])

/-- An entry of a list of mailboxes. -/
def mailboxEntry : Scanner String := do
  let _ ← listOf nameAttribute
  word " "
  orElse (skip (utf8 quoted)) nil
  word " "
  mailboxName

def statusItem : Scanner Unit :=
  choice (after "HIGHESTMODSEQ " (skip number64) ::
    ["MESSAGES ", "RECENT ", "UIDNEXT ", "UIDVALIDITY ", "UNSEEN "].map fun name =>
      after name (skip number))

/-- Numbers, each with a space before it. -/
def spacedNumbers : Scanner (List UInt32) :=
  many (following (word " ") number)

/-- A list of labels of a message. -/
def labelList : Scanner Unit :=
  after "X-GM-LABELS " (skip (listOf (orElse flag (utf8 quoted))))

/-- A number that names a message or a thread. -/
def labelNumber : Scanner Unit :=
  orElse (after "X-GM-MSGID " (skip number64)) (after "X-GM-THRID " (skip number64))

def mailboxData : Scanner Reply :=
  choice [
    Reply.flags <$> after "FLAGS " flagList,
    (do
      let count ← number
      keyword " EXISTS"
      pure (.messageCount count)),
    Reply.mailbox <$> after "LIST " mailboxEntry,
    (fun _ => .other) <$> after "LSUB " mailboxEntry,
    (fun _ => .status) <$> after "STATUS " (spaced [skip mailboxName, skip (listOf statusItem)]),
    (do
      let count ← number
      keyword " RECENT"
      pure (.recent count)),
    (do
      let numbers ← after "SEARCH" spacedNumbers
      let _ ← optional (word " ")
      pure (.search numbers)),
    (fun _ => .other) <$> labelList,
    (fun _ => .other) <$> labelNumber,
    (fun _ => .other) <$> after "SORT" spacedNumbers]

/-! ## The structure of a message -/

def address : Scanner Unit :=
  parenthesized (spaced (List.replicate 4 (skip nstring)))

/-- The addresses of one field of an envelope. -/
def addresses : Scanner Unit :=
  orElse nil (skip (parenthesized (many1 (do
    address
    optional (word " ")))))

/-- The envelope of a message: date, subject, six fields of addresses, and two identifiers. -/
def envelope : Scanner Unit :=
  parenthesized (spaced ([skip nstring, skip nstring] ++ List.replicate 6 addresses ++
    [skip nstring, skip nstring]))

def parameters : Scanner Unit :=
  orElse nil (skip (listOf1 (spaced [skip stringText, skip stringText])))

def transferEncoding : Scanner Unit :=
  orElse
    (do
      word "\""
      choice (["7BIT", "8BIT", "BINARY", "BASE64", "QUOTED-PRINTABLE"].map keyword)
      word "\"")
    (skip stringText)

def partFields : Scanner Unit :=
  spaced [parameters, skip nstringText, skip nstringText, transferEncoding, skip number]

/-- How a part is to be shown. -/
def disposition : Scanner Unit :=
  orElse nil (parenthesized (spaced [skip stringText, parameters]))

def languages : Scanner Unit :=
  orElse (skip nstringText) (skip (listOf1 stringText))

/-- An extension of the description of a part, at most `depth` lists deep. -/
def partExtension : Nat → Scanner Unit
  | 0 => reject
  | depth + 1 =>
    choice [skip number, skip nstringText, skip (listOf1 (partExtension depth))]

/-- Optional values, each with a space before it. -/
def optionals (scanners : List (Scanner Unit)) : Scanner Unit :=
  scanners.foldr (fun scanner others => do
    let _ ← optional (following (word " ") scanner)
    others) (succeed ())

/-- The description of a message's structure, at most `depth` parts deep. -/
def bodyStructure : Nat → Scanner Unit
  | 0 => reject
  | depth + 1 =>
    let single := optionals [skip nstringText, disposition, languages, skip nstringText,
      partExtension depth]
    let several := optionals [parameters, disposition, languages, skip nstringText,
      partExtension depth]
    parenthesized (choice [
      (do
        spaced [keyword "\"TEXT\"", skip stringText, partFields, skip number]
        single),
      (do
        spaced [keyword "\"MESSAGE\" \"RFC822\"", partFields, envelope, bodyStructure depth,
          skip number]
        single),
      (do
        spaced [skip stringText, skip stringText, partFields]
        single),
      (do
        let _ ← many1 (bodyStructure depth)
        word " "
        let _ ← stringText
        several)])

/-! ## What a fetch tells -/

/-- A section of a message or of a part. -/
def messageSection : Scanner Section :=
  choice [
    (do
      keyword "HEADER.FIELDS"
      let _ ← optional (keyword ".NOT")
      word " "
      let _ ← listOf astring
      pure .header),
    (fun _ => .header) <$> keyword "HEADER",
    (fun _ => .text) <$> keyword "TEXT"]

def partSection : Scanner Section := do
  let _ ← number
  let _ ← many (following (word ".") number)
  let _ ← optional (following (word ".") (orElse (skip messageSection) (keyword "MIME")))
  pure .part

/-- A section of a body, with its data. -/
def bodySection : Scanner FetchItem := do
  keyword "BODY"
  word "["
  let portion ← optional (orElse messageSection partSection)
  word "]"
  let _ ← optional (do
    word "<"
    let _ ← number
    word ">")
  word " "
  let data ← nstring
  pure (.body (portion.getD .whole) data)

/-- The date at which the server received a message.  It cannot be absent. -/
def internalDate : Scanner FetchItem := do
  match ← after "INTERNALDATE " nstringText with
  | some text => pure (.internalDate text)
  | none => fun _ => .unrepresentable

def fetchItem : Scanner FetchItem :=
  choice [
    bodySection,
    after "BODYSTRUCTURE " (fun input =>
      ((fun _ => FetchItem.other) <$> bodyStructure (input.length + 1)) input),
    (fun _ => .other) <$> after "ENVELOPE " envelope,
    internalDate,
    FetchItem.flags <$> after "FLAGS " flagList,
    (fun _ => .other) <$> after "MODSEQ " (parenthesized number64),
    FetchItem.message <$> after "RFC822 " nstring,
    FetchItem.messageHeader <$> after "RFC822.HEADER " (do
      let _ ← optional (word " ")
      nstring),
    FetchItem.size <$> after "RFC822.SIZE " number,
    (fun _ => .other) <$> after "RFC822.TEXT " nstring,
    FetchItem.uid <$> after "UID " number,
    (fun _ => .other) <$> labelList,
    (fun _ => .other) <$> labelNumber]

/-- What a fetch tells about one message. -/
def fetch : Scanner Reply := do
  let number ← number
  keyword " FETCH "
  let items ← listOf1 fetchItem
  pure (.fetch number items)

/-- The notice that a message is gone. -/
def expunge : Scanner Reply := do
  let number ← number
  keyword " EXPUNGE"
  pure (.expunge number)

/-! ## Extensions -/

/-- One component of the name of an annotation. -/
def entryComponent : Scanner Unit := do
  word "/"
  skip (run1 fun octet =>
    0x20 < octet && octet < 0x80 && octet != Octet.star && octet != 0x25 && octet != Octet.slash &&
      octet != Octet.closeParen)

def entryName : Scanner Unit := do
  let own (name : String) (scanner : Scanner Unit) := following (word name) scanner
  let named := orElse (word "/comment") (own "/vendor" entryComponent)
  orElse (own "/private" named) (own "/shared" (orElse (word "/admin") named))
  skip (many entryComponent)

/-- Annotations of a mailbox: with values, or names alone. -/
def annotations : Scanner Unit := do
  keyword "METADATA "
  let _ ← quoted
  word " "
  orElse
    (skip (listOf1 (spaced [entryName, orElse nil (skip (utf8 string))])))
    (skip (separated (word " ") entryName))

def quota : Scanner Unit := do
  keyword "QUOTA"
  blanks
  let _ ← astring
  blanks
  skip (listOf (do
    choice [keyword "STORAGE", keyword "MESSAGE", skip atom]
    blanks
    let _ ← number64
    blanks
    skip number64))

def quotaRoot : Scanner Unit := do
  keyword "QUOTAROOT"
  blanks
  let _ ← astring
  skip (many (following blanks astring))

def identification : Scanner Unit :=
  after "ID " (orElse nil (parenthesized
    (skip (separated1 (word " ") (spaced [skip stringText, skip nstringText])))))

def rights : Scanner Unit :=
  let texts (count : Nat) : Scanner Unit :=
    (List.replicate count ()).foldr (fun _ others => do
      blanks
      let _ ← astring
      others) (succeed ())
  choice [
    (do
      keyword "ACL"
      blanks
      let _ ← mailboxName
      skip (many (texts 2))),
    (do
      keyword "LISTRIGHTS"
      texts 3
      skip (many (texts 1))),
    (do
      keyword "MYRIGHTS"
      texts 2)]

/-- The messages that are gone, by their unique numbers. -/
def vanished : Scanner Unit := do
  keyword "VANISHED"
  let _ ← optional (keyword " (EARLIER)")
  word " "
  uidSet

/-! ## Replies -/

/-- A request to go on.  The space after the plus sign may be missing. -/
def continuation : Scanner Reply := do
  word "+"
  let _ ← optional (word " ")
  let (code, text) ← codeAndText
  word "\r\n"
  pure (.continuation code text)

def untagged : Scanner Reply := do
  word "* "
  let reply ← choice [
    (do
      let condition ← condition
      let (code, text) ← trailingText
      pure (.condition condition code text)),
    mailboxData,
    expunge,
    fetch,
    Reply.capabilities <$> capabilityData,
    Reply.capabilities <$> after "ENABLED" (many (following (word " ") capability)),
    (fun _ => .other) <$> annotations,
    (fun _ => .other) <$> vanished,
    (fun _ => .other) <$> quota,
    (fun _ => .other) <$> quotaRoot,
    (fun _ => .other) <$> identification,
    (fun _ => .other) <$> rights]
  let _ ← many (word " ")
  word "\r\n"
  pure reply

def completion : Scanner Reply := do
  let tag ← utf8 (run1 isTag)
  word " "
  let condition ← condition
  let (code, text) ← trailingText
  word "\r\n"
  pure (.completion tag condition code text)

def reply : Scanner Reply :=
  choice [continuation, untagged, completion]

end Grammar

end MailReplica.Wire
