import MailReplica.Wire.Scan

/-! # Tokens of the mail protocol

Numbers, atoms, strings and texts.  A quoted string holds ASCII text with a backslash before each
quotation mark and backslash; a literal `\x7bn\x7d` is followed by a line end and `n` octets of any
kind.
-/

namespace MailReplica.Wire.Token

open Scanner

/-! ## Classes of octets -/

/-- An octet of ASCII other than 0. -/
def isAscii (octet : UInt8) : Bool :=
  0x01 ≤ octet && octet ≤ 0x7F

/-- An octet of a text: no line end. -/
def isText (octet : UInt8) : Bool :=
  isAscii octet && octet != Octet.cr && octet != Octet.lf

/-- An octet with a meaning inside quotation marks. -/
def isQuotedSpecial (octet : UInt8) : Bool :=
  octet == Octet.quote || octet == Octet.backslash

def isAtom (octet : UInt8) : Bool :=
  isAscii octet && !(octet < 0x20 || octet == Octet.space || octet == Octet.openParen ||
    octet == Octet.closeParen || octet == 0x7B || octet == 0x25 || octet == Octet.star ||
    isQuotedSpecial octet || octet == 0x5D)

/-- An octet of an atom or the closing bracket. -/
def isAtomOrBracket (octet : UInt8) : Bool :=
  isAtom octet || octet == 0x5D

def isTag (octet : UInt8) : Bool :=
  octet != Octet.plus && isAtomOrBracket octet

/-! ## Numbers -/

/-- The number that decimal digits stand for. -/
def digitsValue (digits : Octets) : Nat :=
  digits.foldl (fun value digit => value * 10 + Octet.digitValue digit) 0

def numberBelow (size : Nat) : Scanner Nat :=
  convert (run1 Octet.isDigit) fun digits =>
    if digitsValue digits < size then some (digitsValue digits) else none

def number : Scanner UInt32 :=
  UInt32.ofNat <$> numberBelow UInt32.size

def number64 : Scanner UInt64 :=
  UInt64.ofNat <$> numberBelow UInt64.size

/-! ## Strings -/

/-- Octets as the text they encode; refused if they encode none. -/
def utf8 (scanner : Scanner Octets) : Scanner String :=
  convert scanner Text.decode?

/-- The content of a quoted string up to its closing quotation mark, with the backslashes.  It ends
at the first octet that no quoted string can hold. -/
def quotedContent (read : Octets) : Scanner Octets
  | [] => .incomplete
  | [octet] =>
    if octet == Octet.backslash || (isText octet && !isQuotedSpecial octet) then .incomplete
    else .found read.reverse [octet]
  | octet :: next :: rest =>
    if octet == Octet.backslash then
      if isQuotedSpecial next then
        quotedContent (next :: octet :: read) rest
      else .rejected
    else if isText octet && !isQuotedSpecial octet then quotedContent (octet :: read) (next :: rest)
    else .found read.reverse (octet :: next :: rest)

/-- A quoted string, as it is written. -/
def quoted : Scanner Octets := do
  word "\""
  let content ← quotedContent []
  word "\""
  pure content

def literal : Scanner Octets := do
  word "\x7b"
  let count ← number
  word "\x7d"
  word "\r\n"
  take count.toNat

def string : Scanner Octets :=
  orElse quoted literal

def stringText : Scanner String :=
  utf8 string

def nil : Scanner Unit :=
  keyword "NIL"

def nstring : Scanner (Option Octets) :=
  orElse ((fun _ => none) <$> nil) (some <$> string)

/-- A string that is UTF-8, or its absence. -/
def nstringText : Scanner (Option String) :=
  orElse ((fun _ => none) <$> nil) (some <$> stringText)

def atom : Scanner String :=
  utf8 (run1 isAtom)

/-- A string, or an atom that may hold closing brackets. -/
def astring : Scanner String :=
  utf8 (orElse (run1 isAtomOrBracket) string)

def text : Scanner String :=
  utf8 (run isText)

def blanks : Scanner Unit :=
  (fun _ => ()) <$> run1 Octet.isGap

end MailReplica.Wire.Token
