import MailReplica.Text.Utf8

/-! # Octets with a meaning

Names for the ASCII octets that the formats of mail give a meaning to, and the classes of octets
that they speak of.
-/

namespace MailReplica.Octet

@[match_pattern] abbrev tab : UInt8 := 0x09
@[match_pattern] abbrev lf : UInt8 := 0x0A
@[match_pattern] abbrev cr : UInt8 := 0x0D
@[match_pattern] abbrev space : UInt8 := 0x20
@[match_pattern] abbrev quote : UInt8 := 0x22
@[match_pattern] abbrev openParen : UInt8 := 0x28
@[match_pattern] abbrev closeParen : UInt8 := 0x29
@[match_pattern] abbrev star : UInt8 := 0x2A
@[match_pattern] abbrev plus : UInt8 := 0x2B
@[match_pattern] abbrev comma : UInt8 := 0x2C
@[match_pattern] abbrev minus : UInt8 := 0x2D
@[match_pattern] abbrev slash : UInt8 := 0x2F
@[match_pattern] abbrev colon : UInt8 := 0x3A
@[match_pattern] abbrev semicolon : UInt8 := 0x3B
@[match_pattern] abbrev less : UInt8 := 0x3C
@[match_pattern] abbrev equals : UInt8 := 0x3D
@[match_pattern] abbrev greater : UInt8 := 0x3E
@[match_pattern] abbrev question : UInt8 := 0x3F
@[match_pattern] abbrev atSign : UInt8 := 0x40
@[match_pattern] abbrev backslash : UInt8 := 0x5C
@[match_pattern] abbrev underscore : UInt8 := 0x5F

def isGap (octet : UInt8) : Bool :=
  octet == space || octet == tab

def isDigit (octet : UInt8) : Bool :=
  0x30 ≤ octet && octet ≤ 0x39

def digitValue (octet : UInt8) : Nat :=
  octet.toNat - 0x30

def isLetter (octet : UInt8) : Bool :=
  (0x41 ≤ octet && octet ≤ 0x5A) || (0x61 ≤ octet && octet ≤ 0x7A)

/-- An ASCII capital letter in lower case; any other octet as it is. -/
def lower (octet : UInt8) : UInt8 :=
  if 0x41 ≤ octet ∧ octet ≤ 0x5A then octet + 0x20 else octet

def hexValue? (octet : UInt8) : Option Nat :=
  if isDigit octet then some (digitValue octet)
  else if 0x61 ≤ lower octet ∧ lower octet ≤ 0x66 then some ((lower octet).toNat - 0x57)
  else none

/-- The value of a digit of base64. -/
def sextet? (octet : UInt8) : Option Nat :=
  let code := octet.toNat
  if 0x41 ≤ code ∧ code ≤ 0x5A then some (code - 0x41)
  else if 0x61 ≤ code ∧ code ≤ 0x7A then some (code - 0x61 + 26)
  else if 0x30 ≤ code ∧ code ≤ 0x39 then some (code - 0x30 + 52)
  else if code = 0x2B then some 62
  else if code = 0x2F then some 63
  else none

/-- Whether two sequences of octets differ at most in the case of ASCII letters. -/
def sameButCase (left right : Octets) : Bool :=
  left.map lower == right.map lower

end MailReplica.Octet
