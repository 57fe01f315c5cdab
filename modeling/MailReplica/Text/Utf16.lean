import MailReplica.Text.Utf8

/-! # UTF-16

Texts of 16-bit units.  Reading is total: a surrogate without its partner is read as one replacement
character, and an octet left over at the end as nothing.
-/

namespace MailReplica.Text

/-- The 16-bit units of `octets`, the more significant octet first or second. -/
def units (bigEndian : Bool) : Octets → List Nat
  | first :: second :: rest =>
    (if bigEndian then first.toNat * 256 + second.toNat else second.toNat * 256 + first.toNat) ::
      units bigEndian rest
  | _ => []

/-- The characters of 16-bit units, with U+FFFD for a surrogate without its partner. -/
def unitChars : List Nat → List Char
  | [] => []
  | [unit] => [if 0xD800 ≤ unit ∧ unit ≤ 0xDFFF then Char.ofNat 0xFFFD else Char.ofNat unit]
  | unit :: next :: rest =>
    if 0xD800 ≤ unit ∧ unit ≤ 0xDBFF then
      if 0xDC00 ≤ next ∧ next ≤ 0xDFFF then
        Char.ofNat (0x10000 + (unit - 0xD800) * 0x400 + (next - 0xDC00)) :: unitChars rest
      else Char.ofNat 0xFFFD :: unitChars (next :: rest)
    else if 0xDC00 ≤ unit ∧ unit ≤ 0xDFFF then Char.ofNat 0xFFFD :: unitChars (next :: rest)
    else Char.ofNat unit :: unitChars (next :: rest)

/-- The text of `octets` in UTF-16 of the given order. -/
def decodeUnits (bigEndian : Bool) (octets : Octets) : String :=
  String.ofList (unitChars (units bigEndian octets))

/-- The text of `octets` in UTF-16.  A byte order mark decides the order and is no text. -/
def decodeUtf16 : Octets → String
  | 0xFE :: 0xFF :: rest => decodeUnits true rest
  | 0xFF :: 0xFE :: rest => decodeUnits false rest
  | octets => decodeUnits false octets

end MailReplica.Text
