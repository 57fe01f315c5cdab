import MailReplica.Header.CodeTable
import MailReplica.Header.WideSet

/-! # Character sets

The text of octets in a character set that a header names.
-/

namespace MailReplica.Header

/-- The names of ISO-8859-1, in lower case. -/
def latin1Names : List String :=
  ["iso-8859-1", "iso8859-1", "iso_8859-1", "latin1", "l1", "csisolatin1", "iso-ir-100", "ibm819",
    "cp819"]

/-- The text of `octets` in the character set called `charset`.  Octets of a set that is not known
are read as UTF-8. -/
def decodeCharset (charset octets : Octets) : String :=
  let name := Text.decodeLossy (charset.map Octet.lower)
  match CodeTable.all.find? (·.names.contains name), WideSet.all.find? (·.names.contains name) with
  | some table, _ => String.ofList (octets.map table.char)
  | none, some set => String.ofList (set.decode octets)
  | none, none =>
    if latin1Names.contains name then String.ofList (octets.map (Char.ofNat ·.toNat))
    else if ["utf-16", "csutf16"].contains name then Text.decodeUtf16 octets
    else if ["utf-16be", "csutf16be"].contains name then Text.decodeUnits true octets
    else if ["utf-16le", "csutf16le"].contains name then Text.decodeUnits false octets
    else Text.decodeLossy octets

end MailReplica.Header
