/-! # UTF-8

Octets of a text, and texts of octets.  Reading is total: a run of octets that begins no character
is read as one replacement character, where the run is the longest one that some character could
begin with, or one octet if there is none.
-/

namespace MailReplica

/-- A sequence of octets, as it travels on a connection. -/
abbrev Octets := List UInt8

namespace Text

def encode (text : String) : Octets :=
  text.toList.flatMap String.utf8EncodeChar

/-- How a sequence that starts with a given octet goes on. -/
structure LeadShape where
  /-- The bits of the character in the lead octet. -/
  bits : Nat
  /-- The least second octet. -/
  low : UInt8
  /-- The greatest second octet. -/
  high : UInt8
  /-- How many octets follow the second one. -/
  more : Nat

/-- The shape announced by the lead octet of a sequence of two or more octets.  The bounds on the
second octet leave out overlong forms, surrogates and codes above U+10FFFF. -/
def leadShape? (lead : UInt8) : Option LeadShape :=
  let code := lead.toNat
  if 0xC2 ≤ code ∧ code ≤ 0xDF then some ⟨code - 0xC0, 0x80, 0xBF, 0⟩
  else if code = 0xE0 then some ⟨0, 0xA0, 0xBF, 1⟩
  else if code = 0xED then some ⟨0xD, 0x80, 0x9F, 1⟩
  else if 0xE1 ≤ code ∧ code ≤ 0xEF then some ⟨code - 0xE0, 0x80, 0xBF, 1⟩
  else if code = 0xF0 then some ⟨0, 0x90, 0xBF, 2⟩
  else if 0xF1 ≤ code ∧ code ≤ 0xF3 then some ⟨code - 0xF0, 0x80, 0xBF, 2⟩
  else if code = 0xF4 then some ⟨4, 0x80, 0x8F, 2⟩
  else none

/-- Reads `count` continuation octets onto the bits `code`.  The rest starts with the first octet
that is none. -/
def continuation (code : Nat) : Nat → Octets → Option Char × Octets
  | 0, octets => (some (Char.ofNat code), octets)
  | _ + 1, [] => (none, [])
  | count + 1, octet :: rest =>
    if 0x80 ≤ octet ∧ octet ≤ 0xBF then continuation (code * 64 + (octet.toNat - 0x80)) count rest
    else (none, octet :: rest)

theorem continuation_length (code count : Nat) (octets : Octets) :
    (continuation code count octets).2.length ≤ octets.length := by
  induction count generalizing code octets with
  | zero => simp [continuation]
  | succ count ih =>
    cases octets with
    | nil => simp [continuation]
    | cons octet rest =>
      simp only [continuation]
      split
      · exact Nat.le_succ_of_le (ih _ rest)
      · exact Nat.le_refl _

/-- Reads one character, or one malformed run, whose first octet is `lead`. -/
def readChar (lead : UInt8) (rest : Octets) : Option Char × Octets :=
  if lead < 0x80 then (some (Char.ofNat lead.toNat), rest)
  else
    match leadShape? lead, rest with
    | some shape, second :: tail =>
      if shape.low ≤ second ∧ second ≤ shape.high then
        continuation (shape.bits * 64 + (second.toNat - 0x80)) shape.more tail
      else (none, rest)
    | _, _ => (none, rest)

theorem readChar_length (lead : UInt8) (rest : Octets) :
    (readChar lead rest).2.length ≤ rest.length := by
  unfold readChar
  split
  · exact Nat.le_refl _
  · split
    · split
      · exact Nat.le_succ_of_le (continuation_length _ _ _)
      · exact Nat.le_refl _
    · exact Nat.le_refl _

/-- The characters of `octets`, with `none` for each malformed run. -/
def readChars : Octets → List (Option Char)
  | [] => []
  | lead :: rest =>
    (readChar lead rest).1 :: readChars (readChar lead rest).2
termination_by octets => octets.length
decreasing_by exact Nat.lt_succ_of_le (readChar_length lead rest)

/-- The text of `octets`, with U+FFFD for each malformed run. -/
def decodeLossy (octets : Octets) : String :=
  String.ofList ((readChars octets).map (·.getD (Char.ofNat 0xFFFD)))

/-- The text of `octets`, if they hold no malformed run. -/
def decode? (octets : Octets) : Option String :=
  ((readChars octets).mapM id).map String.ofList

end Text

end MailReplica
