import MailReplica.Header.CharacterSet

/-! # Encoded words

A header holds ASCII text.  Any other text travels as an encoded word, `=?charset?Q?data?=` or
`=?charset?B?data?=`, where the data are octets of the character set in quoted or in base64 form.
Reading one either gives its text and the octets after it, or refuses and leaves the input to be
read as plain text.
-/

namespace MailReplica.Header

/-- A reader of encoded data: the octets read and what follows the closing `?=`, or refusal. -/
abbrev DataReader := Octets → Option (Octets × Octets)

/-- Whether a blank begins the line, so that it goes on from the line before. -/
def continuesLine : Octets → Bool
  | octet :: _ => Octet.isGap octet
  | [] => false

/-- What follows the equals sign that `octets` begin with. -/
def afterEquals? : Octets → Option Octets
  | octet :: rest => if octet == Octet.equals then some rest else none
  | [] => none

/-! ## Quoted data -/

/-- What the next octet of quoted data belongs to. -/
inductive QuotedState where
  /-- An octet of its own. -/
  | plain
  /-- The first digit of an escape. -/
  | escape
  /-- The second digit of an escape, after the digit `high`. -/
  | half (high : Nat)

/-- The state after an equals sign, which may only begin an escape. -/
def QuotedState.afterEscape? : QuotedState → Option QuotedState
  | .plain => some .escape
  | _ => none

/-- The state after an octet that has no meaning but its own, and the octet of data that it
completes. -/
def QuotedState.afterOctet? (octet : UInt8) : QuotedState → Option (QuotedState × Octets)
  | .plain => some (.plain, [octet])
  | .escape => (Octet.hexValue? octet).map fun high => (.half high, [])
  | .half high => (Octet.hexValue? octet).map fun low => (.plain, [UInt8.ofNat (high * 16 + low)])

/-- Reads quoted data: `=XX` is an octet in hexadecimal, `_` is a space, and a folded line end with
the blanks after it (`folded`) is nothing. -/
def readQuoted (folded : Bool) (state : QuotedState) (read : Octets) : DataReader
  | [] => none
  | octet :: rest =>
    if folded && Octet.isGap octet then readQuoted true state read rest
    else if octet == Octet.equals then
      match state.afterEscape? with
      | some next => readQuoted false next read rest
      | none => none
    else if octet == Octet.question then
      match afterEquals? rest with
      | some after => some (read.reverse, after)
      | none => readQuoted false state (octet :: read) rest
    else if octet == Octet.lf then
      if continuesLine rest then readQuoted true state read rest else none
    else if octet == Octet.underscore then readQuoted false state (Octet.space :: read) rest
    else if octet == Octet.cr then readQuoted false state read rest
    else
      match state.afterOctet? octet with
      | some (next, data) => readQuoted false next (data ++ read) rest
      | none => none

/-! ## Base64 data -/

/-- The whole octets that the digits of a padded group stand for. -/
def paddedGroup : List Nat → Octets
  | [a] => [UInt8.ofNat (a * 4)]
  | [a, b] => [UInt8.ofNat (a * 4 + b / 16)]
  | [a, b, c] => [UInt8.ofNat (a * 4 + b / 16), UInt8.ofNat (b % 16 * 16 + c / 4)]
  | _ => []

/-- Reads base64 data with the digits `group` of the current group read already.  A group that the
data break off in is dropped. -/
def readBase64 (group : List Nat) (read : Octets) : DataReader
  | [] => none
  | octet :: rest =>
    if octet == Octet.question then
      (afterEquals? rest).map (read.reverse, ·)
    else if octet == Octet.equals then
      readBase64 [] ((paddedGroup group).reverse ++ read) rest
    else if octet == Octet.lf then
      if continuesLine rest then readBase64 group read rest else none
    else if Octet.isGap octet || octet == Octet.cr then readBase64 group read rest
    else
      match Octet.sextet? octet, group with
      | none, _ => none
      | some d, [a, b, c] =>
        readBase64 [] (UInt8.ofNat (c % 4 * 64 + d) :: UInt8.ofNat (b % 16 * 16 + c / 4) ::
          UInt8.ofNat (a * 4 + b / 16) :: read) rest
      | some d, _ => readBase64 (group ++ [d]) read rest

/-! ## Words -/

/-- The character set of a word, without the language that may follow it after a star. -/
def charsetOf (label : Octets) : Octets :=
  let name := label.takeWhile (· != Octet.star)
  if name.isEmpty then label else name

/-- Reads an encoded word whose `=` has been read already. -/
def encodedWord? : Octets → Option (String × Octets)
  | Octet.question :: afterMark =>
    let label := afterMark.takeWhile (fun octet => octet != Octet.question && octet != Octet.lf)
    let charset := charsetOf label
    match afterMark.drop label.length with
    | Octet.question :: form :: Octet.question :: data =>
      if charset.length < 2 then none
      else
        let read? :=
          if Octet.lower form == 0x71 then readQuoted false .plain [] data
          else if Octet.lower form == 0x62 then readBase64 [] [] data
          else none
        read?.map fun (octets, rest) => (decodeCharset charset octets, rest)
    | _ => none
  | _ => none

end MailReplica.Header
