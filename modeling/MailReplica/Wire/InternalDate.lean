import MailReplica.Calendar

/-! # Dates in listings

A server tells when it received a message in the form `17-Jul-1996 02:44:25 -0700`.  Blanks may
stand before a number, and a leading zero may be missing.
-/

namespace MailReplica.Wire.InternalDate

abbrev Reader := StateT (List Char) Option

def blanks : Reader Unit :=
  modify fun rest => rest.dropWhile Char.isWhitespace

def mark (c : Char) : Reader Unit := fun rest =>
  match rest with
  | first :: rest => if first = c then some ((), rest) else none
  | [] => none

def valueOf (digits : List Char) : Nat :=
  digits.foldl (fun value digit => value * 10 + (digit.toNat - '0'.toNat)) 0

/-- Reads a number of at most `width` digits, with blanks before it. -/
def number (width : Nat) : Reader Nat := do
  blanks
  let rest ← get
  let digits := (rest.take width).takeWhile Char.isDigit
  if digits.isEmpty then failure
  else
    set (rest.drop digits.length)
    return valueOf digits

/-- Reads a number of exactly two digits. -/
def twoDigits : Reader Nat := fun rest =>
  match rest with
  | first :: second :: rest =>
    if first.isDigit && second.isDigit then some (valueOf [first, second], rest) else none
  | _ => none

/-- Reads a year: four digits at most, or a sign and as many as there are. -/
def year : Reader Int := do
  blanks
  let rest ← get
  match rest with
  | '-' :: digits =>
    set digits
    return -((← number digits.length : Nat) : Int)
  | '+' :: digits =>
    set digits
    return (← number digits.length : Nat)
  | _ => return (← number 4 : Nat)

def month : Reader Nat := fun rest =>
  let name := (String.ofList (rest.take 3)).toLower
  (CivilDay.monthNames.findIdx? fun known => known.toLower == name).map fun index =>
    (index + 1, rest.drop 3)

/-- Reads the offset of a clock from UTC, in seconds. -/
def offset : Reader Int := do
  blanks
  let rest ← get
  let sign : Int ←
    match rest with
    | '+' :: _ => pure 1
    | '-' :: _ => pure (-1)
    | _ => failure
  set (rest.drop 1)
  let hours ← twoDigits
  modify fun rest => rest.dropWhile fun c => c == ':' || c.isWhitespace
  let minutes ← twoDigits
  if hours < 24 ∧ minutes < 60 then
    return sign * ((hours * 3600 + minutes * 60 : Nat) : Int)
  else failure

def exists? (date : CivilDay) : Bool :=
  -262143 ≤ date.year && date.year ≤ 262142 && CivilDay.ofDayNumber date.dayNumber == date

/-- Reads a date and a time.  The sixtieth second is a leap second: it lasts as a second second of
the one before it. -/
def date : Reader DatedInstant := do
  let day ← number 2
  mark '-'
  let month ← month
  mark '-'
  let civil : CivilDay := ⟨← year, month, day⟩
  let hour ← number 2
  mark ':'
  let minute ← number 2
  mark ':'
  let second ← number 2
  let offset ← offset
  if exists? civil && hour < 24 && minute < 60 && second ≤ 60 then
    let leap := second / 60
    let time : Int := hour * 3600 + minute * 60 + second - leap
    let seconds := civil.dayNumber * Instant.daySeconds + time - offset
    return ⟨⟨seconds, leap * 1000000000⟩, offset⟩
  else failure

/-- The instant that a text tells, if it tells one. -/
def read? (text : String) : Option DatedInstant :=
  match date.run text.toList with
  | some (date, []) => some date
  | _ => none

end MailReplica.Wire.InternalDate
