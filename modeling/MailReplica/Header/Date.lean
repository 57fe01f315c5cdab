import MailReplica.Calendar
import MailReplica.Text.Octet

/-! # Dates in headers

The value of a field such as `Date`: day, month, year, hour, minute, second and offset, in this
order and with anything between them.  Digits count by place, so a part holds at most as many as its
width.  A value that never gets as far as the offset has no date.
-/

namespace MailReplica.Header

inductive DatePart where
  | day
  | month
  | year
  | hour
  | minute
  | second
  | offset
  /-- What follows the offset. -/
  | done
  deriving DecidableEq

namespace DatePart

def next : DatePart → DatePart
  | day => month
  | month => year
  | year => hour
  | hour => minute
  | minute => second
  | second => offset
  | offset | done => done

def width : DatePart → Nat
  | day | month | hour | minute | second => 2
  | year | offset => 4
  | done => 0

end DatePart

/-- A part's value as far as it has been read. -/
structure PartValue where
  value : Nat
  /-- How many more digits the part holds. -/
  room : Nat

structure DateState where
  part : DatePart
  values : DatePart → PartValue
  /-- The letters of the month's name, latest first. -/
  monthName : Octets
  /-- Whether the offset is ahead of UTC. -/
  ahead : Bool
  /-- Whether no token has begun yet. -/
  fresh : Bool
  /-- Whether no digit has been read yet. -/
  idle : Bool
  /-- How many comments the current octet is in. -/
  depth : Nat
  /-- Whether a backslash stands before the octet, inside a comment. -/
  escaped : Bool

namespace DateState

def start : DateState where
  part := .day
  values := fun part => ⟨0, part.width⟩
  monthName := []
  ahead := true
  fresh := true
  idle := true
  depth := 0
  escaped := false

/-- Ends the part: its digits were all of its number, and not the first ones of a longer one. -/
def endPart (state : DateState) : DateState :=
  let current := state.values state.part
  let ended : PartValue := ⟨current.value / Nat.pow 10 current.room, current.room⟩
  { state with
    part := state.part.next
    values := fun part => if part = state.part then ended else state.values part
    fresh := true }

/-- Ends the part if one has been begun. -/
def separate (state : DateState) : DateState :=
  if !state.fresh && !state.idle then state.endPart else state

/-- A digit of the current part, if there is room for it. -/
def addDigit (state : DateState) (digit : Nat) : DateState :=
  let current := state.values state.part
  if current.room = 0 then { state with fresh := false }
  else
    let longer : PartValue :=
      ⟨current.value + digit * Nat.pow 10 (current.room - 1), current.room - 1⟩
    { state with
      values := fun part => if part = state.part then longer else state.values part
      idle := false
      fresh := false }

def comment (state : DateState) (octet : UInt8) : DateState :=
  if state.escaped && octet == Octet.closeParen then { state with escaped := false }
  else
    let state := { state with escaped := false }
    if octet == Octet.closeParen then { state with depth := state.depth - 1 }
    else if octet == Octet.openParen then { state with depth := state.depth + 1 }
    else if octet == Octet.backslash then { state with escaped := true }
    else state

/-- An octet other than a line end. -/
def step (state : DateState) (octet : UInt8) : DateState :=
  if 0 < state.depth then state.comment octet
  else if Octet.isDigit octet then state.addDigit (Octet.digitValue octet)
  else if octet == Octet.colon then
    if state.part = .hour ∨ state.part = .minute then state.separate else state
  else if octet == Octet.plus then { state with part := .offset }
  else if octet == Octet.minus then { state with part := .offset, ahead := false }
  else if Octet.isGap octet then state.separate
  else if Octet.isLetter octet then
    { state with
      monthName :=
        if state.part = .month then Octet.lower octet :: state.monthName else state.monthName
      fresh := false }
  else if octet == Octet.openParen then { state with depth := 1, fresh := true }
  else if octet == Octet.semicolon then start
  else state

/-- The number of the month: by the last two letters of a name of three, else by its digits. -/
def month (state : DateState) : Nat :=
  let digits := (state.values .month).value
  match state.monthName with
  | [third, second, _] =>
    let tails := ["an", "eb", "ar", "pr", "ay", "un", "ul", "ug", "ep", "ct", "ov", "ec"]
    match tails.idxOf? (Text.decodeLossy [second, third]) with
    | some index => index + 1
    | none => digits
  | _ => digits

/-- The year: two digits stand for a year from 1950 to 2049. -/
def year (state : DateState) : Nat :=
  let digits := (state.values .year).value
  if 1 ≤ digits ∧ digits ≤ 49 then digits + 2000
  else if 50 ≤ digits ∧ digits ≤ 99 then digits + 1900
  else digits

/-- The day number of a date that need not be in the calendar.  Years begin in March, a month before
January is the December before, and the days of a month past the twelfth go on at the same pace. -/
def dayNumber (year month day : Nat) : Int :=
  let marchYear : Int := year + 4800 - (if month < 3 then 1 else 0)
  let marchMonth := if month < 3 then month + 9 else month - 3
  let monthDays := (marchMonth * 62719 + 769) / 2048
  let leapDays := marchYear / 4 - marchYear / 100 + marchYear / 400
  marchYear * 365 + leapDays + monthDays + ((day : Int) - 1) - 2472632

/-- The second that the parts stand for, if the offset has been reached. -/
def seconds? (state : DateState) : Option Int :=
  if state.part = .offset ∨ state.part = .done then
    let value (part : DatePart) : Int := (state.values part).value
    let offset := value .offset / 100 * 3600 + value .offset % 100 * 60
    some (dayNumber state.year state.month (state.values .day).value * Instant.daySeconds +
      value .hour * 3600 + value .minute * 60 + value .second +
      (if state.ahead then -offset else offset))
  else none

end DateState

/-- The second of a date field's value, read on from `state`. -/
def dateSecondsFrom (state : DateState) : Octets → Option Int
  | [] => state.seconds?
  | octet :: rest =>
    if octet == Octet.lf then
      match rest with
      | [] => state.seconds?
      | next :: after =>
        if Octet.isGap next then
          dateSecondsFrom (if state.depth = 0 then state.separate else state) after
        else state.seconds?
    else dateSecondsFrom (state.step octet) rest

/-- The second of a date field's value. -/
def dateSeconds? (value : Octets) : Option Int :=
  dateSecondsFrom .start value

end MailReplica.Header
