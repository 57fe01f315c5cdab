/-! # Instants and calendar days

An instant counts seconds and nanoseconds from the start of 1970 in UTC.  A dated instant also knows
the offset of the clock it was read from, which decides its calendar day; two dated instants are
compared by the instant alone.
-/

namespace MailReplica

structure Instant where
  /-- Whole seconds since 1970-01-01T00:00:00Z. -/
  seconds : Int
  /-- Nanoseconds after that second; in a leap second they are more than a second has. -/
  nanos : Nat
  deriving DecidableEq

namespace Instant

def before (left right : Instant) : Bool :=
  left.seconds < right.seconds || (left.seconds == right.seconds && left.nanos < right.nanos)

/-- The second that an instant lies in. -/
def floor (instant : Instant) : Instant :=
  ⟨instant.seconds, 0⟩

def daySeconds : Int := 86400

/-- The first second of the year -262143, where the calendar begins. -/
def leastSecond : Int := -8334601228800

/-- The last second of the year 262142, where the calendar ends. -/
def greatestSecond : Int := 8210266876799

/-- Whether the calendar reaches to an instant. -/
def inCalendar (instant : Instant) : Bool :=
  leastSecond ≤ instant.seconds && instant.seconds ≤ greatestSecond

def secondNanos : Nat := 1000000000

/-- The same time counted without a leap second. -/
def withoutLeap (instant : Instant) : Instant :=
  if secondNanos ≤ instant.nanos then ⟨instant.seconds + 1, instant.nanos - secondNanos⟩
  else instant

/-- The instant `days` days earlier, unless the calendar does not reach to it. -/
def minusDays? (instant : Instant) (days : Nat) : Option Instant :=
  let start := if days = 0 then instant else instant.withoutLeap
  let earlier : Instant := ⟨start.seconds - days * daySeconds, start.nanos⟩
  if earlier.inCalendar then some earlier else none

end Instant

structure DatedInstant where
  instant : Instant
  /-- How many seconds the clock is ahead of UTC. -/
  offset : Int
  deriving DecidableEq

namespace DatedInstant

/-- The number of the calendar day that the clock showed; day 0 is 1970-01-01. -/
def day (date : DatedInstant) : Int :=
  (date.instant.seconds + date.offset) / Instant.daySeconds

end DatedInstant

/-- A day of the proleptic Gregorian calendar. -/
structure CivilDay where
  year : Int
  /-- The month, from 1 to 12. -/
  month : Nat
  /-- The day of the month, from 1. -/
  day : Nat
  deriving DecidableEq

namespace CivilDay

/-- The date of a day number.  Years are counted from March in eras of 400 years, so that the leap
day is the last day of its year. -/
def ofDayNumber (number : Int) : CivilDay :=
  let shifted := number + 719468
  let era := shifted / 146097
  let dayOfEra := (shifted % 146097).toNat
  let yearOfEra := (dayOfEra - dayOfEra / 1460 + dayOfEra / 36524 - dayOfEra / 146096) / 365
  let dayOfYear := dayOfEra - (365 * yearOfEra + yearOfEra / 4 - yearOfEra / 100)
  let marchMonth := (5 * dayOfYear + 2) / 153
  let month := if marchMonth < 10 then marchMonth + 3 else marchMonth - 9
  let year := era * 400 + yearOfEra
  ⟨if month ≤ 2 then year + 1 else year, month, dayOfYear - (153 * marchMonth + 2) / 5 + 1⟩

/-- The day number of a date.  Days past the end of the month count on into the next one. -/
def dayNumber (date : CivilDay) : Int :=
  let year := if date.month ≤ 2 then date.year - 1 else date.year
  let era := year / 400
  let yearOfEra := (year % 400).toNat
  let marchMonth := if 2 < date.month then date.month - 3 else date.month + 9
  let dayOfYear := (153 * marchMonth + 2) / 5 + date.day - 1
  let dayOfEra := yearOfEra * 365 + yearOfEra / 4 - yearOfEra / 100 + dayOfYear
  era * 146097 + dayOfEra - 719468

def monthNames : List String :=
  ["Jan", "Feb", "Mar", "Apr", "May", "Jun", "Jul", "Aug", "Sep", "Oct", "Nov", "Dec"]

/-- `number` in decimal, with zeros before it up to `width` digits. -/
def padded (width number : Nat) : String :=
  let digits := Nat.repr number
  String.ofList (List.replicate (width - digits.length) '0') ++ digits

/-- A year: four digits, and a sign where four digits do not hold it. -/
def yearText (year : Int) : String :=
  if year < 0 then "-" ++ padded 4 year.natAbs
  else if 9999 < year then "+" ++ padded 4 year.natAbs
  else padded 4 year.natAbs

/-- The date as a search key of the mail protocol, such as `04-Jan-2022`. -/
def searchKey (date : CivilDay) : String :=
  padded 2 date.day ++ "-" ++ monthNames.getD (date.month - 1) "" ++ "-" ++ yearText date.year

end CivilDay

/-- The calendar day of a dated instant. -/
def DatedInstant.civilDay (date : DatedInstant) : CivilDay :=
  CivilDay.ofDayNumber date.day

end MailReplica
