import CommandConsole.Text.Decimal

/-!
# Moments and expiry

What expires is compared with a cutoff: the present moment less the time to live. Two rules bound
the computation of a cutoff.

* A time to live beyond the signed 64-bit range of milliseconds counts as 365 days.
* A cutoff before the first day of the calendar does not exist; an operation that needs it comes to
  a `CalendarFault` and to no answer.
-/

namespace CommandConsole

/-- A moment, in milliseconds since the beginning of the year 1970. -/
abbrev Moment := Int

/-- The first moment of the calendar, the beginning of the year -262143. -/
def Moment.earliest : Moment := -8334601228800000

/-- A moment was asked for that the calendar does not have. -/
inductive CalendarFault where
  | beforeFirstDay
  deriving DecidableEq, Repr

/-- The message of a calendar fault. -/
def CalendarFault.message : CalendarFault → String
  | beforeFirstDay => "\x60DateTime - TimeDelta\x60 overflowed"

/-- The milliseconds of 365 days. -/
def daysOfYear : Nat := 365 * 24 * 60 * 60 * 1000

/-- The time to live that is reckoned with. -/
def reckonedTtl (ttl : Nat) : Nat := if ttl ≤ Text.maxInt64 then ttl else daysOfYear

/-- The moment that lies a time to live before `now`. What is not younger has expired. -/
def cutoff (now : Moment) (ttl : Nat) : Except CalendarFault Moment :=
  let c := now - (reckonedTtl ttl : Int)
  if Moment.earliest ≤ c then .ok c else .error .beforeFirstDay

end CommandConsole
