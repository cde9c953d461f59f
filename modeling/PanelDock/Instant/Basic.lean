/-!
# Instants

An instant is kept as the reading of a calendar and a clock in UTC, to the nanosecond. Second 60 is
a leap second; it may stand in any minute. Instants are only recorded, compared for equality and
written down, so nothing here counts days.
-/

namespace PanelDock

/-- Whether February has 29 days. -/
def isLeapYear (year : Int) : Bool :=
  year % 4 == 0 && (year % 100 != 0 || year % 400 == 0)

/-- The number of days in a month of the Gregorian calendar. -/
def daysInMonth (year : Int) (month : Nat) : Nat :=
  if month = 2 then if isLeapYear year then 29 else 28
  else if month = 4 ∨ month = 6 ∨ month = 9 ∨ month = 11 then 30
  else 31

/-- A day of the calendar. -/
structure Day where
  year : Int
  month : Nat
  day : Nat
deriving DecidableEq, Repr

namespace Day

/-- The day exists, and its year lies in the years that can be recorded. -/
def Valid (d : Day) : Prop :=
  -262143 ≤ d.year ∧ d.year ≤ 262142 ∧ 1 ≤ d.month ∧ d.month ≤ 12 ∧
    1 ≤ d.day ∧ d.day ≤ daysInMonth d.year d.month

instance (d : Day) : Decidable d.Valid :=
  inferInstanceAs (Decidable (_ ∧ _ ∧ _ ∧ _ ∧ _ ∧ _))

/-- The day after. -/
def next (d : Day) : Day :=
  if d.day < daysInMonth d.year d.month then { d with day := d.day + 1 }
  else if d.month < 12 then { d with month := d.month + 1, day := 1 }
  else { year := d.year + 1, month := 1, day := 1 }

/-- The day before. -/
def previous (d : Day) : Day :=
  if 1 < d.day then { d with day := d.day - 1 }
  else if 1 < d.month then
    { d with month := d.month - 1, day := daysInMonth d.year (d.month - 1) }
  else { year := d.year - 1, month := 12, day := 31 }

end Day

/-- A reading of the clock. -/
structure TimeOfDay where
  hour : Nat
  minute : Nat
  second : Nat
  nanosecond : Nat
deriving DecidableEq, Repr

namespace TimeOfDay

/-- The clock can show it. -/
def Valid (t : TimeOfDay) : Prop :=
  t.hour < 24 ∧ t.minute < 60 ∧ t.second ≤ 60 ∧ t.nanosecond < 1000000000

instance (t : TimeOfDay) : Decidable t.Valid :=
  inferInstanceAs (Decidable (_ ∧ _ ∧ _ ∧ _))

end TimeOfDay

/-- A moment in time, as the calendar and the clock show it in UTC. -/
structure Instant where
  date : Day
  time : TimeOfDay
  date_valid : date.Valid
  time_valid : time.Valid
deriving DecidableEq, Repr

namespace Instant

/-- The instant with these readings, if there is such a day and such a time. -/
def of? (date : Day) (time : TimeOfDay) : Option Instant :=
  if hd : date.Valid then
    if ht : time.Valid then some { date, time, date_valid := hd, time_valid := ht } else none
  else none

/-- The instant that a clock `offset` minutes ahead of UTC shows as `date` and `time`. The offset
stays below a day, so at most one midnight lies between the two readings. -/
def ofLocal? (date : Day) (time : TimeOfDay) (offset : Int) : Option Instant :=
  if date.Valid ∧ time.Valid ∧ -1440 < offset ∧ offset < 1440 then
    let minutes : Int := time.hour * 60 + time.minute - offset
    let (day, minutes) :=
      if minutes < 0 then (date.previous, minutes + 1440)
      else if 1440 ≤ minutes then (date.next, minutes - 1440)
      else (date, minutes)
    of? day { time with hour := minutes.toNat / 60, minute := minutes.toNat % 60 }
  else none

end Instant

end PanelDock
