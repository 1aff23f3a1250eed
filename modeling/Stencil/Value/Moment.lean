import Stencil.Number.Integer

/-! Days of the calendar, and moments: days with a time and perhaps with the place of the clock.

Years count from one. A moment whose clock's distance from universal time is known stands for an
instant; two such moments are the same if their instants are.
-/

set_option autoImplicit false

namespace Stencil

open Number (natText intText)

structure Day where
  year : Nat
  month : Nat
  day : Nat
  deriving DecidableEq, Repr

structure Moment where
  day : Day
  hour : Nat
  minute : Nat
  second : Nat
  microsecond : Nat
  -- How many seconds the clock is ahead of universal time, if that is known.
  offset? : Option Int
  deriving DecidableEq, Repr

inductive MomentFault where
  | year (n : Nat)
  | month
  | day
  | hour
  | minute
  | second
  -- A clock is less than a day ahead of universal time or behind it.
  | offset (seconds : Int)
  deriving DecidableEq, Repr

def secondsPerDay : Int := 86400

/-- A span of seconds, as days that may be negative and seconds that are not. -/
def shownSpan (seconds : Int) : String :=
  let days := seconds.fdiv secondsPerDay
  let rest := seconds.fmod secondsPerDay
  let parts :=
    (if days = 0 then [] else ["days=" ++ intText days]) ++ (if rest = 0 then [] else ["seconds=" ++ intText rest])
  "datetime.timedelta(" ++ (if parts.isEmpty then "0" else ", ".intercalate parts) ++ ")"

def MomentFault.message : MomentFault → String
  | .year n => "year " ++ natText n ++ " is out of range"
  | .month => "month must be in 1..12"
  | .day => "day is out of range for month"
  | .hour => "hour must be in 0..23"
  | .minute => "minute must be in 0..59"
  | .second => "second must be in 0..59"
  | .offset seconds =>
    "offset must be a timedelta strictly between -timedelta(hours=24) and timedelta(hours=24), not " ++
      shownSpan seconds ++ "."

def isLeapYear (year : Nat) : Bool :=
  year % 4 == 0 && (year % 100 != 0 || year % 400 == 0)

def daysOfMonth (year month : Nat) : Nat :=
  if month = 2 then (if isLeapYear year then 29 else 28)
  else if month = 4 ∨ month = 6 ∨ month = 9 ∨ month = 11 then 30
  else 31

namespace Day

def make (year month day : Nat) : Except MomentFault Day :=
  if year = 0 then .error (.year year)
  else if month = 0 ∨ 12 < month then .error .month
  else if day = 0 ∨ daysOfMonth year month < day then .error .day
  else .ok ⟨year, month, day⟩

/-- How many days there are up to a day, from the first day of the first year on. -/
def ordinal (d : Day) : Nat :=
  let past := d.year - 1
  let inMonths := (List.range (d.month - 1)).foldl (fun found i => found + daysOfMonth d.year (i + 1)) 0
  365 * past + past / 4 - past / 100 + past / 400 + inMonths + d.day

def quoted (d : Day) : String :=
  "datetime.date(" ++ ", ".intercalate ([d.year, d.month, d.day].map natText) ++ ")"

end Day

def padded (width n : Nat) : String :=
  let digits := (natText n).toList
  String.ofList (List.replicate (width - digits.length) '0' ++ digits)

def Day.text (d : Day) : String :=
  padded 4 d.year ++ "-" ++ padded 2 d.month ++ "-" ++ padded 2 d.day

def offsetText (seconds : Int) : String :=
  let size := seconds.natAbs
  let rest := size % 60
  (if seconds < 0 then "-" else "+") ++ padded 2 (size / 3600) ++ ":" ++ padded 2 (size / 60 % 60) ++
    (if rest = 0 then "" else ":" ++ padded 2 rest)

/-- The distance of a clock from universal time, as a call that makes it. -/
def offsetQuoted (seconds : Int) : String :=
  if seconds = 0 then "datetime.timezone.utc" else "datetime.timezone(" ++ shownSpan seconds ++ ")"

namespace Moment

def make (year month day hour minute second microsecond : Nat) (offset? : Option Int) : Except MomentFault Moment := do
  match offset? with
  | some seconds => if secondsPerDay ≤ seconds.natAbs then throw (.offset seconds)
  | none => pure ()
  let d ← Day.make year month day
  if 23 < hour then throw .hour
  if 59 < minute then throw .minute
  if 59 < second then throw .second
  return ⟨d, hour, minute, second, microsecond, offset?⟩

def clockSeconds (m : Moment) : Int :=
  (m.day.ordinal * 86400 + m.hour * 3600 + m.minute * 60 + m.second : Nat)

def same (m other : Moment) : Bool :=
  match m.offset?, other.offset? with
  | some ahead, some ahead' =>
    m.clockSeconds - ahead == other.clockSeconds - ahead' && m.microsecond == other.microsecond
  | _, _ => m == other

def text (m : Moment) : String :=
  m.day.text ++ " " ++ padded 2 m.hour ++ ":" ++ padded 2 m.minute ++ ":" ++ padded 2 m.second ++
    (if m.microsecond = 0 then "" else "." ++ padded 6 m.microsecond) ++ (m.offset?.map offsetText).getD ""

/-- A moment as a call that makes it; parts of the time that are zero are left out from the end. -/
def quoted (m : Moment) : String :=
  let fine := if m.microsecond = 0 then (if m.second = 0 then [] else [m.second]) else [m.second, m.microsecond]
  let numbers := [m.day.year, m.day.month, m.day.day, m.hour, m.minute] ++ fine
  let place := m.offset?.toList.map fun seconds => "tzinfo=" ++ offsetQuoted seconds
  "datetime.datetime(" ++ ", ".intercalate (numbers.map natText ++ place) ++ ")"

end Moment

end Stencil
