import RouteAudit.Text.Quoted

/-!
# Dates and moments

A table may hold a date, or a moment with an optional offset from universal time.  Both have a
plain text and a longer one for messages.  A date that does not exist is refused, and
`CalendarFault` says why.
-/

set_option autoImplicit false

namespace RouteAudit
namespace Yaml

/-- The digits of `n` with zeros in front, up to `width`. -/
def zeroPadded (width n : Nat) : String :=
  String.ofList (Text.padZero width (Nat.toDigits 10 n))

/-- A day of the calendar. -/
structure Date where
  year : Nat
  month : Nat
  day : Nat
  deriving DecidableEq, Repr

/-- A moment: a day, a time of day, and how many seconds its clock is ahead of universal time. -/
structure Moment where
  date : Date
  hour : Nat
  minute : Nat
  second : Nat
  micro : Nat
  offset : Option Int
  deriving DecidableEq, Repr

/-- Why a date or a time of day does not exist. -/
inductive CalendarFault where
  | year (year : Int)
  | month
  | day
  | hour
  | minute
  | second
  | offset (seconds : Int)
  deriving DecidableEq, Repr

/-- A span of seconds as whole days and the seconds of the last one. -/
def spanText (seconds : Int) : String :=
  let days := Int.fdiv seconds 86400
  let rest := Int.fmod seconds 86400
  let parts :=
    (if days = 0 then [] else ["days=" ++ toString days])
    ++ (if rest = 0 then [] else ["seconds=" ++ toString rest])
  "datetime.timedelta(" ++ (if parts.isEmpty then "0" else ", ".intercalate parts) ++ ")"

/-- A sentence about the fault. -/
def CalendarFault.message : CalendarFault → String
  | .year y => "year " ++ toString y ++ " is out of range"
  | .month => "month must be in 1..12"
  | .day => "day is out of range for month"
  | .hour => "hour must be in 0..23"
  | .minute => "minute must be in 0..59"
  | .second => "second must be in 0..59"
  | .offset s =>
    "offset must be a timedelta strictly between -timedelta(hours=24) and timedelta(hours=24), not "
      ++ spanText s ++ "."

/-- Whether the year has a leap day. -/
def isLeap (year : Nat) : Bool := year % 4 == 0 && (year % 100 != 0 || year % 400 == 0)

/-- The number of days of a month. -/
def daysIn (year month : Nat) : Nat :=
  if month = 2 then (if isLeap year then 29 else 28)
  else if month = 4 ∨ month = 6 ∨ month = 9 ∨ month = 11 then 30
  else 31

/-- The day, if it exists. -/
def Date.mk? (year month day : Int) : Except CalendarFault Date :=
  if year < 1 ∨ 9999 < year then .error (.year year)
  else if month < 1 ∨ 12 < month then .error .month
  else if day < 1 ∨ daysIn year.toNat month.toNat < day then .error .day
  else .ok ⟨year.toNat, month.toNat, day.toNat⟩

/-- The moment, if it exists. -/
def Moment.mk? (year month day hour minute second : Int) (micro : Nat) (offset : Option Int) :
    Except CalendarFault Moment := do
  match offset with
  | some s => if s ≤ -86400 ∨ 86400 ≤ s then throw (.offset s)
  | none => pure ()
  let date ← Date.mk? year month day
  if hour < 0 ∨ 23 < hour then throw .hour
  if minute < 0 ∨ 59 < minute then throw .minute
  if second < 0 ∨ 59 < second then throw .second
  return ⟨date, hour.toNat, minute.toNat, second.toNat, micro, offset⟩

/-- The number of days before a year. -/
def daysBeforeYear (year : Nat) : Nat :=
  let y := year - 1
  y * 365 + y / 4 + y / 400 - y / 100

/-- The number of days of the months before one. -/
def daysBeforeMonth (year : Nat) : Nat → Nat
  | 0 => 0
  | m + 1 => daysBeforeMonth year m + (if m = 0 then 0 else daysIn year m)

/-- The millionths of a second that a clock has gone through, without regard to its offset. -/
def Moment.clockMicros (m : Moment) : Int :=
  let days := daysBeforeYear m.date.year + daysBeforeMonth m.date.year m.date.month + m.date.day
  ((((days * 24 + m.hour) * 60 + m.minute) * 60 + m.second) * 1000000 + m.micro : Nat)

/-- Whether two moments are one: the same instant when both have an offset, and the same clock when
neither has. -/
def Moment.same (m n : Moment) : Bool :=
  match m.offset, n.offset with
  | some a, some b => m.clockMicros - a * 1000000 == n.clockMicros - b * 1000000
  | none, none => m.clockMicros == n.clockMicros
  | _, _ => false

/-- The plain text of a day. -/
def Date.text (d : Date) : String :=
  zeroPadded 4 d.year ++ "-" ++ zeroPadded 2 d.month ++ "-" ++ zeroPadded 2 d.day

/-- The text of a day in a message. -/
def Date.quoted (d : Date) : String :=
  "datetime.date(" ++ ", ".intercalate [toString d.year, toString d.month, toString d.day] ++ ")"

/-- An offset from universal time in hours and minutes. -/
def offsetText (seconds : Int) : String :=
  let n := seconds.natAbs
  (if seconds < 0 then "-" else "+") ++ zeroPadded 2 (n / 3600) ++ ":"
    ++ zeroPadded 2 (n % 3600 / 60)

/-- The plain text of a moment. -/
def Moment.text (m : Moment) : String :=
  m.date.text ++ " " ++ zeroPadded 2 m.hour ++ ":" ++ zeroPadded 2 m.minute ++ ":"
    ++ zeroPadded 2 m.second ++ (if m.micro = 0 then "" else "." ++ zeroPadded 6 m.micro)
    ++ (match m.offset with | some s => offsetText s | none => "")

/-- The text of a moment in a message. -/
def Moment.quoted (m : Moment) : String :=
  let clock := [m.hour, m.minute]
    ++ (if m.second = 0 ∧ m.micro = 0 then [] else [m.second])
    ++ (if m.micro = 0 then [] else [m.micro])
  let zone :=
    match m.offset with
    | none => []
    | some 0 => ["tzinfo=datetime.timezone.utc"]
    | some s => ["tzinfo=datetime.timezone(" ++ spanText s ++ ")"]
  let parts := ([m.date.year, m.date.month, m.date.day] ++ clock).map toString ++ zone
  "datetime.datetime(" ++ ", ".intercalate parts ++ ")"

end Yaml
end RouteAudit
