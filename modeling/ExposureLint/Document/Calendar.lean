import ExposureLint.Number.Natural
import ExposureLint.Text.Basic

/-!
Dates of the Gregorian calendar from year 1 to 9999, and moments: a date, a time of day down to the
microsecond, and perhaps an offset from universal time. `Date.make` and `Moment.make` refuse what is
out of range and say which part.
-/
namespace ExposureLint

structure Date where
  year : Nat
  month : Nat
  day : Nat
deriving DecidableEq

/-- The offset counts minutes, ahead of universal time when positive. -/
structure Moment where
  date : Date
  hour : Nat
  minute : Nat
  second : Nat
  micro : Nat
  offset : Option Int
deriving DecidableEq

namespace Calendar

inductive Fault
  | year (given : Nat)
  | month
  | day
  | hour
  | minute
  | second
  | offset (minutes : Int)
deriving DecidableEq

def isLeap (year : Nat) : Bool := year % 4 == 0 && (year % 100 != 0 || year % 400 == 0)

def daysInMonth (year month : Nat) : Nat :=
  if month == 2 then (if isLeap year then 29 else 28)
  else if month == 4 || month == 6 || month == 9 || month == 11 then 30
  else 31

def daysBeforeYear (year : Nat) : Nat :=
  let y := year - 1
  y * 365 + y / 4 - y / 100 + y / 400

def daysBeforeMonth (year month : Nat) : Nat :=
  total ((List.range (month - 1)).map fun m => daysInMonth year (m + 1))

/-- The items of a call, as far as they are not zero. -/
def durationParts (days seconds : Int) : List Text :=
  (if days == 0 then [] else ["days=" ++ Text.ofInt days])
    ++ (if seconds == 0 then [] else ["seconds=" ++ Text.ofInt seconds])

/-- A duration of whole minutes in days and seconds, where only the days may be negative. -/
def durationText (minutes : Int) : Text :=
  let seconds := minutes * 60
  let parts := durationParts (Int.fdiv seconds 86400) (Int.fmod seconds 86400)
  "datetime.timedelta(" ++ (if parts.isEmpty then Text.ofString "0" else Text.join ", " parts)
    ++ ")"

def Fault.message : Fault → Text
  | .year given => "year " ++ Text.ofNat given ++ " is out of range"
  | .month => "month must be in 1..12"
  | .day => "day is out of range for month"
  | .hour => "hour must be in 0..23"
  | .minute => "minute must be in 0..59"
  | .second => "second must be in 0..59"
  | .offset minutes =>
    "offset must be a timedelta strictly between -timedelta(hours=24) and timedelta(hours=24), not "
      ++ durationText minutes ++ "."

end Calendar

namespace Date

def make (year month day : Nat) : Except Calendar.Fault Date :=
  if year < 1 || 9999 < year then .error (.year year)
  else if month < 1 || 12 < month then .error .month
  else if day < 1 || Calendar.daysInMonth year month < day then .error .day
  else .ok ⟨year, month, day⟩

def ordinal (d : Date) : Nat :=
  Calendar.daysBeforeYear d.year + Calendar.daysBeforeMonth d.year d.month + d.day

def text (d : Date) : Text :=
  Text.padZero 4 (Text.ofNat d.year) ++ "-" ++ Text.padZero 2 (Text.ofNat d.month) ++ "-"
    ++ Text.padZero 2 (Text.ofNat d.day)

def callItems (d : Date) : List Text :=
  [Text.ofNat d.year, Text.ofNat d.month, Text.ofNat d.day]

/-- The form a date has inside the text of a list or a mapping. -/
def quoted (d : Date) : Text := "datetime.date(" ++ Text.join ", " d.callItems ++ ")"

end Date

namespace Moment

/-- The offset is looked at first, then the date, then the time of day. -/
def make (year month day hour minute second micro : Nat) (offset : Option Int) :
    Except Calendar.Fault Moment := do
  match offset with
  | some minutes => if 1440 ≤ minutes.natAbs then throw (.offset minutes)
  | none => pure ()
  let date ← Date.make year month day
  if 23 < hour then throw .hour
  if 59 < minute then throw .minute
  if 59 < second then throw .second
  return ⟨date, hour, minute, second, micro, offset⟩

/-- The microseconds since the start of year 1, by the clock on the wall. -/
def wallClock (m : Moment) : Int :=
  (((m.date.ordinal * 24 + m.hour) * 60 + m.minute) * 60 + m.second) * 1000000 + m.micro

/-- Two moments are the same key when they name the same instant; one without an offset is no
instant, and is compared by the clock on the wall with others of its kind. -/
def sameKey (a b : Moment) : Bool :=
  match a.offset, b.offset with
  | none, none => a.wallClock == b.wallClock
  | some x, some y => a.wallClock - x * 60000000 == b.wallClock - y * 60000000
  | _, _ => false

def offsetText (minutes : Int) : Text :=
  (if minutes < 0 then "-" else "+") ++ Text.padZero 2 (Text.ofNat (minutes.natAbs / 60)) ++ ":"
    ++ Text.padZero 2 (Text.ofNat (minutes.natAbs % 60))

/-- Date and time with `between` standing between them; microseconds only when there are any. -/
def textWith (between : Text) (m : Moment) : Text :=
  let two (n : Nat) : Text := Text.padZero 2 (Text.ofNat n)
  let fraction : Text := if m.micro == 0 then [] else "." ++ Text.padZero 6 (Text.ofNat m.micro)
  let zone : Text := match m.offset with
    | some minutes => offsetText minutes
    | none => []
  m.date.text ++ between ++ two m.hour ++ ":" ++ two m.minute ++ ":" ++ two m.second ++ fraction
    ++ zone

def text (m : Moment) : Text := textWith " " m
def isoText (m : Moment) : Text := textWith "T" m

def offsetQuoted (minutes : Int) : Text :=
  if minutes == 0 then Text.ofString "datetime.timezone.utc"
  else "datetime.timezone(" ++ Calendar.durationText minutes ++ ")"

/-- The form a moment has inside the text of a list or a mapping; trailing zero seconds are left
out. -/
def quoted (m : Moment) : Text :=
  let fine :=
    if m.micro != 0 then [Text.ofNat m.second, Text.ofNat m.micro]
    else if m.second != 0 then [Text.ofNat m.second]
    else []
  let zone : List Text := match m.offset with
    | some minutes => ["tzinfo=" ++ offsetQuoted minutes]
    | none => []
  "datetime.datetime("
    ++ Text.join ", " (m.date.callItems ++ [Text.ofNat m.hour, Text.ofNat m.minute] ++ fine ++ zone)
    ++ ")"

end Moment
end ExposureLint
