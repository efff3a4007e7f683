import SentenceReader.Text.Quoted

/-! Dates and times of the day, with what makes one impossible and the forms in which messages
show them. -/
namespace SentenceReader

/-- A time of the day, to a millionth of a second. -/
structure DayTime where
  hour : Nat
  minute : Nat
  second : Nat
  micro : Nat
  /-- How many minutes the clock is ahead of universal time, where that is known. -/
  ahead : Option Int
  deriving DecidableEq, Repr

/-- A date, with or without a time of the day. -/
structure Timestamp where
  year : Nat
  month : Nat
  day : Nat
  time : Option DayTime
  deriving DecidableEq, Repr

namespace Timestamp

/-- What makes a date or a time impossible. -/
inductive Problem where
  | offset (minutes : Int)
  | year (n : Nat)
  | month
  | day
  | hour
  | minute
  | second
  deriving DecidableEq, Repr

def minutesOfDay : Int := 1440

/-- A number of minutes as messages show it: whole days, and the seconds above them. -/
def shownMinutes (minutes : Int) : Text :=
  let days := Int.fdiv minutes minutesOfDay
  let seconds := Int.fmod minutes minutesOfDay * 60
  let parts := (if days = 0 then [] else ["days=".toList ++ Text.ofInt days])
    ++ (if seconds = 0 then [] else ["seconds=".toList ++ Text.ofInt seconds])
  "datetime.timedelta(".toList
    ++ (if parts.isEmpty then ['0'] else Text.join [',', ' '] parts) ++ [')']

def Problem.message : Problem → Text
  | offset minutes =>
    "offset must be a timedelta strictly between -timedelta(hours=24) and timedelta(hours=24), not ".toList
      ++ shownMinutes minutes ++ ['.']
  | year n => "year ".toList ++ Text.ofNat n ++ " is out of range".toList
  | month => "month must be in 1..12".toList
  | day => "day is out of range for month".toList
  | hour => "hour must be in 0..23".toList
  | minute => "minute must be in 0..59".toList
  | second => "second must be in 0..59".toList

def isLeap (year : Nat) : Bool := year % 4 = 0 && (year % 100 ≠ 0 || year % 400 = 0)

def daysOfMonth (year month : Nat) : Nat :=
  if month = 2 then (if isLeap year then 29 else 28)
  else if month ∈ [4, 6, 9, 11] then 30
  else 31

def dateProblem? (t : Timestamp) : Option Problem :=
  if t.year = 0 then some (.year t.year)
  else if t.month = 0 || 12 < t.month then some .month
  else if t.day = 0 || daysOfMonth t.year t.month < t.day then some .day
  else none

end Timestamp

namespace DayTime

/-- What makes the distance from universal time impossible. -/
def offsetProblem? (t : DayTime) : Option Timestamp.Problem :=
  match t.ahead with
  | none => none
  | some minutes =>
    if minutes.natAbs < Timestamp.minutesOfDay.natAbs then none else some (.offset minutes)

def clockProblem? (t : DayTime) : Option Timestamp.Problem :=
  if 23 < t.hour then some .hour
  else if 59 < t.minute then some .minute
  else if 59 < t.second then some .second
  else none

/-- The numbers of a time as messages show them, without zeros at the end behind the minutes. -/
def shownParts (t : DayTime) : List Text :=
  let seconds :=
    if t.micro ≠ 0 then [t.second, t.micro] else if t.second ≠ 0 then [t.second] else []
  (t.hour :: t.minute :: seconds).map Text.ofNat

/-- The distance from universal time as messages show it. -/
def shownAhead : Option Int → List Text
  | none => []
  | some minutes =>
    let zone := "datetime.timezone".toList
    ["tzinfo=".toList ++
      (if minutes = 0 then zone ++ ".utc".toList
        else zone ++ '(' :: Timestamp.shownMinutes minutes ++ [')'])]

end DayTime

namespace Timestamp

/-- The first thing that makes a date or a time impossible; the distance from universal time is
looked at before the rest. -/
def problem? (t : Timestamp) : Option Problem :=
  match t.time with
  | none => t.dateProblem?
  | some time => time.offsetProblem? <|> t.dateProblem? <|> time.clockProblem?

/-- The number of a day, counted from the first day of the first year. -/
def dayNumber (t : Timestamp) : Nat :=
  let past := t.year - 1
  let months := (List.range (t.month - 1)).foldl (fun n m => n + daysOfMonth t.year (m + 1)) 0
  past * 365 + past / 4 - past / 100 + past / 400 + months + t.day

/-- The minute of universal time, where a clock is ahead of it by so many minutes. -/
def universalMinute (t : Timestamp) (time : DayTime) (ahead : Int) : Int :=
  t.dayNumber * minutesOfDay + time.hour * 60 + time.minute - ahead

/-- Whether two dates or times are the same. Times of known distances from universal time are the
same if they are at the same moment. -/
def same (s t : Timestamp) : Bool :=
  match s.time, t.time with
  | some a, some b =>
    match a.ahead, b.ahead with
    | some m, some n =>
      s.universalMinute a m == t.universalMinute b n && a.second == b.second && a.micro == b.micro
    | _, _ => s == t
  | _, _ => s == t

example : same ⟨2020, 1, 1, some ⟨0, 30, 0, 0, some 60⟩⟩ ⟨2019, 12, 31, some ⟨23, 30, 0, 0, some 0⟩⟩ =
    true := by decide +kernel

def kind (t : Timestamp) : String := if t.time.isSome then "datetime.datetime" else "datetime.date"

def shown (t : Timestamp) : Text :=
  let time := match t.time with
    | none => []
    | some time => time.shownParts ++ DayTime.shownAhead time.ahead
  t.kind.toList ++ '(' :: Text.join [',', ' ']
    ([t.year, t.month, t.day].map Text.ofNat ++ time) ++ [')']

example : (Timestamp.mk 2020 2 30 none).problem? = some .day := by decide
example : (Timestamp.mk 2020 1 2 (some ⟨3, 4, 0, 0, some 0⟩)).shown =
    "datetime.datetime(2020, 1, 2, 3, 4, tzinfo=datetime.timezone.utc)".toList := by decide +kernel
example : shownMinutes (-60) = "datetime.timedelta(days=-1, seconds=82800)".toList := by
  decide +kernel

end Timestamp

end SentenceReader
