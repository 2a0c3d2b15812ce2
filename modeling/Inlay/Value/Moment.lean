/-!
# Dates and times

A calendar date with an optional time of day, as a data file may hold one.
-/

namespace Inlay

/-- A time of day, with its distance from universal time in minutes if that is known. -/
structure TimeOfDay where
  hour : Nat
  minute : Nat
  second : Nat
  micro : Nat
  offset : Option Int
  deriving DecidableEq, Inhabited

/-- A date, with or without a time of day. -/
structure Moment where
  year : Nat
  month : Nat
  day : Nat
  time : Option TimeOfDay
  deriving DecidableEq, Inhabited

namespace Moment

/-- A number with at least `width` digits. -/
def padded (width n : Nat) : String :=
  let digits := toString n
  String.ofList (List.replicate (width - digits.length) '0') ++ digits

/-- Has the year this many days in the month? -/
def daysIn (year month : Nat) : Nat :=
  if month = 2 then
    if year % 4 = 0 ∧ (year % 100 ≠ 0 ∨ year % 400 = 0) then 29 else 28
  else if month = 4 ∨ month = 6 ∨ month = 9 ∨ month = 11 then 30
  else 31

/-- Is this a day and time of the calendar? -/
def isValid (moment : Moment) : Bool :=
  1 ≤ moment.year && 1 ≤ moment.month && moment.month ≤ 12 && 1 ≤ moment.day &&
    moment.day ≤ daysIn moment.year moment.month &&
    match moment.time with
    | none => true
    | some time => time.hour < 24 && time.minute < 60 && time.second < 60 &&
        (time.offset.getD 0).natAbs < 1440

/-- The number of a day, counted from the first of the calendar. -/
def dayNumber (moment : Moment) : Nat :=
  let years := moment.year - 1
  let months := (List.range' 1 (moment.month - 1)).map (daysIn moment.year)
  years * 365 + years / 4 - years / 100 + years / 400 + months.foldr (· + ·) 0 + moment.day

/-- The time of day in millionths of a second. -/
def micros (time : TimeOfDay) : Nat :=
  ((time.hour * 60 + time.minute) * 60 + time.second) * 1000000 + time.micro

/-- Are these the same moment? Where both know their distance from universal time, that counts;
where only one does, they are not. -/
def coincides (a b : Moment) : Bool :=
  match a.time.bind (·.offset), b.time.bind (·.offset) with
  | some p, some q =>
    let universal (moment : Moment) (offset : Int) : Int :=
      ((moment.dayNumber * 1440 - offset) * 60) * 1000000 + (moment.time.map micros).getD 0
    universal a p == universal b q
  | _, _ => a == b

/-- The distance from universal time, as it is written after a time of day. -/
def offsetText (minutes : Int) : String :=
  (if minutes < 0 then "-" else "+") ++ padded 2 (minutes.natAbs / 60) ++ ":" ++
    padded 2 (minutes.natAbs % 60)

/-- The time of day after the date. -/
def timeText (time : TimeOfDay) : String :=
  padded 2 time.hour ++ ":" ++ padded 2 time.minute ++ ":" ++ padded 2 time.second ++
    (if time.micro = 0 then "" else "." ++ padded 6 time.micro) ++
    (time.offset.map offsetText).getD ""

/-- A date, and behind a separator its time if there is one. -/
def textWith (separator : String) (moment : Moment) : String :=
  padded 4 moment.year ++ "-" ++ padded 2 moment.month ++ "-" ++ padded 2 moment.day ++
    match moment.time with
    | none => ""
    | some time => separator ++ timeText time

/-- A date, or a date and a time with a space between them. -/
def text (moment : Moment) : String := moment.textWith " "

/-- A date, or a date and a time with a `T` between them. -/
def iso (moment : Moment) : String := moment.textWith "T"

/-- A date and a time in universal time, with a `Z` behind them. -/
def zulu (moment : Moment) : String :=
  let plain := moment.time.map fun time => { time with offset := none }
  Moment.iso { moment with time := plain } ++ "Z"

/-- The zone of a time inside the written form of a list or a mapping. -/
def zoneLiteral (minutes : Int) : String :=
  if minutes = 0 then ", tzinfo=datetime.timezone.utc"
  else
    let seconds := minutes.natAbs * 60
    let body :=
      if 0 < minutes then "seconds=" ++ toString seconds
      else "days=-1, seconds=" ++ toString (86400 - seconds)
    ", tzinfo=datetime.timezone(datetime.timedelta(" ++ body ++ "))"

/-- The form inside the written form of a list or a mapping. -/
def literal (moment : Moment) : String :=
  let date := toString moment.year ++ ", " ++ toString moment.month ++ ", " ++ toString moment.day
  match moment.time with
  | none => "datetime.date(" ++ date ++ ")"
  | some time =>
    let places :=
      if time.micro ≠ 0 then [time.hour, time.minute, time.second, time.micro]
      else if time.second ≠ 0 then [time.hour, time.minute, time.second]
      else [time.hour, time.minute]
    "datetime.datetime(" ++ ", ".intercalate (date :: places.map toString) ++
      (time.offset.map zoneLiteral).getD "" ++ ")"

end Moment

end Inlay
