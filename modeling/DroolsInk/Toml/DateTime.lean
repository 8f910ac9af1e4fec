/-!
# Dates and times of day

A TOML date-time is a date, a time of day, or both, and one with both may have an offset from
universal time. It is written as a date, the letter `T` and a time; the fraction of a second is
written without zeros at its end, and not at all if there is none.
-/

namespace DroolsInk.Toml

structure Date where
  year : Nat
  month : Nat
  day : Nat
  deriving DecidableEq, Repr

/-- A time of day; a leap second makes sixty-one seconds in a minute. -/
structure Time where
  hour : Nat
  minute : Nat
  second : Nat
  nanosecond : Nat
  deriving DecidableEq, Repr

/-- The distance of a local time from universal time. -/
inductive TimeOffset where
  | universal
  | minutes (count : Int)
  deriving DecidableEq, Repr

/-- A date, a time, or both. -/
structure DateTime where
  date? : Option Date
  time? : Option Time
  offset? : Option TimeOffset
  deriving DecidableEq, Repr

/-- The number of days of a month, in the calendar that drops three leap days in four centuries. -/
def daysInMonth (year month : Nat) : Nat :=
  let leap := year % 4 = 0 ∧ (year % 100 ≠ 0 ∨ year % 400 = 0)
  if month = 2 then if leap then 29 else 28
  else if month = 4 ∨ month = 6 ∨ month = 9 ∨ month = 11 then 30
  else 31

/-- A number with zeros before it, to make up a width. -/
def padded (width number : Nat) : List Char :=
  let digits := Nat.toDigits 10 number
  List.replicate (width - digits.length) '0' ++ digits

def Date.render (date : Date) : List Char :=
  padded 4 date.year ++ '-' :: (padded 2 date.month ++ '-' :: padded 2 date.day)

def Time.render (time : Time) : List Char :=
  let fraction := (padded 9 time.nanosecond).reverse.dropWhile (· = '0') |>.reverse
  padded 2 time.hour ++ ':' :: (padded 2 time.minute ++ ':' :: padded 2 time.second)
    ++ (if fraction.isEmpty then [] else '.' :: fraction)

def TimeOffset.render : TimeOffset → List Char
  | .universal => ['Z']
  | .minutes count =>
    (if count < 0 then '-' else '+')
      :: (padded 2 (count.natAbs / 60) ++ ':' :: padded 2 (count.natAbs % 60))

def DateTime.render (dateTime : DateTime) : List Char :=
  let date := (dateTime.date?.map Date.render).getD []
  let time := (dateTime.time?.map Time.render).getD []
  let joint := if dateTime.date?.isSome && dateTime.time?.isSome then ['T'] else []
  date ++ joint ++ time ++ (dateTime.offset?.map TimeOffset.render).getD []

end DroolsInk.Toml
