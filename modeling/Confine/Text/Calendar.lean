set_option autoImplicit false

/-! # Calendar

Days counted from the start of 1970 have a year, a month and a day in it, in a calendar in which a
leap year comes every four years, except in centuries that four hundred does not divide. Moments
are counted in seconds, and days begin at midnight at the zero meridian. -/

namespace Confine.Text

/-- A day of the calendar. -/
structure Day where
  /-- The year. -/
  year : Int
  /-- The month, from one on. -/
  month : Nat
  /-- The day of the month, from one on. -/
  day : Nat
  deriving DecidableEq, Repr

/-- A moment: a day and the time on it. -/
structure Moment where
  /-- The day. -/
  date : Day
  /-- The hour. -/
  hour : Nat := 0
  /-- The minute. -/
  minute : Nat := 0
  /-- The second. -/
  second : Nat := 0
  deriving DecidableEq, Repr

namespace Day

/-- Whether a year has a day more. -/
def isLeap (year : Int) : Bool :=
  year % 4 == 0 && (year % 100 != 0 || year % 400 == 0)

/-- How many days a month has. -/
def lengthOf (year : Int) (month : Nat) : Nat :=
  if month = 2 then (if isLeap year then 29 else 28)
  else if [4, 6, 9, 11].contains month then 30 else 31

/-- The days from the start of 1970 to the start of a year. -/
def daysBefore (year : Int) : Int :=
  let y := year - 1
  y * 365 + y / 4 - y / 100 + y / 400 - 719162

/-- The number of a day in its year, from one on. -/
def ofYear (d : Day) : Nat :=
  (List.range (d.month - 1)).foldl (fun n m => n + lengthOf d.year (m + 1)) d.day

/-- The number of a day, counted from the start of 1970. -/
def number (d : Day) : Int :=
  daysBefore d.year + d.ofYear - 1

/-- The month in which a day of a year is. -/
def monthOf (year : Int) : Nat → Nat → Nat → Nat × Nat
  | 0, month, day => (month, day)
  | bound + 1, month, day =>
    let length := lengthOf year month
    if day ≤ length then (month, day) else monthOf year bound (month + 1) (day - length)

/-- The day with a number. -/
def ofNumber (n : Int) : Day :=
  let guess := (n * 400) / 146097 + 1970
  let year := if n < daysBefore guess then guess - 1
    else if daysBefore (guess + 1) ≤ n then guess + 1 else guess
  let (month, day) := monthOf year 12 1 (n - daysBefore year + 1).toNat
  { year, month, day }

/-- The day of the week, from Sunday on. -/
def weekday (d : Day) : Nat :=
  ((d.number + 4) % 7).toNat

/-- Whether the calendar has such a day. -/
def isValid (d : Day) : Bool :=
  1 ≤ d.month && d.month ≤ 12 && 1 ≤ d.day && d.day ≤ lengthOf d.year d.month

end Day

namespace Moment

/-- The seconds from the start of 1970 to a moment. -/
def seconds (m : Moment) : Int :=
  m.date.number * 86400 + m.hour * 3600 + m.minute * 60 + m.second

/-- The moment after so many seconds from the start of 1970. -/
def ofSeconds (n : Int) : Moment :=
  let rest := (n % 86400).toNat
  { date := Day.ofNumber (n / 86400), hour := rest / 3600, minute := rest / 60 % 60,
    second := rest % 60 }

end Moment

/-- The names of the days of the week. -/
def weekdayNames : List String :=
  ["Sunday", "Monday", "Tuesday", "Wednesday", "Thursday", "Friday", "Saturday"]

/-- The names of the months. -/
def monthNames : List String :=
  ["January", "February", "March", "April", "May", "June", "July", "August", "September",
    "October", "November", "December"]

end Confine.Text
