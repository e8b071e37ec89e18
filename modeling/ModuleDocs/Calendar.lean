/-!
# Dates and times

Days are counted from the first day of the year 1 and times in microseconds from its start, by the calendar
of today. The last day is that of the year 9999.
-/
set_option autoImplicit false

namespace ModuleDocs.Calendar

def isLeap (year : Nat) : Bool := year % 4 = 0 && (year % 100 ≠ 0 || year % 400 = 0)

def monthLength (year month : Nat) : Nat :=
  if month = 2 then if isLeap year then 29 else 28
  else if [4, 6, 9, 11].contains month then 30
  else 31

def daysBefore (year : Nat) : Nat :=
  let past := year - 1
  365 * past + past / 4 - past / 100 + past / 400

def dayLimit : Nat := daysBefore 10000

def day? (year month day : Nat) : Option Nat :=
  if 1 ≤ year && year ≤ 9999 && 1 ≤ month && month ≤ 12 && 1 ≤ day && day ≤ monthLength year month then
    let months := (List.range (month - 1)).map fun m => monthLength year (m + 1)
    some (daysBefore year + months.foldl (· + ·) 0 + (day - 1))
  else none

/-- The microseconds from the start of a day. -/
def time? (hour minute second micro : Nat) : Option Nat :=
  if hour < 24 && minute < 60 && second < 60 && micro < 1000000 then
    some (((hour * 60 + minute) * 60 + second) * 1000000 + micro)
  else none

def dayMicros : Nat := 24 * 60 * 60 * 1000000

def isInRange (moment : Int) : Bool := 0 ≤ moment && moment < (dayLimit * dayMicros : Nat)

/-! ## Texts -/

def padded (width n : Nat) : String :=
  let digits := Nat.toDigits 10 n
  String.ofList (List.replicate (width - digits.length) '0' ++ digits)

def yearOf (count : Nat) : Nat :=
  let year := count * 400 / daysBefore 401 + 1
  if daysBefore year > count then year - 1 else if daysBefore (year + 1) ≤ count then year + 1 else year

/-- The month that the day of a year is in, from some month on, and the day of the month. -/
def monthFrom (year rest : Nat) : (months : List Nat) → Nat × Nat
  | [] => (12, rest + 1)
  | month :: more =>
    if rest < monthLength year month then (month, rest + 1)
    else monthFrom year (rest - monthLength year month) more

def dayText (count : Nat) : String :=
  let year := yearOf count
  let (month, day) := monthFrom year (count - daysBefore year) ((List.range 12).map (· + 1))
  padded 4 year ++ "-" ++ padded 2 month ++ "-" ++ padded 2 day

/-- A day and a time, with the part of a second if there is one. -/
def momentText (micros : Nat) : String :=
  let part := micros % 1000000
  let seconds := micros / 1000000 % (24 * 60 * 60)
  let time := padded 2 (seconds / 3600) ++ ":" ++ padded 2 (seconds / 60 % 60) ++ ":" ++ padded 2 (seconds % 60)
  dayText (micros / dayMicros) ++ " " ++ time ++ if part = 0 then "" else "." ++ padded 6 part

end ModuleDocs.Calendar
