import ImageIntake.Text.Numeral

namespace ImageIntake

open Text

structure Instant where
  seconds : Nat
  nanos : Nat := 0
  deriving DecidableEq, Repr, Inhabited

structure CalendarDay where
  year : Nat
  month : Nat
  day : Nat
  deriving DecidableEq, Repr

def CalendarDay.ofDayNumber (n : Nat) : CalendarDay :=
  let shifted := n + 719468
  let era := shifted / 146097
  let dayOfEra := shifted % 146097
  let yearOfEra := (dayOfEra - dayOfEra / 1460 + dayOfEra / 36524 - dayOfEra / 146096) / 365
  let dayOfYear := dayOfEra - (365 * yearOfEra + yearOfEra / 4 - yearOfEra / 100)
  let monthFromMarch := (5 * dayOfYear + 2) / 153
  let month := if monthFromMarch < 10 then monthFromMarch + 3 else monthFromMarch - 9
  { year := yearOfEra + era * 400 + (if month ≤ 2 then 1 else 0)
    month
    day := dayOfYear - (153 * monthFromMarch + 2) / 5 + 1 }

namespace Instant

def day (t : Instant) : CalendarDay :=
  .ofDayNumber (t.seconds / 86400)

def hour (t : Instant) : Nat := t.seconds % 86400 / 3600

def minute (t : Instant) : Nat := t.seconds % 3600 / 60

def second (t : Instant) : Nat := t.seconds % 60

def fraction (t : Instant) : String :=
  if t.nanos = 0 then ""
  else if t.nanos % 1000000 = 0 then "." ++ padded 3 (t.nanos / 1000000)
  else if t.nanos % 1000 = 0 then "." ++ padded 6 (t.nanos / 1000)
  else "." ++ padded 9 t.nanos

def yearText (year : Nat) : String :=
  if year ≤ 9999 then padded 4 year else "+" ++ padded 5 year

def rfc3339 (t : Instant) : String :=
  let d := t.day
  yearText d.year ++ "-" ++ padded 2 d.month ++ "-" ++ padded 2 d.day ++ "T" ++
    padded 2 t.hour ++ ":" ++ padded 2 t.minute ++ ":" ++ padded 2 t.second ++
    t.fraction ++ "+00:00"

def basicDate (t : Instant) : String :=
  let d := t.day
  padded 4 d.year ++ padded 2 d.month ++ padded 2 d.day

def basicStamp (t : Instant) : String :=
  t.basicDate ++ "T" ++ padded 2 t.hour ++ padded 2 t.minute ++ padded 2 t.second ++ "Z"

end Instant

end ImageIntake
