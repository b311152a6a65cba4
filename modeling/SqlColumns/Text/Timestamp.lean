/-!
# Timestamps

A moment, given as seconds since the start of 1970, written as a date and a time of day in universal
time. Days are counted in eras of 400 years, which all have the same number of days; a year is taken
to start in March, so that a leap day comes last.
-/

set_option autoImplicit false

namespace SqlColumns.Text.Timestamp

/-- A day of the calendar. -/
structure Date where
  year : Int
  month : Nat
  day : Nat
  deriving DecidableEq, Repr

def daysOfEra : Int := 146097

def dateOfDay (day : Int) : Date :=
  let shifted := day + 719468
  let era := shifted.fdiv daysOfEra
  let dayOfEra := (shifted.fmod daysOfEra).toNat
  let yearOfEra := (dayOfEra - dayOfEra / 1460 + dayOfEra / 36524 - dayOfEra / 146096) / 365
  let dayOfYear := dayOfEra - (365 * yearOfEra + yearOfEra / 4 - yearOfEra / 100)
  let monthFromMarch := (5 * dayOfYear + 2) / 153
  let dayOfMonth := dayOfYear - (153 * monthFromMarch + 2) / 5 + 1
  let month := if monthFromMarch < 10 then monthFromMarch + 3 else monthFromMarch - 9
  let year := era * 400 + yearOfEra
  ⟨if month ≤ 2 then year + 1 else year, month, dayOfMonth⟩

def padded (width number : Nat) : String :=
  let digits := Nat.toDigits 10 number
  String.ofList (List.replicate (width - digits.length) '0' ++ digits)

def ofSeconds (seconds : Int) : String :=
  let date := dateOfDay (seconds.fdiv 86400)
  let rest := (seconds.fmod 86400).toNat
  let year := padded 4 date.year.toNat
  let month := padded 2 date.month
  let day := padded 2 date.day
  let hour := padded 2 (rest / 3600)
  let minute := padded 2 (rest / 60 % 60)
  let second := padded 2 (rest % 60)
  s!"{year}-{month}-{day}T{hour}:{minute}:{second}Z"

/-- The start of counting, and a leap day. -/
example : ofSeconds 0 = "1970-01-01T00:00:00Z" ∧ ofSeconds 951827696 = "2000-02-29T12:34:56Z" := by
  decide +kernel

end SqlColumns.Text.Timestamp
