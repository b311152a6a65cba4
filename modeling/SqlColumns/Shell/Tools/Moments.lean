import SqlColumns.Shell.Entries
import SqlColumns.Shell.Options
import SqlColumns.Shell.Numeral
import SqlColumns.Text.Timestamp

/-!
# Moments

A program that prints a moment by a format. The moment is told in seconds since the start of 1970 or
as a date with a time of day, in universal time.
-/

set_option autoImplicit false

namespace SqlColumns.Shell.Tools

def weekdays : List String :=
  ["Thursday", "Friday", "Saturday", "Sunday", "Monday", "Tuesday", "Wednesday"]

def months : List String :=
  ["January", "February", "March", "April", "May", "June", "July", "August", "September", "October",
    "November", "December"]

def short (name : String) : String :=
  String.ofList (name.toList.take 3)

def dayOfDate (year : Int) (month day : Nat) : Int :=
  let year := if month ≤ 2 then year - 1 else year
  let era := year.fdiv 400
  let yearOfEra := year - era * 400
  let fromMarch : Int := if 2 < month then month - 3 else month + 9
  let dayOfYear := (153 * fromMarch + 2) / 5 + day - 1
  era * 146097 + yearOfEra * 365 + yearOfEra / 4 - yearOfEra / 100 + dayOfYear - 719468

/-- A moment taken apart. -/
structure Moment where
  seconds : Int
  date : Text.Timestamp.Date
  dayOfYear : Nat
  weekday : Nat
  hour : Nat
  minute : Nat
  second : Nat
  deriving Repr

def momentOf (seconds : Int) : Moment :=
  let day := seconds.fdiv 86400
  let rest := (seconds.fmod 86400).toNat
  let date := Text.Timestamp.dateOfDay day
  { seconds, date
    dayOfYear := (day - dayOfDate date.year 1 1).toNat + 1
    weekday := (day + 4).fmod 7 |>.toNat
    hour := rest / 3600
    minute := rest / 60 % 60
    second := rest % 60 }

def two (number : Nat) : String :=
  Text.Timestamp.padded 2 number

def Moment.weekdayName (moment : Moment) : String :=
  (weekdays[(moment.weekday + 3) % 7]?).getD ""

def Moment.monthName (moment : Moment) : String :=
  (months[moment.date.month - 1]?).getD ""

def Moment.year (moment : Moment) : String :=
  decimal moment.date.year

/-- The week of the year to which a moment belongs by the days from Monday to Sunday, and that year:
a week belongs to the year of its Thursday. -/
def Moment.week (moment : Moment) : Int × Nat :=
  let day := moment.seconds.fdiv 86400
  let fromMonday : Int := ((moment.weekday + 6) % 7 : Nat)
  let thursday := day - fromMonday + 3
  let year := (Text.Timestamp.dateOfDay thursday).year
  (year, ((thursday - dayOfDate year 1 1) / 7).toNat + 1)

/-- What a letter behind a percent sign stands for. -/
def Moment.field (moment : Moment) (letter : Char) : Option String :=
  let hour := if moment.hour % 12 = 0 then 12 else moment.hour % 12
  let clock := s!"{two moment.hour}:{two moment.minute}:{two moment.second}"
  let month := two moment.date.month
  let day := two moment.date.day
  let century := (moment.date.year / 100).toNat
  let half := if moment.hour < 12 then "AM" else "PM"
  match letter with
  | '%' => some "%"
  | 'n' => some "\n"
  | 't' => some "\t"
  | 'Y' => some moment.year
  | 'C' => some (two century)
  | 'y' => some (two (moment.date.year % 100).toNat)
  | 'm' => some month
  | 'd' => some day
  | 'e' => some (padLeft 2 (inBase 10 moment.date.day))
  | 'j' => some (Text.Timestamp.padded 3 moment.dayOfYear)
  | 'H' => some (two moment.hour)
  | 'I' => some (two hour)
  | 'k' => some (padLeft 2 (inBase 10 moment.hour))
  | 'l' => some (padLeft 2 (inBase 10 hour))
  | 'M' => some (two moment.minute)
  | 'S' => some (two moment.second)
  | 'N' => some "000000000"
  | 's' => some (decimal moment.seconds)
  | 'p' => some half
  | 'P' => some half.toLower
  | 'A' => some moment.weekdayName
  | 'a' => some (short moment.weekdayName)
  | 'B' => some moment.monthName
  | 'b' | 'h' => some (short moment.monthName)
  | 'u' => some (inBase 10 (if moment.weekday = 0 then 7 else moment.weekday))
  | 'w' => some (inBase 10 moment.weekday)
  | 'V' => some (two moment.week.2)
  | 'G' => some (decimal moment.week.1)
  | 'g' => some (two (moment.week.1 % 100).toNat)
  | 'U' => some (two ((moment.dayOfYear + 6 - moment.weekday) / 7))
  | 'W' => some (two ((moment.dayOfYear + 6 - (moment.weekday + 6) % 7) / 7))
  | 'F' => some s!"{moment.year}-{month}-{day}"
  | 'D' | 'x' => some s!"{month}/{day}/{two (moment.date.year % 100).toNat}"
  | 'T' | 'X' => some clock
  | 'R' => some s!"{two moment.hour}:{two moment.minute}"
  | 'r' => some s!"{two hour}:{two moment.minute}:{two moment.second} {half}"
  | 'c' =>
      let date := padLeft 2 (inBase 10 moment.date.day)
      some s!"{short moment.weekdayName} {short moment.monthName} {date} {clock} {moment.year}"
  | 'z' => some "+0000"
  | 'Z' => some "UTC"
  | _ => none

/-- A moment by a format. A dash behind a percent sign leaves padding away. The format is read as
far as `fuel` steps. -/
def Moment.shown (moment : Moment) : Nat → List Char → String
  | 0, _ | _, [] => ""
  | fuel + 1, '%' :: '-' :: c :: rest =>
      let text := (moment.field c).getD ("%-" ++ String.singleton c)
      let bare := text.toList.dropWhile fun c => c == '0' || c == ' '
      (if bare.isEmpty then "0" else String.ofList bare) ++ moment.shown fuel rest
  | fuel + 1, '%' :: c :: rest =>
      (moment.field c).getD ("%" ++ String.singleton c) ++ moment.shown fuel rest
  | fuel + 1, c :: rest => String.singleton c ++ moment.shown fuel rest

def numbersBetween? (mark text : String) : Option (List Nat) :=
  (text.splitOn mark).mapM count?

def clock? (text : String) : Option Nat :=
  match numbersBetween? ":" text with
  | some [hour, minute] =>
      if hour < 24 ∧ minute < 60 then some (hour * 3600 + minute * 60) else none
  | some [hour, minute, second] =>
      if hour < 24 ∧ minute < 60 ∧ second ≤ 60 then some (hour * 3600 + minute * 60 + second)
      else none
  | _ => none

def day? (text : String) : Option Int :=
  match numbersBetween? "-" text with
  | some [year, month, day] =>
      let seconds := dayOfDate year month day * 86400
      let date := Text.Timestamp.dateOfDay (dayOfDate year month day)
      if date.month = month ∧ date.day = day then some seconds else none
  | _ => none

/-- The moment that a text tells: seconds behind a sign, or a date with or without a time of day. -/
def moment? (text : String) : Option Int :=
  let text := text.trimAscii.toString
  match text.toList with
  | '@' :: digits => decimal? (String.ofList digits)
  | _ =>
      let plain := (text.replace "T" " ").replace "Z" " UTC"
      let words := ((plain.splitOn " ").filter (· != "")).filter fun word =>
        !(["UTC", "GMT", "+0000", "+00:00"].contains word)
      match words with
      | [date] => day? date
      | [date, clock] => do return (← day? date) + (← clock? clock)
      | _ => none

def date (now : Int) : Utility :=
  withOptions 1 ⟨"ud:RI::f:r:s:", [("utc", 'u'), ("universal", 'u'), ("date", 'd'),
    ("rfc-email", 'R'), ("iso-8601", 'I')]⟩ false fun scene choices operands =>
      let usual := "+%a %b %e %H:%M:%S %Z %Y"
      let iso := (choices.find? fun choice => choice.letter = 'I').map fun choice =>
        match choice.value with
        | some "hours" => "+%Y-%m-%dT%H+00:00"
        | some "minutes" => "+%Y-%m-%dT%H:%M+00:00"
        | some "seconds" => "+%Y-%m-%dT%H:%M:%S+00:00"
        | _ => "+%Y-%m-%d"
      let email := if given choices 'R' then some "+%a, %d %b %Y %H:%M:%S +0000" else none
      let format := (operands.head? <|> email <|> iso).getD usual
      let wanted := valueOf? choices 'd'
      match wanted.map moment?, operands, format.toList with
      | some none, _, _ => scene.failure 1 ("invalid date " ++ quoted (wanted.getD ""))
      | _, _ :: extra :: _, _ => scene.misuse 1 ("extra operand '" ++ extra ++ "'")
      | found, _, '+' :: shown =>
          let moment := momentOf ((found.getD (some now)).getD now)
          scene.success (moment.shown (shown.length + 1) shown ++ "\n")
      | _, _, _ => scene.failure 1 ("invalid date '" ++ format ++ "'")

end SqlColumns.Shell.Tools
