/-! Dates and times of day, and how they are written. Time is counted in microseconds from the
beginning of 1970. -/
namespace ToolHost

/-- A day of a year. Months and days are counted from one. -/
structure Date where
  year : Int
  month : Nat
  day : Nat
  deriving DecidableEq, Repr

namespace Date

/-- The date of a day, counted from the beginning of 1970. Years are counted here from March on, so
that the day a leap year has more stands at the end, and they go round in 400. -/
def ofDays (days : Int) : Date :=
  let days := days + 719468
  let era := days.fdiv 146097
  let dayOfEra := (days.fmod 146097).toNat
  let yearOfEra := (dayOfEra - dayOfEra / 1460 + dayOfEra / 36524 - dayOfEra / 146096) / 365
  let dayOfYear := dayOfEra - (365 * yearOfEra + yearOfEra / 4 - yearOfEra / 100)
  let shifted := (5 * dayOfYear + 2) / 153
  let month := if shifted < 10 then shifted + 3 else shifted - 9
  { year := era * 400 + yearOfEra + (if month ≤ 2 then 1 else 0)
    month := month
    day := dayOfYear - (153 * shifted + 2) / 5 + 1 }

/-- The day of a date, counted from the beginning of 1970. -/
def toDays (d : Date) : Int :=
  let year := if d.month ≤ 2 then d.year - 1 else d.year
  let era := year.fdiv 400
  let yearOfEra := (year.fmod 400).toNat
  let dayOfYear := (153 * (if 2 < d.month then d.month - 3 else d.month + 9) + 2) / 5 + d.day - 1
  let dayOfEra := yearOfEra * 365 + yearOfEra / 4 - yearOfEra / 100 + dayOfYear
  era * 146097 + dayOfEra - 719468

/-- The day of the week, counted from Sunday. -/
def weekday (d : Date) : Nat := ((d.toDays + 4).fmod 7).toNat

/-- The day of the year, counted from zero. -/
def dayOfYear (d : Date) : Nat := (d.toDays - (⟨d.year, 1, 1⟩ : Date).toDays).toNat

/-- The first days of a year that belong to the last week of the one before are in no week of it; a
week begins with the day of the week `first`. -/
def weekFrom (d : Date) (first : Nat) : Nat :=
  (d.dayOfYear + 7 - (d.weekday + 7 - first) % 7) / 7

/-- The year and the week of a date, where a week begins with Monday and belongs to the year in which
most of it lies. -/
def week (d : Date) : Int × Nat :=
  let thursday := ofDays (d.toDays - ((d.weekday + 6) % 7 : Nat) + 3)
  (thursday.year, thursday.dayOfYear / 7 + 1)

end Date

/-- A date with a time of day. -/
structure Moment where
  date : Date
  hour : Nat
  minute : Nat
  second : Nat
  micro : Nat
  deriving DecidableEq, Repr

namespace Moment

def ofMicros (t : Int) : Moment :=
  let seconds := t.fdiv 1000000
  let ofDay := (seconds.fmod 86400).toNat
  { date := .ofDays (seconds.fdiv 86400)
    hour := ofDay / 3600
    minute := ofDay / 60 % 60
    second := ofDay % 60
    micro := (t.fmod 1000000).toNat }

def toMicros (m : Moment) : Int :=
  (m.date.toDays * 86400 + (m.hour * 3600 + m.minute * 60 + m.second : Nat)) * 1000000 + m.micro

def monthNames : List String :=
  ["January", "February", "March", "April", "May", "June", "July", "August", "September",
    "October", "November", "December"]

def weekdayNames : List String :=
  ["Sunday", "Monday", "Tuesday", "Wednesday", "Thursday", "Friday", "Saturday"]

/-- A number with so many digits at least, filled up with a character. -/
def digits (fill : Char) (least n : Nat) : String :=
  let text := toString n
  "".pushn fill (least - text.length) ++ text

/-- What fills up the numbers of a format. -/
inductive Filling where
  | usual
  | nothing
  | with (c : Char)
  deriving DecidableEq, Repr

/-- A number in a field of some width, which some character fills up. -/
def field (filling : Filling) (width? : Option Nat) (usual : Char) (least n : Nat) : String :=
  match filling with
  | .nothing => toString n
  | .usual => digits usual (width?.getD least) n
  | .with c => digits c (width?.getD least) n

/-- The year as a number without a sign. -/
def yearNumber (m : Moment) : Nat := m.date.year.toNat

/-- The hour as a clock with twelve hours shows it. -/
def shortHour (m : Moment) : Nat := if m.hour % 12 = 0 then 12 else m.hour % 12

/-- What a letter of a format stands for. -/
def letterText (m : Moment) (filling : Filling) (width? : Option Nat) (letter : Char) :
    Option String :=
  let number := field filling width?
  let name (names : List String) (n : Nat) : String := names.getD n ""
  let short (names : List String) (n : Nat) : String := ((name names n).take 3).toString
  let pair := digits '0' 2
  let clock := s!"{pair m.hour}:{pair m.minute}:{pair m.second}"
  let day := digits '0' 4 m.yearNumber ++ s!"-{pair m.date.month}-{pair m.date.day}"
  match letter with
  | 'a' => some (short weekdayNames m.date.weekday)
  | 'A' => some (name weekdayNames m.date.weekday)
  | 'b' | 'h' => some (short monthNames (m.date.month - 1))
  | 'B' => some (name monthNames (m.date.month - 1))
  | 'c' =>
    let front := s!"{short weekdayNames m.date.weekday} {short monthNames (m.date.month - 1)}"
    let day := digits ' ' 2 m.date.day
    some s!"{front} {day} {clock} {m.yearNumber}"
  | 'C' => some (number '0' 2 (m.yearNumber / 100))
  | 'd' => some (number '0' 2 m.date.day)
  | 'D' | 'x' => some s!"{pair m.date.month}/{pair m.date.day}/{pair (m.yearNumber % 100)}"
  | 'e' => some (number ' ' 2 m.date.day)
  | 'F' => some day
  | 'g' => some (number '0' 2 (m.date.week.1.toNat % 100))
  | 'G' => some (number '0' 4 m.date.week.1.toNat)
  | 'H' => some (number '0' 2 m.hour)
  | 'I' => some (number '0' 2 m.shortHour)
  | 'j' => some (number '0' 3 (m.date.dayOfYear + 1))
  | 'k' => some (number ' ' 2 m.hour)
  | 'l' => some (number ' ' 2 m.shortHour)
  | 'm' => some (number '0' 2 m.date.month)
  | 'M' => some (number '0' 2 m.minute)
  | 'n' => some "\n"
  | 'N' =>
    let all := digits '0' 9 (m.micro * 1000)
    some (match width? with
      | some width => (all.take width).toString
      | none => all)
  | 'p' => some (if m.hour < 12 then "AM" else "PM")
  | 'P' => some (if m.hour < 12 then "am" else "pm")
  | 'q' => some (toString ((m.date.month + 2) / 3))
  | 'r' =>
    let half := if m.hour < 12 then "AM" else "PM"
    some s!"{pair m.shortHour}:{pair m.minute}:{pair m.second} {half}"
  | 'R' => some s!"{pair m.hour}:{pair m.minute}"
  | 's' => some (toString (m.toMicros.fdiv 1000000))
  | 'S' => some (number '0' 2 m.second)
  | 't' => some "\t"
  | 'T' | 'X' => some clock
  | 'u' => some (number '0' 1 (if m.date.weekday = 0 then 7 else m.date.weekday))
  | 'U' => some (number '0' 2 (m.date.weekFrom 0))
  | 'V' => some (number '0' 2 m.date.week.2)
  | 'w' => some (number '0' 1 m.date.weekday)
  | 'W' => some (number '0' 2 (m.date.weekFrom 1))
  | 'y' => some (number '0' 2 (m.yearNumber % 100))
  | 'Y' => some (number '0' 4 m.yearNumber)
  | 'z' => some "+0000"
  | 'Z' => some "UTC"
  | '%' => some "%"
  | _ => none

/-- The signs in front of a letter: what fills up its number, and whether its case changes. -/
def readSigns : List Char → Filling → Bool → Filling × Bool × List Char
  | '-' :: rest, _, upper => readSigns rest .nothing upper
  | '_' :: rest, _, upper => readSigns rest (.with ' ') upper
  | '0' :: rest, _, upper => readSigns rest (.with '0') upper
  | '+' :: rest, _, upper => readSigns rest (.with '0') upper
  | '^' :: rest, filling, _ => readSigns rest filling true
  | '#' :: rest, filling, _ => readSigns rest filling true
  | rest, filling, upper => (filling, upper, rest)

/-- A moment as a format says. -/
def formatFrom (m : Moment) : Nat → List Char → String
  | 0, _ => ""
  | _, [] => ""
  | fuel + 1, '%' :: rest =>
    let (filling, upper, after) := readSigns rest .usual false
    let (width, after) := after.span Char.isDigit
    let colons := (after.takeWhile (· == ':')).length
    let after := (after.drop colons).dropWhile fun c => c == 'E' || c == 'O'
    match after with
    | [] => String.ofList ('%' :: rest)
    | letter :: after =>
      let found? := if colons = 1 && letter = 'z' then some "+00:00"
        else if colons = 2 && letter = 'z' then some "+00:00:00"
        else m.letterText filling (String.ofList width).toNat? letter
      match found? with
      | some text => (if upper then text.toUpper else text) ++ formatFrom m fuel after
      | none =>
        let shown := rest.take (rest.length - after.length)
        String.ofList ('%' :: shown) ++ formatFrom m fuel after
  | fuel + 1, c :: rest => String.singleton c ++ formatFrom m fuel rest

/-- A moment as a format says, in which a percent sign and a letter stand for a part of it. -/
def format (m : Moment) (text : String) : String := m.formatFrom (text.length + 1) text.toList

/-- The way in which programs tell times most exactly. -/
def exactText (m : Moment) : String := m.format "%Y-%m-%d %H:%M:%S.%N %z"

end Moment
end ToolHost
