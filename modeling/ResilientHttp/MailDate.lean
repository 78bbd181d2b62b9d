import ResilientHttp.Text.Blank
import ResilientHttp.Text.Integer

/-! Dates as mail and HTTP headers write them: an optional day of the week, day, month and year,
a time of day, a zone, and comments behind. -/
namespace ResilientHttp.MailDate
open Text

def daySeconds : Int := 86400

def lastYear : Int := 262142

def isLeapYear (y : Int) : Bool := y % 4 = 0 && (y % 100 ≠ 0 || y % 400 = 0)

def monthDays (y : Int) (month : Nat) : Nat :=
  match month with
  | 2 => if isLeapYear y then 29 else 28
  | 4 | 6 | 9 | 11 => 30
  | _ => 31

/-- The days from the first of January 1970 to a date of the Gregorian calendar. -/
def dayNumber (y : Int) (month day : Nat) : Int :=
  let y' := y - 1
  let before := (List.range (month - 1)).foldl (fun n m => n + monthDays y (m + 1)) 0
  365 * y' + y' / 4 - y' / 100 + y' / 400 - 719162 + before + (day - 1)

def lastSecond : Int := (dayNumber lastYear 12 31 + 1) * daySeconds

/-- The day of the week of a day number, from zero on Monday. -/
def weekday (dayNumber : Int) : Nat := ((dayNumber + 3) % 7).toNat

def weekdayNames : List String := ["mon", "tue", "wed", "thu", "fri", "sat", "sun"]

def monthNames : List String :=
  ["jan", "feb", "mar", "apr", "may", "jun", "jul", "aug", "sep", "oct", "nov", "dec"]

/-- The first three letters, in any case, as a place in a list of names. -/
def name? (names : List String) (cs : List Char) : Option (Nat × List Char) :=
  let word := String.ofList ((cs.take 3).map Char.toLower)
  (names.idxOf? word).map fun i => (i, cs.drop 3)

/-- At least `min` and at most `max` digits. -/
def number? (min max : Nat) (cs : List Char) : Option (Nat × List Char) :=
  let digits := (cs.take max).takeWhile Char.isDigit
  if digits.length < min then none else some (digitsValue digits, cs.drop digits.length)

def gap? (cs : List Char) : Option (List Char) :=
  match cs with
  | c :: rest => if isBlank c then some (trimStart rest) else none
  | [] => none

/-- A year: two digits are near the turn of the century, three count from 1900. -/
def year? (cs : List Char) : Option (Nat × List Char) := do
  let (n, rest) ← number? 2 cs.length cs
  let length := cs.length - rest.length
  let year :=
    if length = 2 then (if n < 50 then n + 2000 else n + 1900)
    else if length = 3 then n + 1900
    else n
  return (year, rest)

/-- The named zones, in hours east of Greenwich. -/
def namedZones : List (String × Int) :=
  [("gmt", 0), ("ut", 0), ("z", 0), ("edt", -4), ("est", -5), ("cdt", -5), ("cst", -6), ("mdt", -6),
    ("mst", -7), ("pdt", -7), ("pst", -8)]

def shift? (cs : List Char) : Option (Nat × List Char) := do
  let (hours, rest) ← number? 2 2 cs
  let (minutes, rest) ← number? 2 2 rest
  guard (hours < 24 && minutes < 60)
  return (hours * 3600 + minutes * 60, rest)

/-- A zone in seconds east of Greenwich: a name, a military letter (which tells nothing), or a
sign with hours and minutes. -/
def zone? (cs : List Char) : Option (Int × List Char) :=
  let name := cs.takeWhile Char.isAlpha
  let rest := cs.dropWhile Char.isAlpha
  if !name.isEmpty then
    let lower := String.ofList (name.map Char.toLower)
    match namedZones.find? (·.1 = lower) with
    | some (_, hours) => some (hours * 3600, rest)
    | none => if name.length = 1 && lower ≠ "j" then some (0, rest) else none
  else match cs with
    | '+' :: digits => (shift? digits).map fun (east, rest) => (Int.ofNat east, rest)
    | '-' :: digits => (shift? digits).map fun (west, rest) => (-Int.ofNat west, rest)
    | _ => none

/-- Walks to the end of a comment; comments nest, and a backslash takes the next character. -/
def commentEnd? : (depth : Nat) → List Char → Option (List Char)
  | _, [] => none
  | _, ['\\'] => none
  | depth, '\\' :: _ :: rest => commentEnd? depth rest
  | depth, '(' :: rest => commentEnd? (depth + 1) rest
  | depth, ')' :: rest => if depth ≤ 1 then some rest else commentEnd? (depth - 1) rest
  | depth, _ :: rest => commentEnd? depth rest

def onlyComments : (fuel : Nat) → List Char → Bool
  | _, [] => true
  | 0, _ => false
  | fuel + 1, cs =>
    match trimStart cs with
    | '(' :: rest => match commentEnd? 1 rest with
      | some rest => onlyComments fuel rest
      | none => false
    | _ => false

def weekday? (cs : List Char) : Option (Option Nat × List Char) :=
  match name? weekdayNames cs with
  | none => some (none, cs)
  | some (day, ',' :: rest) => some (some day, rest)
  | some _ => none

def second? (cs : List Char) : Option (Nat × List Char) :=
  match trimStart cs with
  | ':' :: digits => number? 2 2 digits
  | _ => some (0, cs)

def timeOfDay? (cs : List Char) : Option ((Nat × Nat × Nat) × List Char) := do
  let (hour, rest) ← number? 2 2 cs
  let ':' :: rest := trimStart rest | none
  let (minute, rest) ← number? 2 2 (trimStart rest)
  let (second, rest) ← second? rest
  return ((hour, minute, second), rest)

/-- What the text of a date tells. Months count from zero, and so do the days of the week, from
Monday on; the zone is told in seconds east of Greenwich. -/
structure Stamp where
  weekday : Option Nat
  day : Nat
  month : Nat
  year : Nat
  hour : Nat
  minute : Nat
  second : Nat
  offset : Int

def stamp? (s : List Char) : Option Stamp := do
  let (weekday, rest) ← weekday? (trimStart s)
  let (day, rest) ← number? 1 2 (trimStart rest)
  let (month, rest) ← name? monthNames (← gap? rest)
  let (year, rest) ← year? (← gap? rest)
  let ((hour, minute, second), rest) ← timeOfDay? (← gap? rest)
  let (offset, rest) ← zone? (← gap? rest)
  guard (onlyComments rest.length rest)
  return { weekday, day, month, year, hour, minute, second, offset }

namespace Stamp

def number (st : Stamp) : Int := dayNumber st.year (st.month + 1) st.day

def minuteStart (st : Stamp) : Int :=
  st.number * daySeconds + st.hour * 3600 + st.minute * 60 - st.offset

/-- There are such a day and such a time, and the day of the week is the right one. A minute may
have a leap second. The last year is not left, neither at the place of the date nor at Greenwich. -/
def isSound (st : Stamp) : Bool :=
  1 ≤ st.day && st.day ≤ monthDays st.year (st.month + 1) && st.year ≤ lastYear &&
    st.hour < 24 && st.minute < 60 && st.second ≤ 60 &&
    st.weekday.all (· = MailDate.weekday st.number) && st.minuteStart < lastSecond

end Stamp

/-- A moment at Greenwich: the number of the day, the second of the day, and the nanoseconds since
this second began. A leap second is told as the second before it that goes on. -/
structure Moment where
  day : Int
  second : Int
  nanos : Int
  deriving DecidableEq

namespace Moment

def isLeap (m : Moment) : Bool := 1000000000 ≤ m.nanos

/-- The moment so many seconds, and so many nanoseconds more, after the start of 1970. -/
def ofSeconds (seconds nanos : Int) : Moment := ⟨seconds / daySeconds, seconds % daySeconds, nanos⟩

def ofNanos (n : Int) : Moment := ofSeconds (n / 1000000000) (n % 1000000000)

/-- What a leap second adds to the time between two times of the day: it counts if the earlier of
the two lies in it. -/
def leapBetween (m m' : Moment) : Int :=
  if m'.second < m.second && m'.isLeap then 1
  else if m.second < m'.second && m.isLeap then -1
  else 0

/-- The nanoseconds from the second moment to the first. Days have one length, and of the leap
seconds only those count in which one of the two moments lies. -/
def since (m m' : Moment) : Int :=
  ((m.day - m'.day) * daySeconds + (m.second - m'.second) + leapBetween m m') * 1000000000 +
    (m.nanos - m'.nanos)

end Moment

/-- The moment of a stamp; the second numbered sixty is a leap second. -/
def Stamp.moment (st : Stamp) : Moment :=
  if st.second = 60 then .ofSeconds (st.minuteStart + 59) 1000000000
  else .ofSeconds (st.minuteStart + st.second) 0

def moment? (s : List Char) : Option Moment :=
  ((stamp? s).filter Stamp.isSound).map Stamp.moment

end ResilientHttp.MailDate
