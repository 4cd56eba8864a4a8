/-!
# Timestamps in plain scalars

A plain scalar that starts with a four-digit year and a dash is a timestamp when
it has one of four layouts: a date `year-month-day`; a date, a space (or more),
and a time `hour:minute:second` with an optional fraction; or a date, `T` or
`t`, such a time and a zone, `Z` or a signed `hh:mm` offset. Month, day, hour,
minute and second take one or two digits, a fraction starts with a point or a
comma. Each field must lie in its range, the day within its month.

As a value a timestamp is a time: an instant with nanoseconds in a zone, UTC
unless the text gives an offset. Two timestamps are the same value when they
name the same instant and nanoseconds in the same zone object. Messages spell a
timestamp as a literal of a time value, `time.Date(...)`.
-/

namespace HeapKit.Yaml

/-- The parts a timestamp layout is made of. -/
inductive StampPart where
  | year
  | month
  | day
  | hour
  | minute
  | second
  /-- An optional fraction of a second. -/
  | fraction
  /-- `Z` or a signed offset `hh:mm`. -/
  | zone
  /-- This character. -/
  | literal (c : Char)
  /-- One space or more, or the end of the text. -/
  | blanks
  deriving DecidableEq, Repr

/-- The date fields read so far: year, month and day. -/
structure StampDate where
  year : Nat := 0
  month : Nat := 0
  day : Nat := 0
  deriving Repr

/-- The value of a digit character. -/
def digitOf (c : Char) : Nat := c.toNat - '0'.toNat

/-- Reads a field of one or two digits. -/
def shortNumber : List Char → Option (Nat × List Char)
  | a :: b :: rest =>
    if !a.isDigit then none
    else if b.isDigit then some (digitOf a * 10 + digitOf b, rest)
    else some (digitOf a, b :: rest)
  | [a] => if a.isDigit then some (digitOf a, []) else none
  | [] => none

/-- Reads a field of one or two digits below `bound`. -/
def boundedNumber (bound : Nat) (text : List Char) : Option (Nat × List Char) := do
  let (value, rest) ← shortNumber text
  if value < bound then some (value, rest) else none

/-- Reads one part of a layout. -/
def readStampPart (date : StampDate) : StampPart → List Char → Option (StampDate × List Char)
  | .year, a :: b :: c :: d :: rest =>
    if a.isDigit && b.isDigit && c.isDigit && d.isDigit then
      some ({ date with year := ((digitOf a * 10 + digitOf b) * 10 + digitOf c) * 10 + digitOf d },
        rest)
    else none
  | .year, _ => none
  | .month, text => do
    let (month, rest) ← shortNumber text
    if 1 ≤ month && month ≤ 12 then some ({ date with month }, rest) else none
  | .day, text => do
    let (day, rest) ← shortNumber text
    some ({ date with day }, rest)
  | .hour, text => (boundedNumber 24 text).map fun (_, rest) => (date, rest)
  | .minute, text => (boundedNumber 60 text).map fun (_, rest) => (date, rest)
  | .second, text => (boundedNumber 60 text).map fun (_, rest) => (date, rest)
  | .fraction, text =>
    match text with
    | mark :: digit :: rest =>
      if (mark == '.' || mark == ',') && digit.isDigit then
        some (date, rest.dropWhile Char.isDigit)
      else some (date, text)
    | _ => some (date, text)
  | .zone, text =>
    match text with
    | 'Z' :: rest => some (date, rest)
    | sign :: h1 :: h2 :: ':' :: m1 :: m2 :: rest =>
      if (sign == '+' || sign == '-') && h1.isDigit && h2.isDigit && m1.isDigit && m2.isDigit &&
          digitOf h1 * 10 + digitOf h2 ≤ 24 && digitOf m1 * 10 + digitOf m2 ≤ 60 then
        some (date, rest)
      else none
    | _ => none
  | .literal c, text =>
    match text with
    | d :: rest => if c == d then some (date, rest) else none
    | [] => none
  | .blanks, text =>
    match text with
    | [] => some (date, [])
    | ' ' :: _ => some (date, text.dropWhile (· == ' '))
    | _ => none

/-- Whether a year has a 29th of February. -/
def isLeapYear (year : Nat) : Bool := year % 4 == 0 && (year % 100 != 0 || year % 400 == 0)

/-- The number of days of a month, from 1 to 12, in a year. -/
def daysInMonth (year month : Nat) : Nat :=
  if month == 2 then (if isLeapYear year then 29 else 28)
  else if [4, 6, 9, 11].contains month then 30
  else 31

/-- Whether a text has a layout exactly, with a valid date. -/
def fitsLayout (layout : List StampPart) (text : List Char) : Bool :=
  let step (state : Option (StampDate × List Char)) (part : StampPart) :=
    state.bind fun (date, rest) => readStampPart date part rest
  match layout.foldl step (some ({}, text)) with
  | some (date, []) => 1 ≤ date.day && date.day ≤ daysInMonth date.year date.month
  | _ => false

/-- The layouts a timestamp may have. -/
def stampLayouts : List (List StampPart) :=
  let date := [StampPart.year, .literal '-', .month, .literal '-', .day]
  let clock := [StampPart.hour, .literal ':', .minute, .literal ':', .second, .fraction]
  [date ++ [.literal 'T'] ++ clock ++ [.zone], date ++ [.literal 't'] ++ clock ++ [.zone],
   date ++ [.blanks] ++ clock, date]

/-- The runs of digits of a text, each with the character just before it. -/
def digitRuns (text : List Char) : List (Option Char × List Char) :=
  let step (state : List (Option Char × List Char) × Option Char) (c : Char) :=
    let (runs, before) := state
    if c.isDigit then
      match runs, before with
      | (sign, digits) :: older, some previous =>
        if previous.isDigit then ((sign, c :: digits) :: older, some c)
        else ((before, [c]) :: runs, some c)
      | _, _ => ((before, [c]) :: runs, some c)
    else (runs, some c)
  ((text.foldl step ([], none)).1.map fun (sign, digits) => (sign, digits.reverse)).reverse

/-- The value of a run of digits. -/
def runValue (digits : List Char) : Nat := digits.foldl (fun value c => value * 10 + digitOf c) 0

/-- The nanoseconds a fraction's digits stand for; digits past the ninth are dropped. -/
def fractionNanos (digits : List Char) : Nat :=
  let kept := digits.take 9
  runValue kept * Nat.pow 10 (9 - kept.length)

/-- The names of the months, from January. -/
def monthNames : List String :=
  ["January", "February", "March", "April", "May", "June", "July", "August", "September",
   "October", "November", "December"]

/-- The zone of a timestamp: UTC when it names none or `Z`, the local zone for
an offset of zero (the local zone being UTC), else a fixed offset in seconds
east of UTC. -/
inductive StampZone where
  | utc
  | local
  | fixed (offset : Int)
  deriving DecidableEq, Repr, Inhabited

namespace StampZone

/-- The offset of the zone in seconds east of UTC. -/
def offset : StampZone → Int
  | .fixed offset => offset
  | _ => 0

/-- Whether two timestamps in these zones share their zone object: UTC and the
local zone are each one object, and so is an offset by a whole number of hours
from -12 to +14; every other offset gets an object of its own. -/
def shared : StampZone → StampZone → Bool
  | .utc, .utc => true
  | .local, .local => true
  | .fixed a, .fixed b => a == b && a % 3600 == 0 && -43200 ≤ a && a ≤ 50400
  | _, _ => false

/-- The rank of a zone object in memory: UTC first, then the local zone, then
fixed offsets by offset. -/
def rank : StampZone → Int × Int
  | .utc => (0, 0)
  | .local => (1, 0)
  | .fixed offset => (2, offset)

end StampZone

/-- A timestamp: its date and clock as written, the nanoseconds of its
fraction, and its zone. -/
structure Stamp where
  year : Nat := 0
  month : Nat := 1
  day : Nat := 1
  hour : Nat := 0
  minute : Nat := 0
  second : Nat := 0
  nanos : Nat := 0
  zone : StampZone := .utc
  deriving DecidableEq, Repr, Inhabited

namespace Stamp

/-- The fields of a timestamp's text, which must have one of the layouts. -/
def ofText (text : String) : Stamp :=
  match digitRuns text.toList with
  | (_, year) :: (_, month) :: (_, day) :: rest =>
    let (clock, rest) := match rest with
      | (_, hour) :: (_, minute) :: (_, second) :: more =>
        ((runValue hour, runValue minute, runValue second), more)
      | _ => ((0, 0, 0), rest)
    let (nanos, rest) := match rest with
      | (some mark, digits) :: more =>
        if mark == '.' || mark == ',' then (fractionNanos digits, more) else (0, rest)
      | _ => (0, rest)
    let zone := match rest with
      | (sign, hours) :: (_, minutes) :: _ =>
        let size : Int := runValue hours * 3600 + runValue minutes * 60
        if size == 0 then StampZone.local
        else .fixed (if sign == some '-' then -size else size)
      | _ => .utc
    { year := runValue year, month := runValue month, day := runValue day, hour := clock.1,
      minute := clock.2.1, second := clock.2.2, nanos, zone }
  | _ => {}

/-- The days from the first of January of year 1 to the first of January of
`year`, in the proleptic Gregorian calendar. -/
def daysBeforeYear (year : Nat) : Int :=
  let past : Int := (year : Int) - 1
  365 * past + past / 4 - past / 100 + past / 400

/-- The days of a year before the first of a month. -/
def daysBeforeMonth (year month : Nat) : Nat :=
  ((List.range (month - 1)).map fun index => daysInMonth year (index + 1)).foldl (· + ·) 0

/-- The seconds from the start of year 1 UTC to the timestamp. -/
def seconds (stamp : Stamp) : Int :=
  let days := daysBeforeYear stamp.year + daysBeforeMonth stamp.year stamp.month + (stamp.day - 1 : Nat)
  days * 86400 + (stamp.hour * 3600 + stamp.minute * 60 + stamp.second : Nat) - stamp.zone.offset

/-- Whether two timestamps are the same time value: the same instant and
nanoseconds, in the same zone object. -/
def same (a b : Stamp) : Bool :=
  a.seconds == b.seconds && a.nanos == b.nanos && a.zone.shared b.zone

/-- Whether `a` comes before `b` when time values are ordered field by field:
nanoseconds first, then the instant's seconds, then the zone object. -/
def before (a b : Stamp) : Bool :=
  if a.nanos != b.nanos then a.nanos < b.nanos
  else if a.seconds != b.seconds then a.seconds < b.seconds
  else
    let (x, y) := (a.zone.rank, b.zone.rank)
    x.1 < y.1 || (x.1 == y.1 && x.2 < y.2)

/-- The timestamp as a literal of a time value: its date and clock as written,
its nanoseconds and its zone. -/
def literal (stamp : Stamp) : String :=
  let zone := match stamp.zone with
    | .utc => "time.UTC"
    | .local => "time.Local"
    | .fixed _ => "time.Location(\"\")"
  "time.Date(" ++ ", ".intercalate
    [toString stamp.year, "time." ++ monthNames.getD (stamp.month - 1) "", toString stamp.day,
     toString stamp.hour, toString stamp.minute, toString stamp.second, toString stamp.nanos, zone] ++ ")"

end Stamp

/-- Whether a plain scalar is a timestamp. -/
def isTimestamp (text : String) : Bool :=
  let chars := text.toList
  let year := chars.takeWhile fun c => '0' ≤ c && c ≤ '9'
  year.length == 4 && (chars.drop 4).head? == some '-' &&
    stampLayouts.any fun layout => fitsLayout layout chars

end HeapKit.Yaml
