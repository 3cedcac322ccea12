/-!
# Dates of headers

The instants that headers name, in one of four layouts, and their distance in
seconds from the beginning of 1970.  A year below a hundred stands for the one
between 1969 and 2068 that ends so.
-/

namespace OperatorConsole

/-- A day of the calendar and a time of that day. -/
structure Date where
  year : Int
  month : Nat
  day : Nat
  hour : Nat
  minute : Nat
  second : Nat
deriving DecidableEq, Repr

namespace Date

def isLeap (year : Int) : Bool :=
  year % 4 == 0 && (year % 100 != 0 || year % 400 == 0)

/-- The lengths of a year's months. -/
def monthLengths (year : Int) : List Nat :=
  [31, if isLeap year then 29 else 28, 31, 30, 31, 30, 31, 31, 30, 31, 30, 31]

/-- Months count from zero and days from one. -/
def isPossible (date : Date) : Bool :=
  0 < date.day && date.day ≤ (monthLengths date.year).getD date.month 0 &&
    date.hour < 24 && date.minute < 60 && date.second < 60

/-- Days between the beginning of the year one and that of another year. -/
def daysBeforeYear (year : Int) : Int :=
  365 * (year - 1) + (year - 1) / 4 - (year - 1) / 100 + (year - 1) / 400

/-- Days between the beginning of a year and that of one of its months. -/
def daysBeforeMonth (year : Int) (month : Nat) : Nat :=
  ((monthLengths year).take month).foldl (· + ·) 0

/-- Days between the beginning of 1970 and a date. -/
def days (date : Date) : Int :=
  daysBeforeYear date.year - daysBeforeYear 1970 +
    daysBeforeMonth date.year date.month + (date.day - 1)

/-- Seconds between the beginning of 1970 and a date. -/
def seconds (date : Date) : Int :=
  date.days * 86400 + date.hour * 3600 + date.minute * 60 + date.second

/-- A year as it is written. -/
def fullYear (year : Int) : Int :=
  if 0 ≤ year ∧ year < 69 then year + 2000
  else if 69 ≤ year ∧ year < 100 then year + 1900
  else year

/-! ## Layouts -/

/-- What stands at one place of a written date. -/
inductive Piece where
  | exactly (text : String)
  | weekday
  | longWeekday
  | day
  | blankedDay
  | month
  | twoDigitYear
  | year
  | clock

def weekdays : List String :=
  ["Mon", "Tue", "Wed", "Thu", "Fri", "Sat", "Sun"]

def longWeekdays : List String :=
  ["Monday", "Tuesday", "Wednesday", "Thursday", "Friday", "Saturday",
    "Sunday"]

def months : List String :=
  ["Jan", "Feb", "Mar", "Apr", "May", "Jun", "Jul", "Aug", "Sep", "Oct",
    "Nov", "Dec"]

/-- The layouts in use, by examples: `Fri, 01 Jan 2100 00:00:00 GMT`,
`Friday, 01-Jan-30 00:00:00 GMT`, `Fri Jan  1 00:00:00 2100` and
`Fri, 01-Jan-2100 00:00:00 GMT`. -/
def layouts : List (List Piece) := [
  [.weekday, .exactly ", ", .day, .exactly " ", .month, .exactly " ", .year,
    .exactly " ", .clock, .exactly " GMT"],
  [.longWeekday, .exactly ", ", .day, .exactly "-", .month, .exactly "-",
    .twoDigitYear, .exactly " ", .clock, .exactly " GMT"],
  [.weekday, .exactly " ", .month, .exactly " ", .blankedDay, .exactly " ",
    .clock, .exactly " ", .year],
  [.weekday, .exactly ", ", .day, .exactly "-", .month, .exactly "-", .year,
    .exactly " ", .clock, .exactly " GMT"]]

/-- The text after another one that stands at its front. -/
def after? (text : String) (cs : List Char) : Option (List Char) :=
  if text.toList.isPrefixOf cs then some (cs.drop text.length) else none

/-- The place in a list of the name at the front of a text. -/
def name? (names : List String) (cs : List Char) :
    Option (Nat × List Char) :=
  (names.zipIdx).findSome? fun entry =>
    (after? entry.1 cs).map fun rest => (entry.2, rest)

def digitsValue (digits : List Char) : Nat :=
  digits.foldl (fun value c => value * 10 + (c.toNat - 0x30)) 0

def twoDigits? : List Char → Option (Nat × List Char)
  | first :: second :: rest =>
      if first.isDigit && second.isDigit then
        some (digitsValue [first, second], rest)
      else none
  | _ => none

/-- A number of two places, the first of which may be left blank. -/
def blankedDigits? : List Char → Option (Nat × List Char)
  | ' ' :: digit :: rest =>
      if digit.isDigit then some (digitsValue [digit], rest) else none
  | cs => twoDigits? cs

/-- A number of one to four digits. -/
def fewDigits? (cs : List Char) : Option (Nat × List Char) :=
  let digits := (cs.take 4).takeWhile Char.isDigit
  if digits.isEmpty then none
  else some (digitsValue digits, cs.drop digits.length)

/-- A year, with a sign if it has one. -/
def year? : List Char → Option (Int × List Char)
  | '-' :: rest =>
      (fewDigits? rest).map fun (year, rest) => (-(year : Int), rest)
  | '+' :: rest | rest =>
      (fewDigits? rest).map fun (year, rest) => ((year : Int), rest)

def clock? (cs : List Char) : Option ((Nat × Nat × Nat) × List Char) := do
  let (hour, cs) ← twoDigits? cs
  let cs ← after? ":" cs
  let (minute, cs) ← twoDigits? cs
  let cs ← after? ":" cs
  let (second, cs) ← twoDigits? cs
  return ((hour, minute, second), cs)

/-- Read one piece of a date. -/
def Piece.read? (piece : Piece) (date : Date) (cs : List Char) :
    Option (Date × List Char) :=
  match piece with
  | .exactly text => (after? text cs).map fun rest => (date, rest)
  | .weekday => (name? weekdays cs).map fun found => (date, found.2)
  | .longWeekday => (name? longWeekdays cs).map fun found => (date, found.2)
  | .day => do
      let (number, rest) ← twoDigits? cs
      return ({ date with day := number }, rest)
  | .blankedDay => do
      let (number, rest) ← blankedDigits? cs
      return ({ date with day := number }, rest)
  | .month => do
      let (index, rest) ← name? months cs
      return ({ date with month := index }, rest)
  | .twoDigitYear => do
      let (number, rest) ← twoDigits? cs
      return ({ date with year := fullYear number }, rest)
  | .year => do
      let (number, rest) ← year? cs
      return ({ date with year := fullYear number }, rest)
  | .clock => do
      let ((hour, minute, second), rest) ← clock? cs
      return ({ date with hour := hour, minute := minute, second := second },
        rest)

/-- Read the pieces of a layout up to the end of a text. -/
def readLayout? : List Piece → Date → List Char → Option Date
  | [], date, [] => some date
  | [], _, _ :: _ => none
  | piece :: rest, date, cs => do
      let (date, cs) ← piece.read? date cs
      readLayout? rest date cs

/-- Read a date in the first layout that fits. -/
def ofText? (cs : List Char) : Option Date :=
  layouts.findSome? fun layout =>
    (readLayout? layout ⟨0, 0, 0, 0, 0, 0⟩ cs).filter (·.isPossible)

end Date

end OperatorConsole
