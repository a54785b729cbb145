import ScopedConfig.Text.Blank
import ScopedConfig.Number.Integer

/-! Spans of time in text: a sequence of numbers, each with a unit, which add up.
A number may have a decimal fraction if the fraction of its unit is a whole
number of nanoseconds, for the units up to the minute, or of seconds, for the
longer ones.  Every intermediate number has to fit in 64 bits.  The reader is
one pass over the characters; a fault is reported with its offset in bytes. -/
namespace ScopedConfig

/-- A span of time: whole seconds and the nanoseconds beyond them. -/
structure Duration where
  seconds : Nat
  nanos : Nat
  deriving DecidableEq, Repr

/-- Why a text is no span of time. -/
inductive DurationError where
  | empty
  | numberExpected (offset : Nat)
  | invalidCharacter (offset : Nat)
  | unitMissing (number : Nat)
  | unknownUnit (unit : Text)
  | outOfRange
  deriving DecidableEq, Repr

namespace DurationError

/-- The units named in a message. -/
def supportedUnits : Text :=
  "ns, us/µs, ms, sec, min, hours, days, weeks, months, years (and few variations)"

/-- The error in words. -/
def message : DurationError → Text
  | empty => "value was empty"
  | numberExpected offset => "expected number at " ++ Text.ofNat offset
  | invalidCharacter offset => "invalid character at " ++ Text.ofNat offset
  | unitMissing number =>
    "time unit needed, for example " ++ Text.ofNat number ++ "sec or " ++ Text.ofNat number ++ "ms"
  | unknownUnit unit => "unknown time unit \"" ++ unit ++ "\", supported units: " ++ supportedUnits
  | outOfRange =>
    "number is too large or cannot be represented without a lack of precision " ++
      "(values below 1ns are not supported)"

end DurationError

/-- The units of time; a month and a year are those of the mean Gregorian
calendar with a year of 365.25 days. -/
inductive TimeUnit where
  | nanosecond
  | microsecond
  | millisecond
  | second
  | minute
  | hour
  | day
  | week
  | month
  | year
  deriving DecidableEq, Repr

/-- A length of time in one of the two measures it is counted in. -/
inductive TimeStep where
  | nanos (n : Nat)
  | seconds (n : Nat)

namespace TimeUnit

/-- The units and their names. -/
def names : List (TimeUnit × List String) :=
  [(nanosecond, ["nanos", "nsec", "ns"]),
   (microsecond, ["usec", "us", "µs"]),
   (millisecond, ["millis", "msec", "ms"]),
   (second, ["seconds", "second", "secs", "sec", "s"]),
   (minute, ["minutes", "minute", "min", "mins", "m"]),
   (hour, ["hours", "hour", "hr", "hrs", "h"]),
   (day, ["days", "day", "d"]),
   (week, ["weeks", "week", "wk", "wks", "w"]),
   (month, ["months", "month", "M"]),
   (year, ["years", "year", "yr", "yrs", "y"])]

/-- The unit of a name. -/
def ofName? (name : Text) : Option TimeUnit :=
  (names.find? fun (_, spellings) => spellings.any fun s => s.toList = name).map Prod.fst

/-- What whole numbers of the unit are multiplied by. -/
def whole : TimeUnit → TimeStep
  | nanosecond => .nanos 1
  | microsecond => .nanos 1000
  | millisecond => .nanos 1000000
  | second => .seconds 1
  | minute => .seconds 60
  | hour => .seconds 3600
  | day => .seconds 86400
  | week => .seconds 604800
  | month => .seconds 2630016
  | year => .seconds 31557600

/-- What fractions of the unit are taken of; a nanosecond has none. -/
def divided : TimeUnit → Option TimeStep
  | nanosecond => none
  | second => some (.nanos 1000000000)
  | minute => some (.nanos 60000000000)
  | unit => some unit.whole

end TimeUnit

namespace Duration

/-- No time. -/
def zero : Duration := ⟨0, 0⟩

/-- Nanoseconds in a second. -/
def nanosPerSecond : Nat := 1000000000

/-- A number that fits in 64 bits. -/
def checked (n : Nat) : Except DurationError Nat :=
  if n ≤ Integer.nat64Max then .ok n else .error .outOfRange

/-- `numerator / denominator` of `n`, if it is a whole number. -/
def exactPart (n numerator denominator : Nat) : Except DurationError Nat := do
  let product ← checked (numerator * n)
  if product % denominator = 0 then .ok (product / denominator) else .error .outOfRange

/-- The sum with a number of seconds. -/
def addSeconds (d : Duration) (n : Nat) : Except DurationError Duration := do
  let seconds ← checked (d.seconds + n)
  .ok { d with seconds }

/-- The sum with a number of nanoseconds; full seconds are carried. -/
def addNanos (d : Duration) (n : Nat) : Except DurationError Duration := do
  let nanos ← checked (d.nanos + n)
  let seconds ← checked (d.seconds + nanos / nanosPerSecond)
  .ok ⟨seconds, nanos % nanosPerSecond⟩

/-- The sum with `amount`, given as a function of the length of a step. -/
def addSteps (d : Duration) (step : TimeStep) (amount : Nat → Except DurationError Nat) :
    Except DurationError Duration :=
  match step with
  | .nanos n => do d.addNanos (← amount n)
  | .seconds n => do d.addSeconds (← amount n)

/-- The digits behind a decimal point, as a fraction with the power of ten below
them. -/
structure Fraction where
  numerator : Nat
  denominator : Nat

namespace Fraction

/-- No digits. -/
def none : Fraction := ⟨0, 1⟩

/-- One more digit. -/
def push (f : Fraction) (digit : Nat) : Except DurationError Fraction := do
  .ok ⟨← checked (f.numerator * 10 + digit), ← checked (f.denominator * 10)⟩

end Fraction

/-- The sum with a number of a unit. -/
def addUnits (d : Duration) (number : Nat) (fraction : Option Fraction) (unit : TimeUnit) :
    Except DurationError Duration := do
  let d ← d.addSteps unit.whole fun n => checked (number * n)
  match fraction with
  | none => .ok d
  | some f =>
    match unit.divided with
    | none => .error .outOfRange
    | some step => d.addSteps step fun n => exactPart n f.numerator f.denominator

/-- A character that a unit is made of. -/
def isUnitLetter (c : Char) : Bool :=
  Text.inRange 'a' 'z' c || Text.inRange 'A' 'Z' c || c = 'µ'

/-- What is being read.  `start` waits for the first digit of a number and knows
where the wait began; a fraction knows the offset behind its last character; a
unit keeps its letters backwards. -/
inductive Phase where
  | start (began : Nat)
  | whole (number : Nat)
  | fraction (number : Nat) (fraction : Fraction) (last : Nat)
  | unit (number : Nat) (fraction : Option Fraction) (letters : Text)

/-- The time read so far, the offset reached, and what is being read. -/
structure Reader where
  total : Duration
  offset : Nat
  phase : Phase

namespace Reader

/-- Nothing read. -/
def initial : Reader := ⟨zero, 0, .start 0⟩

/-- The time with the number whose unit has just ended. -/
def close (total : Duration) (number : Nat) (fraction : Option Fraction) (letters : Text) :
    Except DurationError Duration :=
  let unit := letters.reverse
  match TimeUnit.ofName? unit with
  | some u => total.addUnits number fraction u
  | none => .error (if unit = [] then .unitMissing number else .unknownUnit unit)

/-- The fraction, which has to have digits. -/
def closeFraction (fraction : Fraction) (last : Nat) : Except DurationError Fraction :=
  if fraction.denominator = 1 then .error (.invalidCharacter last) else .ok fraction

/-- What is read after one character; the time only changes where a unit ends. -/
def next (reader : Reader) (c : Char) : Except DurationError (Duration × Phase) :=
  let behind := reader.offset + c.utf8Size
  let digit := c.toNat - '0'.toNat
  match reader.phase with
  | .start began =>
    if Text.isDigit c then .ok (reader.total, .whole digit)
    else if Text.isBlank c then .ok (reader.total, .start began)
    else .error (.numberExpected began)
  | .whole number => do
    if Text.isDigit c then .ok (reader.total, .whole (← checked (number * 10 + digit)))
    else if Text.isBlank c then .ok (reader.total, .whole number)
    else if isUnitLetter c then .ok (reader.total, .unit number none [c])
    else if c = '.' then .ok (reader.total, .fraction number .none reader.offset)
    else .error (.invalidCharacter reader.offset)
  | .fraction number fraction last => do
    if Text.isDigit c then
      .ok (reader.total, .fraction number (← fraction.push digit) behind)
    else if Text.isBlank c then .ok (reader.total, .fraction number fraction behind)
    else if isUnitLetter c then
      .ok (reader.total, .unit number (some (← closeFraction fraction last)) [c])
    else .error (.invalidCharacter last)
  | .unit number fraction letters => do
    if isUnitLetter c then .ok (reader.total, .unit number fraction (c :: letters))
    else if Text.isDigit c then
      .ok (← close reader.total number fraction letters, .whole digit)
    else if Text.isBlank c then
      .ok (← close reader.total number fraction letters, .start behind)
    else .error (.invalidCharacter reader.offset)

/-- Takes one character. -/
def step (reader : Reader) (c : Char) : Except DurationError Reader := do
  let (total, phase) ← reader.next c
  .ok ⟨total, reader.offset + c.utf8Size, phase⟩

/-- The time at the end of the text. -/
def finish (reader : Reader) : Except DurationError Duration :=
  match reader.phase with
  | .start began => if began = 0 then .error .empty else .ok reader.total
  | .whole number => close reader.total number none []
  | .fraction number fraction last => do
    close reader.total number (some (← closeFraction fraction last)) []
  | .unit number fraction letters => close reader.total number fraction letters

end Reader

/-- The time that a sequence of numbers with units stands for. -/
def read (text : Text) : Except DurationError Duration := do
  (← text.foldlM Reader.step .initial).finish

end Duration
end ScopedConfig
