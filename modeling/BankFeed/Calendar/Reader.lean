import BankFeed.Calendar.Date
import BankFeed.Text.Blank

/-!
# Reading dates and timestamps

A date is `year-month-day`; a timestamp goes on with `Thour:minute:second` and an optional
fraction of a second. Blanks may stand before every number, before every separator and at
the end. A year without a sign has at most four digits. Months, days and the parts of a time
are checked as soon as they are read; whether the calendar has the day is checked last.
-/

namespace BankFeed

-- Powers are those of natural numbers, whatever algebra is in scope.
attribute [local instance (high)] instPowNat

inductive CalendarError where
  | tooShort
  | invalid
  | tooLong
  | outOfRange
  deriving DecidableEq, Repr

def CalendarError.message : CalendarError → String
  | .tooShort => "premature end of input"
  | .invalid => "input contains invalid characters"
  | .tooLong => "trailing input"
  | .outOfRange => "input is out of range"

/-! ## Parts

Each reader gives what it read and what is left of the text. -/

namespace Calendar

/-- A number of at least one and at most `width` digits; it must fit 63 bits. -/
def number (width : Nat) : List Char → Except CalendarError (Nat × List Char)
  | [] => .error .tooShort
  | c :: cs =>
      if c.isDigit then
        let digits := ((c :: cs).take width).takeWhile Char.isDigit
        let value := Nat.ofDigitChars 10 digits 0
        if value ≤ 9223372036854775807 then .ok (value, (c :: cs).drop digits.length)
        else .error .outOfRange
      else .error .invalid

/-- A year; with a sign it may have any number of digits, but must fit 32 bits. -/
def year (cs : List Char) : Except CalendarError (Int × List Char) := do
  let (value, rest) ←
    match Text.trimStart cs with
    | '-' :: rest => do
        let (n, rest) ← number rest.length rest
        pure (-(n : Int), rest)
    | '+' :: rest => do
        let (n, rest) ← number rest.length rest
        pure ((n : Int), rest)
    | rest => do
        let (n, rest) ← number 4 rest
        pure ((n : Int), rest)
  if -2147483648 ≤ value ∧ value ≤ 2147483647 then .ok (value, rest) else .error .outOfRange

def part (least greatest : Nat) (cs : List Char) : Except CalendarError (Nat × List Char) := do
  let (value, rest) ← number 2 (Text.trimStart cs)
  if least ≤ value ∧ value ≤ greatest then .ok (value, rest) else .error .outOfRange

def separator (mark : Char) (cs : List Char) : Except CalendarError (List Char) :=
  match Text.trimStart cs with
  | [] => .error .tooShort
  | c :: rest => if c = mark then .ok rest else .error .invalid

/-- The fraction after a point, in nanoseconds; digits after the ninth are dropped. -/
def fraction : List Char → Except CalendarError (Nat × List Char)
  | '.' :: cs => do
      let (value, rest) ← number 9 cs
      let width := cs.length - rest.length
      .ok (value * 10 ^ (9 - width), rest.dropWhile Char.isDigit)
  | cs => .ok (0, cs)

def atEnd (cs : List Char) : Except CalendarError Unit :=
  if (Text.trimStart cs).isEmpty then .ok () else .error .tooLong

def orOutOfRange {α : Type} : Option α → Except CalendarError α
  | some a => .ok a
  | none => .error .outOfRange

def yearMonthDay (cs : List Char) : Except CalendarError ((Int × Nat × Nat) × List Char) := do
  let (y, cs) ← year cs
  let cs ← separator '-' cs
  let (m, cs) ← part 1 12 cs
  let cs ← separator '-' cs
  let (d, cs) ← part 1 31 cs
  .ok ((y, m, d), cs)

end Calendar

namespace Date

def read (cs : List Char) : Except CalendarError Date := do
  let ((y, m, d), cs) ← Calendar.yearMonthDay cs
  Calendar.atEnd cs
  Calendar.orOutOfRange (ofParts? y m d)

end Date

namespace Timestamp

def read (cs : List Char) : Except CalendarError Timestamp := do
  let ((y, m, d), cs) ← Calendar.yearMonthDay cs
  let cs ← Calendar.separator 'T' cs
  let (hour, cs) ← Calendar.part 0 23 cs
  let cs ← Calendar.separator ':' cs
  let (minute, cs) ← Calendar.part 0 59 cs
  let cs ← Calendar.separator ':' cs
  let (second, cs) ← Calendar.part 0 60 cs
  let (nanosecond, cs) ← Calendar.fraction cs
  Calendar.atEnd cs
  let date ← Calendar.orOutOfRange (Date.ofParts? y m d)
  Calendar.orOutOfRange (ofClock? date hour minute second nanosecond)

end Timestamp
end BankFeed
