import BankFeed.Calendar.Date

/-!
# Writing dates and timestamps

Years from 0 to 9999 have four digits, all others a sign and at least four digits. A fraction
of a second has three, six or nine digits, the fewest that are exact, and none if it is zero. A
leap second is written as if it were the next second of its minute.
-/

namespace BankFeed
namespace Calendar

def padded (width n : Nat) : List Char :=
  let digits := Nat.toDigits 10 n
  List.replicate (width - digits.length) '0' ++ digits

def yearText (year : Int) : List Char :=
  if 0 ≤ year ∧ year ≤ 9999 then padded 4 year.toNat
  else (if year < 0 then '-' else '+') :: padded 4 year.natAbs

def fractionText (nanosecond : Nat) : List Char :=
  if nanosecond = 0 then []
  else if nanosecond % 1000000 = 0 then '.' :: padded 3 (nanosecond / 1000000)
  else if nanosecond % 1000 = 0 then '.' :: padded 6 (nanosecond / 1000)
  else '.' :: padded 9 nanosecond

end Calendar

def Date.text (d : Date) : List Char :=
  Calendar.yearText d.year ++ '-' :: (Calendar.padded 2 d.month ++
    '-' :: Calendar.padded 2 d.day)

def Timestamp.text (t : Timestamp) : List Char :=
  let second := t.second + t.nanosecond / 1000000000
  t.date.text ++ 'T' :: (Calendar.padded 2 t.hour ++ ':' :: (Calendar.padded 2 t.minute ++
    ':' :: (Calendar.padded 2 second ++ Calendar.fractionText (t.nanosecond % 1000000000))))

end BankFeed
