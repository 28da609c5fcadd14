/-!
# Dates and timestamps

Days of the Gregorian calendar, extended to all years of the range, and moments on them to
the nanosecond, without a time zone. Any second may be followed by a leap second, in which its
nanoseconds go on counting up to two billions: it stands after the second and before the next.
-/

namespace BankFeed

def isLeapYear (year : Int) : Bool :=
  year % 4 == 0 && (year % 100 != 0 || year % 400 == 0)

def daysInMonth (year : Int) (month : Nat) : Nat :=
  if month = 2 then (if isLeapYear year then 29 else 28)
  else if month = 4 ∨ month = 6 ∨ month = 9 ∨ month = 11 then 30
  else 31

def IsDay (year : Int) (month day : Nat) : Prop :=
  -262143 ≤ year ∧ year ≤ 262142 ∧ 1 ≤ month ∧ month ≤ 12 ∧ 1 ≤ day ∧
    day ≤ daysInMonth year month

instance (year : Int) (month day : Nat) : Decidable (IsDay year month day) := by
  unfold IsDay
  infer_instance

structure Date where
  year : Int
  month : Nat
  day : Nat
  isDay : IsDay year month day := by decide
  deriving DecidableEq

/-- From a billion nanoseconds on this is a moment in the leap second after `second`. -/
structure Timestamp where
  date : Date
  hour : Nat
  minute : Nat
  second : Nat
  nanosecond : Nat
  hour_lt : hour < 24 := by decide
  minute_lt : minute < 60 := by decide
  second_lt : second < 60 := by decide
  nanosecond_lt : nanosecond < 2000000000 := by decide
  deriving DecidableEq

namespace Date

def ofParts? (year : Int) (month day : Nat) : Option Date :=
  if h : IsDay year month day then some ⟨year, month, day, h⟩ else none

def cmp (a b : Date) : Ordering :=
  ((compare a.year b.year).then (compare a.month b.month)).then (compare a.day b.day)

theorem ofParts?_eq_some {year : Int} {month day : Nat} {d : Date} :
    ofParts? year month day = some d ↔ d.year = year ∧ d.month = month ∧ d.day = day := by
  cases d with
  | mk y m n h =>
      unfold ofParts?
      split
      · simp [eq_comm]
      · next hno =>
          simp only [reduceCtorEq, false_iff, not_and]
          intro hy hm hn
          exact hno (hy ▸ hm ▸ hn ▸ h)

theorem ofParts?_self (d : Date) : ofParts? d.year d.month d.day = some d :=
  ofParts?_eq_some.mpr ⟨rfl, rfl, rfl⟩

end Date

namespace Timestamp

def ofParts? (date : Date) (hour minute second nanosecond : Nat) : Option Timestamp :=
  if h : hour < 24 ∧ minute < 60 ∧ second < 60 ∧ nanosecond < 2000000000 then
    some ⟨date, hour, minute, second, nanosecond, h.1, h.2.1, h.2.2.1, h.2.2.2⟩
  else none

/-- As `ofParts?`, but with the leap second at the end of a minute as its sixty-first second. -/
def ofClock? (date : Date) (hour minute second nanosecond : Nat) : Option Timestamp :=
  if second = 60 then ofParts? date hour minute 59 (nanosecond + 1000000000)
  else ofParts? date hour minute second nanosecond

def cmp (a b : Timestamp) : Ordering :=
  ((((a.date.cmp b.date).then (compare a.hour b.hour)).then (compare a.minute b.minute)).then
    (compare a.second b.second)).then (compare a.nanosecond b.nanosecond)

theorem ofParts?_eq_some {date : Date} {hour minute second nanosecond : Nat} {t : Timestamp} :
    ofParts? date hour minute second nanosecond = some t ↔
      t.date = date ∧ t.hour = hour ∧ t.minute = minute ∧ t.second = second ∧
        t.nanosecond = nanosecond := by
  cases t with
  | mk d h m s n hh hm hs hn =>
      unfold ofParts?
      split
      · simp [eq_comm]
      · next hno =>
          simp only [reduceCtorEq, false_iff]
          rintro ⟨-, rfl, rfl, rfl, rfl⟩
          exact hno ⟨hh, hm, hs, hn⟩

end Timestamp
end BankFeed
