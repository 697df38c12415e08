/-!
# Dates

Dates of the Gregorian calendar, extended to all years from 1 to 9999.  A date knows its neighbours,
and its ordinal counts the days from the first of January of the year 1, so that stepping to the next
date adds one to the ordinal.
-/

namespace ConfigVault.Calendar

/-- A leap year has a twenty-ninth of February. -/
def isLeap (year : Nat) : Bool :=
  year % 4 = 0 && (year % 100 ≠ 0 || year % 400 = 0)

/-- The number of days of a month; February is the month that depends on the year. -/
def daysInMonth (year month : Nat) : Nat :=
  if month = 2 then (if isLeap year then 29 else 28)
  else if month = 4 || month = 6 || month = 9 || month = 11 then 30
  else 31

theorem daysInMonth_pos (year month : Nat) : 28 ≤ daysInMonth year month := by
  unfold daysInMonth
  split
  · split <;> omega
  · split <;> omega

theorem daysInMonth_le (year month : Nat) : daysInMonth year month ≤ 31 := by
  unfold daysInMonth
  split
  · split <;> omega
  · split <;> omega

def minYear : Nat := 1

def maxYear : Nat := 9999

/-- The three numbers name a day of the calendar. -/
def IsDate (year month day : Nat) : Prop :=
  minYear ≤ year ∧ year ≤ maxYear ∧ 1 ≤ month ∧ month ≤ 12 ∧ 1 ≤ day ∧ day ≤ daysInMonth year month

instance (year month day : Nat) : Decidable (IsDate year month day) := by
  unfold IsDate
  infer_instance

/-- A day of the calendar. -/
@[ext] structure Date where
  year : Nat
  month : Nat
  day : Nat
  isDate : IsDate year month day
  deriving DecidableEq

def Date.ofNumbers? (year month day : Nat) : Option Date :=
  if h : IsDate year month day then some ⟨year, month, day, h⟩ else none

theorem Date.ofNumbers?_eq_some_iff {year month day : Nat} {d : Date} :
    Date.ofNumbers? year month day = some d ↔
      d.year = year ∧ d.month = month ∧ d.day = day := by
  unfold Date.ofNumbers?
  constructor
  · intro h
    split at h
    · cases h
      exact ⟨rfl, rfl, rfl⟩
    · cases h
  · rintro ⟨rfl, rfl, rfl⟩
    simp [d.isDate]

/-- The day after, except at the end of the last year. -/
def Date.next? (d : Date) : Option Date :=
  if d.day < daysInMonth d.year d.month then Date.ofNumbers? d.year d.month (d.day + 1)
  else if d.month < 12 then Date.ofNumbers? d.year (d.month + 1) 1
  else Date.ofNumbers? (d.year + 1) 1 1

/-- The day before, except at the start of the first year. -/
def Date.previous? (d : Date) : Option Date :=
  if 1 < d.day then Date.ofNumbers? d.year d.month (d.day - 1)
  else if 1 < d.month then
    Date.ofNumbers? d.year (d.month - 1) (daysInMonth d.year (d.month - 1))
  else Date.ofNumbers? (d.year - 1) 12 31

def daysBeforeYear (year : Nat) : Nat :=
  let past := year - 1
  365 * past + past / 4 - past / 100 + past / 400

def daysBeforeMonth (year : Nat) : (month : Nat) → Nat
  | 0 => 0
  | 1 => 0
  | month + 2 => daysBeforeMonth year (month + 1) + daysInMonth year (month + 1)

/-- The number of the day, counted from 1 for the first day of the year 1. -/
def Date.ordinal (d : Date) : Nat :=
  daysBeforeYear d.year + daysBeforeMonth d.year d.month + d.day

/-- The decimal digits of a number, filled with zeros to a width. -/
def padded (width n : Nat) : List Char :=
  let digits := Nat.toDigits 10 n
  List.replicate (width - digits.length) '0' ++ digits

/-- A date in the international form, such as `2024-03-01`. -/
def Date.isoText (d : Date) : String :=
  String.ofList (padded 4 d.year ++ '-' :: (padded 2 d.month ++ '-' :: padded 2 d.day))

end ConfigVault.Calendar
