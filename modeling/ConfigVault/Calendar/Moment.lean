import ConfigVault.Calendar.Date

/-!
# Moments

A reading of a clock is a date and a time of day to the microsecond.  A moment is a reading together
with the offset of its clock from UTC; a reading without an offset is taken as UTC where a program
has to choose.  Offsets are smaller than a day, so the reading of the same moment in UTC lies on the
same day or on a neighbouring one.
-/

namespace ConfigVault.Calendar

/-- A time of day. -/
@[ext] structure TimeOfDay where
  hour : Nat
  minute : Nat
  second : Nat
  microsecond : Nat
  inRange : hour < 24 ∧ minute < 60 ∧ second < 60 ∧ microsecond < 1000000
  deriving DecidableEq

def TimeOfDay.ofNumbers? (hour minute second microsecond : Nat) : Option TimeOfDay :=
  if h : hour < 24 ∧ minute < 60 ∧ second < 60 ∧ microsecond < 1000000 then
    some ⟨hour, minute, second, microsecond, h⟩
  else none

/-- The number of whole seconds since midnight. -/
def TimeOfDay.seconds (t : TimeOfDay) : Nat :=
  (t.hour * 60 + t.minute) * 60 + t.second

/-- The number of microseconds since midnight. -/
def TimeOfDay.microseconds (t : TimeOfDay) : Nat :=
  t.seconds * 1000000 + t.microsecond

/-- The time of day that many microseconds after midnight, counted modulo a day. -/
def TimeOfDay.ofMicroseconds (microseconds : Nat) : TimeOfDay where
  hour := microseconds / 3600000000 % 24
  minute := microseconds / 60000000 % 60
  second := microseconds / 1000000 % 60
  microsecond := microseconds % 1000000
  inRange := ⟨Nat.mod_lt _ (by decide), Nat.mod_lt _ (by decide), Nat.mod_lt _ (by decide),
    Nat.mod_lt _ (by decide)⟩

/-- The time of day without its sub-second part. -/
def TimeOfDay.wholeSeconds (t : TimeOfDay) : TimeOfDay :=
  ⟨t.hour, t.minute, t.second, 0, t.inRange.1, t.inRange.2.1, t.inRange.2.2.1, by decide⟩

/-- A date and a time of day. -/
@[ext] structure Reading where
  date : Date
  time : TimeOfDay
  deriving DecidableEq

def Reading.ofNumbers? (year month day hour minute second microsecond : Nat) : Option Reading :=
  match Date.ofNumbers? year month day, TimeOfDay.ofNumbers? hour minute second microsecond with
  | some date, some time => some ⟨date, time⟩
  | _, _ => none

/-- The number of microseconds from the start of the first day of the calendar's count. -/
def Reading.microseconds (r : Reading) : Nat :=
  (r.date.ordinal * 86400 + r.time.seconds) * 1000000 + r.time.microsecond

def Reading.wholeSeconds (r : Reading) : Reading :=
  ⟨r.date, r.time.wholeSeconds⟩

def Reading.first : Reading :=
  ⟨⟨1, 1, 1, by decide⟩, ⟨0, 0, 0, 0, by decide⟩⟩

/-- A reading of a clock that runs `offset` microseconds ahead of UTC; without an offset the clock
does not say how it relates to UTC. -/
structure Moment where
  reading : Reading
  offset : Option Int
  deriving DecidableEq

def Moment.utc (r : Reading) : Moment :=
  ⟨r, some 0⟩

/-- The reading so many microseconds later, where the shift is smaller than a day; none if that falls
outside the years of the calendar. -/
def Reading.shift? (r : Reading) (microseconds : Int) : Option Reading :=
  let total : Int := (r.time.microseconds : Int) + microseconds
  let time := TimeOfDay.ofMicroseconds (total % 86400000000).toNat
  if total < 0 then r.date.previous?.map (⟨·, time⟩)
  else if total < 86400000000 then some ⟨r.date, time⟩
  else r.date.next?.map (⟨·, time⟩)

/-- The reading of a moment in UTC, taking a reading without an offset as it is. -/
def Moment.inUtc? (m : Moment) : Option Reading :=
  match m.offset with
  | none => some m.reading
  | some offset => m.reading.shift? (-offset)

/-- The microseconds of a moment on the scale of UTC, also where its reading there is outside the
calendar; a moment without an offset has no place on that scale. -/
def Moment.utcMicroseconds? (m : Moment) : Option Int :=
  m.offset.map fun offset => (m.reading.microseconds : Int) - offset

def fractionText (microsecond : Nat) : List Char :=
  if microsecond = 0 then [] else '.' :: padded 6 microsecond

/-- An offset as hours and minutes with a sign, and seconds and microseconds if there are any. -/
def offsetText (offset : Int) : List Char :=
  let t := TimeOfDay.ofMicroseconds offset.natAbs
  (if offset < 0 then '-' else '+') :: (padded 2 t.hour ++ ':' :: padded 2 t.minute) ++
    (if t.second = 0 && t.microsecond = 0 then []
    else ':' :: padded 2 t.second ++ fractionText t.microsecond)

/-- A time of day in the international form, with microseconds if there are any. -/
def TimeOfDay.isoText (t : TimeOfDay) : List Char :=
  padded 2 t.hour ++ ':' :: (padded 2 t.minute ++ ':' :: padded 2 t.second) ++
    fractionText t.microsecond

/-- A moment with a mark between its day and its time. -/
def Moment.textWith (mark : String) (m : Moment) : String :=
  m.reading.date.isoText ++ mark ++ String.ofList (m.reading.time.isoText ++
    (match m.offset with
    | none => []
    | some offset => offsetText offset))

/-- A moment in the international form, such as `2024-03-01T12:30:05+00:00`. -/
def Moment.isoText (m : Moment) : String := m.textWith "T"

end ConfigVault.Calendar
