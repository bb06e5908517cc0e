import LinkedNotes.Time.Date

/-!
# Timestamps

Points in time in UTC, to the nanosecond. A leap second may follow any second and has the same
number, with its nanoseconds counted on from those of that second. Those that clocks know follow the
last second of a minute.
-/

namespace LinkedNotes.Time

/-- The numbers name a time of day, which is in a leap second if a second has no such nanosecond. -/
def IsTimeOfDay (hour minute second nanosecond : Nat) : Prop :=
  hour < 24 ∧ minute < 60 ∧ second < 60 ∧ nanosecond < 2000000000

instance (hour minute second nanosecond : Nat) :
    Decidable (IsTimeOfDay hour minute second nanosecond) := by
  unfold IsTimeOfDay
  infer_instance

/-- A point in time. -/
structure Timestamp where
  date : Date
  hour : Nat
  minute : Nat
  second : Nat
  nanosecond : Nat
  isTimeOfDay : IsTimeOfDay hour minute second nanosecond
  deriving DecidableEq

namespace Timestamp

/-- The point in time of a date and the numbers of a time of day, if they name one. -/
def of? (date : Date) (hour minute second nanosecond : Nat) : Option Timestamp :=
  if h : IsTimeOfDay hour minute second nanosecond then
    some ⟨date, hour, minute, second, nanosecond, h⟩
  else none

/-- The start of the first of January 1970. -/
def epoch : Timestamp := ⟨Date.epoch, 0, 0, 0, 0, by decide⟩

instance : Inhabited Timestamp := ⟨epoch⟩

/-- The parts of a timestamp, the greatest first. -/
def parts (t : Timestamp) : List Int :=
  [t.date.year, t.date.month, t.date.day, t.hour, t.minute, t.second, t.nanosecond]

/-- The timestamp is no later than the other. -/
def notAfter (t u : Timestamp) : Bool := !decide (u.parts < t.parts)

/-- The point in time that a clock shows as `hour` and `minute` on `date` where it is `offset`
minutes ahead of UTC. The offset is less than a day. -/
def ofLocal? (date : Date) (hour minute second nanosecond : Nat) (offset : Int) :
    Option Timestamp := do
  let minutes : Int := 60 * hour + minute - offset
  let date ←
    if minutes < 0 then date.previous?
    else if 1440 ≤ minutes then date.next?
    else some date
  let minutes := (minutes % 1440).toNat
  of? date (minutes / 60) (minutes % 60) second nanosecond

/-- The point in time so many seconds after the start of 1970, leap seconds not counted. -/
def ofSeconds? (seconds : Int) : Option Timestamp := do
  let date ← Date.ofDayNumber? (seconds / 86400)
  let rest := (seconds % 86400).toNat
  of? date (rest / 3600) (rest / 60 % 60) (rest % 60) 0

end Timestamp

end LinkedNotes.Time
