import XrayChecker.Go.Text
import XrayChecker.Go.Time

/-
Time zones: the seconds a zone is ahead of UTC at every instant, the clock
that is read there, and the instants of its dates.

Instants and clocks are counted in seconds since the zero instant, a Monday.
-/

namespace Go

/-- The whole seconds of an instant. -/
def Time.seconds (t : Time) : Int :=
  (t / 1000000000 : Nat)

/-- `*time.Location`: its name, and how many seconds it is ahead of UTC. -/
structure Location where
  name : Text
  offset : Int → Int

namespace Location

/-- `time.UTC`. -/
def utc : Location where
  name := "UTC".toList
  offset _ := 0

/-- What the clock shows at an instant. -/
def clock (location : Location) (seconds : Int) : Int :=
  seconds + location.offset seconds

/-- `t.In(location).Hour()`. -/
def hour (location : Location) (t : Time) : Fin 24 :=
  ⟨(location.clock t.seconds % 86400 / 3600).toNat, by omega⟩

/-- `time.Date`, of what the clock is to show: the offset is looked up there as
if the clock showed UTC, and again at the instant that this gives. -/
def date (location : Location) (clock : Int) : Int :=
  let offset := location.offset clock
  if offset = 0 then clock else clock - location.offset (clock - offset)

/-- What the rules of a zone leave open: no offset is more than 26 hours, and
within four days the clock is not moved by more than ten. -/
structure Seasonal (location : Location) : Prop where
  bounded : ∀ s, -93600 ≤ location.offset s ∧ location.offset s ≤ 93600
  shifts : ∀ s t, s - t ≤ 345600 → t - s ≤ 345600 →
    location.offset s - location.offset t ≤ 36000

variable {location : Location}

/-- The offset that a date is computed with is one of those in force around
it. -/
theorem date_eq (h : location.Seasonal) (clock : Int) :
    ∃ s, location.date clock = clock - location.offset s ∧
      s - clock ≤ 93600 ∧ clock - s ≤ 93600 := by
  have hclock := h.bounded clock
  rw [date]
  split
  next hzero => exact ⟨clock, by omega, by omega, by omega⟩
  next => exact ⟨clock - location.offset clock, rfl, by omega, by omega⟩

end Location

end Go
