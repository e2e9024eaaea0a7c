import XrayChecker.Go.Check

/-
Instants and durations, as Go's `time` package counts them.
-/

namespace Go

/-- `time.Time` as nanoseconds since the zero instant, which is `0`. -/
abbrev Time := Nat

/-- `t.IsZero()`. -/
def Time.isZero (t : Time) : Bool :=
  t == 0

/-- `t.Sub(u)`, in nanoseconds. -/
def Time.sub (t u : Time) : Int :=
  (t : Int) - (u : Int)

/-- `time.Duration(n) * time.Minute`, in nanoseconds. -/
def minutes (n : Int) : Int :=
  n * 60000000000

theorem Time.sub_lt_iff {t u : Time} {d : Int} :
    t.sub u < d ↔ (t : Int) < u + d := by
  unfold Time.sub
  omega

/-- The longer ago an instant is, the earlier it is. -/
theorem Time.lt_of_sub_lt_sub {t u v : Time} (h : t.sub u < t.sub v) :
    v < u := by
  unfold Time.sub at h
  exact Int.ofNat_lt.mp (by omega)

theorem minutes_pos {n : Int} (h : 0 < n) : 0 < minutes n := by
  unfold minutes
  omega

end Go
