import Mathlib.Algebra.BigOperators.Group.List.Basic
import Mathlib.Algebra.Ring.Int.Defs
import XrayChecker.Go.Submap

/-
A quantity summed over the entries of a map, and what it becomes when entries
are put in or taken out.
-/

namespace Go.GoMap

variable {K V : Type} [Ord K] [Std.TransOrd K] [Std.LawfulEqOrd K]

/-- The sum of a quantity over the entries of a map. -/
def total (f : K → V → Int) (m : GoMap K V) : Int :=
  (m.toList.map fun entry => f entry.1 entry.2).sum

end Go.GoMap
