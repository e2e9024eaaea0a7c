import Mathlib.Data.List.Lex
import Mathlib.Data.Prod.Lex
import Mathlib.Order.Lex
import XrayChecker.Speedtest.Fallback

/-
The order in which a node tries the reserve endpoints, as the order of one key,
and that it does not depend on the order of the catalogue.
-/

namespace XrayChecker.Speedtest

open Go

section Order

variable (health : FallbackHealthState) (stableID : Text)

/-- What an endpoint is ranked by, the least first. -/
abbrev RankKey : Type :=
  Timeᵒᵈ ×ₗ Boolᵒᵈ ×ₗ Ratᵒᵈ ×ₗ Timeᵒᵈ ×ₗ Int ×ₗ Text

def rankKey (e : FallbackEndpoint) : RankKey :=
  let own := health.node stableID e.id
  let shared := health.endpoint e.id
  toLex (OrderDual.toDual own.lastSuccessAt,
    toLex (OrderDual.toDual (decide (0 < shared.successes)),
      toLex (OrderDual.toDual (fallbackReliability shared),
        toLex (OrderDual.toDual shared.lastSuccessAt,
          toLex (e.priority, e.id)))))

/-- One key decides, or leaves it to the ones behind it. -/
theorem ranked_iff {α : Type} {left right : α} [Decidable (left ≠ right)]
    {first others : Prop} [Decidable first] {rest : Bool}
    (hfirst : first → left ≠ right) (hrest : rest = true ↔ others) :
    (if left ≠ right then decide first else rest) = true ↔
      first ∨ left = right ∧ others := by
  by_cases hdiffer : left = right
  · have hnot : ¬ first := fun h => hfirst h hdiffer
    simp [hdiffer, hnot, hrest]
  · simp [hdiffer]

/-- An endpoint that is known decides. -/
theorem known_iff {left right others : Prop} [Decidable left]
    [Decidable right] {rest : Bool} (hrest : rest = true ↔ others) :
    (if left ≠ right then decide left else rest) = true ↔
      decide right < decide left ∨ decide left = decide right ∧ others := by
  by_cases hleft : left
  · by_cases hright : right
    · simp [hleft, hright, hrest]
    · simp [hleft, hright]
  · by_cases hright : right
    · simp [hleft, hright]
    · simp [hleft, hright, hrest]

theorem less_iff (left right : FallbackEndpoint) :
    health.less stableID left right = true ↔
      rankKey health stableID left < rankKey health stableID right := by
  simp only [FallbackHealthState.less, rankKey, Prod.Lex.toLex_lt_toLex,
    OrderDual.toDual_lt_toDual, OrderDual.toDual_inj]
  refine ranked_iff (fun h => ne_of_gt h) (known_iff ?_)
  refine ranked_iff (fun h => ne_of_gt h) ?_
  refine ranked_iff (fun h => ne_of_gt h) ?_
  exact ranked_iff (fun h => ne_of_lt h) decide_eq_true_iff

theorem not_less_iff (left right : FallbackEndpoint) :
    (!health.less stableID right left) = true ↔
      rankKey health stableID left ≤ rankKey health stableID right := by
  rw [Bool.not_eq_true', Bool.eq_false_iff, Ne, less_iff, not_lt]

instance : Std.Total fun left right : FallbackEndpoint =>
    (!health.less stableID right left) = true where
  total left right := by
    rw [not_less_iff, not_less_iff]
    exact le_total _ _

instance : IsTrans FallbackEndpoint fun left right =>
    (!health.less stableID right left) = true where
  trans a b c := by
    rw [not_less_iff, not_less_iff, not_less_iff]
    exact le_trans

/-- The candidates do not depend on the order of the catalogue. -/
theorem candidates_perm {endpoints others : List FallbackEndpoint}
    (hids : (endpoints.map (·.id)).Nodup) (h : endpoints.Perm others)
    (primaryURL : Text) (now : Time) :
    health.candidates endpoints stableID primaryURL now =
      health.candidates others stableID primaryURL now := by
  rw [FallbackHealthState.candidates, FallbackHealthState.candidates]
  have hkept := h.filter fun endpoint =>
    endpoint.isEnabled && endpoint.url ≠ trimSpace primaryURL &&
      !health.cooling stableID endpoint.id now
  refine List.Perm.eq_of_pairwise ?_ (List.pairwise_insertionSort _ _)
    (List.pairwise_insertionSort _ _) ((List.perm_insertionSort _ _).trans
      (hkept.trans (List.perm_insertionSort _ _).symm))
  intro left right hleft hright hle hge
  rw [not_less_iff] at hle hge
  have hkey := le_antisymm hle hge
  have hid : left.id = right.id := congrArg (fun key : RankKey =>
    (ofLex (ofLex (ofLex (ofLex (ofLex key).2).2).2).2).2) hkey
  have hleft' := List.mem_of_mem_filter
    ((List.perm_insertionSort _ _).mem_iff.mp hleft)
  have hright' := List.mem_of_mem_filter
    ((List.perm_insertionSort _ _).mem_iff.mp hright)
  exact List.inj_on_of_nodup_map hids hleft' (h.mem_iff.mpr hright') hid

end Order

end XrayChecker.Speedtest
