import Mathlib.Algebra.BigOperators.Group.List.Basic
import Mathlib.Algebra.Order.Floor.Semifield
import Mathlib.Data.Rat.Floor
import Mathlib.Tactic.Linarith

namespace Apportion

/-- What a demand gets of a budget that is smaller than all demands together, rounded down. -/
def share (budget total demand : Nat) : Nat := demand * budget / total

/-- The exact part of the budget that a demand has a claim to. -/
def exactShare (budget total demand : Nat) : ℚ := (demand * budget : ℚ) / total

section Share

variable {budget total demand : Nat}

theorem floor_exactShare : ⌊exactShare budget total demand⌋₊ = share budget total demand := by
  rw [exactShare, ← Nat.cast_mul, Nat.floor_div_eq_div, share]

theorem share_mono {larger : Nat} (h : demand ≤ larger) :
    share budget total demand ≤ share budget total larger :=
  Nat.div_le_div_right (Nat.mul_le_mul_right budget h)

theorem share_le (hbudget : budget ≤ total) : share budget total demand ≤ demand := by
  rw [share]
  apply Nat.div_le_of_le_mul
  rw [Nat.mul_comm total]
  exact Nat.mul_le_mul_left demand hbudget

/-- Rounding down leaves room in every demand. -/
theorem share_lt (hbudget : budget < total) (hdemand : 0 < demand) :
    share budget total demand < demand := by
  rw [share]
  apply Nat.div_lt_of_lt_mul
  rw [Nat.mul_comm total]
  exact Nat.mul_lt_mul_of_pos_left hbudget hdemand

theorem share_pos_iff (htotal : 0 < total) :
    0 < share budget total demand ↔ total ≤ demand * budget := by
  rw [share, Nat.div_pos_iff]
  exact ⟨fun h => h.2,fun h => ⟨htotal,h⟩⟩

/-- A share falls short of the exact part by less than one, and of nothing by nothing. -/
private theorem share_bounds (budget : Nat) {total : Nat} (demand : Nat) (htotal : 0 < total) :
    total * share budget total demand ≤ demand * budget ∧
      demand * budget ≤ total * share budget total demand +
        (total - 1) * (if 0 < demand then 1 else 0) := by
  have hsplit := Nat.div_add_mod (demand * budget) total
  have hrest : demand * budget % total < total := Nat.mod_lt _ htotal
  rw [share]
  by_cases hdemand : 0 < demand
  · rw [if_pos hdemand]
    omega
  · obtain rfl : demand = 0 := Nat.eq_zero_of_not_pos hdemand
    simp

end Share

/-- What stands in the first part of an ordered list keeps out nothing that must come before
it. -/
theorem mem_take_of_before {α : Type} {r : α → α → Prop} {xs : List α} {n : Nat} {x y : α}
    (hsorted : xs.Pairwise r) (hx : x ∈ xs.take n) (hy : y ∈ xs) (hxy : ¬ r x y) :
    y ∈ xs.take n := by
  rw [← List.take_append_drop n xs] at hsorted hy
  rcases List.mem_append.mp hy with hfirst | hlater
  · exact hfirst
  · exact absurd ((List.pairwise_append.mp hsorted).2.2 x hx y hlater) hxy

variable {budget : Nat} {demands : List Nat}

private theorem sum_share_bounds (budget : Nat) {total : Nat} (htotal : 0 < total)
    (demands : List Nat) :
    total * (demands.map (share budget total)).sum ≤ demands.sum * budget ∧
      demands.sum * budget ≤ total * (demands.map (share budget total)).sum +
        (total - 1) * demands.countP (fun d => 0 < d) := by
  induction demands with
  | nil => simp
  | cons d ds ih =>
    obtain ⟨hlow,hhigh⟩ := share_bounds budget d htotal
    simp only [List.map_cons, List.sum_cons, List.countP_cons, Nat.mul_add, Nat.add_mul,
      decide_eq_true_eq]
    omega

/-- The shares never take more than the budget. -/
theorem sum_share_le (hbudget : budget < demands.sum) :
    (demands.map (share budget demands.sum)).sum ≤ budget := by
  have htotal : 0 < demands.sum := Nat.zero_lt_of_lt hbudget
  obtain ⟨hlow,-⟩ := sum_share_bounds budget htotal demands
  exact Nat.le_of_mul_le_mul_left hlow htotal

/-- What rounding leaves over is less than one for each demand that is not empty. -/
theorem left_lt_countP (hbudget : budget < demands.sum) :
    budget - (demands.map (share budget demands.sum)).sum <
      demands.countP (fun d => 0 < d) := by
  have htotal : 0 < demands.sum := Nat.zero_lt_of_lt hbudget
  obtain ⟨-,hhigh⟩ := sum_share_bounds budget htotal demands
  have hsome : 0 < demands.countP (fun d => 0 < d) := by
    rw [List.countP_pos_iff]
    by_contra hnone
    have hzero : ∀ d ∈ demands, d = 0 := by
      intro d hd
      by_contra hne
      exact hnone ⟨d,hd,decide_eq_true (Nat.pos_of_ne_zero hne)⟩
    exact absurd (List.sum_eq_zero hzero) (Nat.ne_of_gt htotal)
  have hless : (demands.sum - 1) * demands.countP (fun d => 0 < d) <
      demands.sum * demands.countP (fun d => 0 < d) :=
    Nat.mul_lt_mul_of_pos_right (Nat.sub_lt htotal Nat.zero_lt_one) hsome
  apply Nat.lt_of_mul_lt_mul_left (a := demands.sum)
  rw [Nat.mul_sub]
  omega

end Apportion
