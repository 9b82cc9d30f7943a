import Mathlib.Data.List.Dedup
import Mathlib.Data.List.Sort

namespace Py

section Keys

variable {α κ : Type} [LE κ] (key : α → κ)

private theorem total_key [Std.IsLinearOrder κ] : Std.Total (fun a b : α => key a ≤ key b) :=
  ⟨fun a b => Std.IsLinearPreorder.le_total (key a) (key b)⟩

private theorem trans_key [Std.IsLinearOrder κ] : IsTrans α (fun a b => key a ≤ key b) :=
  ⟨fun a b c => Std.IsPreorder.le_trans (key a) (key b) (key c)⟩

variable [DecidableLE κ]

/-- `xs.sort(key=key)`. -/
def sortBy (xs : List α) : List α := xs.insertionSort (fun a b => key a ≤ key b)

theorem sortBy_perm (xs : List α) : (sortBy key xs).Perm xs := List.perm_insertionSort _ xs

variable [Std.IsLinearOrder κ]

theorem sortBy_pairwise (xs : List α) : (sortBy key xs).Pairwise (fun a b => key a ≤ key b) :=
  have := total_key key
  have := trans_key key
  List.pairwise_insertionSort _ xs

/-- The keys of what was sorted do not fall. -/
theorem map_sortBy_pairwise (xs : List α) : ((sortBy key xs).map key).Pairwise (· ≤ ·) :=
  List.pairwise_map.mpr (sortBy_pairwise key xs)

/-- Where no key occurs twice, the order in which the items come makes no difference. -/
theorem sortBy_eq_of_perm {xs ys : List α} (hperm : xs.Perm ys) (hkeys : (xs.map key).Nodup) :
    sortBy key xs = sortBy key ys := by
  have hsame : (sortBy key xs).Perm (sortBy key ys) :=
    (sortBy_perm key xs).trans (hperm.trans (sortBy_perm key ys).symm)
  refine List.Perm.eq_of_pairwise ?_ (sortBy_pairwise key xs) (sortBy_pairwise key ys) hsame
  intro a b ha hb hab hba
  have hkey : key a = key b := Std.IsPartialOrder.le_antisymm _ _ hab hba
  have hax : a ∈ xs := (sortBy_perm key xs).mem_iff.mp ha
  have hbx : b ∈ xs := hperm.mem_iff.mpr ((sortBy_perm key ys).mem_iff.mp hb)
  exact List.inj_on_of_nodup_map hkeys hax hbx hkey

end Keys

section Sets

variable {α : Type} [DecidableEq α]

/-- `sorted(set(xs))` -/
theorem sorted_set_strict [LinearOrder α] (xs : List α) :
    (xs.dedup.insertionSort (· ≤ ·)).Pairwise (· < ·) := by
  have hnodup : (xs.dedup.insertionSort (· ≤ ·)).Nodup :=
    (List.perm_insertionSort _ _).nodup_iff.mpr (List.nodup_dedup xs)
  apply ((List.pairwise_insertionSort (· ≤ ·) xs.dedup).and hnodup).imp
  intro a b hab
  exact lt_of_le_of_ne hab.1 hab.2

/-- What is taken from a list without repetitions is found in it again. -/
theorem perm_filter_contains {xs ys : List α} (hxs : xs.Nodup) (hys : ys.Nodup)
    (hsub : ∀ x ∈ xs, x ∈ ys) : xs.Perm (ys.filter (fun y => xs.contains y)) := by
  rw [List.perm_ext_iff_of_nodup hxs (hys.filter _)]
  intro x
  rw [List.mem_filter, List.contains_iff_mem]
  exact ⟨fun hx => ⟨hsub x hx,hx⟩,fun hx => hx.2⟩

/-- What is taken from a list without repetitions and what is left of it make the whole. -/
theorem length_add_length_left {xs ys : List α} (hxs : xs.Nodup) (hys : ys.Nodup)
    (hsub : ∀ x ∈ xs, x ∈ ys) :
    xs.length + (ys.filter (fun y => !xs.contains y)).length = ys.length := by
  rw [(perm_filter_contains hxs hys hsub).length_eq]
  exact (List.length_eq_length_filter_add _).symm

end Sets

section LastMax

variable {α : Type} (weight : α → Nat)

/-- The last of the heaviest items of a list. -/
def LastMax (xs : List α) (x : α) : Prop :=
  ∃ before after, xs = before ++ x :: after ∧ (∀ y ∈ before, weight y ≤ weight x) ∧
    ∀ y ∈ after, weight y < weight x

variable {weight} {xs : List α} {x y : α}

theorem LastMax.mem (h : LastMax weight xs x) : x ∈ xs := by
  obtain ⟨before,after,rfl,-,-⟩ := h
  simp

theorem LastMax.le (h : LastMax weight xs x) : ∀ z ∈ xs, weight z ≤ weight x := by
  obtain ⟨before,after,rfl,hbefore,hafter⟩ := h
  intro z hz
  rcases List.mem_append.mp hz with hz | hz
  · exact hbefore z hz
  · rcases List.mem_cons.mp hz with rfl | hz
    · exact Nat.le_refl _
    · exact Nat.le_of_lt (hafter z hz)

/-- A new last item takes the place unless it is lighter than what stands there. -/
theorem lastMax_concat : LastMax weight (xs ++ [x]) y ↔
    (LastMax weight xs y ∧ weight x < weight y) ∨ (y = x ∧ ∀ z ∈ xs, weight z ≤ weight x) := by
  constructor
  · intro h
    obtain ⟨before,after,hsplit,hbefore,hafter⟩ := h
    rcases List.eq_nil_or_concat after with rfl | ⟨rest,last,rfl⟩
    · obtain ⟨rfl,heq⟩ := List.append_inj' hsplit rfl
      obtain rfl := (List.cons.inj heq).1
      exact Or.inr ⟨rfl,hbefore⟩
    · rw [List.concat_eq_append, ← List.cons_append, ← List.append_assoc] at hsplit
      obtain ⟨rfl,heq⟩ := List.append_inj' hsplit rfl
      obtain rfl := (List.cons.inj heq).1
      rw [List.concat_eq_append] at hafter
      refine Or.inl ⟨⟨before,rest,rfl,hbefore,?_⟩,hafter x (by simp)⟩
      intro z hz
      exact hafter z (by simp [hz])
  · intro hcases
    rcases hcases with ⟨⟨before,after,rfl,hbefore,hafter⟩,hlt⟩ | ⟨rfl,hle⟩
    · refine ⟨before,after ++ [x],by simp,hbefore,?_⟩
      intro z hz
      rcases List.mem_append.mp hz with hz | hz
      · exact hafter z hz
      · rw [List.mem_singleton.mp hz]
        exact hlt
    · exact ⟨xs,[],rfl,hle,by simp⟩

end LastMax

end Py
