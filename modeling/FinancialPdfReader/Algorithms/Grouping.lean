import Mathlib

namespace Grouping

variable {α κ : Type} [DecidableEq κ]

section Groups

variable (key : α → κ)

/-- The items of one key. -/
def group (xs : List α) (k : κ) : List α := xs.filter (fun x => key x = k)

/-- Grouped by keys that are all known, each of them once, no item is lost and none comes twice. -/
theorem perm_groups {keys : List κ} (hkeys : keys.Nodup) {xs : List α}
    (hmem : ∀ x ∈ xs, key x ∈ keys) : (keys.flatMap (group key xs)).Perm xs := by
  induction keys generalizing xs with
  | nil =>
    have hnone : xs = [] := List.eq_nil_iff_forall_not_mem.mpr
      (fun x hx => absurd (hmem x hx) List.not_mem_nil)
    rw [hnone, List.flatMap_nil]
  | cons k keys ih =>
    obtain ⟨hnew,hkeys⟩ := List.nodup_cons.mp hkeys
    have hothers : ∀ k' ∈ keys, group key xs k' =
        group key (xs.filter (fun x => !decide (key x = k))) k' := by
      intro k' hk'
      have hne : k' ≠ k := fun heq => hnew (heq ▸ hk')
      rw [group, group, List.filter_filter]
      refine List.filter_congr (fun x _ => ?_)
      by_cases hx : key x = k'
      · simp [hx, hne]
      · simp [hx]
    have hrest : (keys.flatMap (group key xs)).Perm
        (xs.filter (fun x => !decide (key x = k))) := by
      rw [List.flatMap_congr hothers]
      refine ih hkeys (fun x hx => ?_)
      obtain ⟨hmine,hne⟩ := List.mem_filter.mp hx
      refine (List.mem_cons.mp (hmem x hmine)).resolve_left ?_
      simpa using hne
    rw [List.flatMap_cons]
    exact (hrest.append_left _).trans (List.filter_append_perm _ xs)

end Groups

section Counts

theorem nodup_eraseDups : ∀ ks : List κ, ks.eraseDups.Nodup
  | [] => List.nodup_nil
  | k :: ks => by
      rw [List.eraseDups_cons, List.nodup_cons, List.mem_eraseDups]
      exact ⟨by simp,nodup_eraseDups _⟩
termination_by ks => ks.length
decreasing_by
  rw [List.length_cons]
  exact Nat.lt_succ_of_le (List.length_filter_le _ _)

/-- The counts of the keys that occur, each taken once, add up to all. -/
theorem sum_counts (ks : List κ) : (ks.eraseDups.map (fun k => ks.count k)).sum = ks.length := by
  have hperm : ks.eraseDups.Perm ks.dedup :=
    (List.perm_ext_iff_of_nodup (nodup_eraseDups ks) (List.nodup_dedup ks)).mpr (by simp)
  rw [(hperm.map _).sum_eq]
  exact List.sum_map_count_dedup_eq_length ks

/-- Of few keys that are all there can be, the counts add up to all. -/
theorem sum_counts_of_mem {keys : List κ} (hkeys : keys.Nodup) {ks : List κ}
    (hmem : ∀ k ∈ ks, k ∈ keys) : (keys.map (fun k => ks.count k)).sum = ks.length := by
  have hperm := (perm_groups id hkeys hmem).length_eq
  rw [List.length_flatMap] at hperm
  rw [← hperm]
  congr 1
  refine List.map_congr_left (fun k _ => ?_)
  rw [group, List.count, List.countP_eq_length_filter]
  rfl

end Counts

end Grouping
