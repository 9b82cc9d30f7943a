import Mathlib.Data.List.MinMax
import Mathlib.Data.List.Sort
import Mathlib.Order.Basic

namespace Py

section Newest

variable {α κ : Type} [LinearOrder κ] (time : α → κ)

/-- `.order_by("-time").limit(n)`: rows of the same time may come in any order. -/
def NewestFirst (n : Nat) (rows window : List α) : Prop :=
  ∃ sorted : List α, sorted.Perm rows ∧ sorted.Pairwise (fun a b => time b ≤ time a) ∧
    window = sorted.take n

/-- A row that a property holds of, and the rows without it that may be listed before it. -/
def crowd (p : α → Bool) (rows : List α) (r : α) : Nat :=
  rows.countP (fun x => !p x && decide (time r ≤ time x))

/-- How many rows are listed before a row whatever the order. -/
def newer (rows : List α) (r : α) : Nat := rows.countP (fun x => decide (time r < time x))

variable {time} {n : Nat} {rows window : List α} {p : α → Bool}

theorem NewestFirst.subset (h : NewestFirst time n rows window) {r : α} (hr : r ∈ window) :
    r ∈ rows := by
  obtain ⟨sorted,hperm,-,rfl⟩ := h
  exact hperm.mem_iff.mp (List.mem_of_mem_take hr)

variable (time) in
/-- One order that is possible: among the rows of one time those with the property come last. -/
private def ListedBefore (p : α → Bool) (a b : α) : Prop :=
  time b < time a ∨ time b = time a ∧ (p a = true → p b = true)

private theorem ListedBefore.le {p : α → Bool} {a b : α} (h : ListedBefore time p a b) :
    time b ≤ time a := by
  rcases h with h | ⟨h,-⟩
  · exact le_of_lt h
  · exact le_of_eq h

variable (time) in
private theorem exists_sorted (p : α → Bool) (rows : List α) :
    ∃ sorted : List α, sorted.Perm rows ∧ sorted.Pairwise (ListedBefore time p) := by
  classical
  have htotal : Std.Total (ListedBefore time p) := by
    constructor
    intro a b
    rcases lt_trichotomy (time a) (time b) with h | h | h
    · exact .inr (.inl h)
    · by_cases hb : p b = true
      · exact .inl (.inr ⟨h.symm,fun _ => hb⟩)
      · exact .inr (.inr ⟨h,fun hb' => absurd hb' hb⟩)
    · exact .inl (.inl h)
  have htrans : IsTrans α (ListedBefore time p) := by
    constructor
    intro a b c hab hbc
    rcases hab with hab | ⟨hab,hpab⟩
    · rcases hbc with hbc | ⟨hbc,-⟩
      · exact .inl (hbc.trans hab)
      · exact .inl (hbc ▸ hab)
    · rcases hbc with hbc | ⟨hbc,hpbc⟩
      · exact .inl (hab ▸ hbc)
      · exact .inr ⟨hbc.trans hab,fun h => hpbc (hpab h)⟩
  exact ⟨rows.insertionSort (ListedBefore time p),List.perm_insertionSort _ _,
    List.pairwise_insertionSort _ _⟩

/-- What is taken stands behind fewer rows than are taken. -/
private theorem split_of_take {xs before after : List α} {r : α}
    (h : xs.take n = before ++ r :: after) :
    xs = before ++ r :: (after ++ xs.drop n) ∧ before.length < n := by
  constructor
  · calc xs = xs.take n ++ xs.drop n := (List.take_append_drop n xs).symm
      _ = before ++ r :: (after ++ xs.drop n) := by rw [h]; simp
  · have hlen : (xs.take n).length ≤ n := List.length_take_le n xs
    rw [h, List.length_append, List.length_cons] at hlen
    omega

/-- Some row with the property is always listed among the first exactly when one of them has
too few rows without it to crowd it out. -/
theorem exists_in_newest_iff :
    (∀ window, NewestFirst time n rows window → ∃ r ∈ window, p r = true) ↔
      ∃ r ∈ rows, p r = true ∧ crowd time p rows r < n := by
  constructor
  · intro hall
    obtain ⟨sorted,hperm,hsorted⟩ := exists_sorted time p rows
    obtain ⟨r,hr,hp⟩ := hall _ ⟨sorted,hperm,hsorted.imp ListedBefore.le,rfl⟩
    refine ⟨r,hperm.mem_iff.mp (List.mem_of_mem_take hr),hp,?_⟩
    obtain ⟨before,after,hsplit⟩ := List.append_of_mem hr
    obtain ⟨heq,hlen⟩ := split_of_take hsplit
    rw [heq] at hsorted hperm
    have hlater := (List.pairwise_cons.mp (List.pairwise_append.mp hsorted).2.1).1
    have hnone : (r :: (after ++ sorted.drop n)).countP
        (fun x => !p x && decide (time r ≤ time x)) = 0 := by
      rw [List.countP_eq_zero]
      intro x hx
      rcases List.mem_cons.mp hx with rfl | hx
      · simp [hp]
      · rcases hlater x hx with hlt | ⟨-,himp⟩
        · simp [hlt]
        · simp [himp hp]
    have hcount : crowd time p rows r ≤ before.length := by
      rw [crowd, ← hperm.countP_eq, List.countP_append, hnone]
      exact List.countP_le_length
    omega
  · intro hex window hwindow
    obtain ⟨r,hr,hp,hcrowd⟩ := hex
    obtain ⟨sorted,hperm,hsorted,rfl⟩ := hwindow
    by_contra hnone
    have hno : ∀ x ∈ sorted.take n, p x = false := by
      intro x hx
      by_contra hpx
      exact hnone ⟨x,hx,by simpa using hpx⟩
    have hdrop : r ∈ sorted.drop n := by
      have hmem : r ∈ sorted := hperm.mem_iff.mpr hr
      rw [← List.take_append_drop n sorted] at hmem
      rcases List.mem_append.mp hmem with h | h
      · exact absurd (hp.symm.trans (hno r h)) Bool.false_ne_true.symm
      · exact h
    have hfull : (sorted.take n).length = n := by
      have hpos : 0 < (sorted.drop n).length := List.length_pos_of_mem hdrop
      rw [List.length_drop] at hpos
      rw [List.length_take]
      omega
    rw [← List.take_append_drop n sorted] at hsorted
    have hbefore := (List.pairwise_append.mp hsorted).2.2
    have hcount : (sorted.take n).countP (fun x => !p x && decide (time r ≤ time x)) =
        (sorted.take n).length := by
      rw [List.countP_eq_length]
      intro x hx
      simp [hno x hx, hbefore x hx r hdrop]
    have hle : (sorted.take n).length ≤ crowd time p rows r := by
      rw [crowd, ← hperm.countP_eq, ← hcount]
      exact (List.take_sublist n sorted).countP_le
    omega

/-- Where there is such a row at all, what counts is the newest of them. -/
theorem exists_in_newest_iff_latest (hex : ∃ r ∈ rows, p r = true) :
    (∀ window, NewestFirst time n rows window → ∃ r ∈ window, p r = true) ↔
      ∀ r ∈ rows, p r = true → (∀ x ∈ rows, p x = true → time x ≤ time r) →
        crowd time p rows r < n := by
  rw [exists_in_newest_iff]
  constructor
  · intro hshown r hr hp hlast
    obtain ⟨s,hs,hps,hcrowd⟩ := hshown
    have hle : time s ≤ time r := hlast s hs hps
    have hfewer : crowd time p rows r ≤ crowd time p rows s := by
      apply List.countP_mono_left
      intro x hx hrx
      simp only [Bool.and_eq_true, decide_eq_true_eq] at hrx ⊢
      exact ⟨hrx.1,hle.trans hrx.2⟩
    omega
  · intro hall
    obtain ⟨s,hs,hps⟩ := hex
    have hmem : s ∈ rows.filter p := List.mem_filter.mpr ⟨hs,hps⟩
    cases hmax : (rows.filter p).argmax time with
    | none =>
      rw [List.argmax_eq_none.mp hmax] at hmem
      exact absurd hmem List.not_mem_nil
    | some r =>
      obtain ⟨hr,hp⟩ := List.mem_filter.mp (List.argmax_mem hmax)
      refine ⟨r,hr,hp,hall r hr hp ?_⟩
      intro x hx hpx
      exact List.le_of_mem_argmax (List.mem_filter.mpr ⟨hx,hpx⟩) hmax

variable (time) in
/-- Every row is listed right behind the newer ones in some order. -/
private theorem exists_listed_next {r : α} (hr : r ∈ rows) :
    ∃ first others : List α, (first ++ r :: others).Perm rows ∧
      (first ++ r :: others).Pairwise (fun a b => time b ≤ time a) ∧
      (∀ x ∈ first, time r < time x) ∧ first.length = newer time rows r := by
  obtain ⟨before,after,hsplit⟩ := List.append_of_mem hr
  let p : α → Bool := fun _ => true
  obtain ⟨first,hperm,hsorted⟩ := exists_sorted time p
    (rows.filter (fun x => decide (time r < time x)))
  obtain ⟨others,hperm',hsorted'⟩ := exists_sorted time p
    ((before ++ after).filter (fun x => !decide (time r < time x)))
  have hfirst : ∀ x ∈ first, time r < time x := by
    intro x hx
    simpa using (List.mem_filter.mp (hperm.mem_iff.mp hx)).2
  have hothers : ∀ x ∈ others, time x ≤ time r := by
    intro x hx
    simpa using (List.mem_filter.mp (hperm'.mem_iff.mp hx)).2
  refine ⟨first,others,?_,?_,hfirst,?_⟩
  · have hkept : (r :: others).Perm (rows.filter (fun x => !decide (time r < time x))) := by
      rw [hsplit, List.filter_append, List.filter_cons_of_pos (by simp)]
      apply ((hperm'.cons r).trans _).trans List.perm_middle.symm
      rw [List.filter_append]
    exact (hperm.append hkept).trans (List.filter_append_perm _ rows)
  · rw [List.pairwise_append, List.pairwise_cons]
    refine ⟨hsorted.imp ListedBefore.le,⟨hothers,hsorted'.imp ListedBefore.le⟩,?_⟩
    intro a ha b hb
    rcases List.mem_cons.mp hb with rfl | hb
    · exact le_of_lt (hfirst a ha)
    · exact (hothers b hb).trans (le_of_lt (hfirst a ha))
  · rw [hperm.length_eq, newer, List.countP_eq_length_filter]

/-- The first row with the property is any that no other such row is newer than, as long as it
is among the first at all. -/
theorem first_in_newest_iff {q : α → Prop} :
    (∀ window, NewestFirst time n rows window → ∀ r ∈ window.find? p, q r) ↔
      ∀ r ∈ rows, p r = true → (∀ x ∈ rows, p x = true → time x ≤ time r) →
        newer time rows r < n → q r := by
  constructor
  · intro hall r hr hp hlast hnewer
    obtain ⟨first,others,hperm,hsorted,hfirst,hlen⟩ := exists_listed_next time hr
    apply hall _ ⟨_,hperm,hsorted,rfl⟩ r
    obtain ⟨k,hk⟩ : ∃ k, n - first.length = k + 1 := ⟨n - first.length - 1,by omega⟩
    rw [List.take_append, List.take_of_length_le (by omega), hk, List.take_succ_cons,
      Option.mem_def, List.find?_eq_some_iff_append]
    refine ⟨hp,first,_,rfl,?_⟩
    intro x hx
    by_contra hpx
    have hpx' : p x = true := by simpa using hpx
    have hx' : x ∈ rows := hperm.mem_iff.mp (List.mem_append_left _ hx)
    exact absurd (hlast x hx' hpx') (not_le_of_gt (hfirst x hx))
  · intro hall window hwindow r hfind
    obtain ⟨sorted,hperm,hsorted,rfl⟩ := hwindow
    obtain ⟨hp,before,after,hsplit,hno⟩ := List.find?_eq_some_iff_append.mp hfind
    obtain ⟨heq,hlen⟩ := split_of_take hsplit
    rw [heq] at hsorted hperm
    have hlater := (List.pairwise_cons.mp (List.pairwise_append.mp hsorted).2.1).1
    apply hall r (hperm.mem_iff.mp (by simp)) hp
    · intro x hx hpx
      rw [← hperm.mem_iff, List.mem_append, List.mem_cons] at hx
      rcases hx with hx | rfl | hx
      · have hpx' := hno x hx
        rw [hpx] at hpx'
        exact absurd hpx' (by simp)
      · exact le_rfl
      · exact hlater x hx
    · have hzero : (r :: (after ++ sorted.drop n)).countP
          (fun x => decide (time r < time x)) = 0 := by
        rw [List.countP_eq_zero]
        intro x hx
        rcases List.mem_cons.mp hx with rfl | hx
        · simp
        · simpa using hlater x hx
      have hcount : newer time rows r ≤ before.length := by
        rw [newer, ← hperm.countP_eq, List.countP_append, hzero]
        exact List.countP_le_length
      omega

end Newest

end Py
