import FinancialPdfReader.Python.Order

/- Logs in which each entry comes in after those that stand before it in a plan, as when writers
that share the plan append to one log, each from the front. -/

namespace SharedLog

open Py

variable {α β : Type} {plan log : List α}

/-- What comes in first of an entry comes after all that stands before it in the plan. -/
def Follows (plan log : List α) : Prop :=
  ∀ before x after, log = before ++ x :: after → x ∉ before →
    ∃ front rest, plan = front ++ x :: rest ∧ ∀ y ∈ front, y ∈ before

theorem follows_nil (plan : List α) : Follows plan [] := by
  intro before x after hlog
  simp at hlog

/-- A writer goes on that has seen to all that comes before. -/
theorem Follows.append (h : Follows plan log) {n : Nat} {x : α} (hnext : plan[n]? = some x)
    (hdone : ∀ y ∈ plan.take n, y ∈ log) : Follows plan (log ++ [x]) := by
  intro before z after hlog hfirst
  rcases List.eq_nil_or_concat' after with rfl | ⟨after,last,rfl⟩
  · obtain ⟨rfl,hz⟩ := List.append_inj' hlog rfl
    obtain rfl : x = z := List.singleton_inj.mp hz
    obtain ⟨hn,rfl⟩ := List.getElem?_eq_some_iff.mp hnext
    refine ⟨plan.take n,plan.drop (n + 1),?_,hdone⟩
    rw [← List.drop_eq_getElem_cons hn, List.take_append_drop]
  · rw [← List.cons_append, ← List.append_assoc] at hlog
    obtain ⟨hlog,-⟩ := List.append_inj' hlog rfl
    exact h before z after hlog hfirst

theorem Follows.mem (h : Follows plan log) {x : α} (hx : x ∈ log) : x ∈ plan := by
  obtain ⟨before,after,hlog,hfirst⟩ := List.eq_append_cons_of_mem hx
  obtain ⟨front,rest,rfl,-⟩ := h before x after hlog hfirst
  simp

/-- Once everything has come in, a search of the log finds what a search of the plan finds. -/
theorem Follows.findSome? (h : Follows plan log) (hall : ∀ x ∈ plan, x ∈ log) (f : α → Option β) :
    log.findSome? f = plan.findSome? f := by
  cases hfound : log.findSome? f with
  | none =>
    rw [List.findSome?_eq_none_iff] at hfound
    exact (List.findSome?_eq_none_iff.mpr (fun x hx => hfound x (hall x hx))).symm
  | some b =>
    obtain ⟨before,x,after,hlog,hb,hnone⟩ := List.findSome?_eq_some_iff.mp hfound
    have hfirst : x ∉ before := by
      intro hx
      rw [hnone x hx] at hb
      contradiction
    obtain ⟨front,rest,hplan,hfront⟩ := h before x after hlog hfirst
    exact (List.findSome?_eq_some_iff.mpr
      ⟨front,x,rest,hplan,hb,fun y hy => hnone y (hfront y hy)⟩).symm

section Sorted

/-- An entry comes in first at one place only. -/
theorem first_unique {x : α} {as as' bs bs' : List α} (has : x ∉ as) (has' : x ∉ as')
    (h : as ++ x :: bs = as' ++ x :: bs') : as = as' := by
  rcases List.append_eq_append_iff.mp h with ⟨cs,rfl,hcs⟩ | ⟨cs,rfl,hcs⟩
  · cases cs with
    | nil => exact (List.append_nil as).symm
    | cons c cs =>
      obtain ⟨rfl,-⟩ := List.cons.inj hcs
      simp at has'
  · cases cs with
    | nil => exact List.append_nil as'
    | cons c cs =>
      obtain ⟨rfl,-⟩ := List.cons.inj hcs
      simp at has

variable {κ : Type} [LinearOrder κ] {key : α → κ}

/-- A log is still in order when it is sorted as its plan is. -/
theorem Follows.sortBy (h : Follows plan log) (hplan : plan.Pairwise (fun a b => key a ≤ key b)) :
    Follows plan (sortBy key log) := by
  intro before x after hsorted hfirst
  have hmem : ∀ y, y ∈ Py.sortBy key log ↔ y ∈ log := fun y => (sortBy_perm key log).mem_iff
  have hx : x ∈ log := (hmem x).mp (by simp [hsorted])
  obtain ⟨as,bs,hlog,hfirst'⟩ := List.eq_append_cons_of_mem hx
  obtain ⟨front,rest,hsplit,hfront⟩ := h as x bs hlog hfirst'
  refine ⟨front,rest,hsplit,fun y hy => ?_⟩
  have hkey : key y ≤ key x := by
    rw [hsplit, List.pairwise_append] at hplan
    exact hplan.2.2 y hy x (by simp)
  rcases hkey.lt_or_eq with hlt | heq
  · have hyin : y ∈ Py.sortBy key log := (hmem y).mpr (by simp [hlog, hfront y hy])
    rw [hsorted, List.mem_append] at hyin
    rcases hyin with hyin | hyin
    · exact hyin
    · -- what comes from `x` on has no smaller key
      have hpairs := sortBy_pairwise key log
      rw [hsorted, List.pairwise_append, List.pairwise_cons] at hpairs
      rcases List.mem_cons.mp hyin with rfl | hyin
      · exact absurd hlt (lt_irrefl _)
      · exact absurd (hpairs.2.1.1 y hyin) (not_le.mpr hlt)
  · -- those of one key are sorted into the order in which they came in
    have hsame : (Py.sortBy key log).filter (fun a => key a = key x) =
        log.filter (fun a => key a = key x) := filter_sortBy (key x)
    rw [hsorted, hlog] at hsame
    simp only [List.filter_append, List.filter_cons, decide_true, if_true] at hsame
    have hbefore := first_unique (fun hin => hfirst (List.mem_of_mem_filter hin))
      (fun hin => hfirst' (List.mem_of_mem_filter hin)) hsame
    have hyin : y ∈ as.filter (fun a => key a = key x) :=
      List.mem_filter.mpr ⟨hfront y hy,decide_eq_true heq⟩
    rw [← hbefore] at hyin
    exact List.mem_of_mem_filter hyin

/-- Sorted by its keys and without repetitions, a complete log is its plan. -/
theorem dedup_sortBy [DecidableEq α] (hplan : plan.Pairwise (fun a b => key a < key b))
    (hmem : ∀ x, x ∈ log ↔ x ∈ plan) : (sortBy key log).dedup = plan := by
  have hnodup : plan.Nodup := hplan.imp (fun hlt heq => hlt.ne (congrArg key heq))
  have hkeys : (plan.map key).Nodup := List.pairwise_map.mpr (hplan.imp (fun hlt => hlt.ne))
  have hin : ∀ x, x ∈ (Py.sortBy key log).dedup ↔ x ∈ plan := by
    intro x
    rw [List.mem_dedup, (sortBy_perm key log).mem_iff, hmem]
  have hperm : (Py.sortBy key log).dedup.Perm plan :=
    (List.perm_ext_iff_of_nodup (List.nodup_dedup _) hnodup).mpr hin
  have hsorted : (Py.sortBy key log).dedup.Pairwise (fun a b => key a ≤ key b) :=
    (sortBy_pairwise key log).sublist (List.dedup_sublist _)
  refine hperm.eq_of_pairwise ?_ hsorted (hplan.imp le_of_lt)
  intro a b ha hb hab hba
  exact List.inj_on_of_nodup_map hkeys ((hin a).mp ha) hb (le_antisymm hab hba)

end Sorted

end SharedLog
