import FinancialPdfReader.Python.Sorted
import Mathlib.Data.List.Flatten

namespace Py

section Before

variable {α β : Type}

/-- One item stands before another. -/
def Before (xs : List α) (a b : α) : Prop := [a,b].Sublist xs

variable {xs ys : List α} {a b : α}

theorem Before.mem (h : Before xs a b) : a ∈ xs ∧ b ∈ xs :=
  ⟨h.subset List.mem_cons_self,h.subset (List.mem_cons_of_mem a List.mem_cons_self)⟩

theorem Before.of_sublist (h : Before xs a b) (hsub : xs.Sublist ys) : Before ys a b := h.trans hsub

theorem pairwise_iff_before {R : α → α → Prop} :
    xs.Pairwise R ↔ ∀ a b, Before xs a b → R a b := by
  rw [List.pairwise_iff_forall_sublist]
  exact ⟨fun h a b hab => h hab,fun h a b hab => h a b hab⟩

theorem Before.filter_of {p : α → Bool} (h : Before xs a b) (ha : p a = true) (hb : p b = true) :
    Before (xs.filter p) a b := by
  have hfilter : ([a,b].filter p).Sublist (xs.filter p) := List.Sublist.filter p h
  rw [List.filter_cons_of_pos ha, List.filter_cons_of_pos hb] at hfilter
  exact hfilter

theorem before_cons_of_ne {x : α} (ha : x ≠ a) :
    Before (x :: xs) a b ↔ Before xs a b := by
  constructor
  · intro h
    cases h with
    | cons _ hrest => exact hrest
    | cons_cons _ _ => exact absurd rfl ha
  · intro h
    exact List.Sublist.cons x h

/-- Where no item occurs twice, the earlier of two stands before the other. -/
theorem before_iff [DecidableEq α] (hxs : xs.Nodup) :
    Before xs a b ↔ b ∈ xs ∧ xs.idxOf a < xs.idxOf b := by
  induction xs with
  | nil => simp [Before]
  | cons x xs ih =>
    obtain ⟨hx,hnodup⟩ := List.nodup_cons.mp hxs
    by_cases ha : x = a
    · subst ha
      rw [List.idxOf_cons_self]
      constructor
      · intro h
        have hb : b ∈ xs := List.singleton_sublist.mp (List.cons_sublist_cons.mp h)
        have hne : x ≠ b := fun heq => hx (heq ▸ hb)
        rw [List.idxOf_cons_ne _ hne]
        exact ⟨List.mem_cons_of_mem x hb,Nat.succ_pos _⟩
      · intro hparts
        obtain ⟨hb,hlt⟩ := hparts
        rcases List.mem_cons.mp hb with rfl | hb
        · rw [List.idxOf_cons_self] at hlt
          exact absurd hlt (Nat.lt_irrefl 0)
        · exact List.cons_sublist_cons.mpr (List.singleton_sublist.mpr hb)
    · rw [before_cons_of_ne ha, ih hnodup, List.idxOf_cons_ne _ ha]
      by_cases hb : x = b
      · subst hb
        simp [hx]
      · rw [List.idxOf_cons_ne _ hb, List.mem_cons, or_iff_right (fun heq => hb heq.symm)]
        simp

theorem Before.asymm (hxs : xs.Nodup) (h : Before xs a b) : ¬ Before xs b a := by
  classical
  intro h'
  exact absurd ((before_iff hxs).mp h).2 (Nat.lt_asymm ((before_iff hxs).mp h').2)

theorem Before.ne (hxs : xs.Nodup) (h : Before xs a b) : a ≠ b := by
  intro heq
  subst heq
  exact h.asymm hxs h

/-- One of two items stands before the other. -/
theorem before_total (ha : a ∈ xs) (hb : b ∈ xs) (hne : a ≠ b) :
    Before xs a b ∨ Before xs b a := by
  induction xs with
  | nil => exact absurd ha List.not_mem_nil
  | cons x xs ih =>
    by_cases hxa : x = a
    · subst hxa
      have hb' : b ∈ xs := List.mem_of_ne_of_mem hne.symm hb
      exact Or.inl (List.cons_sublist_cons.mpr (List.singleton_sublist.mpr hb'))
    · have ha' : a ∈ xs := List.mem_of_ne_of_mem (Ne.symm hxa) ha
      rcases List.mem_cons.mp hb with rfl | hb
      · exact Or.inr (List.cons_sublist_cons.mpr (List.singleton_sublist.mpr ha'))
      · rcases ih ha' hb with hab | hba
        · exact Or.inl (hab.of_sublist (List.sublist_cons_self x xs))
        · exact Or.inr (hba.of_sublist (List.sublist_cons_self x xs))

/-- Between two lists with the same two items the order is kept from the smaller one. -/
theorem Before.restrict (hys : ys.Nodup) (hsub : xs.Sublist ys) (h : Before ys a b) (ha : a ∈ xs)
    (hb : b ∈ xs) : Before xs a b := by
  rcases before_total ha hb (h.ne hys) with hxs | hxs
  · exact hxs
  · exact absurd (hxs.of_sublist hsub) (h.asymm hys)

/-- Items stand as their names do, where no two have one name. -/
theorem Before.of_map {f : α → β} (hnames : (xs.map f).Nodup) (ha : a ∈ xs) (hb : b ∈ xs)
    (h : Before (xs.map f) (f a) (f b)) : Before xs a b := by
  have hne : a ≠ b := fun heq => h.ne hnames (congrArg f heq)
  rcases before_total ha hb hne with hab | hba
  · exact hab
  · have hback : Before (xs.map f) (f b) (f a) := List.Sublist.map f hba
    exact absurd hback (h.asymm hnames)

/-- A list is a part of another exactly where it keeps its order. -/
theorem sublist_iff_before (hxs : xs.Nodup) (hys : ys.Nodup) (hmem : ∀ x ∈ xs, x ∈ ys) :
    xs.Sublist ys ↔ ∀ a b, Before xs a b → Before ys a b := by
  classical
  constructor
  · intro hsub a b hab
    exact hab.of_sublist hsub
  · intro hbefore
    have hperm := perm_filter_contains hxs hys hmem
    have hsorted : (ys.filter (fun y => xs.contains y)).Pairwise (Before ys) := by
      rw [pairwise_iff_before]
      intro a b hab
      exact hab.of_sublist List.filter_sublist
    have hsame : xs = ys.filter (fun y => xs.contains y) := by
      apply hperm.eq_of_pairwise ?_ (pairwise_iff_before.mpr hbefore) hsorted
      intro a b _ _ hab hba
      exact absurd hba (hab.asymm hys)
    rw [hsame]
    exact List.filter_sublist

end Before

section Groups

variable {α β : Type} {groups : List β} {f : β → List α} {a b : α}

theorem Before.flatMap {g h : β} (hgh : Before groups g h) (ha : a ∈ f g) (hb : b ∈ f h) :
    Before (groups.flatMap f) a b := by
  have hsub : ([g,h].flatMap f).Sublist (groups.flatMap f) := List.Sublist.flatMap hgh f
  have hpair : [a,b].Sublist (f g ++ f h) :=
    List.Sublist.append (List.singleton_sublist.mpr ha) (List.singleton_sublist.mpr hb)
  simp only [List.flatMap_cons, List.flatMap_nil, List.append_nil] at hsub
  exact hpair.trans hsub

theorem Before.flatMap_within {g : β} (hg : g ∈ groups) (hab : Before (f g) a b) :
    Before (groups.flatMap f) a b :=
  hab.of_sublist (List.sublist_flatten_of_mem (List.mem_map_of_mem hg))

end Groups

section Stable

variable {α κ : Type} [LinearOrder κ] {key : α → κ} {xs : List α} {a b : α}

/-- The items of one key are sorted into the order in which they came. -/
theorem filter_sortBy (k : κ) :
    (sortBy key xs).filter (fun x => key x = k) = xs.filter (fun x => key x = k) := by
  have hsame : (xs.filter (fun x => key x = k)).Pairwise (fun a b => key a ≤ key b) := by
    apply List.pairwise_of_forall_mem_list
    intro a ha b hb
    have hka : key a = k := of_decide_eq_true (List.mem_filter.mp ha).2
    have hkb : key b = k := of_decide_eq_true (List.mem_filter.mp hb).2
    rw [hka, hkb]
  have hkept : (xs.filter (fun x => key x = k)).Sublist (sortBy key xs) :=
    List.sublist_insertionSort hsame List.filter_sublist
  have hsub : (xs.filter (fun x => key x = k)).Sublist
      ((sortBy key xs).filter (fun x => key x = k)) := by
    have hfilter := hkept.filter (fun x => key x = k)
    simpa only [List.filter_filter, Bool.and_self] using hfilter
  exact (hsub.eq_of_length ((sortBy_perm key xs).filter _).length_eq.symm).symm

/-- Sorting by a key keeps the order of the items that have the same one. -/
theorem before_sortBy : Before (sortBy key xs) a b ↔
    a ∈ xs ∧ b ∈ xs ∧ (key a < key b ∨ key a = key b ∧ Before xs a b) := by
  have hmem : ∀ x, x ∈ sortBy key xs ↔ x ∈ xs := fun x => (sortBy_perm key xs).mem_iff
  have hkeys := pairwise_iff_before.mp (sortBy_pairwise key xs)
  constructor
  · intro h
    refine ⟨(hmem a).mp h.mem.1,(hmem b).mp h.mem.2,?_⟩
    rcases lt_or_eq_of_le (hkeys a b h) with hlt | heq
    · exact Or.inl hlt
    · have hfilter : Before ((sortBy key xs).filter (fun x => key x = key b)) a b :=
        h.filter_of (decide_eq_true heq) (decide_eq_true rfl)
      rw [filter_sortBy] at hfilter
      exact Or.inr ⟨heq,hfilter.of_sublist List.filter_sublist⟩
  · intro hparts
    obtain ⟨ha,hb,hlt | ⟨heq,hab⟩⟩ := hparts
    · have hne : a ≠ b := fun heq => absurd (heq ▸ hlt) (lt_irrefl _)
      rcases before_total ((hmem a).mpr ha) ((hmem b).mpr hb) hne with hab | hba
      · exact hab
      · exact absurd hlt (not_lt.mpr (hkeys b a hba))
    · exact List.pair_sublist_insertionSort heq.le hab

/-- What holds of any two items in their sorted order holds of those with a smaller and a larger
key, and of those of one key in the order in which they came. -/
theorem pairwise_sortBy {R : α → α → Prop} : (sortBy key xs).Pairwise R ↔
    (∀ a ∈ xs, ∀ b ∈ xs, key a < key b → R a b) ∧
      ∀ a b, Before xs a b → key a = key b → R a b := by
  rw [pairwise_iff_before]
  constructor
  · intro h
    refine ⟨fun a ha b hb hlt => ?_,fun a b hab heq => ?_⟩
    · exact h a b (before_sortBy.mpr ⟨ha,hb,Or.inl hlt⟩)
    · exact h a b (before_sortBy.mpr ⟨hab.mem.1,hab.mem.2,Or.inr ⟨heq,hab⟩⟩)
  · intro hparts a b hab
    obtain ⟨ha,hb,hlt | ⟨heq,hin⟩⟩ := before_sortBy.mp hab
    · exact hparts.1 a ha b hb hlt
    · exact hparts.2 a b hin heq

end Stable

end Py
