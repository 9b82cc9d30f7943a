import Mathlib.Data.List.Infix
import Mathlib.Data.List.Nodup
import Mathlib.Data.List.TakeWhile

namespace Py

section First

variable {α : Type} [DecidableEq α]

/-- Where no item occurs twice, the first hit is the one that no hit comes before. -/
theorem find?_eq_some_iff_takeWhile {xs : List α} (hxs : xs.Nodup) {p : α → Bool} {a : α} :
    xs.find? p = some a ↔
      a ∈ xs ∧ p a = true ∧ ∀ b ∈ xs.takeWhile (fun b => b ≠ a), p b = false := by
  induction xs with
  | nil => simp
  | cons x xs ih =>
    obtain ⟨hx,hnodup⟩ := List.nodup_cons.mp hxs
    by_cases hp : p x = true
    · rw [List.find?_cons_of_pos hp, Option.some_inj]
      constructor
      · intro heq
        subst heq
        simp [hp]
      · intro hparts
        obtain ⟨-,-,hbefore⟩ := hparts
        by_contra hne
        have hmem : x ∈ (x :: xs).takeWhile (fun b => b ≠ a) := by simp [hne]
        exact absurd (hp.symm.trans (hbefore x hmem)) Bool.false_ne_true.symm
    · have hp' : p x = false := by simpa using hp
      rw [List.find?_cons_of_neg hp, ih hnodup]
      by_cases hxa : x = a
      · subst hxa
        simp [hx, hp']
      · have hax : ¬ a = x := fun h => hxa h.symm
        simp [hxa, hax, hp']

end First

section Split

variable {α : Type} {word a b : List α} {sep : α}

theorem prefix_of_prefix_append_cons (hsep : sep ∉ word) (h : word <+: a ++ sep :: b) :
    word <+: a := by
  induction a generalizing word with
  | nil =>
    cases word with
    | nil => exact List.nil_prefix
    | cons w word => exact absurd (List.cons_prefix_cons.mp h).1.symm (List.ne_of_not_mem_cons hsep)
  | cons x a ih =>
    cases word with
    | nil => exact List.nil_prefix
    | cons w word =>
      obtain ⟨rfl,htail⟩ := List.cons_prefix_cons.mp h
      exact List.cons_prefix_cons.mpr ⟨rfl,ih (List.not_mem_of_not_mem_cons hsep) htail⟩

/-- A word does not reach over an item that it does not have. -/
theorem infix_of_infix_append_cons (hsep : sep ∉ word) (h : word <:+: a ++ sep :: b) :
    word <:+: a ∨ word <:+: b := by
  induction a with
  | nil =>
    rcases List.infix_cons_iff.mp h with hfront | hinfix
    · exact Or.inl (prefix_of_prefix_append_cons hsep hfront).isInfix
    · exact Or.inr hinfix
  | cons x a ih =>
    rcases List.infix_cons_iff.mp h with hfront | hinfix
    · have hpart : word <+: x :: a := prefix_of_prefix_append_cons hsep hfront
      exact Or.inl hpart.isInfix
    · exact (ih hinfix).imp_left (fun hleft => hleft.trans (List.suffix_cons x a).isInfix)

/-- Where `a` is followed by text in which the first new item is `sep`, all of `a` but its last item
stands at least two places in front of it. -/
theorem dropLast_prefix_of_append {c d : List α} {x : α} (h : a ++ b = c ++ x :: sep :: d)
    (hsep : sep ∉ a) : a.dropLast <+: c := by
  rw [List.append_cons] at h
  rcases List.append_eq_append_iff.mp h with ⟨later,hlonger,-⟩ | ⟨more,rfl,hmore⟩
  · rcases List.eq_nil_or_concat later with rfl | ⟨later,y,rfl⟩
    · rw [List.append_nil] at hlonger
      rw [← hlonger, List.dropLast_concat]
    · rw [List.concat_eq_append, ← List.append_assoc] at hlonger
      have hc : c = a ++ later := (List.append_inj' hlonger rfl).1
      rw [hc]
      exact (List.dropLast_prefix a).trans (List.prefix_append a later)
  · cases more with
    | nil => rw [List.append_nil, List.dropLast_concat]
    | cons y more =>
      have hy : sep = y := (List.cons.inj hmore).1
      exact absurd (by simp [hy]) hsep

end Split

section Leftmost

variable {α β : Type} (matchAt : List α → Option β)

/-- The match that begins furthest to the left, given the match at each place. -/
def search : List α → Option β
  | [] => matchAt []
  | x :: xs => match matchAt (x :: xs) with
    | some b => some b
    | none => search xs

/-- A match with what stands before it, where nothing matches earlier on. -/
structure Leftmost (xs before rest : List α) (b : β) : Prop where
  split : xs = before ++ rest
  found : matchAt rest = some b
  first : ∀ skipped later, before = skipped ++ later → later ≠ [] →
    matchAt (later ++ rest) = none

variable {matchAt} {xs before rest : List α} {b : β}

theorem search_cons_of_none {x : α} (h : matchAt (x :: xs) = none) :
    search matchAt (x :: xs) = search matchAt xs := by
  rw [search, h]

theorem search_of_some (h : matchAt xs = some b) : search matchAt xs = some b := by
  cases xs with
  | nil => exact h
  | cons x xs => rw [search, h]

theorem Leftmost.cons {x : α} (h : Leftmost matchAt xs before rest b)
    (hx : matchAt (x :: xs) = none) : Leftmost matchAt (x :: xs) (x :: before) rest b := by
  refine ⟨by rw [h.split, List.cons_append],h.found,?_⟩
  intro skipped later hsplit hlater
  cases skipped with
  | nil =>
    obtain rfl : x :: before = later := hsplit
    rw [List.cons_append, ← h.split, hx]
  | cons y skipped =>
    rw [List.cons_append, List.cons.injEq] at hsplit
    exact h.first skipped later hsplit.2 hlater

theorem Leftmost.tail {x : α} (h : Leftmost matchAt (x :: xs) before rest b)
    (hx : matchAt (x :: xs) = none) :
    ∃ before', before = x :: before' ∧ Leftmost matchAt xs before' rest b := by
  cases before with
  | nil =>
    have hrest : x :: xs = rest := h.split
    rw [hrest, h.found] at hx
    contradiction
  | cons y before =>
    obtain ⟨rfl,hxs⟩ := List.cons.inj h.split
    refine ⟨before,rfl,hxs,h.found,?_⟩
    intro skipped later hsplit hlater
    exact h.first (x :: skipped) later (by rw [hsplit, List.cons_append]) hlater

theorem Leftmost.nil_of_some {c : β} (h : Leftmost matchAt xs before rest b)
    (hxs : matchAt xs = some c) : before = [] := by
  by_contra hne
  have hnone := h.first [] before rfl hne
  rw [← h.split, hxs] at hnone
  contradiction

theorem leftmost_here (h : matchAt xs = some b) : Leftmost matchAt xs [] xs b := by
  refine ⟨rfl,h,?_⟩
  intro skipped later hsplit hlater
  exact absurd (List.append_eq_nil_iff.mp hsplit.symm).2 hlater

theorem search_eq_some_iff :
    search matchAt xs = some b ↔ ∃ before rest, Leftmost matchAt xs before rest b := by
  induction xs with
  | nil =>
    constructor
    · intro hfound
      exact ⟨[],[],leftmost_here hfound⟩
    · intro hparts
      obtain ⟨before,rest,h⟩ := hparts
      obtain ⟨-,rfl⟩ := List.append_eq_nil_iff.mp h.split.symm
      exact h.found
  | cons x xs ih =>
    cases hx : matchAt (x :: xs) with
    | some c =>
      rw [search_of_some hx]
      constructor
      · intro hfound
        exact ⟨[],x :: xs,leftmost_here (hx.trans hfound)⟩
      · intro hparts
        obtain ⟨before,rest,h⟩ := hparts
        obtain rfl := h.nil_of_some hx
        rw [← hx, ← h.found, h.split, List.nil_append]
    | none =>
      rw [search_cons_of_none hx, ih]
      constructor
      · intro hparts
        obtain ⟨before,rest,h⟩ := hparts
        exact ⟨x :: before,rest,h.cons hx⟩
      · intro hparts
        obtain ⟨before,rest,h⟩ := hparts
        obtain ⟨before',-,h'⟩ := h.tail hx
        exact ⟨before',rest,h'⟩

/-- There is only one such place. -/
theorem Leftmost.unique {before' rest' : List α} {b' : β} (h : Leftmost matchAt xs before rest b)
    (h' : Leftmost matchAt xs before' rest' b') : before = before' ∧ rest = rest' ∧ b = b' := by
  induction xs generalizing before before' with
  | nil =>
    obtain ⟨rfl,rfl⟩ := List.append_eq_nil_iff.mp h.split.symm
    obtain ⟨rfl,rfl⟩ := List.append_eq_nil_iff.mp h'.split.symm
    exact ⟨rfl,rfl,Option.some.inj (h.found.symm.trans h'.found)⟩
  | cons x xs ih =>
    cases hx : matchAt (x :: xs) with
    | some c =>
      obtain rfl := h.nil_of_some hx
      obtain rfl := h'.nil_of_some hx
      obtain rfl : rest = rest' := h.split.symm.trans h'.split
      exact ⟨rfl,rfl,Option.some.inj (h.found.symm.trans h'.found)⟩
    | none =>
      obtain ⟨tail,rfl,htail⟩ := h.tail hx
      obtain ⟨tail',rfl,htail'⟩ := h'.tail hx
      obtain ⟨rfl,hrest⟩ := ih htail htail'
      exact ⟨rfl,hrest⟩

end Leftmost

end Py
