import Mathlib.Data.List.Basic
import Mathlib.Data.List.Nodup

namespace Requirements

section FirstOfEach

variable {α κ : Type} [DecidableEq κ] (key : α → κ)

/-- The first item of every key that was not seen before. -/
def firstOfEach : (seen : List κ) → List α → List α
  | _, [] => []
  | seen, x :: xs =>
      if key x ∈ seen then firstOfEach seen xs else x :: firstOfEach (key x :: seen) xs

variable {key} {seen : List κ} {xs : List α}

theorem firstOfEach_sublist : (firstOfEach key seen xs).Sublist xs := by
  induction xs generalizing seen with
  | nil => exact List.Sublist.slnil
  | cons x xs ih =>
    rw [firstOfEach]
    split
    · exact ih.cons x
    · exact ih.cons_cons x

/-- The keys that are new, each once. -/
theorem mem_keys_firstOfEach {k : κ} :
    k ∈ (firstOfEach key seen xs).map key ↔ k ∉ seen ∧ k ∈ xs.map key := by
  induction xs generalizing seen with
  | nil => simp [firstOfEach]
  | cons x xs ih =>
    rw [firstOfEach]
    by_cases hseen : key x ∈ seen
    · rw [if_pos hseen, ih, List.map_cons, List.mem_cons]
      constructor
      · intro hparts
        exact ⟨hparts.1,Or.inr hparts.2⟩
      · intro hparts
        obtain ⟨hnew,rfl | hlater⟩ := hparts
        · exact absurd hseen hnew
        · exact ⟨hnew,hlater⟩
    · rw [if_neg hseen, List.map_cons, List.mem_cons, ih, List.map_cons, List.mem_cons,
        List.mem_cons, not_or]
      constructor
      · intro hcases
        rcases hcases with rfl | ⟨⟨-,hnew⟩,hlater⟩
        · exact ⟨hseen,Or.inl rfl⟩
        · exact ⟨hnew,Or.inr hlater⟩
      · intro hparts
        obtain ⟨hnew,hcases⟩ := hparts
        by_cases hk : k = key x
        · exact Or.inl hk
        · exact Or.inr ⟨⟨hk,hnew⟩,hcases.resolve_left hk⟩

theorem nodup_keys_firstOfEach : ((firstOfEach key seen xs).map key).Nodup := by
  induction xs generalizing seen with
  | nil => simp [firstOfEach]
  | cons x xs ih =>
    rw [firstOfEach]
    split
    · exact ih
    · rw [List.map_cons, List.nodup_cons]
      refine ⟨?_,ih⟩
      intro hmem
      exact (mem_keys_firstOfEach.mp hmem).1 List.mem_cons_self

/-- Items may be replaced by others with the same keys. -/
theorem firstOfEach_map {β : Type} (h : β → α) (ys : List β) :
    firstOfEach key seen (ys.map h) = (firstOfEach (fun y => key (h y)) seen ys).map h := by
  induction ys generalizing seen with
  | nil => rfl
  | cons y ys ih =>
    rw [List.map_cons, firstOfEach, firstOfEach]
    split
    · exact ih
    · rw [List.map_cons, ih]

end FirstOfEach

section Met

variable {ρ α : Type} (holds : ρ → α → Prop)

/-- Every requirement is met by an item. -/
def AllMet (reqs : List ρ) (items : List α) : Prop := ∀ r ∈ reqs, ∃ x ∈ items, holds r x

variable [∀ r x, Decidable (holds r x)]

instance (reqs : List ρ) (items : List α) : Decidable (AllMet holds reqs items) :=
  inferInstanceAs (Decidable (∀ r ∈ reqs, ∃ x ∈ items, holds r x))

/-- The requirements that no item meets, with their places. -/
def unmet (reqs : List ρ) (items : List α) : List (ρ × Nat) :=
  reqs.zipIdx.filter (fun e => ¬∃ x ∈ items, holds e.1 x)

/-- What meets the requirements, one requirement after the other. -/
def gathered (reqs : List ρ) (items : List α) : List α :=
  reqs.flatMap (fun r => items.filter (fun x => holds r x))

variable {holds} {reqs : List ρ} {items others : List α}

omit [∀ r x, Decidable (holds r x)] in
/-- More items never leave a requirement unmet. -/
theorem AllMet.mono (h : AllMet holds reqs items) (hsub : items ⊆ others) :
    AllMet holds reqs others := by
  intro r hr
  obtain ⟨x,hx,hmeets⟩ := h r hr
  exact ⟨x,hsub hx,hmeets⟩

theorem isEmpty_filter_holds (r : ρ) (items : List α) :
    (items.filter (fun x => holds r x)).isEmpty = decide (¬∃ x ∈ items, holds r x) := by
  rw [Bool.eq_iff_iff, List.isEmpty_iff, List.filter_eq_nil_iff]
  simp

theorem unmet_eq_nil_iff : unmet holds reqs items = [] ↔ AllMet holds reqs items := by
  rw [unmet, List.filter_eq_nil_iff]
  constructor
  · intro hnone r hr
    obtain ⟨i,hi,rfl⟩ := List.mem_iff_getElem.mp hr
    have hplace : (reqs[i],i) ∈ reqs.zipIdx := by
      rw [List.mk_mem_zipIdx_iff_getElem?, List.getElem?_eq_getElem hi]
    simpa using hnone _ hplace
  · intro hall e he
    simpa using hall e.1 (List.fst_mem_of_mem_zipIdx he)

theorem mem_gathered {x : α} :
    x ∈ gathered holds reqs items ↔ x ∈ items ∧ ∃ r ∈ reqs, holds r x := by
  simp only [gathered, List.mem_flatMap, List.mem_filter, decide_eq_true_eq]
  constructor
  · intro hparts
    obtain ⟨r,hr,hx,hmeets⟩ := hparts
    exact ⟨hx,r,hr,hmeets⟩
  · intro hparts
    obtain ⟨hx,r,hr,hmeets⟩ := hparts
    exact ⟨r,hr,hx,hmeets⟩

/-- Where there are requirements, and all are met, something is gathered. -/
theorem AllMet.gathered_ne_nil (h : AllMet holds reqs items) (hne : reqs ≠ []) :
    gathered holds reqs items ≠ [] := by
  obtain ⟨r,hr⟩ := List.exists_mem_of_ne_nil _ hne
  obtain ⟨x,hx,hmeets⟩ := h r hr
  exact List.ne_nil_of_mem (mem_gathered.mpr ⟨hx,r,hr,hmeets⟩)

section Map

variable {σ β : Type} {holds' : σ → β → Prop} [∀ s y, Decidable (holds' s y)] {g : ρ → σ}
  {h : α → β}

omit [∀ r x, Decidable (holds r x)] [∀ s y, Decidable (holds' s y)] in
private theorem exists_map_iff (hiff : ∀ r x, holds' (g r) (h x) ↔ holds r x) (r : ρ) :
    (∃ y ∈ items.map h, holds' (g r) y) ↔ ∃ x ∈ items, holds r x := by
  simp [hiff]

theorem unmet_map (hiff : ∀ r x, holds' (g r) (h x) ↔ holds r x) :
    unmet holds' (reqs.map g) (items.map h) =
      (unmet holds reqs items).map (Prod.map g id) := by
  rw [unmet, unmet, List.zipIdx_map, List.filter_map]
  congr 1
  apply List.filter_congr
  intro e _
  simp only [Function.comp, Prod.map_fst, decide_eq_decide]
  exact not_congr (exists_map_iff hiff e.1)

theorem gathered_map (hiff : ∀ r x, holds' (g r) (h x) ↔ holds r x) :
    gathered holds' (reqs.map g) (items.map h) = (gathered holds reqs items).map h := by
  simp only [gathered, List.flatMap_map, List.map_flatMap, List.filter_map]
  apply List.flatMap_congr
  intro r _
  congr 1
  apply List.filter_congr
  intro x _
  simp only [Function.comp, decide_eq_decide]
  exact hiff r x

end Map

end Met

end Requirements
