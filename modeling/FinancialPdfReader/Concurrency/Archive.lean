import Mathlib.Data.Set.Function
import Mathlib.Logic.Relation

/- Sets of rows that only ever grow, each row under a key of its own and for a reason that was
there before it. -/

namespace Archive

variable {ρ κ : Type} (key : ρ → κ) (justified : Set ρ → ρ → Prop)

/-- One row more. -/
inductive Adds (A : Set ρ) : Set ρ → Prop where
  | row (r : ρ) (hfresh : ∀ s ∈ A, key s ≠ key r) (hwhy : justified A r) : Adds A (insert r A)

abbrev Grows : Set ρ → Set ρ → Prop := Relation.ReflTransGen (Adds key justified)

def Keyed (A : Set ρ) : Prop := Set.InjOn key A

def Grounded (A : Set ρ) : Prop := ∀ r ∈ A, justified A r

/-- A reason is not lost when more rows are there. -/
def Lasting : Prop := ∀ A B r, A ⊆ B → justified A r → justified B r

variable {key justified} {A B : Set ρ} {r s : ρ}

theorem Grows.subset (h : Grows key justified A B) : A ⊆ B := by
  induction h with
  | refl => exact subset_rfl
  | tail _ hadds ih =>
    cases hadds with
    | row r => exact ih.trans (Set.subset_insert r _)

theorem keyed_insert (hA : Keyed key A) (hfresh : ∀ s ∈ A, key s ≠ key r) :
    Keyed key (insert r A) := by
  intro a ha b hb hab
  rcases ha with rfl | ha
  · rcases hb with rfl | hb
    · rfl
    · exact absurd hab.symm (hfresh b hb)
  · rcases hb with rfl | hb
    · exact absurd hab (hfresh a ha)
    · exact hA ha hb hab

theorem Grows.keyed (h : Grows key justified A B) (hA : Keyed key A) : Keyed key B := by
  induction h with
  | refl => exact hA
  | tail _ hadds ih =>
    cases hadds with
    | row r hfresh => exact keyed_insert ih hfresh

theorem Grows.grounded (hlasting : Lasting justified) (h : Grows key justified A B)
    (hA : Grounded justified A) : Grounded justified B := by
  induction h with
  | refl => exact hA
  | tail _ hadds ih =>
    cases hadds with
    | row r _ hwhy =>
      intro s hs
      rcases hs with rfl | hs
      · exact hlasting _ _ _ (Set.subset_insert _ _) hwhy
      · exact hlasting _ _ _ (Set.subset_insert _ _) (ih s hs)

/-- Whoever looks a key up later finds the row that was found before. -/
theorem Keyed.same (hB : Keyed key B) (hAB : A ⊆ B) (hr : r ∈ A) (hs : s ∈ B)
    (hkey : key s = key r) : s = r :=
  hB hs (hAB hr) hkey

/-- A row has come in at some time, for a reason that was there by then. -/
theorem Grows.reason (h : Grows key justified A B) (hr : r ∈ B) (hnew : r ∉ A) :
    ∃ C, Grows key justified A C ∧ Grows key justified (insert r C) B ∧ r ∉ C ∧
      justified C r := by
  induction h with
  | refl => exact absurd hr hnew
  | @tail B B' hbefore hadds ih =>
    by_cases hold : r ∈ B
    · obtain ⟨C,hAC,hCB,hrC,hwhy⟩ := ih hold
      exact ⟨C,hAC,hCB.tail hadds,hrC,hwhy⟩
    · cases hadds with
      | row s hfresh hwhy =>
        rcases hr with rfl | hr
        · exact ⟨B,hbefore,.refl,hold,hwhy⟩
        · exact absurd hr hold

end Archive
