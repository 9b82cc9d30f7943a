import FinancialPdfReader.Python.Order
import FinancialPdfReader.Services.Summarization.KeptSections

namespace FinancialPdfReader

open Py Apportion

variable {α : Type} (bySection : Dict String (List α)) (budget : Nat)

/-- How many chunks of a section are wanted. -/
def desired (sectionName : String) : Nat :=
  ((bySection.get? sectionName).map (demand sectionName)).getD 0

def proportionalShare (sectionName : String) : ℚ :=
  exactShare budget (totalDemand bySection) (desired bySection sectionName)

/-- The sections of which something is wanted, those of which the most is first, and those of
which the same is in the order in which they came. -/
structure BySize (order : List String) : Prop where
  nodup : order.Nodup
  mem_iff : ∀ s, s ∈ order ↔ s ∈ bySection.keys ∧ 0 < desired bySection s
  descending : order.Pairwise (fun s t => desired bySection t ≤ desired bySection s)
  ties : ∀ s t, desired bySection s = desired bySection t → Before order s t →
    Before bySection.keys s t

structure Proportional (allocation : Dict String Nat) : Prop where
  keys : allocation.keys = bySection.keys
  monotone : ∀ s ∈ bySection.keys, ∀ t ∈ bySection.keys,
    desired bySection s < desired bySection t → allotted allocation s ≤ allotted allocation t
  floorOrNext : ∀ s ∈ bySection.keys,
    allotted allocation s = ⌊proportionalShare bySection budget s⌋₊ ∨
      allotted allocation s = ⌊proportionalShare bySection budget s⌋₊ + 1
  extra : ∃ order, BySize bySection order ∧ ∃ n, ∀ s ∈ bySection.keys,
    allotted allocation s = ⌊proportionalShare bySection budget s⌋₊ + 1 ↔ s ∈ order.take n

variable {bySection} {budget}

theorem allotted_demands_eq_desired (s : String) :
    allotted (demands bySection) s = desired bySection s := by
  rw [allotted, demands, Dict.get?_mapValues, desired]

theorem floor_proportionalShare (s : String) : ⌊proportionalShare bySection budget s⌋₊ =
    share budget (totalDemand bySection) (desired bySection s) := floor_exactShare

theorem desired_of_mem_bySize {e : String × Nat} (h : e ∈ bySize bySection) :
    desired bySection e.1 = e.2 := by
  rw [← allotted_demands_eq_desired, entry_demands (mem_bySize.mp h).1]

theorem allotted_allocate (h : budget < totalDemand bySection) (s : String) :
    allotted (allocateSectionBudget bySection budget) s =
      ⌊proportionalShare bySection budget s⌋₊ +
        if s ∈ favoured bySection budget then 1 else 0 := by
  rw [allotted_beyond h, floor_proportionalShare, allotted_demands_eq_desired]

theorem before_keys_of_bySize {a b : String × Nat} (h : Before (bySize bySection) a b)
    (hsame : a.2 = b.2) : Before bySection.keys a.1 b.1 := by
  have hsorted : Before (sortBy (fun e : String × Nat => OrderDual.toDual e.2)
      (demands bySection).entries) a b := h.of_sublist List.filter_sublist
  obtain ⟨-,-,hless | ⟨-,hentries⟩⟩ := before_sortBy.mp hsorted
  · exact absurd (congrArg OrderDual.toDual hsame) hless.ne
  · have hkeys : Before (demands bySection).keys a.1 b.1 := List.Sublist.map Prod.fst hentries
    rwa [demands, Dict.keys_mapValues] at hkeys

/-- The sections in the order in which the rest is handed out. -/
theorem bySize_names : BySize bySection ((bySize bySection).map Prod.fst) := by
  refine ⟨nodup_bySize,?_,?_,?_⟩
  · intro s
    constructor
    · intro hs
      obtain ⟨e,he,rfl⟩ := List.mem_map.mp hs
      obtain ⟨chunks,hchunks,-⟩ := section_of_mem_bySize he
      rw [desired_of_mem_bySize he]
      exact ⟨(Dict.mem_keys_iff _ _).mpr ⟨chunks,hchunks⟩,(mem_bySize.mp he).2⟩
    · intro hs
      obtain ⟨hkey,hpos⟩ := hs
      obtain ⟨chunks,hchunks⟩ := (Dict.mem_keys_iff _ _).mp hkey
      rw [desired, hchunks] at hpos
      exact List.mem_map_of_mem (mem_bySize_of_section hchunks (demand_pos_iff.mp hpos))
  · rw [List.pairwise_map]
    apply bySize_pairwise.imp_of_mem
    intro a b ha hb hab
    rw [desired_of_mem_bySize ha, desired_of_mem_bySize hb]
    exact hab
  · intro s t hsame hbefore
    obtain ⟨pair,hpair,hnames⟩ := List.sublist_map_iff.mp hbefore
    obtain ⟨a,b,rfl⟩ := List.length_eq_two.mp (by simpa using (congrArg List.length hnames).symm)
    obtain ⟨rfl,rfl⟩ : s = a.1 ∧ t = b.1 := by simpa using hnames
    have ha := desired_of_mem_bySize (Before.mem hpair).1
    have hb := desired_of_mem_bySize (Before.mem hpair).2
    exact before_keys_of_bySize hpair (by rw [← ha, ← hb, hsame])

theorem favoured_of_more {s t : String} (hs : s ∈ favoured bySection budget)
    (ht : t ∈ bySection.keys) (hmore : desired bySection s < desired bySection t) :
    t ∈ favoured bySection budget := by
  have hnames : BySize bySection ((bySize bySection).map Prod.fst) := bySize_names
  rw [favoured, List.map_take] at hs ⊢
  have hpos : 0 < desired bySection t := Nat.zero_lt_of_lt hmore
  exact mem_take_of_before hnames.descending hs ((hnames.mem_iff t).mpr ⟨ht,hpos⟩)
    (Nat.not_le.mpr hmore)

/-- A budget that does not suffice is handed out in proportion to what is wanted. -/
theorem allocateSectionBudget_proportional (bySection : Dict String (List α)) (budget : Nat)
    (h : budget < totalDemand bySection) :
    Proportional bySection budget (allocateSectionBudget bySection budget) := by
  refine ⟨keys_allocate,?_,?_,?_⟩
  · intro s hs t ht hmore
    have hshare : ⌊proportionalShare bySection budget s⌋₊ ≤
        ⌊proportionalShare bySection budget t⌋₊ := by
      rw [floor_proportionalShare, floor_proportionalShare]
      exact share_mono hmore.le
    rw [allotted_allocate h, allotted_allocate h]
    by_cases hfavoured : s ∈ favoured bySection budget
    · rw [if_pos hfavoured, if_pos (favoured_of_more hfavoured ht hmore)]
      exact Nat.add_le_add_right hshare 1
    · rw [if_neg hfavoured]
      exact hshare.trans (Nat.le_add_right _ _)
  · intro s hs
    rw [allotted_allocate h]
    split_ifs
    · exact Or.inr rfl
    · exact Or.inl rfl
  · refine ⟨_,bySize_names,leftOver bySection budget,?_⟩
    intro s hs
    rw [allotted_allocate h, Nat.add_left_cancel_iff, ← List.map_take]
    have hfirst : s ∈ ((bySize bySection).take (leftOver bySection budget)).map Prod.fst ↔
        s ∈ favoured bySection budget := Iff.rfl
    rw [hfirst]
    by_cases hfavoured : s ∈ favoured bySection budget
    · rw [if_pos hfavoured]
      exact iff_of_true rfl hfavoured
    · rw [if_neg hfavoured]
      exact iff_of_false Nat.zero_ne_one hfavoured

/-- Two sections that want fifteen chunks of ten. -/
def twoSections : Dict String (List Unit) :=
  ⟨[("營收",List.replicate 20 ()), ("董事會說明",List.replicate 20 ())],by decide⟩

theorem allocateSectionBudget_proportional_twoSections :
    10 < totalDemand twoSections ∧
      Proportional twoSections 10 (allocateSectionBudget twoSections 10) :=
  have hover : 10 < totalDemand twoSections := by decide +kernel
  ⟨hover,allocateSectionBudget_proportional twoSections 10 hover⟩

end FinancialPdfReader
