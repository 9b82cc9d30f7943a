import FinancialPdfReader.Algorithms.Apportion
import FinancialPdfReader.Python.Sorted
import FinancialPdfReader.Services.Summarization.Retrieval

namespace FinancialPdfReader

open Py Apportion

/-- What a section would take: all its chunks, up to its quota. -/
def demand {α : Type} (sectionName : String) (chunks : List α) : Nat :=
  min chunks.length (sectionQuota sectionName)

theorem sectionQuota_pos (sectionName : String) : 0 < sectionQuota sectionName := by
  have hlisted : ∀ e ∈ sectionQuotas, 0 < e.2 := by decide
  rw [sectionQuota]
  cases hlookup : sectionQuotas.lookup sectionName with
  | none => decide
  | some quota =>
    obtain ⟨before,after,hsplit,-⟩ := List.lookup_eq_some_iff.mp hlookup
    exact hlisted (sectionName,quota) (by rw [hsplit]; simp)

theorem demand_pos_iff {α : Type} {sectionName : String} {chunks : List α} :
    0 < demand sectionName chunks ↔ chunks ≠ [] := by
  have hquota := sectionQuota_pos sectionName
  rw [demand, ← List.length_pos_iff]
  omega

def allotted (allocation : Dict String Nat) (sectionName : String) : Nat :=
  (allocation.get? sectionName).getD 0

theorem allotted_set (allocation : Dict String Nat) (s sectionName : String) (n : Nat) :
    allotted (allocation.set s n) sectionName =
      if sectionName = s then n else allotted allocation sectionName := by
  rw [allotted, Dict.get?_set]
  split_ifs with hs
  · rfl
  · rfl

theorem sum_values_eq (allocation : Dict String Nat) :
    allocation.values.sum = (allocation.keys.map (allotted allocation)).sum := by
  rw [Dict.values_eq_map_keys allocation 0]
  rfl

section TopUp

/-- The sections that can take one more chunk, in the order given. -/
def withRoom (order : List (String × Nat)) (allocation : Dict String Nat) :
    List (String × Nat) :=
  order.filter (fun e => allotted allocation e.1 < e.2)

theorem topUp_cons_room {s : String} {desired remaining : Nat} {allocation : Dict String Nat}
    (hroom : allotted allocation s < desired) (order : List (String × Nat)) :
    topUp ((s,desired) :: order) (remaining + 1) allocation =
      topUp order remaining (allocation.set s (allotted allocation s + 1)) := by
  rw [topUp, if_neg (Nat.succ_ne_zero remaining)]
  exact if_pos hroom

theorem topUp_cons_full {s : String} {desired remaining : Nat} {allocation : Dict String Nat}
    (hfull : ¬ allotted allocation s < desired) (order : List (String × Nat)) :
    topUp ((s,desired) :: order) (remaining + 1) allocation =
      topUp order (remaining + 1) allocation := by
  rw [topUp, if_neg (Nat.succ_ne_zero remaining)]
  exact if_neg hfull

/-- One chunk goes to each of the first sections that have room, as far as the rest reaches. -/
theorem allotted_topUp {order : List (String × Nat)} (hnodup : (order.map Prod.fst).Nodup)
    (remaining : Nat) (allocation : Dict String Nat) (sectionName : String) :
    allotted (topUp order remaining allocation) sectionName = allotted allocation sectionName +
      if sectionName ∈ ((withRoom order allocation).take remaining).map Prod.fst then 1 else 0 := by
  induction order generalizing remaining allocation with
  | nil => simp [topUp, withRoom]
  | cons e order ih =>
    obtain ⟨s,desired⟩ := e
    rw [List.map_cons] at hnodup
    obtain ⟨hs,hnodup⟩ := List.nodup_cons.mp hnodup
    have hother : ∀ e ∈ order, e.1 ≠ s := by
      intro e he heq
      have hmem : e.1 ∈ order.map Prod.fst := List.mem_map_of_mem he
      rw [heq] at hmem
      exact hs hmem
    cases remaining with
    | zero => simp [topUp]
    | succ remaining =>
      by_cases hroom : allotted allocation s < desired
      · have hsame : withRoom order (allocation.set s (allotted allocation s + 1)) =
            withRoom order allocation := by
          apply List.filter_congr
          intro e he
          rw [allotted_set, if_neg (hother e he)]
        have hfirst : withRoom ((s,desired) :: order) allocation =
            (s,desired) :: withRoom order allocation := by
          simp [withRoom, hroom]
        have habsent : s ∉ ((withRoom order allocation).take remaining).map Prod.fst := by
          intro hmem
          obtain ⟨e,he,heq⟩ := List.mem_map.mp hmem
          exact hother e (List.mem_of_mem_filter (List.mem_of_mem_take he)) heq
        rw [topUp_cons_room hroom, ih hnodup, hsame, hfirst, List.take_succ_cons, List.map_cons,
          allotted_set]
        by_cases hself : sectionName = s
        · subst hself
          rw [if_pos rfl, if_neg habsent, if_pos List.mem_cons_self]
        · simp [hself]
      · have hfirst : withRoom ((s,desired) :: order) allocation = withRoom order allocation := by
          simp [withRoom, hroom]
        rw [topUp_cons_full hroom, ih hnodup, hfirst]

theorem keys_topUp {order : List (String × Nat)} {allocation : Dict String Nat}
    (hkeys : ∀ e ∈ order, e.1 ∈ allocation.keys) (remaining : Nat) :
    (topUp order remaining allocation).keys = allocation.keys := by
  induction order generalizing remaining allocation with
  | nil => rfl
  | cons e order ih =>
    obtain ⟨s,desired⟩ := e
    have hset : ∀ n, (allocation.set s n).keys = allocation.keys := by
      intro n
      rw [Dict.keys_set, if_pos (hkeys (s,desired) List.mem_cons_self)]
    have horder : ∀ e ∈ order, e.1 ∈ allocation.keys :=
      fun e he => hkeys e (List.mem_cons_of_mem _ he)
    cases remaining with
    | zero => simp [topUp]
    | succ remaining =>
      by_cases hroom : allotted allocation s < desired
      · rw [topUp_cons_room hroom, ih, hset]
        intro e he
        rw [hset]
        exact horder e he
      · rw [topUp_cons_full hroom, ih horder]

end TopUp

section Allocation

variable {α : Type} (bySection : Dict String (List α)) (budget : Nat)

def demands : Dict String Nat := bySection.mapValues demand

def totalDemand : Nat := (demands bySection).values.sum

/-- The demands scaled down to the budget. -/
def shares : Dict String Nat :=
  (demands bySection).mapValues (fun _ d => share budget (totalDemand bySection) d)

/-- The sections that have chunks, those of the greatest demand first. -/
def bySize : List (String × Nat) :=
  ((demands bySection).entries.insertionSort (fun a b => b.2 ≤ a.2)).filter (fun e => 0 < e.2)

def leftOver : Nat := budget - (shares bySection budget).values.sum

/-- The sections that get one chunk more than their share. -/
def favoured : List String := ((bySize bySection).take (leftOver bySection budget)).map Prod.fst

variable {bySection} {budget}

theorem allocate_within (h : totalDemand bySection ≤ budget) :
    allocateSectionBudget bySection budget = demands bySection := if_pos h

theorem allocate_beyond (h : budget < totalDemand bySection) :
    allocateSectionBudget bySection budget =
      topUp ((demands bySection).entries.insertionSort (fun a b => b.2 ≤ a.2))
        (leftOver bySection budget) (shares bySection budget) := if_neg (Nat.not_le.mpr h)

theorem allotted_demands {s : String} {chunks : List α} (h : bySection.get? s = some chunks) :
    allotted (demands bySection) s = demand s chunks := by
  rw [allotted, demands, Dict.get?_mapValues, h]
  rfl

theorem allotted_shares (s : String) : allotted (shares bySection budget) s =
    share budget (totalDemand bySection) (allotted (demands bySection) s) := by
  rw [allotted, shares, Dict.get?_mapValues, allotted]
  cases (demands bySection).get? s with
  | none => simp [share]
  | some d => rfl

theorem entry_demands {e : String × Nat} (h : e ∈ (demands bySection).entries) :
    allotted (demands bySection) e.1 = e.2 := by
  rw [allotted, (Dict.get?_eq_some_iff _ e.1 e.2).mpr h, Option.getD_some]

/-- All sections that have chunks have room beyond their shares. -/
theorem withRoom_shares (h : budget < totalDemand bySection) :
    withRoom ((demands bySection).entries.insertionSort (fun a b => b.2 ≤ a.2))
      (shares bySection budget) = bySize bySection := by
  apply List.filter_congr
  intro e he
  rw [allotted_shares, entry_demands ((List.mem_insertionSort _).mp he), decide_eq_decide]
  constructor
  · intro hroom
    exact Nat.zero_lt_of_lt hroom
  · intro hdemand
    exact share_lt h hdemand

theorem nodup_sorted_demands : (((demands bySection).entries.insertionSort
    (fun a b => b.2 ≤ a.2)).map Prod.fst).Nodup :=
  ((List.perm_insertionSort _ _).map Prod.fst).nodup_iff.mpr (demands bySection).nodup

theorem nodup_bySize : ((bySize bySection).map Prod.fst).Nodup :=
  (List.filter_sublist.map Prod.fst).nodup nodup_sorted_demands

theorem mem_bySize {e : String × Nat} :
    e ∈ bySize bySection ↔ e ∈ (demands bySection).entries ∧ 0 < e.2 := by
  rw [bySize, List.mem_filter, List.mem_insertionSort, decide_eq_true_eq]

/-- Every section gets its share, and the favoured ones one chunk more. -/
theorem allotted_beyond (h : budget < totalDemand bySection) (s : String) :
    allotted (allocateSectionBudget bySection budget) s =
      share budget (totalDemand bySection) (allotted (demands bySection) s) +
        if s ∈ favoured bySection budget then 1 else 0 := by
  rw [allocate_beyond h, allotted_topUp nodup_sorted_demands, withRoom_shares h, allotted_shares,
    favoured]

theorem keys_allocate : (allocateSectionBudget bySection budget).keys = bySection.keys := by
  have hdemands : (demands bySection).keys = bySection.keys := Dict.keys_mapValues _ _
  have hshares : (shares bySection budget).keys = (demands bySection).keys :=
    Dict.keys_mapValues _ _
  by_cases h : totalDemand bySection ≤ budget
  · rw [allocate_within h, hdemands]
  · rw [allocate_beyond (Nat.lt_of_not_le h), keys_topUp, hshares, hdemands]
    intro e he
    rw [hshares]
    exact List.mem_map_of_mem ((List.mem_insertionSort _).mp he)

theorem allotted_pos_of_favoured {s : String} (h : s ∈ favoured bySection budget) :
    0 < allotted (demands bySection) s := by
  obtain ⟨e,he,rfl⟩ := List.mem_map.mp h
  obtain ⟨hentry,hpos⟩ := mem_bySize.mp (List.mem_of_mem_take he)
  rw [entry_demands hentry]
  exact hpos

/-- No section gets more than it demands. -/
theorem allotted_le_demand (s : String) :
    allotted (allocateSectionBudget bySection budget) s ≤ allotted (demands bySection) s := by
  by_cases h : totalDemand bySection ≤ budget
  · rw [allocate_within h]
  · have hover : budget < totalDemand bySection := Nat.lt_of_not_le h
    rw [allotted_beyond hover]
    split_ifs with hs
    · exact share_lt hover (allotted_pos_of_favoured hs)
    · exact share_le hover.le

theorem length_bySize :
    (bySize bySection).length = (demands bySection).values.countP (fun d => 0 < d) := by
  have hperm : ((demands bySection).entries.insertionSort (fun a b => b.2 ≤ a.2)).Perm
      (demands bySection).entries := List.perm_insertionSort _ _
  rw [bySize, ← List.countP_eq_length_filter, hperm.countP_eq, Dict.values, List.countP_map]
  rfl

theorem values_shares : (shares bySection budget).values =
    (demands bySection).values.map (share budget (totalDemand bySection)) := by
  rw [shares, Dict.values, Dict.values, Dict.mapValues, List.map_map, List.map_map]
  rfl

/-- The rest does not even reach all the sections that have chunks. -/
theorem leftOver_lt (h : budget < totalDemand bySection) :
    leftOver bySection budget < (bySize bySection).length := by
  rw [leftOver, values_shares, length_bySize]
  exact left_lt_countP h

theorem length_favoured (h : budget < totalDemand bySection) :
    (favoured bySection budget).length = leftOver bySection budget := by
  rw [favoured, List.length_map, List.length_take]
  exact Nat.min_eq_left (leftOver_lt h).le

private theorem sum_indicator {xs : List String} (p : String → Prop) [DecidablePred p] :
    (xs.map (fun x => if p x then 1 else 0)).sum = xs.countP p := by
  induction xs with
  | nil => rfl
  | cons x xs ih =>
    rw [List.map_cons, List.sum_cons, ih, List.countP_cons, Nat.add_comm]
    simp only [decide_eq_true_eq]

theorem countP_favoured :
    bySection.keys.countP (fun s => s ∈ favoured bySection budget) =
      (favoured bySection budget).length := by
  have hnodup : (favoured bySection budget).Nodup :=
    ((List.take_sublist _ _).map Prod.fst).nodup nodup_bySize
  have hkeys : ∀ s ∈ favoured bySection budget, s ∈ bySection.keys := by
    intro s hs
    obtain ⟨e,he,rfl⟩ := List.mem_map.mp hs
    obtain ⟨hentry,-⟩ := mem_bySize.mp (List.mem_of_mem_take he)
    have hmem : e.1 ∈ (demands bySection).keys := List.mem_map_of_mem hentry
    rwa [demands, Dict.keys_mapValues] at hmem
  have hsections : bySection.keys.Nodup := bySection.nodup
  rw [(perm_filter_contains hnodup hsections hkeys).length_eq, ← List.countP_eq_length_filter]
  simp only [List.contains_eq_mem]

/-- The whole budget is spent where the sections demand more. -/
theorem sum_beyond (h : budget < totalDemand bySection) :
    (allocateSectionBudget bySection budget).values.sum = budget := by
  have hshares : (bySection.keys.map (fun s => share budget (totalDemand bySection)
      (allotted (demands bySection) s))).sum = (shares bySection budget).values.sum := by
    have hkeys : (shares bySection budget).keys = bySection.keys := by
      rw [shares, Dict.keys_mapValues, demands, Dict.keys_mapValues]
    rw [sum_values_eq, hkeys]
    simp only [← allotted_shares]
  have hspent : (shares bySection budget).values.sum ≤ budget := by
    rw [values_shares]
    exact sum_share_le h
  calc (allocateSectionBudget bySection budget).values.sum
      = (bySection.keys.map (fun s => share budget (totalDemand bySection)
          (allotted (demands bySection) s) +
            if s ∈ favoured bySection budget then 1 else 0)).sum := by
        rw [sum_values_eq, keys_allocate]
        simp only [← allotted_beyond h]
    _ = (shares bySection budget).values.sum + leftOver bySection budget := by
        rw [List.sum_map_add, hshares, sum_indicator, countP_favoured, length_favoured h]
    _ = budget := by
        rw [leftOver]
        omega

end Allocation

/-- An allocation gives every section at most what it has and what its quota lets it have, and
spends as much of the budget as that allows. -/
structure SpendsBudget {α : Type} (bySection : Dict String (List α)) (budget : Nat)
    (allocation : Dict String Nat) : Prop where
  keys : allocation.keys = bySection.keys
  bounded : ∀ s chunks, bySection.get? s = some chunks →
    ∃ n, allocation.get? s = some n ∧ n ≤ min chunks.length (sectionQuota s)
  total : allocation.values.sum = min budget
    (bySection.entries.map (fun e => min e.2.length (sectionQuota e.1))).sum

theorem allocateSectionBudget_spendsBudget {α : Type} (bySection : Dict String (List α))
    (budget : Nat) : SpendsBudget bySection budget (allocateSectionBudget bySection budget) := by
  have htotal : totalDemand bySection =
      (bySection.entries.map (fun e => min e.2.length (sectionQuota e.1))).sum := by
    rw [totalDemand, demands, Dict.values, Dict.mapValues, List.map_map]
    rfl
  refine ⟨keys_allocate,?_,?_⟩
  · intro s chunks hchunks
    have hkey : s ∈ (allocateSectionBudget bySection budget).keys := by
      rw [keys_allocate]
      exact (Dict.mem_keys_iff bySection s).mpr ⟨chunks,hchunks⟩
    obtain ⟨n,hn⟩ := (Dict.mem_keys_iff _ s).mp hkey
    have hbound : allotted (allocateSectionBudget bySection budget) s ≤
        allotted (demands bySection) s := allotted_le_demand s
    rw [allotted_demands hchunks, allotted, hn, Option.getD_some] at hbound
    exact ⟨n,hn,hbound⟩
  · rw [← htotal]
    by_cases h : totalDemand bySection ≤ budget
    · rw [allocate_within h, Nat.min_eq_right h]
      rfl
    · have hover : budget < totalDemand bySection := Nat.lt_of_not_le h
      rw [sum_beyond hover, Nat.min_eq_left hover.le]

end FinancialPdfReader
