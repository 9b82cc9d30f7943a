import FinancialPdfReader.Services.Summarization.Budget

namespace FinancialPdfReader

open Py Apportion

section KeptSections

variable {α : Type} {bySection : Dict String (List α)} {budget : Nat}

/-- Every section that has a chunk is given one. -/
def KeepsSections (bySection : Dict String (List α)) (budget : Nat) : Prop :=
  ∀ s chunks, bySection.get? s = some chunks → chunks ≠ [] →
    0 < allotted (allocateSectionBudget bySection budget) s

/-- All demands fit into the budget, or scaling down leaves at least one whole chunk to each. -/
def BudgetSuffices (bySection : Dict String (List α)) (budget : Nat) : Prop :=
  totalDemand bySection ≤ budget ∨ ∀ s chunks, bySection.get? s = some chunks → chunks ≠ [] →
    totalDemand bySection ≤ demand s chunks * budget

theorem section_of_mem_bySize {e : String × Nat} (h : e ∈ bySize bySection) :
    ∃ chunks, bySection.get? e.1 = some chunks ∧ chunks ≠ [] ∧ e.2 = demand e.1 chunks := by
  obtain ⟨hentry,hpos⟩ := mem_bySize.mp h
  have hget : (demands bySection).get? e.1 = some e.2 :=
    (Dict.get?_eq_some_iff _ e.1 e.2).mpr hentry
  rw [demands, Dict.get?_mapValues, Option.map_eq_some_iff] at hget
  obtain ⟨chunks,hchunks,hdemand⟩ := hget
  rw [← hdemand] at hpos
  exact ⟨chunks,hchunks,demand_pos_iff.mp hpos,hdemand.symm⟩

theorem mem_bySize_of_section {s : String} {chunks : List α}
    (hchunks : bySection.get? s = some chunks) (hne : chunks ≠ []) :
    (s,demand s chunks) ∈ bySize bySection := by
  rw [mem_bySize, ← Dict.get?_eq_some_iff, demands, Dict.get?_mapValues, hchunks]
  exact ⟨rfl,demand_pos_iff.mpr hne⟩

theorem bySize_pairwise : (bySize bySection).Pairwise (fun a b => b.2 ≤ a.2) := by
  have hsorted := sortBy_pairwise (fun e : String × Nat => OrderDual.toDual e.2)
    (demands bySection).entries
  exact List.Pairwise.sublist List.filter_sublist hsorted

/-- The last of the sections by size is never favoured: the rest does not reach it. -/
theorem last_not_favoured {before : List (String × Nat)} {e : String × Nat}
    (hover : budget < totalDemand bySection) (hsplit : bySize bySection = before ++ [e]) :
    e.1 ∉ favoured bySection budget := by
  have hnodup : ((bySize bySection).map Prod.fst).Nodup := nodup_bySize
  have hless := leftOver_lt hover
  rw [hsplit, List.map_append, List.map_singleton, List.nodup_append] at hnodup
  rw [hsplit, List.length_append, List.length_singleton] at hless
  rw [favoured, hsplit, List.take_append_of_le_length (Nat.le_of_lt_succ hless)]
  intro hmem
  obtain ⟨d,hd,heq⟩ := List.mem_map.mp hmem
  exact hnodup.2.2 d.1 (List.mem_map_of_mem (List.mem_of_mem_take hd)) e.1
    List.mem_cons_self heq

/-- A share that is rounded down to nothing costs the smallest section its last chunk. -/
theorem keepsSections_iff : KeepsSections bySection budget ↔ BudgetSuffices bySection budget := by
  by_cases h : totalDemand bySection ≤ budget
  · simp only [KeepsSections, BudgetSuffices, h, true_or, iff_true, allocate_within h]
    intro s chunks hchunks hne
    rw [allotted_demands hchunks]
    exact demand_pos_iff.mpr hne
  · have hover : budget < totalDemand bySection := Nat.lt_of_not_le h
    have htotal : 0 < totalDemand bySection := Nat.zero_lt_of_lt hover
    rw [BudgetSuffices, or_iff_right h]
    constructor
    · intro hkeeps s chunks hchunks hne
      rcases List.eq_nil_or_concat (bySize bySection) with hnil | ⟨before,e,hsplit⟩
      · have hlength := leftOver_lt hover
        rw [hnil] at hlength
        exact absurd hlength (Nat.not_lt_zero _)
      · rw [List.concat_eq_append] at hsplit
        have he : e ∈ bySize bySection := by simp [hsplit]
        obtain ⟨smallest,hsmallest,hne',hdemand⟩ := section_of_mem_bySize he
        have hkept := hkeeps e.1 smallest hsmallest hne'
        rw [allotted_beyond hover, if_neg (last_not_favoured hover hsplit), Nat.add_zero,
          allotted_demands hsmallest, share_pos_iff htotal] at hkept
        have hle : e.2 ≤ demand s chunks := by
          have hsorted : (bySize bySection).Pairwise (fun a b => b.2 ≤ a.2) := bySize_pairwise
          have hmem := mem_bySize_of_section hchunks hne
          rw [hsplit] at hsorted hmem
          rcases List.mem_append.mp hmem with hmem | hmem
          · exact (List.pairwise_append.mp hsorted).2.2 _ hmem e List.mem_cons_self
          · rw [← List.mem_singleton.mp hmem]
        rw [hdemand] at hle
        exact hkept.trans (Nat.mul_le_mul_right budget hle)
    · intro hshares s chunks hchunks hne
      rw [allotted_beyond hover, allotted_demands hchunks]
      have hshare : 0 < share budget (totalDemand bySection) (demand s chunks) :=
        (share_pos_iff htotal).mpr (hshares s chunks hchunks hne)
      exact Nat.lt_of_lt_of_le hshare (Nat.le_add_right _ _)

end KeptSections

section Retrieved

/-- `chunk.section or "unknown"` -/
def sectionOf (c : PDFChunk) : String := if c.sectionName = "" then "unknown" else c.sectionName

def chunksBySection (db : Database) (documentId : String) : Dict String (List PDFChunk) :=
  Dict.group sectionOf (db.chunksByPage documentId)

/-- How many chunks of a section are retrieved. -/
def retrievedOf (db : Database) (documentId : String) (budget : Nat) (sectionName : String) : Nat :=
  allotted (allocateSectionBudget (chunksBySection db documentId) budget) sectionName

/-- The chunks that are chosen, section by section. -/
def selectedChunks (db : Database) (documentId : String) (budget : Nat) : List PDFChunk :=
  (chunksBySection db documentId).entries.flatMap
    (fun e => e.2.take (retrievedOf db documentId budget e.1))

variable {db : Database} {documentId : String} {budget : Nat}

theorem retrieve_eq : retrieveChunksSectionAware db documentId budget =
    sortBy (·.page) (selectedChunks db documentId budget) := rfl

/-- A chunk is chosen if it stands early enough among those of its section. -/
def Chosen (db : Database) (documentId : String) (budget : Nat) (c : PDFChunk) : Prop :=
  c ∈ ((db.chunksByPage documentId).filter (fun d => sectionOf d = sectionOf c)).take
    (retrievedOf db documentId budget (sectionOf c))

theorem Chosen.mem {c : PDFChunk} (h : Chosen db documentId budget c) :
    c ∈ db.chunksByPage documentId := List.mem_of_mem_filter (List.mem_of_mem_take h)

theorem chunks_of_get? {s : String} {chunks : List PDFChunk}
    (h : (chunksBySection db documentId).get? s = some chunks) :
    chunks = (db.chunksByPage documentId).filter (fun d => sectionOf d = s) :=
  Dict.entry_group ((Dict.get?_eq_some_iff _ _ _).mp h)

theorem get?_chunksBySection {c : PDFChunk} (h : c ∈ db.chunksByPage documentId) :
    (chunksBySection db documentId).get? (sectionOf c) =
      some ((db.chunksByPage documentId).filter (fun d => sectionOf d = sectionOf c)) := by
  have hkey : sectionOf c ∈ (chunksBySection db documentId).keys :=
    (Dict.mem_keys_group _ _ _).mpr ⟨c,h,rfl⟩
  obtain ⟨chunks,hchunks⟩ := (Dict.mem_keys_iff _ _).mp hkey
  rw [hchunks, chunks_of_get? hchunks]

theorem mem_selectedChunks {c : PDFChunk} :
    c ∈ selectedChunks db documentId budget ↔ Chosen db documentId budget c := by
  rw [selectedChunks, List.mem_flatMap]
  constructor
  · intro hparts
    obtain ⟨e,he,hc⟩ := hparts
    have hchunks := Dict.entry_group he
    have hsection : sectionOf c = e.1 := by
      have hmem := List.mem_of_mem_take hc
      rw [hchunks] at hmem
      exact of_decide_eq_true (List.mem_filter.mp hmem).2
    rw [hchunks, ← hsection] at hc
    exact hc
  · intro hc
    exact ⟨_,(Dict.get?_eq_some_iff _ _ _).mp (get?_chunksBySection hc.mem),hc⟩

theorem mem_retrieve {c : PDFChunk} :
    c ∈ retrieveChunksSectionAware db documentId budget ↔ Chosen db documentId budget c := by
  rw [retrieve_eq, (sortBy_perm _ _).mem_iff, mem_selectedChunks]

/-- Every section of the document is there in what is retrieved. -/
def RetrievesSections (db : Database) (documentId : String) (budget : Nat) : Prop :=
  ∀ c ∈ db.chunksByPage documentId,
    ∃ d ∈ retrieveChunksSectionAware db documentId budget, sectionOf d = sectionOf c

theorem retrievesSections_iff : RetrievesSections db documentId budget ↔
    KeepsSections (chunksBySection db documentId) budget := by
  constructor
  · intro hretrieves s chunks hchunks hne
    obtain ⟨c,hc⟩ := List.exists_mem_of_ne_nil chunks hne
    rw [chunks_of_get? hchunks, List.mem_filter, decide_eq_true_eq] at hc
    obtain ⟨hc,hsection⟩ := hc
    obtain ⟨d,hd,hsame⟩ := hretrieves c hc
    have hchosen := mem_retrieve.mp hd
    rw [Chosen, hsame, hsection] at hchosen
    exact Nat.pos_of_ne_zero (fun hzero => by simp [retrievedOf, hzero] at hchosen)
  · intro hkeeps c hc
    have hchunks := get?_chunksBySection hc
    have hmem : c ∈ (db.chunksByPage documentId).filter (fun d => sectionOf d = sectionOf c) := by
      simp [hc]
    have hpos := hkeeps _ _ hchunks (List.ne_nil_of_mem hmem)
    cases hfirst : (db.chunksByPage documentId).filter
        (fun d => sectionOf d = sectionOf c) with
    | nil =>
      rw [hfirst] at hmem
      contradiction
    | cons d rest =>
      have hd : d ∈ (db.chunksByPage documentId).filter
          (fun d => sectionOf d = sectionOf c) := by simp [hfirst]
      have hsection : sectionOf d = sectionOf c := of_decide_eq_true (List.mem_filter.mp hd).2
      obtain ⟨n,hn⟩ := Nat.exists_eq_add_of_lt hpos
      refine ⟨d,mem_retrieve.mpr ?_,hsection⟩
      rw [Chosen, hsection, hfirst, retrievedOf, hn, List.take_succ_cons]
      exact List.mem_cons_self

end Retrieved

/-- No section with a chunk goes without one exactly where the budget suffices, whatever the
sections are; and none of a document is left out of what is retrieved exactly where it suffices
for the sections of the document. -/
theorem sectionsKept_iff {α : Type} (bySection : Dict String (List α)) (db : Database)
    (documentId : String) (budget : Nat) :
    (KeepsSections bySection budget ↔ BudgetSuffices bySection budget) ∧
      (RetrievesSections db documentId budget ↔
        BudgetSuffices (chunksBySection db documentId) budget) :=
  ⟨keepsSections_iff,retrievesSections_iff.trans keepsSections_iff⟩

/-- Seven large sections and one chunk on the exchange rates. -/
def crowdedSections : Dict String (List Unit) :=
  ⟨[("營收",List.replicate 12 ()), ("毛利率",List.replicate 10 ()),
    ("營業利益",List.replicate 10 ()), ("管理層展望",List.replicate 10 ()),
    ("淨利",List.replicate 8 ()), ("EPS",List.replicate 8 ()), ("產業展望",List.replicate 6 ()),
    ("匯率影響",[()])],by decide⟩

/-- Of sixty chunks none is left for the exchange rates. -/
theorem crowdedSections_drop : crowdedSections.keys.length ≤ 60 ∧
    (allocateSectionBudget crowdedSections 60).get? "匯率影響" = some 0 ∧
      ¬ KeepsSections crowdedSections 60 := by
  have hnone : (allocateSectionBudget crowdedSections 60).get? "匯率影響" = some 0 := by
    decide +kernel
  refine ⟨by decide,hnone,?_⟩
  intro hkeeps
  have hpos := hkeeps "匯率影響" [()] (by decide +kernel) (List.cons_ne_nil _ _)
  rw [allotted, hnone] at hpos
  exact absurd hpos (Nat.lt_irrefl 0)

end FinancialPdfReader
