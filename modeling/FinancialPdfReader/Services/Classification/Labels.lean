import FinancialPdfReader.Algorithms.Grouping
import FinancialPdfReader.Services.Classification.Calls

namespace FinancialPdfReader

open Py

/-- What a chunk or a table can be labelled with. -/
def IsLabel (sectionName : String) : Prop := sectionName ∈ sections ∨ sectionName = "unknown"

/-- A section that is neither empty nor unknown is a real one. -/
theorem IsLabel.mem_sections {sectionName : String} (h : IsLabel sectionName)
    (hknown : sectionName ≠ "unknown") : sectionName ∈ sections := h.resolve_right hknown

section Found

variable {text sectionName : String}

theorem sectionKeywords_sections : sectionKeywords.map (·.1) = sections := by decide

/-- Only sections are scored. -/
theorem mem_sections_of_sectionScores {score : String × Nat} (h : score ∈ sectionScores text) :
    score.1 ∈ sections := by
  obtain ⟨e,he,rfl⟩ := List.mem_map.mp (List.mem_filter.mp h).1
  rw [← sectionKeywords_sections]
  exact List.mem_map_of_mem he

theorem classifyByRule_mem (h : classifyByRule text = some sectionName) :
    sectionName ∈ sections := by
  obtain ⟨count,hscore,-,-⟩ := classifyByRule_best h
  exact mem_sections_of_sectionScores hscore

theorem classifyChunk_isLabel (text : String) : IsLabel (classifyChunk text).1 := by
  rw [classifyChunk]
  split
  · next sectionName hfound => exact .inl (classifyByRule_mem hfound)
  · exact .inr rfl

theorem classifyByLlm_isLabel (reply : ModelText) : IsLabel (classifyByLlm reply) := by
  unfold classifyByLlm
  split
  · split
    · next hlisted => exact .inl (by simpa using hlisted)
    · exact .inr rfl
  · exact .inr rfl

/-- Whatever the model replies, what is saved is a label. -/
theorem classifyChunkWith_isLabel (text : String) (useLlmFallback : Bool) (reply : ModelText) :
    IsLabel (classifyChunkWith text useLlmFallback reply).1 := by
  rw [classifyChunkWith]
  split
  · next sectionName hfound => exact .inl (classifyByRule_mem hfound)
  · split
    · exact classifyByLlm_isLabel reply
    · exact .inr rfl

end Found

section Overrides

variable {db db' : Database} {call call' : OverrideCall}

theorem overrideStep_sectionName (h : overrideStep db call = some (db',call')) :
    call'.sectionName = call.sectionName := by
  rw [overrideStep] at h
  cases hstage : call.stage with
  | called =>
    simp only [hstage] at h
    split at h
    · rw [← (Prod.mk.inj (Option.some.inj h)).2]
    · split at h
      · rw [← (Prod.mk.inj (Option.some.inj h)).2]
      · rw [← (Prod.mk.inj (Option.some.inj h)).2]
  | loaded chunk =>
    simp only [hstage] at h
    rw [← (Prod.mk.inj (Option.some.inj h)).2]
  | returned oldSection => simp [hstage] at h
  | raised error => simp [hstage] at h

/-- A chunk is loaded for a label only. -/
theorem overrideStep_isLabel (h : overrideStep db call = some (db',call')) {chunk : PDFChunk}
    (hloaded : call'.stage = .loaded chunk) : IsLabel call'.sectionName := by
  rw [overrideStep_sectionName h]
  rw [overrideStep] at h
  cases hstage : call.stage with
  | called =>
    simp only [hstage] at h
    split at h
    · rw [← (Prod.mk.inj (Option.some.inj h)).2] at hloaded
      cases hloaded
    · next hvalid =>
      by_contra hnone
      obtain ⟨hunlisted,hknown⟩ := not_or.mp hnone
      exact hvalid (by simp [hunlisted, hknown])
  | loaded other =>
    simp only [hstage] at h
    rw [← (Prod.mk.inj (Option.some.inj h)).2] at hloaded
    cases hloaded
  | returned oldSection => simp [hstage] at h
  | raised error => simp [hstage] at h

end Overrides

section Counted

def methods : List String := ["rule","llm","fallback"]

/-- What `classify_chunk` can return. -/
def IsFound (found : String × String) : Prop := IsLabel found.1 ∧ found.2 ∈ methods

theorem classifyChunkWith_isFound (text : String) (useLlmFallback : Bool) (reply : ModelText) :
    IsFound (classifyChunkWith text useLlmFallback reply) := by
  refine ⟨classifyChunkWith_isLabel text useLlmFallback reply,?_⟩
  rw [classifyChunkWith]
  split
  · simp [methods]
  · split <;> simp [methods]

/-- The counts of a classification add up, by methods and by sections. -/
structure CountsUp (result : ClassificationResult) : Prop where
  methods : result.rule + result.llm + result.fallback = result.totalChunks
  sections : (result.sectionDistribution.map Prod.snd).sum = result.totalChunks
  labels : ∀ e ∈ result.sectionDistribution, IsLabel e.1 ∧ 0 < e.2
  once : (result.sectionDistribution.map Prod.fst).Nodup
  unknown : 0 < result.unknown → ("unknown",result.unknown) ∈ result.sectionDistribution

theorem sectionDistribution_perm (found : List String) : (sectionDistribution found).Perm
    (found.eraseDups.map (fun sectionName => (sectionName,found.count sectionName))) :=
  List.perm_insertionSort _ _

theorem countsUp_classificationResult (documentId : String) {found : List (String × String)}
    (hfound : ∀ f ∈ found, IsFound f) : CountsUp (classificationResult documentId found) := by
  have hperm := sectionDistribution_perm (found.map (·.1))
  refine ⟨?_,?_,?_,?_,?_⟩
  · have hmethods : ∀ m ∈ found.map (·.2), m ∈ FinancialPdfReader.methods := by
      intro m hm
      obtain ⟨f,hf,rfl⟩ := List.mem_map.mp hm
      exact (hfound f hf).2
    have hsum := Grouping.sum_counts_of_mem (by decide) hmethods
    rw [List.length_map] at hsum
    exact Eq.trans (Nat.add_assoc _ _ _) hsum
  · have hsum := Grouping.sum_counts (found.map (·.1))
    rw [List.length_map] at hsum
    change ((sectionDistribution _).map Prod.snd).sum = found.length
    rw [(hperm.map Prod.snd).sum_eq, List.map_map, ← hsum]
    rfl
  · intro e he
    obtain ⟨sectionName,hin,rfl⟩ := List.mem_map.mp (hperm.mem_iff.mp he)
    rw [List.mem_eraseDups] at hin
    obtain ⟨f,hf,rfl⟩ := List.mem_map.mp hin
    exact ⟨(hfound f hf).1,List.count_pos_iff.mpr hin⟩
  · refine (hperm.map Prod.fst).nodup_iff.mpr ?_
    rw [List.map_map]
    exact (List.map_id _).symm ▸ Grouping.nodup_eraseDups _
  · intro hpos
    have hin : "unknown" ∈ (found.map (·.1)).eraseDups :=
      List.mem_eraseDups.mpr (List.count_pos_iff.mp hpos)
    exact hperm.mem_iff.mpr (List.mem_map_of_mem hin)

/-- What a call has found so far are labels, and what it returns is counted from such. -/
def ClassifyCall.Counted (call : ClassifyCall) : Prop :=
  match call.stage with
  | .classifying _ found => ∀ f ∈ found, IsFound f
  | .returned result => CountsUp result
  | _ => True

theorem classifyStep_counted {reply : ModelText} {db db' : Database} {call call' : ClassifyCall}
    (h : classifyStep reply db call = some (db',call')) (hcall : call.Counted) :
    call'.Counted := by
  rw [classifyStep] at h
  cases hstage : call.stage with
  | called =>
    simp only [hstage] at h
    split at h
    · rw [← (Prod.mk.inj (Option.some.inj h)).2]
      trivial
    · rw [← (Prod.mk.inj (Option.some.inj h)).2]
      exact fun f hf => absurd hf List.not_mem_nil
  | classifying todo found =>
    rw [ClassifyCall.Counted, hstage] at hcall
    cases todo with
    | nil =>
      simp only [hstage] at h
      rw [← (Prod.mk.inj (Option.some.inj h)).2]
      exact countsUp_classificationResult call.documentId hcall
    | cons chunk todo =>
      simp only [hstage] at h
      have hlabel := classifyChunkWith_isFound chunk.text call.useLlmFallback reply
      generalize classifyChunkWith chunk.text call.useLlmFallback reply = label at h hlabel
      rw [← (Prod.mk.inj (Option.some.inj h)).2]
      intro f hf
      rcases List.mem_append.mp hf with hold | hnew
      · exact hcall f hold
      · rw [List.mem_singleton.mp hnew]
        exact hlabel
  | returned result => simp [hstage] at h
  | raised error => simp [hstage] at h

theorem classifyFail_counted {message : String} {call call' : ClassifyCall}
    (h : classifyFail message call = some call') : call'.Counted := by
  rw [classifyFail] at h
  split at h
  · rw [← Option.some.inj h]
    trivial
  · rw [← Option.some.inj h]
    trivial
  · contradiction
  · contradiction

end Counted

section Stored

/-- Every stored chunk has a label. -/
def Labelled (db : Database) : Prop := ∀ c ∈ db.pdfChunks, IsLabel c.sectionName

variable {db : Database}

theorem Labelled.saveSection (h : Labelled db) (chunk : PDFChunk) {sectionName : String}
    (hlabel : IsLabel sectionName) :
    Labelled (FinancialPdfReader.saveSection db chunk sectionName) := by
  rw [FinancialPdfReader.saveSection]
  split
  · exact h
  · intro c hc
    rcases mem_setSection hc with ⟨-,hset⟩ | ⟨-,hold⟩
    · rw [hset]
      exact hlabel
    · exact h c hold

theorem Labelled.append (h : Labelled db) {chunk : PDFChunk} (hlabel : IsLabel chunk.sectionName) :
    Labelled { db with pdfChunks := db.pdfChunks ++ [chunk] } := by
  intro c hc
  rcases List.mem_append.mp hc with hold | hnew
  · exact h c hold
  · rw [List.mem_singleton.mp hnew]
    exact hlabel

end Stored

end FinancialPdfReader
