import FinancialPdfReader.Apis.Runs

namespace FinancialPdfReader

open Py Pool

variable {files : Files} {s : State Store Call}

theorem newTable_isLabel (tableId documentId : String) (doc : PDFDocument)
    (tableData : TableData) : IsLabel (newTable tableId documentId doc tableData).sectionName := by
  simp only [newTable]
  exact classifyChunk_isLabel (rowsToMarkdown tableData.rows)

theorem documentTables_isLabel {doc : PDFDocument} {t : PDFTable}
    (h : t ∈ documentTables files doc) : IsLabel t.sectionName := by
  rw [documentTables] at h
  split at h
  · obtain ⟨tableData,-,rfl⟩ := List.mem_map.mp h
    exact newTable_isLabel "" doc.documentId doc tableData
  · exact absurd h List.not_mem_nil

/-- Whoever labels, and in whatever order, there are no sections but the ones that are listed. -/
structure SectionsKnown (s : State Store Call) : Prop where
  chunks : Labelled s.shared.db
  tables : ∀ t ∈ s.shared.db.pdfTables, IsLabel t.sectionName
  diffs : ∀ r ∈ s.shared.db.diffReports,
    ListedOnce r ∧ ∀ i ∈ r.items, i.sectionName ∈ r.listedSections
  counts : ∀ call result, .classify call ∈ s.calls → call.stage = .returned result →
    CountsUp result

theorem ItemGrounds.section_listed {A : Set Row} {r : DiffReport} {i : DiffItem String}
    (h : ItemGrounds A r i) : i.sectionName ∈ r.listedSections := by
  rw [DiffReport.listedSections, List.mem_append, List.mem_append]
  cases h with
  | compared hsection => exact .inl hsection
  | onlyCurrent hsection => exact .inr (.inl hsection)
  | onlyPrevious hsection => exact .inr (.inr hsection)

/-- In every state each chunk and each table is of a section of the list or of none, each
comparison goes through sections of the list, none of them twice, and what a classification has
counted adds up. -/
theorem sections_known (hs : Reachable files s) : SectionsKnown s := by
  have hx := hs.holds.inv
  refine ⟨hx.labels,fun t ht => ?_,fun r hr => ?_,fun call result hcall hstage => ?_⟩
  · have hrow : .table t ∈ s.shared.rows := ht
    obtain ⟨doc,-,hfound⟩ : TableGrounds files s.shared.rows t := hx.grounded _ hrow
    exact documentTables_isLabel (t := t.content) hfound
  · have hrow : .diff r ∈ s.shared.rows := hr
    have hgrounds : DiffGrounds s.shared.rows r := hx.grounded _ hrow
    exact ⟨hgrounds.listed,fun i hi => (hgrounds.items i hi).section_listed⟩
  · have hcounted : call.Counted := (hs.holds.sound _ hcall).2
    rw [ClassifyCall.Counted, hstage] at hcounted
    exact hcounted

theorem sections_known_sample : ∃ s t, SampleRun s t ∧ SectionsKnown t ∧
    ∃ c ∈ t.shared.db.pdfChunks, c.chunkId = "u12-3" ∧ IsLabel c.sectionName := by
  obtain ⟨s,t,sample⟩ := sample_run
  have hknown := sections_known (sample.reachable.run sample.run).1
  obtain ⟨c,hc,hid⟩ : ∃ c ∈ t.shared.db.pdfChunks, c.chunkId = "u12-3" := by
    refine List.mem_map.mp ?_
    rw [sample.later]
    simp
  exact ⟨s,t,sample,hknown,c,hc,hid,hknown.chunks c hc⟩

end FinancialPdfReader
