import FinancialPdfReader.Apis.Jobs
import FinancialPdfReader.Services.Classification.Calls
import FinancialPdfReader.Services.StoredRows
import FinancialPdfReader.Concurrency.Archive

namespace FinancialPdfReader

open Py

/-- A document as it was uploaded, whatever has become of its ingestion. -/
def PDFDocument.registered (d : PDFDocument) : PDFDocument :=
  { d with totalPages := 0, status := .uploaded, ingestedAt := none }

/-- A chunk without its section, which may be corrected. -/
def PDFChunk.unlabelled (c : PDFChunk) : PDFChunk := { c with sectionName := "" }

/-- What is never changed once it is saved. -/
inductive Row where
  | document (doc : PDFDocument)
  | chunk (chunk : PDFChunk)
  | table (table : PDFTable)
  | report (report : AIReport)
  | diff (report : DiffReport)
  | trend (report : TrendReport)
  | patternRun (run : PatternRunReport)
  | coverage (report : DisclosureCoverageReport)
  | record (record : ExternalDataRecord)

inductive Collection where
  | documents | chunks | tables | reports | diffs | trends | patternRuns | coverages | records
  deriving DecidableEq

/-- The field that is unique in its collection. -/
def Row.key : Row → Collection × String
  | .document d => (.documents,d.documentId)
  | .chunk c => (.chunks,c.chunkId)
  | .table t => (.tables,t.tableId)
  | .report r => (.reports,r.reportId)
  | .diff r => (.diffs,r.diffReportId)
  | .trend r => (.trends,r.trendReportId)
  | .patternRun r => (.patternRuns,r.runId)
  | .coverage r => (.coverages,r.coverageId)
  | .record r => (.records,r.recordId)

namespace Store

/-- The store as an archive. -/
def rows (x : Store) : Set Row := {row | match row with
  | .document d => d ∈ x.db.pdfDocuments.map PDFDocument.registered
  | .chunk c => c ∈ x.db.pdfChunks.map PDFChunk.unlabelled
  | .table t => t ∈ x.db.pdfTables
  | .report r => r ∈ x.db.aiReports
  | .diff r => r ∈ x.db.diffReports
  | .trend r => r ∈ x.db.trendReports
  | .patternRun r => r ∈ x.patternRuns
  | .coverage r => r ∈ x.coverageReports
  | .record r => r ∈ x.external}

/-- The identifiers that are taken. -/
def ids (x : Store) : Collection → List String
  | .documents => x.db.pdfDocuments.map (·.documentId)
  | .chunks => x.db.pdfChunks.map (·.chunkId)
  | .tables => x.db.pdfTables.map (·.tableId)
  | .reports => x.db.aiReports.map (·.reportId)
  | .diffs => x.db.diffReports.map (·.diffReportId)
  | .trends => x.db.trendReports.map (·.trendReportId)
  | .patternRuns => x.patternRuns.map (·.runId)
  | .coverages => x.coverageReports.map (·.coverageId)
  | .records => x.external.map (·.recordId)

section Members

variable {x : Store}

@[simp] theorem document_mem_rows {d : PDFDocument} :
    .document d ∈ x.rows ↔ d ∈ x.db.pdfDocuments.map PDFDocument.registered := Iff.rfl

@[simp] theorem chunk_mem_rows {c : PDFChunk} :
    .chunk c ∈ x.rows ↔ c ∈ x.db.pdfChunks.map PDFChunk.unlabelled := Iff.rfl

@[simp] theorem table_mem_rows {t : PDFTable} : .table t ∈ x.rows ↔ t ∈ x.db.pdfTables := Iff.rfl

@[simp] theorem report_mem_rows {r : AIReport} : .report r ∈ x.rows ↔ r ∈ x.db.aiReports := Iff.rfl

@[simp] theorem diff_mem_rows {r : DiffReport} :
    .diff r ∈ x.rows ↔ r ∈ x.db.diffReports := Iff.rfl

@[simp] theorem trend_mem_rows {r : TrendReport} :
    .trend r ∈ x.rows ↔ r ∈ x.db.trendReports := Iff.rfl

@[simp] theorem patternRun_mem_rows {r : PatternRunReport} :
    .patternRun r ∈ x.rows ↔ r ∈ x.patternRuns := Iff.rfl

@[simp] theorem coverage_mem_rows {r : DisclosureCoverageReport} :
    .coverage r ∈ x.rows ↔ r ∈ x.coverageReports := Iff.rfl

@[simp] theorem record_mem_rows {r : ExternalDataRecord} :
    .record r ∈ x.rows ↔ r ∈ x.external := Iff.rfl

theorem rows_empty : Store.empty.rows = ∅ := by
  ext row
  cases row <;> simp [Store.empty, Database.empty]

theorem key_mem_ids {row : Row} (h : row ∈ x.rows) : row.key.2 ∈ x.ids row.key.1 := by
  cases row with
  | document d =>
    obtain ⟨d,hd,rfl⟩ := List.mem_map.mp h
    exact List.mem_map_of_mem (f := (·.documentId)) hd
  | chunk c =>
    obtain ⟨c,hc,rfl⟩ := List.mem_map.mp h
    exact List.mem_map_of_mem (f := (·.chunkId)) hc
  | table t => exact List.mem_map_of_mem (f := (·.tableId)) h
  | report r => exact List.mem_map_of_mem (f := (·.reportId)) h
  | diff r => exact List.mem_map_of_mem (f := (·.diffReportId)) h
  | trend r => exact List.mem_map_of_mem (f := (·.trendReportId)) h
  | patternRun r => exact List.mem_map_of_mem (f := (·.runId)) h
  | coverage r => exact List.mem_map_of_mem (f := (·.coverageId)) h
  | record r => exact List.mem_map_of_mem (f := (·.recordId)) h

/-- A document that is found is on record. -/
theorem document_of_document? {documentId : String} {d : PDFDocument}
    (h : x.db.document? documentId = some d) :
    .document d.registered ∈ x.rows ∧ d.documentId = documentId := by
  obtain ⟨hmem,hid⟩ := Database.document?_eq_some h
  exact ⟨List.mem_map_of_mem hmem,hid⟩

end Members

section Additions

variable {x y : Store}

/-- The store has one row more, the last of its collection. -/
structure Adds (x y : Store) (row : Row) : Prop where
  rows : y.rows = insert row x.rows
  ids : ∀ col, y.ids col = if col = row.key.1 then x.ids col ++ [row.key.2] else x.ids col

/-- A new identifier keeps the identifiers apart. -/
theorem Adds.nodup {row : Row} (h : x.Adds y row) (hfresh : row.key.2 ∉ x.ids row.key.1)
    (hx : ∀ col, (x.ids col).Nodup) : ∀ col, (y.ids col).Nodup := by
  intro col
  rw [h.ids]
  split
  · next hcol =>
    rw [hcol]
    exact List.nodup_append_comm.mp (List.nodup_cons.mpr ⟨hfresh,hx _⟩)
  · exact hx col

theorem adds_document (d : PDFDocument) :
    x.Adds { x with db := { x.db with pdfDocuments := x.db.pdfDocuments ++ [d] } }
      (.document d.registered) := by
  constructor
  · ext row
    cases row <;> simp [or_comm, eq_comm]
  · intro col
    cases col <;> simp [ids, Row.key, PDFDocument.registered]

theorem adds_chunk (c : PDFChunk) :
    x.Adds { x with db := { x.db with pdfChunks := x.db.pdfChunks ++ [c] } }
      (.chunk c.unlabelled) := by
  constructor
  · ext row
    cases row <;> simp [or_comm, eq_comm]
  · intro col
    cases col <;> simp [ids, Row.key, PDFChunk.unlabelled]

theorem adds_table (t : PDFTable) :
    x.Adds { x with db := { x.db with pdfTables := x.db.pdfTables ++ [t] } } (.table t) := by
  constructor
  · ext row
    cases row <;> simp [or_comm]
  · intro col
    cases col <;> simp [ids, Row.key]

theorem adds_report (r : AIReport) :
    x.Adds { x with db := { x.db with aiReports := x.db.aiReports ++ [r] } } (.report r) := by
  constructor
  · ext row
    cases row <;> simp [or_comm]
  · intro col
    cases col <;> simp [ids, Row.key]

theorem adds_diff (r : DiffReport) :
    x.Adds { x with db := { x.db with diffReports := x.db.diffReports ++ [r] } } (.diff r) := by
  constructor
  · ext row
    cases row <;> simp [or_comm]
  · intro col
    cases col <;> simp [ids, Row.key]

theorem adds_trend (r : TrendReport) :
    x.Adds { x with db := { x.db with trendReports := x.db.trendReports ++ [r] } } (.trend r) := by
  constructor
  · ext row
    cases row <;> simp [or_comm]
  · intro col
    cases col <;> simp [ids, Row.key]

theorem adds_patternRun (r : PatternRunReport) :
    x.Adds { x with patternRuns := x.patternRuns ++ [r] } (.patternRun r) := by
  constructor
  · ext row
    cases row <;> simp [or_comm]
  · intro col
    cases col <;> simp [ids, Row.key]

theorem adds_coverage (r : DisclosureCoverageReport) :
    x.Adds { x with coverageReports := x.coverageReports ++ [r] } (.coverage r) := by
  constructor
  · ext row
    cases row <;> simp [or_comm]
  · intro col
    cases col <;> simp [ids, Row.key]

theorem adds_record (r : ExternalDataRecord) :
    x.Adds { x with external := x.external ++ [r] } (.record r) := by
  constructor
  · ext row
    cases row <;> simp [or_comm]
  · intro col
    cases col <;> simp [ids, Row.key]

/-- The store has the same rows, under the same identifiers. -/
structure Keeps (x y : Store) : Prop where
  rows : y.rows = x.rows
  ids : ∀ col, y.ids col = x.ids col

theorem Keeps.refl (x : Store) : x.Keeps x := ⟨rfl,fun _ => rfl⟩

/-- What becomes of an ingestion is not part of the record. -/
theorem keeps_saveDocument {f : PDFDocument → PDFDocument}
    (hf : ∀ d, (f d).registered = d.registered) (documentId : String) :
    x.Keeps { x with db := x.db.saveDocument documentId f } := by
  have hsame : (x.db.saveDocument documentId f).pdfDocuments.map PDFDocument.registered =
      x.db.pdfDocuments.map PDFDocument.registered := by
    rw [Database.saveDocument, List.map_map]
    apply List.map_congr_left
    intro d _
    by_cases hid : d.documentId = documentId
    · simp [hid, hf]
    · simp [hid]
  constructor
  · ext row
    cases row with
    | document d => rw [document_mem_rows, hsame, document_mem_rows]
    | chunk | table | report | diff | trend | patternRun | coverage | record => exact Iff.rfl
  · intro col
    cases col with
    | documents =>
      have hids := congrArg (List.map PDFDocument.documentId) hsame
      rw [List.map_map, List.map_map] at hids
      exact hids
    | chunks | tables | reports | diffs | trends | patternRuns | coverages | records => rfl

theorem keeps_saveStatus (doc : PDFDocument) (documentId : String) (status : Status) :
    x.Keeps { x with db := saveStatus x.db doc documentId status } := by
  rw [saveStatus]
  split
  · exact .refl x
  · exact keeps_saveDocument (f := fun d => { d with status }) (fun _ => rfl) documentId

/-- Nor is the section of a chunk. -/
theorem keeps_saveSection (chunk : PDFChunk) (sectionName : String) :
    x.Keeps { x with db := saveSection x.db chunk sectionName } := by
  rw [saveSection]
  split
  · exact .refl x
  · have hsame : (x.db.setSection chunk.chunkId sectionName).pdfChunks.map PDFChunk.unlabelled =
        x.db.pdfChunks.map PDFChunk.unlabelled := by
      rw [setSection_chunks, List.map_map]
      apply List.map_congr_left
      intro c _
      by_cases hid : c.chunkId = chunk.chunkId
      · simp [hid, PDFChunk.unlabelled]
      · simp [hid]
    constructor
    · ext row
      cases row with
      | chunk c => rw [chunk_mem_rows, hsame, chunk_mem_rows]
      | document | table | report | diff | trend | patternRun | coverage | record => exact Iff.rfl
    · intro col
      cases col with
      | chunks => exact setSection_ids x.db chunk.chunkId sectionName
      | documents | tables | reports | diffs | trends | patternRuns | coverages | records => rfl

end Additions

end Store

end FinancialPdfReader
