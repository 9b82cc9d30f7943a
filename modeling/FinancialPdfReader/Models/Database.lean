import FinancialPdfReader.Models.Documents
import FinancialPdfReader.Models.Reports
import FinancialPdfReader.Models.Trends
import Mathlib.Data.List.Sort

namespace FinancialPdfReader

open Py

/-- The collections, each in the order in which its documents were saved. -/
structure Database where
  pdfDocuments : List PDFDocument
  pdfChunks : List PDFChunk
  pdfTables : List PDFTable
  aiReports : List AIReport
  diffReports : List DiffReport
  trendReports : List TrendReport

namespace Database

def empty : Database := ⟨[],[],[],[],[],[]⟩

def document? (db : Database) (documentId : String) : Option PDFDocument :=
  db.pdfDocuments.find? (fun d => d.documentId = documentId)

def chunksOf (db : Database) (documentId : String) : List PDFChunk :=
  db.pdfChunks.filter (fun c => c.documentId = documentId)

def tablesOf (db : Database) (documentId : String) : List PDFTable :=
  db.pdfTables.filter (fun t => t.documentId = documentId)

/-- `.order_by("page")`; chunks of one page stay in the order in which they were saved. -/
def chunksByPage (db : Database) (documentId : String) : List PDFChunk :=
  (db.chunksOf documentId).insertionSort (fun a b => a.page ≤ b.page)

def report? (db : Database) (documentId reportId : String) : Option AIReport :=
  db.aiReports.find? (fun r => r.reportId = reportId && r.documentId = documentId)

/-- `.order_by("-created_at").first()` -/
def latestReport? (db : Database) (documentId : String) : Option AIReport :=
  ((db.aiReports.filter (fun r => r.documentId = documentId)).insertionSort
    (fun a b => b.createdAt ≤ a.createdAt)).head?

def diffReport? (db : Database) (diffReportId : String) : Option DiffReport :=
  db.diffReports.find? (fun r => r.diffReportId = diffReportId)

/-- A new document goes to the end of its collection; one whose unique field is taken is
refused. -/
def saveNew {α : Type} (rows : List α) (key : α → String) (field : String) (row : α) :
    Except PyError (List α) :=
  if rows.any (fun s => key s = key row) then .error (.notUniqueError field)
  else .ok (rows ++ [row])

def saveReport (db : Database) (r : AIReport) : Except PyError Database :=
  (fun rows => { db with aiReports := rows }) <$> saveNew db.aiReports (·.reportId) "report_id" r

def saveDiffReport (db : Database) (r : DiffReport) : Except PyError Database :=
  (fun rows => { db with diffReports := rows }) <$>
    saveNew db.diffReports (·.diffReportId) "diff_report_id" r

def saveTrendReport (db : Database) (r : TrendReport) : Except PyError Database :=
  (fun rows => { db with trendReports := rows }) <$>
    saveNew db.trendReports (·.trendReportId) "trend_report_id" r

def saveChunk (db : Database) (c : PDFChunk) : Except PyError Database :=
  (fun rows => { db with pdfChunks := rows }) <$> saveNew db.pdfChunks (·.chunkId) "chunk_id" c

def saveTable (db : Database) (t : PDFTable) : Except PyError Database :=
  (fun rows => { db with pdfTables := rows }) <$> saveNew db.pdfTables (·.tableId) "table_id" t

/-- `doc.save()`: only the fields that were set are written. -/
def saveDocument (db : Database) (documentId : String) (f : PDFDocument → PDFDocument) :
    Database :=
  let updated := db.pdfDocuments.map (fun d => if d.documentId = documentId then f d else d)
  { db with pdfDocuments := updated }

theorem saveNew_eq_ok {α : Type} {rows rows' : List α} {key : α → String} {field : String}
    {row : α} : saveNew rows key field row = .ok rows' ↔
      (∀ s ∈ rows, key s ≠ key row) ∧ rows' = rows ++ [row] := by
  have htaken : rows.any (fun s => key s = key row) = false ↔ ∀ s ∈ rows, key s ≠ key row := by
    simp
  rw [saveNew, ← htaken]
  cases rows.any (fun s => key s = key row) with
  | true => simp
  | false => simp [eq_comm]

theorem saveReport_eq_ok {db db' : Database} {r : AIReport}
    (h : db.saveReport r = .ok db') :
    (∀ s ∈ db.aiReports, s.reportId ≠ r.reportId) ∧
      db' = { db with aiReports := db.aiReports ++ [r] } := by
  obtain ⟨rows,hrows,rfl⟩ := map_eq_ok.mp h
  obtain ⟨hfresh,rfl⟩ := saveNew_eq_ok.mp hrows
  exact ⟨hfresh,rfl⟩

theorem saveDiffReport_eq_ok {db db' : Database} {r : DiffReport}
    (h : db.saveDiffReport r = .ok db') :
    (∀ s ∈ db.diffReports, s.diffReportId ≠ r.diffReportId) ∧
      db' = { db with diffReports := db.diffReports ++ [r] } := by
  obtain ⟨rows,hrows,rfl⟩ := map_eq_ok.mp h
  obtain ⟨hfresh,rfl⟩ := saveNew_eq_ok.mp hrows
  exact ⟨hfresh,rfl⟩

theorem saveTrendReport_eq_ok {db db' : Database} {r : TrendReport} :
    db.saveTrendReport r = .ok db' ↔
      (∀ t ∈ db.trendReports, t.trendReportId ≠ r.trendReportId) ∧
        db' = { db with trendReports := db.trendReports ++ [r] } := by
  constructor
  · intro h
    obtain ⟨rows,hrows,rfl⟩ := map_eq_ok.mp h
    obtain ⟨hfresh,rfl⟩ := saveNew_eq_ok.mp hrows
    exact ⟨hfresh,rfl⟩
  · intro hparts
    obtain ⟨hfresh,rfl⟩ := hparts
    exact map_eq_ok.mpr ⟨_,saveNew_eq_ok.mpr ⟨hfresh,rfl⟩,rfl⟩

theorem saveChunk_eq_ok {db db' : Database} {c : PDFChunk}
    (h : db.saveChunk c = .ok db') :
    (∀ s ∈ db.pdfChunks, s.chunkId ≠ c.chunkId) ∧
      db' = { db with pdfChunks := db.pdfChunks ++ [c] } := by
  obtain ⟨rows,hrows,rfl⟩ := map_eq_ok.mp h
  obtain ⟨hfresh,rfl⟩ := saveNew_eq_ok.mp hrows
  exact ⟨hfresh,rfl⟩

theorem saveTable_eq_ok {db db' : Database} {t : PDFTable}
    (h : db.saveTable t = .ok db') :
    (∀ s ∈ db.pdfTables, s.tableId ≠ t.tableId) ∧
      db' = { db with pdfTables := db.pdfTables ++ [t] } := by
  obtain ⟨rows,hrows,rfl⟩ := map_eq_ok.mp h
  obtain ⟨hfresh,rfl⟩ := saveNew_eq_ok.mp hrows
  exact ⟨hfresh,rfl⟩

theorem document?_eq_some {db : Database} {documentId : String} {d : PDFDocument}
    (h : db.document? documentId = some d) :
    d ∈ db.pdfDocuments ∧ d.documentId = documentId :=
  ⟨List.mem_of_find?_eq_some h,by simpa using List.find?_some h⟩

theorem report?_eq_some {db : Database} {documentId reportId : String} {r : AIReport}
    (h : db.report? documentId reportId = some r) :
    r ∈ db.aiReports ∧ r.documentId = documentId := by
  have hfound := List.find?_some h
  rw [Bool.and_eq_true, decide_eq_true_eq, decide_eq_true_eq] at hfound
  exact ⟨List.mem_of_find?_eq_some h,hfound.2⟩

/-- A document that is saved again is still found, with what was set. -/
theorem document?_saveDocument {f : PDFDocument → PDFDocument}
    (hf : ∀ d, (f d).documentId = d.documentId) (db : Database) (savedId documentId : String) :
    (db.saveDocument savedId f).document? documentId =
      (db.document? documentId).map (fun d => if d.documentId = savedId then f d else d) := by
  have hsame : ((fun d => decide (d.documentId = documentId)) ∘
      fun d => if d.documentId = savedId then f d else d) =
      fun d => decide (d.documentId = documentId) := by
    funext d
    by_cases h : d.documentId = savedId
    · simp [h, hf]
    · simp [h]
  rw [document?, saveDocument, List.find?_map, hsame]
  rfl

/-- A report is found again once saved, and stays found whatever is saved after it. -/
theorem report?_append {db : Database} {r : AIReport} {later : List AIReport}
    (hfresh : ∀ s ∈ db.aiReports, s.reportId ≠ r.reportId) :
    { db with aiReports := db.aiReports ++ r :: later }.report? r.documentId r.reportId =
      some r := by
  have hnone : db.aiReports.find?
      (fun s => s.reportId = r.reportId && s.documentId = r.documentId) = none := by
    rw [List.find?_eq_none]
    intro s hs
    simp [hfresh s hs]
  simp [report?, List.find?_append, hnone]

theorem diffReport?_append {db : Database} {r : DiffReport}
    (hfresh : ∀ s ∈ db.diffReports, s.diffReportId ≠ r.diffReportId) :
    { db with diffReports := db.diffReports ++ [r] }.diffReport? r.diffReportId = some r := by
  have hnone : db.diffReports.find? (fun s => s.diffReportId = r.diffReportId) = none := by
    rw [List.find?_eq_none]
    intro s hs
    simp [hfresh s hs]
  simp [diffReport?, List.find?_append, hnone]

theorem mem_chunksByPage {db : Database} {documentId : String} {c : PDFChunk} :
    c ∈ db.chunksByPage documentId ↔ c ∈ db.pdfChunks ∧ c.documentId = documentId := by
  rw [chunksByPage, List.mem_insertionSort, chunksOf, List.mem_filter]
  simp

end Database

end FinancialPdfReader
