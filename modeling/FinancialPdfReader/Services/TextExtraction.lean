import FinancialPdfReader.Services.PdfIngestion

namespace FinancialPdfReader

open Py

/-- `str(cell).strip() if cell is not None else ""` -/
def cleanCell : Option String → String
  | none => ""
  | some s => strip s

/-- Filled up or cut off to the width of the header. -/
def padRow (colCount : Nat) (row : List String) : List String :=
  (row ++ List.replicate (colCount - row.length) "").take colCount

/-- `"| " + " | ".join(cells) + " |"` -/
def markdownLine (cells : List String) : List Char :=
  ['|',' '] ++ [' ','|',' '].intercalate (cells.map String.toList) ++ [' ','|']

def rowsToMarkdown (rows : RawTable) : String :=
  match rows.map (·.map cleanCell) with
  | [] => ""
  | header :: data => String.ofList (['\n'].intercalate (markdownLine header ::
      markdownLine (List.replicate header.length "---") ::
      data.map (fun row => markdownLine (padRow header.length row))))

/-- Judged by how far the widths of the rows lie apart. -/
def assessQuality (rows : RawTable) : Quality :=
  if rows.length < 2 then .low
  else
    let colCounts := rows.map List.length
    let maxCols := colCounts.foldl max 0
    let minCols := colCounts.foldl min maxCols
    if (minCols : ℚ) < maxCols * (1/2) then .low
    else if (minCols : ℚ) < maxCols * (4/5) then .medium
    else .high

theorem rowsToMarkdown_ne_empty {rows : RawTable} (h : rows ≠ []) : rowsToMarkdown rows ≠ "" := by
  cases rows with
  | nil => contradiction
  | cons header data =>
    intro hempty
    have hlist := congrArg String.toList hempty
    simp [rowsToMarkdown, markdownLine, List.intercalate_cons_cons] at hlist

structure TableData where
  page : Nat
  tableIndex : Nat
  rows : RawTable
  deriving DecidableEq

/-- The tables of one page that are saved; what has no rows is passed over. -/
def tablesOfPage (page : PdfPage) (pageNum : Nat) : List TableData :=
  match page.extractTables with
  | .error _ => []
  | .ok rawTables => (rawTables.zipIdx.filter (fun (rows,_) =>
      !rows.isEmpty && rowsToMarkdown rows != "")).map (fun (rows,i) => ⟨pageNum,i,rows⟩)

def pageTables (pages : List PdfPage) : List TableData :=
  (pages.zipIdx 1).flatMap (fun (page,pageNum) => tablesOfPage page pageNum)

/-- Pages whose tables cannot be read, and tables that come to nothing. -/
def tablesFailed (pages : List PdfPage) : Nat :=
  (pages.map (fun page => match page.extractTables with
    | .error _ => 1
    | .ok rawTables => rawTables.countP (fun rows =>
        !rows.isEmpty && rowsToMarkdown rows == ""))).sum

def pagesWithTables (pages : List PdfPage) : Nat :=
  pages.countP (fun page => match page.extractTables with
    | .error _ => false
    | .ok rawTables => !rawTables.isEmpty)

private theorem markdown_of_rows (rows : RawTable) :
    (!rows.isEmpty && rowsToMarkdown rows == "") = false := by
  cases hrows : rows with
  | nil => rfl
  | cons header data =>
    have hne : rowsToMarkdown (header :: data) ≠ "" :=
      rowsToMarkdown_ne_empty (List.cons_ne_nil header data)
    rw [Bool.and_eq_false_iff]
    exact Or.inr (beq_false_of_ne hne)

/-- Every table with rows is saved: none comes to nothing once it is written as markdown. -/
theorem tablesOfPage_eq {page : PdfPage} {rawTables : List RawTable}
    (h : page.extractTables = .ok rawTables) (pageNum : Nat) :
    tablesOfPage page pageNum = (rawTables.zipIdx.filter (fun e => !e.1.isEmpty)).map
      (fun e => ⟨pageNum,e.2,e.1⟩) := by
  have hkept : ∀ e ∈ rawTables.zipIdx,
      (!e.1.isEmpty && rowsToMarkdown e.1 != "") = !e.1.isEmpty := by
    intro e _
    have hmarkdown := markdown_of_rows e.1
    cases hempty : e.1.isEmpty with
    | true => rfl
    | false =>
      rw [hempty, Bool.not_false, Bool.true_and] at hmarkdown
      rw [Bool.not_false, Bool.true_and, bne, hmarkdown, Bool.not_false]
  simp only [tablesOfPage, h]
  rw [List.filter_congr hkept]

/-- What fails are whole pages. -/
theorem tablesFailed_eq (pages : List PdfPage) :
    tablesFailed pages = pages.countP (fun page => !page.extractTables.isOk) := by
  induction pages with
  | nil => rfl
  | cons page pages ih =>
    rw [tablesFailed] at ih
    rw [tablesFailed, List.map_cons, List.sum_cons, ih, List.countP_cons]
    cases htables : page.extractTables with
    | error message =>
      simp only [Except.isOk, Except.toBool, Bool.not_false, if_true]
      omega
    | ok rawTables =>
      simp [Except.isOk, Except.toBool, markdown_of_rows]

def newTable (tableId documentId : String) (doc : PDFDocument) (tableData : TableData) :
    PDFTable :=
  let quality := assessQuality tableData.rows
  let tableMarkdown := rowsToMarkdown tableData.rows
  { tableId
    documentId
    stockId := doc.stockId
    period := doc.period
    page := tableData.page
    sectionName := (classifyChunk tableMarkdown).1
    tableIndex := tableData.tableIndex
    tableMarkdown
    rowCount := tableData.rows.length
    colCount := (tableData.rows.headD []).length
    extractionQuality := quality
    requiresHumanReview := quality = .low }

structure ExtractSummary where
  tablesCreated : Nat
  tablesFailed : Nat
  pagesWithTables : Nat
  deriving DecidableEq

/-- How far a call to `extract_tables` has got; before it saves it only reads. -/
inductive ExtractStage where
  | called
  | saving (doc : PDFDocument) (pages : List PdfPage)
  | returned (summary : ExtractSummary)
  | raised (error : PyError)

structure ExtractCall where
  documentId : String
  tablesCreated : Nat
  stage : ExtractStage

def ExtractCall.Completed (call : ExtractCall) : Prop := ∃ summary, call.stage = .returned summary

/-- The next thing a call does to the database. -/
def extractStep (files : Files) (uuid : String) (db : Database) (call : ExtractCall) :
    Option (Database × ExtractCall) :=
  let documentId := call.documentId
  match call.stage with
  | .called => match db.document? documentId with
    | none => some (db,{ call with
        stage := .raised (.valueError ("Document not found: " ++ documentId)) })
    | some doc => match files doc.filePath with
      | none => some (db,{ call with
          stage := .raised (.fileNotFoundError ("PDF file missing: " ++ doc.filePath)) })
      | some (.error message) => some (db,{ call with stage := .raised (.libraryError message) })
      | some (.ok pages) => some (db,{ call with stage := .saving doc pages })
  | .saving doc pages => match (pageTables pages)[call.tablesCreated]? with
    | some tableData => match db.saveTable (newTable uuid documentId doc tableData) with
      | .error _ => none
      | .ok saved => some (saved,{ call with tablesCreated := call.tablesCreated + 1 })
    | none => some (db,{ call with
        stage := .returned ⟨call.tablesCreated,tablesFailed pages,pagesWithTables pages⟩ })
  | .returned _ => none
  | .raised _ => none

/-- Nothing is caught here but what a single page raises. -/
def extractFail (message : String) (db : Database) (call : ExtractCall) :
    Option (Database × ExtractCall) :=
  match call.stage with
  | .saving _ _ => some (db,{ call with stage := .raised (.libraryError message) })
  | _ => none

inductive ExtractMove (files : Files) (db : Database) (call : ExtractCall) :
    Database → ExtractCall → Prop where
  | load (doc : PDFDocument) (pages : List PdfPage) (hstage : call.stage = .called)
      (hdoc : db.document? call.documentId = some doc)
      (hfile : files doc.filePath = some (.ok pages)) :
      ExtractMove files db call db { call with stage := .saving doc pages }
  | save (doc : PDFDocument) (pages : List PdfPage) (tableData : TableData) (uuid : String)
      (hstage : call.stage = .saving doc pages)
      (hnext : (pageTables pages)[call.tablesCreated]? = some tableData)
      (hfresh : ∀ t ∈ db.pdfTables, t.tableId ≠ uuid) :
      ExtractMove files db call
        { db with pdfTables := db.pdfTables ++ [newTable uuid call.documentId doc tableData] }
        { call with tablesCreated := call.tablesCreated + 1 }
  | complete (doc : PDFDocument) (pages : List PdfPage)
      (hstage : call.stage = .saving doc pages)
      (hend : (pageTables pages)[call.tablesCreated]? = none) :
      ExtractMove files db call db { call with
        stage := .returned ⟨call.tablesCreated,tablesFailed pages,pagesWithTables pages⟩ }
  | fail (error : PyError) : ExtractMove files db call db { call with stage := .raised error }

theorem extractStep_move {files : Files} {uuid : String} {db db' : Database}
    {call call' : ExtractCall} (h : extractStep files uuid db call = some (db',call')) :
    ExtractMove files db call db' call' := by
  rw [extractStep] at h
  cases hstage : call.stage with
  | called =>
    simp only [hstage] at h
    cases hdoc : db.document? call.documentId with
    | none =>
      simp only [hdoc] at h
      cases h
      exact .fail _
    | some doc =>
      simp only [hdoc] at h
      cases hfile : files doc.filePath with
      | none =>
        simp only [hfile] at h
        cases h
        exact .fail _
      | some file =>
        cases file with
        | error message =>
          simp only [hfile] at h
          cases h
          exact .fail _
        | ok pages =>
          simp only [hfile] at h
          cases h
          exact .load doc pages hstage hdoc hfile
  | saving doc pages =>
    simp only [hstage] at h
    cases hnext : (pageTables pages)[call.tablesCreated]? with
    | none =>
      simp only [hnext] at h
      cases h
      exact .complete doc pages hstage hnext
    | some tableData =>
      simp only [hnext] at h
      cases hsave : db.saveTable (newTable uuid call.documentId doc tableData) with
      | error e => simp [hsave] at h
      | ok saved =>
        simp only [hsave] at h
        cases h
        obtain ⟨hfresh,rfl⟩ := Database.saveTable_eq_ok hsave
        rw [← hstage]
        exact .save doc pages tableData uuid hstage hnext hfresh
  | returned summary => simp [hstage] at h
  | raised e => simp [hstage] at h

theorem extractFail_move {files : Files} {message : String} {db db' : Database}
    {call call' : ExtractCall} (h : extractFail message db call = some (db',call')) :
    ExtractMove files db call db' call' := by
  rw [extractFail] at h
  split at h
  · cases h
    exact .fail _
  · contradiction

end FinancialPdfReader
