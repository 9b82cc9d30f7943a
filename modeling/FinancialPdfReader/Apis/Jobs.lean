import FinancialPdfReader.Apis.DocumentMeta
import FinancialPdfReader.Concurrency.Programs
import FinancialPdfReader.Services.DataSource
import FinancialPdfReader.Services.DisclosureCoverage
import FinancialPdfReader.Services.SourceClaims
import FinancialPdfReader.Services.Trend
import FinancialPdfReader.Services.Diff
import FinancialPdfReader.Services.Serialized

namespace FinancialPdfReader

open Py RaisingProgram

/-- All collections, those beside the database of the documents and their reports too. -/
structure Store where
  db : Database
  patternRuns : List PatternRunReport
  coverageReports : List DisclosureCoverageReport
  external : ExternalData

def Store.empty : Store := ⟨Database.empty,[],[],[]⟩

/-- A request that looks at the store and saves into it, one collection at a time. -/
abbrev Job := RaisingProgram Store PyError

namespace Job

variable {α : Type}

def lookDb (f : Database → Except PyError α) : Job α := look (fun x => f x.db)

/-- An identifier that is taken is refused: the job cannot go on, only fail. -/
def saveDb (f : Database → Except PyError Database) : Job Unit :=
  save (fun x => (fun db => { x with db }) <$> f x.db)

def savePatternRun (run : PatternRunReport) : Job Unit :=
  save (fun x => (fun patternRuns => { x with patternRuns }) <$>
    Database.saveNew x.patternRuns (·.runId) "run_id" run)

def saveCoverage (report : DisclosureCoverageReport) : Job Unit :=
  save (fun x => (fun coverageReports => { x with coverageReports }) <$>
    Database.saveNew x.coverageReports (·.coverageId) "coverage_id" report)

def saveRecord (record : ExternalDataRecord) : Job Unit :=
  save (fun x => (fun external => { x with external }) <$>
    Database.saveNew x.external (·.recordId) "record_id" record)

end Job

section Upload

structure UploadForm where
  fileName : String
  stockId : String
  companyName : String
  period : String
  documentType : String
  industryType : String

def documentTypes : List String := ["quarterly_report","annual_report","earnings_release"]

def industryTypes : List String := ["general","cdmo","semiconductor"]

def validUpload (form : UploadForm) : Except PyError Unit :=
  if !documentTypes.contains form.documentType then .error (.validationError "document_type")
  else if !industryTypes.contains form.industryType then
    .error (.validationError "industry_type")
  else .ok ()

/-- What is put on record of an upload; the file goes under a name that begins with the new
identifier. -/
def uploadedDocument (uploadDir documentId : String) (form : UploadForm) : PDFDocument :=
  let (stockId,_,period) :=
    inferDocumentMeta form.fileName form.stockId form.companyName form.period
  { documentId
    stockId
    period
    filePath := uploadDir ++ "/" ++ documentId ++ "_" ++ form.fileName
    totalPages := 0
    status := .uploaded
    ingestedAt := none }

def saveNewDocument (db : Database) (doc : PDFDocument) : Except PyError Database :=
  (fun pdfDocuments => { db with pdfDocuments }) <$>
    Database.saveNew db.pdfDocuments (·.documentId) "document_id" doc

/-- `disk` is what comes of writing the file. -/
def saveUpload (uploadDir documentId : String) (disk : Except PyError Unit) (form : UploadForm)
    (db : Database) : Except PyError Database := do
  disk
  validUpload form
  saveNewDocument db (uploadedDocument uploadDir documentId form)

def isPdfName (fileName : String) : Bool := ".pdf".toList.isSuffixOf fileName.toList

end Upload

/-- What a route answers when nothing was raised; it may refuse a request itself. -/
inductive Answer where
  | refused (detail : String)
  | uploaded (documentId : String)
  | summary (fields : Payload)
  | diff (fields : Payload)
  | trend (fields : Payload)
  | patterns (run : PatternRunReport) (views : List PatternView)
  | coverage (fields : Payload)
  | fetched (rows : List Json)

section Parts

/-- What a summary saves and answers, from what it has read. -/
def summaryOf (uuid4 : Nat → String) (now : Nat) (reply : ModelReply) (documentId : String)
    (doc : PDFDocument) (chunks : List PDFChunk) :
    Except PyError (AIReport × List (String × Json)) := do
  let (rawText,rawJson) ← readReply reply
  let tv ← validateTemporal rawJson doc.period
  let executiveSummary ← rawJson.get "executive_summary" (.str "")
  let parsed ← parseClaims uuid4 rawJson documentId tv.temporalConsistent.truthy
  let claims ← parsed.mapM AIClaim.validate
  let errors ← validateDashboardContractV1 (assess claims tv.temporalConsistent).dashboard.toJson
  let temporalNote ← validString "temporal_note" (stringField "" tv.temporalNote)
  let summary ← validString "executive_summary" (stringField "" executiveSummary)
  let report := summaryReport (uuid4 parsed.length) now doc chunks rawText tv temporalNote
    summary claims errors
  pure (report,serializeSummaryResponse report tv.documentPeriod tv.requestedPeriod)

abbrev SectionChunks := Dict String (List PDFChunk)

/-- The two documents of a comparison, once both were looked for. -/
def comparedPair (currentDocumentId previousDocumentId : String) :
    (current previous : Option PDFDocument) → Except PyError (PDFDocument × PDFDocument)
  | none, _ => .error (.valueError ("Current document not found: " ++ currentDocumentId))
  | some _, none => .error (.valueError ("Previous document not found: " ++ previousDocumentId))
  | some current, some previous =>
      if current.stockId ≠ previous.stockId then
        .error (.valueError ("Stock ID mismatch: " ++ current.stockId ++ " vs " ++
          previous.stockId ++ ". Diff must compare same company."))
      else if current.status ≠ .completed || previous.status ≠ .completed then
        .error (.valueError
          "Both documents must be ingested (status=completed) before diff.")
      else .ok (current,previous)

def sharedOf (current previous : SectionChunks) : List String :=
  sortTexts (current.keys.filter (fun s => previous.keys.contains s))

def onlyOf (these others : SectionChunks) : List (String × List PDFChunk) :=
  these.entries.filter (fun e => !others.keys.contains e.1)

/-- What a comparison saves, from what it has read. -/
def diffOf (uuid4 : String → Nat → String) (now : Nat) (reply : String → SectionReply)
    (currentDocumentId previousDocumentId : String) (current previous : PDFDocument)
    (currentBySection previousBySection : SectionChunks) : Except PyError DiffReport := do
  let shared := sharedOf currentBySection previousBySection
  let onlyCurrent := onlyOf currentBySection previousBySection
  let onlyPrevious := onlyOf previousBySection currentBySection
  let allItems :=
    sharedItems uuid4 reply currentDocumentId previousDocumentId shared ++
    onlyItems (fun s => onlyCurrentItem (uuid4 s 0) currentDocumentId s) onlyCurrent ++
    onlyItems (fun s => onlyPreviousItem (uuid4 s 0) previousDocumentId s) onlyPrevious
  let items ← allItems.mapM DiffItem.validate
  pure {
    diffReportId := uuid4 "" 0
    currentDocumentId
    previousDocumentId
    stockId := current.stockId
    currentPeriod := current.period
    previousPeriod := previous.period
    items
    sectionsCompared := shared
    sectionsOnlyCurrent := sortTexts (onlyCurrent.map Prod.fst)
    sectionsOnlyPrevious := sortTexts (onlyPrevious.map Prod.fst)
    requiresHumanReview := true
    createdAt := now }

def trendDocument (documentId : String) (db : Database) : Except PyError PDFDocument :=
  match db.document? documentId with
  | none => .error (.valueError ("Document not found: " ++ documentId))
  | some doc => .ok doc

def trendSource (documentId : String) (db : Database) : Except PyError AIReport :=
  match db.latestReport? documentId with
  | none => .error (.valueError
      ("AIReport not found for document: " ++ documentId ++ " — 請先執行 /summary"))
  | some report => .ok report

def entryOf (documentId : String) (doc : PDFDocument) (report : AIReport) : PeriodEntry :=
  ⟨documentId,if doc.period = "" then "UNKNOWN" else doc.period,report.dashboard.orElse (.obj [])⟩

def analysedDocument (documentId : String) (db : Database) : Except PyError PDFDocument :=
  match db.document? documentId with
  | none => .error (.valueError ("Document not found: " ++ documentId))
  | some doc =>
      if doc.status ≠ .completed then
        .error (.valueError ("Document " ++ documentId ++ " not ingested (status=" ++
          Choices.text doc.status ++ ")"))
      else .ok doc

def analysedReport (documentId : String) (db : Database) : Except PyError AIReport :=
  match db.latestReport? documentId with
  | none => .error (.valueError "No AIReport found for this document. Run /summary first.")
  | some report => .ok report

/-- The claims that the patterns look at. -/
def AIReport.cleanClaims (report : AIReport) : List (AIClaim String) :=
  report.claims.filter (fun c => !c.contaminated)

def patternRunOf (runId : String) (now : Nat) (documentId : String) (doc : PDFDocument)
    (report : AIReport) : PatternRunReport :=
  let results := patternRegistry.map (patternResult report.cleanClaims)
  { runId
    documentId
    stockId := doc.stockId
    period := doc.period
    results
    triggeredCount := results.countP (fun r => r.status == .triggered)
    notTriggeredCount := results.countP (fun r => r.status == .notTriggered)
    insufficientCount := results.countP (fun r => r.status == .insufficientEvidence)
    createdAt := now }

def patternViews (report : AIReport) (run : PatternRunReport) : List PatternView :=
  run.results.map (fun r => {
    result := r
    sourceClaims := r.sourceClaimIds.map (sourceClaim report.cleanClaims) })

/-- What an audit of the disclosures saves, from what it has read. -/
def coverageFrom (coverageId : String) (now : Nat) (reply : Except PyError String)
    (documentId : String) (doc : PDFDocument) : Except PyError DisclosureCoverageReport := do
  let rawText ← reply
  let rawJson ← readCoverage rawText
  let drafts ← coverageDrafts rawJson
  let items ← drafts.mapM CoverageDraft.validate
  pure (coverageReport coverageId now doc documentId drafts items)

end Parts

section Routes

open Job

def uploadDocument (uploadDir documentId : String) (disk : Except PyError Unit)
    (form : UploadForm) : Job Answer :=
  if !isPdfName form.fileName then pure (.refused "只接受 PDF 檔案")
  else do
    give disk
    give (validUpload form)
    saveDb (fun db => saveNewDocument db (uploadedDocument uploadDir documentId form))
    pure (.uploaded documentId)

def createSummary (uuid4 : Nat → String) (now : Nat) (reply : ModelReply)
    (documentId : String) : Job Answer := do
  let doc ← lookDb (ingestedDocument · documentId)
  let chunks ← lookDb (ingestedChunks · documentId)
  let (report,fields) ← give (summaryOf uuid4 now reply documentId doc chunks)
  saveDb (·.saveReport report)
  pure (.summary fields)

def createDiffReport (uuid4 : String → Nat → String) (now : Nat) (reply : String → SectionReply)
    (currentDocumentId previousDocumentId : String) : Job Answer := do
  let current ← lookDb (fun db => .ok (db.document? currentDocumentId))
  let previous ← lookDb (fun db => .ok (db.document? previousDocumentId))
  let (currentDoc,previousDoc) ←
    give (comparedPair currentDocumentId previousDocumentId current previous)
  let currentBySection ← lookDb (fun db => .ok (getSectionChunks db currentDocumentId))
  let previousBySection ← lookDb (fun db => .ok (getSectionChunks db previousDocumentId))
  let report ← give (diffOf uuid4 now reply currentDocumentId previousDocumentId currentDoc
    previousDoc currentBySection previousBySection)
  saveDb (·.saveDiffReport report)
  pure (.diff report.serialize)

/-- One turn of the loop that gathers the periods. -/
def gatherPeriod (documentId : String) : Job PeriodEntry := do
  let doc ← lookDb (trendDocument documentId)
  let report ← lookDb (trendSource documentId)
  pure (entryOf documentId doc report)

def createTrendReport (trendReportId : String) (now : Nat) (documentIds kpiList : List String) :
    Job Answer :=
  if documentIds.length < 2 then pure (.refused "至少需要 2 份文件才能產生趨勢")
  else do
    let found ← documentIds.mapM gatherPeriod
    let entries := found.insertionSort (fun a b => a.period ≤ b.period)
    let points ← give
      (entries.mapM (fun e => extractKpiPoints e.documentId e.period e.dashboard))
    let report ← lookDb (fun db => .ok (trendReport trendReportId now db kpiList entries points))
    saveDb (·.saveTrendReport report)
    pure (.trend report.serialize)

def runPatterns (runId : String) (now : Nat) (documentId : String) : Job Answer := do
  let doc ← lookDb (analysedDocument documentId)
  let report ← lookDb (analysedReport documentId)
  let run := patternRunOf runId now documentId doc report
  savePatternRun run
  pure (.patterns run (patternViews report run))

def createDisclosureCoverage (coverageId : String) (now : Nat) (reply : Except PyError String)
    (documentId : String) : Job Answer := do
  let doc ← lookDb (auditedDocument · documentId)
  let _ ← lookDb (auditedChunks · documentId)
  let report ← give (coverageFrom coverageId now reply documentId doc)
  saveCoverage report
  pure (.coverage (coverageAnswer report))

/-- The loop over the rows of an answer: a row is saved before the caller's part of it is read. -/
def fetchLoop (record : Stamp → Json → Except PyError ExternalDataRecord) (columns : List String)
    (stamps : Nat → Stamp) : List (Json × Nat) → Job (List Json)
  | [] => pure []
  | (row,i) :: rows => do
      let kept ← give (record (stamps i) row)
      saveRecord kept
      let entry ← give (shownRow columns row)
      let rest ← fetchLoop record columns stamps rows
      pure (entry :: rest)

def fetchJob (fetched : Except PyError (List Json))
    (record : Stamp → Json → Except PyError ExternalDataRecord) (columns : List String)
    (stamps : Nat → Stamp) : Job Answer := do
  let rows ← give fetched
  let shown ← fetchLoop record columns stamps rows.zipIdx
  pure (.fetched shown)

def fetchRevenue (api : FinMind) (stamps : Nat → Stamp) (stockId period : String) : Job Answer :=
  fetchJob (fetchRows api stockId period "TaiwanStockMonthRevenue") (revenueRecord stockId)
    ["date","revenue","revenue_month","revenue_year"] stamps

def fetchFinancials (api : FinMind) (stamps : Nat → Stamp) (stockId period : String) :
    Job Answer :=
  fetchJob (fetchRows api stockId period "TaiwanStockFinancialStatements")
    (statementRecord stockId period) ["date","type","value","origin_name"] stamps

/-- A request that is worked off as a job, with all that decides what it does. -/
inductive JobRequest where
  | upload (uploadDir documentId : String) (disk : Except PyError Unit) (form : UploadForm)
  | summary (uuid4 : Nat → String) (now : Nat) (reply : ModelReply) (documentId : String)
  | diff (uuid4 : String → Nat → String) (now : Nat) (reply : String → SectionReply)
      (currentDocumentId previousDocumentId : String)
  | trend (trendReportId : String) (now : Nat) (documentIds kpiList : List String)
  | patterns (runId : String) (now : Nat) (documentId : String)
  | coverage (coverageId : String) (now : Nat) (reply : Except PyError String)
      (documentId : String)
  | revenue (api : FinMind) (stamps : Nat → Stamp) (stockId period : String)
  | financials (api : FinMind) (stamps : Nat → Stamp) (stockId period : String)

def JobRequest.job : JobRequest → Job Answer
  | .upload uploadDir documentId disk form => uploadDocument uploadDir documentId disk form
  | .summary uuid4 now reply documentId => createSummary uuid4 now reply documentId
  | .diff uuid4 now reply currentDocumentId previousDocumentId =>
      createDiffReport uuid4 now reply currentDocumentId previousDocumentId
  | .trend trendReportId now documentIds kpiList =>
      createTrendReport trendReportId now documentIds kpiList
  | .patterns runId now documentId => runPatterns runId now documentId
  | .coverage coverageId now reply documentId =>
      createDisclosureCoverage coverageId now reply documentId
  | .revenue api stamps stockId period => fetchRevenue api stamps stockId period
  | .financials api stamps stockId period => fetchFinancials api stamps stockId period

end Routes

end FinancialPdfReader
