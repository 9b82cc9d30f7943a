import FinancialPdfReader.Apis.Rows
import FinancialPdfReader.Services.Classification.Labels

namespace FinancialPdfReader

open Py

/-- Under which document a row was saved: the stock and the period are copied from it. -/
structure SavedUnder (A : Set Row) (documentId stockId period : String) (doc : PDFDocument) :
    Prop where
  onRecord : .document doc ∈ A
  documentId : doc.documentId = documentId
  stockId : doc.stockId = stockId
  period : doc.period = period

section Grounds

variable (files : Files) (A : Set Row)

structure DocumentGrounds (d : PDFDocument) : Prop where
  stockId : d.stockId ≠ ""
  period : d.period ≠ ""
  filePath : ∃ uploadDir fileName, isPdfName fileName = true ∧
    d.filePath = uploadDir ++ "/" ++ d.documentId ++ "_" ++ fileName

/-- A chunk is one of those that its document's file is cut into. -/
def ChunkGrounds (c : PDFChunk) : Prop :=
  ∃ doc, SavedUnder A c.documentId c.stockId c.period doc ∧
    ∃ found ∈ documentChunks files doc, c.content = found.unlabelled

def TableGrounds (t : PDFTable) : Prop :=
  ∃ doc, SavedUnder A t.documentId t.stockId t.period doc ∧ t.content ∈ documentTables files doc

/-- The chunks that a summary says it has used are stored chunks of its document, each once. -/
structure UsedChunks (r : AIReport) (chunks : List PDFChunk) : Prop where
  nonempty : chunks ≠ []
  stored : ∀ c ∈ chunks, .chunk c.unlabelled ∈ A ∧ c.documentId = r.documentId
  distinct : (chunks.map (·.chunkId)).Nodup
  chunksUsed : r.chunksUsed = chunks.map (·.chunkId)
  pagesCovered : r.pagesCovered = pagesCovered chunks

structure ReportGrounds (r : AIReport) : Prop where
  document : ∃ doc, SavedUnder A r.documentId r.stockId r.period doc
  chunks : ∃ chunks, UsedChunks A r chunks
  generated : GeneratedReport r

/-- The page and the words are those of a stored chunk of the document. -/
def QuotesChunk (documentId page quoted : String) : Prop :=
  ∃ c, .chunk c ∈ A ∧ c.documentId = documentId ∧ page = toString c.page ∧
    quoted = take 80 c.text

/-- The document is named exactly where a page is. -/
def NamedWithPage (named page documentId : String) : Prop :=
  named = if page = "" then "" else documentId

/-- What an item of a comparison goes back to: a page that the reply gives of a section that both
documents have, or the first chunk of a section that one of them lacks. -/
inductive ItemGrounds (r : DiffReport) (i : DiffItem String) : Prop where
  | compared (hsection : i.sectionName ∈ r.sectionsCompared)
      (hcurrent : NamedWithPage i.evidence.currentDocumentId i.evidence.currentPage
        r.currentDocumentId)
      (hprevious : NamedWithPage i.evidence.previousDocumentId i.evidence.previousPage
        r.previousDocumentId)
      (hpage : i.evidence.currentPage ≠ "" ∨ i.evidence.previousPage ≠ "")
  | onlyCurrent (hsection : i.sectionName ∈ r.sectionsOnlyCurrent)
      (hcurrent : i.evidence.currentDocumentId = r.currentDocumentId)
      (hquoted : QuotesChunk A r.currentDocumentId i.evidence.currentPage
        i.evidence.currentQuoted)
      (hprevious : i.evidence.previousPage = "")
  | onlyPrevious (hsection : i.sectionName ∈ r.sectionsOnlyPrevious)
      (hprevious : i.evidence.previousDocumentId = r.previousDocumentId)
      (hquoted : QuotesChunk A r.previousDocumentId i.evidence.previousPage
        i.evidence.previousQuoted)
      (hcurrent : i.evidence.currentPage = "")

/-- The sections of a comparison, in whichever of its lists. -/
def DiffReport.listedSections (r : DiffReport) : List String :=
  r.sectionsCompared ++ (r.sectionsOnlyCurrent ++ r.sectionsOnlyPrevious)

/-- Only real sections are listed, and none of them twice. -/
structure ListedOnce (r : DiffReport) : Prop where
  known : ∀ sectionName ∈ r.listedSections, sectionName ∈ sections
  once : r.listedSections.Nodup

structure DiffGrounds (r : DiffReport) : Prop where
  current : ∃ doc, SavedUnder A r.currentDocumentId r.stockId r.currentPeriod doc
  previous : ∃ doc, SavedUnder A r.previousDocumentId r.stockId r.previousPeriod doc
  items : ∀ i ∈ r.items, ItemGrounds A r i
  listed : ListedOnce r

/-- A period of a trend is that of a document with a summary. -/
def PeriodGrounds (documentId period : String) : Prop :=
  ∃ doc report, .document doc ∈ A ∧ .report report ∈ A ∧ doc.documentId = documentId ∧
    report.documentId = documentId ∧ doc.period = period ∧ NoMetricClaims report

structure TrendGrounds (r : TrendReport) : Prop where
  several : 2 ≤ r.documentIds.length
  periods : List.Forall₂ (PeriodGrounds A) r.documentIds r.periods
  sorted : r.periods.Pairwise (· ≤ ·)
  stockId : ∃ doc, .document doc ∈ A ∧ r.documentIds.head? = some doc.documentId ∧
    doc.stockId = r.stockId
  kpiTrends : r.kpiTrends = []
  r7Warning : r.r7Warning = decide (r.documentIds.length < r7MinPeriods)

structure CountedResults (r : PatternRunReport) : Prop where
  triggered : r.triggeredCount = r.results.countP (fun p => p.status == .triggered)
  notTriggered : r.notTriggeredCount = r.results.countP (fun p => p.status == .notTriggered)
  insufficient :
    r.insufficientCount = r.results.countP (fun p => p.status == .insufficientEvidence)

structure PatternRunGrounds (r : PatternRunReport) : Prop where
  document : ∃ doc, SavedUnder A r.documentId r.stockId r.period doc
  report : ∃ report, .report report ∈ A ∧ report.documentId = r.documentId ∧
    r.results = patternRegistry.map (patternResult report.cleanClaims)
  counted : CountedResults r

structure CountedItems (r : DisclosureCoverageReport) : Prop where
  found : r.foundCount = r.items.countP (fun i => i.status == .found)
  foundIncomplete :
    r.foundIncompleteCount = r.items.countP (fun i => i.status == .foundIncomplete)
  notFound : r.notFoundCount = r.items.countP (fun i => i.status == .notFound)
  total : r.totalCount = r.items.length

structure CoverageGrounds (r : DisclosureCoverageReport) : Prop where
  document : ∃ doc, SavedUnder A r.documentId r.stockId r.period doc
  complete : CompleteReport r
  counted : CountedItems r

/-- External data never stands in for the reports themselves. -/
structure RecordGrounds (r : ExternalDataRecord) : Prop where
  isAuxiliary : r.isAuxiliary = true
  dataSource : r.dataSource = "FinMind/TaiwanStockMonthRevenue" ∧ r.dataType = .monthlyRevenue ∨
    r.dataSource = "FinMind/TaiwanStockFinancialStatements" ∧ r.dataType = .financialStatement

/-- Why a row is there: what it names was there before it, and it is made of that. -/
def Justified : Row → Prop
  | .document d => DocumentGrounds d
  | .chunk c => ChunkGrounds files A c
  | .table t => TableGrounds files A t
  | .report r => ReportGrounds A r
  | .diff r => DiffGrounds A r
  | .trend r => TrendGrounds A r
  | .patternRun r => PatternRunGrounds A r
  | .coverage r => CoverageGrounds A r
  | .record r => RecordGrounds r

end Grounds

section Lasting

variable {files : Files} {A B : Set Row}

theorem SavedUnder.mono (hAB : A ⊆ B) {documentId stockId period : String} {doc : PDFDocument}
    (h : SavedUnder A documentId stockId period doc) : SavedUnder B documentId stockId period doc :=
  ⟨hAB h.onRecord,h.documentId,h.stockId,h.period⟩

theorem UsedChunks.mono (hAB : A ⊆ B) {r : AIReport} {chunks : List PDFChunk}
    (h : UsedChunks A r chunks) : UsedChunks B r chunks :=
  ⟨h.nonempty,fun c hc => ⟨hAB (h.stored c hc).1,(h.stored c hc).2⟩,h.distinct,h.chunksUsed,
    h.pagesCovered⟩

theorem QuotesChunk.mono (hAB : A ⊆ B) {documentId page quoted : String}
    (h : QuotesChunk A documentId page quoted) : QuotesChunk B documentId page quoted := by
  obtain ⟨c,hc,hparts⟩ := h
  exact ⟨c,hAB hc,hparts⟩

theorem ItemGrounds.mono (hAB : A ⊆ B) {r : DiffReport} {i : DiffItem String}
    (h : ItemGrounds A r i) : ItemGrounds B r i := by
  cases h with
  | compared hsection hcurrent hprevious hpage =>
    exact .compared hsection hcurrent hprevious hpage
  | onlyCurrent hsection hcurrent hquoted hprevious =>
    exact .onlyCurrent hsection hcurrent (hquoted.mono hAB) hprevious
  | onlyPrevious hsection hprevious hquoted hcurrent =>
    exact .onlyPrevious hsection hprevious (hquoted.mono hAB) hcurrent

theorem PeriodGrounds.mono (hAB : A ⊆ B) {documentId period : String}
    (h : PeriodGrounds A documentId period) : PeriodGrounds B documentId period := by
  obtain ⟨doc,report,hdoc,hreport,hparts⟩ := h
  exact ⟨doc,report,hAB hdoc,hAB hreport,hparts⟩

private theorem savedUnder_mono (hAB : A ⊆ B) {documentId stockId period : String}
    (h : ∃ doc, SavedUnder A documentId stockId period doc) :
    ∃ doc, SavedUnder B documentId stockId period doc := by
  obtain ⟨doc,hdoc⟩ := h
  exact ⟨doc,hdoc.mono hAB⟩

/-- More rows take no reason away. -/
theorem lasting_justified (files : Files) : Archive.Lasting (Justified files) := by
  intro A B row hAB h
  cases row with
  | document d => exact h
  | chunk c =>
    obtain ⟨doc,hdoc,hfound⟩ := h
    exact ⟨doc,hdoc.mono hAB,hfound⟩
  | table t =>
    obtain ⟨doc,hdoc,hfound⟩ := h
    exact ⟨doc,hdoc.mono hAB,hfound⟩
  | report r =>
    have h : ReportGrounds A r := h
    obtain ⟨chunks,hchunks⟩ := h.chunks
    exact ReportGrounds.mk (savedUnder_mono hAB h.document) ⟨chunks,hchunks.mono hAB⟩ h.generated
  | diff r =>
    have h : DiffGrounds A r := h
    exact DiffGrounds.mk (savedUnder_mono hAB h.current) (savedUnder_mono hAB h.previous)
      (fun i hi => (h.items i hi).mono hAB) h.listed
  | trend r =>
    have h : TrendGrounds A r := h
    obtain ⟨doc,hdoc,hfirst⟩ := h.stockId
    exact TrendGrounds.mk h.several (h.periods.imp (fun _ _ => PeriodGrounds.mono hAB)) h.sorted
      ⟨doc,hAB hdoc,hfirst⟩ h.kpiTrends h.r7Warning
  | patternRun r =>
    have h : PatternRunGrounds A r := h
    obtain ⟨report,hreport,hparts⟩ := h.report
    exact PatternRunGrounds.mk (savedUnder_mono hAB h.document) ⟨report,hAB hreport,hparts⟩
      h.counted
  | coverage r =>
    have h : CoverageGrounds A r := h
    exact CoverageGrounds.mk (savedUnder_mono hAB h.document) h.complete h.counted
  | record r => exact h

end Lasting

/-- What grows with every request that is worked off. -/
abbrev Grows (files : Files) (x y : Store) : Prop :=
  Archive.Grows Row.key (Justified files) x.rows y.rows

end FinancialPdfReader
