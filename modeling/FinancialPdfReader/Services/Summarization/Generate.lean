import FinancialPdfReader.Python.JsonLoads
import FinancialPdfReader.Services.DashboardContract.Serializer
import FinancialPdfReader.Services.Summarization.DashboardValid
import FinancialPdfReader.Services.Summarization.Guards
import FinancialPdfReader.Services.Summarization.Retrieval

namespace FinancialPdfReader

open Py

def oc1TriggerKeywords : List String :=
  ["迴轉利益","跌價損失","存貨跌價","減損損失","不動產減損","廠房減損"]

def oc1AdjustmentKeywords : List String := ["調整後毛利率","排除此項目"]

def oc2CashKeywords : List String := ["現金","約當現金","cash","cash balance","cash equivalent"]

def oc2DebtKeywords : List String := [
  "短期借款", "長期借款", "一年內到期長期負債", "借款", "流動負債", "公司債", "應付公司債",
  "可轉債", "可轉換公司債", "商業本票", "ECB", "convertible bond", "corporate bond", "應付股利"]

def oc2SafetyKeywords : List String := ["安全墊","現金安全墊","liquidity_safety_margin"]

def checkInvestmentAdvice (text : String) : Bool :=
  anyIn investmentAdviceGuardPhrases (lower text)

def containsAny (text : String) (keywords : List String) : Bool :=
  keywords.any (fun kw => isIn (lower kw) (lower text))

/-- OC-1: non-recurring margin items ask for an adjusted margin. -/
def oc1Warning (claims : List (AIClaim String)) : List String :=
  let triggers := claims.filter (fun c => !c.recurring &&
    (c.sectionKey == .accountingAdjustments || c.sectionKey == .keyFinancials) &&
    anyIn oc1TriggerKeywords c.claim)
  let adjusted := claims.any (fun c => c.claimLevel == .derivedMetric &&
    c.sectionKey == .accountingAdjustments && anyIn oc1AdjustmentKeywords c.claim)
  if !triggers.isEmpty && !adjusted then
    ["OC-1: 存在非常態毛利項目（" ++
      "; ".intercalate ((triggers.take 2).map (fun c => take 30 c.claim)) ++
      "...）但缺少調整後毛利率 derived_metric"]
  else []

def liquidityMentions (claims : List (AIClaim String)) (keywords : List String) : Bool :=
  claims.any (fun c => c.sectionKey == .liquidity && containsAny c.claim keywords)

/-- OC-2: cash beside debt or dividends asks for a safety margin. -/
def oc2Warning (claims : List (AIClaim String)) : List String :=
  let safety := claims.any (fun c => c.claimLevel == .derivedMetric &&
    c.sectionKey == .liquidity && containsAny c.claim oc2SafetyKeywords)
  if liquidityMentions claims oc2CashKeywords && liquidityMentions claims oc2DebtKeywords &&
      !safety then
    ["OC-2: 現金與短借/可轉債/股利並存但缺少現金安全墊 derived_metric（liquidity）"]
  else []

def checkCompleteness (claims : List (AIClaim String)) : List String :=
  oc1Warning claims ++ oc2Warning claims

/-- What became of the call to the model. -/
inductive ModelReply where
  | apiError (typeName message : String)
  | noText (message : String)
  | text (rawText : String)

/-- From the first opening brace to the last closing one. -/
def jsonBlock (rawText : String) : Option String :=
  let cs := rawText.toList
  if cs.contains '{' && cs.contains '}' then
    let jsonStart := cs.idxOf '{'
    let jsonEnd := cs.length - cs.reverse.idxOf '}'
    some (String.ofList ((cs.take jsonEnd).drop jsonStart))
  else none

/-- The decoder's own part of the message is left out. -/
def readReply (reply : ModelReply) : Except PyError (String × Json) :=
  match reply with
  | .apiError typeName message =>
      .error (.runtimeError ("Claude API 錯誤 (" ++ typeName ++ "): " ++ message))
  | .noText message => .error (.runtimeError ("Claude 回傳內容為空或格式不符: " ++ message))
  | .text rawText => match (jsonBlock rawText).bind Json.loads with
    | none => .error (.runtimeError ("Claude 回傳格式無法解析: \n原文: " ++ take 500 rawText))
    | some rawJson => .ok (rawText,rawJson)

structure TemporalValidation where
  temporalConsistent : Json
  temporalNote : Json
  documentPeriod : Json
  requestedPeriod : Json

def unknownTokens : List String := ["","unknown","UNKNOWN","n/a","N/A","null","None"]

/-- `str(requested_period).strip() in _unknown_tokens` -/
def requestedMissing (requestedPeriod : Json) : Bool :=
  unknownTokens.contains (strip requestedPeriod.toStr)

/-- The model's view of the periods; without a requested period there is no mismatch. -/
def validateTemporal (rawJson : Json) (period : String) : Except PyError TemporalValidation := do
  let tv ← rawJson.get "temporal_validation" (.obj [])
  let temporalConsistent ← tv.get "is_consistent" (.bool true)
  let temporalNote ← tv.get "mismatch_note" (.str "")
  let documentPeriod ← tv.get "document_period" (.str period)
  let requestedPeriod ← tv.get "requested_period" (.str period)
  if requestedMissing requestedPeriod then
    pure ⟨.bool true,.str "",documentPeriod,documentPeriod⟩
  else pure ⟨temporalConsistent,temporalNote,documentPeriod,requestedPeriod⟩

def isInsufficient (c : AIClaim String) : Bool := c.claimLevel == .insufficientEvidence

/-- Contaminated claims do not count. -/
def evidenceStatus (cleanClaims : List (AIClaim String)) : EvidenceStatus :=
  let totalClean := cleanClaims.length
  let insufficient := cleanClaims.countP isInsufficient
  if totalClean = 0 then .insufficient
  else if insufficient = 0 then .complete
  else if insufficient < totalClean then .partlyComplete
  else .insufficient

/-- `round(part / total, 2) if total else 0.0`, of the exact quotient: at a half its float may be
rounded the other way (1/40 is 0.03 there and 0.02 here). -/
def density (part total : Nat) : ℚ := if total = 0 then 0 else roundTo 2 (part / total)

def textLength (claims : List (AIClaim String)) : Nat :=
  (claims.map (fun c => c.claim.length)).sum

/-- What the report says of its claims as a whole. -/
structure Assessment where
  evidenceStatus : EvidenceStatus
  narrativeDensityScore : ℚ
  narrativeDensityWeightedScore : ℚ
  narrativeFlag : Bool
  completenessWarnings : List String
  dashboard : DashboardPayload

def assess (claims : List (AIClaim String)) (temporalConsistent : Json) : Assessment :=
  let cleanClaims := claims.filter (fun c => !c.contaminated)
  let nonGap := cleanClaims.filter (fun c => !isInsufficient c)
  let narrative := nonGap.filter (fun c => c.sourceType.isNarrative)
  let score := density narrative.length nonGap.length
  let weighted := density (textLength narrative) (textLength nonGap)
  let flag : Bool := 3/5 < score || 3/5 < weighted
  { evidenceStatus := evidenceStatus cleanClaims
    narrativeDensityScore := score
    narrativeDensityWeightedScore := weighted
    narrativeFlag := flag
    completenessWarnings := checkCompleteness claims
    dashboard := buildDashboardPayload cleanClaims claims temporalConsistent flag score weighted }

/-- `sorted({c.page for c in chunks})` -/
def pagesCovered (chunks : List PDFChunk) : List Nat :=
  ((chunks.map (·.page)).dedup).insertionSort (· ≤ ·)

def ingestedDocument (db : Database) (documentId : String) : Except PyError PDFDocument :=
  match db.document? documentId with
  | none => .error (.valueError ("Document not found: " ++ documentId))
  | some doc =>
      if doc.status = .completed then .ok doc
      else .error (.valueError ("Document not yet ingested (status=" ++ Choices.text doc.status ++
        "). Run /ingest first."))

def ingestedChunks (db : Database) (documentId : String) : Except PyError (List PDFChunk) :=
  let chunks := retrieveChunksSectionAware db documentId 60
  if chunks.isEmpty then .error (.valueError "No chunks found. Run /ingest first.")
  else .ok chunks

theorem mem_pagesCovered {chunks : List PDFChunk} {p : Nat} :
    p ∈ pagesCovered chunks ↔ ∃ c ∈ chunks, c.page = p := by
  rw [pagesCovered, List.mem_insertionSort, List.mem_dedup, List.mem_map]

theorem mem_of_ingestedChunks {db : Database} {documentId : String} {chunks : List PDFChunk}
    (h : ingestedChunks db documentId = .ok chunks) {c : PDFChunk} (hc : c ∈ chunks) :
    c ∈ db.pdfChunks ∧ c.documentId = documentId := by
  rw [ingestedChunks] at h
  split at h
  · contradiction
  · obtain rfl := Except.ok.inj h
    exact mem_of_retrieved hc

/-- The report that a run saves, from what it read and what it found. -/
def summaryReport (reportId : String) (now : Nat) (doc : PDFDocument) (chunks : List PDFChunk)
    (rawText : String) (tv : TemporalValidation) (temporalNote executiveSummary : String)
    (claims : List (AIClaim String)) (dashboardContractErrors : List String) : AIReport :=
  let assessment := assess claims tv.temporalConsistent
  { reportId
    documentId := doc.documentId
    stockId := doc.stockId
    period := doc.period
    temporalConsistent := boolField true tv.temporalConsistent
    temporalNote
    executiveSummary
    narrativeDensityScore := assessment.narrativeDensityScore
    narrativeDensityWeightedScore := assessment.narrativeDensityWeightedScore
    narrativeFlag := assessment.narrativeFlag
    claims
    evidenceStatus := assessment.evidenceStatus
    investmentAdviceDetected := checkInvestmentAdvice rawText
    completenessWarnings := assessment.completenessWarnings
    dashboard := assessment.dashboard.toJson
    dashboardContractValid := dashboardContractErrors.length == 0
    dashboardContractErrors
    chunksUsed := chunks.map (·.chunkId)
    pagesCovered := pagesCovered chunks
    createdAt := now }

/-- `uuid4 i` is drawn for claim `i`, and the one after the last claim for the report. A claim
whose text is no string stops the run: here where the claims are checked, in the code at the
first use of the text or at the latest when the report is saved. -/
def generateSummary (uuid4 : Nat → String) (now : Nat) (reply : ModelReply) (db : Database)
    (documentId : String) : Except PyError (Database × List (String × Json)) := do
  let doc ← ingestedDocument db documentId
  let chunks ← ingestedChunks db documentId
  let (rawText,rawJson) ← readReply reply
  let tv ← validateTemporal rawJson doc.period
  let executiveSummary ← rawJson.get "executive_summary" (.str "")
  let parsed ← parseClaims uuid4 rawJson documentId tv.temporalConsistent.truthy
  let claims ← parsed.mapM AIClaim.validate
  let errors ← validateDashboardContractV1 (assess claims tv.temporalConsistent).dashboard.toJson
  let temporalNote ← validString "temporal_note" (stringField "" tv.temporalNote)
  let summary ← validString "executive_summary" (stringField "" executiveSummary)
  let report := summaryReport (uuid4 parsed.length) now doc chunks rawText tv temporalNote
    summary claims errors
  let saved ← db.saveReport report
  pure (saved,serializeSummaryResponse report tv.documentPeriod tv.requestedPeriod)

/-- The route that shows a saved report; `none` is the answer 404. -/
def getSummary (db : Database) (documentId reportId : String) : Option (List (String × Json)) :=
  (db.report? documentId reportId).map (fun report =>
    serializeSummaryResponse report .null .null ++
      [("created_at",.str (toString report.createdAt))])

end FinancialPdfReader
