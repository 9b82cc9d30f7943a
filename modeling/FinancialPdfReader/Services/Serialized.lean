import FinancialPdfReader.Models.Database
import FinancialPdfReader.Services.DashboardContract.Serializer
import FinancialPdfReader.Services.ReasoningPatterns

namespace FinancialPdfReader

open Py

/-- What the routes answer of a stored report. -/
abbrev Payload := List (String × Json)

section Diff

def DiffItem.serialize (i : DiffItem String) : Json := .obj [
  ("diff_id",.str i.diffId), ("section",.str i.sectionName),
  ("diff_type",.str (Choices.text i.diffType)), ("description",.str i.description),
  ("current_summary",.str i.currentSummary), ("previous_summary",.str i.previousSummary),
  ("tone_only",.bool i.toneOnly), ("requires_human_review",.bool i.requiresHumanReview),
  ("evidence",.obj [
    ("current_page",.str i.evidence.currentPage),
    ("current_quoted",.str i.evidence.currentQuoted),
    ("previous_page",.str i.evidence.previousPage),
    ("previous_quoted",.str i.evidence.previousQuoted),
    ("presence",.str (Choices.text i.evidence.presence))])]

/-- `_serialize_report` -/
def DiffReport.serialize (r : DiffReport) : Payload := [
  ("diff_report_id",.str r.diffReportId), ("stock_id",.str r.stockId),
  ("current_period",.str r.currentPeriod), ("previous_period",.str r.previousPeriod),
  ("sections_compared",jsonTexts r.sectionsCompared),
  ("sections_only_current",jsonTexts r.sectionsOnlyCurrent),
  ("sections_only_previous",jsonTexts r.sectionsOnlyPrevious),
  ("total_items",.int r.items.length),
  ("requires_human_review",.bool r.requiresHumanReview),
  ("items",.arr (r.items.map DiffItem.serialize))]

/-- The route that shows a comparison; `none` is the answer 404. -/
def getDiffReport (db : Database) (diffReportId : String) : Option Payload :=
  (db.diffReport? diffReportId).map DiffReport.serialize

end Diff

section Trend

def TrendPoint.serialize (p : TrendPoint) : Json := .obj [
  ("period",.str p.period), ("document_id",.str p.documentId), ("direction",p.direction),
  ("delta_pct",p.deltaPct), ("claim_text",p.claimText), ("source_claim_id",p.sourceClaimId),
  ("governance_flags",jsonTexts p.governanceFlags)]

/-- `_serialize` -/
def TrendReport.serialize (r : TrendReport) : Payload := [
  ("trend_report_id",.str r.trendReportId), ("stock_id",.str r.stockId),
  ("document_ids",jsonTexts r.documentIds), ("periods",jsonTexts r.periods),
  ("kpi_trends",.arr (r.kpiTrends.map (fun e => .obj [
    ("metric_id",.str e.1), ("points",.arr (e.2.map TrendPoint.serialize))]))),
  ("r7_warning",.bool r.r7Warning), ("governance_flags",jsonTexts r.governanceFlags),
  ("created_at",.str (toString r.createdAt))]

def trendReport? (db : Database) (trendReportId : String) : Option TrendReport :=
  db.trendReports.find? (fun r => r.trendReportId = trendReportId)

def getTrend (db : Database) (trendReportId : String) : Except PyError Payload :=
  match trendReport? db trendReportId with
  | none => .error (.valueError ("TrendReport not found: " ++ trendReportId))
  | some report => .ok report.serialize

end Trend

section Patterns

def PatternStatus.text : PatternStatus → String
  | .triggered => "triggered"
  | .notTriggered => "not_triggered"
  | .insufficientEvidence => "insufficient_evidence"

def SourceClaim.serialize (c : SourceClaim) : Json := .obj [
  ("claim_id",.str c.claimId), ("claim",.str c.claim), ("section_key",.str c.sectionKey),
  ("materiality",.str c.materiality)]

def PatternView.serialize (v : PatternView) : Json := .obj [
  ("pattern_id",.str v.result.patternId), ("name_zh",.str v.result.nameZh),
  ("status",.str v.result.status.text),
  ("generated_observation",.str v.result.generatedObservation),
  ("requires_review",.bool v.result.requiresReview), ("claim_level",.str v.claimLevel),
  ("in_key_findings",.bool v.inKeyFindings),
  ("source_claims",.arr (v.sourceClaims.map SourceClaim.serialize)),
  ("missing_evidence_keys",jsonTexts v.result.missingEvidenceKeys)]

/-- The answer to a run of the patterns. -/
def patternAnswer (run : PatternRunReport) (views : List PatternView) : Payload := [
  ("run_id",.str run.runId), ("document_id",.str run.documentId), ("stock_id",.str run.stockId),
  ("period",.str run.period), ("triggered_count",.int run.triggeredCount),
  ("not_triggered_count",.int run.notTriggeredCount),
  ("insufficient_count",.int run.insufficientCount),
  ("results",.arr (views.map PatternView.serialize))]

end Patterns

end FinancialPdfReader
