import FinancialPdfReader.Models.Reports

namespace FinancialPdfReader

open Py

def jsonTexts (texts : List String) : Json := .arr (texts.map .str)

def serializeClaim (c : AIClaim String) : Json := .obj [
  ("claim_id",.str c.claimId),
  ("claim",.str c.claim),
  ("claim_type",.str (Choices.text c.claimType)),
  ("claim_level",.str (Choices.text c.claimLevel)),
  ("materiality",.str (Choices.text c.materiality)),
  ("section_key",.str (Choices.text c.sectionKey)),
  ("recurring",.bool c.recurring),
  ("contaminated",.bool c.contaminated),
  ("source_type",.str (Choices.text c.sourceType)),
  ("forward_looking",.bool c.forwardLooking),
  ("rhetorical_risk_flag",.bool c.rhetoricalRiskFlag),
  ("rhetorical_risk_terms",jsonTexts c.rhetoricalRiskTerms),
  ("attribution_prefix",.str c.attributionPrefix),
  ("confidence",.str (Choices.text c.confidence)),
  ("requires_human_review",.bool c.requiresHumanReview),
  ("evidence",.arr (c.evidence.map (fun e => .obj [
    ("page",.str e.page), ("section",.str e.sectionName), ("quoted_text",.str e.quotedText)])))]

/-- The periods default to `None`, and a false one gives way to the report's own. -/
def serializeSummaryResponse (report : AIReport) (documentPeriod requestedPeriod : Json) :
    List (String × Json) := [
  ("report_id",.str report.reportId),
  ("document_id",.str report.documentId),
  ("stock_id",.str report.stockId),
  ("period",.str report.period),
  ("temporal_consistent",.bool report.temporalConsistent),
  ("temporal_note",.str report.temporalNote),
  ("document_period",documentPeriod.orElse (.str report.period)),
  ("requested_period",requestedPeriod.orElse (.str report.period)),
  ("executive_summary",.str report.executiveSummary),
  ("total_claims",.int report.claims.length),
  ("contaminated_count",.int (report.claims.countP (·.contaminated))),
  ("insufficient_evidence_count",.int (report.claims.countP
    (fun c => c.claimLevel = .insufficientEvidence && !c.contaminated))),
  ("evidence_status",.str (Choices.text report.evidenceStatus)),
  ("investment_advice_detected",.bool report.investmentAdviceDetected),
  ("narrative_density_score",.float (.finite report.narrativeDensityScore)),
  ("narrative_density_weighted_score",.float (.finite report.narrativeDensityWeightedScore)),
  ("narrative_flag",.bool report.narrativeFlag),
  ("dashboard",report.dashboard.orElse (.obj [])),
  ("dashboard_contract_valid",.bool report.dashboardContractValid),
  ("dashboard_contract_errors",jsonTexts report.dashboardContractErrors),
  ("completeness_warnings",jsonTexts report.completenessWarnings),
  ("claims",.arr (report.claims.map serializeClaim))]

end FinancialPdfReader
