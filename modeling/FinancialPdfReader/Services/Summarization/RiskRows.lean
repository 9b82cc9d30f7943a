import FinancialPdfReader.Services.Summarization.MetricSources

namespace FinancialPdfReader

open Py

/-- The risks that are read off the claims themselves; that of the margin is taken from its
metric. -/
inductive ClaimRisk where
  | cash | fx | customerConcentration
  deriving DecidableEq

namespace ClaimRisk

def metric : ClaimRisk → Metric
  | .cash => .cash
  | .fx => .fx
  | .customerConcentration => .customerConcentration

def riskId : ClaimRisk → String
  | .cash => "liquidity"
  | .fx => "fx_exposure"
  | .customerConcentration => "customer_concentration"

/-- The reason of the row where there is a claim. -/
def present : ClaimRisk → String
  | .cash => "cash_claim_present"
  | .fx => "fx_claim_present"
  | .customerConcentration => "customer_concentration_claim_present"

def row (cleanClaims : List (AIClaim String)) : ClaimRisk → RiskRow
  | .cash => liquidityRisk cleanClaims
  | .fx => fxExposureRisk cleanClaims
  | .customerConcentration => customerConcentrationRisk cleanClaims

variable {cleanClaims : List (AIClaim String)}

theorem row_mem (risk : ClaimRisk) (rows : List ChangedRow) :
    risk.row cleanClaims ∈ riskSurface cleanClaims rows := by
  cases risk <;> simp [row, riskSurface]

theorem row_riskId (risk : ClaimRisk) : (risk.row cleanClaims).riskId = risk.riskId := by
  cases risk <;> rfl

theorem row_evidence (risk : ClaimRisk) :
    (risk.row cleanClaims).evidenceClaimIds = firstIds (claimsOf risk.metric cleanClaims) := by
  cases risk <;> rfl

/-- The row says that there is a claim exactly where one was first about its metric. -/
theorem row_present_iff (risk : ClaimRisk) :
    (risk.row cleanClaims).severityReason = risk.present ↔
      claimsOf risk.metric cleanClaims ≠ [] := by
  cases risk with
  | cash =>
    change (if (claimsOf .cash cleanClaims).isEmpty then "cash_claim_missing"
      else "cash_claim_present") = "cash_claim_present" ↔ claimsOf .cash cleanClaims ≠ []
    simp
  | fx =>
    change (if (claimsOf .fx cleanClaims).isEmpty then "fx_claim_missing"
      else "fx_claim_present") = "fx_claim_present" ↔ claimsOf .fx cleanClaims ≠ []
    simp
  | customerConcentration =>
    change (if (claimsOf .customerConcentration cleanClaims).isEmpty then "no_explicit_ratio_claim"
      else "customer_concentration_claim_present") = "customer_concentration_claim_present" ↔
        claimsOf .customerConcentration cleanClaims ≠ []
    simp

/-- The row of a risk takes a claim into account: it says that there is one, and the claim is
among those of which it cites the first three. -/
structure Reports (p : DashboardPayload) (cleanClaims : List (AIClaim String)) (risk : ClaimRisk)
    (c : AIClaim String) : Prop where
  row : ∃ r ∈ p.riskSurface, r.riskId = risk.riskId ∧ r.severityReason = risk.present ∧
    r.evidenceClaimIds = firstIds (claimsOf risk.metric cleanClaims)
  considered : c ∈ claimsOf risk.metric cleanClaims

theorem reports_iff (risk : ClaimRisk) (allClaims : List (AIClaim String))
    (temporalConsistent : Json) (narrativeFlag : Bool) (score weighted : ℚ)
    (c : AIClaim String) :
    Reports (buildDashboardPayload cleanClaims allClaims temporalConsistent narrativeFlag score
      weighted) cleanClaims risk c ↔
        c ∈ cleanClaims ∧ FirstMentioned risk.metric c.claim := by
  rw [← matchMetric_eq_some_iff, ← mem_claimsOf]
  constructor
  · intro h
    exact h.considered
  · intro hc
    refine ⟨⟨risk.row cleanClaims,risk.row_mem _,risk.row_riskId,?_,risk.row_evidence⟩,hc⟩
    exact risk.row_present_iff.mpr (List.ne_nil_of_mem hc)

/-- Every claim that speaks of the metric of a risk is taken into account exactly where no such
claim speaks of a metric that is looked for before it. -/
theorem mentions_reported_iff (cleanClaims allClaims : List (AIClaim String))
    (temporalConsistent : Json) (narrativeFlag : Bool) (score weighted : ℚ) (risk : ClaimRisk) :
    (∀ c ∈ cleanClaims, mentions risk.metric c.claim = true →
      Reports (buildDashboardPayload cleanClaims allClaims temporalConsistent narrativeFlag score
        weighted) cleanClaims risk c) ↔
    ∀ c ∈ cleanClaims, mentions risk.metric c.claim = true →
      ∀ earlier ∈ registeredBefore risk.metric, mentions earlier c.claim = false := by
  simp only [reports_iff, FirstMentioned]
  constructor
  · intro h c hc hmentions
    exact (h c hc hmentions).2.2
  · intro h c hc hmentions
    exact ⟨hc,hmentions,h c hc hmentions⟩

end ClaimRisk

/-- What the share of the largest customers in the revenue is told with. -/
def customersOfRevenue : AIClaim String where
  claimId := "c1"
  claim := "前三大主要客戶佔本期營收達 68%，客戶集中度偏高"
  claimType := .riskFactor
  claimLevel := .observedFact
  materiality := .tierA
  sectionKey := .riskRegister
  recurring := true
  contaminated := false
  sourceType := .financialEvidence
  forwardLooking := false
  rhetoricalRiskFlag := false
  rhetoricalRiskTerms := []
  attributionPrefix := ""
  evidence := [⟨"d1","12","風險因素","前三大主要客戶佔本期營收達 68%"⟩]
  confidence := .high
  requiresHumanReview := false

/-- It is taken to be about the revenue, and the row of the customers denies that there is a
ratio. -/
theorem customersOfRevenue_shadowed :
    mentions .customerConcentration customersOfRevenue.claim = true ∧
    (customerConcentrationRisk [customersOfRevenue]).severityReason = "no_explicit_ratio_claim" ∧
    ¬ ClaimRisk.Reports (buildDashboardPayload [customersOfRevenue] [customersOfRevenue]
      (.bool true) false 0 0) [customersOfRevenue] .customerConcentration customersOfRevenue := by
  have hmentions : mentions .customerConcentration customersOfRevenue.claim = true := by
    decide +kernel
  have hreason : (customerConcentrationRisk [customersOfRevenue]).severityReason =
      "no_explicit_ratio_claim" := by decide +kernel
  have hrevenue : mentions .revenue customersOfRevenue.claim = true := by decide +kernel
  refine ⟨hmentions,hreason,?_⟩
  intro h
  obtain ⟨-,habout⟩ := mem_claimsOf.mp h.considered
  obtain ⟨-,hnone⟩ := matchMetric_eq_some_iff.mp habout
  exact absurd (hrevenue.symm.trans (hnone .revenue (by decide))) Bool.false_ne_true.symm

end FinancialPdfReader
