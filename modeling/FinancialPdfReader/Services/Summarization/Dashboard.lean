import FinancialPdfReader.Python.Dict
import FinancialPdfReader.Services.Summarization.Metrics

namespace FinancialPdfReader

open Py

/-- One entry of `metrics`; its identifier, type and label follow from the metric. -/
structure MetricNode where
  metric : Metric
  direction : Trend
  deltaPct : Option ℚ
  evidenceClaimIds : List String
  priority : Nat
  claimText : String
  confidence : Confidence
  deriving DecidableEq

structure ChangedRow where
  node : MetricNode
  impact : Impact

structure CausalEdge where
  sourceMetric : Metric
  targetMetric : Metric
  relation : Relation
  confidence : Confidence
  evidenceClaimIds : List String

structure Adjustment where
  claimId : String
  claim : String
  metric : Option Metric
  requiresHumanReview : Bool

structure RiskRow where
  riskId : String
  label : String
  severity : Severity
  severityReason : String
  trend : Trend
  evidenceClaimIds : List String
  ruleId : String

structure Transparency where
  evidenceCoveragePct : ℚ
  temporalConsistent : Json
  nonRecurringCount : Nat
  contaminatedCount : Nat
  narrativeDensityScore : ℚ
  narrativeDensityWeightedScore : ℚ
  narrativeFlag : Bool
  humanReviewCount : Nat

structure DashboardPayload where
  contractVersion : String
  metrics : List MetricNode
  whatChanged : List ChangedRow
  causalEdges : List CausalEdge
  adjustments : List Adjustment
  riskSurface : List RiskRow
  transparency : Transparency

/-- `metric.replace("_", " ").title()` -/
def Metric.label : Metric → String
  | .revenue => "Revenue"
  | .grossMargin => "Gross Margin"
  | .operatingIncome => "Operating Income"
  | .eps => "Eps"
  | .cash => "Cash"
  | .debt => "Debt"
  | .fx => "Fx"
  | .customerConcentration => "Customer Concentration"

def jsonFloat (q : ℚ) : Json := .float (.finite q)

def jsonDelta : Option ℚ → Json
  | none => .null
  | some q => jsonFloat q

def jsonIds (ids : List String) : Json := .arr (ids.map .str)

def MetricNode.toJson (m : MetricNode) : Json := .obj [
  ("metric_id",.str (Choices.text m.metric)),
  ("metric_type",.str (metricType m.metric)),
  ("label",.str m.metric.label),
  ("direction",.str (Choices.text m.direction)),
  ("delta_pct",jsonDelta m.deltaPct),
  ("evidence_claim_ids",jsonIds m.evidenceClaimIds),
  ("priority",.int m.priority),
  ("claim_text",.str m.claimText),
  ("confidence",.str (Choices.text m.confidence))]

def ChangedRow.toJson (w : ChangedRow) : Json := .obj [
  ("metric_id",.str (Choices.text w.node.metric)),
  ("metric_type",.str (metricType w.node.metric)),
  ("label",.str w.node.metric.label),
  ("direction",.str (Choices.text w.node.direction)),
  ("delta_pct",jsonDelta w.node.deltaPct),
  ("evidence_claim_ids",jsonIds w.node.evidenceClaimIds),
  ("impact",.str w.impact.text),
  ("claim_text",.str w.node.claimText),
  ("confidence",.str (Choices.text w.node.confidence))]

def CausalEdge.toJson (e : CausalEdge) : Json := .obj [
  ("source_metric",.str (Choices.text e.sourceMetric)),
  ("target_metric",.str (Choices.text e.targetMetric)),
  ("relation",.str (Choices.text e.relation)),
  ("confidence",.str (Choices.text e.confidence)),
  ("evidence_claim_ids",jsonIds e.evidenceClaimIds)]

def Adjustment.toJson (a : Adjustment) : Json := .obj [
  ("claim_id",.str a.claimId),
  ("claim",.str a.claim),
  ("metric_id",match a.metric with
    | none => .null
    | some m => .str (Choices.text m)),
  ("evidence_claim_ids",jsonIds [a.claimId]),
  ("requires_human_review",.bool a.requiresHumanReview),
  ("comparability",.str "low")]

def RiskRow.toJson (r : RiskRow) : Json := .obj [
  ("risk_id",.str r.riskId),
  ("label",.str r.label),
  ("severity",.str (Choices.text r.severity)),
  ("severity_reason",.str r.severityReason),
  ("trend",.str (Choices.text r.trend)),
  ("evidence_claim_ids",jsonIds r.evidenceClaimIds),
  ("rule_id",.str r.ruleId)]

def Transparency.toJson (t : Transparency) : Json := .obj [
  ("evidence_coverage_pct",jsonFloat t.evidenceCoveragePct),
  ("temporal_consistent",t.temporalConsistent),
  ("non_recurring_count",.int t.nonRecurringCount),
  ("contaminated_count",.int t.contaminatedCount),
  ("narrative_density_score",jsonFloat t.narrativeDensityScore),
  ("narrative_density_weighted_score",jsonFloat t.narrativeDensityWeightedScore),
  ("narrative_flag",.bool t.narrativeFlag),
  ("human_review_count",.int t.humanReviewCount)]

def DashboardPayload.toJson (p : DashboardPayload) : Json := .obj [
  ("contract_version",.str p.contractVersion),
  ("metrics",.arr (p.metrics.map MetricNode.toJson)),
  ("what_changed",.arr (p.whatChanged.map ChangedRow.toJson)),
  ("causal_edges",.arr (p.causalEdges.map CausalEdge.toJson)),
  ("adjustments",.arr (p.adjustments.map Adjustment.toJson)),
  ("risk_surface",.arr (p.riskSurface.map RiskRow.toJson)),
  ("transparency",p.transparency.toJson)]

def materialityPriority : Materiality → Nat
  | .tierA => 3
  | .tierB => 2
  | .tierC => 1

/-- The node that one claim gives for its metric. -/
def metricNode (metric : Metric) (c : AIClaim String) : MetricNode :=
  let delta := extractDelta c.claim
  ⟨metric,directionFromText c.claim delta,delta,[c.claimId],materialityPriority c.materiality,
    c.claim,c.confidence⟩

/-- A claim takes the place of an earlier one of its metric unless that one has priority. -/
def addClaim (metrics : Dict Metric MetricNode) (c : AIClaim String) : Dict Metric MetricNode :=
  match matchMetric c.claim with
  | none => metrics
  | some metric => match metrics.get? metric with
    | some current =>
        if current.priority > materialityPriority c.materiality then metrics
        else metrics.set metric (metricNode metric c)
    | none => metrics.set metric (metricNode metric c)

def collectMetrics (cleanClaims : List (AIClaim String)) : Dict Metric MetricNode :=
  cleanClaims.foldl addClaim Dict.empty

def changedMetrics : List Metric := [.revenue,.grossMargin,.operatingIncome,.eps,.cash]

def whatChanged (metrics : Dict Metric MetricNode) : List ChangedRow :=
  changedMetrics.filterMap (fun key =>
    (metrics.get? key).map (fun m => ⟨m,calcImpact key m.deltaPct m.direction⟩))

def causalEdge (metrics : Dict Metric MetricNode) (source target : Metric)
    (confidence : Confidence) : List CausalEdge :=
  match metrics.get? source, metrics.get? target with
  | some s, some t =>
      [⟨source,target,.positiveDriver,confidence,s.evidenceClaimIds ++ t.evidenceClaimIds⟩]
  | _, _ => []

def causalEdges (metrics : Dict Metric MetricNode) : List CausalEdge :=
  causalEdge metrics .revenue .grossMargin .medium ++
    causalEdge metrics .grossMargin .operatingIncome .high ++
    causalEdge metrics .operatingIncome .eps .high

def adjustments (cleanClaims : List (AIClaim String)) : List Adjustment :=
  (cleanClaims.filter (fun c => !c.recurring)).map
    (fun c => ⟨c.claimId,c.claim,matchMetric c.claim,c.requiresHumanReview⟩)

/-- The size of the fall of the gross margin, 0 where none is reported. -/
def grossMarginDrop (rows : List ChangedRow) : ℚ :=
  ((rows.filterMap (fun w =>
    if w.node.metric = .grossMargin then
      w.node.deltaPct.bind (fun delta => if delta < 0 then some |delta| else none)
    else none)).head?).getD 0

def claimsOf (metric : Metric) (cleanClaims : List (AIClaim String)) : List (AIClaim String) :=
  cleanClaims.filter (fun c => matchMetric c.claim = some metric)

def firstIds (claims : List (AIClaim String)) : List String := (claims.take 3).map (·.claimId)

def customerConcentrationRisk (cleanClaims : List (AIClaim String)) : RiskRow :=
  let concentrationClaims := claimsOf .customerConcentration cleanClaims
  { riskId := "customer_concentration"
    label := "Customer concentration"
    severity := if concentrationClaims.isEmpty then .medium else .high
    severityReason := if concentrationClaims.isEmpty then "no_explicit_ratio_claim"
      else "customer_concentration_claim_present"
    trend := if concentrationClaims.isEmpty then .flat else .up
    evidenceClaimIds := firstIds concentrationClaims
    ruleId := "RISK-CUST-001" }

def marginPressureRisk (rows : List ChangedRow) : RiskRow :=
  let drop := grossMarginDrop rows
  { riskId := "margin_pressure"
    label := "Margin pressure"
    severity := if 10 ≤ drop then .high else if 5 ≤ drop then .medium else .low
    severityReason := "gross_margin_drop_pp=" ++ (PyFloat.finite drop).repr
    trend := if 0 < drop then .up else .flat
    evidenceClaimIds := (rows.filter (fun w => w.node.metric = .grossMargin)).flatMap
      (fun w => w.node.evidenceClaimIds.take 1)
    ruleId := "RISK-MARGIN-010PP" }

def liquidityRisk (cleanClaims : List (AIClaim String)) : RiskRow :=
  let cashClaims := claimsOf .cash cleanClaims
  { riskId := "liquidity"
    label := "Liquidity pressure"
    severity := if cashClaims.isEmpty then .medium else .low
    severityReason := if cashClaims.isEmpty then "cash_claim_missing" else "cash_claim_present"
    trend := if cashClaims.isEmpty then .up else .flat
    evidenceClaimIds := firstIds cashClaims
    ruleId := "RISK-LIQ-001" }

def fxExposureRisk (cleanClaims : List (AIClaim String)) : RiskRow :=
  let fxClaims := claimsOf .fx cleanClaims
  { riskId := "fx_exposure"
    label := "FX exposure"
    severity := if fxClaims.isEmpty then .low else .medium
    severityReason := if fxClaims.isEmpty then "fx_claim_missing" else "fx_claim_present"
    trend := if fxClaims.isEmpty then .flat else .up
    evidenceClaimIds := firstIds fxClaims
    ruleId := "RISK-FX-001" }

def riskSurface (cleanClaims : List (AIClaim String)) (rows : List ChangedRow) : List RiskRow :=
  [customerConcentrationRisk cleanClaims,marginPressureRisk rows,liquidityRisk cleanClaims,
    fxExposureRisk cleanClaims]

/-- The four risks are told apart by their identifiers. -/
theorem riskSurface_inj {cleanClaims : List (AIClaim String)} {rows : List ChangedRow}
    {r s : RiskRow} (hr : r ∈ riskSurface cleanClaims rows)
    (hs : s ∈ riskSurface cleanClaims rows) (h : r.riskId = s.riskId) : r = s := by
  have hids : (riskSurface cleanClaims rows).map (·.riskId) =
      ["customer_concentration","margin_pressure","liquidity","fx_exposure"] := rfl
  have hnodup : ((riskSurface cleanClaims rows).map (·.riskId)).Nodup := by
    rw [hids]
    decide
  exact List.inj_on_of_nodup_map hnodup hr hs h

/-- The share of the claims that have evidence, in percent. -/
def evidenceCoveragePct (cleanClaims : List (AIClaim String)) : ℚ :=
  if cleanClaims.isEmpty then 0
  else roundTo 1 (((cleanClaims.countP (fun c => !c.evidence.isEmpty) : ℕ) : ℚ) /
    cleanClaims.length * 100)

def buildDashboardPayload (cleanClaims allClaims : List (AIClaim String))
    (temporalConsistent : Json) (narrativeFlag : Bool)
    (narrativeDensityScore narrativeDensityWeightedScore : ℚ) : DashboardPayload :=
  let metrics := collectMetrics cleanClaims
  let rows := whatChanged metrics
  { contractVersion := dashboardContractVersion
    metrics := metrics.values
    whatChanged := rows
    causalEdges := causalEdges metrics
    adjustments := adjustments cleanClaims
    riskSurface := riskSurface cleanClaims rows
    transparency := {
      evidenceCoveragePct := evidenceCoveragePct cleanClaims
      temporalConsistent
      nonRecurringCount := (adjustments cleanClaims).length
      contaminatedCount := allClaims.countP (·.contaminated)
      narrativeDensityScore
      narrativeDensityWeightedScore
      narrativeFlag
      humanReviewCount := cleanClaims.countP (·.requiresHumanReview) } }

/-- What holds of the metrics while the claims are read: every node stands under its own metric
and names the one claim that it comes from. -/
structure MetricsInv (seen : List (AIClaim String)) (metrics : Dict Metric MetricNode) :
    Prop where
  ofClaim : ∀ metric m, metrics.get? metric = some m →
    ∃ c ∈ seen, matchMetric c.claim = some metric ∧ m = metricNode metric c
  present : ∀ c ∈ seen, ∀ metric, matchMetric c.claim = some metric → metric ∈ metrics.keys

/-- One claim keeps the invariant, whether it takes a place or leaves it. -/
private theorem addClaim_inv {seen : List (AIClaim String)} {metrics : Dict Metric MetricNode}
    (h : MetricsInv seen metrics) (c : AIClaim String) :
    MetricsInv (seen ++ [c]) (addClaim metrics c) := by
  have hkept : ∀ metric m, metrics.get? metric = some m →
      ∃ d ∈ seen ++ [c], matchMetric d.claim = some metric ∧ m = metricNode metric d := by
    intro metric m hm
    obtain ⟨d,hd,hmatch⟩ := h.ofClaim metric m hm
    exact ⟨d,by simp [hd],hmatch⟩
  have hset : ∀ metric, matchMetric c.claim = some metric →
      MetricsInv (seen ++ [c]) (metrics.set metric (metricNode metric c)) := by
    intro metric hmatch
    constructor
    · intro k m hm
      rw [Dict.get?_set] at hm
      split at hm
      · rename_i hk
        subst hk
        exact ⟨c,by simp,hmatch,(Option.some.inj hm).symm⟩
      · exact hkept k m hm
    · intro d hd k hk
      rw [Dict.mem_keys_set]
      rcases List.mem_append.mp hd with hd | hd
      · exact Or.inr (h.present d hd k hk)
      · obtain rfl := List.mem_singleton.mp hd
        exact Or.inl (Option.some.inj (hk.symm.trans hmatch))
  rw [addClaim]
  split
  · rename_i hnone
    refine ⟨hkept,?_⟩
    intro d hd k hk
    rcases List.mem_append.mp hd with hd | hd
    · exact h.present d hd k hk
    · obtain rfl := List.mem_singleton.mp hd
      exact absurd (hk.symm.trans hnone) (Option.some_ne_none k)
  · rename_i metric hmatch
    split
    · rename_i current hcurrent
      split
      · refine ⟨hkept,?_⟩
        intro d hd k hk
        rcases List.mem_append.mp hd with hd | hd
        · exact h.present d hd k hk
        · obtain rfl := List.mem_singleton.mp hd
          obtain rfl := Option.some.inj (hmatch.symm.trans hk)
          exact (Dict.mem_keys_iff metrics metric).mpr ⟨current,hcurrent⟩
      · exact hset metric hmatch
    · exact hset metric hmatch

theorem collectMetrics_concat (seen : List (AIClaim String)) (c : AIClaim String) :
    collectMetrics (seen ++ [c]) = addClaim (collectMetrics seen) c := by
  rw [collectMetrics, List.foldl_append, List.foldl_cons, List.foldl_nil, collectMetrics]

/-- After all the claims every node comes from a claim of its metric, and every metric that a
claim is about has a node. -/
theorem collectMetrics_inv (cleanClaims : List (AIClaim String)) :
    MetricsInv cleanClaims (collectMetrics cleanClaims) := by
  induction cleanClaims using List.reverseRecOn with
  | nil => exact ⟨by simp [collectMetrics],by simp⟩
  | append_singleton seen c ih =>
    rw [collectMetrics_concat]
    exact addClaim_inv ih c

theorem get?_collectMetrics_metric {cleanClaims : List (AIClaim String)} {metric : Metric}
    {m : MetricNode} (h : (collectMetrics cleanClaims).get? metric = some m) :
    m.metric = metric ∧ m.evidenceClaimIds ≠ [] := by
  obtain ⟨c,-,-,rfl⟩ := (collectMetrics_inv cleanClaims).ofClaim metric m h
  exact ⟨rfl,List.cons_ne_nil _ _⟩

/-- The dashboard has no metric exactly when no claim is about one. -/
theorem collectMetrics_values_eq_nil_iff (cleanClaims : List (AIClaim String)) :
    (collectMetrics cleanClaims).values = [] ↔
      ∀ c ∈ cleanClaims, matchMetric c.claim = none := by
  have hinv := collectMetrics_inv cleanClaims
  constructor
  · intro hnil c hc
    cases hmatch : matchMetric c.claim with
    | none => rfl
    | some metric =>
      obtain ⟨m,hm⟩ := (Dict.mem_keys_iff _ metric).mp (hinv.present c hc metric hmatch)
      have hmem : m ∈ (collectMetrics cleanClaims).values :=
        (Dict.mem_values_iff _ m).mpr ⟨metric,hm⟩
      exact absurd (hnil ▸ hmem) List.not_mem_nil
  · intro hnone
    rw [List.eq_nil_iff_forall_not_mem]
    intro m hm
    obtain ⟨metric,hget⟩ := (Dict.mem_values_iff _ m).mp hm
    obtain ⟨c,hc,hmatch,-⟩ := hinv.ofClaim metric m hget
    have hno := hnone c hc
    exact absurd (hmatch.symm.trans hno) (Option.some_ne_none metric)

end FinancialPdfReader
