import FinancialPdfReader.Services.DashboardContract.Validator
import FinancialPdfReader.Services.Summarization.Dashboard

namespace FinancialPdfReader

open Py

private theorem jsonIds_truthy {ids : List String} (h : ids ≠ []) :
    (jsonIds ids).truthy = true := by
  cases ids with
  | nil => contradiction
  | cons id ids => rfl

private theorem MetricNode.checked {m : MetricNode} (h : m.evidenceClaimIds ≠ []) :
    CheckedMetric m.toJson where
  isObj := ⟨_,rfl⟩
  metricId := rfl
  metricType := rfl
  direction := ⟨_,Choices.text_mem_texts m.direction,rfl⟩
  evidence := jsonIds_truthy h

private theorem CausalEdge.checked {e : CausalEdge} (h : e.evidenceClaimIds ≠ []) :
    CheckedEdge e.toJson where
  isObj := ⟨_,rfl⟩
  relation := ⟨_,Choices.text_mem_texts e.relation,rfl⟩
  evidence := jsonIds_truthy h

private theorem RiskRow.checked (r : RiskRow) : CheckedRisk r.toJson where
  isObj := ⟨_,rfl⟩
  severity := ⟨_,Choices.text_mem_texts r.severity,rfl⟩
  trend := ⟨_,Choices.text_mem_texts r.trend,rfl⟩
  severityReason := rfl

/-- An edge joins the evidence of two metrics that both have some. -/
private theorem causalEdge_evidence {metrics : Dict Metric MetricNode}
    (h : ∀ metric m, metrics.get? metric = some m → m.evidenceClaimIds ≠ [])
    {source target : Metric} {confidence : Confidence} {e : CausalEdge}
    (he : e ∈ causalEdge metrics source target confidence) : e.evidenceClaimIds ≠ [] := by
  rw [causalEdge] at he
  split at he
  · rename_i s t hs ht
    obtain rfl := List.mem_singleton.mp he
    simp [h source s hs]
  · contradiction

private theorem causalEdges_evidence {metrics : Dict Metric MetricNode}
    (h : ∀ metric m, metrics.get? metric = some m → m.evidenceClaimIds ≠ []) :
    ∀ e ∈ causalEdges metrics, e.evidenceClaimIds ≠ [] := by
  intro e he
  simp only [causalEdges, List.mem_append] at he
  rcases he with (he | he) | he
  · exact causalEdge_evidence h he
  · exact causalEdge_evidence h he
  · exact causalEdge_evidence h he

/-- A payload whose metrics and edges have evidence meets the rules of the validator, whatever
its risk rows. -/
private theorem DashboardPayload.checked {p : DashboardPayload}
    (hversion : p.contractVersion = dashboardContractVersion)
    (hmetrics : ∀ m ∈ p.metrics, m.evidenceClaimIds ≠ [])
    (hedges : ∀ e ∈ p.causalEdges, e.evidenceClaimIds ≠ []) : CheckedRules p.toJson where
  isObj := ⟨_,rfl⟩
  version := by rw [← hversion]; rfl
  metrics := by
    refine ⟨p.metrics.map MetricNode.toJson,rfl,?_⟩
    intro x hx
    obtain ⟨m,hm,rfl⟩ := List.mem_map.mp hx
    exact MetricNode.checked (hmetrics m hm)
  causalEdges := by
    refine ⟨p.causalEdges.map CausalEdge.toJson,rfl,?_⟩
    intro x hx
    obtain ⟨e,he,rfl⟩ := List.mem_map.mp hx
    exact CausalEdge.checked (hedges e he)
  riskSurface := by
    refine ⟨p.riskSurface.map RiskRow.toJson,rfl,?_⟩
    intro x hx
    obtain ⟨r,-,rfl⟩ := List.mem_map.mp hx
    exact RiskRow.checked r

/-- Whatever the claims say, the dashboard built of them is accepted. -/
theorem validate_buildDashboardPayload (cleanClaims allClaims : List (AIClaim String))
    (temporalConsistent : Json) (narrativeFlag : Bool) (score weighted : ℚ) :
    validateDashboardContractV1 (buildDashboardPayload cleanClaims allClaims temporalConsistent
      narrativeFlag score weighted).toJson = .ok [] := by
  have hevidence : ∀ metric m, (collectMetrics cleanClaims).get? metric = some m →
      m.evidenceClaimIds ≠ [] := fun metric m hm => (get?_collectMetrics_metric hm).2
  refine (validate_eq_ok_nil_iff _).mpr (DashboardPayload.checked rfl ?_ ?_)
  · intro m hm
    obtain ⟨metric,hget⟩ := (Dict.mem_values_iff _ m).mp hm
    exact hevidence metric m hget
  · exact causalEdges_evidence hevidence

end FinancialPdfReader
