import FinancialPdfReader.Python.Sorted
import FinancialPdfReader.Services.Summarization.Generate

namespace FinancialPdfReader

open Py

def claimPriority (c : AIClaim String) : Nat := materialityPriority c.materiality

/-- The claim that a metric is taken from: the last of the most material ones about it. -/
def Decides (cleanClaims : List (AIClaim String)) (metric : Metric) (c : AIClaim String) : Prop :=
  LastMax claimPriority (claimsOf metric cleanClaims) c

theorem mem_claimsOf {cleanClaims : List (AIClaim String)} {metric : Metric}
    {c : AIClaim String} :
    c ∈ claimsOf metric cleanClaims ↔ c ∈ cleanClaims ∧ matchMetric c.claim = some metric := by
  rw [claimsOf, List.mem_filter, decide_eq_true_eq]

theorem Decides.mem {cleanClaims : List (AIClaim String)} {metric : Metric} {c : AIClaim String}
    (h : Decides cleanClaims metric c) : c ∈ cleanClaims ∧ matchMetric c.claim = some metric :=
  mem_claimsOf.mp (LastMax.mem h)

section Step

variable {metrics : Dict Metric MetricNode} {metric : Metric} {c : AIClaim String}

theorem addClaim_get?_other (h : matchMetric c.claim ≠ some metric) :
    (addClaim metrics c).get? metric = metrics.get? metric := by
  rw [addClaim]
  split
  · rfl
  · rename_i other hother
    have hne : metric ≠ other := fun heq => h (heq ▸ hother)
    split
    · split
      · rfl
      · exact Dict.get?_set_of_ne _ _ hne
    · exact Dict.get?_set_of_ne _ _ hne

/-- A more material claim keeps its place. -/
theorem addClaim_get?_kept (h : matchMetric c.claim = some metric) {current : MetricNode}
    (hcurrent : metrics.get? metric = some current) (hlt : claimPriority c < current.priority) :
    (addClaim metrics c).get? metric = some current := by
  have hkeep : current.priority > materialityPriority c.materiality := hlt
  rw [addClaim, h]
  simp only [hcurrent]
  rw [if_pos hkeep, hcurrent]

/-- Any other one gives it up. -/
theorem addClaim_get?_taken (h : matchMetric c.claim = some metric)
    (hle : ∀ current, metrics.get? metric = some current → current.priority ≤ claimPriority c) :
    (addClaim metrics c).get? metric = some (metricNode metric c) := by
  rw [addClaim, h]
  simp only []
  split
  · rename_i current hcurrent
    have htaken : ¬ current.priority > materialityPriority c.materiality :=
      Nat.not_lt.mpr (hle current hcurrent)
    rw [if_neg htaken, Dict.get?_set_self]
  · exact Dict.get?_set_self _ _ _

end Step

theorem claimsOf_concat (metric : Metric) (seen : List (AIClaim String)) (c : AIClaim String) :
    claimsOf metric (seen ++ [c]) =
      claimsOf metric seen ++ (if matchMetric c.claim = some metric then [c] else []) := by
  by_cases h : matchMetric c.claim = some metric
  · simp [claimsOf, List.filter_append, h]
  · simp [claimsOf, List.filter_append, h]

/-- A further claim about a metric decides it unless a more material one does already. -/
private theorem decides_concat_about {seen : List (AIClaim String)} {metric : Metric}
    {c : AIClaim String} (h : matchMetric c.claim = some metric) (d : AIClaim String) :
    Decides (seen ++ [c]) metric d ↔
      (Decides seen metric d ∧ claimPriority c < claimPriority d) ∨
        (d = c ∧ ∀ e ∈ claimsOf metric seen, claimPriority e ≤ claimPriority c) := by
  rw [Decides, claimsOf_concat, if_pos h, lastMax_concat, Decides]

private theorem decides_concat_other {seen : List (AIClaim String)} {metric : Metric}
    {c : AIClaim String} (h : matchMetric c.claim ≠ some metric) (d : AIClaim String) :
    Decides (seen ++ [c]) metric d ↔ Decides seen metric d := by
  rw [Decides, claimsOf_concat, if_neg h, List.append_nil, Decides]

/-- Every metric stands as its deciding claim has it. -/
theorem collectMetrics_get?_iff {cleanClaims : List (AIClaim String)} {metric : Metric}
    {node : MetricNode} :
    (collectMetrics cleanClaims).get? metric = some node ↔
      ∃ c, Decides cleanClaims metric c ∧ node = metricNode metric c := by
  induction cleanClaims using List.reverseRecOn generalizing node with
  | nil =>
    simp only [collectMetrics, List.foldl_nil, Dict.get?_empty]
    constructor
    · intro h
      contradiction
    · intro hparts
      obtain ⟨c,hc,-⟩ := hparts
      exact absurd hc.mem.1 List.not_mem_nil
  | append_singleton seen c ih =>
    rw [collectMetrics_concat]
    by_cases hmatch : matchMetric c.claim = some metric
    · have hdecides : ∀ d, Decides (seen ++ [c]) metric d ↔
          (Decides seen metric d ∧ claimPriority c < claimPriority d) ∨
            (d = c ∧ ∀ e ∈ claimsOf metric seen, claimPriority e ≤ claimPriority c) :=
        decides_concat_about hmatch
      by_cases hkept : ∃ d, Decides seen metric d ∧ claimPriority c < claimPriority d
      · obtain ⟨d,hd,hlt⟩ := hkept
        rw [addClaim_get?_kept hmatch (ih.mpr ⟨d,hd,rfl⟩) hlt, ← ih.mpr ⟨d,hd,rfl⟩, ih]
        constructor
        · intro hparts
          obtain ⟨e,he,rfl⟩ := hparts
          have hle := LastMax.le he d (LastMax.mem hd)
          exact ⟨e,(hdecides e).mpr (Or.inl ⟨he,Nat.lt_of_lt_of_le hlt hle⟩),rfl⟩
        · intro hparts
          obtain ⟨e,he,rfl⟩ := hparts
          rcases (hdecides e).mp he with ⟨he,-⟩ | ⟨rfl,hall⟩
          · exact ⟨e,he,rfl⟩
          · exact absurd hlt (Nat.not_lt.mpr (hall d (LastMax.mem hd)))
      · have hle : ∀ d, Decides seen metric d → claimPriority d ≤ claimPriority c := by
          intro d hd
          by_contra hgt
          exact hkept ⟨d,hd,Nat.lt_of_not_le hgt⟩
        have htaken : (addClaim (collectMetrics seen) c).get? metric =
            some (metricNode metric c) := by
          apply addClaim_get?_taken hmatch
          intro current hcurrent
          obtain ⟨d,hd,rfl⟩ := ih.mp hcurrent
          exact hle d hd
        rw [htaken, Option.some_inj]
        constructor
        · intro hnode
          refine ⟨c,(hdecides c).mpr (Or.inr ⟨rfl,?_⟩),hnode.symm⟩
          intro e he
          obtain ⟨hmem,habout⟩ := mem_claimsOf.mp he
          obtain ⟨current,hcurrent⟩ :=
            (Dict.mem_keys_iff _ _).mp ((collectMetrics_inv seen).present e hmem metric habout)
          obtain ⟨d,hd,-⟩ := ih.mp hcurrent
          exact Nat.le_trans (LastMax.le hd e he) (hle d hd)
        · intro hparts
          obtain ⟨d,hd,rfl⟩ := hparts
          rcases (hdecides d).mp hd with ⟨hd,hlt⟩ | ⟨rfl,-⟩
          · exact absurd ⟨d,hd,hlt⟩ hkept
          · rfl
    · rw [addClaim_get?_other hmatch, ih]
      simp only [decides_concat_other hmatch]

/-- Whichever claim decides a metric, its node is the same. -/
theorem Decides.node_unique {cleanClaims : List (AIClaim String)} {metric : Metric}
    {c d : AIClaim String} (hc : Decides cleanClaims metric c)
    (hd : Decides cleanClaims metric d) : metricNode metric c = metricNode metric d := by
  have hgetc := collectMetrics_get?_iff.mpr ⟨c,hc,rfl⟩
  have hgetd := collectMetrics_get?_iff.mpr ⟨d,hd,rfl⟩
  exact Option.some.inj (hgetc.symm.trans hgetd)

/-- A metric is decided wherever a claim is about it. -/
theorem exists_decides_iff {cleanClaims : List (AIClaim String)} {metric : Metric} :
    (∃ c, Decides cleanClaims metric c) ↔
      ∃ c ∈ cleanClaims, matchMetric c.claim = some metric := by
  constructor
  · intro hparts
    obtain ⟨c,hc⟩ := hparts
    exact ⟨c,hc.mem⟩
  · intro hparts
    obtain ⟨c,hc,habout⟩ := hparts
    obtain ⟨node,hnode⟩ :=
      (Dict.mem_keys_iff _ _).mp ((collectMetrics_inv cleanClaims).present c hc metric habout)
    obtain ⟨d,hd,-⟩ := collectMetrics_get?_iff.mp hnode
    exact ⟨d,hd⟩

theorem mem_metrics_iff {cleanClaims : List (AIClaim String)} {m : MetricNode} :
    m ∈ (collectMetrics cleanClaims).values ↔
      ∃ metric c, Decides cleanClaims metric c ∧ m = metricNode metric c := by
  rw [Dict.mem_values_iff]
  simp only [collectMetrics_get?_iff]

theorem mem_whatChanged_iff {cleanClaims : List (AIClaim String)} {row : ChangedRow} :
    row ∈ whatChanged (collectMetrics cleanClaims) ↔ ∃ metric ∈ changedMetrics, ∃ c,
      Decides cleanClaims metric c ∧ row = ⟨metricNode metric c,
        calcImpact metric (metricNode metric c).deltaPct (metricNode metric c).direction⟩ := by
  simp only [whatChanged, List.mem_filterMap, Option.map_eq_some_iff, collectMetrics_get?_iff]
  constructor
  · intro hparts
    obtain ⟨metric,hmetric,_,⟨c,hc,rfl⟩,rfl⟩ := hparts
    exact ⟨metric,hmetric,c,hc,rfl⟩
  · intro hparts
    obtain ⟨metric,hmetric,c,hc,rfl⟩ := hparts
    exact ⟨metric,hmetric,_,⟨c,hc,rfl⟩,rfl⟩

/-- A causal edge cites the two claims that decide the metrics it joins. -/
theorem evidence_of_causalEdge {cleanClaims : List (AIClaim String)} {e : CausalEdge}
    (h : e ∈ causalEdges (collectMetrics cleanClaims)) :
    ∃ source target c d, Decides cleanClaims source c ∧ Decides cleanClaims target d ∧
      e.evidenceClaimIds = [c.claimId,d.claimId] := by
  have hedge : ∃ source target confidence,
      e ∈ causalEdge (collectMetrics cleanClaims) source target confidence := by
    simp only [causalEdges, List.mem_append] at h
    rcases h with (h | h) | h
    · exact ⟨_,_,_,h⟩
    · exact ⟨_,_,_,h⟩
    · exact ⟨_,_,_,h⟩
  obtain ⟨source,target,confidence,h⟩ := hedge
  rw [causalEdge] at h
  split at h
  · rename_i s t hs ht
    obtain ⟨c,hc,rfl⟩ := collectMetrics_get?_iff.mp hs
    obtain ⟨d,hd,rfl⟩ := collectMetrics_get?_iff.mp ht
    obtain rfl := List.mem_singleton.mp h
    exact ⟨source,target,c,d,hc,hd,rfl⟩
  · contradiction

def cleanOf (claims : List (AIClaim String)) : List (AIClaim String) :=
  claims.filter (fun c => !c.contaminated)

/-- The levels of which the trend service may make points. -/
def ClaimLevel.isFact : ClaimLevel → Bool
  | .observedFact => true
  | .derivedMetric => true
  | _ => false

/-- Two claims of which the dashboard shows the same. -/
structure LooksLike (c d : AIClaim String) : Prop where
  claimId : d.claimId = c.claimId
  claim : d.claim = c.claim
  materiality : d.materiality = c.materiality
  confidence : d.confidence = c.confidence

theorem metricNode_deltaPct (metric : Metric) (c : AIClaim String) :
    (metricNode metric c).deltaPct = extractDelta c.claim := by
  simp only [metricNode]

theorem metricNode_direction (metric : Metric) (c : AIClaim String) :
    (metricNode metric c).direction = directionFromText c.claim (extractDelta c.claim) := by
  simp only [metricNode]

theorem metricNode_eq_iff (metric : Metric) {c d : AIClaim String} :
    metricNode metric c = metricNode metric d ↔ LooksLike c d := by
  have hpriority : materialityPriority c.materiality = materialityPriority d.materiality ↔
      d.materiality = c.materiality := by
    cases c.materiality <;> cases d.materiality <;> decide
  constructor
  · intro h
    simp only [metricNode, MetricNode.mk.injEq, List.cons.injEq] at h
    exact ⟨h.2.2.2.1.1.symm,h.2.2.2.2.2.1.symm,hpriority.mp h.2.2.2.2.1,h.2.2.2.2.2.2.symm⟩
  · intro h
    simp only [metricNode, h.claimId, h.claim, h.materiality, h.confidence]

/-- A node that shows a claim with the property. -/
def MadeOf (P : AIClaim String → Prop) (cleanClaims : List (AIClaim String)) (m : MetricNode) :
    Prop :=
  ∃ c ∈ cleanClaims, P c ∧ m = metricNode m.metric c

theorem madeOf_iff {P : AIClaim String → Prop} {cleanClaims : List (AIClaim String)}
    {metric : Metric} {c : AIClaim String} :
    MadeOf P cleanClaims (metricNode metric c) ↔ ∃ d ∈ cleanClaims, P d ∧ LooksLike c d := by
  simp only [MadeOf, ← metricNode_eq_iff metric]
  rfl

/-- Every row of what changed shows a fact and cites it. -/
def CitesFacts (claims : List (AIClaim String)) (p : DashboardPayload) : Prop :=
  ∀ row ∈ p.whatChanged, ∃ c ∈ cleanOf claims, c.claimLevel.isFact = true ∧
    c.claimId ∈ row.node.evidenceClaimIds ∧ row.node = metricNode row.node.metric c

/-- The levels are not looked at when the rows are made: they show facts exactly where the claim
that decides each of the five metrics happens to be one, or cannot be told from one. -/
theorem whatChanged_citesFacts_iff (claims : List (AIClaim String)) (temporalConsistent : Json) :
    CitesFacts claims (assess claims temporalConsistent).dashboard ↔
      ∀ metric ∈ changedMetrics, ∀ c, Decides (cleanOf claims) metric c →
        ∃ d ∈ cleanOf claims, d.claimLevel.isFact = true ∧ LooksLike c d := by
  constructor
  · intro hcites metric hmetric c hc
    obtain ⟨d,hd,hfact,-,hnode⟩ := hcites _ (mem_whatChanged_iff.mpr ⟨metric,hmetric,c,hc,rfl⟩)
    exact madeOf_iff.mp ⟨d,hd,hfact,hnode⟩
  · intro hfacts row hrow
    obtain ⟨metric,hmetric,c,hc,rfl⟩ := mem_whatChanged_iff.mp hrow
    obtain ⟨d,hd,hfact,hlike⟩ := hfacts metric hmetric c hc
    exact ⟨d,hd,hfact,List.mem_singleton.mpr hlike.claimId,(metricNode_eq_iff metric).mpr hlike⟩

/-- An interpretation of the revenue, with a quotation. -/
def interpretedOutput : Json := .obj [("claims",.arr [.obj [
  ("claim_id",.str "c1"), ("claim",.str "營收成長 10% 可能來自新產品"),
  ("claim_level",.str "interpretation"),
  ("evidence",.arr [.obj [("page",.str "3"), ("quoted_text",.str "營收成長 10%")]])]])]

/-- The interpretation becomes a row of what changed. -/
theorem interpretedOutput_changed : ∃ parsed claims,
    parseClaims (fun _ => "u") interpretedOutput "d1" true = .ok parsed ∧
    parsed.mapM AIClaim.validate = .ok claims ∧
    ¬ CitesFacts claims (assess claims (.bool true)).dashboard := by
  have hrun : (fun claims => (claims.map (·.claimLevel),
      (assess claims (.bool true)).dashboard.whatChanged.length)) <$>
      (parseClaims (fun _ => "u") interpretedOutput "d1" true >>=
        fun parsed => parsed.mapM AIClaim.validate) = .ok ([.interpretation],1) := by
    decide +kernel
  obtain ⟨parsed,claims,hparsed,hvalid,hshape⟩ := map_bind_eq_ok.mp hrun
  obtain ⟨hlevels,hrows⟩ := Prod.mk.inj hshape
  refine ⟨parsed,claims,hparsed,hvalid,?_⟩
  intro hcites
  obtain ⟨row,hrow⟩ := List.exists_mem_of_length_pos (by rw [hrows]; decide)
  obtain ⟨c,hc,hfact,-,-⟩ := hcites row hrow
  have hlevel : c.claimLevel ∈ claims.map (·.claimLevel) :=
    List.mem_map_of_mem (List.mem_filter.mp hc).1
  rw [hlevels, List.mem_singleton] at hlevel
  rw [hlevel] at hfact
  exact absurd hfact Bool.false_ne_true

/-- Every cited claim has evidence. -/
def Backed (claims : List (AIClaim String)) (ids : List String) : Prop :=
  ∀ id ∈ ids, ∃ c ∈ cleanOf claims, c.claimId = id ∧ c.evidence ≠ []

def marginSeverity (drop : ℚ) : Severity :=
  if 10 ≤ drop then .high else if 5 ≤ drop then .medium else .low

/-- The main layer of a dashboard rests on claims with evidence: what it cites, what its metrics
say, and what the severity of the pressure on the margin is taken from. -/
structure EvidenceBound (claims : List (AIClaim String)) (p : DashboardPayload) : Prop where
  metrics : ∀ m ∈ p.metrics, Backed claims m.evidenceClaimIds
  changed : ∀ row ∈ p.whatChanged, Backed claims row.node.evidenceClaimIds
  edges : ∀ e ∈ p.causalEdges, Backed claims e.evidenceClaimIds
  determined : ∀ m ∈ p.metrics, MadeOf (fun c => c.evidence ≠ []) (cleanOf claims) m
  severity : ∀ r ∈ p.riskSurface, r.riskId = "margin_pressure" → r.severity = .low ∨
    ∃ c ∈ cleanOf claims, c.evidence ≠ [] ∧ matchMetric c.claim = some .grossMargin ∧
      ∃ delta < 0, extractDelta c.claim = some delta ∧ r.severity = marginSeverity |delta|

/-- The falls of the gross margin that the rows show. -/
def marginDrops (rows : List ChangedRow) : List ℚ :=
  rows.filterMap (fun w =>
    if w.node.metric = .grossMargin then
      w.node.deltaPct.bind (fun delta => if delta < 0 then some |delta| else none)
    else none)

theorem grossMarginDrop_eq (rows : List ChangedRow) :
    grossMarginDrop rows = (marginDrops rows).head?.getD 0 := rfl

theorem mem_marginDrops_iff {cleanClaims : List (AIClaim String)} {drop : ℚ} :
    drop ∈ marginDrops (whatChanged (collectMetrics cleanClaims)) ↔
      ∃ c, Decides cleanClaims .grossMargin c ∧
        ∃ delta < 0, extractDelta c.claim = some delta ∧ drop = |delta| := by
  rw [marginDrops, List.mem_filterMap]
  constructor
  · intro hparts
    obtain ⟨row,hrow,hdrop⟩ := hparts
    obtain ⟨metric,-,c,hc,rfl⟩ := mem_whatChanged_iff.mp hrow
    split at hdrop
    · rename_i hmargin
      obtain rfl : metric = .grossMargin := hmargin
      obtain ⟨delta,hdelta,hdrop⟩ := Option.bind_eq_some_iff.mp hdrop
      rw [metricNode_deltaPct] at hdelta
      split at hdrop
      · rename_i hneg
        exact ⟨c,hc,delta,hneg,hdelta,(Option.some.inj hdrop).symm⟩
      · exact absurd hdrop.symm (Option.some_ne_none _)
    · exact absurd hdrop.symm (Option.some_ne_none _)
  · intro hparts
    obtain ⟨c,hc,delta,hneg,hdelta,rfl⟩ := hparts
    refine ⟨_,mem_whatChanged_iff.mpr ⟨.grossMargin,by decide,c,hc,rfl⟩,?_⟩
    have hmargin : (metricNode .grossMargin c).metric = .grossMargin := rfl
    simp only [hmargin, if_true, metricNode_deltaPct, hdelta, Option.bind_some, hneg]

/-- The fall of the gross margin is the one that its deciding claim reports. -/
theorem marginPressureRisk_severity (cleanClaims : List (AIClaim String)) :
    (marginPressureRisk (whatChanged (collectMetrics cleanClaims))).severity = .low ∨
      ∃ c, Decides cleanClaims .grossMargin c ∧ ∃ delta < 0, extractDelta c.claim = some delta ∧
        (marginPressureRisk (whatChanged (collectMetrics cleanClaims))).severity =
          marginSeverity |delta| := by
  have hseverity : (marginPressureRisk (whatChanged (collectMetrics cleanClaims))).severity =
      marginSeverity (grossMarginDrop (whatChanged (collectMetrics cleanClaims))) := rfl
  rw [hseverity, grossMarginDrop_eq]
  cases hdrops : (marginDrops (whatChanged (collectMetrics cleanClaims))).head? with
  | none =>
    refine Or.inl ?_
    norm_num [marginSeverity]
  | some drop =>
    obtain ⟨c,hc,delta,hneg,hdelta,rfl⟩ := mem_marginDrops_iff.mp (List.mem_of_head? hdrops)
    exact Or.inr ⟨c,hc,delta,hneg,hdelta,rfl⟩

/-- Evidence is not looked at either: the main layer rests on it exactly where the claim that
decides each metric happens to have some, or cannot be told from one that has. -/
theorem dashboard_evidenceBound_iff (claims : List (AIClaim String))
    (temporalConsistent : Json) :
    EvidenceBound claims (assess claims temporalConsistent).dashboard ↔
      ∀ metric c, Decides (cleanOf claims) metric c →
        ∃ d ∈ cleanOf claims, d.evidence ≠ [] ∧ LooksLike c d := by
  constructor
  · intro hbound metric c hc
    exact madeOf_iff.mp (hbound.determined _ (mem_metrics_iff.mpr ⟨metric,c,hc,rfl⟩))
  · intro hdecides
    have hcited : ∀ metric c, Decides (cleanOf claims) metric c →
        ∃ d ∈ cleanOf claims, d.claimId = c.claimId ∧ d.evidence ≠ [] := by
      intro metric c hc
      obtain ⟨d,hd,hevidence,hlike⟩ := hdecides metric c hc
      exact ⟨d,hd,hlike.claimId,hevidence⟩
    refine ⟨?_,?_,?_,?_,?_⟩
    · intro m hm id hid
      obtain ⟨metric,c,hc,rfl⟩ := mem_metrics_iff.mp hm
      obtain rfl := List.mem_singleton.mp hid
      exact hcited metric c hc
    · intro row hrow id hid
      obtain ⟨metric,-,c,hc,rfl⟩ := mem_whatChanged_iff.mp hrow
      obtain rfl := List.mem_singleton.mp hid
      exact hcited metric c hc
    · intro e he id hid
      obtain ⟨source,target,c,d,hc,hd,hids⟩ := evidence_of_causalEdge he
      rw [hids, List.mem_cons, List.mem_singleton] at hid
      rcases hid with rfl | rfl
      · exact hcited source c hc
      · exact hcited target d hd
    · intro m hm
      obtain ⟨metric,c,hc,rfl⟩ := mem_metrics_iff.mp hm
      exact madeOf_iff.mpr (hdecides metric c hc)
    · intro r hr hrisk
      have hmem : marginPressureRisk (whatChanged (collectMetrics (cleanOf claims))) ∈
          riskSurface (cleanOf claims) (whatChanged (collectMetrics (cleanOf claims))) := by
        simp [riskSurface]
      have hmargin : r = marginPressureRisk (whatChanged (collectMetrics (cleanOf claims))) :=
        riskSurface_inj hr hmem hrisk
      rw [hmargin]
      rcases marginPressureRisk_severity (cleanOf claims) with hlow | hfall
      · exact Or.inl hlow
      · obtain ⟨c,hc,delta,hneg,hdelta,hseverity⟩ := hfall
        obtain ⟨d,hd,hevidence,hlike⟩ := hdecides .grossMargin c hc
        refine Or.inr ⟨d,hd,hevidence,?_,delta,hneg,?_,hseverity⟩
        · rw [hlike.claim]
          exact hc.mem.2
        · rw [hlike.claim]
          exact hdelta

/-- A fall of the gross margin without any evidence. -/
def unprovenOutput : Json := .obj [("claims",.arr [.obj [
  ("claim_id",.str "c1"), ("claim",.str "毛利率下降 12 pp"),
  ("claim_level",.str "observed_fact"), ("materiality",.str "tier_a"), ("evidence",.arr [])]])]

/-- The unproven fall raises the pressure on the margin to the highest severity. -/
theorem unprovenOutput_high : ∃ parsed claims,
    parseClaims (fun _ => "u") unprovenOutput "d1" true = .ok parsed ∧
    parsed.mapM AIClaim.validate = .ok claims ∧
    (assess claims (.bool true)).dashboard.riskSurface.map (·.severity) =
      [.medium,.high,.medium,.low] ∧
    ¬ EvidenceBound claims (assess claims (.bool true)).dashboard := by
  have hrun : (fun claims => (claims.map (·.evidence),
      (assess claims (.bool true)).dashboard.metrics.length,
      (assess claims (.bool true)).dashboard.riskSurface.map (·.severity))) <$>
      (parseClaims (fun _ => "u") unprovenOutput "d1" true >>=
        fun parsed => parsed.mapM AIClaim.validate) =
        .ok ([[]],1,[.medium,.high,.medium,.low]) := by
    decide +kernel
  obtain ⟨parsed,claims,hparsed,hvalid,hshape⟩ := map_bind_eq_ok.mp hrun
  obtain ⟨hevidence,hrest⟩ := Prod.mk.inj hshape
  obtain ⟨hmetrics,hseverities⟩ := Prod.mk.inj hrest
  refine ⟨parsed,claims,hparsed,hvalid,hseverities,?_⟩
  intro hbound
  obtain ⟨m,hm⟩ := List.exists_mem_of_length_pos (by rw [hmetrics]; decide)
  obtain ⟨c,hc,hne,-⟩ := hbound.determined m hm
  have hnone : c.evidence ∈ claims.map (·.evidence) :=
    List.mem_map_of_mem (List.mem_filter.mp hc).1
  rw [hevidence, List.mem_singleton] at hnone
  exact hne hnone

end FinancialPdfReader
