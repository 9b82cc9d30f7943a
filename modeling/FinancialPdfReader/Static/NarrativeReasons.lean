import FinancialPdfReader.Static.Narrative
import FinancialPdfReader.Services.Summarization.RiskRows

namespace FinancialPdfReader

open Py

section Rows

variable {cleanClaims : List (AIClaim String)}

/-- The page finds the row of a metric pointing down exactly where its deciding claim does. -/
theorem pointsDown_iff {m : Metric} (hm : m ∈ changedMetrics) :
    pointsDown (Choices.text m)
      ((whatChanged (collectMetrics cleanClaims)).map ChangedRow.toJson) = true ↔
        Falls cleanClaims m := by
  have hrow : ∀ row ∈ whatChanged (collectMetrics cleanClaims), row.node.metric = m →
      ∃ c, Decides cleanClaims m c ∧ row.node = metricNode m c := by
    intro row hrow hmetric
    obtain ⟨metric,-,c,hc,rfl⟩ := mem_whatChanged_iff.mp hrow
    obtain rfl : metric = m := hmetric
    exact ⟨c,hc,rfl⟩
  rw [pointsDown]
  cases hfind : ((whatChanged (collectMetrics cleanClaims)).map ChangedRow.toJson).find?
      (hasText "metric_id" (Choices.text m)) with
  | none =>
    constructor
    · intro h
      exact absurd h Bool.false_ne_true
    · intro hfalls
      obtain ⟨c,hc,-⟩ := hfalls
      have hmem := mem_whatChanged_iff.mpr ⟨m,hm,c,hc,rfl⟩
      exact absurd ((hasText_metric m _).mpr rfl)
        (List.find?_eq_none.mp hfind _ (List.mem_map_of_mem hmem))
  | some x =>
    obtain ⟨row,hmem,rfl⟩ := List.mem_map.mp (List.mem_of_find?_eq_some hfind)
    obtain ⟨c,hc,hnode⟩ := hrow row hmem ((hasText_metric m row).mp (List.find?_some hfind))
    rw [Option.any_some, hasText_down, hnode, metricNode_direction]
    constructor
    · intro hdown
      exact ⟨c,hc,hdown⟩
    · intro hfalls
      obtain ⟨d,hd,hdown⟩ := hfalls
      rw [← metricNode_direction m d] at hdown
      rw [← metricNode_direction m c, hc.node_unique hd, hdown]

theorem ten_le_drop_iff :
    10 ≤ grossMarginDrop (whatChanged (collectMetrics cleanClaims)) ↔ SteepFall cleanClaims := by
  rw [grossMarginDrop_eq]
  cases hdrops : (marginDrops (whatChanged (collectMetrics cleanClaims))).head? with
  | none =>
    constructor
    · intro hle
      exact absurd hle (by norm_num)
    · intro hsteep
      obtain ⟨c,hc,delta,hdelta,hle⟩ := hsteep
      have hmem := mem_marginDrops_iff.mpr ⟨c,hc,delta,by linarith,hdelta,rfl⟩
      rw [List.head?_eq_none_iff.mp hdrops] at hmem
      exact absurd hmem List.not_mem_nil
  | some drop =>
    obtain ⟨c,hc,delta,hneg,hdelta,rfl⟩ := mem_marginDrops_iff.mp (List.mem_of_head? hdrops)
    rw [Option.getD_some, abs_of_neg hneg]
    constructor
    · intro hle
      exact ⟨c,hc,delta,hdelta,by linarith⟩
    · intro hsteep
      obtain ⟨d,hd,delta',hdelta',hle⟩ := hsteep
      have hsame := congrArg MetricNode.deltaPct (hc.node_unique hd)
      rw [metricNode_deltaPct, metricNode_deltaPct, hdelta, Option.mem_def.mp hdelta'] at hsame
      obtain rfl := Option.some.inj hsame
      linarith

/-- Only two of the risks are ever high: that of the customers, and that of the margin. -/
theorem filter_high_riskSurface (rows : List ChangedRow) :
    (riskSurface cleanClaims rows).filter (fun r => r.severity = .high) =
      (if (claimsOf .customerConcentration cleanClaims).isEmpty then []
        else [customerConcentrationRisk cleanClaims]) ++
      (if 10 ≤ grossMarginDrop rows then [marginPressureRisk rows] else []) := by
  have hcustomer : (customerConcentrationRisk cleanClaims).severity = .high ↔
      (claimsOf .customerConcentration cleanClaims).isEmpty = false := by
    change (if _ then Severity.medium else Severity.high) = .high ↔ _
    cases (claimsOf .customerConcentration cleanClaims).isEmpty <;> decide
  have hmargin : (marginPressureRisk rows).severity = .high ↔ 10 ≤ grossMarginDrop rows := by
    simp only [marginPressureRisk]
    split_ifs with hten <;> simp [hten]
  have hliquidity : (liquidityRisk cleanClaims).severity ≠ .high := by
    change (if _ then Severity.medium else Severity.low) ≠ .high
    cases (claimsOf .cash cleanClaims).isEmpty <;> decide
  have hfx : (fxExposureRisk cleanClaims).severity ≠ .high := by
    change (if _ then Severity.low else Severity.medium) ≠ .high
    cases (claimsOf .fx cleanClaims).isEmpty <;> decide
  rw [riskSurface]
  simp only [List.filter_cons, List.filter_nil, decide_eq_true_eq, hcustomer, hmargin, hliquidity,
    hfx, if_false]
  cases (claimsOf .customerConcentration cleanClaims).isEmpty with
  | true => rfl
  | false => rfl

/-- The signals that the page reads off a dashboard that was built. -/
def builtSignals (cleanClaims : List (AIClaim String)) : NarrativeSignals :=
  let rows := whatChanged (collectMetrics cleanClaims)
  narrativeSignals ((adjustments cleanClaims).map Adjustment.toJson)
    (((riskSurface cleanClaims rows).filter (fun r => r.severity = .high)).map RiskRow.toJson)
    (rows.map ChangedRow.toJson)

theorem builtSignals_allAdjNonRecurring :
    (builtSignals cleanClaims).allAdjNonRecurring = false :=
  allAdjNonRecurring_records (adjustments cleanClaims)

theorem builtSignals_adjustmentCount :
    0 < (builtSignals cleanClaims).adjustmentCount ↔ ∃ c ∈ cleanClaims, c.recurring = false := by
  change 0 < ((adjustments cleanClaims).map Adjustment.toJson).length ↔ _
  rw [List.length_map, adjustments, List.length_map, List.length_pos_iff_exists_mem]
  simp only [List.mem_filter, Bool.not_eq_true']

theorem builtSignals_revDown :
    (builtSignals cleanClaims).revDown = true ↔ Falls cleanClaims .revenue :=
  pointsDown_iff (m := .revenue) (by decide)

theorem builtSignals_margDown :
    (builtSignals cleanClaims).margDown = true ↔ Falls cleanClaims .grossMargin :=
  pointsDown_iff (m := .grossMargin) (by decide)

theorem builtSignals_cashOk : (builtSignals cleanClaims).cashOk = true := by
  simp only [builtSignals, narrativeSignals, filter_high_riskSurface]
  cases (claimsOf .customerConcentration cleanClaims).isEmpty <;> split_ifs <;> rfl

theorem builtSignals_hasMarginRisk :
    (builtSignals cleanClaims).hasMarginRisk = true ↔ SteepFall cleanClaims := by
  have hmargin : ∀ rows, 10 ≤ grossMarginDrop rows →
      (hasText "label" "Margin pressure" (marginPressureRisk rows).toJson &&
        hasText "trend" "up" (marginPressureRisk rows).toJson) = true := by
    intro rows hle
    have htrend : (marginPressureRisk rows).trend = .up := if_pos (by linarith)
    rw [Bool.and_eq_true]
    exact ⟨hasText_iff.mpr rfl,(hasText_choice (b := Trend.up) rfl).mpr htrend⟩
  have hcustomer : (hasText "label" "Margin pressure"
      (customerConcentrationRisk cleanClaims).toJson &&
        hasText "trend" "up" (customerConcentrationRisk cleanClaims).toJson) = false := rfl
  rw [← ten_le_drop_iff]
  simp only [builtSignals, narrativeSignals, filter_high_riskSurface]
  by_cases hle : 10 ≤ grossMarginDrop (whatChanged (collectMetrics cleanClaims))
  · simp [hle, hmargin _ hle]
  · cases (claimsOf .customerConcentration cleanClaims).isEmpty <;> simp [hle, hcustomer]

theorem steepFall_of_highRisks (h : 2 ≤ (builtSignals cleanClaims).highRiskCount) :
    SteepFall cleanClaims := by
  rw [← ten_le_drop_iff]
  by_contra hle
  simp only [builtSignals, narrativeSignals, filter_high_riskSurface, if_neg hle] at h
  revert h
  cases (claimsOf .customerConcentration cleanClaims).isEmpty <;> simp

/-- The page speaks of a structural pressure exactly where the margin fell steeply: two risks
are never high without that of the margin. -/
theorem builtSignals_structural_iff :
    (builtSignals cleanClaims).type = .structural ↔ SteepFall cleanClaims := by
  rw [NarrativeSignals.type]
  constructor
  · intro htype
    split at htype
    · rename_i hcond
      rcases Bool.or_eq_true_iff.mp hcond with hmargin | hcount
      · exact builtSignals_hasMarginRisk.mp (Bool.and_eq_true_iff.mp hmargin).1
      · exact steepFall_of_highRisks (of_decide_eq_true (Bool.and_eq_true_iff.mp hcount).1)
    · split at htype
      · exact absurd htype (by decide)
      · exact absurd htype (by decide)
  · intro hsteep
    rw [builtSignals_hasMarginRisk.mpr hsteep, builtSignals_margDown.mpr hsteep.falls]
    rfl

/-- What the page calls a fluctuation: a metric fell, and something is set apart. -/
def Fluctuates (cleanClaims : List (AIClaim String)) : Prop :=
  (Falls cleanClaims .revenue ∨ Falls cleanClaims .grossMargin) ∧
    ∃ c ∈ cleanClaims, c.recurring = false

theorem builtSignals_transient_iff : (builtSignals cleanClaims).type = .transient ↔
    ¬ SteepFall cleanClaims ∧ Fluctuates cleanClaims := by
  have hcond : (((builtSignals cleanClaims).revDown || (builtSignals cleanClaims).margDown) &&
      ((builtSignals cleanClaims).allAdjNonRecurring ||
        decide (0 < (builtSignals cleanClaims).adjustmentCount)) &&
      (builtSignals cleanClaims).cashOk) = true ↔ Fluctuates cleanClaims := by
    rw [builtSignals_cashOk, builtSignals_allAdjNonRecurring, Bool.and_true, Bool.false_or,
      Bool.and_eq_true, Bool.or_eq_true, decide_eq_true_eq, builtSignals_revDown,
      builtSignals_margDown, builtSignals_adjustmentCount]
    rfl
  rw [← builtSignals_structural_iff, ← hcond, NarrativeSignals.type]
  split
  · simp
  · split
    · rename_i hfluct
      simp [hfluct]
    · rename_i hfluct
      simp [hfluct]

/-- The reasons under a steep fall. -/
theorem found_of_steepFall (h : SteepFall cleanClaims) : (builtSignals cleanClaims).found =
    ["毛利率出現持續性下滑趨勢"] ++ reasonIf (builtSignals cleanClaims).hasConcentrationRisk
      "客戶集中度風險未獲充分揭露" ++ ["毛利下滑非一次性因素可解釋"] := by
  rw [NarrativeSignals.found, builtSignals_structural_iff.mpr h]
  simp only [builtSignals_hasMarginRisk.mpr h, builtSignals_margDown.mpr h.falls,
    builtSignals_allAdjNonRecurring, reasonIf, Bool.not_false, Bool.and_self, if_true]

theorem found_of_fluctuates (hsteep : ¬ SteepFall cleanClaims) (h : Fluctuates cleanClaims) :
    (builtSignals cleanClaims).found = reasonIf (builtSignals cleanClaims).revDown
      "營收下滑可追溯至具體遞延事件" ++ ["現金流動性維持穩健"] := by
  rw [NarrativeSignals.found, builtSignals_transient_iff.mpr ⟨hsteep,h⟩]
  simp [reasonIf, builtSignals_allAdjNonRecurring, builtSignals_cashOk]

theorem found_of_stable (hsteep : ¬ SteepFall cleanClaims) (h : ¬ Fluctuates cleanClaims) :
    (builtSignals cleanClaims).found =
      reasonIf (!(builtSignals cleanClaims).revDown) "營收維持穩定或正向成長" ++
      reasonIf (!(builtSignals cleanClaims).margDown) "毛利率無明顯惡化" ++
      ["流動性風險無虞"] := by
  have hstable : (builtSignals cleanClaims).type = .stable := by
    cases htype : (builtSignals cleanClaims).type with
    | structural => exact absurd (builtSignals_structural_iff.mp htype) hsteep
    | transient => exact absurd (builtSignals_transient_iff.mp htype).2 h
    | stable => rfl
  rw [NarrativeSignals.found, hstable]
  simp only [builtSignals_cashOk, reasonIf, if_true]

end Rows

/-- What the page says for the better is there in the dashboard. -/
structure AffirmationsBacked (p : DashboardPayload) (reasons : List String) : Prop where
  revenue : "營收維持穩定或正向成長" ∈ reasons → ∃ row ∈ p.whatChanged, row.node.metric = .revenue
  margin : "毛利率無明顯惡化" ∈ reasons → ∃ row ∈ p.whatChanged, row.node.metric = .grossMargin
  liquidity : "現金流動性維持穩健" ∈ reasons ∨ "流動性風險無虞" ∈ reasons →
    ∃ r ∈ p.riskSurface, r.riskId = "liquidity" ∧ r.severityReason = "cash_claim_present"

/-- Some claim is about the metric. -/
def Reported (cleanClaims : List (AIClaim String)) (metric : Metric) : Prop :=
  ∃ c ∈ cleanClaims, matchMetric c.claim = some metric

section Entries

variable {cleanClaims : List (AIClaim String)} {metric : Metric}

theorem Falls.reported (h : Falls cleanClaims metric) : Reported cleanClaims metric := by
  obtain ⟨c,hc,-⟩ := h
  exact ⟨c,hc.mem⟩

theorem exists_row_iff (metric : Metric) (hmetric : metric ∈ changedMetrics) :
    (∃ row ∈ whatChanged (collectMetrics cleanClaims), row.node.metric = metric) ↔
      Reported cleanClaims metric := by
  rw [Reported, ← exists_decides_iff]
  constructor
  · intro hparts
    obtain ⟨row,hrow,hrowMetric⟩ := hparts
    obtain ⟨other,-,c,hc,rfl⟩ := mem_whatChanged_iff.mp hrow
    obtain rfl : other = metric := hrowMetric
    exact ⟨c,hc⟩
  · intro hparts
    obtain ⟨c,hc⟩ := hparts
    exact ⟨_,mem_whatChanged_iff.mpr ⟨metric,hmetric,c,hc,rfl⟩,rfl⟩

theorem cash_claim_present_iff (rows : List ChangedRow) :
    (∃ r ∈ riskSurface cleanClaims rows, r.riskId = "liquidity" ∧
      r.severityReason = "cash_claim_present") ↔ Reported cleanClaims .cash := by
  have hreason : (liquidityRisk cleanClaims).severityReason = "cash_claim_present" ↔
      Reported cleanClaims .cash := by
    refine (ClaimRisk.row_present_iff .cash).trans ?_
    rw [← List.isEmpty_eq_false_iff, List.isEmpty_eq_false_iff_exists_mem, Reported]
    simp only [mem_claimsOf, ClaimRisk.metric]
  rw [← hreason]
  constructor
  · intro hparts
    obtain ⟨r,hr,hid,hpresent⟩ := hparts
    obtain rfl : r = liquidityRisk cleanClaims :=
      riskSurface_inj hr (by simp [riskSurface]) hid
    exact hpresent
  · intro hpresent
    exact ⟨liquidityRisk cleanClaims,by simp [riskSurface],rfl,hpresent⟩

end Entries

theorem mem_reasonIf {cond : Bool} {text x : String} :
    x ∈ reasonIf cond text ↔ cond = true ∧ x = text := by
  cases cond <;> simp [reasonIf]

/-- Whatever the page falls back to affirms nothing. -/
theorem mem_reasons_iff {s : NarrativeSignals} {x : String} (hx : x ≠ "財務指標未見重大異常") :
    x ∈ s.reasons ↔ x ∈ s.found := by
  rw [NarrativeSignals.reasons]
  split
  · rename_i hempty
    rw [List.isEmpty_iff.mp hempty]
    simp [hx]
  · rfl

section Displayed

variable {cleanClaims allClaims : List (AIClaim String)} {temporalConsistent data : Json}
  {narrativeFlag : Bool} {score weighted : ℚ}
  (hdata : data.field? "dashboard" = some (buildDashboardPayload cleanClaims allClaims
    temporalConsistent narrativeFlag score weighted).toJson)
include hdata

/-- What the page displays of a dashboard that was built. -/
theorem renderedNarrative_reasons :
    (renderedNarrative data).reasons = (builtSignals cleanClaims).reasons := by
  have hdashboard : jsOr (data.field? "dashboard") (.obj []) = (buildDashboardPayload cleanClaims
      allClaims temporalConsistent narrativeFlag score weighted).toJson := by
    rw [hdata]
    rfl
  obtain ⟨hadjustments,hrisks,hrows⟩ := listUnder_payload (buildDashboardPayload cleanClaims
    allClaims temporalConsistent narrativeFlag score weighted)
  have hhigh : hasText "severity" "high" ∘ RiskRow.toJson =
      fun r => decide (r.severity = .high) := by
    funext r
    rw [Function.comp_apply, Bool.eq_iff_iff, hasText_high, decide_eq_true_eq]
  simp only [renderedNarrative, computeNarrative, hdashboard, hadjustments, hrisks, hrows,
    List.filter_map, hhigh]
  rfl

theorem affirmationsBacked_found_iff :
    AffirmationsBacked (buildDashboardPayload cleanClaims allClaims temporalConsistent
      narrativeFlag score weighted) (renderedNarrative data).reasons ↔
    ("營收維持穩定或正向成長" ∈ (builtSignals cleanClaims).found →
      Reported cleanClaims .revenue) ∧
    ("毛利率無明顯惡化" ∈ (builtSignals cleanClaims).found →
      Reported cleanClaims .grossMargin) ∧
    ("現金流動性維持穩健" ∈ (builtSignals cleanClaims).found ∨
      "流動性風險無虞" ∈ (builtSignals cleanClaims).found → Reported cleanClaims .cash) := by
  rw [renderedNarrative_reasons hdata, ← exists_row_iff .revenue (by decide),
    ← exists_row_iff .grossMargin (by decide),
    ← cash_claim_present_iff (whatChanged (collectMetrics cleanClaims)),
    ← mem_reasons_iff (by decide), ← mem_reasons_iff (by decide), ← mem_reasons_iff (by decide),
    ← mem_reasons_iff (by decide)]
  constructor
  · intro h
    exact ⟨h.revenue,h.margin,h.liquidity⟩
  · intro hparts
    obtain ⟨hrevenue,hmargin,hliquidity⟩ := hparts
    exact ⟨hrevenue,hmargin,hliquidity⟩

/-- What the page says for the better is backed exactly where the margin fell steeply, so that it
says nothing of the kind, or where a claim is about cash and either something else fluctuates or
claims are about revenue and gross margin. -/
theorem affirmationsBacked_iff :
    AffirmationsBacked (buildDashboardPayload cleanClaims allClaims temporalConsistent
      narrativeFlag score weighted) (renderedNarrative data).reasons ↔
    SteepFall cleanClaims ∨ (Reported cleanClaims .cash ∧ (Fluctuates cleanClaims ∨
      (Reported cleanClaims .revenue ∧ Reported cleanClaims .grossMargin))) := by
  rw [affirmationsBacked_found_iff hdata]
  by_cases hsteep : SteepFall cleanClaims
  · simp [hsteep, found_of_steepFall, mem_reasonIf]
  · by_cases hfluct : Fluctuates cleanClaims
    · simp [hsteep, hfluct, found_of_fluctuates, mem_reasonIf]
    · have hrevenue : "營收維持穩定或正向成長" ∈ (builtSignals cleanClaims).found ↔
          ¬ Falls cleanClaims .revenue := by
        rw [found_of_stable hsteep hfluct, ← builtSignals_revDown]
        simp [mem_reasonIf]
      have hmargin : "毛利率無明顯惡化" ∈ (builtSignals cleanClaims).found ↔
          ¬ Falls cleanClaims .grossMargin := by
        rw [found_of_stable hsteep hfluct, ← builtSignals_margDown]
        simp [mem_reasonIf]
      have hliquidity : "流動性風險無虞" ∈ (builtSignals cleanClaims).found := by
        rw [found_of_stable hsteep hfluct]
        simp
      rw [hrevenue, hmargin]
      constructor
      · intro hparts
        obtain ⟨hr,hm,hl⟩ := hparts
        have hrevenueClaim := (Classical.em (Falls cleanClaims .revenue)).elim Falls.reported hr
        have hmarginClaim := (Classical.em (Falls cleanClaims .grossMargin)).elim Falls.reported hm
        exact Or.inr ⟨hl (Or.inr hliquidity),Or.inr ⟨hrevenueClaim,hmarginClaim⟩⟩
      · intro hcases
        rcases hcases with hfall | ⟨hcash,hfluct' | ⟨hr,hm⟩⟩
        · exact absurd hfall hsteep
        · exact absurd hfluct' hfluct
        · exact ⟨fun _ => hr,fun _ => hm,fun _ => hcash⟩

end Displayed

/-- The response about some claims, as far as the card is drawn from it. -/
def responseOf (cleanClaims : List (AIClaim String)) : Json := .obj [
  ("dashboard",(buildDashboardPayload cleanClaims cleanClaims (.bool true) false 0 0).toJson),
  ("claims",.arr (cleanClaims.map serializeClaim))]

theorem affirmationsBacked_iff_noClaims :
    AffirmationsBacked (buildDashboardPayload [] [] (.bool true) false 0 0)
      (renderedNarrative (responseOf [])).reasons ↔
    SteepFall [] ∨ (Reported [] .cash ∧ (Fluctuates [] ∨
      (Reported [] .revenue ∧ Reported [] .grossMargin))) :=
  affirmationsBacked_iff rfl

/-- Where nothing is known the page says that the revenue is stable or growing. -/
theorem noClaims_unbacked : ¬ AffirmationsBacked
    (buildDashboardPayload [] [] (.bool true) false 0 0)
      (renderedNarrative (responseOf [])).reasons := by
  intro h
  obtain ⟨row,hrow,-⟩ := h.revenue (by decide +kernel)
  exact List.not_mem_nil hrow

/-- What the page makes of the adjustments agrees with what they are. -/
structure AdjustmentsAgree (p : DashboardPayload) (data : Json) : Prop where
  all : allAdjNonRecurring (listUnder "adjustments" (jsOr (data.field? "dashboard") (.obj []))) =
    true ↔ p.adjustments ≠ []
  unexplained : "毛利下滑非一次性因素可解釋" ∈ (renderedNarrative data).reasons →
    p.adjustments = []

section Adjustments

variable {cleanClaims allClaims : List (AIClaim String)} {temporalConsistent data : Json}
  {narrativeFlag : Bool} {score weighted : ℚ}
  (hdata : data.field? "dashboard" = some (buildDashboardPayload cleanClaims allClaims
    temporalConsistent narrativeFlag score weighted).toJson)
include hdata

/-- The page says that no single item explains the fall of the margin wherever the fall is steep,
whether items are set apart or not. -/
theorem unexplained_iff : "毛利下滑非一次性因素可解釋" ∈ (renderedNarrative data).reasons ↔
    SteepFall cleanClaims := by
  rw [renderedNarrative_reasons hdata, mem_reasons_iff (by decide)]
  by_cases hsteep : SteepFall cleanClaims
  · simp [hsteep, found_of_steepFall]
  · by_cases hfluct : Fluctuates cleanClaims
    · simp [hsteep, hfluct, found_of_fluctuates, mem_reasonIf]
    · simp [hsteep, hfluct, found_of_stable, mem_reasonIf]

/-- The page never takes the adjustments for what they are, so that it agrees with the dashboard
exactly where there are none. -/
theorem adjustmentsAgree_iff :
    AdjustmentsAgree (buildDashboardPayload cleanClaims allClaims temporalConsistent
      narrativeFlag score weighted) data ↔ ∀ c ∈ cleanClaims, c.recurring = true := by
  have hfalse : allAdjNonRecurring (listUnder "adjustments"
      (jsOr (data.field? "dashboard") (.obj []))) = false := by
    rw [hdata]
    exact allAdjNonRecurring_records (adjustments cleanClaims)
  have hnone : adjustments cleanClaims = [] ↔ ∀ c ∈ cleanClaims, c.recurring = true := by
    rw [adjustments, List.map_eq_nil_iff, List.filter_eq_nil_iff]
    simp
  rw [← hnone]
  constructor
  · intro h
    by_contra hne
    exact absurd (hfalse.symm.trans (h.all.mpr hne)) Bool.false_ne_true
  · intro hnil
    refine ⟨?_,fun _ => hnil⟩
    rw [hfalse]
    exact ⟨fun heq => absurd heq Bool.false_ne_true,fun hne => absurd hnil hne⟩

end Adjustments

/-- A steep fall that a single item explains. -/
def oneOffFall : AIClaim String where
  claimId := "c1"
  claim := "Gross margin down 12% on a write-off"
  claimType := .financialObservation
  claimLevel := .observedFact
  materiality := .tierA
  sectionKey := .keyFinancials
  recurring := false
  contaminated := false
  sourceType := .financialEvidence
  forwardLooking := false
  rhetoricalRiskFlag := false
  rhetoricalRiskTerms := []
  attributionPrefix := ""
  evidence := [⟨"d1","3","損益表","毛利率下降 12%"⟩]
  confidence := .high
  requiresHumanReview := false

theorem adjustmentsAgree_iff_oneOffFall :
    AdjustmentsAgree (buildDashboardPayload [oneOffFall] [oneOffFall] (.bool true) false 0 0)
      (responseOf [oneOffFall]) ↔ ∀ c ∈ [oneOffFall], c.recurring = true :=
  adjustmentsAgree_iff rfl

/-- The page denies the item that the dashboard sets apart. -/
theorem oneOffFall_denied :
    "毛利下滑非一次性因素可解釋" ∈ (renderedNarrative (responseOf [oneOffFall])).reasons ∧
    ¬ AdjustmentsAgree (buildDashboardPayload [oneOffFall] [oneOffFall] (.bool true) false 0 0)
      (responseOf [oneOffFall]) := by
  have hdisplayed : "毛利下滑非一次性因素可解釋" ∈
      (renderedNarrative (responseOf [oneOffFall])).reasons := by decide +kernel
  refine ⟨hdisplayed,?_⟩
  intro h
  exact absurd (h.unexplained hdisplayed) (List.cons_ne_nil _ _)

end FinancialPdfReader
