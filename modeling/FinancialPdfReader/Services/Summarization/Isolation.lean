import FinancialPdfReader.Services.ReasoningPatterns
import FinancialPdfReader.Services.Summarization.MetricSources

namespace FinancialPdfReader

open Py

def isOc1Trigger (c : AIClaim String) : Bool :=
  !c.recurring && (c.sectionKey == .accountingAdjustments || c.sectionKey == .keyFinancials) &&
    anyIn oc1TriggerKeywords c.claim

def isOc1Adjustment (c : AIClaim String) : Bool :=
  c.claimLevel == .derivedMetric && c.sectionKey == .accountingAdjustments &&
    anyIn oc1AdjustmentKeywords c.claim

def mentionsLiquidity (keywords : List String) (c : AIClaim String) : Bool :=
  c.sectionKey == .liquidity && containsAny c.claim keywords

def isOc2Safety (c : AIClaim String) : Bool :=
  c.claimLevel == .derivedMetric && c.sectionKey == .liquidity &&
    containsAny c.claim oc2SafetyKeywords

/-- Non-recurring margin items that no adjusted margin answers. -/
structure Oc1Open (claims : List (AIClaim String)) : Prop where
  trigger : ∃ c ∈ claims, isOc1Trigger c = true
  unadjusted : ∀ c ∈ claims, isOc1Adjustment c = false

/-- Cash beside debt or dividends that no safety margin answers. -/
structure Oc2Open (claims : List (AIClaim String)) : Prop where
  cash : ∃ c ∈ claims, mentionsLiquidity oc2CashKeywords c = true
  debt : ∃ c ∈ claims, mentionsLiquidity oc2DebtKeywords c = true
  unguarded : ∀ c ∈ claims, isOc2Safety c = false

/-- The beginnings of the first two margin items, as the warning lists them. -/
def oc1Named (claims : List (AIClaim String)) : String :=
  "; ".intercalate (((claims.filter isOc1Trigger).take 2).map (fun c => take 30 c.claim))

theorem oc1Warning_of_open {claims : List (AIClaim String)} (h : Oc1Open claims) :
    oc1Warning claims = ["OC-1: 存在非常態毛利項目（" ++ oc1Named claims ++
      "...）但缺少調整後毛利率 derived_metric"] := by
  have htriggers : (claims.filter isOc1Trigger).isEmpty = false := by
    obtain ⟨c,hc,htrigger⟩ := h.trigger
    rw [List.isEmpty_eq_false_iff]
    exact List.ne_nil_of_mem (List.mem_filter.mpr ⟨hc,htrigger⟩)
  have hadjusted : claims.any isOc1Adjustment = false := by
    rw [List.any_eq_false]
    intro c hc
    rw [h.unadjusted c hc]
    decide
  change (if !(claims.filter isOc1Trigger).isEmpty && !claims.any isOc1Adjustment then _ else _) = _
  rw [htriggers, hadjusted]
  rfl

theorem oc1Warning_of_not_open {claims : List (AIClaim String)} (h : ¬ Oc1Open claims) :
    oc1Warning claims = [] := by
  change (if !(claims.filter isOc1Trigger).isEmpty && !claims.any isOc1Adjustment then _ else _) = _
  rw [if_neg]
  intro hopen
  rw [Bool.and_eq_true, Bool.not_eq_true', Bool.not_eq_true'] at hopen
  refine h ⟨?_,?_⟩
  · rw [List.isEmpty_eq_false_iff] at hopen
    obtain ⟨c,hc⟩ := List.exists_mem_of_ne_nil _ hopen.1
    exact ⟨c,List.mem_filter.mp hc⟩
  · intro c hc
    simpa using List.any_eq_false.mp hopen.2 c hc

theorem oc2Warning_of_open {claims : List (AIClaim String)} (h : Oc2Open claims) :
    oc2Warning claims =
      ["OC-2: 現金與短借/可轉債/股利並存但缺少現金安全墊 derived_metric（liquidity）"] := by
  have hcash : claims.any (mentionsLiquidity oc2CashKeywords) = true := List.any_eq_true.mpr h.cash
  have hdebt : claims.any (mentionsLiquidity oc2DebtKeywords) = true := List.any_eq_true.mpr h.debt
  have hsafety : claims.any isOc2Safety = false := by
    rw [List.any_eq_false]
    intro c hc
    rw [h.unguarded c hc]
    decide
  change (if claims.any (mentionsLiquidity oc2CashKeywords) &&
    claims.any (mentionsLiquidity oc2DebtKeywords) && !claims.any isOc2Safety then _ else _) = _
  rw [hcash, hdebt, hsafety]
  rfl

theorem oc2Warning_of_not_open {claims : List (AIClaim String)} (h : ¬ Oc2Open claims) :
    oc2Warning claims = [] := by
  change (if claims.any (mentionsLiquidity oc2CashKeywords) &&
    claims.any (mentionsLiquidity oc2DebtKeywords) && !claims.any isOc2Safety then _ else _) = _
  rw [if_neg]
  intro hopen
  rw [Bool.and_eq_true, Bool.and_eq_true, Bool.not_eq_true'] at hopen
  refine h ⟨List.any_eq_true.mp hopen.1.1,List.any_eq_true.mp hopen.1.2,?_⟩
  intro c hc
  simpa using List.any_eq_false.mp hopen.2 c hc

/-- The two warnings can be told apart by how they begin. -/
private def isOc1Text (warning : String) : Bool := warning.toList.take 4 == "OC-1".toList

private theorem filter_checkCompleteness (claims : List (AIClaim String)) :
    (checkCompleteness claims).filter isOc1Text = oc1Warning claims ∧
      (checkCompleteness claims).filter (fun w => !isOc1Text w) = oc2Warning claims := by
  have hfirst : ∀ w ∈ oc1Warning claims, isOc1Text w = true := by
    intro w hw
    by_cases hopen : Oc1Open claims
    · rw [oc1Warning_of_open hopen, List.mem_singleton] at hw
      rw [hw, isOc1Text, String.toList_append, String.toList_append, List.append_assoc]
      rfl
    · rw [oc1Warning_of_not_open hopen] at hw
      contradiction
  have hsecond : ∀ w ∈ oc2Warning claims, isOc1Text w = false := by
    intro w hw
    by_cases hopen : Oc2Open claims
    · rw [oc2Warning_of_open hopen, List.mem_singleton] at hw
      rw [hw]
      decide
    · rw [oc2Warning_of_not_open hopen] at hw
      contradiction
  rw [checkCompleteness, List.filter_append, List.filter_append]
  constructor
  · rw [List.filter_eq_self.mpr hfirst, List.filter_eq_nil_iff.mpr (by simpa using hsecond),
      List.append_nil]
  · rw [List.filter_eq_nil_iff.mpr (by simpa using hfirst),
      List.filter_eq_self.mpr (by simpa using hsecond), List.nil_append]

/-- The two rules stand alike over two lists of claims: open over both or over neither, and with
the same margin items named. -/
structure SameOpenRules (claims claims' : List (AIClaim String)) : Prop where
  oc1 : Oc1Open claims ↔ Oc1Open claims'
  named : Oc1Open claims → oc1Named claims = oc1Named claims'
  oc2 : Oc2Open claims ↔ Oc2Open claims'

private theorem oc1Warning_eq_iff (claims claims' : List (AIClaim String)) :
    oc1Warning claims = oc1Warning claims' ↔ (Oc1Open claims ↔ Oc1Open claims') ∧
      (Oc1Open claims → oc1Named claims = oc1Named claims') := by
  by_cases hopen : Oc1Open claims
  · by_cases hopen' : Oc1Open claims'
    · rw [oc1Warning_of_open hopen, oc1Warning_of_open hopen', List.singleton_inj,
        String.append_left_inj, String.append_right_inj]
      simp [hopen, hopen']
    · rw [oc1Warning_of_open hopen, oc1Warning_of_not_open hopen']
      simp [hopen, hopen']
  · by_cases hopen' : Oc1Open claims'
    · rw [oc1Warning_of_not_open hopen, oc1Warning_of_open hopen']
      simp [hopen, hopen']
    · rw [oc1Warning_of_not_open hopen, oc1Warning_of_not_open hopen']
      simp [hopen, hopen']

private theorem oc2Warning_eq_iff (claims claims' : List (AIClaim String)) :
    oc2Warning claims = oc2Warning claims' ↔ (Oc2Open claims ↔ Oc2Open claims') := by
  by_cases hopen : Oc2Open claims
  · by_cases hopen' : Oc2Open claims'
    · simp [oc2Warning_of_open hopen, oc2Warning_of_open hopen', hopen, hopen']
    · simp [oc2Warning_of_open hopen, oc2Warning_of_not_open hopen', hopen, hopen']
  · by_cases hopen' : Oc2Open claims'
    · simp [oc2Warning_of_not_open hopen, oc2Warning_of_open hopen', hopen, hopen']
    · simp [oc2Warning_of_not_open hopen, oc2Warning_of_not_open hopen', hopen, hopen']

theorem checkCompleteness_eq_iff (claims claims' : List (AIClaim String)) :
    checkCompleteness claims = checkCompleteness claims' ↔ SameOpenRules claims claims' := by
  obtain ⟨hfirst,hsecond⟩ := filter_checkCompleteness claims
  obtain ⟨hfirst',hsecond'⟩ := filter_checkCompleteness claims'
  constructor
  · intro heq
    rw [heq, hfirst'] at hfirst
    rw [heq, hsecond'] at hsecond
    obtain ⟨hopen,hnamed⟩ := (oc1Warning_eq_iff claims claims').mp hfirst.symm
    exact ⟨hopen,hnamed,(oc2Warning_eq_iff claims claims').mp hsecond.symm⟩
  · intro h
    have hfirst := (oc1Warning_eq_iff claims claims').mpr ⟨h.oc1,h.named⟩
    have hsecond := (oc2Warning_eq_iff claims claims').mpr h.oc2
    rw [checkCompleteness, checkCompleteness, hfirst, hsecond]

/-- A dashboard apart from the one number that counts the contaminated claims. -/
def DashboardPayload.uncounted (p : DashboardPayload) : DashboardPayload :=
  { p with transparency := { p.transparency with contaminatedCount := 0 } }

/-- Nothing that is made of the claims tells the two lists apart. -/
structure Isolated (claims claims' : List (AIClaim String)) (temporalConsistent : Json) : Prop where
  evidenceStatus : (assess claims temporalConsistent).evidenceStatus =
    (assess claims' temporalConsistent).evidenceStatus
  densityScore : (assess claims temporalConsistent).narrativeDensityScore =
    (assess claims' temporalConsistent).narrativeDensityScore
  densityWeightedScore : (assess claims temporalConsistent).narrativeDensityWeightedScore =
    (assess claims' temporalConsistent).narrativeDensityWeightedScore
  narrativeFlag : (assess claims temporalConsistent).narrativeFlag =
    (assess claims' temporalConsistent).narrativeFlag
  completenessWarnings : (assess claims temporalConsistent).completenessWarnings =
    (assess claims' temporalConsistent).completenessWarnings
  dashboard : (assess claims temporalConsistent).dashboard.uncounted =
    (assess claims' temporalConsistent).dashboard.uncounted
  patterns : ∀ (runId : String) (now : Nat) (db db' : Database) (runs : List PatternRunReport)
    (documentId : String) (report report' : AIReport),
    db.document? documentId = db'.document? documentId →
    db.latestReport? documentId = some report → report.claims = claims →
    db'.latestReport? documentId = some report' → report'.claims = claims' →
    runPatternAnalysis runId now db runs documentId =
      runPatternAnalysis runId now db' runs documentId

/-- The contaminated claims count for nothing but the completeness warnings, so that two lists
with the same clean claims are told apart exactly where one of the two rules is. -/
theorem isolated_iff {claims claims' : List (AIClaim String)}
    (hclean : cleanOf claims = cleanOf claims') (temporalConsistent : Json) :
    Isolated claims claims' temporalConsistent ↔ SameOpenRules claims claims' := by
  have hsame : claims.filter (fun c => !c.contaminated) =
      claims'.filter (fun c => !c.contaminated) := hclean
  constructor
  · intro hisolated
    exact (checkCompleteness_eq_iff claims claims').mp hisolated.completenessWarnings
  · intro hrules
    refine ⟨?_,?_,?_,?_,(checkCompleteness_eq_iff claims claims').mpr hrules,?_,?_⟩
    · simp only [assess, hsame]
    · simp only [assess, hsame]
    · simp only [assess, hsame]
    · simp only [assess, hsame]
    · simp only [assess, hsame, DashboardPayload.uncounted, buildDashboardPayload]
    · intro runId now db db' runs documentId report report' hdoc hreport hclaims hreport' hclaims'
      apply runPatternAnalysis_congr hdoc hreport hreport'
      rw [hclaims, hclaims']
      exact hsame

/-- A contaminated margin item, and nothing else. -/
def contaminatedOutput : Json := .obj [("claims",.arr [.obj [
  ("claim_id",.str "c1"), ("claim",.str "存貨跌價迴轉利益 3 億元"), ("recurring",.bool false),
  ("contaminated",.bool true),
  ("evidence",.arr [.obj [("page",.str "3"), ("quoted_text",.str "迴轉利益 3 億元")]])]])]

private theorem contaminatedOutput_claims : ∃ parsed claims,
    parseClaims (fun _ => "u") contaminatedOutput "d1" true = .ok parsed ∧
    parsed.mapM AIClaim.validate = .ok claims ∧ cleanOf claims = cleanOf [] ∧
    (checkCompleteness claims).length = 1 := by
  have hrun : (fun claims => (cleanOf claims,(checkCompleteness claims).length)) <$>
      (parseClaims (fun _ => "u") contaminatedOutput "d1" true >>=
        fun parsed => parsed.mapM AIClaim.validate) = .ok ([],1) := by
    decide +kernel
  obtain ⟨parsed,claims,hparsed,hvalid,hshape⟩ := map_bind_eq_ok.mp hrun
  obtain ⟨hclean,hwarnings⟩ := Prod.mk.inj hshape
  exact ⟨parsed,claims,hparsed,hvalid,hclean,hwarnings⟩

theorem isolated_iff_contaminatedOutput : ∃ parsed claims,
    parseClaims (fun _ => "u") contaminatedOutput "d1" true = .ok parsed ∧
    parsed.mapM AIClaim.validate = .ok claims ∧
    (Isolated claims [] (.bool true) ↔ SameOpenRules claims []) := by
  obtain ⟨parsed,claims,hparsed,hvalid,hclean,-⟩ := contaminatedOutput_claims
  exact ⟨parsed,claims,hparsed,hvalid,isolated_iff hclean (.bool true)⟩

/-- A contaminated claim raises a warning that is not there without it. -/
theorem contaminatedOutput_warns : ∃ parsed claims,
    parseClaims (fun _ => "u") contaminatedOutput "d1" true = .ok parsed ∧
    parsed.mapM AIClaim.validate = .ok claims ∧ cleanOf claims = cleanOf [] ∧
    ¬ Isolated claims [] (.bool true) := by
  obtain ⟨parsed,claims,hparsed,hvalid,hclean,hwarnings⟩ := contaminatedOutput_claims
  refine ⟨parsed,claims,hparsed,hvalid,hclean,?_⟩
  intro hisolated
  have hsame : checkCompleteness claims = checkCompleteness [] := hisolated.completenessWarnings
  rw [hsame] at hwarnings
  exact absurd hwarnings (by decide)

end FinancialPdfReader
