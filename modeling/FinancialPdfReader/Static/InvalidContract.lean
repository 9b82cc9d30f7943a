import FinancialPdfReader.Services.DashboardContract.Serializer
import FinancialPdfReader.Static.Layers
import FinancialPdfReader.Static.ServedDashboard

namespace FinancialPdfReader

open Py

section Elsewhere

/-- Two pages of responses that differ in nothing but the dashboard. -/
structure SameElsewhere (p q : ResultsPage) : Prop where
  fields : ∀ key, key ≠ "dashboard" → p.data.field? key = q.data.field? key
  clean : p.cleanClaims = q.cleanClaims
  contaminated : p.contaminatedClaims = q.contaminatedClaims

namespace SameElsewhere

variable {p q : ResultsPage} (h : SameElsewhere p q)
include h

theorem reviewClaims : p.reviewClaims = q.reviewClaims := by
  rw [ResultsPage.reviewClaims, ResultsPage.reviewClaims, h.clean]

theorem reviewCount : p.reviewCount = q.reviewCount := by
  rw [ResultsPage.reviewCount, ResultsPage.reviewCount, h.reviewClaims]

theorem contractInvalid : p.contractInvalid = q.contractInvalid := by
  rw [ResultsPage.contractInvalid, ResultsPage.contractInvalid, h.fields _ (by decide)]

theorem periodOk : p.periodOk = q.periodOk := by
  rw [ResultsPage.periodOk, ResultsPage.periodOk, h.fields _ (by decide)]

theorem text (key : String) (hkey : key ≠ "dashboard") (fallback : String) :
    textOr key fallback p.data = textOr key fallback q.data := by
  rw [textOr, textOr, isTrue, isTrue, textAt, textAt, h.fields key hkey]

theorem header : p.header = q.header := by
  have hbadge : p.evBadge = q.evBadge := by
    rw [ResultsPage.evBadge, ResultsPage.evBadge, h.fields _ (by decide)]
  have hstock := h.text "stock_id" (by decide) ""
  have hperiod := h.text "period" (by decide) ""
  unfold ResultsPage.header
  rw [hbadge, h.reviewCount, hstock, hperiod]

theorem contractAlert : p.contractAlert = q.contractAlert := by
  rw [ResultsPage.contractAlert, ResultsPage.contractAlert, h.contractInvalid, listUnder, listUnder,
    h.fields _ (by decide)]

theorem periodSignal : p.periodSignal = q.periodSignal := by
  rw [ResultsPage.periodSignal, ResultsPage.periodSignal, h.periodOk]

theorem advSignal : p.advSignal = q.advSignal := by
  rw [ResultsPage.advSignal, ResultsPage.advSignal, ResultsPage.adviceDetected,
    ResultsPage.adviceDetected, isTrue, isTrue, h.fields _ (by decide)]

theorem temporalBanner : p.temporalBanner = q.temporalBanner := by
  have hrequested := h.text "requested_period" (by decide) ""
  have hdocument := h.text "document_period" (by decide) ""
  have hnote := h.text "temporal_note" (by decide) ""
  unfold ResultsPage.temporalBanner
  rw [h.periodOk, h.contaminated, hrequested, hdocument, hnote]

theorem keyFindingsSection : p.keyFindingsSection = q.keyFindingsSection := by
  unfold ResultsPage.keyFindingsSection ResultsPage.keyFindings
  rw [h.clean]

theorem reviewPanel : p.reviewPanel = q.reviewPanel := by
  unfold ResultsPage.reviewPanel
  rw [h.reviewClaims, h.reviewCount]

theorem explorer : p.explorer = q.explorer := by
  have hclaims : p.sectionClaims = q.sectionClaims := by
    funext key
    rw [ResultsPage.sectionClaims, ResultsPage.sectionClaims, h.clean]
  have hcontam : p.sectionContam = q.sectionContam := by
    funext key
    rw [ResultsPage.sectionContam, ResultsPage.sectionContam, h.contaminated]
  have htab : p.tab = q.tab := by
    funext i s
    rw [ResultsPage.tab, ResultsPage.tab, hclaims, hcontam]
  have hpane : p.claimsPane = q.claimsPane := by
    funext i key
    unfold ResultsPage.claimsPane
    rw [hclaims, hcontam]
  unfold ResultsPage.explorer
  rw [htab, hpane]

end SameElsewhere

end Elsewhere

section Response

/-- The response for a report whose dashboard does not meet the contract. -/
def invalidResponse (report : AIReport) (documentPeriod requestedPeriod : Json)
    (d : ServedDashboard) : Json :=
  .obj (serializeSummaryResponse
    { report with dashboard := d.json, dashboardContractValid := false }
    documentPeriod requestedPeriod)

variable {report : AIReport} {documentPeriod requestedPeriod : Json} (d e : ServedDashboard)

theorem dashboard_invalidResponse : (resultsPage (invalidResponse report documentPeriod
    requestedPeriod d)).dashboard = d.json := by
  obtain ⟨fields,hfields⟩ := d.object
  have hfield : (invalidResponse report documentPeriod requestedPeriod d).field? "dashboard" =
      some (d.json.orElse (.obj [])) := rfl
  have hdashboard : d.json.orElse (.obj []) = d.json := by
    rw [hfields]
    cases fields <;> rfl
  change jsOr ((invalidResponse report documentPeriod requestedPeriod d).field? "dashboard")
    (.obj []) = d.json
  rw [hfield, hdashboard, hfields]
  rfl

theorem sameElsewhere_invalidResponse :
    SameElsewhere (resultsPage (invalidResponse report documentPeriod requestedPeriod d))
      (resultsPage (invalidResponse report documentPeriod requestedPeriod e)) := by
  constructor
  · intro key hkey
    have hbeq : (key == "dashboard") = false := beq_false_of_ne hkey
    simp only [resultsPage, invalidResponse, serializeSummaryResponse, Json.field?,
      List.lookup_cons, hbeq]
  · rfl
  · rfl

/-- The card of a dashboard. -/
def ServedDashboard.card (cleanClaims : List Json) : NarrativeCard where
  type := d.signals.type
  icon := d.signals.type.icon
  colorCls := d.signals.type.colorCls
  sublabel := d.signals.type.sublabel
  confidence := d.signals.type.confidence
  reasons := d.signals.reasons
  watchPoints := d.signals.type.watchPoints
  drivingClaims := d.evidence cleanClaims
  conflictSignals := conflictSignals d.signals.type d.adjustments d.highRisk

theorem ServedDashboard.card_typed (cleanClaims : List Json) : (d.card cleanClaims).Typed :=
  ⟨rfl,rfl,rfl,rfl,rfl,rfl⟩

theorem rows_invalidResponse :
    let page := resultsPage (invalidResponse report documentPeriod requestedPeriod d)
    page.whatChanged = d.whatChanged ∧ page.riskRows = d.riskRows ∧ page.highRisk = d.highRisk ∧
      listUnder "adjustments" page.dashboard = d.adjustments := by
  intro page
  have hdashboard : page.dashboard = d.json := dashboard_invalidResponse d
  refine ⟨?_,?_,?_,?_⟩
  · change listUnder "what_changed" page.dashboard = d.whatChanged
    rw [hdashboard]
    rfl
  · change listUnder "risk_surface" page.dashboard = d.riskRows
    rw [hdashboard]
    rfl
  · change (listUnder "risk_surface" page.dashboard).filter (hasText "severity" "high") = d.highRisk
    rw [hdashboard]
    rfl
  · rw [hdashboard]
    rfl

theorem ServedDashboard.card_plain (cleanClaims : List Json) :
    (d.card cleanClaims).PlainConflict :=
  ⟨(conflictSignals_plain _ _ _).1,(conflictSignals_plain _ _ _).2⟩

/-- Only the card and the banner are left of the dashboard. -/
theorem renderResults_invalidResponse :
    let page := resultsPage (invalidResponse report documentPeriod requestedPeriod d)
    renderResults (invalidResponse report documentPeriod requestedPeriod d) =
      page.header ++ page.contractAlert ++ (d.card page.cleanClaims).html ++ page.decisionBanner ++
        page.temporalBanner ++ page.keyFindingsSection ++ page.reviewPanel ++ page.explorer := by
  intro page
  obtain ⟨hchanged,hrisks,hhigh,hadjustments⟩ :
      page.whatChanged = d.whatChanged ∧ page.riskRows = d.riskRows ∧ page.highRisk = d.highRisk ∧
        listUnder "adjustments" page.dashboard = d.adjustments := rows_invalidResponse d
  have hinvalid : page.contractInvalid = true := rfl
  have hcard : computeNarrative (invalidResponse report documentPeriod requestedPeriod d)
      page.highRisk page.riskRows page.cleanClaims page.whatChanged = d.card page.cleanClaims := by
    have hadjustments' : listUnder "adjustments" (jsOr ((invalidResponse report documentPeriod
        requestedPeriod d).field? "dashboard") (.obj [])) = d.adjustments := hadjustments
    unfold computeNarrative
    rw [hchanged, hrisks, hhigh]
    simp only [hadjustments']
    rfl
  have hrender : renderResults (invalidResponse report documentPeriod requestedPeriod d) =
      page.header ++ page.contractAlert ++
        (computeNarrative (invalidResponse report documentPeriod requestedPeriod d)
          page.highRisk page.riskRows page.cleanClaims page.whatChanged).html ++
        page.decisionBanner ++ page.temporalBanner ++
        htmlIf (!page.contractInvalid) page.mainLayers ++ page.keyFindingsSection ++
        page.reviewPanel ++ page.explorer := rfl
  rw [hrender, hcard, hinvalid, Bool.not_true, htmlIf, if_neg Bool.false_ne_true,
    String.append_empty]

theorem signals_plain :
    let page := resultsPage (invalidResponse report documentPeriod requestedPeriod d)
    page.revSignal.Plain ∧ page.covSignal.Plain := by
  intro page
  have hchanged : page.whatChanged = d.whatChanged := (rows_invalidResponse d).1
  refine ⟨revSignal_plain ?_,covSignal_plain page⟩
  rw [hchanged]
  exact d.changes

/-- The pages of two such responses are the same exactly where their cards and signals are. -/
theorem renderResults_eq_iff_parts :
    let p := resultsPage (invalidResponse report documentPeriod requestedPeriod d)
    let q := resultsPage (invalidResponse report documentPeriod requestedPeriod e)
    let c := d.card p.cleanClaims
    let c' := e.card q.cleanClaims
    renderResults (invalidResponse report documentPeriod requestedPeriod d) =
      renderResults (invalidResponse report documentPeriod requestedPeriod e) ↔
      c.type = c'.type ∧ c.reasons = c'.reasons ∧ c.evHtml = c'.evHtml ∧
        p.revSignal = q.revSignal ∧ p.covSignal = q.covSignal := by
  intro p q c c'
  have hsame : SameElsewhere p q := sameElsewhere_invalidResponse d e
  have hp : renderResults (invalidResponse report documentPeriod requestedPeriod d) =
      p.header ++ p.contractAlert ++ c.html ++ p.decisionBanner ++ p.temporalBanner ++
        p.keyFindingsSection ++ p.reviewPanel ++ p.explorer := renderResults_invalidResponse d
  have hq : renderResults (invalidResponse report documentPeriod requestedPeriod e) =
      q.header ++ q.contractAlert ++ c'.html ++ q.decisionBanner ++ q.temporalBanner ++
        q.keyFindingsSection ++ q.reviewPanel ++ q.explorer := renderResults_invalidResponse e
  rw [hp, hq, hsame.header, hsame.contractAlert, hsame.temporalBanner, hsame.keyFindingsSection,
    hsame.reviewPanel, hsame.explorer]
  simp only [String.append_left_inj]
  constructor
  · intro h
    simp only [String.append_assoc, String.append_right_inj] at h
    obtain ⟨htype,hreasons,h⟩ := NarrativeCard.html_inj (d.card_typed _) (e.card_typed _)
      (reasons_plain d.signals) (reasons_plain e.signals) h
    obtain ⟨h,hrev,hcov⟩ := decisionBanner_inj hsame.periodSignal hsame.advSignal
      (signals_plain d) (signals_plain e) h
    exact ⟨htype,hreasons,(String.append_left_inj _).mp h,hrev,hcov⟩
  · intro hparts
    obtain ⟨htype,hreasons,hevidence,hrev,hcov⟩ := hparts
    have hcard : c.html = c'.html :=
      NarrativeCard.html_congr (d.card_typed _) (e.card_typed _) htype hreasons hevidence
    have hbanner : p.decisionBanner = q.decisionBanner := by
      unfold ResultsPage.decisionBanner
      rw [hsame.periodSignal, hsame.advSignal, hrev, hcov]
    rw [hcard, hbanner]

/-- Different conclusions are told apart on the page. -/
theorem renderResults_ne (h : d.signals.type ≠ e.signals.type) :
    renderResults (invalidResponse report documentPeriod requestedPeriod d) ≠
      renderResults (invalidResponse report documentPeriod requestedPeriod e) :=
  fun heq => h ((renderResults_eq_iff_parts d e).mp heq).1

/-- The claims that the page shows of a report. -/
def shownClaims (report : AIReport) : List Json :=
  (report.claims.map serializeClaim).filter (fun c => !isTrue "contaminated" c)

end Response

/-- Of an invalid dashboard the card and two of the four signals are still shown. -/
theorem renderResults_eq_iff (report : AIReport) (documentPeriod requestedPeriod : Json)
    (d e : ServedDashboard) :
    renderResults (invalidResponse report documentPeriod requestedPeriod d) =
      renderResults (invalidResponse report documentPeriod requestedPeriod e) ↔
      SameShown (shownClaims report) d e := by
  have hparts : renderResults (invalidResponse report documentPeriod requestedPeriod d) =
      renderResults (invalidResponse report documentPeriod requestedPeriod e) ↔
      d.signals.type = e.signals.type ∧ d.signals.reasons = e.signals.reasons ∧
        (d.card (shownClaims report)).evHtml = (e.card (shownClaims report)).evHtml ∧
        (resultsPage (invalidResponse report documentPeriod requestedPeriod d)).revSignal =
          (resultsPage (invalidResponse report documentPeriod requestedPeriod e)).revSignal ∧
        (resultsPage (invalidResponse report documentPeriod requestedPeriod d)).covSignal =
          (resultsPage (invalidResponse report documentPeriod requestedPeriod e)).covSignal :=
    renderResults_eq_iff_parts d e
  have hrevenue : ∀ f : ServedDashboard,
      (resultsPage (invalidResponse report documentPeriod requestedPeriod f)).revSignal =
        revenueSignal f.revenueShown := by
    intro f
    rw [revSignal_eq, (rows_invalidResponse f).1, ServedDashboard.revenueShown]
  rw [hparts, hrevenue, hrevenue, revenueSignal_injective.eq_iff, covSignal_eq_iff,
    (rows_invalidResponse d).2.2.1, (rows_invalidResponse e).2.2.1,
    evHtml_eq_iff (d.card_plain _) (e.card_plain _)]
  constructor
  · intro h
    obtain ⟨htype,hreasons,⟨hcited,hevidence⟩,hrev,hany,hmany⟩ := h
    refine ⟨type_eq_iff.mp htype,(reasons_eq_iff htype).mp hreasons,hcited,?_,hrev,hany,hmany⟩
    intro hne
    obtain ⟨hitems,hconflicts⟩ := hevidence hne
    refine ⟨hitems,(conflictSignals_eq_iff _ d e).mp ?_⟩
    have hconflicts' : conflictSignals d.signals.type d.adjustments d.highRisk =
        conflictSignals e.signals.type e.adjustments e.highRisk := hconflicts
    rw [hconflicts', htype]
  · intro h
    have htype : d.signals.type = e.signals.type := type_eq_iff.mpr h.conclusion
    refine ⟨htype,(reasons_eq_iff htype).mpr h.reasons,⟨h.cited,?_⟩,h.revenue,h.anyRisk,
      h.manyRisks⟩
    intro hne
    obtain ⟨hitems,hconflict⟩ := h.evidence hne
    refine ⟨hitems,?_⟩
    change conflictSignals d.signals.type d.adjustments d.highRisk =
      conflictSignals e.signals.type e.adjustments e.highRisk
    rw [(conflictSignals_eq_iff _ d e).mpr hconflict, htype]

def fallingMarginClaim : AIClaim String where
  claimId := "c1"
  claim := "毛利率下降 12pp"
  claimType := .financialObservation
  claimLevel := .observedFact
  materiality := .tierA
  sectionKey := .keyFinancials
  recurring := true
  contaminated := false
  sourceType := .financialEvidence
  forwardLooking := false
  rhetoricalRiskFlag := false
  rhetoricalRiskTerms := []
  attributionPrefix := ""
  evidence := [⟨"d1","12","損益表","毛利率下降 12pp"⟩]
  confidence := .high
  requiresHumanReview := false

def unreliableReport : AIReport where
  reportId := "r1"
  documentId := "d1"
  stockId := "2330"
  period := "2025Q3"
  temporalConsistent := true
  temporalNote := ""
  executiveSummary := ""
  narrativeDensityScore := 0
  narrativeDensityWeightedScore := 0
  narrativeFlag := false
  claims := [fallingMarginClaim]
  evidenceStatus := .complete
  investmentAdviceDetected := false
  completenessWarnings := []
  dashboard := .obj []
  dashboardContractValid := false
  dashboardContractErrors := ["contract_version_mismatch"]
  chunksUsed := []
  pagesCovered := []
  createdAt := 0

/-- The dashboard of the claims of the report. -/
def steepFall : ServedDashboard := .ofPayload (buildDashboardPayload unreliableReport.claims
  unreliableReport.claims (.bool true) false 0 0)

/-- With it the page concludes that there is structural pressure, and without one that all is
well. -/
theorem steepFall_concluded : steepFall.signals.type = .structural ∧
    ServedDashboard.empty.signals.type = .stable ∧
    renderResults (invalidResponse unreliableReport .null .null steepFall) ≠
      renderResults (invalidResponse unreliableReport .null .null .empty) := by
  have hsteep : steepFall.signals.type = .structural := by decide +kernel
  have hempty : ServedDashboard.empty.signals.type = .stable := by decide +kernel
  have hne : steepFall.signals.type ≠ ServedDashboard.empty.signals.type := by
    rw [hsteep, hempty]
    decide
  exact ⟨hsteep,hempty,renderResults_ne steepFall .empty hne⟩

end FinancialPdfReader
