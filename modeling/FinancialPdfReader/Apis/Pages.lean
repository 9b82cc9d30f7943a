import FinancialPdfReader.Apis.Runs
import FinancialPdfReader.Static.SummaryPage

namespace FinancialPdfReader

open Py Pool

section Guards

/-- What the page relies on of a claim, whatever the model has said. -/
structure Guarded (c : AIClaim String) : Prop where
  noEvidence : c.evidence = [] → c.claimLevel = .insufficientEvidence
  narrative : c.sourceType.isNarrative = true → c.claimLevel ≠ .observedFact
  forward : c.forwardLooking = true → c.requiresHumanReview = true

theorem demoteNarrative_ne_observedFact {sourceType : SourceType}
    (h : sourceType.isNarrative = true) (level : ClaimLevel) :
    demoteNarrative sourceType level ≠ .observedFact := by
  rw [demoteNarrative, h]
  cases level <;> decide

theorem demoteNarrative_insufficient (sourceType : SourceType) :
    demoteNarrative sourceType .insufficientEvidence = .insufficientEvidence := by
  cases sourceType <;> rfl

theorem guarded_of_governed {temporalConsistent implied : Bool} {raw : RawClaim}
    {terms : List String} {c : AIClaim String}
    (h : c.map Json.str = governed temporalConsistent raw implied terms) : Guarded c := by
  have hevidence : c.evidence.map (ClaimEvidence.map Json.str) = raw.evidence :=
    congrArg AIClaim.evidence h
  have hlevel : c.claimLevel =
      demoteNarrative raw.sourceType (requireEvidence raw.evidence raw.claimLevel) :=
    congrArg AIClaim.claimLevel h
  have hsource : c.sourceType = raw.sourceType := congrArg AIClaim.sourceType h
  have hforward : c.forwardLooking = (implied || boolField false raw.forwardLooking) :=
    congrArg AIClaim.forwardLooking h
  have hreview : c.requiresHumanReview =
      (implied || raw.forwardLooking.truthy || boolField false raw.requiresHumanReview) :=
    congrArg AIClaim.requiresHumanReview h
  refine ⟨fun hnone => ?_,fun hnarrative => ?_,fun hlooks => ?_⟩
  · rw [hnone, List.map_nil] at hevidence
    have hrequired : requireEvidence raw.evidence raw.claimLevel = .insufficientEvidence := by
      rw [← hevidence]
      cases raw.claimLevel <;> rfl
    rw [hlevel, hrequired, demoteNarrative_insufficient]
  · rw [hlevel]
    exact demoteNarrative_ne_observedFact (hsource ▸ hnarrative) _
  · rw [hforward, Bool.or_eq_true] at hlooks
    rw [hreview]
    rcases hlooks with himplied | hsaid
    · rw [himplied, Bool.true_or, Bool.true_or]
    · have htruthy : raw.forwardLooking.truthy = true := by
        cases hvalue : raw.forwardLooking with
        | null => simp [hvalue, boolField] at hsaid
        | bool | int | float | str | arr | obj =>
          rw [hvalue] at hsaid
          exact hsaid
      rw [htruthy, Bool.or_true, Bool.true_or]

/-- A generated report holds guarded claims only, and a dashboard that was built and accepted. -/
theorem GeneratedReport.guarded {report : AIReport} (h : GeneratedReport report) :
    (∀ c ∈ report.claims, Guarded c) ∧ report.dashboardContractValid = true ∧
      ∃ payload : DashboardPayload, report.dashboard = payload.toJson := by
  obtain ⟨uuid4,now,reply,db,documentId,run,rfl⟩ := h
  obtain ⟨chunks,note,summary,hreport⟩ := run.built
  obtain ⟨items,hitems,-⟩ := bind_eq_ok.mp run.parse
  refine ⟨fun c hc => ?_,?_,?_⟩
  · obtain ⟨item,-,uuid,raw,implied,terms,-,hgoverned⟩ :=
      forall₂_mem_right (run.claims_governed hitems) hc
    exact guarded_of_governed hgoverned
  · rw [hreport]
    rfl
  · rw [hreport]
    exact ⟨_,rfl⟩

end Guards

section Summaries

/-- What the page of a summary shows of the report. -/
structure ShowsReport (html : String) (page : ResultsPage) (report : AIReport) : Prop where
  layers : ∃ d : ServedDashboard, d.json = report.dashboard ∧ html =
    page.header ++ (d.card (shownClaims report)).html ++ page.decisionBanner ++
      page.temporalBanner ++ page.mainLayers ++ page.keyFindingsSection ++ page.reviewPanel ++
      page.explorer
  listed : page.explored.Perm (report.claims.map serializeClaim)
  written : ∀ c ∈ report.claims, Within (renderClaim (serializeClaim c) c.contaminated) html
  review : page.sortedReview.Perm
    ((report.claims.filter (fun c => !c.contaminated && c.requiresHumanReview)).map serializeClaim)
  forward : ∀ c ∈ report.claims, c.contaminated = false → c.forwardLooking = true →
    Within (ResultsPage.reviewItem (serializeClaim c)) html
  findings : ∀ f ∈ page.keyFindings, ∃ c ∈ report.claims, f = serializeClaim c ∧
    c.contaminated = false ∧ c.evidence ≠ [] ∧
      (c.sourceType.isNarrative = true → c.claimLevel = .derivedMetric)

variable {report : AIReport} {documentPeriod requestedPeriod : Json}

theorem sortedReview_perm : (summaryPage report documentPeriod requestedPeriod).sortedReview.Perm
    ((report.claims.filter (fun c => !c.contaminated && c.requiresHumanReview)).map
      serializeClaim) := by
  have hreview : (summaryPage report documentPeriod requestedPeriod).reviewClaims =
      (report.claims.filter (fun c => !c.contaminated && c.requiresHumanReview)).map
        serializeClaim := by
    rw [ResultsPage.reviewClaims, cleanClaims_summaryPage, List.filter_map, List.filter_filter]
    refine congrArg (List.map serializeClaim) (List.filter_congr (fun c _ => ?_))
    rw [Function.comp_apply, isTrue_requiresHumanReview, Bool.and_comm]
  rw [ResultsPage.sortedReview, hreview]
  exact sortBy_perm _ _

theorem within_reviewPanel {page : ResultsPage} {c : Json} (h : c ∈ page.sortedReview) :
    Within (ResultsPage.reviewItem c) page.reviewPanel := by
  have hrow := within_rows ResultsPage.reviewItem h
  rw [ResultsPage.reviewPanel_eq]
  refine ((hrow.append_left _).append_right _).htmlIf ?_
  exact ne_empty_of_mem ((sortBy_perm _ _).mem_iff.mp h)

/-- What is found in the first place are facts with evidence. -/
theorem keyFinding_guarded (hguarded : ∀ c ∈ report.claims, Guarded c) {f : Json}
    (hf : f ∈ (summaryPage report documentPeriod requestedPeriod).keyFindings) :
    ∃ c ∈ report.claims, f = serializeClaim c ∧ c.contaminated = false ∧ c.evidence ≠ [] ∧
      (c.sourceType.isNarrative = true → c.claimLevel = .derivedMetric) := by
  obtain ⟨hclean,hkind⟩ := List.mem_filter.mp hf
  obtain ⟨c,hc,hcontaminated,rfl⟩ := serialized_of_clean hclean
  have hlevel : c.claimLevel = .observedFact ∨ c.claimLevel = .derivedMetric := by
    have hone := (Bool.and_eq_true _ _ ▸ hkind).2
    have htext : ∀ text, hasText "claim_level" text (serializeClaim c) =
        (some (Json.str (Choices.text c.claimLevel)) == some (.str text)) := fun _ => rfl
    simp only [hasOneOf, List.any_cons, List.any_nil, htext] at hone
    cases hname : c.claimLevel with
    | observedFact => exact .inl rfl
    | derivedMetric => exact .inr rfl
    | interpretation | hypothesis | insufficientEvidence =>
      rw [hname] at hone
      exact absurd hone (by decide)
  refine ⟨c,hc,rfl,hcontaminated,fun hnone => ?_,fun hnarrative => ?_⟩
  · rw [(hguarded c hc).noEvidence hnone] at hlevel
    simp at hlevel
  · exact hlevel.resolve_left ((hguarded c hc).narrative hnarrative)

theorem GeneratedReport.showsReport (h : GeneratedReport report)
    (documentPeriod requestedPeriod : Json) :
    ShowsReport (renderResults (.obj (serializeSummaryResponse report documentPeriod
      requestedPeriod))) (summaryPage report documentPeriod requestedPeriod) report := by
  obtain ⟨hguarded,hvalid,payload,hdashboard⟩ := h.guarded
  have hlayers := renderResults_valid (d := .ofPayload payload) hdashboard documentPeriod
    requestedPeriod hvalid
  refine ⟨⟨.ofPayload payload,hdashboard.symm,hlayers⟩,explored_perm,fun c hc => ?_,
    sortedReview_perm,fun c hc hclean hforward => ?_,fun f hf => keyFinding_guarded hguarded hf⟩
  · rw [hlayers]
    exact (claim_within_explorer hc).append_left _
  · have hlisted : serializeClaim c ∈
        (summaryPage report documentPeriod requestedPeriod).sortedReview := by
      refine sortedReview_perm.mem_iff.mpr (List.mem_map_of_mem (List.mem_filter.mpr ⟨hc,?_⟩))
      rw [hclean, (hguarded c hc).forward hforward]
      rfl
    rw [hlayers]
    exact ((within_reviewPanel hlisted).append_left _).append_right _

end Summaries

section Runs

variable {files : Files} {s : State Store Call}

/-- In every state what was answered to a summary is a stored report, and the page that is made of
a stored report shows the whole dashboard under its own conclusion, every claim of the report in
one place, and what needs to be reviewed as such. -/
theorem summary_page (hs : Reachable files s) :
    (∀ call ∈ s.calls, ∀ fields, call.answer? = some (.summary fields) →
      ∃ report ∈ s.shared.db.aiReports, ∃ documentPeriod requestedPeriod,
        fields = serializeSummaryResponse report documentPeriod requestedPeriod) ∧
    ∀ report ∈ s.shared.db.aiReports, ∀ documentPeriod requestedPeriod,
      ShowsReport (renderResults (.obj (serializeSummaryResponse report documentPeriod
        requestedPeriod))) (summaryPage report documentPeriod requestedPeriod) report := by
  constructor
  · intro call hcall fields hanswer
    obtain ⟨report,documentPeriod,requestedPeriod,hrow,hfields⟩ := hs.answered hcall hanswer
    exact ⟨report,hrow,documentPeriod,requestedPeriod,hfields⟩
  · intro report hreport documentPeriod requestedPeriod
    have hrow : .report report ∈ s.shared.rows := hreport
    have hgrounds : ReportGrounds s.shared.rows report := hs.holds.inv.grounded _ hrow
    exact hgrounds.generated.showsReport documentPeriod requestedPeriod

theorem summary_page_sample : ∃ s t report claim, SampleRun s t ∧
    report ∈ s.shared.db.aiReports ∧ claim ∈ report.claims ∧ claim.claimId = "c1" ∧
    Within (renderClaim (serializeClaim claim) claim.contaminated)
      (renderResults (.obj (serializeSummaryResponse report .null .null))) := by
  obtain ⟨s,t,sample⟩ := sample_run
  have hfirst : "c1" ∈ s.shared.db.aiReports.flatMap (fun r => r.claims.map (·.claimId)) := by
    rw [sample.claims]
    exact List.mem_singleton_self _
  obtain ⟨report,hreport,hids⟩ := List.mem_flatMap.mp hfirst
  obtain ⟨claim,hclaim,hid⟩ := List.mem_map.mp hids
  have hshows := (summary_page sample.reachable).2 report hreport .null .null
  exact ⟨s,t,report,claim,sample,hreport,hclaim,hid,hshows.written claim hclaim⟩

end Runs

end FinancialPdfReader
