import FinancialPdfReader.Apis.Records
import FinancialPdfReader.Services.AuditPassed

namespace FinancialPdfReader

open Py Pool

section Claims

def evidenceFields (e : ClaimEvidence String) : List (String × Json) := [
  ("document_id",.str e.documentId), ("page",.str e.page), ("section",.str e.sectionName),
  ("quoted_text",.str e.quotedText)]

/-- A stored claim as the audit is given it. -/
def AIClaim.evidenced (c : AIClaim String) : EvidencedClaim where
  fields := [
    ("claim_id",.str c.claimId), ("claim",.str c.claim),
    ("claim_level",.str (Choices.text c.claimLevel)),
    ("claim_type",.str (Choices.text c.claimType)),
    ("evidence",.arr ((c.evidence.map evidenceFields).map .obj))]
  text := c.claim
  level := .str (Choices.text c.claimLevel)
  evidence := c.evidence.map evidenceFields
  claim := rfl
  claimLevel := rfl
  hashable := trivial
  listed := rfl

theorem claimToDict_evidenced (c : AIClaim String) :
    claimToDict (c.map Json.str) = .obj c.evidenced.fields := by
  have hevidence : (c.map Json.str).evidence.map evidenceToDict =
      (c.evidence.map evidenceFields).map .obj := by
    rw [AIClaim.map, List.map_map, List.map_map]
    rfl
  rw [claimToDict, hevidence]
  rfl

/-- What a stored claim has to be for the audit to find no error in it. -/
structure Passes (c : AIClaim String) : Prop where
  evidence : c.evidence ≠ []
  quoted : c.claimLevel = .derivedMetric → ∃ e ∈ c.evidence, strip e.quotedText ≠ ""
  noAdvice : ∀ p ∈ r4AdvicePhrases, isIn (lower p) (lower c.claim) = false

theorem nonBlank_str {text : String} : NonBlank (.str text) ↔ strip text ≠ "" := by
  rw [nonBlank_iff, Json.orElse]
  by_cases htext : text = ""
  · subst htext
    simp [Json.truthy, Json.toStr]
  · have htruthy : (Json.str text).truthy = true := by simpa [Json.truthy] using htext
    rw [htruthy]
    rfl

theorem meetsRules_evidenced (c : AIClaim String) : MeetsRules c.evidenced ↔ Passes c := by
  have hlevel : c.evidenced.level = .str "derived_metric" ↔ c.claimLevel = .derivedMetric :=
    Choices.str_text_eq_iff c.claimLevel .derivedMetric
  have hquoted : (∃ e ∈ c.evidenced.evidence,
      NonBlank ((Json.obj e).getD "quoted_text" .null)) ↔
        ∃ e ∈ c.evidence, strip e.quotedText ≠ "" := by
    change (∃ e ∈ c.evidence.map evidenceFields, _) ↔ _
    simp only [List.mem_map, exists_exists_and_eq_and, ← nonBlank_str]
    exact Iff.rfl
  constructor
  · intro h
    refine ⟨mt List.map_eq_nil_iff.mpr h.evidence,fun hderived => ?_,h.noAdvice⟩
    exact hquoted.mp (h.quoted (hlevel.mpr hderived))
  · intro h
    refine ⟨mt List.map_eq_nil_iff.mp h.evidence,fun hderived => ?_,h.noAdvice⟩
    exact hquoted.mpr (h.quoted (hlevel.mp hderived))

end Claims

section Reports

/-- Nothing is raised when a stored report is audited, and it passes exactly where it holds no
advice and every claim passes. -/
theorem auditClaims_stored (report : AIReport) (documentId : String) :
    ∃ result, auditClaims report.reportId documentId
        (report.claims.map (fun c => claimToDict (c.map Json.str)))
        report.investmentAdviceDetected = .ok result ∧
      (result.passed = true ↔
        report.investmentAdviceDetected = false ∧ ∀ c ∈ report.claims, Passes c) := by
  choose found hfound hnone _ _ using auditClaim_spec documentId
  have haudited : (report.claims.map (fun c => claimToDict (c.map Json.str))).mapM
      (auditClaim documentId) = .ok (report.claims.map (fun c => found c.evidenced)) := by
    rw [List.mapM_map]
    refine mapM_eq_map (fun c _ => ?_)
    rw [Function.comp_apply, claimToDict_evidenced]
    exact hfound c.evidenced
  refine ⟨_,by rw [auditClaims, haudited, ok_bind]; rfl,?_⟩
  rw [GovernanceAuditResult.passed_iff]
  simp only [List.append_eq_nil_iff, Option.toList_eq_nil_iff, (checkR4Report_spec _).1,
    List.flatMap_eq_nil_iff, List.forall_mem_map, hnone, meetsRules_evidenced]

/-- The parser leaves nothing for R3 and R5 to find in a summary that it made. -/
theorem GeneratedReport.audit_r3_r5 {report : AIReport} (h : GeneratedReport report)
    {result : GovernanceAuditResult}
    (haudit : auditClaims report.reportId report.documentId
      (report.claims.map (fun c => claimToDict (c.map Json.str)))
      report.investmentAdviceDetected = .ok result) :
    ∀ v ∈ result.findings, v.rule ≠ .r3 ∧ v.rule ≠ .r5 := by
  obtain ⟨uuid4,now,reply,db,documentId,run,rfl⟩ := h
  obtain ⟨chunks,note,summary,hreport⟩ := run.built
  have hclaims : run.report.claims = run.claims := congrArg AIReport.claims hreport
  have hparsed : run.claims.map (fun c => claimToDict (c.map Json.str)) =
      run.parsed.map claimToDict := by
    have hall : List.Forall₂ (· = ·) run.parsed (run.claims.map (AIClaim.map Json.str)) :=
      List.forall₂_map_right_iff.mpr
        ((mapM_eq_ok.mp run.validated).imp (fun _ _ => AIClaim.validate_eq_ok))
    rw [List.forall₂_eq_eq_eq] at hall
    rw [hall, List.map_map]
    rfl
  obtain ⟨items,hitems,-⟩ := bind_eq_ok.mp run.parse
  rw [hclaims, hparsed, run.report_document.1] at haudit
  exact audit_parseClaims_r3_r5 hitems run.parse haudit

end Reports

section Routes

variable {files : Files} {s : State Store Call}

theorem auditedReport_mem {db : Database} {documentId : String} {reportId : Option String}
    {report : AIReport} (h : auditedReport db documentId reportId = some report) :
    report ∈ db.aiReports ∧ report.documentId = documentId := by
  cases reportId with
  | none => exact latestReport?_mem h
  | some reportId =>
    rw [auditedReport] at h
    split at h
    · exact latestReport?_mem h
    · exact Database.report?_eq_some h

/-- In every state the audit of a document answers, or there is no summary to audit. What it finds
is never that a claim without evidence kept its level, nor that evidence is another document's,
and it passes exactly where each claim has evidence, each derived metric quotes its source and
nothing gives advice. -/
theorem audit_in_every_state (hs : Reachable files s) (documentId : String)
    (reportId : Option String) :
    match auditedReport s.shared.db documentId reportId with
    | none => runAudit s.shared.db documentId reportId =
        .error (.valueError ("AIReport not found for document_id=" ++ documentId))
    | some report => ∃ response, runAudit s.shared.db documentId reportId = .ok response ∧
        (∀ v ∈ response.result.findings, v.rule ≠ .r3 ∧ v.rule ≠ .r5) ∧
        (response.passed = true ↔
          report.investmentAdviceDetected = false ∧ ∀ c ∈ report.claims, Passes c) := by
  rw [runAudit]
  cases hfound : auditedReport s.shared.db documentId reportId with
  | none => rfl
  | some report =>
    obtain ⟨hmem,rfl⟩ := auditedReport_mem hfound
    have hrow : .report report ∈ s.shared.rows := hmem
    have hgrounds : ReportGrounds s.shared.rows report := hs.holds.inv.grounded _ hrow
    obtain ⟨result,haudit,hpassed⟩ := auditClaims_stored report report.documentId
    refine ⟨auditResponse result,?_,hgrounds.generated.audit_r3_r5 haudit,hpassed⟩
    simp only [haudit, ok_bind, pure_eq_ok]

theorem audit_in_every_state_sample : ∃ s t report response, SampleRun s t ∧
    auditedReport s.shared.db "d1" (some "r1") = some report ∧
    runAudit s.shared.db "d1" (some "r1") = .ok response ∧
    (∀ v ∈ response.result.findings, v.rule ≠ .r3 ∧ v.rule ≠ .r5) ∧
    (response.passed = true ↔
      report.investmentAdviceDetected = false ∧ ∀ c ∈ report.claims, Passes c) := by
  obtain ⟨s,t,sample⟩ := sample_run
  have hfirst : ("d1","r1") ∈ s.shared.db.aiReports.map (fun r => (r.documentId,r.reportId)) := by
    rw [sample.reports]
    simp
  obtain ⟨report,hr,hsame⟩ := List.mem_map.mp hfirst
  obtain ⟨hdocument,hid⟩ := Prod.mk.inj hsame
  have hfound : auditedReport s.shared.db "d1" (some "r1") = some report := by
    rw [auditedReport_named (by decide), ← hdocument, ← hid]
    exact sample.reachable.holds.inv.report? hr
  have haudit := audit_in_every_state sample.reachable "d1" (some "r1")
  rw [hfound] at haudit
  obtain ⟨response,hresponse,hfindings,hpassed⟩ := haudit
  exact ⟨s,t,report,response,sample,hfound,hresponse,hfindings,hpassed⟩

end Routes

end FinancialPdfReader
