import FinancialPdfReader.Core.Governance
import FinancialPdfReader.Models.Database
import FinancialPdfReader.Services.Summarization.Guards

namespace FinancialPdfReader

open Py

def evidenceToDict (e : ClaimEvidence Json) : Json := .obj [
  ("document_id",.str e.documentId), ("page",.str e.page), ("section",e.sectionName),
  ("quoted_text",e.quotedText)]

def claimToDict (c : AIClaim Json) : Json := .obj [
  ("claim_id",c.claimId), ("claim",c.claim), ("claim_level",.str (Choices.text c.claimLevel)),
  ("claim_type",.str (Choices.text c.claimType)),
  ("evidence",.arr (c.evidence.map evidenceToDict))]

/-- The names of the rules broken, sorted. -/
def brokenRules (violations : List GovernanceViolation) : List String :=
  ([.r1,.r2,.r3,.r4,.r5,.r6,.r7].filter
    (fun r => violations.any (fun v => v.rule = r))).map Rule.text

def buildSummary (r : GovernanceAuditResult) : String :=
  if r.passed && r.warnings.length == 0 then
    "PASSED — " ++ toString r.totalClaims ++ " claims 全部通過 R1-R7 稽核，無違規無警告"
  else if r.passed then
    "PASSED WITH WARNINGS — " ++ toString r.totalClaims ++ " claims，" ++
      "0 violations, " ++ toString r.warnings.length ++ " warnings（建議人工確認）"
  else
    "FAILED — " ++ toString r.totalClaims ++ " claims，" ++
      toString r.violations.length ++ " violations（" ++
      ", ".intercalate (brokenRules r.violations) ++ "），" ++
      toString r.warnings.length ++ " warnings"

/-- The payload of both audits: the findings as they are, and what is counted from them. -/
structure AuditResponse where
  result : GovernanceAuditResult
  passed : Bool
  violationCount : Nat
  warningCount : Nat
  summary : String

def auditResponse (r : GovernanceAuditResult) : AuditResponse :=
  ⟨r,r.passed,r.violations.length,r.warnings.length,buildSummary r⟩

/-- Without a report named, the latest one of the document is audited. -/
def auditedReport (db : Database) (documentId : String) : Option String → Option AIReport
  | none => db.latestReport? documentId
  | some reportId =>
      if reportId = "" then db.latestReport? documentId else db.report? documentId reportId

def runAudit (db : Database) (documentId : String) (reportId : Option String) :
    Except PyError AuditResponse := do
  match auditedReport db documentId reportId with
  | none => .error (.valueError ("AIReport not found for document_id=" ++ documentId))
  | some report => do
      let result ← auditClaims report.reportId documentId
        (report.claims.map (fun c => claimToDict (c.map Json.str)))
        report.investmentAdviceDetected
      pure (auditResponse result)

def diffItemToDict (i : DiffItem String) : Json := .obj [
  ("diff_id",.str i.diffId), ("diff_type",.str (Choices.text i.diffType)),
  ("tone_only",.bool i.toneOnly)]

def runDiffAudit (db : Database) (diffReportId : String) : Except PyError AuditResponse := do
  match db.diffReport? diffReportId with
  | none => .error (.valueError ("DiffReport not found: diff_report_id=" ++ diffReportId))
  | some report => do
      let result ← auditDiffItems report.diffReportId report.currentDocumentId
        (report.items.map diffItemToDict)
      pure (auditResponse result)

@[simp] theorem evidenceToDict_get_documentId (e : ClaimEvidence Json) (default : Json) :
    (evidenceToDict e).get "document_id" default = .ok (.str e.documentId) := rfl

/-- Evidence of the document itself crosses no border. -/
private theorem checkR5_own (cid : Json) {documentId : String} {es : List (ClaimEvidence Json)}
    (h : ∀ e ∈ es, e.documentId = documentId) :
    checkR5 cid documentId (es.map evidenceToDict) = .ok none := by
  induction es with
  | nil => rfl
  | cons e es ih =>
    have hdoc : e.documentId = documentId := h e (by simp)
    have htail := ih (fun e' he' => h e' (by simp [he']))
    rw [List.map_cons, checkR5, evidenceToDict_get_documentId, ok_bind]
    simp [hdoc, htail]

/-- What the audit finds in a claim whose evidence is its document's own and which says so
when it has none: R1, and what the enforced rules are not about. -/
private theorem auditClaim_claimToDict {documentId : String} {c : AIClaim Json}
    {found : Findings}
    (hown : ∀ e ∈ c.evidence, e.documentId = documentId)
    (hnone : c.evidence = [] → c.claimLevel = .insufficientEvidence)
    (h : auditClaim documentId (claimToDict c) = .ok found) :
    ∃ others : List GovernanceViolation,
      (∀ v ∈ others, v.rule = .r2 ∨ v.rule = .r4 ∨ v.rule = .r7) ∧
      ∀ v, v ∈ found.all ↔
        v ∈ checkR1 c.claimId (.arr (c.evidence.map evidenceToDict)) ∨ v ∈ others := by
  obtain ⟨cid,hcid,h⟩ := bind_eq_ok.mp h
  obtain ⟨claimText,-,h⟩ := bind_eq_ok.mp h
  obtain ⟨level,hlevel,h⟩ := bind_eq_ok.mp h
  obtain ⟨evidence,hevidence,h⟩ := bind_eq_ok.mp h
  obtain ⟨r2,hr2,h⟩ := bind_eq_ok.mp h
  obtain ⟨r3,hr3,h⟩ := bind_eq_ok.mp h
  obtain ⟨r4,hr4,h⟩ := bind_eq_ok.mp h
  obtain ⟨evs,hevs,h⟩ := bind_eq_ok.mp h
  obtain ⟨r5,hr5,h⟩ := bind_eq_ok.mp h
  obtain ⟨r7,hr7,h⟩ := bind_eq_ok.mp h
  obtain rfl : c.claimId = cid := Except.ok.inj hcid
  obtain rfl : Json.str (Choices.text c.claimLevel) = level := Except.ok.inj hlevel
  obtain rfl : Json.arr (c.evidence.map evidenceToDict) = evidence := Except.ok.inj hevidence
  obtain rfl : c.evidence.map evidenceToDict = evs := Except.ok.inj hevs
  have hallowed : checkR3 c.claimId (.str (Choices.text c.claimLevel))
      (.arr (c.evidence.map evidenceToDict)) = .ok none := by
    cases hev : c.evidence with
    | nil => rw [hnone hev]; rfl
    | cons e es => rfl
  rw [hallowed, Except.ok.injEq] at hr3
  rw [checkR5_own _ hown, Except.ok.injEq] at hr5
  subst hr3 hr5
  obtain rfl := Except.ok.inj h
  refine ⟨r2.toList ++ r4.toList ++ r7.toList,?_,?_⟩
  · intro v hv
    simp only [List.mem_append, Option.mem_toList] at hv
    rcases hv with (hv | hv) | hv
    · exact Or.inl (checkR2_rule (hv ▸ hr2))
    · exact Or.inr (Or.inl (checkPhrases_rule (hv ▸ hr4)))
    · exact Or.inr (Or.inr (checkPhrases_rule (hv ▸ hr7)))
  · intro v
    simp [Findings.all]

private theorem mem_findings {reportId documentId : String} {dicts : List Json}
    {advice : Bool} {result : GovernanceAuditResult}
    (h : auditClaims reportId documentId dicts advice = .ok result) :
    ∃ audited, List.Forall₂ (fun d found => auditClaim documentId d = .ok found) dicts audited ∧
      ∀ v, v ∈ result.findings ↔
        v ∈ checkR4Report advice ∨ ∃ found ∈ audited, v ∈ found.all := by
  obtain ⟨audited,haudited,h⟩ := bind_eq_ok.mp h
  obtain rfl := Except.ok.inj h
  refine ⟨audited,mapM_eq_ok.mp haudited,?_⟩
  intro v
  simp only [GovernanceAuditResult.findings, Findings.all, List.mem_append, List.mem_flatMap,
    Option.mem_toList]
  constructor
  · intro hcases
    rcases hcases with (hv | ⟨found,hfound,hv⟩) | ⟨found,hfound,hv⟩
    · exact Or.inl hv
    · exact Or.inr ⟨found,hfound,Or.inl hv⟩
    · exact Or.inr ⟨found,hfound,Or.inr hv⟩
  · intro hcases
    rcases hcases with hv | ⟨found,hfound,hv | hv⟩
    · exact Or.inl (Or.inl hv)
    · exact Or.inl (Or.inr ⟨found,hfound,hv⟩)
    · exact Or.inr ⟨found,hfound,hv⟩

private theorem checkR4Report_rule {advice : Bool} {v : GovernanceViolation}
    (h : v ∈ checkR4Report advice) : v.rule = .r4 := by
  cases advice with
  | false => simp [checkR4Report] at h
  | true =>
    simp only [checkR4Report, if_true, Option.mem_def, Option.some.injEq] at h
    rw [← h]
    rfl

section ParsedClaims

variable {uuid4 : Nat → String} {rawJson : Json} {documentId reportId : String}
  {temporalConsistent advice : Bool} {items : List Json} {claims : List (AIClaim Json)}
  {result : GovernanceAuditResult}

/-- What the audit finds in the claim of one item. -/
private theorem auditClaim_of_item {uuid : String} {item : Json} {raw : RawClaim}
    {c : AIClaim Json} {found : Findings}
    (hraw : raw.IsReadFrom uuid documentId item) (hgovern : govern temporalConsistent raw = .ok c)
    (haudit : auditClaim documentId (claimToDict c) = .ok found) :
    (∀ v ∈ found.all, v.rule ≠ .r3 ∧ v.rule ≠ .r5) ∧
      ((∀ v ∈ found.all, v.rule ≠ .r1) ↔
        (item.getD "evidence" (.arr [])).truthy = true) := by
  obtain ⟨implied,terms,-,-,rfl⟩ := govern_eq_ok hgovern
  obtain ⟨others,hothers,hmem⟩ := auditClaim_claimToDict
    hraw.evidence_documentId (demoteNarrative_requireEvidence raw).1 haudit
  have hnil := hraw.evidence_eq_nil_iff
  cases hev : raw.evidence with
  | nil =>
    have hr1 : checkR1 raw.claimId (.arr (raw.evidence.map evidenceToDict)) =
        some (violation .r1 raw.claimId "Claim 沒有任何 evidence，R1 違規" .error) := by
      rw [hev]; rfl
    refine ⟨?_,?_⟩
    · intro v hv
      rcases (hmem v).mp hv with hv | hv
      · obtain rfl := Option.some.inj (hr1.symm.trans hv)
        change Rule.r1 ≠ .r3 ∧ Rule.r1 ≠ .r5
        decide
      · rcases hothers v hv with h | h | h <;> rw [h] <;> exact ⟨by decide,by decide⟩
    · have hlisted : (item.getD "evidence" (.arr [])).truthy = false := hnil.mp hev
      rw [hlisted]
      constructor
      · intro hall
        have hviolation := (hmem _).mpr (Or.inl hr1)
        exact absurd rfl (hall _ hviolation)
      · intro h
        exact absurd h Bool.false_ne_true
  | cons e es =>
    have hr1 : checkR1 raw.claimId (.arr (raw.evidence.map evidenceToDict)) = none := by
      rw [hev]; rfl
    have hclean : ∀ v ∈ found.all, v.rule = .r2 ∨ v.rule = .r4 ∨ v.rule = .r7 := by
      intro v hv
      rcases (hmem v).mp hv with hv | hv
      · exact absurd (hr1.symm.trans hv) (Option.some_ne_none v).symm
      · exact hothers v hv
    have htruthy : (item.getD "evidence" (.arr [])).truthy = true := by
      cases htruth : (item.getD "evidence" (.arr [])).truthy with
      | true => rfl
      | false =>
        have hempty : raw.evidence = [] := hnil.mpr htruth
        exact absurd (hev.symm.trans hempty) (List.cons_ne_nil e es)
    refine ⟨?_,iff_of_true ?_ htruthy⟩
    · intro v hv
      rcases hclean v hv with h | h | h <;> rw [h] <;> exact ⟨by decide,by decide⟩
    · intro v hv
      rcases hclean v hv with h | h | h <;> rw [h] <;> decide

section Audited

variable (hitems : claimItems rawJson = .ok items)
  (hparse : parseClaims uuid4 rawJson documentId temporalConsistent = .ok claims)
  (haudit : auditClaims reportId documentId (claims.map claimToDict) advice = .ok result)
include hitems hparse haudit

private theorem audited_of_items : ∃ audited,
    List.Forall₂ (fun item (found : Findings) =>
      (∀ v ∈ found.all, v.rule ≠ .r3 ∧ v.rule ≠ .r5) ∧
        ((∀ v ∈ found.all, v.rule ≠ .r1) ↔
          (item.getD "evidence" (.arr [])).truthy = true)) items audited ∧
    ∀ v, v ∈ result.findings ↔
      v ∈ checkR4Report advice ∨ ∃ found ∈ audited, v ∈ found.all := by
  obtain ⟨audited,hall,hmem⟩ := mem_findings haudit
  rw [List.forall₂_map_left_iff] at hall
  refine ⟨audited,(forall₂_comp (parseClaims_eq_ok hitems hparse) hall).imp ?_,hmem⟩
  intro item found hparts
  obtain ⟨c,⟨uuid,raw,hraw,hgovern⟩,hfound⟩ := hparts
  exact auditClaim_of_item hraw hgovern hfound

/-- The claims of the parser never break R3 or R5. -/
theorem audit_parseClaims_r3_r5 : ∀ v ∈ result.findings, v.rule ≠ .r3 ∧ v.rule ≠ .r5 := by
  obtain ⟨audited,hall,hmem⟩ := audited_of_items hitems hparse haudit
  intro v hv
  rcases (hmem v).mp hv with hv | ⟨found,hfound,hv⟩
  · rw [checkR4Report_rule hv]
    exact ⟨by decide,by decide⟩
  · have hclean : ∀ found ∈ audited, ∀ v ∈ found.all, v.rule ≠ .r3 ∧ v.rule ≠ .r5 := by
      have hiff := forall_mem_iff_of_forall₂ hall (P := fun _ => True)
        (fun _ _ h => iff_of_true trivial h.1)
      exact hiff.mp (fun _ _ => trivial)
    exact hclean found hfound v hv

/-- The audit finds nothing of what the parser enforces exactly when every item of the output
has evidence: a claim without evidence is downgraded, but R1 does not exempt its level. -/
theorem audit_parseClaims_clean_iff :
    (∀ v ∈ result.findings, v.rule ≠ .r1 ∧ v.rule ≠ .r3 ∧ v.rule ≠ .r5) ↔
      ∀ item ∈ items, (item.getD "evidence" (.arr [])).truthy = true := by
  obtain ⟨audited,hall,hmem⟩ := audited_of_items hitems hparse haudit
  have hiff := forall_mem_iff_of_forall₂ hall
    (P := fun item => (item.getD "evidence" (.arr [])).truthy = true) (fun _ _ h => h.2.symm)
  have hr35 := audit_parseClaims_r3_r5 hitems hparse haudit
  rw [hiff]
  constructor
  · intro hclean found hfound v hv
    exact (hclean v ((hmem v).mpr (Or.inr ⟨found,hfound,hv⟩))).1
  · intro hclean v hv
    refine ⟨?_,hr35 v hv⟩
    rcases (hmem v).mp hv with hv | ⟨found,hfound,hv⟩
    · rw [checkR4Report_rule hv]
      decide
    · exact hclean found hfound v hv

end Audited

end ParsedClaims

/-- A claim for which the output gives no evidence. -/
def unsupportedOutput : Json := .obj [("claims",.arr [.obj [
  ("claim_id",.str "c1"), ("claim",.str "客戶集中度偏高"),
  ("claim_level",.str "insufficient_evidence"), ("evidence",.arr [])]])]

theorem audit_parseClaims_clean_iff_unsupportedOutput : ∃ items claims result,
    claimItems unsupportedOutput = .ok items ∧
    parseClaims (fun _ => "u") unsupportedOutput "d1" true = .ok claims ∧
    auditClaims "r1" "d1" (claims.map claimToDict) false = .ok result ∧
    ((∀ v ∈ result.findings, v.rule ≠ .r1 ∧ v.rule ≠ .r3 ∧ v.rule ≠ .r5) ↔
      ∀ item ∈ items, (item.getD "evidence" (.arr [])).truthy = true) := by
  obtain ⟨items,hitems⟩ := exists_ok_of_isOk (x := claimItems unsupportedOutput)
    (by decide +kernel)
  obtain ⟨result,hrun⟩ := exists_ok_of_isOk
    (x := parseClaims (fun _ => "u") unsupportedOutput "d1" true >>= fun claims =>
      auditClaims "r1" "d1" (claims.map claimToDict) false) (by decide +kernel)
  obtain ⟨claims,hparse,haudit⟩ := bind_eq_ok.mp hrun
  exact ⟨items,claims,result,hitems,hparse,haudit,
    audit_parseClaims_clean_iff hitems hparse haudit⟩

/-- Though it is marked as insufficient evidence, the claim breaks R1. -/
theorem audit_unsupported_claim :
    ¬ ∀ claims result, parseClaims (fun _ => "u") unsupportedOutput "d1" true = .ok claims →
      auditClaims "r1" "d1" (claims.map claimToDict) false = .ok result →
      ∀ v ∈ result.findings, v.rule ≠ .r1 ∧ v.rule ≠ .r3 ∧ v.rule ≠ .r5 := by
  have hrun : (fun r => r.findings.map (·.rule)) <$>
      (parseClaims (fun _ => "u") unsupportedOutput "d1" true >>= fun claims =>
        auditClaims "r1" "d1" (claims.map claimToDict) false) = .ok [.r1] := by
    decide +kernel
  obtain ⟨claims,result,hparse,haudit,hmap⟩ := map_bind_eq_ok.mp hrun
  obtain ⟨v,hv,hrule⟩ := List.map_eq_singleton_iff.mp hmap
  intro hall
  exact (hall claims result hparse haudit v (by rw [hv]; simp)).1 hrule

end FinancialPdfReader
