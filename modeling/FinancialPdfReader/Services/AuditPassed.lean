import FinancialPdfReader.Core.Governance
import FinancialPdfReader.Services.DiffAudit

namespace FinancialPdfReader

open Py

/-- There is a text in a value, and more in it than blanks. -/
def NonBlank (x : Json) : Prop := x.truthy = true ∧ ∃ c ∈ x.toStr.toList, isSpace c = false

/-- A claim as the audit is given it: a text, a level and a list of evidence, each of which may
be left out. -/
structure EvidencedClaim where
  fields : List (String × Json)
  text : String
  level : Json
  evidence : List (List (String × Json))
  claim : (Json.obj fields).getD "claim" (.str "") = .str text
  claimLevel : (Json.obj fields).getD "claim_level" (.str "interpretation") = level
  hashable : Hashable level
  listed : (Json.obj fields).getD "evidence" (.arr []) = .arr (evidence.map .obj)

/-- What R1, R2 and R4 ask of a claim. -/
structure MeetsRules (c : EvidencedClaim) : Prop where
  evidence : c.evidence ≠ []
  quoted : c.level = .str "derived_metric" →
    ∃ e ∈ c.evidence, NonBlank ((Json.obj e).getD "quoted_text" .null)
  noAdvice : ∀ p ∈ r4AdvicePhrases, isIn (lower p) (lower c.text) = false

section Checks

theorem nonBlank_iff {x : Json} : NonBlank x ↔ strip (x.orElse (.str "")).toStr ≠ "" := by
  rw [NonBlank, Json.orElse]
  cases x.truthy with
  | true => simp [strip_ne_empty_iff]
  | false => simp [strip_ne_empty_iff, Json.toStr]

variable (cid : Json) (evidence : List (List (String × Json)))

theorem quotesSomething_objs : ∃ b, quotesSomething (evidence.map .obj) = .ok b ∧
    (b = true ↔ ∃ e ∈ evidence, NonBlank ((Json.obj e).getD "quoted_text" .null)) := by
  induction evidence with
  | nil => exact ⟨false,rfl,by simp⟩
  | cons e es ih =>
    obtain ⟨b,hb,hiff⟩ := ih
    rw [List.map_cons, quotesSomething, Json.get_eq_getD ⟨e,rfl⟩, ok_bind, hb]
    simp only [List.exists_mem_cons_iff, nonBlank_iff, bne_iff_ne] at hiff ⊢
    split_ifs with hquoted
    · exact ⟨true,rfl,iff_of_true rfl (Or.inl hquoted)⟩
    · exact ⟨b,rfl,hiff.trans (or_iff_right hquoted).symm⟩

theorem checkR1_spec : (checkR1 cid (.arr (evidence.map .obj)) = none ↔ evidence ≠ []) ∧
    ∀ v ∈ checkR1 cid (.arr (evidence.map .obj)), v.severity = .error := by
  constructor
  · cases evidence with
    | nil => simp [checkR1, Json.truthy]
    | cons e es => simp [checkR1, Json.truthy]
  · intro v hv
    obtain rfl := Option.some.inj (Option.mem_ite_none_left.mp hv).2
    rfl

theorem checkR2_spec (level : Json) : ∃ r2, checkR2 cid level (.arr (evidence.map .obj)) = .ok r2 ∧
    (r2 = none ↔ (level = .str "derived_metric" →
      ∃ e ∈ evidence, NonBlank ((Json.obj e).getD "quoted_text" .null))) ∧
    ∀ v ∈ r2, v.severity = .error := by
  obtain ⟨b,hb,hiff⟩ := quotesSomething_objs evidence
  rw [checkR2, ← Json.isStr_iff, ← hiff]
  cases level.isStr "derived_metric" with
  | false => exact ⟨none,rfl,by simp,by simp⟩
  | true =>
    simp only [if_true, Json.iter_arr, ok_bind, hb]
    cases b with
    | true => exact ⟨none,rfl,by simp,by simp⟩
    | false =>
      refine ⟨_,rfl,by simp,?_⟩
      intro v hv
      obtain rfl := Option.some.inj hv
      rfl

/-- R3 finds fault only where there is no evidence, and files it as repaired. -/
theorem checkR3_spec {level : Json} (h : Hashable level) :
    ∃ r3, checkR3 cid level (.arr (evidence.map .obj)) = .ok r3 ∧
      ∀ v ∈ r3, evidence = [] ∧ v.autoFixed = true := by
  cases evidence with
  | cons e es => exact ⟨none,rfl,by simp⟩
  | nil =>
    have hallowed : ∃ allowed, level.inSet ["hypothesis","insufficient_evidence"] =
        .ok allowed := by
      cases level with
      | arr xs => exact h.elim
      | obj fields => exact h.elim
      | _ => exact ⟨_,rfl⟩
    obtain ⟨allowed,hallowed⟩ := hallowed
    rw [List.map_nil, checkR3, if_neg (by simp [Json.truthy]), hallowed, ok_bind]
    cases allowed with
    | true => exact ⟨none,rfl,by simp⟩
    | false =>
      refine ⟨_,rfl,?_⟩
      intro v hv
      obtain rfl := Option.some.inj hv
      exact ⟨rfl,rfl⟩

theorem checkPhrases_spec (rule : Rule) (phrases : List String) (before after : String)
    (severity : FindingSeverity) (text : String) :
    ∃ found, checkPhrases rule phrases before after severity cid (.str text) = .ok found ∧
      (found = none ↔ ∀ p ∈ phrases, isIn (lower p) (lower text) = false) ∧
      ∀ v ∈ found, v.severity = severity := by
  rw [checkPhrases_str]
  refine ⟨_,rfl,?_,?_⟩
  · simp [List.filter_eq_nil_iff]
  · intro v hv
    obtain rfl := Option.some.inj (Option.mem_ite_none_left.mp hv).2
    rfl

theorem checkR5_spec (documentId : String) :
    ∃ r5, checkR5 cid documentId (evidence.map .obj) = .ok r5 ∧
      ∀ v ∈ r5, v.severity = .warning := by
  induction evidence with
  | nil => exact ⟨none,rfl,by simp⟩
  | cons e es ih =>
    rw [List.map_cons, checkR5, Json.get_eq_getD ⟨e,rfl⟩, ok_bind]
    dsimp only
    split_ifs
    · refine ⟨_,rfl,?_⟩
      intro v hv
      obtain rfl := Option.some.inj hv
      rfl
    · exact ih

end Checks

/-- What the audit makes of one claim: its violations are errors, there are none exactly where it
meets the rules, and no error is among its warnings without one. -/
theorem auditClaim_spec (documentId : String) (c : EvidencedClaim) :
    ∃ found, auditClaim documentId (.obj c.fields) = .ok found ∧
      (found.violations = [] ↔ MeetsRules c) ∧ (∀ v ∈ found.violations, v.severity = .error) ∧
      ∀ v ∈ found.warnings, v.severity = .error → found.violations ≠ [] := by
  obtain ⟨fields,text,level,evidence,hclaim,hlevel,hhashable,hlisted⟩ := c
  obtain ⟨cid,hcid⟩ : ∃ cid, (Json.obj fields).get "claim_id" (.str "unknown") = .ok cid :=
    ⟨_,rfl⟩
  obtain ⟨hr1none,hr1error⟩ := checkR1_spec cid evidence
  obtain ⟨r2,hr2,hr2none,hr2error⟩ := checkR2_spec cid evidence level
  obtain ⟨r3,hr3,hr3fixed⟩ := checkR3_spec cid evidence hhashable
  obtain ⟨r4,hr4,hr4none,hr4error⟩ := checkPhrases_spec cid .r4 r4AdvicePhrases
    "Claim 含投資建議詞彙 " "，R4 違規" .error text
  obtain ⟨r5,hr5,hr5warning⟩ := checkR5_spec cid evidence documentId
  obtain ⟨r7,hr7,-,hr7warning⟩ := checkPhrases_spec cid .r7 r7TrendPhrases
    "Claim 含長期趨勢推論詞彙 " "，單季資料不可用於長期趨勢判斷，R7 違規" .warning text
  have hobj : ∃ fs, Json.obj fields = .obj fs := ⟨fields,rfl⟩
  have hrepaired : r3.filter (·.autoFixed) = r3 ∧ r3.filter (!·.autoFixed) = none := by
    cases r3 with
    | none => exact ⟨rfl,rfl⟩
    | some v => simp [(hr3fixed v rfl).2]
  have hrun : auditClaim documentId (.obj fields) = .ok
      ⟨(checkR1 cid (.arr (evidence.map .obj))).toList ++ r2.toList ++ r4.toList,
        r3.toList ++ r5.toList ++ r7.toList⟩ := by
    rw [auditClaim, hcid, ok_bind, Json.get_eq_getD hobj, hclaim, ok_bind,
      Json.get_eq_getD hobj, hlevel, ok_bind, Json.get_eq_getD hobj, hlisted, ok_bind, hr2,
      ok_bind, hr3, ok_bind, checkR4Claim, hr4, ok_bind, Json.iter_arr, ok_bind, hr5, ok_bind,
      checkR7Claim, hr7, ok_bind, hrepaired.1, hrepaired.2]
    simp
  refine ⟨_,hrun,?_,?_,?_⟩
  · simp only [List.append_eq_nil_iff, Option.toList_eq_nil_iff, hr1none, hr2none, hr4none]
    exact ⟨fun h => ⟨h.1.1,h.1.2,h.2⟩,fun h => ⟨⟨h.evidence,h.quoted⟩,h.noAdvice⟩⟩
  · intro v hv
    simp only [List.mem_append, Option.mem_toList] at hv
    rcases hv with (hv | hv) | hv
    · exact hr1error v hv
    · exact hr2error v hv
    · exact hr4error v hv
  · -- an error among the warnings is one of R3, and R1 does not let it stand alone
    intro v hv herror
    simp only [List.mem_append, Option.mem_toList] at hv
    rcases hv with (hv | hv) | hv
    · intro hempty
      simp only [List.append_eq_nil_iff, Option.toList_eq_nil_iff, hr1none] at hempty
      exact hempty.1.1 (hr3fixed v hv).1
    · rw [hr5warning v hv] at herror
      contradiction
    · rw [hr7warning v hv] at herror
      contradiction

theorem checkR4Report_spec (investmentAdviceDetected : Bool) :
    (checkR4Report investmentAdviceDetected = none ↔ investmentAdviceDetected = false) ∧
      ∀ v ∈ checkR4Report investmentAdviceDetected, v.severity = .error := by
  cases investmentAdviceDetected with
  | false => simp [checkR4Report]
  | true =>
    refine ⟨by simp [checkR4Report],?_⟩
    intro v hv
    obtain rfl := Option.some.inj hv
    rfl

/-- Whether errors are filed as violations or as warnings makes no difference, as long as no
error among the warnings stands alone. -/
theorem passed_iff_no_error {r : GovernanceAuditResult}
    (hviolations : ∀ v ∈ r.violations, v.severity = .error)
    (hwarnings : ∀ v ∈ r.warnings, v.severity = .error → r.violations ≠ []) :
    r.passed = true ↔ ∀ v ∈ r.findings, v.severity ≠ .error := by
  rw [r.passed_iff]
  constructor
  · intro hempty v hv herror
    rw [GovernanceAuditResult.findings, hempty, List.nil_append] at hv
    exact hwarnings v hv herror hempty
  · intro hclean
    by_contra hsome
    obtain ⟨v,hv⟩ := List.exists_mem_of_ne_nil _ hsome
    exact hclean v (List.mem_append_left _ hv) (hviolations v hv)

/-- A report passes its audit exactly where no finding is an error, and exactly where it holds no
advice and all its claims meet the rules. -/
theorem auditClaims_passed (reportId documentId : String) (claims : List EvidencedClaim)
    (investmentAdviceDetected : Bool) :
    ∃ result, auditClaims reportId documentId (claims.map (fun c => .obj c.fields))
        investmentAdviceDetected = .ok result ∧
      (result.passed = true ↔ ∀ v ∈ result.findings, v.severity ≠ .error) ∧
      (result.passed = true ↔
        investmentAdviceDetected = false ∧ ∀ c ∈ claims, MeetsRules c) := by
  choose found hfound hnone herror hwarning using auditClaim_spec documentId
  obtain ⟨hadvice,hadviceError⟩ := checkR4Report_spec investmentAdviceDetected
  have haudited : (claims.map (fun c => Json.obj c.fields)).mapM (auditClaim documentId) =
      .ok (claims.map found) := by
    rw [List.mapM_map]
    exact mapM_eq_map (fun c _ => hfound c)
  have hrun : auditClaims reportId documentId (claims.map (fun c => .obj c.fields))
      investmentAdviceDetected = .ok ⟨reportId,documentId,claims.length,
        (checkR4Report investmentAdviceDetected).toList ++
          (claims.map found).flatMap Findings.violations,
        (claims.map found).flatMap Findings.warnings⟩ := by
    rw [auditClaims, haudited, ok_bind, List.length_map]
    rfl
  have hviolations : (checkR4Report investmentAdviceDetected).toList ++
      (claims.map found).flatMap Findings.violations = [] ↔
        investmentAdviceDetected = false ∧ ∀ c ∈ claims, MeetsRules c := by
    simp only [List.append_eq_nil_iff, Option.toList_eq_nil_iff, hadvice, List.flatMap_eq_nil_iff,
      List.forall_mem_map, hnone]
  have herrors : ∀ v ∈ (checkR4Report investmentAdviceDetected).toList ++
      (claims.map found).flatMap Findings.violations, v.severity = .error := by
    intro v hv
    rcases List.mem_append.mp hv with hv | hv
    · exact hadviceError v (Option.mem_toList.mp hv)
    · obtain ⟨f,hf,hv⟩ := List.mem_flatMap.mp hv
      obtain ⟨c,-,rfl⟩ := List.mem_map.mp hf
      exact herror c v hv
  have hwarnings : ∀ v ∈ (claims.map found).flatMap Findings.warnings, v.severity = .error →
      (checkR4Report investmentAdviceDetected).toList ++
        (claims.map found).flatMap Findings.violations ≠ [] := by
    intro v hv herr hempty
    obtain ⟨f,hf,hv⟩ := List.mem_flatMap.mp hv
    obtain ⟨c,hc,rfl⟩ := List.mem_map.mp hf
    exact hwarning c v hv herr ((hnone c).mpr ((hviolations.mp hempty).2 c hc))
  exact ⟨_,hrun,passed_iff_no_error herrors hwarnings,
    (GovernanceAuditResult.passed_iff _).trans hviolations⟩

/-- An error of R3 among the warnings, with that of R1 beside it. -/
example : (auditClaims "r1" "d1" [.obj [("claim_id",.str "c1"),("claim",.str "營收成長")]] false).map
    (fun result => (result.violations.map (·.rule),result.warnings.map (·.severity))) =
      .ok ([.r1],[.error]) := by decide +kernel

end FinancialPdfReader
