import FinancialPdfReader.Python.Json

namespace FinancialPdfReader

open Py

def r7TrendPhrases : List String := [
  "長期趨勢", "持續成長", "未來幾年", "長期而言", "趨勢持續",
  "long-term trend", "sustained growth", "over the next few years",
  "consistent growth", "trend will continue"]

def r4AdvicePhrases : List String := [
  "建議買入", "建議賣出", "建議持有", "投資建議", "目標價",
  "buy recommendation", "sell recommendation", "hold recommendation",
  "investment advice", "target price"]

inductive Rule where
  | r1 | r2 | r3 | r4 | r5 | r6 | r7
  deriving DecidableEq, Repr

def Rule.text : Rule → String
  | .r1 => "R1"
  | .r2 => "R2"
  | .r3 => "R3"
  | .r4 => "R4"
  | .r5 => "R5"
  | .r6 => "R6"
  | .r7 => "R7"

inductive FindingSeverity where
  | error | warning
  deriving DecidableEq, Repr

structure GovernanceViolation where
  rule : Rule
  description : String
  claimId : Json
  severity : FindingSeverity
  autoFixed : Bool
  fixDescription : String
  deriving DecidableEq

structure GovernanceAuditResult where
  reportId : String
  documentId : String
  totalClaims : Nat
  violations : List GovernanceViolation
  warnings : List GovernanceViolation
  deriving DecidableEq

namespace GovernanceAuditResult

/-- Only errors stand in the way of passing. -/
def passed (r : GovernanceAuditResult) : Bool := r.violations.length == 0

/-- Violations and warnings alike. -/
def findings (r : GovernanceAuditResult) : List GovernanceViolation := r.violations ++ r.warnings

theorem passed_iff (r : GovernanceAuditResult) : r.passed = true ↔ r.violations = [] := by
  rw [passed, beq_iff_eq, List.length_eq_zero_iff]

end GovernanceAuditResult

/-- A violation that the ingestion does not repair. -/
def violation (rule : Rule) (claimId : Json) (description : String)
    (severity : FindingSeverity) : GovernanceViolation :=
  ⟨rule,description,claimId,severity,false,""⟩

def checkR1 (claimId evidence : Json) : Option GovernanceViolation :=
  if evidence.truthy then none
  else some (violation .r1 claimId "Claim 沒有任何 evidence，R1 違規" .error)

/-- `any(str(e.get("quoted_text") or "").strip() for e in evidence)` -/
def quotesSomething : List Json → Except PyError Bool
  | [] => .ok false
  | e :: es => do
      let quoted ← e.get "quoted_text" .null
      if strip (quoted.orElse (.str "")).toStr != "" then pure true else quotesSomething es

def checkR2 (claimId claimLevel evidence : Json) :
    Except PyError (Option GovernanceViolation) :=
  if claimLevel.isStr "derived_metric" then do
    let evs ← evidence.iter
    let hasSource ← quotesSomething evs
    pure (if hasSource then none
      else some (violation .r2 claimId
        "數字 claim（derived_metric）沒有 quoted_text 來源，R2 違規" .error))
  else .ok none

def checkR3 (claimId claimLevel evidence : Json) :
    Except PyError (Option GovernanceViolation) :=
  if evidence.truthy then .ok none
  else do
    let allowed ← claimLevel.inSet ["hypothesis","insufficient_evidence"]
    pure (if allowed then none
      else some {
        rule := .r3
        claimId
        description := "Claim 沒有 evidence 但 claim_level=" ++ claimLevel.repr ++
          "，應為 hypothesis 或 insufficient_evidence，R3 違規"
        severity := .error
        autoFixed := true
        fixDescription := "summarization service 已於 generate_summary() 自動降級" })

def checkR4Report (investmentAdviceDetected : Bool) : Option GovernanceViolation :=
  if investmentAdviceDetected then
    some (violation .r4 .null
      "報告含投資建議詞彙（investment_advice_detected=True），R4 違規" .error)
  else none

/-- The phrases that the text holds, whatever their case. -/
def phrasesFound (phrases : List String) (claimText : Json) : Except PyError (List String) := do
  let lowered ← claimText.lower
  pure (phrases.filter (fun p => isIn (lower p) lowered))

/-- A finding that lists the phrases found, between two pieces of text. -/
def checkPhrases (rule : Rule) (phrases : List String) (before after : String)
    (severity : FindingSeverity) (claimId claimText : Json) :
    Except PyError (Option GovernanceViolation) := do
  let found ← phrasesFound phrases claimText
  pure (if found.isEmpty then none
    else some (violation rule claimId (before ++ (Json.arr (found.map .str)).repr ++ after)
      severity))

def checkR4Claim : (claimId claimText : Json) → Except PyError (Option GovernanceViolation) :=
  checkPhrases .r4 r4AdvicePhrases "Claim 含投資建議詞彙 " "，R4 違規" .error

def checkR5 (claimId : Json) (documentId : String) :
    List Json → Except PyError (Option GovernanceViolation)
  | [] => .ok none
  | ev :: evs => do
      let cited ← ev.get "document_id" .null
      let evDoc := (cited.orElse (.str "")).toStr
      if evDoc != "" && evDoc != documentId then
        pure (some (violation .r5 claimId
          ("Evidence 引用了不同文件 document_id=" ++ Py.reprStr evDoc ++
            "，跨文件推論必須明確標示，R5 違規") .warning))
      else checkR5 claimId documentId evs

def checkR7Claim : (claimId claimText : Json) → Except PyError (Option GovernanceViolation) :=
  checkPhrases .r7 r7TrendPhrases "Claim 含長期趨勢推論詞彙 "
    "，單季資料不可用於長期趨勢判斷，R7 違規" .warning

def checkR6Diff (diffId diffType : Json) (toneOnly : Bool) : Option GovernanceViolation :=
  if !diffType.isStr "tone_shift" then none
  else if toneOnly then none
  else some (violation .r6 diffId
    "tone_shift item must set tone_only=True to avoid financial-overstatement drift" .error)

/-- The violations and the warnings that one claim adds. -/
structure Findings where
  violations : List GovernanceViolation
  warnings : List GovernanceViolation

def Findings.all (f : Findings) : List GovernanceViolation := f.violations ++ f.warnings

def auditClaim (documentId : String) (c : Json) : Except PyError Findings := do
  let cid ← c.get "claim_id" (.str "unknown")
  let claimText ← c.get "claim" (.str "")
  let claimLevel ← c.get "claim_level" (.str "interpretation")
  let evidence ← c.get "evidence" (.arr [])
  let r1 := checkR1 cid evidence
  let r2 ← checkR2 cid claimLevel evidence
  let r3 ← checkR3 cid claimLevel evidence
  let r4 ← checkR4Claim cid claimText
  let evs ← evidence.iter
  let r5 ← checkR5 cid documentId evs
  let r7 ← checkR7Claim cid claimText
  -- an R3 finding that was repaired is a warning
  let repaired := r3.filter (·.autoFixed)
  let unrepaired := r3.filter (!·.autoFixed)
  pure ⟨r1.toList ++ r2.toList ++ unrepaired.toList ++ r4.toList,
    repaired.toList ++ r5.toList ++ r7.toList⟩

def auditClaims (reportId documentId : String) (claims : List Json)
    (investmentAdviceDetected : Bool) : Except PyError GovernanceAuditResult := do
  let audited ← claims.mapM (auditClaim documentId)
  pure ⟨reportId,documentId,claims.length,
    (checkR4Report investmentAdviceDetected).toList ++ audited.flatMap Findings.violations,
    audited.flatMap Findings.warnings⟩

def auditDiffItem (item : Json) : Except PyError (Option GovernanceViolation) := do
  let diffId ← item.get "diff_id" (.str "unknown")
  let diffType ← item.get "diff_type" (.str "")
  let toneOnly ← item.get "tone_only" (.bool false)
  pure (checkR6Diff diffId diffType toneOnly.truthy)

def auditDiffItems (reportId documentId : String) (items : List Json) :
    Except PyError GovernanceAuditResult := do
  let found ← items.mapM auditDiffItem
  pure ⟨reportId,documentId,items.length,found.filterMap id,[]⟩

theorem checkR2_rule {claimId claimLevel evidence : Json} {v : GovernanceViolation}
    (h : checkR2 claimId claimLevel evidence = .ok (some v)) : v.rule = .r2 := by
  rw [checkR2] at h
  split at h
  · obtain ⟨evs,-,h⟩ := bind_eq_ok.mp h
    obtain ⟨hasSource,-,h⟩ := bind_eq_ok.mp h
    cases hasSource with
    | true => simp at h
    | false =>
      simp only [Bool.false_eq_true, if_false, pure_eq_ok, Except.ok.injEq,
        Option.some.injEq] at h
      rw [← h]
      rfl
  · simp at h

theorem checkPhrases_rule {rule : Rule} {phrases : List String} {before after : String}
    {severity : FindingSeverity} {claimId claimText : Json} {v : GovernanceViolation}
    (h : checkPhrases rule phrases before after severity claimId claimText = .ok (some v)) :
    v.rule = rule := by
  obtain ⟨found,-,h⟩ := bind_eq_ok.mp h
  cases found with
  | nil => simp at h
  | cons p ps =>
    simp only [List.isEmpty_cons, Bool.false_eq_true, if_false, pure_eq_ok, Except.ok.injEq,
      Option.some.injEq] at h
    rw [← h]
    rfl

theorem checkPhrases_str {rule : Rule} {phrases : List String} {before after : String}
    {severity : FindingSeverity} {claimId : Json} {text : String} :
    checkPhrases rule phrases before after severity claimId (.str text) =
      .ok (if (phrases.filter (fun p => isIn (lower p) (lower text))).isEmpty then none
        else some (violation rule claimId (before ++ (Json.arr ((phrases.filter
          (fun p => isIn (lower p) (lower text))).map .str)).repr ++ after) severity)) := rfl

/-- A text is found fault with exactly when it holds one of the phrases. -/
theorem checkPhrases_flags_iff {rule : Rule} {phrases : List String} {before after : String}
    {severity : FindingSeverity} {claimId : Json} {text : String} :
    (∃ v, checkPhrases rule phrases before after severity claimId (.str text) = .ok (some v)) ↔
      ∃ p ∈ phrases, isIn (lower p) (lower text) = true := by
  rw [checkPhrases_str]
  cases hfound : phrases.filter (fun p => isIn (lower p) (lower text)) with
  | nil =>
    have hnone := List.filter_eq_nil_iff.mp hfound
    simp only [List.isEmpty_nil, if_true, Except.ok.injEq, reduceCtorEq, exists_false, false_iff]
    intro hsome
    obtain ⟨p,hp,hin⟩ := hsome
    exact hnone p hp hin
  | cons p ps =>
    have hmem : p ∈ phrases.filter (fun p => isIn (lower p) (lower text)) := by simp [hfound]
    obtain ⟨hp,hin⟩ := List.mem_filter.mp hmem
    simp only [List.isEmpty_cons, Bool.false_eq_true, if_false, Except.ok.injEq,
      Option.some.injEq, exists_eq', true_iff]
    exact ⟨p,hp,hin⟩

/-- An item of a comparison breaks R6 exactly when it shifts the tone without saying so. -/
theorem checkR6Diff_eq_none_iff (diffId diffType : Json) (toneOnly : Bool) :
    checkR6Diff diffId diffType toneOnly = none ↔
      (diffType = .str "tone_shift" → toneOnly = true) := by
  rw [checkR6Diff, ← Json.isStr_iff]
  cases diffType.isStr "tone_shift" <;> cases toneOnly <;> simp

end FinancialPdfReader
