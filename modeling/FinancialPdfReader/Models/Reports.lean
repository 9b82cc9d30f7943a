import FinancialPdfReader.Python.Field

namespace FinancialPdfReader

open Py

inductive ClaimType where
  | financialObservation | managementTone | riskFactor | accountingNote | numericCrossCheck
  deriving DecidableEq, Repr

inductive ClaimLevel where
  | observedFact | derivedMetric | interpretation | hypothesis | insufficientEvidence
  deriving DecidableEq, Repr

inductive Materiality where
  | tierA | tierB | tierC
  deriving DecidableEq, Repr

inductive SectionKey where
  | keyFinancials | accountingAdjustments | liquidity | riskRegister | pipeline | evidenceGaps
  deriving DecidableEq, Repr

inductive SourceType where
  | financialEvidence | operationalEvidence | strategicNarrative | managementExpectation
  deriving DecidableEq, Repr

inductive Confidence where
  | high | medium | low
  deriving DecidableEq, Repr

inductive EvidenceStatus where
  | complete | partlyComplete | insufficient
  deriving DecidableEq, Repr

inductive DiffType where
  | newLanguage | removedLanguage | toneShift | numericChange | newRisk | removedRisk
  deriving DecidableEq, Repr

inductive Presence where
  | both | onlyInCurrent | onlyInPrevious
  deriving DecidableEq, Repr

instance : Choices ClaimType where
  all := [.financialObservation,.managementTone,.riskFactor,.accountingNote,.numericCrossCheck]
  text
    | .financialObservation => "financial_observation"
    | .managementTone => "management_tone"
    | .riskFactor => "risk_factor"
    | .accountingNote => "accounting_note"
    | .numericCrossCheck => "numeric_cross_check"
  mem_all a := by cases a <;> decide
  text_injective a b := by cases a <;> cases b <;> decide

instance : Choices ClaimLevel where
  all := [.observedFact,.derivedMetric,.interpretation,.hypothesis,.insufficientEvidence]
  text
    | .observedFact => "observed_fact"
    | .derivedMetric => "derived_metric"
    | .interpretation => "interpretation"
    | .hypothesis => "hypothesis"
    | .insufficientEvidence => "insufficient_evidence"
  mem_all a := by cases a <;> decide
  text_injective a b := by cases a <;> cases b <;> decide

instance : Choices Materiality where
  all := [.tierA,.tierB,.tierC]
  text
    | .tierA => "tier_a"
    | .tierB => "tier_b"
    | .tierC => "tier_c"
  mem_all a := by cases a <;> decide
  text_injective a b := by cases a <;> cases b <;> decide

instance : Choices SectionKey where
  all := [.keyFinancials,.accountingAdjustments,.liquidity,.riskRegister,.pipeline,.evidenceGaps]
  text
    | .keyFinancials => "key_financials"
    | .accountingAdjustments => "accounting_adjustments"
    | .liquidity => "liquidity"
    | .riskRegister => "risk_register"
    | .pipeline => "pipeline"
    | .evidenceGaps => "evidence_gaps"
  mem_all a := by cases a <;> decide
  text_injective a b := by cases a <;> cases b <;> decide

instance : Choices SourceType where
  all := [.financialEvidence,.operationalEvidence,.strategicNarrative,.managementExpectation]
  text
    | .financialEvidence => "financial_evidence"
    | .operationalEvidence => "operational_evidence"
    | .strategicNarrative => "strategic_narrative"
    | .managementExpectation => "management_expectation"
  mem_all a := by cases a <;> decide
  text_injective a b := by cases a <;> cases b <;> decide

instance : Choices Confidence where
  all := [.high,.medium,.low]
  text
    | .high => "high"
    | .medium => "medium"
    | .low => "low"
  mem_all a := by cases a <;> decide
  text_injective a b := by cases a <;> cases b <;> decide

instance : Choices EvidenceStatus where
  all := [.complete,.partlyComplete,.insufficient]
  text
    | .complete => "complete"
    | .partlyComplete => "partial"
    | .insufficient => "insufficient"
  mem_all a := by cases a <;> decide
  text_injective a b := by cases a <;> cases b <;> decide

instance : Choices DiffType where
  all := [.newLanguage,.removedLanguage,.toneShift,.numericChange,.newRisk,.removedRisk]
  text
    | .newLanguage => "new_language"
    | .removedLanguage => "removed_language"
    | .toneShift => "tone_shift"
    | .numericChange => "numeric_change"
    | .newRisk => "new_risk"
    | .removedRisk => "removed_risk"
  mem_all a := by cases a <;> decide
  text_injective a b := by cases a <;> cases b <;> decide

instance : Choices Presence where
  all := [.both,.onlyInCurrent,.onlyInPrevious]
  text
    | .both => "both"
    | .onlyInCurrent => "only_in_current"
    | .onlyInPrevious => "only_in_previous"
  mem_all a := by cases a <;> decide
  text_injective a b := by cases a <;> cases b <;> decide

/-- `τ` is the type of the string fields: any value while a document is being built, a string
once it is saved. -/
structure ClaimEvidence (τ : Type) where
  documentId : String
  page : String
  sectionName : τ
  quotedText : τ
  deriving DecidableEq

/-- A claim with its enumerated fields read into the names that its choices allow. -/
structure AIClaim (τ : Type) where
  claimId : τ
  claim : τ
  claimType : ClaimType
  claimLevel : ClaimLevel
  materiality : Materiality
  sectionKey : SectionKey
  recurring : Bool
  contaminated : Bool
  sourceType : SourceType
  forwardLooking : Bool
  rhetoricalRiskFlag : Bool
  rhetoricalRiskTerms : List String
  attributionPrefix : String
  evidence : List (ClaimEvidence τ)
  confidence : Confidence
  requiresHumanReview : Bool
  deriving DecidableEq

def ClaimEvidence.map {τ υ : Type} (f : τ → υ) (e : ClaimEvidence τ) : ClaimEvidence υ :=
  ⟨e.documentId,e.page,f e.sectionName,f e.quotedText⟩

def ClaimEvidence.validate (e : ClaimEvidence Json) : Except PyError (ClaimEvidence String) := do
  let sectionName ← validString "section" e.sectionName
  let quotedText ← validString "quoted_text" e.quotedText
  pure ⟨e.documentId,e.page,sectionName,quotedText⟩

def AIClaim.map {τ υ : Type} (f : τ → υ) (c : AIClaim τ) : AIClaim υ :=
  { c with
    claimId := f c.claimId
    claim := f c.claim
    evidence := c.evidence.map (ClaimEvidence.map f) }

/-- What saving a report asks of each of its claims. -/
def AIClaim.validate (c : AIClaim Json) : Except PyError (AIClaim String) := do
  let claimId ← validString "claim_id" c.claimId
  let claim ← validString "claim" c.claim
  let evidence ← c.evidence.mapM ClaimEvidence.validate
  pure { c with claimId, claim, evidence }

private theorem ClaimEvidence.validate_eq_ok {e : ClaimEvidence Json} {v : ClaimEvidence String}
    (h : e.validate = .ok v) : e = v.map Json.str := by
  obtain ⟨s,hs,h⟩ := bind_eq_ok.mp h
  obtain ⟨q,hq,h⟩ := bind_eq_ok.mp h
  cases h
  rw [validString_eq_ok] at hs hq
  obtain ⟨d,p,s',q'⟩ := e
  simp only at hs hq
  rw [hs, hq]
  rfl

private theorem evidence_validate_eq_ok {xs : List (ClaimEvidence Json)}
    {ys : List (ClaimEvidence String)} (h : xs.mapM ClaimEvidence.validate = .ok ys) :
    xs = ys.map (ClaimEvidence.map Json.str) := by
  have hall := mapM_eq_ok.mp h
  clear h
  induction hall with
  | nil => rfl
  | cons hv _ ih => rw [List.map_cons, ← ih, ← ClaimEvidence.validate_eq_ok hv]

/-- A saved claim is the claim that was built, its string fields holding strings. -/
theorem AIClaim.validate_eq_ok {c : AIClaim Json} {v : AIClaim String}
    (h : c.validate = .ok v) : c = v.map Json.str := by
  obtain ⟨i,hi,h⟩ := bind_eq_ok.mp h
  obtain ⟨t,ht,h⟩ := bind_eq_ok.mp h
  obtain ⟨es,hes,h⟩ := bind_eq_ok.mp h
  cases h
  rw [validString_eq_ok] at hi ht
  have hev := evidence_validate_eq_ok hes
  obtain ⟨⟩ := c
  simp only at hi ht hev
  subst hi ht hev
  rfl

/-- The saved summary of one document. -/
structure AIReport where
  reportId : String
  documentId : String
  stockId : String
  period : String
  temporalConsistent : Bool
  temporalNote : String
  executiveSummary : String
  narrativeDensityScore : ℚ
  narrativeDensityWeightedScore : ℚ
  narrativeFlag : Bool
  claims : List (AIClaim String)
  evidenceStatus : EvidenceStatus
  investmentAdviceDetected : Bool
  completenessWarnings : List String
  dashboard : Json
  dashboardContractValid : Bool
  dashboardContractErrors : List String
  chunksUsed : List String
  pagesCovered : List Nat
  createdAt : Nat
  deriving DecidableEq

structure DiffEvidence (τ : Type) where
  currentDocumentId : String
  currentPage : String
  currentQuoted : τ
  previousDocumentId : String
  previousPage : String
  previousQuoted : τ
  presence : Presence
  deriving DecidableEq

structure DiffItem (τ : Type) where
  diffId : τ
  sectionName : String
  diffType : DiffType
  description : τ
  currentSummary : τ
  previousSummary : τ
  evidence : DiffEvidence τ
  requiresHumanReview : Bool
  toneOnly : Bool
  deriving DecidableEq

/-- The saved comparison of two documents. -/
structure DiffReport where
  diffReportId : String
  currentDocumentId : String
  previousDocumentId : String
  stockId : String
  currentPeriod : String
  previousPeriod : String
  items : List (DiffItem String)
  sectionsCompared : List String
  sectionsOnlyCurrent : List String
  sectionsOnlyPrevious : List String
  requiresHumanReview : Bool
  createdAt : Nat
  deriving DecidableEq

def DiffEvidence.validate (e : DiffEvidence Json) : Except PyError (DiffEvidence String) := do
  let currentQuoted ← validString "current_quoted" e.currentQuoted
  let previousQuoted ← validString "previous_quoted" e.previousQuoted
  pure { e with currentQuoted, previousQuoted }

/-- What saving a report asks of each of its items. -/
def DiffItem.validate (i : DiffItem Json) : Except PyError (DiffItem String) := do
  let diffId ← validString "diff_id" i.diffId
  let description ← validString "description" i.description
  let currentSummary ← validString "current_summary" i.currentSummary
  let previousSummary ← validString "previous_summary" i.previousSummary
  let evidence ← i.evidence.validate
  pure { i with diffId, description, currentSummary, previousSummary, evidence }

/-- Saving only turns the texts of an item into strings. -/
structure DiffItem.SavedAs (i : DiffItem Json) (v : DiffItem String) : Prop where
  diffType : v.diffType = i.diffType
  toneOnly : v.toneOnly = i.toneOnly
  sectionName : v.sectionName = i.sectionName
  currentDocumentId : v.evidence.currentDocumentId = i.evidence.currentDocumentId
  currentPage : v.evidence.currentPage = i.evidence.currentPage
  previousDocumentId : v.evidence.previousDocumentId = i.evidence.previousDocumentId
  previousPage : v.evidence.previousPage = i.evidence.previousPage

theorem DiffItem.validate_eq_ok {i : DiffItem Json} {v : DiffItem String}
    (h : i.validate = .ok v) : i.SavedAs v := by
  obtain ⟨_,-,h⟩ := bind_eq_ok.mp h
  obtain ⟨_,-,h⟩ := bind_eq_ok.mp h
  obtain ⟨_,-,h⟩ := bind_eq_ok.mp h
  obtain ⟨_,-,h⟩ := bind_eq_ok.mp h
  obtain ⟨evidence,hevidence,h⟩ := bind_eq_ok.mp h
  obtain ⟨_,-,hevidence⟩ := bind_eq_ok.mp hevidence
  obtain ⟨_,-,hevidence⟩ := bind_eq_ok.mp hevidence
  cases hevidence
  cases h
  exact ⟨rfl,rfl,rfl,rfl,rfl,rfl,rfl⟩

end FinancialPdfReader
