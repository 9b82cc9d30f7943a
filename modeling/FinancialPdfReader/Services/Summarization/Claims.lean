import FinancialPdfReader.Models.Reports
import FinancialPdfReader.Prompts

namespace FinancialPdfReader

open Py

def validClaimType : List String :=
  ["financial_observation","management_tone","risk_factor","accounting_note","numeric_cross_check"]

def validClaimLevel : List String :=
  ["observed_fact","derived_metric","interpretation","hypothesis","insufficient_evidence"]

def validMateriality : List String := ["tier_a","tier_b","tier_c"]

def validSectionKey : List String :=
  ["key_financials","accounting_adjustments","liquidity","risk_register","pipeline","evidence_gaps"]

def validSourceType : List String :=
  ["financial_evidence","operational_evidence","strategic_narrative","management_expectation"]

def validConfidence : List String := ["high","medium","low"]

/-- The names that the service lets through are the choices of the model. -/
theorem valid_eq_choices :
    validClaimType = Choices.texts ClaimType ∧ validClaimLevel = Choices.texts ClaimLevel ∧
    validMateriality = Choices.texts Materiality ∧ validSectionKey = Choices.texts SectionKey ∧
    validSourceType = Choices.texts SourceType ∧ validConfidence = Choices.texts Confidence := by
  decide

def SourceType.isNarrative : SourceType → Bool
  | .strategicNarrative => true
  | .managementExpectation => true
  | _ => false

/-- `_ATTRIBUTION_MAP.get(source_type, "")` -/
def SourceType.attributionPrefix : SourceType → String
  | .strategicNarrative => "公司宣稱："
  | .managementExpectation => "管理層表示："
  | _ => ""

/-- The levels that an inconsistent time axis contaminates. -/
def ClaimLevel.isDerived : ClaimLevel → Bool
  | .derivedMetric => true
  | .interpretation => true
  | .hypothesis => true
  | _ => false

/-- One item of the output as it is read, before any guard. -/
structure RawClaim where
  claimId : Json
  claim : Json
  claimType : ClaimType
  claimLevel : ClaimLevel
  materiality : Materiality
  sectionKey : SectionKey
  recurring : Json
  contaminated : Json
  sourceType : SourceType
  forwardLooking : Json
  evidence : List (ClaimEvidence Json)
  confidence : Confidence
  requiresHumanReview : Json

/-- `item.get(key, default)`, kept if it is one of the names allowed. -/
def readChoice {α : Type} [Choices α] (item : Json) (key : String) (default : α) :
    Except PyError α := do
  let x ← item.get key (.str (Choices.text default))
  Choices.read default x

def readEvidence (documentId : String) (ev : Json) : Except PyError (ClaimEvidence Json) := do
  let page ← ev.get "page" (.str "unknown")
  let sectionName ← ev.get "section" (.str "unknown")
  let quotedText ← ev.get "quoted_text" (.str "")
  pure ⟨documentId,page.toStr,stringField "unknown" sectionName,stringField "" quotedText⟩

def readItem (uuid documentId : String) (item : Json) : Except PyError RawClaim := do
  let listed ← item.get "evidence" (.arr [])
  let evs ← listed.iter
  let evidence ← evs.mapM (readEvidence documentId)
  let claimLevel ← readChoice item "claim_level" .interpretation
  let contaminated ← item.get "contaminated" (.bool false)
  let sourceType ← readChoice item "source_type" .financialEvidence
  let forwardLooking ← item.get "forward_looking" (.bool false)
  let confidence ← readChoice item "confidence" .medium
  let requiresHumanReview ← item.get "requires_human_review" (.bool false)
  let claim ← item.get "claim" (.str "")
  let claimType ← readChoice item "claim_type" .financialObservation
  let materiality ← readChoice item "materiality" .tierB
  let sectionKey ← readChoice item "section_key" .keyFinancials
  let claimId ← item.get "claim_id" (.str uuid)
  let recurring ← item.get "recurring" (.bool true)
  pure ⟨claimId,claim,claimType,claimLevel,materiality,sectionKey,recurring,contaminated,
    sourceType,forwardLooking,evidence,confidence,requiresHumanReview⟩

/-- A claim without evidence is insufficient evidence. -/
def requireEvidence (evidence : List (ClaimEvidence Json)) (level : ClaimLevel) : ClaimLevel :=
  if evidence.isEmpty && level != .insufficientEvidence then .insufficientEvidence else level

/-- Temporal contamination, on the level as it stands then. -/
def taintDerived (temporalConsistent : Bool) (level : ClaimLevel) (contaminated : Json) : Json :=
  if !temporalConsistent && level.isDerived then .bool true else contaminated

/-- A narrative is never an observed fact. -/
def demoteNarrative (sourceType : SourceType) (level : ClaimLevel) : ClaimLevel :=
  if sourceType.isNarrative && level == .observedFact then .interpretation else level

/-- An expectation of the management is never of high confidence. -/
def capConfidence (sourceType : SourceType) (confidence : Confidence) : Confidence :=
  if sourceType == .managementExpectation && confidence == .high then .medium else confidence

/-- The indicator words are looked for where a narrative does not say that it looks forward. -/
def impliesForward (raw : RawClaim) : Except PyError Bool :=
  if !raw.forwardLooking.truthy && raw.sourceType.isNarrative then
    raw.claim.containsAny forwardLookingIndicatorPhrases
  else .ok false

def rhetoricalTerms (raw : RawClaim) : Except PyError (List String) :=
  if raw.sourceType.isNarrative then raw.claim.containedIn rhetoricalRiskPhrases else .ok []

/-- The claim that the guards make of an item, given what the scans of its text found. -/
def governed (temporalConsistent : Bool) (raw : RawClaim) (implied : Bool)
    (terms : List String) : AIClaim Json :=
  let level := requireEvidence raw.evidence raw.claimLevel
  { claimId := raw.claimId
    claim := raw.claim
    claimType := raw.claimType
    claimLevel := demoteNarrative raw.sourceType level
    materiality := raw.materiality
    sectionKey := raw.sectionKey
    recurring := boolField true raw.recurring
    contaminated := boolField false (taintDerived temporalConsistent level raw.contaminated)
    sourceType := raw.sourceType
    forwardLooking := implied || boolField false raw.forwardLooking
    rhetoricalRiskFlag := !terms.isEmpty
    rhetoricalRiskTerms := terms
    attributionPrefix := raw.sourceType.attributionPrefix
    evidence := raw.evidence
    confidence := capConfidence raw.sourceType raw.confidence
    requiresHumanReview :=
      implied || raw.forwardLooking.truthy || boolField false raw.requiresHumanReview }

/-- The guards, one after another. -/
def govern (temporalConsistent : Bool) (raw : RawClaim) : Except PyError (AIClaim Json) := do
  let implied ← impliesForward raw
  let terms ← rhetoricalTerms raw
  pure (governed temporalConsistent raw implied terms)

def parseClaim (uuid documentId : String) (temporalConsistent : Bool) (item : Json) :
    Except PyError (AIClaim Json) := do
  let raw ← readItem uuid documentId item
  govern temporalConsistent raw

/-- `raw_json.get("claims", [])`, as the loop runs over it. -/
def claimItems (rawJson : Json) : Except PyError (List Json) := do
  let listed ← rawJson.get "claims" (.arr [])
  listed.iter

/-- `uuid4 i` is the identifier drawn while item `i` is read. -/
def parseClaims (uuid4 : Nat → String) (rawJson : Json) (documentId : String)
    (temporalConsistent : Bool) : Except PyError (List (AIClaim Json)) := do
  let items ← claimItems rawJson
  items.zipIdx.mapM (fun e => parseClaim (uuid4 e.2) documentId temporalConsistent e.1)

end FinancialPdfReader
