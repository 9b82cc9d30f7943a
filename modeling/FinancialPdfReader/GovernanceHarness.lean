import FinancialPdfReader.Python.Number
import FinancialPdfReader.Services.Summarization.Guards

namespace FinancialPdfReader

open Py

/-- A claim as the harness compares it. -/
structure HarnessClaim where
  claimId : Json
  claim : Json
  claimLevel : Json
  sourceType : Json
  confidence : Json
  forwardLooking : Json
  requiresHumanReview : Json
  attributionPrefix : String
  rhetoricalRiskFlag : Bool
  evidence : Json

/-- The output as it is; only a claim without any evidence loses its level. -/
def parseUngovernedItem (uuid : String) (item : Json) : Except PyError HarnessClaim := do
  let evList ← item.get "evidence" (.arr [])
  let claimLevel ← item.get "claim_level" (.str "interpretation")
  let claimId ← item.get "claim_id" (.str uuid)
  let claim ← item.get "claim" (.str "")
  let sourceType ← item.get "source_type" (.str "financial_evidence")
  let confidence ← item.get "confidence" (.str "medium")
  let forwardLooking ← item.get "forward_looking" (.bool false)
  let requiresHumanReview ← item.get "requires_human_review" (.bool false)
  pure {
    claimId
    claim
    claimLevel := if !evList.truthy && claimLevel != .str "insufficient_evidence" then
      .str "insufficient_evidence" else claimLevel
    sourceType
    confidence
    forwardLooking
    requiresHumanReview
    attributionPrefix := ""
    rhetoricalRiskFlag := false
    evidence := evList }

def parseUngoverned (uuid4 : Nat → String) (rawJson : Json) :
    Except PyError (List HarnessClaim) := do
  let items ← claimItems rawJson
  items.zipIdx.mapM (fun e => parseUngovernedItem (uuid4 e.2) e.1)

def harnessClaim (c : AIClaim Json) : HarnessClaim where
  claimId := c.claimId
  claim := c.claim
  claimLevel := .str (Choices.text c.claimLevel)
  sourceType := .str (Choices.text c.sourceType)
  confidence := .str (Choices.text c.confidence)
  forwardLooking := .bool c.forwardLooking
  requiresHumanReview := .bool c.requiresHumanReview
  attributionPrefix := c.attributionPrefix
  rhetoricalRiskFlag := c.rhetoricalRiskFlag
  evidence := .arr (c.evidence.map (fun e => .obj [("page",.str e.page)]))

/-- The claims that the service makes of the output. -/
def parseGoverned (uuid4 : Nat → String) (rawJson : Json) (documentId : String) :
    Except PyError (List HarnessClaim) := do
  let claims ← parseClaims uuid4 rawJson documentId true
  pure (claims.map harnessClaim)

def isNonInsuf (c : HarnessClaim) : Bool := c.claimLevel != .str "insufficient_evidence"

/-- No quotation layer, high confidence and no look ahead. -/
def isUnblocked (c : HarnessClaim) : Bool :=
  c.attributionPrefix == "" && c.confidence == .str "high" && !c.forwardLooking.truthy

def scaleFactor : ℚ := 2

def computeRate (claims : List HarnessClaim) : ℚ :=
  let nonInsuf := claims.filter isNonInsuf
  if nonInsuf.isEmpty then 0 else roundTo 1 (nonInsuf.countP isUnblocked * scaleFactor)

def isNarrativeName (src : Json) : Bool :=
  src == .str "strategic_narrative" || src == .str "management_expectation"

/-- A rule of the governance that a claim still breaks. -/
def isViolation (c : HarnessClaim) : Bool :=
  if isNarrativeName c.sourceType && c.claimLevel == .str "observed_fact" then true
  else if c.sourceType == .str "management_expectation" && c.confidence == .str "high" then true
  else isNarrativeName c.sourceType && c.attributionPrefix == ""

def countRemainingViolations (governedClaims : List HarnessClaim) : Nat :=
  governedClaims.countP isViolation

theorem isViolation_iff {c : HarnessClaim} : isViolation c = true ↔
    (isNarrativeName c.sourceType = true ∧ c.claimLevel = .str "observed_fact") ∨
    (c.sourceType = .str "management_expectation" ∧ c.confidence = .str "high") ∨
    (isNarrativeName c.sourceType = true ∧ c.attributionPrefix = "") := by
  unfold isViolation
  split
  · rename_i hfact
    simp only [Bool.and_eq_true, beq_iff_eq] at hfact
    simp [hfact]
  · rename_i hfact
    simp only [Bool.and_eq_true, beq_iff_eq] at hfact
    split
    · rename_i hcap
      simp only [Bool.and_eq_true, beq_iff_eq] at hcap
      simp [hcap]
    · rename_i hcap
      simp only [Bool.and_eq_true, beq_iff_eq] at hcap ⊢
      simp only [hfact, hcap, false_or]

theorem parseUngovernedItem_eq_ok {uuid : String} {item : Json} {u : HarnessClaim}
    (h : parseUngovernedItem uuid item = .ok u) :
    u.claimLevel = (if !(item.getD "evidence" (.arr [])).truthy &&
      item.getD "claim_level" (.str "interpretation") != .str "insufficient_evidence" then
        .str "insufficient_evidence" else item.getD "claim_level" (.str "interpretation")) ∧
    u.confidence = item.getD "confidence" (.str "medium") ∧
    u.forwardLooking = item.getD "forward_looking" (.bool false) ∧ u.attributionPrefix = "" := by
  obtain ⟨evList,hev,h⟩ := bind_eq_ok.mp h
  obtain ⟨claimLevel,hlevel,h⟩ := bind_eq_ok.mp h
  obtain ⟨claimId,-,h⟩ := bind_eq_ok.mp h
  obtain ⟨claim,-,h⟩ := bind_eq_ok.mp h
  obtain ⟨sourceType,-,h⟩ := bind_eq_ok.mp h
  obtain ⟨confidence,hconfidence,h⟩ := bind_eq_ok.mp h
  obtain ⟨forwardLooking,hforward,h⟩ := bind_eq_ok.mp h
  obtain ⟨requiresHumanReview,-,h⟩ := bind_eq_ok.mp h
  obtain rfl := Except.ok.inj h
  obtain ⟨-,rfl⟩ := Json.get_eq_ok.mp hev
  obtain ⟨-,rfl⟩ := Json.get_eq_ok.mp hlevel
  exact ⟨rfl,(Json.get_eq_ok.mp hconfidence).2,(Json.get_eq_ok.mp hforward).2,rfl⟩

/-- What the governance does to one claim: it keeps whether the claim counts, never unblocks it
and leaves no rule broken. -/
structure Lowers (u g : HarnessClaim) : Prop where
  nonInsuf : isNonInsuf g = isNonInsuf u
  unblocked : isUnblocked g = true → isUnblocked u = true
  lawful : isViolation g = false

theorem isInsuf_governed_iff (raw : RawClaim) :
    demoteNarrative raw.sourceType (requireEvidence raw.evidence raw.claimLevel) =
      .insufficientEvidence ↔ raw.evidence = [] ∨ raw.claimLevel = .insufficientEvidence := by
  cases raw.evidence with
  | nil => cases raw.claimLevel <;> cases raw.sourceType <;> decide
  | cons e es =>
    have hlevel : requireEvidence (e :: es) raw.claimLevel = raw.claimLevel := rfl
    rw [hlevel]
    cases raw.claimLevel <;> cases raw.sourceType <;> simp [demoteNarrative, SourceType.isNarrative]

section Governed

variable {raw : RawClaim} {uuid documentId : String} {item : Json} {u : HarnessClaim}
  (h : raw.IsReadFrom uuid documentId item) (implied : Bool) (terms : List String)
include h

theorem nonInsuf_governed {uuid' : String} (hu : parseUngovernedItem uuid' item = .ok u) :
    isNonInsuf (harnessClaim (governed true raw implied terms)) = isNonInsuf u := by
  have hlevel := Choices.read_eq_ok_of_ne_default ClaimLevel.interpretation
    .insufficientEvidence (item.getD "claim_level" (.str "interpretation")) (by decide)
  rw [h.claimLevel, Except.ok.injEq] at hlevel
  have hg : isNonInsuf (harnessClaim (governed true raw implied terms)) = false ↔
      (item.getD "evidence" (.arr [])).truthy = false ∨
        item.getD "claim_level" (.str "interpretation") = .str "insufficient_evidence" := by
    have htext : (harnessClaim (governed true raw implied terms)).claimLevel =
        .str "insufficient_evidence" ↔ demoteNarrative raw.sourceType
          (requireEvidence raw.evidence raw.claimLevel) = .insufficientEvidence :=
      Choices.str_text_eq_iff _ ClaimLevel.insufficientEvidence
    rw [isNonInsuf, bne_eq_false_iff_eq, htext, isInsuf_governed_iff, h.evidence_eq_nil_iff, hlevel]
    rfl
  have hnot : isNonInsuf u = false ↔ (item.getD "evidence" (.arr [])).truthy = false ∨
      item.getD "claim_level" (.str "interpretation") = .str "insufficient_evidence" := by
    rw [isNonInsuf, bne_eq_false_iff_eq, (parseUngovernedItem_eq_ok hu).1]
    cases (item.getD "evidence" (.arr [])).truthy with
    | true => simp
    | false =>
      by_cases hclaim : item.getD "claim_level" (.str "interpretation") =
          .str "insufficient_evidence"
      · simp [hclaim]
      · simp [hclaim]
  exact Bool.eq_iff_iff.mpr (by
    rw [← not_iff_not, Bool.not_eq_true, Bool.not_eq_true, hg, hnot])

private theorem unblocked_governed {uuid' : String} (hu : parseUngovernedItem uuid' item = .ok u)
    (hg : isUnblocked (harnessClaim (governed true raw implied terms)) = true) :
    isUnblocked u = true := by
  obtain ⟨-,hconfidence,hforward,hattribution⟩ := parseUngovernedItem_eq_ok hu
  simp only [isUnblocked, Bool.and_eq_true, beq_iff_eq, Bool.not_eq_true'] at hg ⊢
  obtain ⟨⟨-,hhigh⟩,hahead⟩ := hg
  have hcap : capConfidence raw.sourceType raw.confidence = .high :=
    (Choices.str_text_eq_iff _ Confidence.high).mp hhigh
  have hraw : raw.confidence = .high := by
    rw [capConfidence] at hcap
    split at hcap
    · exact absurd hcap (by decide)
    · exact hcap
  have hread := Choices.read_eq_ok_of_ne_default Confidence.medium .high
    (item.getD "confidence" (.str "medium")) (by decide)
  rw [h.confidence, Except.ok.injEq] at hread
  have hfalse : (implied || boolField false raw.forwardLooking) = false := hahead
  rw [boolField_false, Bool.or_eq_false_iff, h.forwardLooking] at hfalse
  exact ⟨⟨hattribution,hconfidence.trans (hread.mp hraw)⟩,hforward ▸ hfalse.2⟩

end Governed

/-- No claim that the guards have passed over breaks a rule. -/
theorem lawful_governed (raw : RawClaim) (implied : Bool) (terms : List String) :
    isViolation (harnessClaim (governed true raw implied terms)) = false := by
  have hname : isNarrativeName (.str (Choices.text raw.sourceType)) =
      raw.sourceType.isNarrative := by
    cases raw.sourceType <;> decide
  rw [← Bool.not_eq_true, isViolation_iff]
  intro hcases
  rcases hcases with ⟨hnarrative,hfact⟩ | ⟨hsource,hhigh⟩ | ⟨hnarrative,hattribution⟩
  · have hlevel := (Choices.str_text_eq_iff _ ClaimLevel.observedFact).mp hfact
    exact (demoteNarrative_requireEvidence raw).2 (hname ▸ hnarrative) hlevel
  · have hexpectation : raw.sourceType = .managementExpectation :=
      (Choices.str_text_eq_iff _ SourceType.managementExpectation).mp hsource
    have hcap : capConfidence raw.sourceType raw.confidence = .high :=
      (Choices.str_text_eq_iff _ Confidence.high).mp hhigh
    rw [hexpectation] at hcap
    revert hcap
    cases raw.confidence <;> decide
  · have hsource : raw.sourceType.isNarrative = true := hname ▸ hnarrative
    have hempty : raw.sourceType.attributionPrefix = "" := hattribution
    revert hsource hempty
    cases raw.sourceType <;> decide

/-- An item that the service makes a claim of. -/
structure GovernableItem (item : Json) : Prop extends ReadableClaim item where
  text : isNarrativeName (item.getD "source_type" (.str "financial_evidence")) = true →
    (item.getD "claim" (.str "")).isContainer = true

theorem parseClaim_isOk_iff (uuid documentId : String) (temporalConsistent : Bool) (item : Json) :
    (∃ c, parseClaim uuid documentId temporalConsistent item = .ok c) ↔ GovernableItem item := by
  have hname : isNarrativeName (item.getD "source_type" (.str "financial_evidence")) = true ↔
      item.getD "source_type" (.str "financial_evidence") = .str "strategic_narrative" ∨
      item.getD "source_type" (.str "financial_evidence") = .str "management_expectation" := by
    simp only [isNarrativeName, Bool.or_eq_true, beq_iff_eq]
  constructor
  · intro hparts
    obtain ⟨c,h⟩ := hparts
    obtain ⟨raw,hraw,hgovern⟩ := bind_eq_ok.mp h
    have hread := readItem_eq_ok hraw
    refine ⟨(readItem_isOk_iff uuid documentId item).mp ⟨raw,hraw⟩,?_⟩
    intro hnarrative
    have hcontainer := (govern_isOk_iff temporalConsistent raw).mp ⟨c,hgovern⟩
      (hread.isNarrative_iff.mpr (hname.mp hnarrative))
    exact hread.claim ▸ hcontainer
  · intro h
    obtain ⟨raw,hraw⟩ := (readItem_isOk_iff uuid documentId item).mpr h.toReadableClaim
    have hread := readItem_eq_ok hraw
    have hcontainer : raw.sourceType.isNarrative = true → raw.claim.isContainer = true := by
      intro hnarrative
      rw [hread.claim]
      exact h.text (hname.mpr (hread.isNarrative_iff.mp hnarrative))
    obtain ⟨c,hc⟩ := (govern_isOk_iff temporalConsistent raw).mpr hcontainer
    exact ⟨c,bind_eq_ok.mpr ⟨raw,hraw,hc⟩⟩

section Outputs

variable {uuid4 : Nat → String} {rawJson : Json} {documentId : String} {items : List Json}
  (hitems : claimItems rawJson = .ok items)
include hitems

/-- The service makes claims of an output exactly when it makes one of each of its items. -/
theorem parseGoverned_isOk_iff :
    (∃ governed, parseGoverned uuid4 rawJson documentId = .ok governed) ↔
      ∀ item ∈ items, GovernableItem item := by
  have hclaims : (∃ governed, parseGoverned uuid4 rawJson documentId = .ok governed) ↔
      ∃ claims, items.zipIdx.mapM
        (fun e => parseClaim (uuid4 e.2) documentId true e.1) = .ok claims := by
    rw [parseGoverned, parseClaims, hitems, ok_bind]
    constructor
    · intro hparts
      obtain ⟨governed,h⟩ := hparts
      obtain ⟨claims,hclaims,-⟩ := bind_eq_ok.mp h
      exact ⟨claims,hclaims⟩
    · intro hparts
      obtain ⟨claims,hclaims⟩ := hparts
      exact ⟨_,bind_eq_ok.mpr ⟨claims,hclaims,rfl⟩⟩
  rw [hclaims, mapM_isOk_iff]
  constructor
  · intro hall item hitem
    obtain ⟨e,he,rfl⟩ := exists_zipIdx_of_mem hitem
    exact (parseClaim_isOk_iff _ _ _ _).mp (hall e he)
  · intro hall e he
    exact (parseClaim_isOk_iff _ _ _ _).mpr (hall e.1 (List.fst_mem_of_mem_zipIdx he))

theorem parseUngoverned_of_objects (hobj : ∀ item ∈ items, ∃ fields, item = .obj fields) :
    ∃ ungoverned, parseUngoverned uuid4 rawJson = .ok ungoverned := by
  rw [parseUngoverned, hitems, ok_bind, mapM_isOk_iff]
  intro e he
  obtain ⟨fields,hfields⟩ := hobj e.1 (List.fst_mem_of_mem_zipIdx he)
  rw [hfields]
  exact ⟨_,rfl⟩

/-- Claim by claim, the governance only lowers. -/
theorem forall₂_lowers {uuid4' : Nat → String} {ungoverned governed : List HarnessClaim}
    (hu : parseUngoverned uuid4 rawJson = .ok ungoverned)
    (hg : parseGoverned uuid4' rawJson documentId = .ok governed) :
    List.Forall₂ Lowers ungoverned governed := by
  obtain ⟨claims,hclaims,hmap⟩ := bind_eq_ok.mp hg
  obtain rfl := Except.ok.inj hmap
  rw [parseUngoverned, hitems, ok_bind, mapM_eq_ok] at hu
  have hread : List.Forall₂ (fun item u => ∃ uuid, parseUngovernedItem uuid item = .ok u)
      items ungoverned :=
    forall₂_of_zipIdx (hu.imp (fun e u h => ⟨uuid4 e.2,h⟩))
  rw [List.forall₂_map_right_iff]
  refine (forall₂_comp hread.flip (parseClaims_eq_ok hitems hclaims)).imp ?_
  intro u c hparts
  obtain ⟨item,⟨uuid,hitem⟩,⟨uuid',raw,hraw,hgovern⟩⟩ := hparts
  obtain ⟨implied,terms,-,-,rfl⟩ := govern_eq_ok hgovern
  exact ⟨nonInsuf_governed hraw implied terms hitem,
    unblocked_governed hraw implied terms hitem,lawful_governed raw implied terms⟩

end Outputs

theorem computeRate_eq (claims : List HarnessClaim) :
    computeRate claims = (claims.countP (fun c => isUnblocked c && isNonInsuf c) : ℚ) * 2 := by
  rw [computeRate, ← List.countP_filter]
  split
  · rename_i hempty
    rw [List.isEmpty_iff.mp hempty]
    simp
  · have hwhole := roundTo_intCast 1 ((claims.filter isNonInsuf).countP isUnblocked * 2)
    push_cast at hwhole
    exact hwhole

/-- What the governed parse of an output is to the ungoverned one. -/
structure Refines (ungoverned governed : List HarnessClaim) : Prop where
  sameCount : governed.countP isNonInsuf = ungoverned.countP isNonInsuf
  unblocked : List.Forall₂ (fun u g => isNonInsuf g = true ∧ isUnblocked g = true →
    isNonInsuf u = true ∧ isUnblocked u = true) ungoverned governed
  rate : computeRate governed ≤ computeRate ungoverned
  lawful : countRemainingViolations governed = 0

theorem refines_of_lowers {ungoverned governed : List HarnessClaim}
    (h : List.Forall₂ Lowers ungoverned governed) : Refines ungoverned governed := by
  have hunblocked : List.Forall₂ (fun u g => isNonInsuf g = true ∧ isUnblocked g = true →
      isNonInsuf u = true ∧ isUnblocked u = true) ungoverned governed := by
    apply h.imp
    intro u g hlowers hboth
    exact ⟨hlowers.nonInsuf ▸ hboth.1,hlowers.unblocked hboth.2⟩
  refine ⟨countP_eq_of_forall₂ (h.imp (fun u g hlowers => hlowers.nonInsuf)),hunblocked,?_,?_⟩
  · have hcount : governed.countP (fun c => isUnblocked c && isNonInsuf c) ≤
        ungoverned.countP (fun c => isUnblocked c && isNonInsuf c) := by
      apply countP_le_of_forall₂
      apply hunblocked.imp
      intro u g himp hboth
      rw [Bool.and_eq_true, and_comm] at hboth ⊢
      exact himp hboth
    rw [computeRate_eq, computeRate_eq]
    gcongr
  · rw [countRemainingViolations, List.countP_eq_zero]
    intro g hg
    have hlawful : ∀ g ∈ governed, isViolation g = false :=
      (forall_mem_iff_of_forall₂ (P := fun _ => True) h (fun _ _ hlowers =>
        ⟨fun _ => hlowers.lawful,fun _ => trivial⟩)).mp (fun _ _ => trivial)
    exact Bool.not_eq_true _ ▸ hlawful g hg

/-- Of every list of objects the ungoverned parse makes claims, and the governed one exactly
when each can be read and searched; what it then makes refines the ungoverned claims. -/
theorem parseGoverned_refines (uuid4 uuid4' : Nat → String) {rawJson : Json} (documentId : String)
    {items : List Json} (hitems : claimItems rawJson = .ok items)
    (hobj : ∀ item ∈ items, ∃ fields, item = .obj fields) :
    ∃ ungoverned, parseUngoverned uuid4 rawJson = .ok ungoverned ∧
      ((∃ governed, parseGoverned uuid4' rawJson documentId = .ok governed) ↔
        ∀ item ∈ items, GovernableItem item) ∧
      ∀ governed, parseGoverned uuid4' rawJson documentId = .ok governed →
        Refines ungoverned governed := by
  have hparse : ∃ ungoverned, parseUngoverned uuid4 rawJson = .ok ungoverned :=
    parseUngoverned_of_objects hitems hobj
  obtain ⟨ungoverned,hu⟩ := hparse
  refine ⟨ungoverned,hu,parseGoverned_isOk_iff hitems,?_⟩
  intro governed hg
  exact refines_of_lowers (forall₂_lowers hitems hu hg)

/-- The two parses of the forecast that the output takes for a fact. -/
theorem parseGoverned_refines_narrativeFactOutput : ∃ ungoverned governed,
    parseUngoverned (fun _ => "u") narrativeFactOutput = .ok ungoverned ∧
    parseGoverned (fun _ => "v") narrativeFactOutput "d1" = .ok governed ∧
    Refines ungoverned governed := by
  obtain ⟨items,hitems⟩ := exists_ok_of_isOk (x := claimItems narrativeFactOutput)
    (by decide +kernel)
  obtain ⟨governed,hg⟩ := exists_ok_of_isOk
    (x := parseGoverned (fun _ => "v") narrativeFactOutput "d1") (by decide +kernel)
  have hobj : ∀ item ∈ items, ∃ fields, item = .obj fields := by
    intro item hitem
    exact ((parseGoverned_isOk_iff hitems).mp ⟨governed,hg⟩ item hitem).isObj
  obtain ⟨ungoverned,hu,-,hrefines⟩ :=
    parseGoverned_refines (fun _ => "u") (fun _ => "v") "d1" hitems hobj
  exact ⟨ungoverned,governed,hu,hg,hrefines governed hg⟩

end FinancialPdfReader
