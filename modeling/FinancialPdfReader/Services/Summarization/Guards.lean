import FinancialPdfReader.Services.Summarization.Claims

namespace FinancialPdfReader

open Py

/-- What a claim took from its item: everything the guards start from. -/
structure RawClaim.IsReadFrom (raw : RawClaim) (uuid documentId : String) (item : Json) :
    Prop where
  claimId : raw.claimId = item.getD "claim_id" (.str uuid)
  claim : raw.claim = item.getD "claim" (.str "")
  claimType : Choices.read .financialObservation
    (item.getD "claim_type" (.str "financial_observation")) = .ok raw.claimType
  claimLevel : Choices.read .interpretation
    (item.getD "claim_level" (.str "interpretation")) = .ok raw.claimLevel
  materiality : Choices.read .tierB (item.getD "materiality" (.str "tier_b")) = .ok raw.materiality
  sectionKey : Choices.read .keyFinancials
    (item.getD "section_key" (.str "key_financials")) = .ok raw.sectionKey
  recurring : raw.recurring = item.getD "recurring" (.bool true)
  contaminated : raw.contaminated = item.getD "contaminated" (.bool false)
  sourceType : Choices.read .financialEvidence
    (item.getD "source_type" (.str "financial_evidence")) = .ok raw.sourceType
  forwardLooking : raw.forwardLooking = item.getD "forward_looking" (.bool false)
  evidence : ∃ evs, (item.getD "evidence" (.arr [])).iter = .ok evs ∧
    evs.mapM (readEvidence documentId) = .ok raw.evidence
  confidence : Choices.read .medium (item.getD "confidence" (.str "medium")) = .ok raw.confidence
  requiresHumanReview :
    raw.requiresHumanReview = item.getD "requires_human_review" (.bool false)

private theorem readChoice_eq_ok {α : Type} [Choices α] {item : Json} {key : String}
    {default a : α} (h : readChoice item key default = .ok a) :
    Choices.read default (item.getD key (.str (Choices.text default))) = .ok a := by
  obtain ⟨x,hx,h⟩ := bind_eq_ok.mp h
  rw [(Json.get_eq_ok.mp hx).2] at h
  exact h

/-- Reading an item takes every field from it, or the field's default. -/
theorem readItem_eq_ok {uuid documentId : String} {item : Json} {raw : RawClaim}
    (h : readItem uuid documentId item = .ok raw) : raw.IsReadFrom uuid documentId item := by
  obtain ⟨listed,hlisted,h⟩ := bind_eq_ok.mp h
  obtain ⟨evs,hevs,h⟩ := bind_eq_ok.mp h
  obtain ⟨evidence,hevidence,h⟩ := bind_eq_ok.mp h
  obtain ⟨claimLevel,hlevel,h⟩ := bind_eq_ok.mp h
  obtain ⟨contaminated,hcontaminated,h⟩ := bind_eq_ok.mp h
  obtain ⟨sourceType,hsource,h⟩ := bind_eq_ok.mp h
  obtain ⟨forwardLooking,hforward,h⟩ := bind_eq_ok.mp h
  obtain ⟨confidence,hconfidence,h⟩ := bind_eq_ok.mp h
  obtain ⟨requiresHumanReview,hreview,h⟩ := bind_eq_ok.mp h
  obtain ⟨claim,hclaim,h⟩ := bind_eq_ok.mp h
  obtain ⟨claimType,htype,h⟩ := bind_eq_ok.mp h
  obtain ⟨materiality,hmateriality,h⟩ := bind_eq_ok.mp h
  obtain ⟨sectionKey,hsection,h⟩ := bind_eq_ok.mp h
  obtain ⟨claimId,hid,h⟩ := bind_eq_ok.mp h
  obtain ⟨recurring,hrecurring,h⟩ := bind_eq_ok.mp h
  cases h
  exact {
    claimId := (Json.get_eq_ok.mp hid).2
    claim := (Json.get_eq_ok.mp hclaim).2
    claimType := readChoice_eq_ok htype
    claimLevel := readChoice_eq_ok hlevel
    materiality := readChoice_eq_ok hmateriality
    sectionKey := readChoice_eq_ok hsection
    recurring := (Json.get_eq_ok.mp hrecurring).2
    contaminated := (Json.get_eq_ok.mp hcontaminated).2
    sourceType := readChoice_eq_ok hsource
    forwardLooking := (Json.get_eq_ok.mp hforward).2
    evidence := ⟨evs,(Json.get_eq_ok.mp hlisted).2 ▸ hevs,hevidence⟩
    confidence := readChoice_eq_ok hconfidence
    requiresHumanReview := (Json.get_eq_ok.mp hreview).2 }

def choiceFields : List String :=
  ["claim_type","claim_level","materiality","section_key","source_type","confidence"]

/-- An item that can be read to its end. -/
structure ReadableClaim (item : Json) : Prop where
  isObj : ∃ fields, item = .obj fields
  evidence : ∃ evs, (item.getD "evidence" (.arr [])).iter = .ok evs ∧
    ∀ ev ∈ evs, ∃ fields, ev = .obj fields
  names : ∀ key ∈ choiceFields, ∀ x, item.field? key = some x → x.isHashable = true

private theorem readEvidence_isOk_iff (documentId : String) (ev : Json) :
    (∃ e, readEvidence documentId ev = .ok e) ↔ ∃ fields, ev = .obj fields := by
  constructor
  · intro hparts
    obtain ⟨e,h⟩ := hparts
    obtain ⟨page,hpage,-⟩ := bind_eq_ok.mp h
    exact (Json.get_eq_ok.mp hpage).1
  · intro hparts
    obtain ⟨fields,rfl⟩ := hparts
    exact ⟨_,rfl⟩

private theorem ReadableClaim.readChoice {item : Json} (h : ReadableClaim item) {α : Type}
    [Choices α] (key : String) (hkey : key ∈ choiceFields) (default : α) :
    ∃ a, readChoice item key default = .ok a := by
  have hhash : (item.getD key (.str (Choices.text default))).isHashable = true := by
    rw [Json.getD]
    cases hx : item.field? key with
    | none => rfl
    | some x => exact h.names key hkey x hx
  obtain ⟨a,ha⟩ := (Choices.read_isOk_iff default _).mpr hhash
  exact ⟨a,bind_eq_ok.mpr ⟨_,Json.get_eq_getD h.isObj _ _,ha⟩⟩

private theorem isHashable_of_read {α : Type} [Choices α] {item x : Json} {key text : String}
    {default a : α} (h : Choices.read default (item.getD key (.str text)) = .ok a)
    (hx : item.field? key = some x) : x.isHashable = true := by
  rw [Json.getD, hx, Option.getD_some] at h
  exact (Choices.read_isOk_iff default x).mp ⟨a,h⟩

/-- Reading an item raises nothing exactly when its evidence is a list of objects and no name
is a list or an object. -/
theorem readItem_isOk_iff (uuid documentId : String) (item : Json) :
    (∃ raw, readItem uuid documentId item = .ok raw) ↔ ReadableClaim item := by
  constructor
  · intro hparts
    obtain ⟨raw,h⟩ := hparts
    have hread := readItem_eq_ok h
    obtain ⟨listed,hlisted,-⟩ := bind_eq_ok.mp h
    obtain ⟨evs,hevs,hevidence⟩ := hread.evidence
    refine ⟨(Json.get_eq_ok.mp hlisted).1,⟨evs,hevs,?_⟩,?_⟩
    · intro ev hev
      exact (readEvidence_isOk_iff documentId ev).mp (mapM_isOk_iff.mp ⟨_,hevidence⟩ ev hev)
    · intro key hkey x hx
      simp only [choiceFields, List.mem_cons, List.not_mem_nil, or_false] at hkey
      rcases hkey with rfl | rfl | rfl | rfl | rfl | rfl
      · exact isHashable_of_read hread.claimType hx
      · exact isHashable_of_read hread.claimLevel hx
      · exact isHashable_of_read hread.materiality hx
      · exact isHashable_of_read hread.sectionKey hx
      · exact isHashable_of_read hread.sourceType hx
      · exact isHashable_of_read hread.confidence hx
  · intro h
    obtain ⟨evs,hevs,hobj⟩ := h.evidence
    obtain ⟨evidence,hevidence⟩ := mapM_of_forall (f := readEvidence documentId)
      (fun ev hev => (readEvidence_isOk_iff documentId ev).mpr (hobj ev hev))
    obtain ⟨claimLevel,hlevel⟩ := h.readChoice "claim_level" (by decide)
      ClaimLevel.interpretation
    obtain ⟨sourceType,hsource⟩ := h.readChoice "source_type" (by decide)
      SourceType.financialEvidence
    obtain ⟨confidence,hconfidence⟩ := h.readChoice "confidence" (by decide) Confidence.medium
    obtain ⟨claimType,htype⟩ := h.readChoice "claim_type" (by decide)
      ClaimType.financialObservation
    obtain ⟨materiality,hmateriality⟩ := h.readChoice "materiality" (by decide) Materiality.tierB
    obtain ⟨sectionKey,hsection⟩ := h.readChoice "section_key" (by decide)
      SectionKey.keyFinancials
    simp only [readItem, Json.get_eq_getD h.isObj, ok_bind, hevs, hevidence, hlevel, hsource,
      hconfidence, htype, hmateriality, hsection]
    exact ⟨_,rfl⟩

/-- The guards only add to an item what the two scans of its text found. -/
theorem govern_eq_ok {temporalConsistent : Bool} {raw : RawClaim} {c : AIClaim Json}
    (h : govern temporalConsistent raw = .ok c) :
    ∃ implied terms, impliesForward raw = .ok implied ∧ rhetoricalTerms raw = .ok terms ∧
      c = governed temporalConsistent raw implied terms := by
  obtain ⟨implied,himplied,h⟩ := bind_eq_ok.mp h
  obtain ⟨terms,hterms,h⟩ := bind_eq_ok.mp h
  cases h
  exact ⟨implied,terms,himplied,hterms,rfl⟩

/-- The guards raise only where they look for words in what is no text. -/
theorem govern_isOk_iff (temporalConsistent : Bool) (raw : RawClaim) :
    (∃ c, govern temporalConsistent raw = .ok c) ↔
      (raw.sourceType.isNarrative = true → raw.claim.isContainer = true) := by
  constructor
  · intro hparts hnarrative
    obtain ⟨c,h⟩ := hparts
    obtain ⟨implied,terms,-,hterms,-⟩ := govern_eq_ok h
    rw [rhetoricalTerms, if_pos hnarrative] at hterms
    exact (Json.containedIn_isOk_iff (by decide)).mp ⟨terms,hterms⟩
  · intro hcontainer
    have himplied : ∃ implied, impliesForward raw = .ok implied := by
      rw [impliesForward]
      split
      · rename_i hboth
        exact Json.containsAny_isOk (hcontainer (Bool.and_eq_true_iff.mp hboth).2) _
      · exact ⟨false,rfl⟩
    have hterms : ∃ terms, rhetoricalTerms raw = .ok terms := by
      rw [rhetoricalTerms]
      split
      · rename_i hnarrative
        exact (Json.containedIn_isOk_iff (by decide)).mpr (hcontainer hnarrative)
      · exact ⟨[],rfl⟩
    obtain ⟨implied,himplied⟩ := himplied
    obtain ⟨terms,hterms⟩ := hterms
    exact ⟨_,bind_eq_ok.mpr ⟨implied,himplied,bind_eq_ok.mpr ⟨terms,hterms,rfl⟩⟩⟩

/-- An item has no evidence exactly when what it lists is empty. -/
theorem RawClaim.IsReadFrom.evidence_eq_nil_iff {raw : RawClaim} {uuid documentId : String}
    {item : Json} (h : raw.IsReadFrom uuid documentId item) :
    raw.evidence = [] ↔ (item.getD "evidence" (.arr [])).truthy = false := by
  obtain ⟨evs,hevs,hread⟩ := h.evidence
  rw [← Json.iter_eq_nil_iff hevs, ← List.length_eq_zero_iff, ← List.length_eq_zero_iff,
    mapM_length hread]

/-- The level rules survive the later guards: a demotion only lowers an observed fact. -/
theorem demoteNarrative_requireEvidence (raw : RawClaim) :
    (raw.evidence = [] →
      demoteNarrative raw.sourceType (requireEvidence raw.evidence raw.claimLevel) =
        .insufficientEvidence) ∧
    (raw.sourceType.isNarrative = true →
      demoteNarrative raw.sourceType (requireEvidence raw.evidence raw.claimLevel) ≠
        .observedFact) := by
  constructor
  · intro hev
    rw [hev]
    cases raw.claimLevel <;> cases raw.sourceType <;> rfl
  · intro hnarrative
    rw [demoteNarrative, hnarrative]
    cases requireEvidence raw.evidence raw.claimLevel <;> decide

private theorem readEvidence_documentId {documentId : String} {ev : Json}
    {e : ClaimEvidence Json} (h : readEvidence documentId ev = .ok e) :
    e.documentId = documentId := by
  obtain ⟨_,-,h⟩ := bind_eq_ok.mp h
  obtain ⟨_,-,h⟩ := bind_eq_ok.mp h
  obtain ⟨_,-,h⟩ := bind_eq_ok.mp h
  cases h
  rfl

theorem RawClaim.IsReadFrom.evidence_documentId {raw : RawClaim} {uuid documentId : String}
    {item : Json} (h : raw.IsReadFrom uuid documentId item) :
    ∀ e ∈ raw.evidence, e.documentId = documentId := by
  obtain ⟨evs,-,hread⟩ := h.evidence
  intro e he
  obtain ⟨ev,-,hev⟩ := mapM_mem hread he
  exact readEvidence_documentId hev

/-- Every claim comes from the item at its place. -/
theorem parseClaims_eq_ok {uuid4 : Nat → String} {rawJson : Json} {documentId : String}
    {temporalConsistent : Bool} {items : List Json} {claims : List (AIClaim Json)}
    (hitems : claimItems rawJson = .ok items)
    (h : parseClaims uuid4 rawJson documentId temporalConsistent = .ok claims) :
    List.Forall₂ (fun item c => ∃ uuid raw, raw.IsReadFrom uuid documentId item ∧
      govern temporalConsistent raw = .ok c) items claims := by
  rw [parseClaims, hitems, ok_bind, mapM_eq_ok] at h
  apply forall₂_of_zipIdx
  apply h.imp
  intro e c hc
  obtain ⟨raw,hraw,hgovern⟩ := bind_eq_ok.mp hc
  exact ⟨uuid4 e.2,raw,readItem_eq_ok hraw,hgovern⟩

/-- Under an inconsistent time axis a derived claim is contaminated, unless it was an observed
fact when the temporal guard passed over it and a later guard demoted it. -/
theorem governed_tainted_iff (raw : RawClaim) (implied : Bool) (terms : List String) :
    ((governed false raw implied terms).claimLevel.isDerived = true →
        (governed false raw implied terms).contaminated = true) ↔
      ¬ (raw.evidence ≠ [] ∧ raw.claimLevel = .observedFact ∧ raw.sourceType.isNarrative = true ∧
        raw.contaminated.truthy = false) := by
  simp only [governed, boolField_false]
  cases hev : raw.evidence with
  | nil =>
    have hlevel : requireEvidence [] raw.claimLevel = .insufficientEvidence := by
      cases raw.claimLevel <;> rfl
    simp only [hlevel]
    cases raw.sourceType <;> simp [demoteNarrative, SourceType.isNarrative, ClaimLevel.isDerived]
  | cons e es =>
    have hlevel : requireEvidence (e :: es) raw.claimLevel = raw.claimLevel := rfl
    simp only [hlevel]
    cases hl : raw.claimLevel with
    | observedFact =>
      cases raw.sourceType <;>
        simp [demoteNarrative, SourceType.isNarrative, ClaimLevel.isDerived, taintDerived]
    | _ => simp [demoteNarrative, ClaimLevel.isDerived, taintDerived]

/-- A narrative with evidence that the output calls an uncontaminated observed fact. -/
structure NarrativeFact (item : Json) : Prop where
  evidence : (item.getD "evidence" (.arr [])).truthy = true
  claimLevel : item.getD "claim_level" (.str "interpretation") = .str "observed_fact"
  sourceType : item.getD "source_type" (.str "financial_evidence") = .str "strategic_narrative" ∨
    item.getD "source_type" (.str "financial_evidence") = .str "management_expectation"
  contaminated : (item.getD "contaminated" (.bool false)).truthy = false

theorem RawClaim.IsReadFrom.isNarrative_iff {raw : RawClaim} {uuid documentId : String}
    {item : Json} (h : raw.IsReadFrom uuid documentId item) :
    raw.sourceType.isNarrative = true ↔
      item.getD "source_type" (.str "financial_evidence") = .str "strategic_narrative" ∨
      item.getD "source_type" (.str "financial_evidence") = .str "management_expectation" := by
  have hstrategic := Choices.read_eq_ok_of_ne_default SourceType.financialEvidence
    .strategicNarrative (item.getD "source_type" (.str "financial_evidence")) (by decide)
  have hexpectation := Choices.read_eq_ok_of_ne_default SourceType.financialEvidence
    .managementExpectation (item.getD "source_type" (.str "financial_evidence")) (by decide)
  rw [h.sourceType, Except.ok.injEq] at hstrategic hexpectation
  have hnarrative : raw.sourceType.isNarrative = true ↔
      raw.sourceType = .strategicNarrative ∨ raw.sourceType = .managementExpectation := by
    cases raw.sourceType <;> decide
  rw [hnarrative, hstrategic, hexpectation]
  rfl

private theorem RawClaim.IsReadFrom.narrativeFact_iff {raw : RawClaim} {uuid documentId : String}
    {item : Json} (h : raw.IsReadFrom uuid documentId item) :
    raw.evidence ≠ [] ∧ raw.claimLevel = .observedFact ∧ raw.sourceType.isNarrative = true ∧
      raw.contaminated.truthy = false ↔ NarrativeFact item := by
  have hlevel := Choices.read_eq_ok_of_ne_default ClaimLevel.interpretation .observedFact
    (item.getD "claim_level" (.str "interpretation")) (by decide)
  rw [h.claimLevel, Except.ok.injEq] at hlevel
  rw [ne_eq, h.evidence_eq_nil_iff, hlevel, h.isNarrative_iff, h.contaminated]
  constructor
  · intro hparts
    obtain ⟨hev,hl,hs,hc⟩ := hparts
    exact ⟨by simpa using hev,hl,hs,hc⟩
  · intro hparts
    obtain ⟨hev,hl,hs,hc⟩ := hparts
    exact ⟨by simpa using hev,hl,hs,hc⟩

/-- Every derived claim of an inconsistent report is contaminated exactly when the output holds
no narrative that it calls an observed fact. -/
theorem parseClaims_derived_contaminated_iff {uuid4 : Nat → String} {rawJson : Json}
    {documentId : String} {items : List Json} {claims : List (AIClaim Json)}
    (hitems : claimItems rawJson = .ok items)
    (h : parseClaims uuid4 rawJson documentId false = .ok claims) :
    (∀ c ∈ claims, c.claimLevel.isDerived = true → c.contaminated = true) ↔
      ∀ item ∈ items, ¬ NarrativeFact item := by
  refine (forall_mem_iff_of_forall₂ (parseClaims_eq_ok hitems h) ?_).symm
  intro item c hparts
  obtain ⟨uuid,raw,hraw,hgovern⟩ := hparts
  obtain ⟨implied,terms,-,-,rfl⟩ := govern_eq_ok hgovern
  rw [governed_tainted_iff, hraw.narrativeFact_iff]

/-- A forecast that the output takes for a fact, with a quotation. -/
def narrativeFactOutput : Json := .obj [("claims",.arr [.obj [
  ("claim_id",.str "c1"), ("claim",.str "公司預計營收成長"),
  ("claim_level",.str "observed_fact"), ("source_type",.str "strategic_narrative"),
  ("evidence",.arr [.obj [("page",.str "3"), ("quoted_text",.str "預計成長")]])]])]

theorem parseClaims_derived_contaminated_iff_narrativeFactOutput :
    ∃ items claims, claimItems narrativeFactOutput = .ok items ∧
      parseClaims (fun _ => "u") narrativeFactOutput "d1" false = .ok claims ∧
      ((∀ c ∈ claims, c.claimLevel.isDerived = true → c.contaminated = true) ↔
        ∀ item ∈ items, ¬ NarrativeFact item) := by
  obtain ⟨items,hitems⟩ := exists_ok_of_isOk
    (x := claimItems narrativeFactOutput) (by decide +kernel)
  obtain ⟨claims,h⟩ := exists_ok_of_isOk
    (x := parseClaims (fun _ => "u") narrativeFactOutput "d1" false) (by decide +kernel)
  exact ⟨items,claims,hitems,h,parseClaims_derived_contaminated_iff hitems h⟩

/-- The quoted forecast comes out as an interpretation that nothing contaminates. -/
theorem parseClaims_uncontaminated_narrative :
    ¬ ∀ claims, parseClaims (fun _ => "u") narrativeFactOutput "d1" false = .ok claims →
      ∀ c ∈ claims, c.claimLevel.isDerived = true → c.contaminated = true := by
  have hrun : (List.map (fun c => (c.claimLevel,c.contaminated))) <$>
      parseClaims (fun _ => "u") narrativeFactOutput "d1" false =
        .ok [(.interpretation,false)] := by decide +kernel
  obtain ⟨claims,hparse,hmap⟩ := map_eq_ok.mp hrun
  obtain ⟨c,rfl,hc⟩ := List.map_eq_singleton_iff.mp hmap
  intro hall
  have hcontaminated := hall [c] hparse c (by simp)
  rw [(Prod.mk.inj hc).1, (Prod.mk.inj hc).2] at hcontaminated
  exact absurd (hcontaminated rfl) Bool.false_ne_true

end FinancialPdfReader
