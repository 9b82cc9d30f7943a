import FinancialPdfReader.Services.Summarization.Guards

namespace FinancialPdfReader

open Py

def textFields : List String :=
  ["claim_id","claim","claim_type","claim_level","materiality","section_key","source_type",
    "confidence"]

def flagFields : List String :=
  ["recurring","contaminated","forward_looking","requires_human_review"]

/-- An item as the prompt asks for it: each field absent or of its own type. -/
structure WellTypedItem (item : Json) : Prop where
  isObj : ∃ fields, item = .obj fields
  texts : ∀ key ∈ textFields, ∀ x, item.field? key = some x → ∃ s, x = .str s
  flags : ∀ key ∈ flagFields, ∀ x, item.field? key = some x → ∃ b, x = .bool b
  evidence : ∀ x, item.field? "evidence" = some x →
    ∃ evs, x = .arr evs ∧ ∀ ev ∈ evs, ∃ fields, ev = .obj fields

/-- An output whose claims are a list of such items. -/
structure WellTypedOutput (rawJson : Json) (items : List Json) : Prop where
  claims : rawJson.field? "claims" = some (.arr items)
  items : ∀ item ∈ items, WellTypedItem item

/-- The governance rules, as they hold of a claim once every guard has run. -/
structure Disciplined (item : Json) (c : AIClaim Json) : Prop where
  claimId : ∀ x, item.field? "claim_id" = some x → c.claimId = x
  claim : c.claim = item.getD "claim" (.str "")
  isText : c.claim = .str c.claim.toStr
  noEvidence : c.evidence = [] → c.claimLevel = .insufficientEvidence
  narrativeLevel : c.sourceType.isNarrative = true → c.claimLevel ≠ .observedFact
  expectationConfidence : c.sourceType = .managementExpectation → c.confidence ≠ .high
  forwardReview : c.forwardLooking = true → c.requiresHumanReview = true
  forwardPhrase : c.sourceType.isNarrative = true →
    anyIn forwardLookingIndicatorPhrases c.claim.toStr = true → c.forwardLooking = true
  rhetoricalFlag : c.rhetoricalRiskFlag = true ↔
    c.sourceType.isNarrative = true ∧ anyIn rhetoricalRiskPhrases c.claim.toStr = true
  rhetoricalTerms : c.rhetoricalRiskTerms =
    if c.rhetoricalRiskFlag then hits rhetoricalRiskPhrases c.claim.toStr else []
  attribution : c.attributionPrefix ≠ "" ↔ c.sourceType.isNarrative = true
  claimTypeChoice : Choices.text c.claimType ∈ Choices.texts ClaimType
  claimLevelChoice : Choices.text c.claimLevel ∈ Choices.texts ClaimLevel
  materialityChoice : Choices.text c.materiality ∈ Choices.texts Materiality
  sectionKeyChoice : Choices.text c.sectionKey ∈ Choices.texts SectionKey
  sourceTypeChoice : Choices.text c.sourceType ∈ Choices.texts SourceType
  confidenceChoice : Choices.text c.confidence ∈ Choices.texts Confidence

section Reading

variable {item : Json} (h : WellTypedItem item)
include h

private theorem WellTypedItem.getD_text (key : String) (hkey : key ∈ textFields)
    (default : String) : ∃ s, item.getD key (.str default) = .str s := by
  rw [Json.getD]
  cases hx : item.field? key with
  | none => exact ⟨default,rfl⟩
  | some x => exact h.texts key hkey x hx

/-- Reading a well typed item never raises. -/
theorem WellTypedItem.readable : ReadableClaim item := by
  refine ⟨h.isObj,?_,?_⟩
  · rw [Json.getD]
    cases hx : item.field? "evidence" with
    | none => exact ⟨[],rfl,by simp⟩
    | some x =>
      obtain ⟨evs,rfl,hobj⟩ := h.evidence x hx
      exact ⟨evs,rfl,hobj⟩
  · intro key hkey x hx
    have hsub : ∀ name ∈ choiceFields, name ∈ textFields := by decide
    obtain ⟨s,rfl⟩ := h.texts key (hsub key hkey) x hx
    rfl

end Reading

section Governing

variable {raw : RawClaim} {text : String} (htext : raw.claim = .str text)
include htext

private theorem impliesForward_str : impliesForward raw = .ok
    (!raw.forwardLooking.truthy && raw.sourceType.isNarrative &&
      anyIn forwardLookingIndicatorPhrases text) := by
  rw [impliesForward, htext, Json.containsAny_str]
  cases raw.forwardLooking.truthy <;> cases raw.sourceType.isNarrative <;> rfl

private theorem rhetoricalTerms_str : rhetoricalTerms raw = .ok
    (if raw.sourceType.isNarrative then hits rhetoricalRiskPhrases text else []) := by
  rw [rhetoricalTerms, htext, Json.containedIn_str]
  cases raw.sourceType.isNarrative <;> rfl

/-- On a claim whose text is a string the guards never raise. -/
theorem govern_of_str (temporalConsistent : Bool) :
    govern temporalConsistent raw = .ok (governed temporalConsistent raw
      (!raw.forwardLooking.truthy && raw.sourceType.isNarrative &&
        anyIn forwardLookingIndicatorPhrases text)
      (if raw.sourceType.isNarrative then hits rhetoricalRiskPhrases text else [])) := by
  rw [govern, impliesForward_str htext, ok_bind, rhetoricalTerms_str htext, ok_bind]
  rfl

end Governing

private theorem governed_disciplined {raw : RawClaim} {uuid documentId text : String}
    {item : Json} (hread : raw.IsReadFrom uuid documentId item) (htext : raw.claim = .str text)
    (temporalConsistent : Bool) :
    Disciplined item (governed temporalConsistent raw
      (!raw.forwardLooking.truthy && raw.sourceType.isNarrative &&
        anyIn forwardLookingIndicatorPhrases text)
      (if raw.sourceType.isNarrative then hits rhetoricalRiskPhrases text else [])) := by
  have htoStr : raw.claim.toStr = text := by rw [htext]; rfl
  have hlevel := demoteNarrative_requireEvidence raw
  refine {
    claimId := ?claimId
    claim := hread.claim
    isText := by rw [governed, htoStr, htext]
    noEvidence := hlevel.1
    narrativeLevel := hlevel.2
    expectationConfidence := ?confidence
    forwardReview := ?review
    forwardPhrase := ?phrase
    rhetoricalFlag := ?flag
    rhetoricalTerms := ?terms
    attribution := ?attribution
    claimTypeChoice := Choices.text_mem_texts _
    claimLevelChoice := Choices.text_mem_texts _
    materialityChoice := Choices.text_mem_texts _
    sectionKeyChoice := Choices.text_mem_texts _
    sourceTypeChoice := Choices.text_mem_texts _
    confidenceChoice := Choices.text_mem_texts _ }
  case claimId =>
    intro x hx
    change raw.claimId = x
    rw [hread.claimId, Json.getD, hx, Option.getD_some]
  case confidence =>
    intro hsource
    change capConfidence raw.sourceType raw.confidence ≠ .high
    rw [show raw.sourceType = .managementExpectation from hsource]
    cases raw.confidence <;> decide
  case review =>
    intro hforward
    simp only [governed, boolField_false, Bool.or_eq_true] at hforward ⊢
    exact Or.inl hforward
  case phrase =>
    intro hnarrative hphrase
    simp only [governed, boolField_false, htoStr] at hnarrative hphrase ⊢
    rw [hnarrative, hphrase]
    cases raw.forwardLooking.truthy <;> rfl
  case flag =>
    simp only [governed, htoStr]
    cases raw.sourceType.isNarrative with
    | false => simp
    | true =>
      have hnil := hits_eq_nil_iff rhetoricalRiskPhrases text
      cases hany : anyIn rhetoricalRiskPhrases text with
      | false => simp [hnil.mpr hany]
      | true =>
        have hne : hits rhetoricalRiskPhrases text ≠ [] := fun heq => by
          rw [hnil.mp heq] at hany
          contradiction
        simpa using hne
  case terms =>
    simp only [governed, htoStr]
    cases raw.sourceType.isNarrative with
    | false => rfl
    | true =>
      cases hits rhetoricalRiskPhrases text <;> rfl
  case attribution =>
    simp only [governed]
    cases raw.sourceType <;> decide

/-- Every well typed output is parsed, into one disciplined claim for each of its items, in
order and whatever the time axis. -/
theorem parseClaims_disciplined (uuid4 : Nat → String) {rawJson : Json} (documentId : String)
    (temporalConsistent : Bool) {items : List Json} (h : WellTypedOutput rawJson items) :
    ∃ claims, parseClaims uuid4 rawJson documentId temporalConsistent = .ok claims ∧
      List.Forall₂ Disciplined items claims := by
  have hitems : claimItems rawJson = .ok items := by
    have hclaims := h.claims
    cases rawJson with
    | obj fields =>
      change fields.lookup "claims" = some (.arr items) at hclaims
      rw [claimItems, Json.get_obj, hclaims]
      rfl
    | _ => contradiction
  have hparse : ∀ (uuid : String), ∀ item ∈ items, ∃ c,
      parseClaim uuid documentId temporalConsistent item = .ok c ∧ Disciplined item c := by
    intro uuid item hitem
    have hwell := h.items item hitem
    obtain ⟨raw,hraw⟩ := (readItem_isOk_iff uuid documentId item).mpr hwell.readable
    have hread := readItem_eq_ok hraw
    obtain ⟨text,htext⟩ := hwell.getD_text "claim" (by decide) ""
    rw [← hread.claim] at htext
    refine ⟨_,?_,governed_disciplined hread htext temporalConsistent⟩
    rw [parseClaim, hraw, ok_bind, govern_of_str htext]
  have hall : ∀ e ∈ items.zipIdx, ∃ c,
      parseClaim (uuid4 e.2) documentId temporalConsistent e.1 = .ok c := by
    intro e he
    obtain ⟨c,hc,-⟩ := hparse (uuid4 e.2) e.1 (List.fst_mem_of_mem_zipIdx he)
    exact ⟨c,hc⟩
  obtain ⟨claims,hclaims⟩ := mapM_of_forall hall
  refine ⟨claims,by rw [parseClaims, hitems, ok_bind, hclaims],?_⟩
  apply forall₂_of_zipIdx
  refine forall₂_of_mem (mapM_eq_ok.mp hclaims) ?_
  intro e c he hc
  obtain ⟨c',hc',hdisciplined⟩ := hparse (uuid4 e.2) e.1 (List.fst_mem_of_mem_zipIdx he)
  rw [hc, Except.ok.injEq] at hc'
  exact hc' ▸ hdisciplined

private theorem narrativeFactOutput_wellTyped : ∃ items,
    WellTypedOutput narrativeFactOutput items := by
  refine ⟨_,rfl,?_⟩
  intro item hitem
  obtain rfl := List.mem_singleton.mp hitem
  refine ⟨⟨_,rfl⟩,?_,?_,?_⟩
  · intro key hkey x hx
    simp only [textFields, List.mem_cons, List.not_mem_nil, or_false] at hkey
    rcases hkey with rfl | rfl | rfl | rfl | rfl | rfl | rfl | rfl <;>
      first | exact ⟨_,(Option.some.inj hx).symm⟩ | contradiction
  · intro key hkey x hx
    simp only [flagFields, List.mem_cons, List.not_mem_nil, or_false] at hkey
    rcases hkey with rfl | rfl | rfl | rfl <;> contradiction
  · intro x hx
    refine ⟨_,(Option.some.inj hx).symm,?_⟩
    intro ev hev
    exact ⟨_,List.mem_singleton.mp hev⟩

theorem narrativeFactOutput_disciplined : ∃ items claims,
    parseClaims (fun _ => "u") narrativeFactOutput "d1" true = .ok claims ∧
      List.Forall₂ Disciplined items claims := by
  obtain ⟨items,hwell⟩ := narrativeFactOutput_wellTyped
  obtain ⟨claims,hparse,hall⟩ := parseClaims_disciplined (fun _ => "u") "d1" true hwell
  exact ⟨items,claims,hparse,hall⟩

end FinancialPdfReader
