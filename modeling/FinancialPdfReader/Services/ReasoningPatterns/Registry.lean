import FinancialPdfReader.Services.ReasoningPatterns.Engine

namespace FinancialPdfReader

open Py Requirements

/-- `_claim_to_dict` -/
def Engine.claimToDict (c : AIClaim String) : Engine.ClaimDict where
  fields := [("claim_id",.str c.claimId),("claim",.str c.claim),
    ("claim_type",.str (Choices.text c.claimType)),
    ("claim_level",.str (Choices.text c.claimLevel)),
    ("materiality",.str (Choices.text c.materiality)),
    ("section_key",.str (Choices.text c.sectionKey)),("recurring",.bool c.recurring),
    ("contaminated",.bool c.contaminated)]
  claimId := c.claimId
  hasId := rfl
  hasText _ hx := ⟨_,(Option.some.inj hx).symm⟩

/-- The filter as the registry writes it, with the texts of the values. -/
def ClaimPropertyFilter.written (f : ClaimPropertyFilter) : Engine.ClaimPropertyFilter where
  sectionKeys := some (f.sectionKeys.map Choices.text)
  materiality := some (f.materiality.map Choices.text)
  recurring := f.recurring
  claimTypes := some (f.claimTypes.map Choices.text)
  keywords := some f.keywords
  inspectDescription := f.inspectDescription

def PatternDefinition.written (pattern : PatternDefinition) : Engine.PatternDefinition where
  patternId := pattern.patternId
  nameZh := pattern.nameZh
  observationTemplate := pattern.observationTemplate
  requiredFilters := pattern.requiredFilters.map ClaimPropertyFilter.written

def TriggerResult.written (trigger : TriggerResult) : Engine.TriggerResult where
  status := trigger.status
  sourceClaims := trigger.sourceClaims.map (fun c => (Engine.claimToDict c).toJson)
  missingKeys := trigger.missingKeys
  generatedObservation := trigger.generatedObservation

section Matching

variable (f : ClaimPropertyFilter) (c : AIClaim String)

private theorem asks_iff {α : Type} [Choices α] [DecidableEq α] (values : List α) (a : α)
    (field : String) (hfield : (Engine.claimToDict c).field? field = some (.str (Choices.text a))) :
    ((some (values.map Choices.text)).getD [] = [] ∨
      ∃ k ∈ (some (values.map Choices.text)).getD [],
        (Engine.claimToDict c).field? field = some (.str k)) ↔
      (values.isEmpty || values.contains a) = true := by
  rw [hfield, Option.getD_some, List.map_eq_nil_iff, Bool.or_eq_true, List.isEmpty_iff,
    List.contains_iff_mem]
  refine or_congr_right ?_
  simp only [List.mem_map, Option.some.injEq, Json.str.injEq, exists_exists_and_eq_and,
    Choices.text_injective.eq_iff, exists_eq_right']

theorem matches_claimToDict : Engine.Matches f.written (Engine.claimToDict c) ↔
    f.matchesClaim c = true := by
  have hsection := asks_iff c f.sectionKeys c.sectionKey "section_key" rfl
  have hmateriality := asks_iff c f.materiality c.materiality "materiality" rfl
  have htype := asks_iff c f.claimTypes c.claimType "claim_type" rfl
  have hrecurring : (∀ wanted ∈ f.recurring,
      Engine.recurs (((Engine.claimToDict c).field? "recurring").getD .null) = wanted) ↔
        (f.recurring.isNone || f.recurring == some c.recurring) = true := by
    have hrecurs : Engine.recurs (((Engine.claimToDict c).field? "recurring").getD .null) =
        c.recurring := rfl
    rw [hrecurs]
    cases f.recurring with
    | none => simp
    | some wanted => simp [eq_comm (a := c.recurring)]
  have hkeyword : ((some f.keywords).getD [] = [] ∨ ∃ kw ∈ (some f.keywords).getD [],
      isIn (lower kw) (lower (Engine.claimToDict c).text) = true) ↔
        (f.keywords.isEmpty || f.keywords.any (fun kw => isIn (lower kw) (lower c.claim))) =
          true := by
    have htext : (Engine.claimToDict c).text = c.claim := rfl
    rw [htext, Option.getD_some, Bool.or_eq_true, List.isEmpty_iff, List.any_eq_true]
  simp only [ClaimPropertyFilter.matchesClaim, Bool.and_eq_true]
  constructor
  · intro hmatches
    exact ⟨⟨⟨⟨hsection.mp hmatches.sectionKey,hmateriality.mp hmatches.materiality⟩,
      hrecurring.mp hmatches.recurring⟩,htype.mp hmatches.claimType⟩,
      hkeyword.mp hmatches.keyword⟩
  · intro hall
    obtain ⟨⟨⟨⟨h1,h2⟩,h3⟩,h4⟩,h5⟩ := hall
    exact ⟨hsection.mpr h1,hmateriality.mpr h2,hrecurring.mpr h3,htype.mpr h4,hkeyword.mpr h5⟩

end Matching

section Evaluate

variable (pattern : PatternDefinition) (claims : List (AIClaim String))

private theorem sources_written :
    Engine.sources pattern.written (claims.map Engine.claimToDict) =
      (uniqueClaims [] (pattern.requiredFilters.flatMap (findMatchingClaims claims))).map
        Engine.claimToDict := by
  have hgathered : gathered Engine.Matches pattern.written.requiredFilters
      (claims.map Engine.claimToDict) =
      (gathered (fun f c => ClaimPropertyFilter.matchesClaim f c = true) pattern.requiredFilters
        claims).map Engine.claimToDict := gathered_map matches_claimToDict
  rw [Engine.sources, hgathered, firstOfEach_map, uniqueClaims_eq_firstOfEach,
    foundClaims_eq_gathered]
  rfl

private theorem missingLabels_written :
    Engine.missingLabels pattern.written (claims.map Engine.claimToDict) =
      (pattern.requiredFilters.zipIdx.filter
        (fun e => (findMatchingClaims claims e.1).isEmpty)).map
          (fun e => filterLabel e.1 e.2) := by
  have hunmet : unmet Engine.Matches pattern.written.requiredFilters
      (claims.map Engine.claimToDict) =
      (unmet (fun f c => ClaimPropertyFilter.matchesClaim f c = true) pattern.requiredFilters
        claims).map (Prod.map ClaimPropertyFilter.written id) := unmet_map matches_claimToDict
  rw [Engine.missingLabels, hunmet, List.map_map, missingFilters_eq_unmet]
  rfl

/-- The run over the claims of a report is the engine's over their dicts. -/
theorem evaluatePattern_written :
    Engine.evaluatePattern pattern.written
        ((claims.map Engine.claimToDict).map Engine.ClaimDict.toJson) =
      .ok (evaluatePattern pattern claims).written := by
  have hmet : AllMet Engine.Matches pattern.written.requiredFilters
      (claims.map Engine.claimToDict) ↔
      (pattern.requiredFilters.zipIdx.filter
        (fun e => (findMatchingClaims claims e.1).isEmpty)).map
          (fun e => filterLabel e.1 e.2) = [] := by
    rw [← missingLabels_written, Engine.missingLabels, List.map_eq_nil_iff, unmet_eq_nil_iff]
  rw [Engine.evaluatePattern_toJson, sources_written, missingLabels_written, evaluatePattern,
    Except.ok.injEq]
  by_cases hmissing : (pattern.requiredFilters.zipIdx.filter
      (fun e => (findMatchingClaims claims e.1).isEmpty)).map (fun e => filterLabel e.1 e.2) = []
  · rw [if_pos (hmet.mpr hmissing), hmissing, List.isEmpty_map]
    simp only [List.isEmpty_nil, Bool.not_true, Bool.false_eq_true, if_false]
    split
    · rfl
    · simp [TriggerResult.written, PatternDefinition.written]
  · have hsome : ((pattern.requiredFilters.zipIdx.filter
        (fun e => (findMatchingClaims claims e.1).isEmpty)).map
          (fun e => filterLabel e.1 e.2)).isEmpty = false := List.isEmpty_eq_false_iff.mpr hmissing
    rw [if_neg (mt hmet.mp hmissing)]
    simp only [hsome]
    rfl

end Evaluate

end FinancialPdfReader
