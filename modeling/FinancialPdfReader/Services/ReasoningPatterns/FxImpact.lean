import FinancialPdfReader.Services.ReasoningPatterns.Registry

namespace FinancialPdfReader

open Py Engine

/-- A claim in one of the sections that the pattern looks at, with one of the keywords. -/
structure FxClaim (keywords : List String) (c : ClaimDict) : Prop where
  inSections : ∃ s ∈ fxSections, c.field? "section_key" = some (.str (Choices.text s))
  mentions : ∃ kw ∈ keywords, isIn (lower kw) (lower c.text) = true

/-- One claim speaks both of foreign currency and of an amount. -/
def QuantifiedFx (claims : List ClaimDict) : Prop :=
  ∃ c ∈ claims, FxClaim fxKeywords c ∧ FxClaim amountKeywords c

/-- The pattern is triggered by a quantified impact only, and short of evidence without one. -/
def FxTriggerQuantified (claims : List ClaimDict) : Prop :=
  ∃ result, Engine.evaluatePattern fxDrivenProfit.written (claims.map ClaimDict.toJson) =
      .ok result ∧
    (result.status = .triggered → QuantifiedFx claims) ∧
    (¬QuantifiedFx claims → result.status = .insufficientEvidence)

theorem fxDrivenProfit_filters : fxDrivenProfit.written.requiredFilters = [
    { sectionKeys := some (fxSections.map Choices.text)
      materiality := some []
      claimTypes := some []
      keywords := some fxKeywords
      inspectDescription := "FX/匯兌相關 claim" },
    { sectionKeys := some (fxSections.map Choices.text)
      materiality := some []
      claimTypes := some []
      keywords := some amountKeywords
      inspectDescription := "含量化金額之 claim（%, 億, 萬, 元 等）" }] := rfl

/-- Each filter of the pattern asks for a section and for a keyword. -/
theorem matches_keywords_iff {keywords : List String} (hne : keywords ≠ []) (label : String)
    (c : ClaimDict) :
    Matches { sectionKeys := some (fxSections.map Choices.text)
              materiality := some []
              claimTypes := some []
              keywords := some keywords
              inspectDescription := label } c ↔ FxClaim keywords c := by
  constructor
  · intro hmatches
    obtain ⟨hsection,-,-,-,hkeyword⟩ := hmatches
    obtain ⟨k,hk,hfield⟩ := hsection.resolve_left (by simp [fxSections])
    obtain ⟨s,hs,rfl⟩ := List.mem_map.mp hk
    exact ⟨⟨s,hs,hfield⟩,hkeyword.resolve_left hne⟩
  · intro hclaim
    obtain ⟨⟨s,hs,hfield⟩,hmentions⟩ := hclaim
    exact ⟨Or.inr ⟨_,List.mem_map_of_mem hs,hfield⟩,Or.inl rfl,nofun,Or.inl rfl,
      Or.inr hmentions⟩

theorem fxDrivenProfit_allMet_iff (claims : List ClaimDict) :
    (∀ f ∈ fxDrivenProfit.written.requiredFilters, ∃ c ∈ claims, Matches f c) ↔
      (∃ c ∈ claims, FxClaim fxKeywords c) ∧ ∃ c ∈ claims, FxClaim amountKeywords c := by
  rw [fxDrivenProfit_filters, List.forall_mem_cons, List.forall_mem_singleton]
  simp only [matches_keywords_iff (show fxKeywords ≠ [] by decide),
    matches_keywords_iff (show amountKeywords ≠ [] by decide)]

/-- A trigger stands for a quantified impact exactly where foreign currency and amounts do not
come from different claims alone. -/
theorem fxTriggerQuantified_iff (claims : List ClaimDict) :
    FxTriggerQuantified claims ↔
      ((∃ c ∈ claims, FxClaim fxKeywords c) → (∃ c ∈ claims, FxClaim amountKeywords c) →
        QuantifiedFx claims) := by
  have hresult := Engine.evaluatePattern_toJson fxDrivenProfit.written claims
  have hanswers := answers_of_evaluatePattern (by rw [fxDrivenProfit_filters]; simp) hresult
  have htriggered := hanswers.triggered_iff
  rw [fxDrivenProfit_allMet_iff] at htriggered
  constructor
  · intro hsound hfx hamount
    obtain ⟨result,h,honly,-⟩ := hsound
    obtain rfl := Except.ok.inj (hresult.symm.trans h)
    exact honly (htriggered.mpr ⟨hfx,hamount⟩)
  · intro hboth
    refine ⟨_,hresult,?_,?_⟩
    · intro hstatus
      obtain ⟨hfx,hamount⟩ := htriggered.mp hstatus
      exact hboth hfx hamount
    · intro hnone
      apply (hanswers.otherwise ?_).1
      intro hstatus
      obtain ⟨hfx,hamount⟩ := htriggered.mp hstatus
      exact hnone (hboth hfx hamount)

def dictClaim (claimId claim sectionKey : String) : ClaimDict where
  fields := [("claim_id",.str claimId),("claim",.str claim),("section_key",.str sectionKey)]
  claimId
  hasId := rfl
  hasText _ hx := ⟨_,(Option.some.inj hx).symm⟩

/-- A bare risk of foreign currency beside the growth of the revenue. -/
def riskAndRevenue : List ClaimDict := [
  dictClaim "c1" "匯率波動可能影響本公司獲利" "risk_register",
  dictClaim "c2" "營收年增 12%" "key_financials"]

private theorem riskAndRevenue_not_quantified : ¬QuantifiedFx riskAndRevenue := by
  intro hquantified
  obtain ⟨c,hc,hfx,hamount⟩ := hquantified
  simp only [riskAndRevenue, List.mem_cons, List.not_mem_nil, or_false] at hc
  rcases hc with rfl | rfl
  · exact absurd hamount.mentions (by decide +kernel)
  · exact absurd hfx.mentions (by decide +kernel)

/-- The amount of one claim makes an impact of the other. -/
theorem riskAndRevenue_triggers :
    (Engine.evaluatePattern fxDrivenProfit.written (riskAndRevenue.map ClaimDict.toJson)).map
        (fun result => result.status) = .ok .triggered ∧
      ¬QuantifiedFx riskAndRevenue ∧ ¬FxTriggerQuantified riskAndRevenue := by
  have hrun : (fun result => result.status) <$> Engine.evaluatePattern fxDrivenProfit.written
      (riskAndRevenue.map ClaimDict.toJson) = .ok .triggered := by decide +kernel
  refine ⟨hrun,riskAndRevenue_not_quantified,?_⟩
  intro hsound
  obtain ⟨result,hresult,hstatus⟩ := map_eq_ok.mp hrun
  obtain ⟨same,hsame,honly,-⟩ := hsound
  obtain rfl := Except.ok.inj (hresult.symm.trans hsame)
  exact riskAndRevenue_not_quantified (honly hstatus)

end FinancialPdfReader
