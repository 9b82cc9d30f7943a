import FinancialPdfReader.Services.Summarization.Saved

namespace FinancialPdfReader

open Py

/-- The claims by which the narrative is measured. -/
def measuredClaims (claims : List (AIClaim String)) : List (AIClaim String) :=
  claims.filter (fun c => ¬c.contaminated ∧ c.claimLevel ≠ .insufficientEvidence)

def totalWeight (weight : AIClaim String → Nat) (claims : List (AIClaim String)) : Nat :=
  (claims.map weight).sum

/-- The part of the whole weight that is that of narrative claims, exactly. -/
def narrativeShare (weight : AIClaim String → Nat) (claims : List (AIClaim String)) : ℚ :=
  let whole := totalWeight weight (measuredClaims claims)
  let narrative := totalWeight weight ((measuredClaims claims).filter (·.sourceType.isNarrative))
  if whole = 0 then 0 else narrative / whole

/-- The shares of the narrative by count and by length of the texts. -/
def narrativeShares (claims : List (AIClaim String)) : List ℚ :=
  [narrativeShare (fun _ => 1) claims,narrativeShare (·.claim.length) claims]

theorem measuredClaims_eq (claims : List (AIClaim String)) :
    (claims.filter (fun c => !c.contaminated)).filter (fun c => !isInsufficient c) =
      measuredClaims claims := by
  rw [List.filter_filter, measuredClaims]
  apply List.filter_congr
  intro c _
  rw [Bool.eq_iff_iff]
  simp [isInsufficient, and_comm]

theorem roundTo_narrativeShare (weight : AIClaim String → Nat) (claims : List (AIClaim String)) :
    density (totalWeight weight ((measuredClaims claims).filter (·.sourceType.isNarrative)))
      (totalWeight weight (measuredClaims claims)) = roundTo 2 (narrativeShare weight claims) := by
  rw [density, narrativeShare]
  split_ifs
  · exact (roundTo_intCast 2 0).symm
  · rfl

theorem totalWeight_one (claims : List (AIClaim String)) :
    totalWeight (fun _ => 1) claims = claims.length := by
  simp [totalWeight]

/-- Three fifths are passed by the rounded share only half a hundredth further on. -/
theorem lt_roundTo_two {q : ℚ} : 3/5 < roundTo 2 q ↔ 121/200 < q := by
  have hsixty : (3/5 : ℚ) = (60 : Int) / 10^2 := by norm_num
  rw [hsixty, lt_roundTo_iff]
  constructor
  · rintro (hbeyond | ⟨-,hodd⟩)
    · norm_num at hbeyond
      linarith
    · contradiction
  · intro h
    left
    norm_num
    linarith

/-- The flag goes by the scores, and these are rounded. -/
theorem assess_narrativeFlag (claims : List (AIClaim String)) (temporalConsistent : Json) :
    (assess claims temporalConsistent).narrativeFlag = true ↔
      ∃ q ∈ narrativeShares claims, 3/5 < roundTo 2 q := by
  have hcount := roundTo_narrativeShare (fun _ => 1) claims
  rw [totalWeight_one, totalWeight_one] at hcount
  have hlength := roundTo_narrativeShare (·.claim.length) claims
  simp only [assess, measuredClaims_eq, hcount, Bool.or_eq_true, decide_eq_true_eq,
    narrativeShares, List.exists_mem_cons_iff, List.not_mem_nil, false_and, exists_false, or_false]
  rw [← hlength]
  rfl

/-- The flag is set where a share, rounded to two decimals, is more than three fifths: where the
share itself is more than sixty and a half hundredths. -/
theorem narrativeFlag_iff :
    (∀ (claims : List (AIClaim String)) (temporalConsistent : Json),
      ((assess claims temporalConsistent).narrativeFlag = true ↔
        ∃ q ∈ narrativeShares claims, 3/5 < roundTo 2 q) ∧
      ((assess claims temporalConsistent).narrativeFlag = true ↔
        ∃ q ∈ narrativeShares claims, 121/200 < q)) ∧
    ∀ (uuid4 : Nat → String) (now : Nat) (reply : ModelReply) (db saved : Database)
      (documentId : String) (post : List (String × Json)),
      generateSummary uuid4 now reply db documentId = .ok (saved,post) →
      ∃ report, saved.aiReports = db.aiReports ++ [report] ∧
        (report.narrativeFlag = true ↔ ∃ q ∈ narrativeShares report.claims, 121/200 < q) := by
  have hexact : ∀ claims temporalConsistent, (assess claims temporalConsistent).narrativeFlag =
      true ↔ ∃ q ∈ narrativeShares claims, 121/200 < q := by
    intro claims temporalConsistent
    rw [assess_narrativeFlag]
    simp only [lt_roundTo_two]
  refine ⟨fun claims tv => ⟨assess_narrativeFlag claims tv,hexact claims tv⟩,?_⟩
  intro uuid4 now reply db saved documentId post h
  obtain ⟨run,rfl,-⟩ := generateSummary_eq_ok h
  obtain ⟨chunks,note,summary,hreport⟩ := run.built
  refine ⟨run.report,rfl,?_⟩
  rw [hreport]
  exact hexact run.claims run.tv.temporalConsistent

/-- Twenty-six characters of narrative beside seventeen of evidence. -/
def nearThresholdReply : ModelReply := .text <|
  "\x7b\"claims\": [\x7b\"claim\": \"Demand is expected to grow\", " ++
  "\"source_type\": \"management_expectation\", \"evidence\": [\x7b\x7d]\x7d, " ++
  "\x7b\"claim\": \"Inventory went up\", \"evidence\": [\x7b\x7d]\x7d]\x7d"

private theorem nearThreshold_run : ∃ saved post report,
    generateSummary (fun _ => "r1") 0 nearThresholdReply ingestedDb "d1" = .ok (saved,post) ∧
    saved.aiReports = ingestedDb.aiReports ++ [report] ∧ report.narrativeFlag = false ∧
    narrativeShares report.claims = [1/2,26/43] := by
  have hrun : (fun r => r.1.aiReports.map (fun report =>
      (report.narrativeFlag,narrativeShares report.claims))) <$>
      generateSummary (fun _ => "r1") 0 nearThresholdReply ingestedDb "d1" =
        .ok [(false,[1/2,26/43])] := by decide +kernel
  obtain ⟨⟨saved,post⟩,h,hshape⟩ := map_eq_ok.mp hrun
  obtain ⟨report,hreport,hfields⟩ := List.map_eq_singleton_iff.mp hshape
  obtain ⟨hflag,hshares⟩ := Prod.mk.inj hfields
  exact ⟨saved,post,report,h,hreport,hflag,hshares⟩

theorem narrativeFlag_iff_nearThreshold : ∃ saved post,
    generateSummary (fun _ => "r1") 0 nearThresholdReply ingestedDb "d1" = .ok (saved,post) ∧
      ∃ report, saved.aiReports = ingestedDb.aiReports ++ [report] ∧
        (report.narrativeFlag = true ↔ ∃ q ∈ narrativeShares report.claims, 121/200 < q) := by
  obtain ⟨saved,post,-,h,-⟩ := nearThreshold_run
  exact ⟨saved,post,h,narrativeFlag_iff.2 _ _ _ _ _ _ _ h⟩

/-- The score is rounded down to the threshold, and the flag stays down. -/
theorem nearThreshold_unflagged : ∃ saved post report,
    generateSummary (fun _ => "r1") 0 nearThresholdReply ingestedDb "d1" = .ok (saved,post) ∧
    saved.aiReports = ingestedDb.aiReports ++ [report] ∧
    ¬(report.narrativeFlag = true ↔ ∃ q ∈ narrativeShares report.claims, 3/5 < q) := by
  obtain ⟨saved,post,report,h,hreport,hflag,hshares⟩ := nearThreshold_run
  refine ⟨saved,post,report,h,hreport,?_⟩
  rw [hflag, hshares]
  intro hiff
  exact Bool.false_ne_true (hiff.mpr ⟨26/43,by simp,by norm_num⟩)

end FinancialPdfReader
