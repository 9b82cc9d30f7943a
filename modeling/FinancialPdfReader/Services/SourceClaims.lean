import FinancialPdfReader.Services.ReasoningPatterns
import FinancialPdfReader.Services.Summarization.Saved

namespace FinancialPdfReader

open Py

/-- Every filter of a pattern finds a claim. -/
def Triggers (pattern : PatternDefinition) (claims : List (AIClaim String)) : Prop :=
  ∀ f ∈ pattern.requiredFilters, ∃ c ∈ claims, f.matchesClaim c = true

/-- The claims that match one of a pattern's filters at least. -/
def matchingClaims (pattern : PatternDefinition) (claims : List (AIClaim String)) :
    List (AIClaim String) :=
  claims.filter (fun c => pattern.requiredFilters.any (fun f => f.matchesClaim c))

/-- A claim as it is shown under its own text. -/
def ownView (c : AIClaim String) : SourceClaim :=
  ⟨c.claimId,c.claim,Choices.text c.sectionKey,Choices.text c.materiality⟩

/-- The identifiers of some claims tell them apart from each other, and the last claim with the
identifier of one of them looks like that one. -/
structure Recognisable (claims matching : List (AIClaim String)) : Prop where
  distinct : (matching.map (·.claimId)).Nodup
  last : ∀ c ∈ matching, ∀ d ∈ claims.reverse.find? (fun d => d.claimId = c.claimId),
    d.claim = c.claim ∧ d.sectionKey = c.sectionKey ∧ d.materiality = c.materiality

section Unique

variable {seen : List String} {claims : List (AIClaim String)}

/-- The identifiers that are new, each once. -/
theorem mem_ids_uniqueClaims {id : String} :
    id ∈ (uniqueClaims seen claims).map (·.claimId) ↔
      id ∉ seen ∧ id ∈ claims.map (·.claimId) := by
  rw [uniqueClaims_eq_firstOfEach]
  exact Requirements.mem_keys_firstOfEach

theorem nodup_ids_uniqueClaims : ((uniqueClaims seen claims).map (·.claimId)).Nodup := by
  rw [uniqueClaims_eq_firstOfEach]
  exact Requirements.nodup_keys_firstOfEach

end Unique

section Evaluate

variable {pattern : PatternDefinition} {claims : List (AIClaim String)}

theorem mem_matchingClaims {c : AIClaim String} : c ∈ matchingClaims pattern claims ↔
    c ∈ pattern.requiredFilters.flatMap (findMatchingClaims claims) := by
  rw [foundClaims_eq_gathered, Requirements.mem_gathered, matchingClaims, List.mem_filter,
    List.any_eq_true]

private theorem missing_eq_nil_iff {fs : List ClaimPropertyFilter} :
    fs.zipIdx.filter (fun e => (findMatchingClaims claims e.1).isEmpty) = [] ↔
      ∀ f ∈ fs, ∃ c ∈ claims, f.matchesClaim c = true := by
  rw [missingFilters_eq_unmet]
  exact Requirements.unmet_eq_nil_iff

/-- Where a filter finds nothing the pattern is short of evidence. -/
theorem evaluatePattern_of_not_triggers (h : ¬ Triggers pattern claims) :
    (evaluatePattern pattern claims).status = .insufficientEvidence := by
  have hmissing : pattern.requiredFilters.zipIdx.filter
      (fun e => (findMatchingClaims claims e.1).isEmpty) ≠ [] := by
    intro hnil
    exact h (missing_eq_nil_iff.mp hnil)
  have hlabels : (!((pattern.requiredFilters.zipIdx.filter
      (fun e => (findMatchingClaims claims e.1).isEmpty)).map
        (fun e => filterLabel e.1 e.2)).isEmpty) = true := by
    simpa using hmissing
  simp only [evaluatePattern, hlabels, if_true]

/-- Where every filter finds something the pattern is triggered by all that they find, each
identifier once. -/
theorem evaluatePattern_of_triggers (hne : pattern.requiredFilters ≠ [])
    (h : Triggers pattern claims) : evaluatePattern pattern claims =
      ⟨.triggered,uniqueClaims [] (pattern.requiredFilters.flatMap (findMatchingClaims claims)),
        [],pattern.observationTemplate⟩ := by
  obtain ⟨f,hf⟩ := List.exists_mem_of_ne_nil _ hne
  obtain ⟨c,hc,hmatch⟩ := h f hf
  have hfound : c ∈ pattern.requiredFilters.flatMap (findMatchingClaims claims) :=
    List.mem_flatMap.mpr ⟨f,hf,List.mem_filter.mpr ⟨hc,hmatch⟩⟩
  have hid : c.claimId ∈ (uniqueClaims []
      (pattern.requiredFilters.flatMap (findMatchingClaims claims))).map (·.claimId) :=
    mem_ids_uniqueClaims.mpr ⟨List.not_mem_nil,List.mem_map_of_mem (f := (·.claimId)) hfound⟩
  have hunique : (uniqueClaims []
      (pattern.requiredFilters.flatMap (findMatchingClaims claims))).isEmpty = false := by
    rw [List.isEmpty_eq_false_iff]
    intro hnil
    rw [hnil] at hid
    exact List.not_mem_nil hid
  simp only [evaluatePattern, missing_eq_nil_iff.mpr h, hunique, List.map_nil, List.isEmpty_nil]
  rfl

end Evaluate

section Shown

variable {claims : List (AIClaim String)}

theorem sourceClaim_claimId (claims : List (AIClaim String)) (id : String) :
    (sourceClaim claims id).claimId = id := by
  rw [sourceClaim]
  split <;> rfl

/-- A claim is shown under its own text exactly when the last claim with its identifier looks
like it. -/
theorem sourceClaim_eq_ownView_iff {c : AIClaim String} (hc : c ∈ claims) :
    sourceClaim claims c.claimId = ownView c ↔
      ∀ d ∈ claims.reverse.find? (fun d => d.claimId = c.claimId),
        d.claim = c.claim ∧ d.sectionKey = c.sectionKey ∧ d.materiality = c.materiality := by
  have hget : (claimLookup claims).get? c.claimId =
      claims.reverse.find? (fun d => d.claimId = c.claimId) := Dict.get?_foldl_set _ _ _
  cases hlast : claims.reverse.find? (fun d => d.claimId = c.claimId) with
  | none =>
    have hno := List.find?_eq_none.mp hlast c (List.mem_reverse.mpr hc)
    exact absurd (decide_eq_true rfl) hno
  | some d =>
    have hshown : sourceClaim claims c.claimId =
        ⟨c.claimId,d.claim,Choices.text d.sectionKey,Choices.text d.materiality⟩ := by
      rw [sourceClaim, hget, hlast]
    rw [hshown, ownView, SourceClaim.mk.injEq, Choices.text_injective.eq_iff,
      Choices.text_injective.eq_iff]
    simp

variable {pattern : PatternDefinition}

/-- What a triggered result shows is what its filters find, each claim under its own text,
exactly when the claims found are recognisable. -/
theorem shown_perm_iff :
    (((uniqueClaims [] (pattern.requiredFilters.flatMap (findMatchingClaims claims))).map
      (·.claimId)).map (sourceClaim claims)).Perm ((matchingClaims pattern claims).map ownView) ↔
      Recognisable claims (matchingClaims pattern claims) := by
  have hids : ∀ ids : List String,
      (ids.map (sourceClaim claims)).map (·.claimId) = ids := by
    intro ids
    rw [List.map_map]
    exact (List.map_congr_left (fun id _ => sourceClaim_claimId claims id)).trans
      (List.map_id ids)
  have hown : ((matchingClaims pattern claims).map ownView).map (·.claimId) =
      (matchingClaims pattern claims).map (·.claimId) := by
    rw [List.map_map]
    rfl
  have hclean : ∀ c ∈ matchingClaims pattern claims, c ∈ claims :=
    fun c hc => (List.mem_filter.mp hc).1
  constructor
  · intro hperm
    have hperm' := hperm.map (·.claimId)
    rw [hids, hown] at hperm'
    refine ⟨hperm'.nodup_iff.mp nodup_ids_uniqueClaims,?_⟩
    intro c hc
    have hshown := hperm.mem_iff.mpr (List.mem_map_of_mem (f := ownView) hc)
    obtain ⟨id,-,hview⟩ := List.mem_map.mp hshown
    have hid : id = c.claimId :=
      (sourceClaim_claimId claims id).symm.trans (congrArg SourceClaim.claimId hview)
    rw [hid] at hview
    exact (sourceClaim_eq_ownView_iff (hclean c hc)).mp hview
  · intro hrec
    have hsame : ((uniqueClaims []
        (pattern.requiredFilters.flatMap (findMatchingClaims claims))).map (·.claimId)).Perm
          ((matchingClaims pattern claims).map (·.claimId)) := by
      rw [List.perm_ext_iff_of_nodup nodup_ids_uniqueClaims hrec.distinct]
      intro id
      rw [mem_ids_uniqueClaims, List.mem_map, List.mem_map]
      simp only [mem_matchingClaims, List.not_mem_nil, not_false_eq_true, true_and]
    have hviews : ((matchingClaims pattern claims).map (·.claimId)).map (sourceClaim claims) =
        (matchingClaims pattern claims).map ownView := by
      rw [List.map_map]
      apply List.map_congr_left
      intro c hc
      exact (sourceClaim_eq_ownView_iff (hclean c hc)).mpr (hrec.last c hc)
    exact hviews ▸ hsame.map (sourceClaim claims)

end Shown

/-- What a result shows is what the filters of its pattern find, under its own text, and
nothing else. -/
structure ShowsMatching (pattern : PatternDefinition) (claims : List (AIClaim String))
    (shown : List SourceClaim) : Prop where
  exactly : shown.Perm ((matchingClaims pattern claims).map ownView)
  matched : ∀ s ∈ shown, ∃ c ∈ claims, (∃ f ∈ pattern.requiredFilters, f.matchesClaim c = true) ∧
    ownView c = s

theorem showsMatching_iff {pattern : PatternDefinition} {claims : List (AIClaim String)}
    {shown : List SourceClaim} : ShowsMatching pattern claims shown ↔
      shown.Perm ((matchingClaims pattern claims).map ownView) := by
  constructor
  · exact ShowsMatching.exactly
  · intro hperm
    refine ⟨hperm,?_⟩
    intro s hs
    obtain ⟨c,hc,hview⟩ := List.mem_map.mp (hperm.mem_iff.mp hs)
    obtain ⟨hclaim,hmatch⟩ := List.mem_filter.mp hc
    exact ⟨c,hclaim,List.any_eq_true.mp hmatch,hview⟩

/-- Under a triggered pattern the result shows exactly the claims found when they are
recognisable. -/
theorem patternResult_shows_iff {pattern : PatternDefinition} {claims : List (AIClaim String)}
    (hne : pattern.requiredFilters ≠ []) (h : Triggers pattern claims) :
    ShowsMatching pattern claims
      ((patternResult claims pattern).sourceClaimIds.map (sourceClaim claims)) ↔
        Recognisable claims (matchingClaims pattern claims) := by
  have hsources := congrArg TriggerResult.sourceClaims (evaluatePattern_of_triggers hne h)
  have hids : (patternResult claims pattern).sourceClaimIds = (uniqueClaims []
      (pattern.requiredFilters.flatMap (findMatchingClaims claims))).map (·.claimId) :=
    congrArg (List.map AIClaim.claimId) hsources
  rw [hids, showsMatching_iff, shown_perm_iff]

theorem patternRegistry_requiredFilters :
    ∀ pattern ∈ patternRegistry, pattern.requiredFilters ≠ [] := by decide +kernel

theorem patternRegistry_ids {pattern other : PatternDefinition} (hp : pattern ∈ patternRegistry)
    (ho : other ∈ patternRegistry) (h : pattern.patternId = other.patternId) : pattern = other :=
  List.inj_on_of_nodup_map (f := (·.patternId)) (by decide +kernel) hp ho h

/-- What a run answers, pattern by pattern. -/
theorem runPatternAnalysis_views {runId : String} {now : Nat} {db : Database}
    {runs saved : List PatternRunReport} {documentId : String} {run : PatternRunReport}
    {views : List PatternView} {report : AIReport}
    (hreport : db.latestReport? documentId = some report)
    (h : runPatternAnalysis runId now db runs documentId = .ok (saved,run,views)) :
    views = patternRegistry.map (fun pattern =>
      let result := patternResult (report.claims.filter (fun c => !c.contaminated)) pattern
      { result
        sourceClaims := result.sourceClaimIds.map
          (sourceClaim (report.claims.filter (fun c => !c.contaminated))) }) := by
  unfold runPatternAnalysis at h
  rw [hreport] at h
  split at h
  · exact nomatch h
  · split at h
    · exact nomatch h
    · obtain ⟨saved',-,h⟩ := bind_eq_ok.mp h
      have hviews := (Prod.mk.inj (Prod.mk.inj (Except.ok.inj h)).2).2
      rw [← hviews, List.map_map]
      rfl

/-- A run shows under every triggered pattern exactly the claims that its filters find, as they
are, when and only when the identifiers of the claims found are distinct and each is that of
no later claim that looks different. -/
theorem runPatternAnalysis_shows_iff {runId : String} {now : Nat} {db : Database}
    {runs saved : List PatternRunReport} {documentId : String} {run : PatternRunReport}
    {views : List PatternView} {report : AIReport}
    (hreport : db.latestReport? documentId = some report)
    (h : runPatternAnalysis runId now db runs documentId = .ok (saved,run,views)) :
    let clean := report.claims.filter (fun c => !c.contaminated)
    (∀ pattern ∈ patternRegistry, ∀ view ∈ views, view.result.patternId = pattern.patternId →
      view.result.status = .triggered → ShowsMatching pattern clean view.sourceClaims) ↔
    ∀ pattern ∈ patternRegistry, Triggers pattern clean →
      Recognisable clean (matchingClaims pattern clean) := by
  intro clean
  have hviews := runPatternAnalysis_views hreport h
  constructor
  · intro hshows pattern hp htriggers
    have hne := patternRegistry_requiredFilters pattern hp
    have hstatus : (patternResult clean pattern).status = .triggered :=
      congrArg TriggerResult.status (evaluatePattern_of_triggers hne htriggers)
    have hshown := hshows pattern hp _ (hviews ▸ List.mem_map_of_mem hp) rfl hstatus
    exact (patternResult_shows_iff hne htriggers).mp hshown
  · intro hrec pattern hp view hview hid hstatus
    rw [hviews] at hview
    obtain ⟨other,ho,rfl⟩ := List.mem_map.mp hview
    obtain rfl : other = pattern := patternRegistry_ids ho hp hid
    by_cases htriggers : Triggers other clean
    · have hne := patternRegistry_requiredFilters other hp
      exact (patternResult_shows_iff hne htriggers).mpr (hrec other hp htriggers)
    · have hshort : (patternResult clean other).status = .insufficientEvidence :=
        evaluatePattern_of_not_triggers htriggers
      exact absurd (hstatus.symm.trans hshort) (by decide)

/-- Two claims under one identifier. -/
def repeatedIdReply : ModelReply := .text <|
  "\x7b\"claims\": [\x7b\"claim_id\": \"c1\", \"claim\": \"One top customer\"\x7d, " ++
  "\x7b\"claim_id\": \"c1\", \"claim\": \"Cash went up\"\x7d]\x7d"

private theorem repeatedId_run : ∃ saved post report runs run views,
    generateSummary (fun _ => "r1") 0 repeatedIdReply ingestedDb "d1" = .ok (saved,post) ∧
    saved.latestReport? "d1" = some report ∧
    runPatternAnalysis "p1" 0 saved [] "d1" = .ok (runs,run,views) ∧
    (matchingClaims customerConcentration
      (report.claims.filter (fun c => !c.contaminated))).map (·.claim) = ["One top customer"] ∧
    (views.filter (fun view =>
      view.result.patternId = customerConcentration.patternId)).map (fun view =>
        (view.result.status,view.sourceClaims.map (·.claim))) =
      [(.triggered,["Cash went up"])] := by
  have hrun : (generateSummary (fun _ => "r1") 0 repeatedIdReply ingestedDb "d1" >>= fun r =>
      (fun p => ((r.1.latestReport? "d1").map (fun report =>
          (matchingClaims customerConcentration
            (report.claims.filter (fun c => !c.contaminated))).map (·.claim)),
        (p.2.2.filter (fun view =>
          view.result.patternId = customerConcentration.patternId)).map (fun view =>
            (view.result.status,view.sourceClaims.map (·.claim))))) <$>
        runPatternAnalysis "p1" 0 r.1 [] "d1") =
      .ok (some ["One top customer"],[(.triggered,["Cash went up"])]) := by
    decide +kernel
  obtain ⟨⟨saved,post⟩,h,hrun⟩ := bind_eq_ok.mp hrun
  obtain ⟨⟨runs,run,views⟩,hp,hrun⟩ := map_eq_ok.mp hrun
  obtain ⟨hfound,hviews⟩ := Prod.mk.inj hrun
  obtain ⟨report,hreport,hmatching⟩ := Option.map_eq_some_iff.mp hfound
  exact ⟨saved,post,report,runs,run,views,h,hreport,hp,hmatching,hviews⟩

theorem runPatternAnalysis_shows_iff_repeatedId : ∃ saved post report runs run views,
    generateSummary (fun _ => "r1") 0 repeatedIdReply ingestedDb "d1" = .ok (saved,post) ∧
    saved.latestReport? "d1" = some report ∧
    runPatternAnalysis "p1" 0 saved [] "d1" = .ok (runs,run,views) ∧
    ((∀ pattern ∈ patternRegistry, ∀ view ∈ views, view.result.patternId = pattern.patternId →
      view.result.status = .triggered → ShowsMatching pattern
        (report.claims.filter (fun c => !c.contaminated)) view.sourceClaims) ↔
    ∀ pattern ∈ patternRegistry,
      Triggers pattern (report.claims.filter (fun c => !c.contaminated)) →
        Recognisable (report.claims.filter (fun c => !c.contaminated))
          (matchingClaims pattern (report.claims.filter (fun c => !c.contaminated)))) := by
  obtain ⟨saved,post,report,runs,run,views,h,hreport,hp,-,-⟩ := repeatedId_run
  exact ⟨saved,post,report,runs,run,views,h,hreport,hp,runPatternAnalysis_shows_iff hreport hp⟩

/-- The analysis shows the other claim in place of the one that it found. -/
theorem repeatedId_shows_other : ∃ saved post report runs run views,
    generateSummary (fun _ => "r1") 0 repeatedIdReply ingestedDb "d1" = .ok (saved,post) ∧
    saved.latestReport? "d1" = some report ∧
    runPatternAnalysis "p1" 0 saved [] "d1" = .ok (runs,run,views) ∧
    ∃ view ∈ views, view.result.patternId = customerConcentration.patternId ∧
      view.result.status = .triggered ∧ ¬ ShowsMatching customerConcentration
        (report.claims.filter (fun c => !c.contaminated)) view.sourceClaims := by
  obtain ⟨saved,post,report,runs,run,views,h,hreport,hp,hmatching,hviews⟩ := repeatedId_run
  obtain ⟨view,hview,hshape⟩ := List.map_eq_singleton_iff.mp hviews
  obtain ⟨hstatus,hclaims⟩ := Prod.mk.inj hshape
  have hmem : view ∈ views.filter (fun view =>
      view.result.patternId = customerConcentration.patternId) :=
    hview ▸ List.mem_singleton_self _
  obtain ⟨hmem,hid⟩ := List.mem_filter.mp hmem
  refine ⟨saved,post,report,runs,run,views,h,hreport,hp,view,hmem,of_decide_eq_true hid,hstatus,?_⟩
  intro hshows
  have hperm := hshows.exactly.map (·.claim)
  rw [hclaims, List.map_map] at hperm
  have hown : (matchingClaims customerConcentration
      (report.claims.filter (fun c => !c.contaminated))).map ((·.claim) ∘ ownView) =
        ["One top customer"] := hmatching
  rw [hown] at hperm
  exact absurd hperm (by decide)

end FinancialPdfReader
