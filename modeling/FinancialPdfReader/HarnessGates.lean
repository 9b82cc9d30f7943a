import FinancialPdfReader.GovernanceHarness

namespace FinancialPdfReader

open Py

section Breaks

inductive Direction where
  | aGtB | aEqB | bGtA
  deriving DecidableEq

/-- How two conditions compare over one set of claims, without governance and with it. -/
structure ConditionBreak where
  aRate : ℚ
  bRate : ℚ
  absDelta : ℚ
  relLift : ℚ
  direction : Direction
  breakTestPass : Bool
  unsupported : Bool

def directionTolerance : ℚ := -3/2

def ConditionBreak.ofRates (aRate bRate : ℚ) : ConditionBreak :=
  let absDelta := roundTo 1 (bRate - aRate)
  { aRate
    bRate
    absDelta
    relLift := if aRate ≠ 0 then roundTo 1 (absDelta / aRate * 100) else 0
    direction := if bRate < aRate then .aGtB else if aRate = bRate then .aEqB else .bGtA
    breakTestPass := absDelta < directionTolerance
    unsupported := false }

/-- Of the identifiers that are drawn in turn the ungoverned parse takes the first ones. -/
def computeConditionBreak (uuid4 : Nat → String) (claimsInput : List Json) (docId : String) :
    Except PyError ConditionBreak := do
  let rawJson := .obj [("claims",.arr claimsInput)]
  let ungoverned ← parseUngoverned uuid4 rawJson
  let governed ← parseGoverned (fun i => uuid4 (claimsInput.length + i)) rawJson docId
  pure (.ofRates (computeRate ungoverned) (computeRate governed))

/-- A claim that the governance should intervene in, by the first of five rules that it meets. -/
def violatesInput (c : Json) : Except PyError Bool := do
  let src ← c.get "source_type" (.str "financial_evidence")
  let lvl ← c.get "claim_level" (.str "interpretation")
  let conf ← c.get "confidence" (.str "medium")
  let fl ← c.get "forward_looking" (.bool false)
  let text ← c.get "claim" (.str "")
  if isNarrativeName src && lvl == .str "observed_fact" then pure true
  else if src == .str "management_expectation" && conf == .str "high" then pure true
  else do
    let implied ← if isNarrativeName src && !fl.truthy then
      text.containsAny forwardLookingIndicatorPhrases else pure false
    if implied then pure true
    else do
      let rhetorical ← if isNarrativeName src then
        text.containsAny rhetoricalRiskPhrases else pure false
      pure (rhetorical || isNarrativeName src)

def countViolationsInInput (claimsInput : List Json) : Except PyError Nat := do
  let violations ← claimsInput.mapM violatesInput
  pure (violations.countP id)

def computeRealTaskBreak (uuid4 : Nat → String) (claimsInput : List Json) (docId : String) :
    Except PyError ConditionBreak := do
  let violationCount ← countViolationsInInput claimsInput
  let governed ← parseGoverned uuid4 (.obj [("claims",.arr claimsInput)]) docId
  pure (.ofRates (roundTo 1 (violationCount * scaleFactor))
    (roundTo 1 (countRemainingViolations governed * scaleFactor)))

end Breaks

section Gates

inductive GateDecision where
  | inconclusive | mechanismStableCandidate | thresholdDependentPersists
  deriving DecidableEq

structure GateSummary where
  arm1Pass : Nat
  arm2Pass : Nat
  arm1Unsup : Nat
  arm2Unsup : Nat
  decision : GateDecision

def seeds : List Nat := [350101,350102,350103]

/-- One of the two arms has to pass with each of the three seeds. -/
def gateSummary (results : List (ConditionBreak × ConditionBreak)) : GateSummary :=
  let arm1Pass := results.countP (fun r => r.1.breakTestPass)
  let arm2Pass := results.countP (fun r => r.2.breakTestPass)
  let arm1Unsup := results.countP (fun r => r.1.unsupported)
  let arm2Unsup := results.countP (fun r => r.2.unsupported)
  { arm1Pass
    arm2Pass
    arm1Unsup
    arm2Unsup
    decision := if 0 < arm1Unsup ∨ 0 < arm2Unsup then .inconclusive
      else if arm1Pass = 3 ∨ arm2Pass = 3 then .mechanismStableCandidate
      else .thresholdDependentPersists }

def runGate (compute : Nat → Nat → Except PyError ConditionBreak) : Except PyError GateSummary := do
  let results ← seeds.mapM (fun seed => do
    let r1 ← compute 1 seed
    let r2 ← compute 2 seed
    pure (r1,r2))
  pure (gateSummary results)

/-- The two metrics beside each other, of one seed. -/
structure BridgeEntry where
  seed : Nat
  syntheticDelta : ℚ
  realTaskDelta : ℚ
  coDirectional : Bool
  note : String

structure MetricBridge where
  perSeed : List BridgeEntry
  allSeedsCoDirectional : Bool
  bridgeVerdict : String
  avgSyntheticDelta : ℚ
  avgRealTaskDelta : ℚ
  magnitudeRelation : String
  predictiveValidity : String

def bridgeEntry (seed : Nat) (syn real : ConditionBreak) : BridgeEntry :=
  let coDirectional := decide (syn.absDelta < 0 ∧ real.absDelta < 0)
  { seed
    syntheticDelta := syn.absDelta
    realTaskDelta := real.absDelta
    coDirectional
    note := if coDirectional then
        if |syn.absDelta| < |real.absDelta| then
          "synthetic is conservative lower bound of real effect"
        else "synthetic overestimates real effect"
      else "NOT co-directional — harness metric invalid" }

def metricBridge (bridge : List BridgeEntry) : MetricBridge :=
  let allCo := bridge.all (·.coDirectional)
  let avgSyn := roundTo 1 ((bridge.map (·.syntheticDelta)).sum / seeds.length)
  let avgReal := roundTo 1 ((bridge.map (·.realTaskDelta)).sum / seeds.length)
  let stronger := decide (|avgSyn| < |avgReal|)
  { perSeed := bridge
    allSeedsCoDirectional := allCo
    bridgeVerdict := if allCo then "synthetic_metric_valid_as_diagnostic"
      else "synthetic_metric_invalid"
    avgSyntheticDelta := avgSyn
    avgRealTaskDelta := avgReal
    magnitudeRelation := if stronger then "real_task_stronger" else "synthetic_stronger"
    predictiveValidity := if allCo && stronger then
        "synthetic is valid directional proxy; magnitude understates real governance effect"
      else if allCo then "synthetic directional proxy valid"
      else "synthetic NOT a valid proxy for real governance effect" }

def computeMetricBridge (syn real : Nat → Except PyError ConditionBreak) :
    Except PyError MetricBridge := do
  let bridge ← seeds.mapM (fun seed => do
    let s ← syn seed
    let r ← real seed
    pure (bridgeEntry seed s r))
  pure (metricBridge bridge)

/-- The decision table; each layer says whether it is passed. -/
structure ThreeLayerDecision where
  layer1 : Bool
  layer2 : Bool
  layer3 : Bool
  coDirectional : Bool
  syntheticProxyValid : Bool
  globalClaimUpgradeAllowed : Bool

def computeThreeLayerDecision (synSummary realSummary : GateSummary) (bridge : MetricBridge) :
    ThreeLayerDecision :=
  let layer1 := decide (synSummary.arm1Unsup + synSummary.arm2Unsup = 0 ∧
    realSummary.arm1Unsup + realSummary.arm2Unsup = 0)
  let layer2 := decide (synSummary.decision = .mechanismStableCandidate)
  let layer3 := decide (realSummary.decision = .mechanismStableCandidate)
  { layer1
    layer2
    layer3
    coDirectional := bridge.allSeedsCoDirectional
    syntheticProxyValid := bridge.bridgeVerdict == "synthetic_metric_valid_as_diagnostic"
    globalClaimUpgradeAllowed := layer1 && layer2 && layer3 }

/-- The whole analysis, over the claims of each seed. `uuid4 run arm seed` are the identifiers
that are drawn for one break of one of the three runs. -/
def runFullCrossRepo (uuid4 : String → Nat → Nat → Nat → String)
    (claimSets realTaskClaimSets : Nat → List Json) : Except PyError ThreeLayerDecision := do
  let synthetic (run : String) (arm seed : Nat) :=
    computeConditionBreak (uuid4 run arm seed) (claimSets seed) ("harness-" ++ toString seed)
  let realTask (run : String) (arm seed : Nat) :=
    computeRealTaskBreak (uuid4 run arm seed) (realTaskClaimSets seed)
      ("real-task-" ++ toString seed)
  let synSummary ← runGate (synthetic "harness")
  let realSummary ← runGate (realTask "real-task")
  let bridge ← computeMetricBridge (synthetic "bridge" 1) (realTask "bridge" 1)
  pure (computeThreeLayerDecision synSummary realSummary bridge)

end Gates

section Items

def isNarrativeItem (item : Json) : Bool :=
  isNarrativeName (item.getD "source_type" (.str "financial_evidence"))

/-- Without governance the claim is let through, and it counts. -/
def isUnguarded (item : Json) : Bool :=
  (item.getD "confidence" (.str "medium") == .str "high" &&
    !(item.getD "forward_looking" (.bool false)).truthy) &&
    ((item.getD "evidence" (.arr [])).truthy &&
      item.getD "claim_level" (.str "interpretation") != .str "insufficient_evidence")

theorem counted_ungoverned {uuid : String} {item : Json} {u : HarnessClaim}
    (h : parseUngovernedItem uuid item = .ok u) :
    (isUnblocked u && isNonInsuf u) = isUnguarded item := by
  obtain ⟨hlevel,hconfidence,hforward,hattribution⟩ := parseUngovernedItem_eq_ok h
  have hnonInsuf : isNonInsuf u = ((item.getD "evidence" (.arr [])).truthy &&
      item.getD "claim_level" (.str "interpretation") != .str "insufficient_evidence") := by
    rw [isNonInsuf, hlevel]
    cases hev : (item.getD "evidence" (.arr [])).truthy with
    | true => simp
    | false =>
      by_cases hclaim : item.getD "claim_level" (.str "interpretation") =
          .str "insufficient_evidence"
      · simp [hclaim]
      · simp [hclaim]
  rw [hnonInsuf, isUnblocked, hconfidence, hforward, hattribution, isUnguarded]
  simp

/-- The governance blocks each narrative and nothing else. -/
theorem unblocked_iff_not_narrative {raw : RawClaim} {uuid documentId : String} {item : Json}
    (h : raw.IsReadFrom uuid documentId item) {implied : Bool}
    (himplied : impliesForward raw = .ok implied) (terms : List String) :
    isUnblocked (harnessClaim (governed true raw implied terms)) =
      (!isNarrativeItem item && (item.getD "confidence" (.str "medium") == .str "high" &&
        !(item.getD "forward_looking" (.bool false)).truthy)) := by
  have hnarrative : raw.sourceType.isNarrative = isNarrativeItem item := by
    rw [Bool.eq_iff_iff, h.isNarrative_iff, isNarrativeItem, isNarrativeName]
    simp
  have hprefix : (raw.sourceType.attributionPrefix == "") = !raw.sourceType.isNarrative := by
    cases raw.sourceType <;> decide
  have hread := Choices.read_eq_ok_of_ne_default Confidence.medium .high
    (item.getD "confidence" (.str "medium")) (by decide)
  rw [h.confidence, Except.ok.injEq] at hread
  have hunblocked : isUnblocked (harnessClaim (governed true raw implied terms)) =
      (raw.sourceType.attributionPrefix == "" &&
        (Json.str (Choices.text (capConfidence raw.sourceType raw.confidence)) == .str "high") &&
        !(implied || boolField false raw.forwardLooking)) := rfl
  rw [hunblocked, hprefix, ← hnarrative]
  cases hsource : raw.sourceType.isNarrative with
  | true => rfl
  | false =>
    have himplied : implied = false := by
      rw [impliesForward, hsource, Bool.and_false] at himplied
      exact (Except.ok.inj himplied).symm
    have hcap : capConfidence raw.sourceType raw.confidence = raw.confidence := by
      rw [capConfidence]
      split
      · rename_i hboth
        rw [Bool.and_eq_true, beq_iff_eq] at hboth
        rw [hboth.1] at hsource
        contradiction
      · rfl
    have hhigh : (Json.str (Choices.text raw.confidence) == .str "high") =
        (item.getD "confidence" (.str "medium") == .str "high") := by
      rw [Bool.eq_iff_iff, beq_iff_eq, beq_iff_eq]
      exact (Choices.str_text_eq_iff _ Confidence.high).trans hread
    rw [himplied, hcap, hhigh, boolField_false, h.forwardLooking]
    rfl

theorem violatesInput_eq {item : Json} (h : GovernableItem item) :
    violatesInput item = .ok (isNarrativeItem item) := by
  have hget := Json.get_eq_getD h.isObj
  have htext := h.text
  simp only [violatesInput, hget, ok_bind]
  rw [isNarrativeItem]
  cases hsource : isNarrativeName (item.getD "source_type" (.str "financial_evidence")) with
  | false =>
    have hnot : (item.getD "source_type" (.str "financial_evidence") ==
        .str "management_expectation") = false :=
      (Bool.or_eq_false_iff.mp hsource).2
    simp [hnot]
  | true =>
    obtain ⟨implied,himplied⟩ := Json.containsAny_isOk (htext hsource)
      forwardLookingIndicatorPhrases
    obtain ⟨rhetorical,hrhetorical⟩ := Json.containsAny_isOk (htext hsource) rhetoricalRiskPhrases
    split
    · rfl
    · split
      · rfl
      · cases (item.getD "forward_looking" (.bool false)).truthy
        · simp only [Bool.true_and, Bool.not_false, if_true, himplied, ok_bind, hrhetorical]
          cases implied <;> simp
        · simp [hrhetorical]

end Items

section Measured

variable {claimsInput : List Json}

/-- What the two metrics come to. -/
def unguardedBreak (claimsInput : List Json) : ConditionBreak :=
  .ofRates (claimsInput.countP isUnguarded * 2)
    (claimsInput.countP (fun item => !isNarrativeItem item && isUnguarded item) * 2)

def narrativeBreak (claimsInput : List Json) : ConditionBreak :=
  .ofRates (claimsInput.countP isNarrativeItem * 2) 0

theorem claimItems_claims (claimsInput : List Json) :
    claimItems (.obj [("claims",.arr claimsInput)]) = .ok claimsInput := rfl

theorem computeRate_ungoverned {uuid4 : Nat → String} {ungoverned : List HarnessClaim}
    (h : parseUngoverned uuid4 (.obj [("claims",.arr claimsInput)]) = .ok ungoverned) :
    computeRate ungoverned = claimsInput.countP isUnguarded * 2 := by
  rw [parseUngoverned, claimItems_claims, ok_bind, mapM_eq_ok] at h
  have hitems : List.Forall₂ (fun item u => (isUnblocked u && isNonInsuf u) = isUnguarded item)
      claimsInput ungoverned :=
    forall₂_of_zipIdx (h.imp (fun e u hu => counted_ungoverned hu))
  rw [computeRate_eq, countP_eq_of_forall₂ hitems]

theorem computeRate_governed {uuid4 : Nat → String} {docId : String}
    {governed : List HarnessClaim}
    (h : parseGoverned uuid4 (.obj [("claims",.arr claimsInput)]) docId = .ok governed) :
    computeRate governed =
      claimsInput.countP (fun item => !isNarrativeItem item && isUnguarded item) * 2 := by
  have hobjects := (parseGoverned_isOk_iff (claimItems_claims claimsInput)).mp ⟨governed,h⟩
  obtain ⟨claims,hclaims,hmap⟩ := bind_eq_ok.mp h
  obtain rfl := Except.ok.inj hmap
  have hitems : List.Forall₂ (fun item c =>
      (isUnblocked (harnessClaim c) && isNonInsuf (harnessClaim c)) =
        (!isNarrativeItem item && isUnguarded item)) claimsInput claims := by
    refine ((List.forall₂_and_left _ _).mpr
      ⟨hobjects,parseClaims_eq_ok (claimItems_claims claimsInput) hclaims⟩).imp ?_
    intro item c hparts
    obtain ⟨hobject,uuid,raw,hread,hgovern⟩ := hparts
    obtain ⟨implied,terms,himplied,-,rfl⟩ := govern_eq_ok hgovern
    obtain ⟨u,hu⟩ : ∃ u, parseUngovernedItem uuid item = .ok u := by
      obtain ⟨fields,rfl⟩ := hobject.isObj
      exact ⟨_,rfl⟩
    rw [unblocked_iff_not_narrative hread himplied terms, nonInsuf_governed hread implied terms hu,
      ← counted_ungoverned hu]
    have hsame : isUnblocked u = (item.getD "confidence" (.str "medium") == .str "high" &&
        !(item.getD "forward_looking" (.bool false)).truthy) := by
      obtain ⟨-,hconfidence,hforward,hattribution⟩ := parseUngovernedItem_eq_ok hu
      rw [isUnblocked, hattribution, hconfidence, hforward]
      simp
    rw [hsame, Bool.and_assoc]
  rw [computeRate_eq, List.countP_map, ← countP_eq_of_forall₂ hitems]
  rfl

theorem countRemainingViolations_governed {uuid4 : Nat → String} {docId : String}
    {governed : List HarnessClaim}
    (h : parseGoverned uuid4 (.obj [("claims",.arr claimsInput)]) docId = .ok governed) :
    countRemainingViolations governed = 0 := by
  obtain ⟨claims,hclaims,hmap⟩ := bind_eq_ok.mp h
  obtain rfl := Except.ok.inj hmap
  rw [countRemainingViolations, List.countP_map, List.countP_eq_zero]
  intro c hc
  obtain ⟨item,-,uuid,raw,-,hgovern⟩ :=
    forall₂_mem_right (parseClaims_eq_ok (claimItems_claims claimsInput) hclaims) hc
  obtain ⟨implied,terms,-,-,rfl⟩ := govern_eq_ok hgovern
  exact Bool.not_eq_true _ ▸ lawful_governed raw implied terms

theorem countViolationsInInput_eq (h : ∀ item ∈ claimsInput, GovernableItem item) :
    countViolationsInInput claimsInput = .ok (claimsInput.countP isNarrativeItem) := by
  have hmapM : claimsInput.mapM violatesInput = .ok (claimsInput.map isNarrativeItem) := by
    rw [mapM_eq_ok, List.forall₂_map_right_iff, List.forall₂_same]
    exact fun item hitem => violatesInput_eq (h item hitem)
  rw [countViolationsInInput, hmapM, ok_bind, List.countP_map]
  rfl

/-- The synthetic break can be computed of the claims that the service can parse, and of no
others. -/
theorem computeConditionBreak_eq_ok (uuid4 : Nat → String) (claimsInput : List Json)
    (docId : String) {b : ConditionBreak} :
    computeConditionBreak uuid4 claimsInput docId = .ok b ↔
      (∀ item ∈ claimsInput, GovernableItem item) ∧ b = unguardedBreak claimsInput := by
  have hgoverned : (∃ governed, parseGoverned (fun i => uuid4 (claimsInput.length + i))
      (.obj [("claims",.arr claimsInput)]) docId = .ok governed) ↔
        ∀ item ∈ claimsInput, GovernableItem item :=
    parseGoverned_isOk_iff (claimItems_claims claimsInput)
  constructor
  · intro h
    obtain ⟨ungoverned,hu,h⟩ := bind_eq_ok.mp h
    obtain ⟨governed,hg,h⟩ := bind_eq_ok.mp h
    rw [computeRate_ungoverned hu, computeRate_governed hg] at h
    exact ⟨hgoverned.mp ⟨governed,hg⟩,(Except.ok.inj h).symm⟩
  · intro hparts
    obtain ⟨hitems,rfl⟩ := hparts
    obtain ⟨governed,hg⟩ := hgoverned.mpr hitems
    obtain ⟨ungoverned,hu⟩ : ∃ ungoverned,
        parseUngoverned uuid4 (.obj [("claims",.arr claimsInput)]) = .ok ungoverned :=
      parseUngoverned_of_objects (claimItems_claims claimsInput)
        (fun item hitem => (hitems item hitem).isObj)
    refine bind_eq_ok.mpr ⟨ungoverned,hu,bind_eq_ok.mpr ⟨governed,hg,?_⟩⟩
    rw [computeRate_ungoverned hu, computeRate_governed hg]
    rfl

theorem roundTo_rate (n : Nat) : roundTo 1 ((n : ℚ) * scaleFactor) = n * 2 := by
  have hwhole := roundTo_intCast 1 (n * 2)
  push_cast at hwhole
  exact hwhole

theorem computeRealTaskBreak_eq_ok (uuid4 : Nat → String) (claimsInput : List Json)
    (docId : String) {b : ConditionBreak} :
    computeRealTaskBreak uuid4 claimsInput docId = .ok b ↔
      (∀ item ∈ claimsInput, GovernableItem item) ∧ b = narrativeBreak claimsInput := by
  have hgoverned : (∃ governed, parseGoverned uuid4 (.obj [("claims",.arr claimsInput)]) docId =
      .ok governed) ↔ ∀ item ∈ claimsInput, GovernableItem item :=
    parseGoverned_isOk_iff (claimItems_claims claimsInput)
  have hrates (governed : List HarnessClaim)
      (hg : parseGoverned uuid4 (.obj [("claims",.arr claimsInput)]) docId = .ok governed) :
      ConditionBreak.ofRates (roundTo 1 ((claimsInput.countP isNarrativeItem : ℕ) * scaleFactor))
        (roundTo 1 (countRemainingViolations governed * scaleFactor)) =
          narrativeBreak claimsInput := by
    rw [countRemainingViolations_governed hg, roundTo_rate, roundTo_rate, narrativeBreak]
    simp
  constructor
  · intro h
    obtain ⟨violationCount,hcount,h⟩ := bind_eq_ok.mp h
    obtain ⟨governed,hg,h⟩ := bind_eq_ok.mp h
    have hitems := hgoverned.mp ⟨governed,hg⟩
    rw [countViolationsInInput_eq hitems] at hcount
    obtain rfl := Except.ok.inj hcount
    rw [hrates governed hg] at h
    exact ⟨hitems,(Except.ok.inj h).symm⟩
  · intro hparts
    obtain ⟨hitems,rfl⟩ := hparts
    obtain ⟨governed,hg⟩ := hgoverned.mpr hitems
    refine bind_eq_ok.mpr ⟨_,countViolationsInInput_eq hitems,bind_eq_ok.mpr ⟨governed,hg,?_⟩⟩
    rw [hrates governed hg]
    rfl

end Measured

section Compared

variable {claimsInput : List Json}

/-- How the two metrics are related over one set of claims: the synthetic one counts the narratives
that would have been let through, the other one all of them. -/
structure MeasuredBreaks (claimsInput : List Json) (synthetic realTask : ConditionBreak) :
    Prop where
  syntheticDelta : synthetic.absDelta =
    -(claimsInput.countP (fun item => isNarrativeItem item && isUnguarded item) : ℚ) * 2
  realTaskDelta : realTask.absDelta = -(claimsInput.countP isNarrativeItem : ℚ) * 2
  realTaskRates : realTask.aRate = -realTask.absDelta ∧ realTask.bRate = 0
  bounded : realTask.absDelta ≤ synthetic.absDelta ∧ synthetic.absDelta ≤ 0
  syntheticPass : synthetic.breakTestPass = true ↔
    ∃ item ∈ claimsInput, isNarrativeItem item = true ∧ isUnguarded item = true
  realTaskPass : realTask.breakTestPass = true ↔ ∃ item ∈ claimsInput, isNarrativeItem item = true

theorem absDelta_ofRates {m n : Nat} :
    (ConditionBreak.ofRates (m * 2) (n * 2)).absDelta = ((n : ℚ) - m) * 2 := by
  have hwhole := roundTo_intCast 1 ((n - m : ℤ) * 2)
  have hdelta : (n : ℚ) * 2 - m * 2 = ((n - m : ℤ) * 2 : ℤ) := by
    push_cast
    ring
  rw [ConditionBreak.ofRates]
  dsimp only
  rw [hdelta, hwhole]
  push_cast
  ring

/-- A claim that is blocked is enough for a break to pass. -/
theorem pass_ofRates_iff {m n : Nat} (h : n ≤ m) :
    (ConditionBreak.ofRates (m * 2) (n * 2)).breakTestPass = true ↔ n < m := by
  have hpass : (ConditionBreak.ofRates (m * 2) (n * 2)).breakTestPass =
      decide ((ConditionBreak.ofRates (m * 2) (n * 2)).absDelta < directionTolerance) := rfl
  rw [hpass, absDelta_ofRates, decide_eq_true_eq, directionTolerance]
  constructor
  · intro hdelta
    refine lt_of_le_of_ne h (fun hsame => ?_)
    rw [hsame] at hdelta
    norm_num at hdelta
  · intro hless
    have hstep : (n : ℚ) + 1 ≤ m := by exact_mod_cast hless
    linarith

theorem countP_unguarded (claimsInput : List Json) :
    claimsInput.countP isUnguarded =
      claimsInput.countP (fun item => isNarrativeItem item && isUnguarded item) +
        claimsInput.countP (fun item => !isNarrativeItem item && isUnguarded item) := by
  rw [List.countP_eq_countP_filter_add claimsInput isUnguarded isNarrativeItem,
    List.countP_filter, List.countP_filter]
  simp only [Bool.and_comm]

theorem narrativeBreak_eq (claimsInput : List Json) : narrativeBreak claimsInput =
    .ofRates (claimsInput.countP isNarrativeItem * 2) ((0 : ℕ) * 2) := by
  rw [narrativeBreak]
  norm_num

theorem measuredBreaks (claimsInput : List Json) :
    MeasuredBreaks claimsInput (unguardedBreak claimsInput) (narrativeBreak claimsInput) := by
  have hsplit := countP_unguarded claimsInput
  have hle : claimsInput.countP (fun item => isNarrativeItem item && isUnguarded item) ≤
      claimsInput.countP isNarrativeItem :=
    List.countP_mono_left (fun item _ hboth => (Bool.and_eq_true_iff.mp hboth).1)
  have hsynthetic : (unguardedBreak claimsInput).absDelta =
      -(claimsInput.countP (fun item => isNarrativeItem item && isUnguarded item) : ℚ) * 2 := by
    rw [unguardedBreak, absDelta_ofRates, hsplit]
    push_cast
    ring
  have hreal : (narrativeBreak claimsInput).absDelta =
      -(claimsInput.countP isNarrativeItem : ℚ) * 2 := by
    rw [narrativeBreak_eq, absDelta_ofRates]
    push_cast
    ring
  refine ⟨hsynthetic,hreal,⟨?_,rfl⟩,⟨?_,?_⟩,?_,?_⟩
  · rw [hreal, narrativeBreak, ConditionBreak.ofRates]
    ring
  · have hle' : (claimsInput.countP (fun item => isNarrativeItem item && isUnguarded item) : ℚ) ≤
        claimsInput.countP isNarrativeItem := by exact_mod_cast hle
    rw [hsynthetic, hreal]
    linarith
  · rw [hsynthetic]
    have hnonneg : (0 : ℚ) ≤
        claimsInput.countP (fun item => isNarrativeItem item && isUnguarded item) :=
      Nat.cast_nonneg _
    linarith
  · rw [unguardedBreak, pass_ofRates_iff (by omega), hsplit, Nat.lt_add_left_iff_pos,
      List.countP_pos_iff]
    simp only [Bool.and_eq_true]
  · rw [narrativeBreak_eq, pass_ofRates_iff (Nat.zero_le _), List.countP_pos_iff]

/-- A break that goes in the right direction at all goes far enough. -/
theorem neg_iff_pass_ofRates {m n : Nat} (h : n ≤ m) :
    (ConditionBreak.ofRates (m * 2) (n * 2)).absDelta < 0 ↔
      (ConditionBreak.ofRates (m * 2) (n * 2)).breakTestPass = true := by
  rw [pass_ofRates_iff h, absDelta_ofRates, ← Nat.cast_lt (α := ℚ)]
  constructor
  · intro hneg
    linarith
  · intro hless
    linarith

theorem neg_iff_pass_unguardedBreak (claimsInput : List Json) :
    (unguardedBreak claimsInput).absDelta < 0 ↔
      (unguardedBreak claimsInput).breakTestPass = true := by
  have hsplit := countP_unguarded claimsInput
  exact neg_iff_pass_ofRates (by omega)

theorem neg_iff_pass_narrativeBreak (claimsInput : List Json) :
    (narrativeBreak claimsInput).absDelta < 0 ↔
      (narrativeBreak claimsInput).breakTestPass = true := by
  rw [narrativeBreak_eq]
  exact neg_iff_pass_ofRates (Nat.zero_le _)

/-- The breaks of every list of claims: both can be computed exactly of the claims that the
service can parse, and then the synthetic one never says more than the real one. -/
theorem breaks_measured (uuid4 uuid4' : Nat → String) (claimsInput : List Json)
    (docId docId' : String) :
    ((∃ b, computeConditionBreak uuid4 claimsInput docId = .ok b) ↔
      ∀ item ∈ claimsInput, GovernableItem item) ∧
    ((∃ b, computeRealTaskBreak uuid4' claimsInput docId' = .ok b) ↔
      ∀ item ∈ claimsInput, GovernableItem item) ∧
    ∀ synthetic realTask, computeConditionBreak uuid4 claimsInput docId = .ok synthetic →
      computeRealTaskBreak uuid4' claimsInput docId' = .ok realTask →
        MeasuredBreaks claimsInput synthetic realTask := by
  simp only [computeConditionBreak_eq_ok, computeRealTaskBreak_eq_ok]
  refine ⟨by simp,by simp,?_⟩
  intro synthetic realTask hsynthetic hreal
  obtain ⟨-,rfl⟩ := hsynthetic
  obtain ⟨-,rfl⟩ := hreal
  exact measuredBreaks claimsInput

end Compared

section Decisions

variable {P Q : Nat → Prop} {f g : Nat → ConditionBreak}

/-- A value is made of what is computed before it. -/
theorem once_eq_ok {α β : Type} {x : Except PyError α} {a : α} {X : Prop}
    (hx : ∀ r, x = .ok r ↔ X ∧ r = a) (k : α → β) (z : β) :
    (do
      let r ← x
      pure (k r)) = .ok z ↔ X ∧ z = k a := by
  constructor
  · intro h
    obtain ⟨r,hr,h⟩ := bind_eq_ok.mp h
    obtain ⟨hX,rfl⟩ := (hx r).mp hr
    exact ⟨hX,(Except.ok.inj h).symm⟩
  · intro hparts
    obtain ⟨hX,rfl⟩ := hparts
    exact bind_eq_ok.mpr ⟨a,(hx a).mpr ⟨hX,rfl⟩,rfl⟩

/-- Two breaks of a seed, one after the other. -/
theorem both_eq_ok {β : Type} {x y : Except PyError ConditionBreak} {b c : ConditionBreak}
    {X Y : Prop} (hx : ∀ r, x = .ok r ↔ X ∧ r = b) (hy : ∀ r, y = .ok r ↔ Y ∧ r = c)
    (k : ConditionBreak → ConditionBreak → β) (z : β) : (do
      let r1 ← x
      let r2 ← y
      pure (k r1 r2)) = .ok z ↔ (X ∧ Y) ∧ z = k b c := by
  constructor
  · intro h
    obtain ⟨r1,h1,h⟩ := bind_eq_ok.mp h
    obtain ⟨r2,h2,h⟩ := bind_eq_ok.mp h
    obtain ⟨hX,rfl⟩ := (hx r1).mp h1
    obtain ⟨hY,rfl⟩ := (hy r2).mp h2
    exact ⟨⟨hX,hY⟩,(Except.ok.inj h).symm⟩
  · intro hparts
    obtain ⟨⟨hX,hY⟩,rfl⟩ := hparts
    exact bind_eq_ok.mpr ⟨b,(hx b).mpr ⟨hX,rfl⟩,bind_eq_ok.mpr ⟨c,(hy c).mpr ⟨hY,rfl⟩,rfl⟩⟩

/-- The arms agree where a break does not depend on them. -/
theorem runGate_eq_ok {compute : Nat → Nat → Except PyError ConditionBreak}
    (h : ∀ arm seed b, compute arm seed = .ok b ↔ P seed ∧ b = f seed) {summary : GateSummary} :
    runGate compute = .ok summary ↔ (∀ seed ∈ seeds, P seed) ∧
      summary = gateSummary (seeds.map (fun seed => (f seed,f seed))) := by
  have hresults (results : List (ConditionBreak × ConditionBreak)) :
      seeds.mapM (fun seed => (do
        let r1 ← compute 1 seed
        let r2 ← compute 2 seed
        pure (r1,r2))) = .ok results ↔ (∀ seed ∈ seeds, P seed) ∧
          results = seeds.map (fun seed => (f seed,f seed)) := by
    refine mapM_eq_ok_map (fun seed r => ?_)
    rw [both_eq_ok (h 1 seed) (h 2 seed) Prod.mk, and_self]
  exact once_eq_ok hresults gateSummary summary

theorem unsupported_gateSummary (h : ∀ seed, (f seed).unsupported = false) :
    (gateSummary (seeds.map (fun seed => (f seed,f seed)))).arm1Unsup = 0 ∧
      (gateSummary (seeds.map (fun seed => (f seed,f seed)))).arm2Unsup = 0 := by
  constructor
  all_goals
    rw [gateSummary]
    dsimp only
    rw [List.countP_map, List.countP_eq_zero]
    intro seed _
    simp [h seed]

theorem stable_gateSummary_iff (h : ∀ seed, (f seed).unsupported = false) :
    (gateSummary (seeds.map (fun seed => (f seed,f seed)))).decision = .mechanismStableCandidate ↔
      ∀ seed ∈ seeds, (f seed).breakTestPass = true := by
  have hunsup := unsupported_gateSummary h
  have hpass : (seeds.map (fun seed => (f seed,f seed))).countP (fun r => r.1.breakTestPass) = 3 ↔
      ∀ seed ∈ seeds, (f seed).breakTestPass = true := by
    rw [List.countP_map]
    exact List.countP_eq_length (l := seeds)
  have hpass' : (seeds.map (fun seed => (f seed,f seed))).countP (fun r => r.2.breakTestPass) =
      (seeds.map (fun seed => (f seed,f seed))).countP (fun r => r.1.breakTestPass) := by
    rw [List.countP_map, List.countP_map]
    rfl
  rw [gateSummary] at hunsup ⊢
  dsimp only at hunsup ⊢
  simp only [hunsup.1, hunsup.2, hpass', hpass, lt_irrefl, or_self, if_false]
  split
  · rename_i hall
    exact iff_of_true rfl hall
  · rename_i hall
    exact iff_of_false (fun h => nomatch h) hall

theorem computeMetricBridge_eq_ok {syn real : Nat → Except PyError ConditionBreak}
    (hsyn : ∀ seed b, syn seed = .ok b ↔ P seed ∧ b = f seed)
    (hreal : ∀ seed b, real seed = .ok b ↔ Q seed ∧ b = g seed) {bridge : MetricBridge} :
    computeMetricBridge syn real = .ok bridge ↔ (∀ seed ∈ seeds, P seed ∧ Q seed) ∧
      bridge = metricBridge (seeds.map (fun seed => bridgeEntry seed (f seed) (g seed))) := by
  have hentries (entries : List BridgeEntry) :
      seeds.mapM (fun seed => (do
        let s ← syn seed
        let r ← real seed
        pure (bridgeEntry seed s r))) = .ok entries ↔ (∀ seed ∈ seeds, P seed ∧ Q seed) ∧
          entries = seeds.map (fun seed => bridgeEntry seed (f seed) (g seed)) :=
    mapM_eq_ok_map (fun seed => both_eq_ok (hsyn seed) (hreal seed) (bridgeEntry seed))
  exact once_eq_ok hentries metricBridge bridge

/-- The bridge holds just where every break of the two metrics passes. -/
theorem allCo_iff {syn real : Nat → List Json} :
    (metricBridge (seeds.map (fun seed => bridgeEntry seed (unguardedBreak (syn seed))
      (narrativeBreak (real seed))))).allSeedsCoDirectional = true ↔ ∀ seed ∈ seeds,
        (unguardedBreak (syn seed)).breakTestPass = true ∧
          (narrativeBreak (real seed)).breakTestPass = true := by
  rw [metricBridge]
  dsimp only
  rw [List.all_map, List.all_eq_true]
  refine forall₂_congr (fun seed _ => ?_)
  have hentry : (bridgeEntry seed (unguardedBreak (syn seed))
      (narrativeBreak (real seed))).coDirectional = true ↔
        (unguardedBreak (syn seed)).absDelta < 0 ∧ (narrativeBreak (real seed)).absDelta < 0 :=
    decide_eq_true_iff
  rw [Function.comp_apply, hentry, neg_iff_pass_unguardedBreak, neg_iff_pass_narrativeBreak]

end Decisions

section CrossRepo

variable (claimSets realTaskClaimSets : Nat → List Json)

/-- What the analysis comes to. -/
def crossRepoDecision : ThreeLayerDecision :=
  let syn (seed : Nat) := unguardedBreak (claimSets seed)
  let real (seed : Nat) := narrativeBreak (realTaskClaimSets seed)
  computeThreeLayerDecision (gateSummary (seeds.map (fun seed => (syn seed,syn seed))))
    (gateSummary (seeds.map (fun seed => (real seed,real seed))))
    (metricBridge (seeds.map (fun seed => bridgeEntry seed (syn seed) (real seed))))

/-- With each seed some narrative of the synthetic claims would have been let through, and there is
a narrative among the real ones. -/
def NarrativesBlocked : Prop :=
  ∀ seed ∈ seeds,
    (∃ item ∈ claimSets seed, isNarrativeItem item = true ∧ isUnguarded item = true) ∧
      ∃ item ∈ realTaskClaimSets seed, isNarrativeItem item = true

theorem runFullCrossRepo_eq_ok (uuid4 : String → Nat → Nat → Nat → String)
    {d : ThreeLayerDecision} :
    runFullCrossRepo uuid4 claimSets realTaskClaimSets = .ok d ↔ (∀ seed ∈ seeds,
      (∀ item ∈ claimSets seed, GovernableItem item) ∧
        ∀ item ∈ realTaskClaimSets seed, GovernableItem item) ∧
      d = crossRepoDecision claimSets realTaskClaimSets := by
  have hsyn (run : String) (arm seed : Nat) (b : ConditionBreak) :=
    computeConditionBreak_eq_ok (uuid4 run arm seed) (claimSets seed)
      ("harness-" ++ toString seed) (b := b)
  have hreal (run : String) (arm seed : Nat) (b : ConditionBreak) :=
    computeRealTaskBreak_eq_ok (uuid4 run arm seed) (realTaskClaimSets seed)
      ("real-task-" ++ toString seed) (b := b)
  constructor
  · intro h
    obtain ⟨synSummary,hsynSummary,h⟩ := bind_eq_ok.mp h
    obtain ⟨realSummary,hrealSummary,h⟩ := bind_eq_ok.mp h
    obtain ⟨bridge,hbridge,h⟩ := bind_eq_ok.mp h
    obtain ⟨-,rfl⟩ := (runGate_eq_ok (hsyn "harness")).mp hsynSummary
    obtain ⟨-,rfl⟩ := (runGate_eq_ok (hreal "real-task")).mp hrealSummary
    obtain ⟨hall,rfl⟩ :=
      (computeMetricBridge_eq_ok (hsyn "bridge" 1) (hreal "bridge" 1)).mp hbridge
    exact ⟨hall,(Except.ok.inj h).symm⟩
  · intro hparts
    obtain ⟨hall,rfl⟩ := hparts
    have hsynSummary := (runGate_eq_ok (hsyn "harness")).mpr
      ⟨fun seed hseed => (hall seed hseed).1,rfl⟩
    have hrealSummary := (runGate_eq_ok (hreal "real-task")).mpr
      ⟨fun seed hseed => (hall seed hseed).2,rfl⟩
    have hbridge := (computeMetricBridge_eq_ok (hsyn "bridge" 1) (hreal "bridge" 1)).mpr ⟨hall,rfl⟩
    exact bind_eq_ok.mpr ⟨_,hsynSummary,bind_eq_ok.mpr ⟨_,hrealSummary,
      bind_eq_ok.mpr ⟨_,hbridge,rfl⟩⟩⟩

theorem layer1_crossRepoDecision :
    (crossRepoDecision claimSets realTaskClaimSets).layer1 = true := by
  have hsyn := unsupported_gateSummary (f := fun seed => unguardedBreak (claimSets seed))
    (fun _ => rfl)
  have hreal := unsupported_gateSummary (f := fun seed => narrativeBreak (realTaskClaimSets seed))
    (fun _ => rfl)
  have hnone := And.intro (Nat.add_eq_zero_iff.mpr hsyn) (Nat.add_eq_zero_iff.mpr hreal)
  exact decide_eq_true hnone

theorem upgradeAllowed_iff_pass :
    (crossRepoDecision claimSets realTaskClaimSets).globalClaimUpgradeAllowed = true ↔
      ∀ seed ∈ seeds, (unguardedBreak (claimSets seed)).breakTestPass = true ∧
        (narrativeBreak (realTaskClaimSets seed)).breakTestPass = true := by
  have hlayer1 := layer1_crossRepoDecision claimSets realTaskClaimSets
  have hlayer2 := stable_gateSummary_iff (f := fun seed => unguardedBreak (claimSets seed))
    (fun _ => rfl)
  have hlayer3 := stable_gateSummary_iff
    (f := fun seed => narrativeBreak (realTaskClaimSets seed)) (fun _ => rfl)
  have hall : (crossRepoDecision claimSets realTaskClaimSets).globalClaimUpgradeAllowed =
      ((crossRepoDecision claimSets realTaskClaimSets).layer1 &&
        (crossRepoDecision claimSets realTaskClaimSets).layer2 &&
        (crossRepoDecision claimSets realTaskClaimSets).layer3) := rfl
  rw [hall, hlayer1, Bool.true_and, Bool.and_eq_true, forall₂_and]
  exact and_congr (decide_eq_true_iff.trans hlayer2) (decide_eq_true_iff.trans hlayer3)

theorem coDirectional_crossRepoDecision :
    (crossRepoDecision claimSets realTaskClaimSets).coDirectional =
      (crossRepoDecision claimSets realTaskClaimSets).globalClaimUpgradeAllowed := by
  rw [Bool.eq_iff_iff, upgradeAllowed_iff_pass]
  exact allCo_iff

theorem syntheticProxyValid_eq (synSummary realSummary : GateSummary)
    (entries : List BridgeEntry) :
    (computeThreeLayerDecision synSummary realSummary (metricBridge entries)).syntheticProxyValid =
      (metricBridge entries).allSeedsCoDirectional := by
  rw [computeThreeLayerDecision, metricBridge]
  dsimp only
  cases entries.all (·.coDirectional) <;> decide

/-- The analysis of any claims: it comes to a decision exactly where the service can parse them
all, nothing in it is ever unsupported, it allows the upgrade exactly where the narratives were
blocked, and the bridge between the metrics never says otherwise. -/
theorem upgrade_allowed_iff (uuid4 : String → Nat → Nat → Nat → String) :
    ((∃ d, runFullCrossRepo uuid4 claimSets realTaskClaimSets = .ok d) ↔ ∀ seed ∈ seeds,
      (∀ item ∈ claimSets seed, GovernableItem item) ∧
        ∀ item ∈ realTaskClaimSets seed, GovernableItem item) ∧
    ∀ d, runFullCrossRepo uuid4 claimSets realTaskClaimSets = .ok d → d.layer1 = true ∧
      (d.globalClaimUpgradeAllowed = true ↔ NarrativesBlocked claimSets realTaskClaimSets) ∧
      d.coDirectional = d.globalClaimUpgradeAllowed ∧
      d.syntheticProxyValid = d.globalClaimUpgradeAllowed := by
  simp only [runFullCrossRepo_eq_ok]
  refine ⟨by simp,fun d hd => ?_⟩
  obtain ⟨-,rfl⟩ := hd
  have hco := coDirectional_crossRepoDecision claimSets realTaskClaimSets
  refine ⟨layer1_crossRepoDecision _ _,?_,hco,(syntheticProxyValid_eq _ _ _).trans hco⟩
  rw [upgradeAllowed_iff_pass]
  refine forall₂_congr (fun seed _ => ?_)
  exact and_congr (measuredBreaks (claimSets seed)).syntheticPass
    (measuredBreaks (realTaskClaimSets seed)).realTaskPass

end CrossRepo

end FinancialPdfReader
