import FinancialPdfReader.Algorithms.Requirements
import FinancialPdfReader.Services.ReasoningPatterns

namespace FinancialPdfReader.Engine

open Py Requirements

/-- What a claim must be to match; `None` and an empty list ask for nothing. -/
structure ClaimPropertyFilter where
  sectionKeys : Option (List String) := none
  materiality : Option (List String) := none
  recurring : Option Bool := none
  claimTypes : Option (List String) := none
  keywords : Option (List String) := none
  inspectDescription : String := ""

structure PatternDefinition where
  patternId : String
  nameZh : String
  observationTemplate : String
  requiredFilters : List ClaimPropertyFilter := []
  inspectDescription : String := ""

structure TriggerResult where
  status : PatternStatus
  sourceClaims : List Json := []
  missingKeys : List String := []
  generatedObservation : String := ""
  claimLevel : String := "interpretation"
  requiresReview : Bool := true
  inKeyFindings : Bool := false

/-- `not keys or c.get(field) in keys` -/
def oneOf (keys : Option (List String)) (c : Json) (field : String) : Except PyError Bool :=
  match keys.getD [] with
  | [] => .ok true
  | k :: ks => do
      let x ← c.get field .null
      pure ((k :: ks).any (fun k => x.isStr k))

/-- `None` and a missing field are recurring. -/
def recurs : Json → Bool
  | .null => true
  | x => x.truthy

def recursAs (recurring : Option Bool) (c : Json) : Except PyError Bool :=
  match recurring with
  | none => .ok true
  | some wanted => do
      let x ← c.get "recurring" .null
      pure (recurs x == wanted)

def mentionsOne (keywords : Option (List String)) (c : Json) : Except PyError Bool :=
  match keywords.getD [] with
  | [] => .ok true
  | kw :: kws => do
      let claim ← c.get "claim" (.str "")
      let text ← claim.lower
      pure ((kw :: kws).any (fun kw => isIn (lower kw) text))

/-- The criteria in turn; the first that fails ends the turn. -/
def ClaimPropertyFilter.matchesClaim (f : ClaimPropertyFilter) (c : Json) : Except PyError Bool :=
  [oneOf f.sectionKeys c "section_key",oneOf f.materiality c "materiality",
    recursAs f.recurring c,oneOf f.claimTypes c "claim_type",mentionsOne f.keywords c].allM id

def findMatchingClaims : (claims : List Json) → ClaimPropertyFilter → Except PyError (List Json)
  | [], _ => .ok []
  | c :: cs, f => do
      let matched ← f.matchesClaim c
      let result ← findMatchingClaims cs f
      pure (if matched then c :: result else result)

/-- What a set compares of a value; equal numbers are one member. -/
def hashKey : Json → Except PyError Json
  | .null => .ok .null
  | .bool b => .ok (.float (.finite (if b then 1 else 0)))
  | .int n => .ok (.float (.finite n))
  | .float x => .ok (.float x)
  | .str s => .ok (.str s)
  | .arr _ => .error .typeError
  | .obj _ => .error .typeError

/-- The first claim of every identifier. -/
def uniqueClaims : (seen : List Json) → List Json → Except PyError (List Json)
  | _, [] => .ok []
  | seen, c :: cs => do
      let cid ← c.get "claim_id" (.str "")
      let key ← hashKey cid
      if key ∈ seen then uniqueClaims seen cs
      else do
        let unique ← uniqueClaims (key :: seen) cs
        pure (c :: unique)

/-- The name under which a filter that nothing matches is reported. -/
def filterLabel (f : ClaimPropertyFilter) (i : Nat) : String :=
  if f.inspectDescription = "" then "filter_" ++ toString i else f.inspectDescription

def evaluatePattern (pattern : PatternDefinition) (claims : List Json) :
    Except PyError TriggerResult := do
  let matchedPerFilter ← pattern.requiredFilters.mapM (findMatchingClaims claims)
  let missing := ((pattern.requiredFilters.zipIdx.zip matchedPerFilter).filter
    (fun e => e.2.isEmpty)).map (fun e => filterLabel e.1.1 e.1.2)
  if !missing.isEmpty then pure { status := .insufficientEvidence, missingKeys := missing }
  else do
    let unique ← uniqueClaims [] matchedPerFilter.flatten
    if unique.isEmpty then pure { status := .notTriggered }
    else pure {
      status := .triggered
      sourceClaims := unique
      generatedObservation := pattern.observationTemplate }

/-- A claim as the callers hand it over: its identifier is a text, and so is its claim, unless it
has none. -/
structure ClaimDict where
  fields : List (String × Json)
  claimId : String
  hasId : fields.lookup "claim_id" = some (.str claimId)
  hasText : ∀ x ∈ fields.lookup "claim", ∃ t, x = .str t

namespace ClaimDict

variable (c : ClaimDict)

def toJson : Json := .obj c.fields

def field? (name : String) : Option Json := c.fields.lookup name

/-- The text of the claim, empty where it has none. -/
def text : String :=
  match c.field? "claim" with
  | some (.str t) => t
  | _ => ""

end ClaimDict

/-- What a filter asks of a claim. -/
structure Matches (f : ClaimPropertyFilter) (c : ClaimDict) : Prop where
  sectionKey : f.sectionKeys.getD [] = [] ∨
    ∃ k ∈ f.sectionKeys.getD [], c.field? "section_key" = some (.str k)
  materiality : f.materiality.getD [] = [] ∨
    ∃ k ∈ f.materiality.getD [], c.field? "materiality" = some (.str k)
  recurring : ∀ wanted ∈ f.recurring, recurs ((c.field? "recurring").getD .null) = wanted
  claimType : f.claimTypes.getD [] = [] ∨
    ∃ k ∈ f.claimTypes.getD [], c.field? "claim_type" = some (.str k)
  keyword : f.keywords.getD [] = [] ∨
    ∃ kw ∈ f.keywords.getD [], isIn (lower kw) (lower c.text) = true

instance (f : ClaimPropertyFilter) (c : ClaimDict) : Decidable (Matches f c) :=
  decidable_of_iff
    ((f.sectionKeys.getD [] = [] ∨
        ∃ k ∈ f.sectionKeys.getD [], c.field? "section_key" = some (.str k)) ∧
      (f.materiality.getD [] = [] ∨
        ∃ k ∈ f.materiality.getD [], c.field? "materiality" = some (.str k)) ∧
      (∀ wanted ∈ f.recurring, recurs ((c.field? "recurring").getD .null) = wanted) ∧
      (f.claimTypes.getD [] = [] ∨
        ∃ k ∈ f.claimTypes.getD [], c.field? "claim_type" = some (.str k)) ∧
      (f.keywords.getD [] = [] ∨
        ∃ kw ∈ f.keywords.getD [], isIn (lower kw) (lower c.text) = true))
    ⟨fun h => ⟨h.1,h.2.1,h.2.2.1,h.2.2.2.1,h.2.2.2.2⟩,fun h => ⟨h.1,h.2,h.3,h.4,h.5⟩⟩

section Criteria

variable (f : ClaimPropertyFilter) (c : ClaimDict)

theorem oneOf_toJson (keys : Option (List String)) (field : String) : ∃ met,
    oneOf keys c.toJson field = .ok met ∧
      (met = true ↔ keys.getD [] = [] ∨ ∃ k ∈ keys.getD [], c.field? field = some (.str k)) := by
  rw [oneOf]
  cases hkeys : keys.getD [] with
  | nil => exact ⟨true,rfl,by simp⟩
  | cons k ks =>
    refine ⟨_,rfl,?_⟩
    rw [List.any_eq_true, or_iff_right (List.cons_ne_nil k ks)]
    refine exists_congr fun key => and_congr_right fun _ => ?_
    rw [Json.isStr_iff, ClaimDict.field?]
    cases c.fields.lookup field with
    | none => simp
    | some x => simp

theorem recursAs_toJson : ∃ met, recursAs f.recurring c.toJson = .ok met ∧
    (met = true ↔ ∀ wanted ∈ f.recurring,
      recurs ((c.field? "recurring").getD .null) = wanted) := by
  unfold recursAs
  cases f.recurring with
  | none => exact ⟨true,rfl,by simp⟩
  | some wanted => exact ⟨_,rfl,by simp [ClaimDict.field?]⟩

theorem ClaimDict.get_claim : c.toJson.get "claim" (.str "") = .ok (.str c.text) := by
  rw [ClaimDict.toJson, Json.get_obj, ClaimDict.text, ClaimDict.field?]
  cases hclaim : c.fields.lookup "claim" with
  | none => rfl
  | some x =>
    obtain ⟨t,rfl⟩ := c.hasText x hclaim
    rfl

theorem mentionsOne_toJson : ∃ met, mentionsOne f.keywords c.toJson = .ok met ∧
    (met = true ↔ f.keywords.getD [] = [] ∨
      ∃ kw ∈ f.keywords.getD [], isIn (lower kw) (lower c.text) = true) := by
  rw [mentionsOne]
  cases hkeywords : f.keywords.getD [] with
  | nil => exact ⟨true,rfl,by simp⟩
  | cons kw kws =>
    rw [c.get_claim]
    refine ⟨_,rfl,?_⟩
    rw [List.any_eq_true, or_iff_right (List.cons_ne_nil kw kws)]

private theorem allM_ok (flags : List Bool) :
    (flags.map (Except.ok (ε := PyError))).allM id = .ok (flags.all id) := by
  induction flags with
  | nil => rfl
  | cons b bs ih =>
    cases b with
    | false => rfl
    | true => simpa [List.allM] using ih

/-- A claim dict is matched as the filter asks, and never makes the matcher raise. -/
theorem matchesClaim_toJson : f.matchesClaim c.toJson = .ok (decide (Matches f c)) := by
  obtain ⟨a1,h1,m1⟩ := oneOf_toJson c f.sectionKeys "section_key"
  obtain ⟨a2,h2,m2⟩ := oneOf_toJson c f.materiality "materiality"
  obtain ⟨a3,h3,m3⟩ := recursAs_toJson f c
  obtain ⟨a4,h4,m4⟩ := oneOf_toJson c f.claimTypes "claim_type"
  obtain ⟨a5,h5,m5⟩ := mentionsOne_toJson f c
  have hmatched : f.matchesClaim c.toJson = .ok ([a1,a2,a3,a4,a5].all id) := by
    rw [ClaimPropertyFilter.matchesClaim, h1, h2, h3, h4, h5]
    exact allM_ok [a1,a2,a3,a4,a5]
  rw [hmatched, Except.ok.injEq, Bool.eq_iff_iff, decide_eq_true_eq]
  simp only [List.all_cons, List.all_nil, id, Bool.and_eq_true, Bool.and_true]
  constructor
  · intro hall
    obtain ⟨hsection,hmateriality,hrecurring,htype,hkeyword⟩ := hall
    exact ⟨m1.mp hsection,m2.mp hmateriality,m3.mp hrecurring,m4.mp htype,m5.mp hkeyword⟩
  · intro hmatches
    exact ⟨m1.mpr hmatches.sectionKey,m2.mpr hmatches.materiality,m3.mpr hmatches.recurring,
      m4.mpr hmatches.claimType,m5.mpr hmatches.keyword⟩

end Criteria

/-- Every claim that matches, in order. -/
theorem findMatchingClaims_toJson (f : ClaimPropertyFilter) (claims : List ClaimDict) :
    findMatchingClaims (claims.map ClaimDict.toJson) f =
      .ok ((claims.filter (fun c => Matches f c)).map ClaimDict.toJson) := by
  induction claims with
  | nil => rfl
  | cons c cs ih =>
    rw [List.map_cons, findMatchingClaims, matchesClaim_toJson, ok_bind, ih, ok_bind,
      List.filter_cons]
    by_cases hmatches : Matches f c
    · simp [hmatches]
    · simp [hmatches]

/-- The first claim of every identifier that was not seen. -/
theorem uniqueClaims_toJson (seen : List String) (claims : List ClaimDict) :
    uniqueClaims (seen.map Json.str) (claims.map ClaimDict.toJson) =
      .ok ((firstOfEach ClaimDict.claimId seen claims).map ClaimDict.toJson) := by
  induction claims generalizing seen with
  | nil => rfl
  | cons c cs ih =>
    have hcid : c.toJson.get "claim_id" (.str "") = .ok (.str c.claimId) := by
      rw [ClaimDict.toJson, Json.get_obj, c.hasId]
      rfl
    have hseen : Json.str c.claimId ∈ seen.map Json.str ↔ c.claimId ∈ seen := by simp
    rw [List.map_cons, uniqueClaims, hcid, ok_bind, hashKey, ok_bind, firstOfEach]
    by_cases hmem : c.claimId ∈ seen
    · rw [if_pos (hseen.mpr hmem), if_pos hmem]
      exact ih seen
    · have hlater : uniqueClaims (Json.str c.claimId :: seen.map Json.str)
          (cs.map ClaimDict.toJson) =
            .ok ((firstOfEach ClaimDict.claimId (c.claimId :: seen) cs).map ClaimDict.toJson) :=
        ih (c.claimId :: seen)
      rw [if_neg (mt hseen.mp hmem), if_neg hmem, hlater]
      rfl

section Evaluate

variable (pattern : PatternDefinition) (claims : List ClaimDict)

/-- The labels of the filters that no claim matches. -/
def missingLabels : List String :=
  (unmet Matches pattern.requiredFilters claims).map (fun e => filterLabel e.1 e.2)

/-- All that the filters find, each identifier once. -/
def sources : List ClaimDict :=
  firstOfEach ClaimDict.claimId [] (gathered Matches pattern.requiredFilters claims)

private theorem missing_toJson (fs : List ClaimPropertyFilter) (start : Nat) :
    (((fs.zipIdx start).zip (fs.map (fun f => (claims.filter (fun c => Matches f c)).map
        ClaimDict.toJson))).filter (fun e => e.2.isEmpty)).map (fun e => filterLabel e.1.1 e.1.2) =
      ((fs.zipIdx start).filter (fun e => ¬∃ c ∈ claims, Matches e.1 c)).map
        (fun e => filterLabel e.1 e.2) := by
  induction fs generalizing start with
  | nil => rfl
  | cons f fs ih =>
    have hempty : ((claims.filter (fun c => Matches f c)).map ClaimDict.toJson).isEmpty =
        decide (¬∃ c ∈ claims, Matches f c) := by
      rw [List.isEmpty_map, isEmpty_filter_holds]
    rw [List.zipIdx_cons, List.map_cons, List.zip_cons_cons, List.filter_cons, List.filter_cons,
      hempty]
    split
    · rw [List.map_cons, List.map_cons, ih]
    · exact ih (start + 1)

/-- What the evaluation answers for claim dicts. -/
theorem evaluatePattern_toJson : evaluatePattern pattern (claims.map ClaimDict.toJson) =
    .ok (if AllMet Matches pattern.requiredFilters claims then
        if (sources pattern claims).isEmpty then { status := .notTriggered }
        else {
          status := .triggered
          sourceClaims := (sources pattern claims).map ClaimDict.toJson
          generatedObservation := pattern.observationTemplate }
      else { status := .insufficientEvidence, missingKeys := missingLabels pattern claims }) := by
  have hmatched : pattern.requiredFilters.mapM
      (findMatchingClaims (claims.map ClaimDict.toJson)) =
        .ok (pattern.requiredFilters.map
          (fun f => (claims.filter (fun c => Matches f c)).map ClaimDict.toJson)) :=
    mapM_eq_map (fun f _ => findMatchingClaims_toJson f claims)
  have hmissing : ((pattern.requiredFilters.zipIdx.zip (pattern.requiredFilters.map
      (fun f => (claims.filter (fun c => Matches f c)).map ClaimDict.toJson))).filter
        (fun e => e.2.isEmpty)).map (fun e => filterLabel e.1.1 e.1.2) =
      missingLabels pattern claims := missing_toJson claims pattern.requiredFilters 0
  have hunique : uniqueClaims [] (pattern.requiredFilters.map
      (fun f => (claims.filter (fun c => Matches f c)).map ClaimDict.toJson)).flatten =
        .ok ((sources pattern claims).map ClaimDict.toJson) := by
    have hflat : (pattern.requiredFilters.map
        (fun f => (claims.filter (fun c => Matches f c)).map ClaimDict.toJson)).flatten =
          (gathered Matches pattern.requiredFilters claims).map ClaimDict.toJson := by
      rw [gathered, List.map_flatMap]
      rfl
    rw [hflat]
    exact uniqueClaims_toJson [] _
  have hnone : (missingLabels pattern claims).isEmpty =
      decide (AllMet Matches pattern.requiredFilters claims) := by
    rw [Bool.eq_iff_iff, List.isEmpty_iff, missingLabels, List.map_eq_nil_iff, unmet_eq_nil_iff,
      decide_eq_true_eq]
  rw [evaluatePattern, hmatched, ok_bind]
  simp only [hmissing, hnone, hunique, ok_bind]
  by_cases hmet : AllMet Matches pattern.requiredFilters claims
  · simp [hmet, apply_ite]
  · simp [hmet]

end Evaluate

/-- `[c["claim_id"] for c in result.source_claims]` -/
def sourceIds (result : TriggerResult) : List Json :=
  result.sourceClaims.map (fun c => c.getD "claim_id" (.str ""))

/-- What the evaluation of a pattern answers. -/
structure Answers (pattern : PatternDefinition) (claims : List ClaimDict)
    (result : TriggerResult) : Prop where
  triggered_iff : result.status = .triggered ↔
    ∀ f ∈ pattern.requiredFilters, ∃ c ∈ claims, Matches f c
  otherwise : result.status ≠ .triggered →
    result.status = .insufficientEvidence ∧ result.missingKeys = missingLabels pattern claims
  distinct : result.status = .triggered → (sourceIds result).Nodup
  matching : result.status = .triggered → ∀ source ∈ result.sourceClaims,
    ∃ c ∈ claims, c.toJson = source ∧ ∃ f ∈ pattern.requiredFilters, Matches f c
  complete : result.status = .triggered → ∀ c ∈ claims,
    (∃ f ∈ pattern.requiredFilters, Matches f c) → Json.str c.claimId ∈ sourceIds result

section Results

variable {pattern : PatternDefinition} {claims others : List ClaimDict}

private theorem ids_toJson (found : List ClaimDict) :
    (found.map ClaimDict.toJson).map (fun c => c.getD "claim_id" (.str "")) =
      (found.map ClaimDict.claimId).map Json.str := by
  rw [List.map_map, List.map_map]
  apply List.map_congr_left
  intro c _
  simp [ClaimDict.toJson, Json.getD, Json.field?, c.hasId]

theorem mem_ids_sources {id : Json} :
    id ∈ ((sources pattern claims).map ClaimDict.claimId).map Json.str ↔
      ∃ c ∈ claims, (∃ f ∈ pattern.requiredFilters, Matches f c) ∧ Json.str c.claimId = id := by
  rw [List.mem_map]
  constructor
  · intro hparts
    obtain ⟨cid,hcid,rfl⟩ := hparts
    obtain ⟨c,hc,rfl⟩ := List.mem_map.mp (mem_keys_firstOfEach.mp hcid).2
    obtain ⟨hmem,hmatch⟩ := mem_gathered.mp hc
    exact ⟨c,hmem,hmatch,rfl⟩
  · intro hparts
    obtain ⟨c,hc,hmatch,rfl⟩ := hparts
    exact ⟨c.claimId,mem_keys_firstOfEach.mpr ⟨List.not_mem_nil,
      List.mem_map_of_mem (mem_gathered.mpr ⟨hc,hmatch⟩)⟩,rfl⟩

/-- A pattern with filters that are all matched is triggered by what they find. -/
theorem evaluatePattern_of_allMet (hne : pattern.requiredFilters ≠ [])
    (hmet : AllMet Matches pattern.requiredFilters claims) :
    evaluatePattern pattern (claims.map ClaimDict.toJson) = .ok {
      status := .triggered
      sourceClaims := (sources pattern claims).map ClaimDict.toJson
      generatedObservation := pattern.observationTemplate } := by
  have hsome : (sources pattern claims).isEmpty = false := by
    obtain ⟨c,hc⟩ := List.exists_mem_of_ne_nil _ (hmet.gathered_ne_nil hne)
    have hid : c.claimId ∈ (sources pattern claims).map ClaimDict.claimId :=
      mem_keys_firstOfEach.mpr ⟨List.not_mem_nil,List.mem_map_of_mem hc⟩
    rw [List.isEmpty_eq_false_iff]
    intro hnil
    rw [hnil] at hid
    exact List.not_mem_nil hid
  rw [evaluatePattern_toJson, if_pos hmet, hsome]
  rfl

theorem evaluatePattern_of_not_allMet
    (hmet : ¬AllMet Matches pattern.requiredFilters claims) :
    evaluatePattern pattern (claims.map ClaimDict.toJson) = .ok
      { status := .insufficientEvidence, missingKeys := missingLabels pattern claims } := by
  rw [evaluatePattern_toJson, if_neg hmet]

theorem answers_of_evaluatePattern (hne : pattern.requiredFilters ≠ []) {result : TriggerResult}
    (h : evaluatePattern pattern (claims.map ClaimDict.toJson) = .ok result) :
    Answers pattern claims result := by
  by_cases hmet : AllMet Matches pattern.requiredFilters claims
  · obtain rfl := Except.ok.inj ((evaluatePattern_of_allMet hne hmet).symm.trans h)
    refine ⟨iff_of_true rfl hmet,fun hno => absurd rfl hno,?_,?_,?_⟩
    · intro _
      rw [sourceIds, ids_toJson]
      exact nodup_keys_firstOfEach.map (fun _ _ => Json.str.inj)
    · intro _ source hsource
      obtain ⟨c,hc,rfl⟩ := List.mem_map.mp hsource
      obtain ⟨hmem,hmatch⟩ := mem_gathered.mp (firstOfEach_sublist.subset hc)
      exact ⟨c,hmem,rfl,hmatch⟩
    · intro _ c hc hmatch
      rw [sourceIds, ids_toJson]
      exact mem_ids_sources.mpr ⟨c,hc,hmatch,rfl⟩
  · obtain rfl := Except.ok.inj ((evaluatePattern_of_not_allMet hmet).symm.trans h)
    exact ⟨iff_of_false nofun hmet,fun _ => ⟨rfl,rfl⟩,nofun,nofun,nofun⟩

/-- Which claims are cited does not depend on their order. -/
theorem sourceIds_perm (hne : pattern.requiredFilters ≠ []) {result same : TriggerResult}
    (hperm : others.Perm claims)
    (h : evaluatePattern pattern (claims.map ClaimDict.toJson) = .ok result)
    (hsame : evaluatePattern pattern (others.map ClaimDict.toJson) = .ok same) :
    same.status = result.status ∧ ∀ id, id ∈ sourceIds same ↔ id ∈ sourceIds result := by
  by_cases hmet : AllMet Matches pattern.requiredFilters claims
  · have hmet' : AllMet Matches pattern.requiredFilters others := hmet.mono hperm.symm.subset
    obtain rfl := Except.ok.inj ((evaluatePattern_of_allMet hne hmet).symm.trans h)
    obtain rfl := Except.ok.inj ((evaluatePattern_of_allMet hne hmet').symm.trans hsame)
    refine ⟨rfl,?_⟩
    intro id
    rw [sourceIds, sourceIds, ids_toJson, ids_toJson, mem_ids_sources, mem_ids_sources]
    simp only [hperm.mem_iff]
  · have hmet' : ¬AllMet Matches pattern.requiredFilters others :=
      fun hothers => hmet (hothers.mono hperm.subset)
    obtain rfl := Except.ok.inj ((evaluatePattern_of_not_allMet hmet).symm.trans h)
    obtain rfl := Except.ok.inj ((evaluatePattern_of_not_allMet hmet').symm.trans hsame)
    exact ⟨rfl,fun _ => Iff.rfl⟩

/-- A pattern with filters answers every list of claims as its filters ask; further claims never
undo a trigger, and the order of the claims plays no part. -/
theorem evaluatePattern_answers (pattern : PatternDefinition)
    (hne : pattern.requiredFilters ≠ []) (claims : List ClaimDict) :
    ∃ result, evaluatePattern pattern (claims.map ClaimDict.toJson) = .ok result ∧
      Answers pattern claims result ∧
      (∀ more : List ClaimDict, result.status = .triggered → ∃ longer,
        evaluatePattern pattern ((claims ++ more).map ClaimDict.toJson) = .ok longer ∧
          longer.status = .triggered) ∧
      ∀ others : List ClaimDict, others.Perm claims → ∃ same,
        evaluatePattern pattern (others.map ClaimDict.toJson) = .ok same ∧
          same.status = result.status ∧ ∀ id, id ∈ sourceIds same ↔ id ∈ sourceIds result := by
  have hresult := evaluatePattern_toJson pattern claims
  refine ⟨_,hresult,answers_of_evaluatePattern hne hresult,?_,?_⟩
  · intro more htriggered
    have hmet : AllMet Matches pattern.requiredFilters claims :=
      (answers_of_evaluatePattern hne hresult).triggered_iff.mp htriggered
    exact ⟨_,evaluatePattern_of_allMet hne (hmet.mono (List.subset_append_left claims more)),rfl⟩
  · intro others hperm
    have hsame := evaluatePattern_toJson pattern others
    exact ⟨_,hsame,sourceIds_perm hne hperm hresult hsame⟩

end Results

def amountFilter : ClaimPropertyFilter where
  sectionKeys := some ["key_financials"]
  recurring := some true
  keywords := some ["億"]

def revenueClaim : ClaimDict where
  fields := [("claim_id",.str "c1"),("claim",.str "營收 12 億元"),
    ("section_key",.str "key_financials")]
  claimId := "c1"
  hasId := rfl
  hasText _ hx := ⟨_,(Option.some.inj hx).symm⟩

theorem evaluatePattern_answers_amount : ∃ result,
    evaluatePattern ⟨"amount","","",[amountFilter],""⟩ ([revenueClaim].map ClaimDict.toJson) =
      .ok result ∧
      Answers ⟨"amount","","",[amountFilter],""⟩ [revenueClaim] result ∧
      result.status = .triggered := by
  obtain ⟨result,hresult,hanswers,-⟩ :=
    evaluatePattern_answers ⟨"amount","","",[amountFilter],""⟩ (by simp) [revenueClaim]
  refine ⟨result,hresult,hanswers,hanswers.triggered_iff.mpr ?_⟩
  decide +kernel

end FinancialPdfReader.Engine
