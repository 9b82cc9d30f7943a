import FinancialPdfReader.Algorithms.Requirements
import FinancialPdfReader.Models.Database
import FinancialPdfReader.Python.Dict
import FinancialPdfReader.ReasoningPatterns.Patterns

namespace FinancialPdfReader

open Py

/-- All criteria that the filter sets must hold of the claim. -/
def ClaimPropertyFilter.matchesClaim (f : ClaimPropertyFilter) (c : AIClaim String) : Bool :=
  (f.sectionKeys.isEmpty || f.sectionKeys.contains c.sectionKey) &&
  (f.materiality.isEmpty || f.materiality.contains c.materiality) &&
  (f.recurring.isNone || f.recurring == some c.recurring) &&
  (f.claimTypes.isEmpty || f.claimTypes.contains c.claimType) &&
  (f.keywords.isEmpty || f.keywords.any (fun kw => isIn (lower kw) (lower c.claim)))

def findMatchingClaims (claims : List (AIClaim String)) (f : ClaimPropertyFilter) :
    List (AIClaim String) :=
  claims.filter f.matchesClaim

inductive PatternStatus where
  | triggered | notTriggered | insufficientEvidence
  deriving DecidableEq, Repr

/-- The outcome of one pattern. -/
structure TriggerResult where
  status : PatternStatus
  sourceClaims : List (AIClaim String)
  missingKeys : List String
  generatedObservation : String

/-- The name under which a filter that nothing matches is reported. -/
def filterLabel (f : ClaimPropertyFilter) (i : Nat) : String :=
  if f.inspectDescription = "" then "filter_" ++ toString i else f.inspectDescription

/-- The first claim of every identifier. -/
def uniqueClaims : (seen : List String) → List (AIClaim String) → List (AIClaim String)
  | _, [] => []
  | seen, c :: cs =>
      if seen.contains c.claimId then uniqueClaims seen cs
      else c :: uniqueClaims (c.claimId :: seen) cs

def evaluatePattern (pattern : PatternDefinition) (claims : List (AIClaim String)) :
    TriggerResult :=
  let missing := (pattern.requiredFilters.zipIdx.filter
    (fun e => (findMatchingClaims claims e.1).isEmpty)).map (fun e => filterLabel e.1 e.2)
  let unique := uniqueClaims [] (pattern.requiredFilters.flatMap (findMatchingClaims claims))
  if !missing.isEmpty then ⟨.insufficientEvidence,[],missing,""⟩
  else if unique.isEmpty then ⟨.notTriggered,[],[],""⟩
  else ⟨.triggered,unique,[],pattern.observationTemplate⟩

structure PatternRunResult where
  patternId : String
  nameZh : String
  status : PatternStatus
  generatedObservation : String
  sourceClaimIds : List String
  missingEvidenceKeys : List String
  requiresReview : Bool

/-- What is saved of one run. -/
structure PatternRunReport where
  runId : String
  documentId : String
  stockId : String
  period : String
  results : List PatternRunResult
  triggeredCount : Nat
  notTriggeredCount : Nat
  insufficientCount : Nat
  createdAt : Nat

structure SourceClaim where
  claimId : String
  claim : String
  sectionKey : String
  materiality : String

/-- One result as the answer shows it. -/
structure PatternView where
  result : PatternRunResult
  claimLevel : String := "interpretation"
  inKeyFindings : Bool := false
  sourceClaims : List SourceClaim

def patternResult (claims : List (AIClaim String)) (pattern : PatternDefinition) :
    PatternRunResult :=
  let trigger := evaluatePattern pattern claims
  { patternId := pattern.patternId
    nameZh := pattern.nameZh
    status := trigger.status
    generatedObservation := trigger.generatedObservation
    sourceClaimIds := trigger.sourceClaims.map (·.claimId)
    missingEvidenceKeys := trigger.missingKeys
    requiresReview := trigger.status == .triggered }

/-- `{c["claim_id"]: c for c in clean_claims}` -/
def claimLookup (claims : List (AIClaim String)) : Dict String (AIClaim String) :=
  claims.foldl (fun found c => found.set c.claimId c) Dict.empty

def sourceClaim (claims : List (AIClaim String)) (claimId : String) : SourceClaim :=
  match (claimLookup claims).get? claimId with
  | none => ⟨claimId,"","",""⟩
  | some c => ⟨claimId,c.claim,Choices.text c.sectionKey,Choices.text c.materiality⟩

/-- The run over the latest report of a document: what is saved and what is answered. `runs`
holds the runs saved so far. -/
def runPatternAnalysis (runId : String) (now : Nat) (db : Database)
    (runs : List PatternRunReport) (documentId : String) :
    Except PyError (List PatternRunReport × PatternRunReport × List PatternView) :=
  match db.document? documentId with
  | none => .error (.valueError ("Document not found: " ++ documentId))
  | some doc =>
      if doc.status ≠ .completed then
        .error (.valueError ("Document " ++ documentId ++ " not ingested (status=" ++
          Choices.text doc.status ++ ")"))
      else match db.latestReport? documentId with
      | none => .error (.valueError "No AIReport found for this document. Run /summary first.")
      | some report => do
          let cleanClaims := report.claims.filter (fun c => !c.contaminated)
          let results := patternRegistry.map (patternResult cleanClaims)
          let run : PatternRunReport := {
            runId
            documentId
            stockId := doc.stockId
            period := doc.period
            results
            triggeredCount := results.countP (fun r => r.status == .triggered)
            notTriggeredCount := results.countP (fun r => r.status == .notTriggered)
            insufficientCount := results.countP (fun r => r.status == .insufficientEvidence)
            createdAt := now }
          let saved ← Database.saveNew runs (·.runId) "run_id" run
          pure (saved,run,results.map (fun r => {
            result := r
            sourceClaims := r.sourceClaimIds.map (sourceClaim cleanClaims) }))

theorem uniqueClaims_eq_firstOfEach (seen : List String) (claims : List (AIClaim String)) :
    uniqueClaims seen claims = Requirements.firstOfEach (fun c => c.claimId) seen claims := by
  induction claims generalizing seen with
  | nil => rfl
  | cons c cs ih =>
    rw [uniqueClaims, Requirements.firstOfEach, ih, ih]
    simp only [List.contains_iff_mem]

theorem mem_uniqueClaims {seen : List String} {claims : List (AIClaim String)}
    {c : AIClaim String} (h : c ∈ uniqueClaims seen claims) : c ∈ claims := by
  rw [uniqueClaims_eq_firstOfEach] at h
  exact Requirements.firstOfEach_sublist.subset h

section Filters

variable (fs : List ClaimPropertyFilter) (claims : List (AIClaim String))

theorem findMatchingClaims_eq_filter (f : ClaimPropertyFilter) : findMatchingClaims claims f =
    claims.filter (fun c => decide (f.matchesClaim c = true)) := by
  simp [findMatchingClaims]

theorem foundClaims_eq_gathered : fs.flatMap (findMatchingClaims claims) =
    Requirements.gathered (fun f c => ClaimPropertyFilter.matchesClaim f c = true) fs claims :=
  List.flatMap_congr (fun f _ => findMatchingClaims_eq_filter claims f)

theorem missingFilters_eq_unmet :
    fs.zipIdx.filter (fun e => (findMatchingClaims claims e.1).isEmpty) =
      Requirements.unmet (fun f c => ClaimPropertyFilter.matchesClaim f c = true) fs claims := by
  apply List.filter_congr
  intro e _
  rw [findMatchingClaims_eq_filter]
  exact @Requirements.isEmpty_filter_holds _ _
    (fun (f : ClaimPropertyFilter) c => f.matchesClaim c = true) _ e.1 claims

end Filters

/-- A pattern is supported only by claims that it was given. -/
theorem sourceClaims_of_evaluatePattern {pattern : PatternDefinition}
    {claims : List (AIClaim String)} {c : AIClaim String}
    (h : c ∈ (evaluatePattern pattern claims).sourceClaims) : c ∈ claims := by
  rw [evaluatePattern] at h
  split at h
  · contradiction
  · split at h
    · contradiction
    · obtain ⟨f,-,hmatch⟩ := List.mem_flatMap.mp (mem_uniqueClaims h)
      exact (List.mem_filter.mp hmatch).1

/-- What a run makes of a document depends on the claims of its latest report only through
those that are not contaminated. -/
theorem runPatternAnalysis_congr {db db' : Database} {documentId : String}
    {report report' : AIReport} (hdoc : db.document? documentId = db'.document? documentId)
    (hreport : db.latestReport? documentId = some report)
    (hreport' : db'.latestReport? documentId = some report')
    (hclean : report.claims.filter (fun c => !c.contaminated) =
      report'.claims.filter (fun c => !c.contaminated))
    (runId : String) (now : Nat) (runs : List PatternRunReport) :
    runPatternAnalysis runId now db runs documentId =
      runPatternAnalysis runId now db' runs documentId := by
  simp only [runPatternAnalysis, hdoc, hreport, hreport', hclean]

end FinancialPdfReader
