import FinancialPdfReader.Apis.Citations
import FinancialPdfReader.Static.Analyses

namespace FinancialPdfReader

open Py Pool

section Texts

theorem textOr_str {key s : String} {data : Json} (h : data.field? key = some (.str s)) :
    textOr key "" data = s := by
  rw [textOr, isTrue, textAt, h]
  by_cases hs : s = ""
  · subst hs
    rfl
  · have htrue : jsTruthy (some (Json.str s)) = true := by simpa [jsTruthy] using hs
    rw [htrue]
    rfl

theorem jsItems_str (texts : List String) : jsItems (texts.map .str) = texts := by
  induction texts with
  | nil => rfl
  | cons text texts ih =>
    rw [List.map_cons, jsItems, ih]
    · rfl
    · exact fun h => nomatch h

end Texts

section Patterns

def patternView (claims : List (AIClaim String)) (pattern : PatternDefinition) : PatternView :=
  let result := patternResult claims pattern
  { result
    sourceClaims := result.sourceClaimIds.map (sourceClaim claims) }

/-- The card of a pattern that is triggered. -/
def triggeredCard (idx : Nat) (v : PatternView) : String :=
  "<div class=\"pat-item pi-triggered\">\n      <div class=\"pat-item-header\">" ++
    badge "b-amber" "⚠ 觸發" ++ "<span class=\"pat-name\">" ++ v.result.nameZh ++ "</span></div>" ++
    ("<div class=\"pat-obs\">" ++ v.result.generatedObservation ++ "</div>" ++
      patternClaims idx (v.sourceClaims.map SourceClaim.serialize) ++ patternGuard) ++ "</div>"

/-- The card of a pattern that is short of evidence: it says what is missing, and nothing else. -/
def shortCard (nameZh : String) (missing : List String) : String :=
  "<div class=\"pat-item pi-insufficient\">\n      <div class=\"pat-item-header\">" ++
    badge "b-gray" "— 證據不足" ++ "<span class=\"pat-name\">" ++ nameZh ++ "</span></div>" ++
    ("<div class=\"pat-missing\">缺少必要 evidence：" ++ "；".intercalate missing ++ "</div>") ++
    "</div>"

theorem patternItem_triggered {v : PatternView} (h : v.result.status = .triggered) (idx : Nat) :
    patternItem idx v.serialize = triggeredCard idx v := by
  obtain ⟨⟨patternId,nameZh,status,observation,ids,missing,review⟩,level,inKey,sources⟩ := v
  obtain rfl : status = .triggered := h
  rfl

theorem patternItem_short {v : PatternView} (h : v.result.status = .insufficientEvidence)
    (hmissing : v.result.missingEvidenceKeys ≠ []) (idx : Nat) :
    patternItem idx v.serialize = shortCard v.result.nameZh v.result.missingEvidenceKeys := by
  obtain ⟨⟨patternId,nameZh,status,observation,ids,missing,review⟩,level,inKey,sources⟩ := v
  obtain rfl : status = .insufficientEvidence := h
  obtain ⟨key,keys,rfl⟩ := List.exists_cons_of_ne_nil hmissing
  have hcard (v : PatternView) (hv : v = ⟨⟨patternId,nameZh,.insufficientEvidence,observation,ids,
      key :: keys,review⟩,level,inKey,sources⟩) : patternItem idx v.serialize =
        shortCard nameZh (jsItems ((key :: keys).map .str)) := by
    subst hv
    rfl
  have hitems := jsItems_str (key :: keys)
  exact (hcard _ rfl).trans (congrArg (shortCard nameZh) hitems)

/-- What is shown of a pattern: where each of its filters finds a claim, the observation over
stored claims of the report, and otherwise what is missing. -/
inductive ShowsPattern (claims : List (AIClaim String)) (pattern : PatternDefinition) (idx : Nat)
    (card : String) : Prop where
  | triggered (v : PatternView) (hcard : card = triggeredCard idx v)
      (hname : v.result.nameZh = pattern.nameZh) (htriggers : Triggers pattern claims)
      (hobservation : v.result.generatedObservation = pattern.observationTemplate)
      (hsome : v.sourceClaims ≠ [])
      (hsources : ∀ c ∈ v.sourceClaims, ∃ claim ∈ claims, c = ownView claim)
  | short (missing : List String) (hcard : card = shortCard pattern.nameZh missing)
      (hshort : ¬ Triggers pattern claims) (hmissing : missing ≠ [])

variable {claims : List (AIClaim String)} {pattern : PatternDefinition}

theorem missing_of_short (h : (evaluatePattern pattern claims).status = .insufficientEvidence) :
    (evaluatePattern pattern claims).missingKeys ≠ [] := by
  rw [evaluatePattern] at h ⊢
  split at h
  · next hmissing =>
    rw [if_pos hmissing]
    simpa using hmissing
  · split at h
    · cases h
    · cases h

/-- Under the identifier of a claim a claim is shown, the same one or a later one. -/
theorem sourceClaim_stored {c : AIClaim String} (hc : c ∈ claims) :
    ∃ claim ∈ claims, sourceClaim claims c.claimId = ownView claim := by
  have hget : (claimLookup claims).get? c.claimId =
      claims.reverse.find? (fun d => d.claimId = c.claimId) := Dict.get?_foldl_set _ _ _
  cases hlast : claims.reverse.find? (fun d => d.claimId = c.claimId) with
  | none =>
    have hno := List.find?_eq_none.mp hlast c (List.mem_reverse.mpr hc)
    exact absurd (decide_eq_true rfl) hno
  | some d =>
    have hid : d.claimId = c.claimId := by simpa using List.find?_some hlast
    refine ⟨d,List.mem_reverse.mp (List.mem_of_find?_eq_some hlast),?_⟩
    rw [sourceClaim, hget, hlast, ownView, hid]

/-- A pattern is triggered or short of evidence, and so it is shown. -/
theorem showsPattern (hpattern : pattern ∈ patternRegistry) (idx : Nat) :
    ShowsPattern claims pattern idx
      (patternItem idx (patternView claims pattern).serialize) := by
  have hne := patternRegistry_requiredFilters pattern hpattern
  by_cases htriggers : Triggers pattern claims
  · have heval := evaluatePattern_of_triggers hne htriggers
    have hstatus : (patternView claims pattern).result.status = .triggered := by
      simp only [patternView, patternResult, heval]
    refine .triggered _ (patternItem_triggered hstatus idx) rfl htriggers ?_ ?_ ?_
    · simp only [patternView, patternResult, heval]
    · obtain ⟨f,hf⟩ := List.exists_mem_of_ne_nil _ hne
      obtain ⟨c,hc,hmatch⟩ := htriggers f hf
      have hfound : c ∈ pattern.requiredFilters.flatMap (findMatchingClaims claims) :=
        List.mem_flatMap.mpr ⟨f,hf,List.mem_filter.mpr ⟨hc,hmatch⟩⟩
      have hid : c.claimId ∈ (evaluatePattern pattern claims).sourceClaims.map (·.claimId) := by
        rw [heval]
        exact mem_ids_uniqueClaims.mpr
          ⟨List.not_mem_nil,List.mem_map_of_mem (f := (·.claimId)) hfound⟩
      exact List.ne_nil_of_mem (List.mem_map_of_mem (f := sourceClaim claims) hid)
    · intro c hc
      obtain ⟨id,hid,rfl⟩ := List.mem_map.mp hc
      obtain ⟨claim,hclaim,rfl⟩ := List.mem_map.mp hid
      exact sourceClaim_stored (sourceClaims_of_evaluatePattern hclaim)
  · have hstatus := evaluatePattern_of_not_triggers htriggers
    have hmissing := missing_of_short hstatus
    exact .short _ (patternItem_short hstatus hmissing idx) htriggers hmissing

theorem not_notTriggered (hpattern : pattern ∈ patternRegistry) :
    (patternResult claims pattern).status ≠ .notTriggered := by
  by_cases htriggers : Triggers pattern claims
  · have heval := evaluatePattern_of_triggers (patternRegistry_requiredFilters pattern hpattern)
      htriggers
    simp only [patternResult, heval]
    exact fun h => nomatch h
  · rw [patternResult, evaluatePattern_of_not_triggers htriggers]
    exact fun h => nomatch h

/-- The page of a run of the patterns: one card for each pattern of the registry, in its order. -/
structure ShowsPatterns (html : String) (run : PatternRunReport) (claims : List (AIClaim String)) :
    Prop where
  page : html = patternHeading run.stockId run.period ++
    patternStats (toString run.triggeredCount) (toString run.insufficientCount) "0" ++
    "<div class=\"pat-list\">" ++ String.join (patternRegistry.mapIdx
      (fun idx pattern => patternItem idx (patternView claims pattern).serialize)) ++ "</div>"
  cards : ∀ idx, ∀ pattern ∈ patternRegistry,
    ShowsPattern claims pattern idx (patternItem idx (patternView claims pattern).serialize)
  counts : run.triggeredCount + run.insufficientCount = patternRegistry.length

theorem count_triggered_add_insufficient {results : List PatternRunResult}
    (h : ∀ r ∈ results, r.status ≠ .notTriggered) :
    results.countP (fun r => r.status == .triggered) +
      results.countP (fun r => r.status == .insufficientEvidence) = results.length := by
  have hrest : results.countP (fun r => r.status == .insufficientEvidence) =
      results.countP (fun r => ¬ r.status == .triggered) := by
    refine List.countP_congr (fun r hr => ?_)
    have hno := h r hr
    cases hstatus : r.status with
    | triggered | insufficientEvidence => simp
    | notTriggered => exact absurd hstatus hno
  rw [hrest]
  exact (List.length_eq_countP_add_countP _).symm

theorem showsPatterns {run : PatternRunReport} {report : AIReport}
    (hresults : run.results = patternRegistry.map (patternResult report.cleanClaims))
    (hcounted : CountedResults run) :
    ShowsPatterns (renderPatterns (.obj (patternAnswer run (patternViews report run)))) run
      report.cleanClaims := by
  have hstatus : ∀ r ∈ run.results, r.status ≠ .notTriggered := by
    intro r hr
    rw [hresults] at hr
    obtain ⟨pattern,hpattern,rfl⟩ := List.mem_map.mp hr
    exact not_notTriggered hpattern
  have hnone : run.notTriggeredCount = 0 := by
    rw [hcounted.notTriggered, List.countP_eq_zero]
    intro r hr
    simpa using hstatus r hr
  have hviews : patternViews report run = patternRegistry.map (patternView report.cleanClaims) := by
    rw [patternViews, hresults, List.map_map]
    rfl
  refine ⟨?_,fun idx pattern hpattern => showsPattern hpattern idx,?_⟩
  · have hstock : textOr "stock_id" "" (.obj (patternAnswer run (patternViews report run))) =
        run.stockId := textOr_str rfl
    have hperiod : textOr "period" "" (.obj (patternAnswer run (patternViews report run))) =
        run.period := textOr_str rfl
    have hcards : (listUnder "results" (.obj (patternAnswer run (patternViews report run)))) =
        (patternViews report run).map PatternView.serialize := rfl
    have hzero : textAt "not_triggered_count" (.obj (patternAnswer run (patternViews report run))) =
        toString (run.notTriggeredCount : ℤ) := rfl
    have hindexed : (patternRegistry.map
        (PatternView.serialize ∘ patternView report.cleanClaims)).mapIdx patternItem =
        patternRegistry.mapIdx (fun idx pattern =>
          patternItem idx (patternView report.cleanClaims pattern).serialize) :=
      List.mapIdx_eq_iff.mpr (fun idx => by simp [Function.comp_def])
    rw [renderPatterns, hstock, hperiod, hcards, hzero, hnone, hviews, List.map_map, hindexed]
    rfl
  · rw [hcounted.triggered, hcounted.insufficient, count_triggered_add_insufficient hstatus,
      hresults, List.length_map]

end Patterns

section Coverage

/-- The page of an audit of the disclosures: one card for each of them, in the order of the
registry, and the counts of three of the five statuses. -/
structure ShowsCoverage (html : String) (r : DisclosureCoverageReport) : Prop where
  page : html = coverageHeading r.stockId r.period ++
    coverageStats (toString (r.items.countP (fun i => i.status == .found)))
      (toString (r.items.countP (fun i => i.status == .foundIncomplete)))
      (toString (r.items.countP (fun i => i.status == .notFound))) "14" ++
    "<div class=\"cov-grid\">" ++ String.join (r.items.map (fun i => coverageItem i.toJson)) ++
    "</div>"
  labels : r.items.map (·.labelZh) = disclosureRegistry.map (·.2)
  icons : ∀ i ∈ r.items, ∃ icon, covStatus.lookup (Choices.text i.status) = some icon

theorem showsCoverage {r : DisclosureCoverageReport} (hcomplete : CompleteReport r)
    (hcounted : CountedItems r) : ShowsCoverage (renderCoverage (.obj (coverageAnswer r))) r := by
  have hlength : r.items.length = 14 := by
    rw [← List.length_map (fun i : DisclosureCoverageItem => (i.key,i.labelZh)), hcomplete.items]
    rfl
  have htotal : r.totalCount = 14 := hcounted.total.trans hlength
  refine ⟨?_,?_,fun i _ => ?_⟩
  · have hstock : textOr "stock_id" "" (.obj (coverageAnswer r)) = r.stockId := textOr_str rfl
    have hperiod : textOr "period" "" (.obj (coverageAnswer r)) = r.period := textOr_str rfl
    have hitems : listUnder "items" (.obj (coverageAnswer r)) =
        r.items.map DisclosureCoverageItem.toJson := rfl
    have hall : textAt "total_count" (.obj (coverageAnswer r)) = toString (r.totalCount : ℤ) := rfl
    rw [renderCoverage, hstock, hperiod, hitems, hall, htotal, ← hcounted.found,
      ← hcounted.foundIncomplete, ← hcounted.notFound, List.map_map]
    rfl
  · have hentries := congrArg (List.map Prod.snd) hcomplete.items
    rwa [List.map_map] at hentries
  · cases i.status
    all_goals exact ⟨_,rfl⟩

end Coverage

section Trend

/-- The page of a trend: a table with a column for each period and a single row, which says that
no indicator was found. -/
def emptyTrendPage (r : TrendReport) : String :=
  htmlIf r.r7Warning (trendWarning (" ".intercalate r.governanceFlags)) ++
    trendHead (r.periods.map .str) ++ noKpiRow (r.periods.length + 1) ++
    trendFoot r.trendReportId

theorem renderTrendStrip_empty {r : TrendReport} (hnone : r.kpiTrends = []) :
    renderTrendStrip (.obj r.serialize) = emptyTrendPage r := by
  have hperiods : listUnder "periods" (.obj r.serialize) = r.periods.map .str := rfl
  have hflags : listUnder "governance_flags" (.obj r.serialize) =
      r.governanceFlags.map .str := rfl
  have hwarning : isTrue "r7_warning" (.obj r.serialize) = r.r7Warning := rfl
  have hkpis : listUnder "kpi_trends" (.obj r.serialize) = [] := by
    rw [TrendReport.serialize, hnone]
    rfl
  have hid : textAt "trend_report_id" (.obj r.serialize) = r.trendReportId := rfl
  have hrows : String.join (([] : List Json).map (trendRow (r.periods.map .str))) = "" := rfl
  rw [renderTrendStrip, hperiods, hflags, hwarning, hkpis, hid, jsItems_str, hrows,
    String.append_empty, List.length_map, emptyTrendPage]
  rfl

end Trend

section Runs

variable {files : Files} {s : State Store Call}

/-- What the page shows of an answer. -/
def ShowsAnalysis (x : Store) : Answer → Prop
  | .patterns run views => run ∈ x.patternRuns ∧ ∃ report ∈ x.db.aiReports,
      report.documentId = run.documentId ∧
      ShowsPatterns (renderPatterns (.obj (patternAnswer run views))) run report.cleanClaims
  | .coverage fields => ∃ r ∈ x.coverageReports, fields = coverageAnswer r ∧
      ShowsCoverage (renderCoverage (.obj fields)) r
  | .trend fields => ∃ r ∈ x.db.trendReports, fields = r.serialize ∧
      renderTrendStrip (.obj fields) = emptyTrendPage r
  | _ => True

/-- In every state: where a run of the patterns was answered the page shows each pattern of the
registry, a triggered one with the observation and the stored claims that it rests on and the
others with what is missing; of an audit each disclosure with its status and the right counts; and
of a trend only its periods, as there is never an indicator to show. -/
theorem analysis_pages (hs : Reachable files s) {call : Call} (hcall : call ∈ s.calls)
    {answer : Answer} (hanswer : call.answer? = some answer) :
    ShowsAnalysis s.shared answer := by
  have honRecord := hs.answered hcall hanswer
  have hgrounded := hs.holds.inv.grounded
  cases answer with
  | refused | uploaded | summary | diff | fetched => trivial
  | patterns run views =>
    obtain ⟨hrun,report,hreport,hmine,hresults,rfl⟩ := honRecord
    have hgrounds : PatternRunGrounds s.shared.rows run := hgrounded _ hrun
    exact ⟨hrun,report,hreport,hmine,showsPatterns hresults hgrounds.counted⟩
  | coverage fields =>
    obtain ⟨r,hrow,rfl⟩ := honRecord
    have hgrounds : CoverageGrounds s.shared.rows r := hgrounded _ hrow
    exact ⟨r,hrow,rfl,showsCoverage hgrounds.complete hgrounds.counted⟩
  | trend fields =>
    obtain ⟨r,hrow,rfl⟩ := honRecord
    have hgrounds : TrendGrounds s.shared.rows r := hgrounded _ hrow
    exact ⟨r,hrow,rfl,renderTrendStrip_empty hgrounds.kpiTrends⟩

theorem analysis_pages_sample : ∃ s t call answer, SampleRun s t ∧ call ∈ s.calls ∧
    call.answer? = some answer ∧ answer.kind = "patterns" ∧ ShowsAnalysis s.shared answer := by
  obtain ⟨s,t,sample⟩ := sample_run
  obtain ⟨call,hcall,answer,hanswer,hkind⟩ := exists_answer (s := s) "patterns"
    (by simp [sample.answers]) (by decide)
  exact ⟨s,t,call,answer,sample,hcall,hanswer,hkind,
    analysis_pages sample.reachable hcall hanswer⟩

end Runs

end FinancialPdfReader
