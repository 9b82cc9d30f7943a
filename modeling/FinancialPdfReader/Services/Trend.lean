import FinancialPdfReader.Services.Summarization.Saved

namespace FinancialPdfReader

open Py

def trackedKpis : List String :=
  ["revenue","gross_margin","operating_income","eps","cash","net_income","debt_ratio","fx"]

def r7MinPeriods : Nat := 3

/-- `(x.get(key) or default)` -/
def getOr (x : Json) (key : String) (default : Json) : Except PyError Json := do
  let value ← x.get key .null
  pure (value.orElse default)

def trendPoint (documentId period : String) (item : Json) : Except PyError TrendPoint := do
  let direction ← getOr item "direction" (.str "unknown")
  let given ← item.get "delta_pct" .null
  let claimText ← getOr item "claim_text" (.str "")
  let ids ← getOr item "evidence_claim_ids" (.arr [.str ""])
  let sourceClaimId ← ids.first
  let deltaPct ← given.floatField
  pure ⟨period,documentId,direction,deltaPct,claimText,sourceClaimId,[]⟩

/-- One turn of the loop over `what_changed`: a later entry replaces an earlier one. -/
def addChanged (documentId period : String) (points : Dict String TrendPoint) (item : Json) :
    Except PyError (Dict String TrendPoint) := do
  let metricId ← item.get "metric_id" (.str "")
  match metricId with
  | .str key =>
      if trackedKpis.contains key then do
        let point ← trendPoint documentId period item
        pure (points.set key point)
      else pure points
  | _ => pure points

/-- One turn of the loop over `metrics`, which only fills what is missing. -/
def addMetric (documentId period : String) (points : Dict String TrendPoint)
    (entry : String × Json) : Except PyError (Dict String TrendPoint) :=
  if !trackedKpis.contains entry.1 || (points.get? entry.1).isSome then .ok points
  else do
    let point ← trendPoint documentId period entry.2
    pure (points.set entry.1 point)

def extractKpiPoints (documentId period : String) (dashboard : Json) :
    Except PyError (Dict String TrendPoint) := do
  let changed ← getOr dashboard "what_changed" (.arr [])
  let items ← changed.iter
  let points ← items.foldlM (addChanged documentId period) Dict.empty
  let metrics ← getOr dashboard "metrics" (.obj [])
  let entries ← metrics.items
  entries.foldlM (addMetric documentId period) points

structure PeriodEntry where
  documentId : String
  period : String
  dashboard : Json

def periodEntry (db : Database) (documentId : String) : Except PyError PeriodEntry :=
  match db.document? documentId with
  | none => .error (.valueError ("Document not found: " ++ documentId))
  | some doc => match db.latestReport? documentId with
    | none => .error (.valueError
        ("AIReport not found for document: " ++ documentId ++ " — 請先執行 /summary"))
    | some report => .ok ⟨documentId,if doc.period = "" then "UNKNOWN" else doc.period,
        report.dashboard.orElse (.obj [])⟩

/-- The indicators asked for; the code keeps them in a set, whose order means nothing. -/
def trackedOf (kpiList : List String) : List String :=
  if kpiList.isEmpty then trackedKpis else trackedKpis.filter (fun kpi => kpiList.contains kpi)

/-- The points of one indicator over the periods; a period without it is passed over. -/
def kpiSeries (points : List (Dict String TrendPoint)) (kpi : String) : List TrendPoint :=
  points.filterMap (fun found => found.get? kpi)

/-- By period, in the order of the texts. -/
def periodData (db : Database) (documentIds : List String) : Except PyError (List PeriodEntry) := do
  let found ← documentIds.mapM (periodEntry db)
  pure (found.insertionSort (fun a b => a.period ≤ b.period))

def trendReport (trendReportId : String) (now : Nat) (db : Database) (kpiList : List String)
    (entries : List PeriodEntry) (points : List (Dict String TrendPoint)) : TrendReport :=
  let nPeriods := entries.length
  let r7Warning := decide (nPeriods < r7MinPeriods)
  let firstDoc := (entries.head?.map (·.documentId)).bind db.document?
  { trendReportId
    stockId := (firstDoc.map (·.stockId)).getD ""
    documentIds := entries.map (·.documentId)
    periods := entries.map (·.period)
    kpiTrends := ((trackedOf kpiList).map (fun kpi => (kpi,kpiSeries points kpi))).filter
      (fun e => !e.2.isEmpty)
    r7Warning
    governanceFlags := if r7Warning then
      ["R7: 僅有 " ++ toString nPeriods ++ " 期資料（需 ≥ " ++ toString r7MinPeriods ++
        " 期才可推論長期趨勢）"] else []
    createdAt := now }

def generateTrend (trendReportId : String) (now : Nat) (db : Database) (documentIds : List String)
    (kpiList : List String) : Except PyError (Database × TrendReport) :=
  if documentIds.isEmpty then .error (.valueError "document_ids 不可為空")
  else do
    let entries ← periodData db documentIds
    let points ← entries.mapM (fun e => extractKpiPoints e.documentId e.period e.dashboard)
    let saved ← db.saveTrendReport (trendReport trendReportId now db kpiList entries points)
    pure (saved,trendReport trendReportId now db kpiList entries points)

/-- The points are those of the tracked metrics, each with what its node says. -/
def PointsOfMetrics (documentId period : String) (p : DashboardPayload)
    (points : Dict String TrendPoint) : Prop :=
  ∀ key point, points.get? key = some point ↔ ∃ m ∈ p.metrics,
    Choices.text m.metric = key ∧ key ∈ trackedKpis ∧ ∃ id ids, m.evidenceClaimIds = id :: ids ∧
      point = ⟨period,documentId,.str (Choices.text m.direction),jsonDelta m.deltaPct,
        .str m.claimText,.str id,[]⟩

/-- The dashboard keeps its metrics in a list, and a list has no `items`. -/
theorem extractKpiPoints_metrics {documentId period : String} {p : DashboardPayload}
    {points : Dict String TrendPoint}
    (h : extractKpiPoints documentId period p.toJson = .ok points) : p.metrics = [] := by
  obtain ⟨changed,-,h⟩ := bind_eq_ok.mp h
  obtain ⟨items,-,h⟩ := bind_eq_ok.mp h
  obtain ⟨found,-,h⟩ := bind_eq_ok.mp h
  obtain ⟨metrics,hmetrics,h⟩ := bind_eq_ok.mp h
  obtain ⟨entries,hentries,-⟩ := bind_eq_ok.mp h
  obtain rfl : (Json.arr (p.metrics.map MetricNode.toJson)).orElse (.obj []) = metrics :=
    Except.ok.inj hmetrics
  cases hlist : p.metrics with
  | nil => rfl
  | cons m ms =>
    rw [hlist] at hentries
    contradiction

/-- A dashboard without metrics gives no points, and raises nothing. -/
theorem extractKpiPoints_empty (documentId period : String) {p : DashboardPayload}
    (hchanged : p.whatChanged = []) (hmetrics : p.metrics = []) :
    extractKpiPoints documentId period p.toJson = .ok Dict.empty := by
  have hfirst : getOr p.toJson "what_changed" (.arr []) = .ok (.arr []) := by
    change Except.ok ((Json.arr (p.whatChanged.map ChangedRow.toJson)).orElse (.arr [])) = _
    rw [hchanged]
    rfl
  have hsecond : getOr p.toJson "metrics" (.obj []) = .ok (.obj []) := by
    change Except.ok ((Json.arr (p.metrics.map MetricNode.toJson)).orElse (.obj [])) = _
    rw [hmetrics]
    rfl
  rw [extractKpiPoints, hfirst, ok_bind, Json.iter_arr, ok_bind, List.foldlM_nil, pure_eq_ok,
    ok_bind, hsecond]
  rfl

theorem whatChanged_eq_nil {metrics : Dict Metric MetricNode}
    (h : metrics.values = []) : whatChanged metrics = [] := by
  rw [whatChanged, List.filterMap_eq_nil_iff]
  intro key hkey
  cases hget : metrics.get? key with
  | none => rfl
  | some m =>
    have hmem := (Dict.mem_values_iff metrics m).mpr ⟨key,hget⟩
    rw [h] at hmem
    contradiction

section Dashboards

variable (cleanClaims allClaims : List (AIClaim String)) (temporalConsistent : Json)
  (narrativeFlag : Bool) (score weighted : ℚ) (documentId period : String)

/-- What the trend service makes of a dashboard that was built of these claims. -/
private theorem extract_built_iff :
    (∃ points, extractKpiPoints documentId period (buildDashboardPayload cleanClaims allClaims
      temporalConsistent narrativeFlag score weighted).toJson = .ok points) ↔
      ∀ c ∈ cleanClaims, matchMetric c.claim = none := by
  rw [← collectMetrics_values_eq_nil_iff]
  constructor
  · intro hparts
    obtain ⟨points,h⟩ := hparts
    exact extractKpiPoints_metrics h
  · intro h
    exact ⟨Dict.empty,extractKpiPoints_empty documentId period (whatChanged_eq_nil h) h⟩

private theorem extract_built_points {points : Dict String TrendPoint}
    (h : extractKpiPoints documentId period (buildDashboardPayload cleanClaims allClaims
      temporalConsistent narrativeFlag score weighted).toJson = .ok points) :
    PointsOfMetrics documentId period (buildDashboardPayload cleanClaims allClaims
      temporalConsistent narrativeFlag score weighted) points := by
  have hnone := extractKpiPoints_metrics h
  have hchanges : whatChanged (collectMetrics cleanClaims) = [] := whatChanged_eq_nil hnone
  have hempty := extractKpiPoints_empty documentId period hchanges hnone
  obtain rfl : points = Dict.empty := Except.ok.inj (h.symm.trans hempty)
  intro key point
  rw [hnone]
  simp

end Dashboards

/-- A report that some run of the summary service saved. -/
def GeneratedReport (report : AIReport) : Prop :=
  ∃ uuid4 now reply db documentId, ∃ run : SummaryRun uuid4 now reply db documentId,
    run.report = report

/-- No uncontaminated claim of the report is about a metric of the registry. -/
def NoMetricClaims (report : AIReport) : Prop :=
  ∀ c ∈ report.claims, c.contaminated = false → matchMetric c.claim = none

theorem extract_generated_iff {report : AIReport} (h : GeneratedReport report)
    (documentId period : String) :
    (∃ points, extractKpiPoints documentId period (report.dashboard.orElse (.obj [])) =
      .ok points) ↔ NoMetricClaims report := by
  obtain ⟨uuid4,now,reply,db,docId,run,rfl⟩ := h
  obtain ⟨chunks,note,summary,hreport⟩ := run.built
  have hclaims : run.report.claims = run.claims := congrArg AIReport.claims hreport
  have hdashboard : run.report.dashboard.orElse (.obj []) =
      (assess run.claims run.tv.temporalConsistent).dashboard.toJson :=
    congrArg (fun r : AIReport => r.dashboard.orElse (.obj [])) hreport
  rw [hdashboard, NoMetricClaims, hclaims]
  refine (extract_built_iff _ _ _ _ _ _ documentId period).trans ?_
  simp [List.mem_filter]

/-- Over documents that are there, each with a report, the trend succeeds exactly when every
report can be read. -/
private theorem generateTrend_isOk_iff {trendReportId : String} {now : Nat} {db : Database}
    {documentIds kpiList : List String} (hne : documentIds ≠ [])
    (hfresh : ∀ t ∈ db.trendReports, t.trendReportId ≠ trendReportId)
    (hentries : ∀ id ∈ documentIds, ∃ e, periodEntry db id = .ok e) :
    (∃ out, generateTrend trendReportId now db documentIds kpiList = .ok out) ↔
      ∀ id ∈ documentIds, ∀ e, periodEntry db id = .ok e →
        ∃ points, extractKpiPoints e.documentId e.period e.dashboard = .ok points := by
  obtain ⟨found,hfound⟩ := mapM_of_forall hentries
  have hsave : ∀ entries points, ∃ saved,
      db.saveTrendReport (trendReport trendReportId now db kpiList entries points) = .ok saved := by
    intro entries points
    let report := trendReport trendReportId now db kpiList entries points
    have hrows : Database.saveNew db.trendReports (·.trendReportId) "trend_report_id" report =
        .ok (db.trendReports ++ [report]) := Database.saveNew_eq_ok.mpr ⟨hfresh,rfl⟩
    exact ⟨_,map_eq_ok.mpr ⟨_,hrows,rfl⟩⟩
  have hnonempty : ¬ documentIds.isEmpty = true := by simpa using hne
  have hloop : (∃ out, generateTrend trendReportId now db documentIds kpiList = .ok out) ↔
      ∃ points, (found.insertionSort (fun a b => a.period ≤ b.period)).mapM
        (fun e => extractKpiPoints e.documentId e.period e.dashboard) = .ok points := by
    rw [generateTrend, if_neg hnonempty, periodData, hfound, ok_bind, pure_eq_ok, ok_bind]
    constructor
    · intro hparts
      obtain ⟨out,h⟩ := hparts
      obtain ⟨points,hpoints,-⟩ := bind_eq_ok.mp h
      exact ⟨points,hpoints⟩
    · intro hparts
      obtain ⟨points,hpoints⟩ := hparts
      obtain ⟨saved,hsaved⟩ := hsave (found.insertionSort (fun a b => a.period ≤ b.period)) points
      rw [hpoints, ok_bind, hsaved]
      exact ⟨_,rfl⟩
  rw [hloop, mapM_isOk_iff]
  constructor
  · intro h id hid e he
    obtain ⟨e',he',hentry⟩ := mapM_mem_left hfound hid
    obtain rfl := Except.ok.inj (he.symm.trans hentry)
    exact h e ((List.mem_insertionSort _).mpr he')
  · intro h e he
    obtain ⟨id,hid,hentry⟩ := mapM_mem hfound ((List.mem_insertionSort _).mp he)
    exact h id hid e hentry

private theorem generateTrend_generated_iff {trendReportId : String} {now : Nat} {db : Database}
    {documentIds kpiList : List String} (hne : documentIds ≠ [])
    (hfresh : ∀ t ∈ db.trendReports, t.trendReportId ≠ trendReportId)
    (hreports : ∀ id ∈ documentIds, (db.document? id).isSome = true ∧
      ∃ report, db.latestReport? id = some report ∧ GeneratedReport report) :
    (∃ out, generateTrend trendReportId now db documentIds kpiList = .ok out) ↔
      ∀ id ∈ documentIds, ∀ report, db.latestReport? id = some report →
        NoMetricClaims report := by
  have hentry : ∀ id ∈ documentIds, ∃ doc report, db.latestReport? id = some report ∧
      GeneratedReport report ∧ periodEntry db id =
        .ok ⟨id,if doc = "" then "UNKNOWN" else doc,report.dashboard.orElse (.obj [])⟩ := by
    intro id hid
    obtain ⟨hdoc,report,hreport,hgenerated⟩ := hreports id hid
    obtain ⟨doc,hdoc⟩ := Option.isSome_iff_exists.mp hdoc
    exact ⟨doc.period,report,hreport,hgenerated,by rw [periodEntry, hdoc, hreport]⟩
  rw [generateTrend_isOk_iff hne hfresh (fun id hid => by
    obtain ⟨_,_,_,_,h⟩ := hentry id hid
    exact ⟨_,h⟩)]
  constructor
  · intro h id hid report hreport
    obtain ⟨period,report',hreport',hgenerated,he⟩ := hentry id hid
    obtain rfl := Option.some.inj (hreport'.symm.trans hreport)
    exact (extract_generated_iff hgenerated id _).mp (h id hid _ he)
  · intro h id hid e he
    obtain ⟨period,report,hreport,hgenerated,he'⟩ := hentry id hid
    obtain rfl := Except.ok.inj (he'.symm.trans he)
    exact (extract_generated_iff hgenerated id _).mpr (h id hid report hreport)

/-- The trend service reads a dashboard that the summary service built exactly when it has no
metric at all: for a single claim about a metric it looks for a mapping where there is a list. -/
theorem trend_of_built_dashboards_iff (cleanClaims allClaims : List (AIClaim String))
    (temporalConsistent : Json) (narrativeFlag : Bool) (score weighted : ℚ)
    (documentId period trendReportId : String) (now : Nat) (db : Database)
    (documentIds kpiList : List String) :
    ((∃ points, extractKpiPoints documentId period (buildDashboardPayload cleanClaims allClaims
        temporalConsistent narrativeFlag score weighted).toJson = .ok points ∧
      PointsOfMetrics documentId period (buildDashboardPayload cleanClaims allClaims
        temporalConsistent narrativeFlag score weighted) points) ↔
      ∀ c ∈ cleanClaims, matchMetric c.claim = none) ∧
    (documentIds ≠ [] → (∀ t ∈ db.trendReports, t.trendReportId ≠ trendReportId) →
      (∀ id ∈ documentIds, (db.document? id).isSome = true ∧
        ∃ report, db.latestReport? id = some report ∧ GeneratedReport report) →
      ((∃ out, generateTrend trendReportId now db documentIds kpiList = .ok out) ↔
        ∀ id ∈ documentIds, ∀ report, db.latestReport? id = some report →
          NoMetricClaims report)) := by
  constructor
  · rw [← extract_built_iff cleanClaims allClaims temporalConsistent narrativeFlag score weighted
      documentId period]
    constructor
    · intro hparts
      obtain ⟨points,h,-⟩ := hparts
      exact ⟨points,h⟩
    · intro hparts
      obtain ⟨points,h⟩ := hparts
      exact ⟨points,h,extract_built_points _ _ _ _ _ _ _ _ h⟩
  · intro hne hfresh hreports
    exact generateTrend_generated_iff hne hfresh hreports

theorem trend_of_built_dashboards_iff_ingestedDb : ∃ saved post,
    generateSummary (fun _ => "r1") 0 earlierPeriodReply ingestedDb "d1" = .ok (saved,post) ∧
    ((∃ out, generateTrend "t1" 0 saved ["d1"] [] = .ok out) ↔
      ∀ id ∈ ["d1"], ∀ report, saved.latestReport? id = some report → NoMetricClaims report) := by
  obtain ⟨⟨saved,post⟩,h⟩ := exists_ok_of_isOk
    (x := generateSummary (fun _ => "r1") 0 earlierPeriodReply ingestedDb "d1")
    (by decide +kernel)
  obtain ⟨run,hsaved,-⟩ := generateSummary_eq_ok h
  have hlatest : saved.latestReport? "d1" = some run.report := by
    rw [hsaved]
    simp [Database.latestReport?, ingestedDb, Database.empty, run.report_document.1]
  have htrend := trend_of_built_dashboards_iff [] [] (.bool true) false 0 0 "d1" "2026Q1" "t1" 0
    saved ["d1"] []
  refine ⟨saved,post,h,htrend.2 (by decide) ?_ ?_⟩
  · rw [hsaved]
    simp [ingestedDb, Database.empty]
  · intro id hid
    obtain rfl := List.mem_singleton.mp hid
    refine ⟨?_,run.report,hlatest,⟨_,_,_,_,_,run,rfl⟩⟩
    rw [hsaved]
    rfl

/-- A claim about the revenue, with its evidence. -/
def revenueClaim : AIClaim String where
  claimId := "c1"
  claim := "營收成長 10%"
  claimType := .financialObservation
  claimLevel := .observedFact
  materiality := .tierA
  sectionKey := .keyFinancials
  recurring := true
  contaminated := false
  sourceType := .financialEvidence
  forwardLooking := false
  rhetoricalRiskFlag := false
  rhetoricalRiskTerms := []
  attributionPrefix := ""
  evidence := [⟨"d1","3","營收","營收成長 10%"⟩]
  confidence := .high
  requiresHumanReview := false

/-- The dashboard of the one claim about the revenue cannot be read. -/
theorem extract_revenueClaim_raises :
    ¬ ∀ (cleanClaims allClaims : List (AIClaim String)) (temporalConsistent : Json)
      (narrativeFlag : Bool) (score weighted : ℚ) (documentId period : String),
      ∃ points, extractKpiPoints documentId period (buildDashboardPayload cleanClaims allClaims
          temporalConsistent narrativeFlag score weighted).toJson = .ok points ∧
        PointsOfMetrics documentId period (buildDashboardPayload cleanClaims allClaims
          temporalConsistent narrativeFlag score weighted) points := by
  intro hall
  obtain ⟨points,h,-⟩ := hall [revenueClaim] [revenueClaim] (.bool true) false 0 0 "d1" "2026Q1"
  have hnone := (extract_built_iff _ _ _ _ _ _ _ _).mp ⟨points,h⟩ revenueClaim (by simp)
  exact absurd hnone (by decide +kernel)

end FinancialPdfReader
