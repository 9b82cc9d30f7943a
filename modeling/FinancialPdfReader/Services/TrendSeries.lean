import FinancialPdfReader.Services.TrendGuards
import Mathlib.Data.List.Perm.Basic

namespace FinancialPdfReader

open Py

/-- The dashboard of an entry says something of the indicator. -/
def PeriodEntry.mentions (kpi : String) (e : PeriodEntry) : Bool :=
  (kpiItem? e.dashboard kpi).isSome

/-- The point that stands for an entry in the series of an indicator. -/
structure PointAt (kpi : String) (e : PeriodEntry) (point : TrendPoint) : Prop where
  documentId : point.documentId = e.documentId
  period : point.period = e.period
  source : ∃ item, kpiItem? e.dashboard kpi = some item ∧
    trendPoint e.documentId e.period item = .ok point

/-- What a report over these documents holds; the entries are its documents as they are stored,
in the order reported. -/
structure AlignedSeries (db : Database) (documentIds kpiList : List String)
    (report : TrendReport) (entries : List PeriodEntry) : Prop where
  documents : report.documentIds.Perm documentIds
  read : List.Forall₂ (fun id e => periodEntry db id = .ok e) report.documentIds entries
  periods : report.periods = entries.map PeriodEntry.period
  sorted : report.periods.Pairwise (· ≤ ·)
  once : (report.kpiTrends.map Prod.fst).Nodup
  present : ∀ kpi, kpi ∈ report.kpiTrends.map Prod.fst ↔
    kpi ∈ trackedKpis ∧ (kpiList = [] ∨ kpi ∈ kpiList) ∧ ∃ e ∈ entries, e.mentions kpi = true
  points : ∀ kpi points, (kpi,points) ∈ report.kpiTrends →
    List.Forall₂ (PointAt kpi) (entries.filter (PeriodEntry.mentions kpi)) points

theorem mem_trackedOf {kpiList : List String} {kpi : String} :
    kpi ∈ trackedOf kpiList ↔ kpi ∈ trackedKpis ∧ (kpiList = [] ∨ kpi ∈ kpiList) := by
  rw [trackedOf]
  cases kpiList with
  | nil => simp
  | cons k ks => simp

theorem nodup_trackedOf (kpiList : List String) : (trackedOf kpiList).Nodup := by
  have htracked : trackedKpis.Nodup := by decide
  rw [trackedOf]
  split
  · exact htracked
  · exact htracked.filter _

/-- The series of an indicator runs along the entries that mention it. -/
theorem kpiSeries_aligned {kpi : String} (hkpi : kpi ∈ trackedKpis) {entries : List PeriodEntry}
    {points : List (Dict String TrendPoint)}
    (h : List.Forall₂ (fun e p => extractKpiPoints e.documentId e.period e.dashboard = .ok p)
      entries points) :
    List.Forall₂ (PointAt kpi) (entries.filter (PeriodEntry.mentions kpi))
      (kpiSeries points kpi) := by
  induction h with
  | nil => exact .nil
  | @cons e p entries points hpoints _ ih =>
    have hpoint := (extractKpiPoints_get? hpoints).1 hkpi
    rw [kpiSeries, List.filterMap_cons]
    cases hitem : kpiItem? e.dashboard kpi with
    | none =>
      have hmentions : ¬ e.mentions kpi = true := by rw [PeriodEntry.mentions, hitem]; decide
      rw [hitem] at hpoint
      rw [List.filter_cons_of_neg hmentions, ← Except.ok.inj hpoint]
      exact ih
    | some item =>
      have hmentions : e.mentions kpi = true := by rw [PeriodEntry.mentions, hitem]; rfl
      rw [hitem, pointOf_some] at hpoint
      obtain ⟨point,hpoint,hget⟩ := map_eq_ok.mp hpoint
      rw [List.filter_cons_of_pos hmentions, ← hget]
      refine .cons ⟨?_,?_,item,hitem,hpoint⟩ ih
      · obtain ⟨-,_,_,-,-,rfl⟩ := trendPoint_eq_ok.mp hpoint
        rfl
      · obtain ⟨-,_,_,-,-,rfl⟩ := trendPoint_eq_ok.mp hpoint
        rfl

theorem kpiSeries_ne_nil_iff {kpi : String} (hkpi : kpi ∈ trackedKpis)
    {entries : List PeriodEntry} {points : List (Dict String TrendPoint)}
    (h : List.Forall₂ (fun e p => extractKpiPoints e.documentId e.period e.dashboard = .ok p)
      entries points) :
    kpiSeries points kpi ≠ [] ↔ ∃ e ∈ entries, e.mentions kpi = true := by
  rw [ne_eq, ← List.length_eq_zero_iff, ← (kpiSeries_aligned hkpi h).length_eq,
    List.length_eq_zero_iff, List.filter_eq_nil_iff]
  simp

theorem mem_kpiTrends {trendReportId : String} {now : Nat} {db : Database}
    {kpiList : List String} {entries : List PeriodEntry} {points : List (Dict String TrendPoint)}
    {kpi : String} {series : List TrendPoint} :
    (kpi,series) ∈ (trendReport trendReportId now db kpiList entries points).kpiTrends ↔
      kpi ∈ trackedOf kpiList ∧ series = kpiSeries points kpi ∧ series ≠ [] := by
  simp only [trendReport, List.mem_filter, List.mem_map, Prod.mk.injEq]
  constructor
  · intro hparts
    obtain ⟨⟨k,hk,rfl,rfl⟩,hne⟩ := hparts
    exact ⟨hk,rfl,by simpa using hne⟩
  · intro hparts
    obtain ⟨hk,rfl,hne⟩ := hparts
    exact ⟨⟨kpi,hk,rfl,rfl⟩,by simpa using hne⟩

theorem TrendRun.aligned {db : Database} {documentIds : List String}
    (run : TrendRun db documentIds) (trendReportId : String) (now : Nat)
    (kpiList : List String) :
    AlignedSeries db documentIds kpiList
      (trendReport trendReportId now db kpiList run.entries run.points) run.entries := by
  refine ⟨?_,?_,rfl,map_sortBy_pairwise _ _,?_,?_,?_⟩
  · have hperm := run.entries_perm.map PeriodEntry.documentId
    rw [run.found_documentIds] at hperm
    exact hperm
  · change List.Forall₂ _ (run.entries.map PeriodEntry.documentId) run.entries
    rw [List.forall₂_map_left_iff, List.forall₂_same]
    intro e he
    exact (run.mem_entries he).2
  · have hkeys : ((trendReport trendReportId now db kpiList run.entries
        run.points).kpiTrends.map Prod.fst).Sublist (trackedOf kpiList) := by
      have hall := (List.filter_sublist (p := fun e : String × List TrendPoint => !e.2.isEmpty)
        (l := (trackedOf kpiList).map (fun kpi => (kpi,kpiSeries run.points kpi)))).map Prod.fst
      rw [List.map_map, Function.comp_def, List.map_id'] at hall
      exact hall
    exact (nodup_trackedOf kpiList).sublist hkeys
  · intro kpi
    rw [← and_assoc, ← mem_trackedOf]
    constructor
    · intro hkpi
      obtain ⟨⟨k,series⟩,hmem,rfl⟩ := List.mem_map.mp hkpi
      obtain ⟨htracked,rfl,hne⟩ := mem_kpiTrends.mp hmem
      exact ⟨htracked,(kpiSeries_ne_nil_iff (mem_trackedOf.mp htracked).1 run.extracted).mp hne⟩
    · intro hparts
      obtain ⟨htracked,hmentions⟩ := hparts
      have hne := (kpiSeries_ne_nil_iff (mem_trackedOf.mp htracked).1 run.extracted).mpr hmentions
      exact List.mem_map.mpr ⟨_,mem_kpiTrends.mpr ⟨htracked,rfl,hne⟩,rfl⟩
  · intro kpi points hmem
    obtain ⟨htracked,rfl,-⟩ := mem_kpiTrends.mp hmem
    exact kpiSeries_aligned (mem_trackedOf.mp htracked).1 run.extracted

/-- Documents of different periods may be named in any order. -/
theorem TrendRun.reordered {db : Database} {documentIds others : List String}
    (run : TrendRun db documentIds) (hperm : others.Perm documentIds)
    (hperiods : (run.entries.map PeriodEntry.period).Nodup) :
    ∃ run' : TrendRun db others, run'.entries = run.entries ∧ run'.points = run.points := by
  obtain ⟨found,hread,hfound⟩ := List.perm_comp_forall₂ hperm run.read
  have hkeys : (found.map PeriodEntry.period).Nodup :=
    ((hfound.trans run.entries_perm.symm).map _).nodup_iff.mpr hperiods
  have hsame : sortBy PeriodEntry.period found = run.entries :=
    sortBy_eq_of_perm PeriodEntry.period hfound hkeys
  have hne : others ≠ [] := by
    intro hnil
    rw [hnil] at hperm
    exact run.nonempty hperm.symm.eq_nil
  have hextracted := run.extracted
  rw [← TrendRun.entries, ← hsame] at hextracted
  exact ⟨⟨found,run.points,hne,hread,hextracted⟩,hsame,rfl⟩

/-- Whatever the order in which the documents are named, the report says the same. -/
def OrderFree (trendReportId : String) (now : Nat) (db : Database)
    (documentIds kpiList : List String) (report : TrendReport) : Prop :=
  ∀ others : List String, others.Perm documentIds → ∃ saved report',
    generateTrend trendReportId now db others kpiList = .ok (saved,report') ∧
    report'.periods = report.periods ∧ report'.documentIds = report.documentIds ∧
    ∀ kpi, report'.kpiTrends.lookup kpi = report.kpiTrends.lookup kpi

/-- A run over documents whose dashboards can be read returns a report: its series are those of
the tracked indicators that were asked for and are mentioned, each along the documents in the
order of their periods, and where the periods differ the order of the list makes no
difference. -/
theorem generateTrend_series (trendReportId : String) (now : Nat) (db : Database)
    (documentIds kpiList : List String) :
    ((∃ saved report, generateTrend trendReportId now db documentIds kpiList =
        .ok (saved,report)) ↔ TrendPossible trendReportId db documentIds) ∧
    ∀ saved report, generateTrend trendReportId now db documentIds kpiList = .ok (saved,report) →
      (∃ entries, AlignedSeries db documentIds kpiList report entries) ∧
      (report.periods.Nodup → OrderFree trendReportId now db documentIds kpiList report) := by
  constructor
  · rw [← generateTrend_succeeds_iff trendReportId now db documentIds kpiList, Prod.exists]
  · intro saved report h
    obtain ⟨⟨run,rfl⟩,hfresh,-⟩ := generateTrend_eq_ok.mp h
    refine ⟨⟨run.entries,run.aligned trendReportId now kpiList⟩,?_⟩
    intro hperiods others hperm
    obtain ⟨run',hentries,hpoints⟩ := run.reordered hperm hperiods
    have hreport : trendReport trendReportId now db kpiList run'.entries run'.points =
        trendReport trendReportId now db kpiList run.entries run.points := by
      rw [hentries, hpoints]
    refine ⟨_,_,generateTrend_eq_ok.mpr ⟨⟨run',rfl⟩,hfresh,rfl⟩,?_,?_,?_⟩
    · rw [hreport]
    · rw [hreport]
    · intro kpi
      rw [hreport]

/-- Two quarters of one company; the revenue is in the rows of one and in the metrics of the
other. -/
def twoQuartersDb : Database := { summarisedDb with
  pdfDocuments := summarisedDb.pdfDocuments ++
    [⟨"d2","2330","2026Q2","d2.pdf",1,.completed,some 0⟩]
  aiReports := summarisedDb.aiReports.flatMap (fun r => [
    { r with dashboard := .obj [("what_changed",.arr [.obj [("metric_id",.str "revenue"),
      ("direction",.str "up"),("evidence_claim_ids",.arr [.str "c1"])]])] },
    { r with
      reportId := "r2"
      documentId := "d2"
      dashboard := .obj [("metrics",.obj [("revenue",.obj [("direction",.str "down")])])] }]) }

example : (fun out => (out.2.documentIds,out.2.kpiTrends.map (fun e => e.2.map (·.direction)))) <$>
    generateTrend "t1" 0 twoQuartersDb ["d2","d1"] ["revenue"] =
      .ok (["d1","d2"],[[.str "up",.str "down"]]) := by decide +kernel

theorem generateTrend_series_twoQuarters : ∃ saved report,
    generateTrend "t1" 0 twoQuartersDb ["d2","d1"] ["revenue"] = .ok (saved,report) ∧
    (∃ entries, AlignedSeries twoQuartersDb ["d2","d1"] ["revenue"] report entries) ∧
    OrderFree "t1" 0 twoQuartersDb ["d2","d1"] ["revenue"] report := by
  have hrun : (fun out => out.2.periods) <$>
      generateTrend "t1" 0 twoQuartersDb ["d2","d1"] ["revenue"] = .ok ["2026Q1","2026Q2"] := by
    decide +kernel
  obtain ⟨⟨saved,report⟩,h,hperiods⟩ := map_eq_ok.mp hrun
  obtain ⟨haligned,horder⟩ := (generateTrend_series "t1" 0 twoQuartersDb ["d2","d1"]
    ["revenue"]).2 saved report h
  refine ⟨saved,report,h,haligned,horder ?_⟩
  rw [show report.periods = ["2026Q1","2026Q2"] from hperiods]
  decide

end FinancialPdfReader
