import FinancialPdfReader.Python.Sorted
import FinancialPdfReader.Services.TrendPoints
import Mathlib.Data.List.Dedup

namespace FinancialPdfReader

open Py

/-- `doc.period or "UNKNOWN"` -/
def PDFDocument.trendPeriod (doc : PDFDocument) : String :=
  if doc.period = "" then "UNKNOWN" else doc.period

theorem periodEntry_eq_ok {db : Database} {documentId : String} {e : PeriodEntry} :
    periodEntry db documentId = .ok e ↔ ∃ doc report,
      db.document? documentId = some doc ∧ db.latestReport? documentId = some report ∧
        e = ⟨documentId,doc.trendPeriod,report.dashboard.orElse (.obj [])⟩ := by
  rw [periodEntry]
  cases db.document? documentId with
  | none => simp
  | some doc =>
    cases db.latestReport? documentId with
    | none => simp
    | some report =>
      constructor
      · intro h
        exact ⟨doc,report,rfl,rfl,(Except.ok.inj h).symm⟩
      · intro hparts
        obtain ⟨doc',report',hdoc,hreport,rfl⟩ := hparts
        obtain rfl := Option.some.inj hdoc
        obtain rfl := Option.some.inj hreport
        rfl

/-- What a run that succeeds read of each document, and the points it made of them. -/
structure TrendRun (db : Database) (documentIds : List String) where
  found : List PeriodEntry
  points : List (Dict String TrendPoint)
  nonempty : documentIds ≠ []
  read : List.Forall₂ (fun id e => periodEntry db id = .ok e) documentIds found
  extracted : List.Forall₂
    (fun e p => extractKpiPoints e.documentId e.period e.dashboard = .ok p)
    (sortBy PeriodEntry.period found) points

namespace TrendRun

variable {db : Database} {documentIds : List String}

/-- The documents as they are reported: by period. -/
def entries (run : TrendRun db documentIds) : List PeriodEntry :=
  sortBy PeriodEntry.period run.found

theorem entries_perm (run : TrendRun db documentIds) : run.entries.Perm run.found :=
  sortBy_perm _ _

private theorem documentIds_of_read {found : List PeriodEntry}
    (h : List.Forall₂ (fun id e => periodEntry db id = .ok e) documentIds found) :
    found.map PeriodEntry.documentId = documentIds := by
  induction h with
  | nil => rfl
  | cons he _ ih =>
    obtain ⟨doc,report,-,-,rfl⟩ := periodEntry_eq_ok.mp he
    rw [List.map_cons, ih]

theorem found_documentIds (run : TrendRun db documentIds) :
    run.found.map PeriodEntry.documentId = documentIds :=
  documentIds_of_read run.read

theorem mem_entries (run : TrendRun db documentIds) {e : PeriodEntry} (he : e ∈ run.entries) :
    e.documentId ∈ documentIds ∧ periodEntry db e.documentId = .ok e := by
  have hfound := run.entries_perm.mem_iff.mp he
  obtain ⟨id,hid,hentry⟩ := mapM_mem (mapM_eq_ok.mpr run.read) hfound
  obtain ⟨doc,report,-,-,rfl⟩ := periodEntry_eq_ok.mp hentry
  exact ⟨hid,hentry⟩

theorem length_entries (run : TrendRun db documentIds) :
    run.entries.length = documentIds.length := by
  rw [run.entries_perm.length_eq, run.read.length_eq]

end TrendRun

theorem generateTrend_eq_ok {trendReportId : String} {now : Nat} {db saved : Database}
    {documentIds kpiList : List String} {report : TrendReport} :
    generateTrend trendReportId now db documentIds kpiList = .ok (saved,report) ↔
      (∃ run : TrendRun db documentIds,
        report = trendReport trendReportId now db kpiList run.entries run.points) ∧
      (∀ t ∈ db.trendReports, t.trendReportId ≠ trendReportId) ∧
      saved = { db with trendReports := db.trendReports ++ [report] } := by
  rw [generateTrend]
  constructor
  · intro h
    split at h
    · contradiction
    · rename_i hne
      obtain ⟨entries,hentries,h⟩ := bind_eq_ok.mp h
      obtain ⟨points,hpoints,h⟩ := bind_eq_ok.mp h
      obtain ⟨after,hsave,h⟩ := bind_eq_ok.mp h
      obtain ⟨rfl,rfl⟩ := Prod.mk.inj (Except.ok.inj h)
      obtain ⟨found,hfound,hsorted⟩ := bind_eq_ok.mp hentries
      obtain rfl := Except.ok.inj hsorted
      obtain ⟨hfresh,rfl⟩ := Database.saveTrendReport_eq_ok.mp hsave
      exact ⟨⟨⟨found,points,by simpa using hne,mapM_eq_ok.mp hfound,mapM_eq_ok.mp hpoints⟩,
        rfl⟩,hfresh,rfl⟩
  · intro hparts
    obtain ⟨⟨run,rfl⟩,hfresh,rfl⟩ := hparts
    have hne : ¬ documentIds.isEmpty = true := by simpa using run.nonempty
    have hentries : periodData db documentIds = .ok run.entries := by
      rw [periodData, mapM_eq_ok.mpr run.read, ok_bind]
      rfl
    have hpoints := mapM_eq_ok.mpr run.extracted
    rw [if_neg hne, hentries, ok_bind, TrendRun.entries, hpoints, ok_bind,
      Database.saveTrendReport_eq_ok.mpr ⟨hfresh,rfl⟩, ok_bind]
    rfl

/-- The different periods that the documents of a list are of. -/
def coveredPeriods (db : Database) (documentIds : List String) : List String :=
  (documentIds.filterMap (fun id => (db.document? id).map PDFDocument.trendPeriod)).dedup

/-- What the rule on long-term trends asks of a saved report: a warning and a flag exactly where
fewer than three periods are covered, so that naming a document again, or more documents of the
same periods, never takes the warning away. -/
structure FollowsR7 (db : Database) (documentIds : List String) (report : TrendReport) : Prop where
  warned : (coveredPeriods db documentIds).length < r7MinPeriods → report.r7Warning = true
  flagged : (coveredPeriods db documentIds).length < r7MinPeriods →
    ∃ flag ∈ report.governanceFlags, isIn "R7" flag = true
  silent : r7MinPeriods ≤ (coveredPeriods db documentIds).length → report.r7Warning = false
  kept : ∀ others trendReportId now kpiList saved earlier,
    (∀ p, p ∈ coveredPeriods db others ↔ p ∈ coveredPeriods db documentIds) →
    generateTrend trendReportId now db others kpiList = .ok (saved,earlier) →
    earlier.r7Warning = true → report.r7Warning = true

private theorem coveredPeriods_length_le (db : Database) (documentIds : List String) :
    (coveredPeriods db documentIds).length ≤ documentIds.length :=
  Nat.le_trans (List.dedup_sublist _).length_le (List.length_filterMap_le _ _)

private theorem coveredPeriods_length_eq {db : Database} {ids others : List String}
    (h : ∀ p, p ∈ coveredPeriods db others ↔ p ∈ coveredPeriods db ids) :
    (coveredPeriods db others).length = (coveredPeriods db ids).length := by
  have hperm : (coveredPeriods db others).Perm (coveredPeriods db ids) :=
    (List.perm_ext_iff_of_nodup (List.nodup_dedup _) (List.nodup_dedup _)).mpr h
  exact hperm.length_eq

/-- The warning counts the documents named, whatever their periods. -/
theorem r7Warning_iff {trendReportId : String} {now : Nat} {db saved : Database}
    {documentIds kpiList : List String} {report : TrendReport}
    (h : generateTrend trendReportId now db documentIds kpiList = .ok (saved,report)) :
    (report.r7Warning = true ↔ documentIds.length < r7MinPeriods) ∧
      (report.r7Warning = true → ∃ flag ∈ report.governanceFlags, isIn "R7" flag = true) := by
  obtain ⟨⟨run,rfl⟩,-,-⟩ := generateTrend_eq_ok.mp h
  have hlength := run.length_entries
  constructor
  · simp only [trendReport, decide_eq_true_eq, hlength]
  · intro hwarning
    have hflags : (trendReport trendReportId now db kpiList run.entries run.points).governanceFlags
        = ["R7: 僅有 " ++ toString run.entries.length ++ " 期資料（需 ≥ " ++
          toString r7MinPeriods ++ " 期才可推論長期趨勢）"] := if_pos hwarning
    rw [hflags]
    refine ⟨_,List.mem_singleton_self _,?_⟩
    rw [isIn, decide_eq_true_eq]
    simp only [String.toList_append, List.append_assoc]
    exact ⟨[],_,rfl⟩

/-- The rule is followed exactly by the runs over fewer than three documents and those over
documents of at least three periods: more documents than periods are taken for more periods. -/
theorem generateTrend_r7_iff {trendReportId : String} {now : Nat} {db saved : Database}
    {documentIds kpiList : List String} {report : TrendReport}
    (h : generateTrend trendReportId now db documentIds kpiList = .ok (saved,report)) :
    saved.trendReports = db.trendReports ++ [report] ∧
    (FollowsR7 db documentIds report ↔ documentIds.length < r7MinPeriods ∨
      r7MinPeriods ≤ (coveredPeriods db documentIds).length) := by
  have hsaved : saved.trendReports = db.trendReports ++ [report] := by
    rw [(generateTrend_eq_ok.mp h).2.2]
  obtain ⟨hwarning,hflag⟩ := r7Warning_iff h
  refine ⟨hsaved,?_,?_⟩
  · intro hfollows
    by_cases hfew : (coveredPeriods db documentIds).length < r7MinPeriods
    · exact Or.inl (hwarning.mp (hfollows.warned hfew))
    · exact Or.inr (Nat.le_of_not_lt hfew)
  · intro hcases
    have hle := coveredPeriods_length_le db documentIds
    refine ⟨?_,?_,?_,?_⟩
    · intro hfew
      apply hwarning.mpr
      omega
    · intro hfew
      apply hflag (hwarning.mpr ?_)
      omega
    · intro henough
      rw [← Bool.not_eq_true, hwarning]
      omega
    · intro others trendReportId' now' kpiList' saved' earlier hsame hearlier hwarned
      have hothers := (r7Warning_iff hearlier).1.mp hwarned
      have hfew := coveredPeriods_length_le db others
      rw [coveredPeriods_length_eq hsame] at hfew
      apply hwarning.mpr
      omega

/-- One document with a summary in which no metric is mentioned. -/
def summarisedDb : Database := { Database.empty with
  pdfDocuments := [⟨"d1","2330","2026Q1","d1.pdf",1,.completed,some 0⟩]
  aiReports := [{
    reportId := "r1"
    documentId := "d1"
    stockId := "2330"
    period := "2026Q1"
    temporalConsistent := true
    temporalNote := ""
    executiveSummary := ""
    narrativeDensityScore := 0
    narrativeDensityWeightedScore := 0
    narrativeFlag := false
    claims := []
    evidenceStatus := .insufficient
    investmentAdviceDetected := false
    completenessWarnings := []
    dashboard := .obj []
    dashboardContractValid := true
    dashboardContractErrors := []
    chunksUsed := []
    pagesCovered := []
    createdAt := 0 }] }

theorem generateTrend_r7_iff_summarisedDb : ∃ saved report,
    generateTrend "t1" 0 summarisedDb ["d1","d1"] [] = .ok (saved,report) ∧
    saved.trendReports = [] ++ [report] ∧
    (FollowsR7 summarisedDb ["d1","d1"] report ↔ ["d1","d1"].length < r7MinPeriods ∨
      r7MinPeriods ≤ (coveredPeriods summarisedDb ["d1","d1"]).length) := by
  obtain ⟨⟨saved,report⟩,h⟩ := exists_ok_of_isOk
    (x := generateTrend "t1" 0 summarisedDb ["d1","d1"] []) (by decide +kernel)
  obtain ⟨hsaved,hiff⟩ := generateTrend_r7_iff h
  exact ⟨saved,report,h,hsaved,hiff⟩

/-- One document named three times passes for three periods. -/
theorem generateTrend_thrice_unwarned : ∃ saved report,
    generateTrend "t1" 0 summarisedDb ["d1","d1","d1"] [] = .ok (saved,report) ∧
      ¬ FollowsR7 summarisedDb ["d1","d1","d1"] report := by
  have hrun : (fun out => out.2.r7Warning) <$>
      generateTrend "t1" 0 summarisedDb ["d1","d1","d1"] [] = .ok false := by decide +kernel
  obtain ⟨⟨saved,report⟩,h,hwarning⟩ := map_eq_ok.mp hrun
  refine ⟨saved,report,h,?_⟩
  intro hfollows
  have hwarned := hfollows.warned (by decide +kernel)
  rw [show report.r7Warning = false from hwarning] at hwarned
  contradiction

/-- Everything that a run needs in order to return a report. -/
structure TrendPossible (trendReportId : String) (db : Database) (documentIds : List String) :
    Prop where
  nonempty : documentIds ≠ []
  document : ∀ id ∈ documentIds, ∃ doc, db.document? id = some doc
  report : ∀ id ∈ documentIds, ∃ report, db.latestReport? id = some report
  readable : ∀ id ∈ documentIds, ∀ report, db.latestReport? id = some report →
    ReadableDashboard (report.dashboard.orElse (.obj []))
  fresh : ∀ t ∈ db.trendReports, t.trendReportId ≠ trendReportId

theorem generateTrend_succeeds_iff (trendReportId : String) (now : Nat) (db : Database)
    (documentIds kpiList : List String) :
    (∃ out, generateTrend trendReportId now db documentIds kpiList = .ok out) ↔
      TrendPossible trendReportId db documentIds := by
  constructor
  · intro hparts
    obtain ⟨⟨saved,report⟩,h⟩ := hparts
    obtain ⟨⟨run,-⟩,hfresh,-⟩ := generateTrend_eq_ok.mp h
    have hread : ∀ id ∈ documentIds, ∃ e ∈ run.found, periodEntry db id = .ok e :=
      fun id hid => mapM_mem_left (mapM_eq_ok.mpr run.read) hid
    refine ⟨run.nonempty,?_,?_,?_,hfresh⟩
    · intro id hid
      obtain ⟨e,-,he⟩ := hread id hid
      obtain ⟨doc,-,hdoc,-⟩ := periodEntry_eq_ok.mp he
      exact ⟨doc,hdoc⟩
    · intro id hid
      obtain ⟨e,-,he⟩ := hread id hid
      obtain ⟨-,report,-,hreport,-⟩ := periodEntry_eq_ok.mp he
      exact ⟨report,hreport⟩
    · intro id hid report hreport
      obtain ⟨e,hfound,he⟩ := hread id hid
      have hentry : e ∈ sortBy PeriodEntry.period run.found := run.entries_perm.mem_iff.mpr hfound
      obtain ⟨points,-,hpoints⟩ := mapM_mem_left (mapM_eq_ok.mpr run.extracted) hentry
      have hreadable := (extractKpiPoints_isOk_iff _ _).mp ⟨points,hpoints⟩
      obtain ⟨doc,report',-,hreport',rfl⟩ := periodEntry_eq_ok.mp he
      obtain rfl := Option.some.inj (hreport'.symm.trans hreport)
      exact hreadable
  · intro h
    have hread : ∀ id ∈ documentIds, ∃ e, periodEntry db id = .ok e := by
      intro id hid
      obtain ⟨doc,hdoc⟩ := h.document id hid
      obtain ⟨report,hreport⟩ := h.report id hid
      exact ⟨_,periodEntry_eq_ok.mpr ⟨doc,report,hdoc,hreport,rfl⟩⟩
    obtain ⟨found,hfound⟩ := mapM_of_forall hread
    have hextract : ∀ e ∈ sortBy PeriodEntry.period found,
        ∃ points, extractKpiPoints e.documentId e.period e.dashboard = .ok points := by
      intro e he
      obtain ⟨id,hid,hentry⟩ := mapM_mem hfound ((sortBy_perm _ _).mem_iff.mp he)
      obtain ⟨doc,report,-,hreport,rfl⟩ := periodEntry_eq_ok.mp hentry
      exact (extractKpiPoints_isOk_iff _ _).mpr (h.readable id hid report hreport)
    obtain ⟨points,hpoints⟩ := mapM_of_forall hextract
    let run : TrendRun db documentIds :=
      ⟨found,points,h.nonempty,mapM_eq_ok.mp hfound,mapM_eq_ok.mp hpoints⟩
    exact ⟨(_,_),generateTrend_eq_ok.mpr ⟨⟨run,rfl⟩,h.fresh,rfl⟩⟩

/-- The documents of a list that are there are all of one company. -/
def OneCompany (db : Database) (documentIds : List String) : Prop :=
  ∃ stockId, ∀ id ∈ documentIds, ∀ doc, db.document? id = some doc → doc.stockId = stockId

/-- A report speaks of one company only, and a list that mixes companies is refused before
anything is saved. -/
structure KeepsCompany (trendReportId : String) (now : Nat) (db : Database)
    (documentIds kpiList : List String) : Prop where
  same : ∀ saved report,
    generateTrend trendReportId now db documentIds kpiList = .ok (saved,report) →
    ∀ id ∈ report.documentIds, ∀ doc, db.document? id = some doc → doc.stockId = report.stockId
  mixed : ¬ OneCompany db documentIds →
    ∃ error, generateTrend trendReportId now db documentIds kpiList = .error error

/-- The company of a report is that of the document that comes first. -/
theorem stockId_of_run (trendReportId : String) (now : Nat) {db : Database}
    {documentIds : List String} (kpiList : List String) (run : TrendRun db documentIds) :
    ∃ id ∈ documentIds, ∃ doc, db.document? id = some doc ∧
      (trendReport trendReportId now db kpiList run.entries run.points).stockId =
        doc.stockId := by
  have hlength := run.length_entries
  cases hentries : run.entries with
  | nil =>
    rw [hentries, List.length_nil, eq_comm, List.length_eq_zero_iff] at hlength
    exact absurd hlength run.nonempty
  | cons e es =>
    obtain ⟨hid,hentry⟩ := run.mem_entries (hentries ▸ List.mem_cons_self)
    obtain ⟨doc,-,hdoc,-⟩ := periodEntry_eq_ok.mp hentry
    refine ⟨e.documentId,hid,doc,hdoc,?_⟩
    simp [trendReport, hdoc]

/-- The service keeps to one company exactly where the list does, or where the run comes to
nothing for another reason: no step compares the companies. -/
theorem generateTrend_company_iff (trendReportId : String) (now : Nat) (db : Database)
    (documentIds kpiList : List String) :
    KeepsCompany trendReportId now db documentIds kpiList ↔
      OneCompany db documentIds ∨ ¬ TrendPossible trendReportId db documentIds := by
  have hsucceeds := generateTrend_succeeds_iff trendReportId now db documentIds kpiList
  constructor
  · intro hkeeps
    by_cases hone : OneCompany db documentIds
    · exact Or.inl hone
    · refine Or.inr fun hpossible => ?_
      obtain ⟨out,hok⟩ := hsucceeds.mpr hpossible
      obtain ⟨error,hrefused⟩ := hkeeps.mixed hone
      rw [hok] at hrefused
      contradiction
  · intro hcases
    constructor
    · intro saved report h id hid doc hdoc
      obtain ⟨stockId,hone⟩ :=
        hcases.resolve_right (not_not_intro (hsucceeds.mp ⟨(saved,report),h⟩))
      obtain ⟨⟨run,rfl⟩,-,-⟩ := generateTrend_eq_ok.mp h
      obtain ⟨first,hfirst,firstDoc,hfirstDoc,hstock⟩ :=
        stockId_of_run trendReportId now kpiList run
      obtain ⟨e,he,rfl⟩ := List.mem_map.mp hid
      rw [hstock, hone e.documentId (run.mem_entries he).1 doc hdoc,
        hone first hfirst firstDoc hfirstDoc]
    · intro hmixed
      have hnot := hcases.resolve_left hmixed
      cases hrun : generateTrend trendReportId now db documentIds kpiList with
      | error error => exact ⟨error,rfl⟩
      | ok out => exact absurd (hsucceeds.mp ⟨out,hrun⟩) hnot

/-- The one document and its summary, and those of another company. -/
def twoCompaniesDb : Database := { summarisedDb with
  pdfDocuments := summarisedDb.pdfDocuments ++
    [⟨"d2","2317","2026Q2","d2.pdf",1,.completed,some 0⟩]
  aiReports := summarisedDb.aiReports ++ summarisedDb.aiReports.map (fun r => { r with
    reportId := "r2"
    documentId := "d2"
    stockId := "2317" }) }

/-- A trend over two companies is saved under the name of the first. -/
theorem generateTrend_mixes_companies : ∃ saved report,
    generateTrend "t1" 0 twoCompaniesDb ["d2","d1"] [] = .ok (saved,report) ∧
      ¬ OneCompany twoCompaniesDb ["d2","d1"] ∧
      ¬ KeepsCompany "t1" 0 twoCompaniesDb ["d2","d1"] [] := by
  have hmixed : ¬ OneCompany twoCompaniesDb ["d2","d1"] := by
    intro hone
    obtain ⟨stockId,hone⟩ := hone
    have hfirst := hone "d1" (by simp) ⟨"d1","2330","2026Q1","d1.pdf",1,.completed,some 0⟩
      (by decide)
    have hsecond := hone "d2" (by simp) ⟨"d2","2317","2026Q2","d2.pdf",1,.completed,some 0⟩
      (by decide)
    exact absurd (hfirst.trans hsecond.symm) (by decide)
  obtain ⟨⟨saved,report⟩,h⟩ := exists_ok_of_isOk
    (x := generateTrend "t1" 0 twoCompaniesDb ["d2","d1"] []) (by decide +kernel)
  refine ⟨saved,report,h,hmixed,?_⟩
  intro hkeeps
  obtain ⟨error,hrefused⟩ := hkeeps.mixed hmixed
  rw [h] at hrefused
  contradiction

end FinancialPdfReader
