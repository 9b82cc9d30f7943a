import FinancialPdfReader.Apis.Jobs

/- Every job, worked off with nobody else in between, does what the service does in one go. -/

namespace FinancialPdfReader

open Py RaisingProgram Job

section Split

theorem generateSummary_eq (uuid4 : Nat → String) (now : Nat) (reply : ModelReply)
    (db : Database) (documentId : String) : generateSummary uuid4 now reply db documentId = (do
      let doc ← ingestedDocument db documentId
      let chunks ← ingestedChunks db documentId
      let (report,fields) ← summaryOf uuid4 now reply documentId doc chunks
      let saved ← db.saveReport report
      pure (saved,fields)) := by
  simp only [generateSummary, summaryOf, bind_assoc, pure_bind]

theorem comparedDocuments_eq (db : Database) (currentDocumentId previousDocumentId : String) :
    comparedDocuments db currentDocumentId previousDocumentId =
      comparedPair currentDocumentId previousDocumentId (db.document? currentDocumentId)
        (db.document? previousDocumentId) := by
  rw [comparedDocuments]
  cases db.document? currentDocumentId with
  | none => rfl
  | some current => cases db.document? previousDocumentId <;> rfl

theorem generateDiff_eq (uuid4 : String → Nat → String) (now : Nat)
    (reply : String → SectionReply) (db : Database)
    (currentDocumentId previousDocumentId : String) :
    generateDiff uuid4 now reply db currentDocumentId previousDocumentId = (do
      let (current,previous) ← comparedPair currentDocumentId previousDocumentId
        (db.document? currentDocumentId) (db.document? previousDocumentId)
      let report ← diffOf uuid4 now reply currentDocumentId previousDocumentId current previous
        (getSectionChunks db currentDocumentId) (getSectionChunks db previousDocumentId)
      let saved ← db.saveDiffReport report
      pure (saved,report)) := by
  rw [← comparedDocuments_eq]
  simp only [generateDiff, diffOf, bind_assoc, pure_bind]
  rfl

theorem periodEntry_eq (db : Database) (documentId : String) : periodEntry db documentId = (do
    let doc ← trendDocument documentId db
    let report ← trendSource documentId db
    pure (entryOf documentId doc report)) := by
  rw [periodEntry, trendDocument, trendSource]
  cases db.document? documentId with
  | none => rfl
  | some doc => cases db.latestReport? documentId <;> rfl

theorem runPatternAnalysis_eq (runId : String) (now : Nat) (db : Database)
    (runs : List PatternRunReport) (documentId : String) :
    runPatternAnalysis runId now db runs documentId = (do
      let doc ← analysedDocument documentId db
      let report ← analysedReport documentId db
      let run := patternRunOf runId now documentId doc report
      let saved ← Database.saveNew runs (·.runId) "run_id" run
      pure (saved,run,patternViews report run)) := by
  rw [runPatternAnalysis, analysedDocument, analysedReport]
  cases db.document? documentId with
  | none => rfl
  | some doc =>
    by_cases hstatus : doc.status ≠ .completed
    · simp only [if_pos hstatus]
      rfl
    · simp only [if_neg hstatus]
      cases db.latestReport? documentId <;> rfl

theorem checkDisclosureCoverage_eq (coverageId : String) (now : Nat)
    (reply : Except PyError String) (db : Database) (reports : List DisclosureCoverageReport)
    (documentId : String) :
    checkDisclosureCoverage coverageId now reply db reports documentId = (do
      let doc ← auditedDocument db documentId
      let _ ← auditedChunks db documentId
      let report ← coverageFrom coverageId now reply documentId doc
      let saved ← Database.saveNew reports (·.coverageId) "coverage_id" report
      pure (saved,coverageAnswer report)) := by
  simp only [checkDisclosureCoverage, coverageFrom, bind_assoc, pure_bind]

end Split

section Alone

variable {x y : Store}

@[simp] theorem exec_lookDb_eq_ok {α : Type} {f : Database → Except PyError α} {a : α} :
    (lookDb f).run.exec x = some (y,.ok a) ↔ f x.db = .ok a ∧ x = y :=
  exec_look_eq_ok

@[simp] theorem exec_saveDb_eq_ok {f : Database → Except PyError Database} {u : Unit} :
    (saveDb f).run.exec x = some (y,.ok u) ↔ ∃ db, f x.db = .ok db ∧ { x with db } = y := by
  rw [saveDb, exec_save_eq_ok, map_eq_ok]

theorem exec_createSummary {uuid4 : Nat → String} {now : Nat} {reply : ModelReply}
    {documentId : String} {answer : Answer} :
    (createSummary uuid4 now reply documentId).run.exec x = some (y,.ok answer) ↔
      ∃ db fields, generateSummary uuid4 now reply x.db documentId = .ok (db,fields) ∧
        { x with db } = y ∧ .summary fields = answer := by
  rw [generateSummary_eq]
  simp only [createSummary, exec_bind_eq_ok, exec_lookDb_eq_ok, exec_give_eq_ok,
    exec_saveDb_eq_ok, exec_pure_eq_ok, bind_eq_ok, pure_eq_ok]
  constructor
  · intro hparts
    obtain ⟨doc,_,⟨hdoc,rfl⟩,chunks,_,⟨hchunks,rfl⟩,⟨report,fields⟩,_,⟨hbuilt,rfl⟩,hsaved⟩ := hparts
    obtain ⟨_,_,⟨db,hsave,rfl⟩,hanswer,rfl⟩ := hsaved
    exact ⟨db,fields,⟨doc,hdoc,chunks,hchunks,_,hbuilt,db,hsave,rfl⟩,rfl,hanswer⟩
  · intro hparts
    obtain ⟨db,fields,⟨doc,hdoc,chunks,hchunks,⟨report,fields'⟩,hbuilt,hsaved⟩,rfl,rfl⟩ := hparts
    obtain ⟨db',hsave,hsame⟩ := hsaved
    obtain ⟨rfl,rfl⟩ := Prod.mk.inj (Except.ok.inj hsame)
    exact ⟨doc,_,⟨hdoc,rfl⟩,chunks,_,⟨hchunks,rfl⟩,_,_,⟨hbuilt,rfl⟩,(),_,⟨_,hsave,rfl⟩,rfl,rfl⟩

theorem exec_createDiffReport {uuid4 : String → Nat → String} {now : Nat}
    {reply : String → SectionReply} {currentDocumentId previousDocumentId : String}
    {answer : Answer} :
    (createDiffReport uuid4 now reply currentDocumentId previousDocumentId).run.exec x =
      some (y,.ok answer) ↔ ∃ db report,
        generateDiff uuid4 now reply x.db currentDocumentId previousDocumentId =
          .ok (db,report) ∧ { x with db } = y ∧ .diff report.serialize = answer := by
  rw [generateDiff_eq]
  simp only [createDiffReport, exec_bind_eq_ok, exec_lookDb_eq_ok, exec_give_eq_ok,
    exec_saveDb_eq_ok, exec_pure_eq_ok, bind_eq_ok, pure_eq_ok]
  constructor
  · intro hparts
    obtain ⟨_,_,⟨hcurrent,rfl⟩,_,_,⟨hprevious,rfl⟩,⟨c,p⟩,_,⟨hpair,rfl⟩,hreport⟩ := hparts
    obtain ⟨_,_,⟨hthese,rfl⟩,_,_,⟨hothers,rfl⟩,report,_,⟨hbuilt,rfl⟩,hsaved⟩ := hreport
    obtain ⟨_,_,⟨db,hsave,rfl⟩,hanswer,rfl⟩ := hsaved
    obtain rfl := Except.ok.inj hcurrent
    obtain rfl := Except.ok.inj hprevious
    obtain rfl := Except.ok.inj hthese
    obtain rfl := Except.ok.inj hothers
    exact ⟨db,report,⟨_,hpair,report,hbuilt,db,hsave,rfl⟩,rfl,hanswer⟩
  · intro hparts
    obtain ⟨db,report,⟨⟨c,p⟩,hpair,report',hbuilt,db',hsave,hsame⟩,rfl,rfl⟩ := hparts
    obtain ⟨rfl,rfl⟩ := Prod.mk.inj (Except.ok.inj hsame)
    exact ⟨_,_,⟨rfl,rfl⟩,_,_,⟨rfl,rfl⟩,_,_,⟨hpair,rfl⟩,_,_,⟨rfl,rfl⟩,_,_,⟨rfl,rfl⟩,_,_,
      ⟨hbuilt,rfl⟩,(),_,⟨_,hsave,rfl⟩,rfl,rfl⟩

theorem exec_gatherPeriod {documentId : String} {entry : PeriodEntry} :
    (gatherPeriod documentId).run.exec x = some (y,.ok entry) ↔
      periodEntry x.db documentId = .ok entry ∧ x = y := by
  rw [periodEntry_eq]
  simp only [gatherPeriod, exec_bind_eq_ok, exec_lookDb_eq_ok, exec_pure_eq_ok, bind_eq_ok,
    pure_eq_ok]
  constructor
  · intro hparts
    obtain ⟨doc,_,⟨hdoc,rfl⟩,report,_,⟨hreport,rfl⟩,hentry,rfl⟩ := hparts
    exact ⟨⟨doc,hdoc,report,hreport,congrArg Except.ok hentry⟩,rfl⟩
  · intro hparts
    obtain ⟨⟨doc,hdoc,report,hreport,hentry⟩,rfl⟩ := hparts
    exact ⟨doc,_,⟨hdoc,rfl⟩,report,_,⟨hreport,rfl⟩,Except.ok.inj hentry,rfl⟩

theorem exec_createTrendReport {trendReportId : String} {now : Nat}
    {documentIds kpiList : List String} {answer : Answer} :
    (createTrendReport trendReportId now documentIds kpiList).run.exec x =
      some (y,.ok answer) ↔
        if documentIds.length < 2 then
          x = y ∧ .refused "至少需要 2 份文件才能產生趨勢" = answer
        else ∃ db report,
          generateTrend trendReportId now x.db documentIds kpiList = .ok (db,report) ∧
            { x with db } = y ∧ .trend report.serialize = answer := by
  rw [createTrendReport]
  split
  · rw [exec_pure_eq_ok, and_comm]
  · rename_i hmany
    have hne : ¬ documentIds.isEmpty = true := by
      intro hempty
      rw [List.isEmpty_iff.mp hempty] at hmany
      exact hmany (by decide)
    rw [generateTrend, if_neg hne]
    simp only [exec_bind_eq_ok, exec_mapM_eq_ok (fun _ _ _ _ => exec_gatherPeriod),
      exec_lookDb_eq_ok, exec_give_eq_ok, exec_saveDb_eq_ok, exec_pure_eq_ok, bind_eq_ok,
      periodData, pure_eq_ok]
    constructor
    · intro hparts
      obtain ⟨found,_,⟨hfound,rfl⟩,points,_,⟨hpoints,rfl⟩,report,_,⟨hreport,rfl⟩,hsaved⟩ := hparts
      obtain ⟨_,_,⟨db,hsave,rfl⟩,hanswer,rfl⟩ := hsaved
      obtain rfl := Except.ok.inj hreport
      exact ⟨db,_,⟨_,⟨found,hfound,rfl⟩,points,hpoints,db,hsave,rfl⟩,rfl,hanswer⟩
    · intro hparts
      obtain ⟨db,report,⟨_,⟨found,hfound,hsorted⟩,points,hpoints,hsaved⟩,rfl,rfl⟩ := hparts
      obtain rfl := Except.ok.inj hsorted
      obtain ⟨db',hsave,hsame⟩ := hsaved
      obtain ⟨rfl,rfl⟩ := Prod.mk.inj (Except.ok.inj hsame)
      exact ⟨found,_,⟨hfound,rfl⟩,points,_,⟨hpoints,rfl⟩,_,_,⟨rfl,rfl⟩,(),_,⟨_,hsave,rfl⟩,rfl,
        rfl⟩

theorem exec_runPatterns {runId : String} {now : Nat} {documentId : String} {answer : Answer} :
    (runPatterns runId now documentId).run.exec x = some (y,.ok answer) ↔
      ∃ patternRuns run views,
        runPatternAnalysis runId now x.db x.patternRuns documentId =
          .ok (patternRuns,run,views) ∧
        { x with patternRuns } = y ∧ .patterns run views = answer := by
  rw [runPatternAnalysis_eq]
  simp only [runPatterns, savePatternRun, exec_bind_eq_ok, exec_lookDb_eq_ok, exec_save_eq_ok,
    map_eq_ok, exec_pure_eq_ok, bind_eq_ok, pure_eq_ok]
  constructor
  · intro hparts
    obtain ⟨doc,_,⟨hdoc,rfl⟩,report,_,⟨hreport,rfl⟩,_,_,⟨runs,hsave,rfl⟩,hanswer,rfl⟩ := hparts
    exact ⟨runs,_,_,⟨doc,hdoc,report,hreport,runs,hsave,rfl⟩,rfl,hanswer⟩
  · intro hparts
    obtain ⟨runs,run,views,⟨doc,hdoc,report,hreport,runs',hsave,hsame⟩,rfl,rfl⟩ := hparts
    obtain ⟨rfl,hrest⟩ := Prod.mk.inj (Except.ok.inj hsame)
    obtain ⟨rfl,rfl⟩ := Prod.mk.inj hrest
    exact ⟨doc,_,⟨hdoc,rfl⟩,report,_,⟨hreport,rfl⟩,(),_,⟨_,hsave,rfl⟩,rfl,rfl⟩

theorem exec_createDisclosureCoverage {coverageId : String} {now : Nat}
    {reply : Except PyError String} {documentId : String} {answer : Answer} :
    (createDisclosureCoverage coverageId now reply documentId).run.exec x =
      some (y,.ok answer) ↔ ∃ coverageReports fields,
        checkDisclosureCoverage coverageId now reply x.db x.coverageReports documentId =
          .ok (coverageReports,fields) ∧
        { x with coverageReports } = y ∧ .coverage fields = answer := by
  rw [checkDisclosureCoverage_eq]
  simp only [createDisclosureCoverage, saveCoverage, exec_bind_eq_ok, exec_lookDb_eq_ok,
    exec_give_eq_ok, exec_save_eq_ok, map_eq_ok, exec_pure_eq_ok, bind_eq_ok, pure_eq_ok]
  constructor
  · intro hparts
    obtain ⟨doc,_,⟨hdoc,rfl⟩,chunks,_,⟨hchunks,rfl⟩,report,_,⟨hbuilt,rfl⟩,hsaved⟩ := hparts
    obtain ⟨_,_,⟨reports,hsave,rfl⟩,hanswer,rfl⟩ := hsaved
    exact ⟨reports,_,⟨doc,hdoc,chunks,hchunks,report,hbuilt,reports,hsave,rfl⟩,rfl,hanswer⟩
  · intro hparts
    obtain ⟨reports,fields,⟨doc,hdoc,chunks,hchunks,report,hbuilt,hsaved⟩,rfl,rfl⟩ := hparts
    obtain ⟨reports',hsave,hsame⟩ := hsaved
    obtain ⟨rfl,rfl⟩ := Prod.mk.inj (Except.ok.inj hsame)
    exact ⟨doc,_,⟨hdoc,rfl⟩,chunks,_,⟨hchunks,rfl⟩,report,_,⟨hbuilt,rfl⟩,(),_,⟨_,hsave,rfl⟩,rfl,
      rfl⟩

theorem exec_fetchLoop {record : Stamp → Json → Except PyError ExternalDataRecord}
    {columns : List String} {stamps : Nat → Stamp} {rows : List (Json × Nat)}
    {shown : List Json} :
    (fetchLoop record columns stamps rows).run.exec x = some (y,.ok shown) ↔
      ∃ external, saveRows record columns stamps rows x.external = (external,.ok shown) ∧
        { x with external } = y := by
  induction rows generalizing x shown with
  | nil =>
    rw [fetchLoop, exec_pure_eq_ok, saveRows]
    constructor
    · intro hparts
      obtain ⟨rfl,rfl⟩ := hparts
      exact ⟨_,rfl,rfl⟩
    · intro hparts
      obtain ⟨external,hsame,rfl⟩ := hparts
      obtain ⟨rfl,hshown⟩ := Prod.mk.inj hsame
      exact ⟨Except.ok.inj hshown,rfl⟩
  | cons head rows ih =>
    obtain ⟨row,i⟩ := head
    simp only [fetchLoop, saveRecord, exec_bind_eq_ok, exec_give_eq_ok, exec_save_eq_ok,
      map_eq_ok, exec_pure_eq_ok]
    cases hrecord : record (stamps i) row with
    | error e => simp [saveRows, saveRow, hrecord]
    | ok kept =>
      cases hsave : Database.saveNew x.external (·.recordId) "record_id" kept with
      | error e => simp [saveRows, saveRow, hrecord, hsave]
      | ok stored =>
        have hrow : saveRow record columns stamps row i x.external =
            (stored,shownRow columns row) := by
          simp [saveRow, hrecord, hsave]
        cases hentry : shownRow columns row with
        | error e => simp [saveRows, hrow, hentry]
        | ok entry =>
          have hrows : saveRows record columns stamps ((row,i) :: rows) x.external =
              ((saveRows record columns stamps rows stored).1,
                (entry :: ·) <$> (saveRows record columns stamps rows stored).2) := by
            simp [saveRows, hrow, hentry]
          rw [hrows]
          constructor
          · intro hparts
            obtain ⟨k,_,⟨hk,rfl⟩,_,_,⟨s,hs,rfl⟩,e,_,⟨he,rfl⟩,rest,_,hrest,hshown,rfl⟩ := hparts
            obtain rfl := Except.ok.inj hk
            obtain rfl := Except.ok.inj (hsave.symm.trans hs)
            obtain rfl := Except.ok.inj he
            obtain ⟨external,hlater,hsame⟩ := ih.mp hrest
            have hrows' : saveRows record columns stamps rows stored = (external,.ok rest) := hlater
            refine ⟨external,?_,hsame⟩
            rw [hrows', ← hshown]
            rfl
          · intro hparts
            obtain ⟨external,hsame,rfl⟩ := hparts
            obtain ⟨rfl,hshown⟩ := Prod.mk.inj hsame
            obtain ⟨rest,hrest,hshown⟩ := map_eq_ok.mp hshown
            exact ⟨kept,_,⟨rfl,rfl⟩,(),_,⟨stored,hsave,rfl⟩,entry,_,⟨rfl,rfl⟩,rest,_,
              ih.mpr ⟨_,Prod.ext rfl hrest,rfl⟩,hshown,rfl⟩

theorem exec_fetchJob {fetched : Except PyError (List Json)}
    {record : Stamp → Json → Except PyError ExternalDataRecord} {columns : List String}
    {stamps : Nat → Stamp} {answer : Answer} :
    (fetchJob fetched record columns stamps).run.exec x = some (y,.ok answer) ↔
      ∃ rows external shown, fetched = .ok rows ∧
        saveRows record columns stamps rows.zipIdx x.external = (external,.ok shown) ∧
        { x with external } = y ∧ .fetched shown = answer := by
  simp only [fetchJob, exec_bind_eq_ok, exec_give_eq_ok, exec_fetchLoop, exec_pure_eq_ok]
  constructor
  · intro hparts
    obtain ⟨rows,_,⟨hrows,rfl⟩,shown,_,⟨external,hsaved,rfl⟩,hanswer,rfl⟩ := hparts
    exact ⟨rows,external,shown,hrows,hsaved,rfl,hanswer⟩
  · intro hparts
    obtain ⟨rows,external,shown,hrows,hsaved,rfl,rfl⟩ := hparts
    exact ⟨rows,_,⟨hrows,rfl⟩,shown,_,⟨external,hsaved,rfl⟩,rfl,rfl⟩

end Alone

/-- The saved store and the answer, `none` where the service raises. -/
def answered (x : Store) : ExternalData × Except PyError (List Json) → Option (Store × Answer)
  | (external,.ok shown) => some ({ x with external },.fetched shown)
  | (_,.error _) => none

/-- What the services make of a request in one go; `none` where they raise. -/
def JobRequest.atOnce (x : Store) : JobRequest → Option (Store × Answer)
  | .upload uploadDir documentId disk form =>
      if !isPdfName form.fileName then some (x,.refused "只接受 PDF 檔案")
      else ((saveUpload uploadDir documentId disk form x.db).map (fun db =>
        ({ x with db },.uploaded documentId))).toOption
  | .summary uuid4 now reply documentId =>
      ((generateSummary uuid4 now reply x.db documentId).map (fun r =>
        ({ x with db := r.1 },.summary r.2))).toOption
  | .diff uuid4 now reply currentDocumentId previousDocumentId =>
      ((generateDiff uuid4 now reply x.db currentDocumentId previousDocumentId).map (fun r =>
        ({ x with db := r.1 },.diff r.2.serialize))).toOption
  | .trend trendReportId now documentIds kpiList =>
      if documentIds.length < 2 then some (x,.refused "至少需要 2 份文件才能產生趨勢")
      else ((generateTrend trendReportId now x.db documentIds kpiList).map (fun r =>
        ({ x with db := r.1 },.trend r.2.serialize))).toOption
  | .patterns runId now documentId =>
      ((runPatternAnalysis runId now x.db x.patternRuns documentId).map (fun r =>
        ({ x with patternRuns := r.1 },.patterns r.2.1 r.2.2))).toOption
  | .coverage coverageId now reply documentId =>
      ((checkDisclosureCoverage coverageId now reply x.db x.coverageReports documentId).map
        (fun r => ({ x with coverageReports := r.1 },.coverage r.2))).toOption
  | .revenue api stamps stockId period =>
      answered x (fetchMonthlyRevenue api stamps stockId period x.external)
  | .financials api stamps stockId period =>
      answered x (fetchFinancialStatement api stamps stockId period x.external)

section Requests

variable {x y : Store} {answer : Answer}

theorem answered_eq_some {r : ExternalData × Except PyError (List Json)} :
    answered x r = some (y,answer) ↔ ∃ external shown, r = (external,.ok shown) ∧
      { x with external } = y ∧ .fetched shown = answer := by
  obtain ⟨external,shown⟩ := r
  cases shown with
  | error e => simp [answered]
  | ok shown => simp [answered]

private theorem map_eq_some {α : Type} {r : Except PyError α} {f : α → Store × Answer} :
    (r.map f).toOption = some (y,answer) ↔ ∃ a, r = .ok a ∧ f a = (y,answer) := by
  rw [toOption_eq_some]
  exact map_eq_ok

/-- With nobody else in between, a job answers just when the service does, saves what it saves
and answers what it answers. -/
theorem job_alone_iff (request : JobRequest) (x y : Store) (answer : Answer) :
    request.job.run.exec x = some (y,.ok answer) ↔ request.atOnce x = some (y,answer) := by
  cases request with
  | upload uploadDir documentId disk form =>
    rw [JobRequest.job, JobRequest.atOnce, uploadDocument]
    split
    · rw [exec_pure_eq_ok, Option.some.injEq, Prod.mk.injEq, and_comm]
    · rw [map_eq_some]
      simp only [saveUpload, exec_bind_eq_ok, exec_give_eq_ok, exec_saveDb_eq_ok,
        exec_pure_eq_ok, bind_eq_ok]
      constructor
      · intro hparts
        obtain ⟨_,_,⟨hdisk,rfl⟩,_,_,⟨hvalid,rfl⟩,_,_,⟨db,hsave,rfl⟩,rfl,rfl⟩ := hparts
        exact ⟨db,⟨_,hdisk,_,hvalid,hsave⟩,rfl⟩
      · intro hparts
        obtain ⟨db,⟨_,hdisk,_,hvalid,hsave⟩,hsame⟩ := hparts
        obtain ⟨rfl,rfl⟩ := Prod.mk.inj hsame
        exact ⟨_,_,⟨hdisk,rfl⟩,_,_,⟨hvalid,rfl⟩,(),_,⟨db,hsave,rfl⟩,rfl,rfl⟩
  | summary uuid4 now reply documentId =>
    rw [JobRequest.job, JobRequest.atOnce, exec_createSummary, map_eq_some]
    simp
  | diff uuid4 now reply currentDocumentId previousDocumentId =>
    rw [JobRequest.job, JobRequest.atOnce, exec_createDiffReport, map_eq_some]
    simp
  | trend trendReportId now documentIds kpiList =>
    rw [JobRequest.job, JobRequest.atOnce, exec_createTrendReport]
    split
    · simp
    · rw [map_eq_some]
      simp
  | patterns runId now documentId =>
    rw [JobRequest.job, JobRequest.atOnce, exec_runPatterns, map_eq_some]
    simp
  | coverage coverageId now reply documentId =>
    rw [JobRequest.job, JobRequest.atOnce, exec_createDisclosureCoverage, map_eq_some]
    simp
  | revenue api stamps stockId period =>
    refine exec_fetchJob.trans ?_
    rw [JobRequest.atOnce, answered_eq_some]
    unfold fetchMonthlyRevenue
    cases fetchRows api stockId period "TaiwanStockMonthRevenue" <;> simp
  | financials api stamps stockId period =>
    refine exec_fetchJob.trans ?_
    rw [JobRequest.atOnce, answered_eq_some]
    unfold fetchFinancialStatement
    cases fetchRows api stockId period "TaiwanStockFinancialStatements" <;> simp

end Requests

end FinancialPdfReader
