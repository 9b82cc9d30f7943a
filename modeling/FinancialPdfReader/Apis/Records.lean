import FinancialPdfReader.Apis.Runs
import FinancialPdfReader.Services.Audit

namespace FinancialPdfReader

open Py Pool

variable {files : Files} {s t : State Store Call} {es : List (Pool.Event Request Tick)}

section Lookups

variable {x : Store}

theorem find?_of_unique {α : Type} {p : α → Bool} {rows : List α} {r : α} (hr : r ∈ rows)
    (hp : p r = true) (hunique : ∀ s ∈ rows, p s = true → s = r) : rows.find? p = some r := by
  have hsome : (rows.find? p).isSome = true := List.find?_isSome.mpr ⟨r,hr,hp⟩
  obtain ⟨found,hfound⟩ := Option.isSome_iff_exists.mp hsome
  rw [hfound, hunique found (List.mem_of_find?_eq_some hfound) (List.find?_some hfound)]

theorem Consistent.report? (hx : Consistent files x) {r : AIReport} (hr : .report r ∈ x.rows) :
    x.db.report? r.documentId r.reportId = some r := by
  refine find?_of_unique hr (by simp) (fun found hfound hsame => ?_)
  rw [Bool.and_eq_true, decide_eq_true_eq] at hsame
  have hrow : .report found ∈ x.rows := hfound
  exact Row.report.inj (hx.keyed hrow hr (congrArg (Prod.mk _) hsame.1))

theorem Consistent.diffReport? (hx : Consistent files x) {r : DiffReport}
    (hr : .diff r ∈ x.rows) : x.db.diffReport? r.diffReportId = some r := by
  refine find?_of_unique hr (by simp) (fun found hfound hsame => ?_)
  have hrow : .diff found ∈ x.rows := hfound
  exact Row.diff.inj (hx.keyed hrow hr (congrArg (Prod.mk _) (of_decide_eq_true hsame)))

theorem Consistent.trendReport? (hx : Consistent files x) {r : TrendReport}
    (hr : .trend r ∈ x.rows) : trendReport? x.db r.trendReportId = some r := by
  refine find?_of_unique hr (by simp) (fun found hfound hsame => ?_)
  have hrow : .trend found ∈ x.rows := hfound
  exact Row.trend.inj (hx.keyed hrow hr (congrArg (Prod.mk _) (of_decide_eq_true hsame)))

theorem diffReport?_mem {diffReportId : String} {r : DiffReport}
    (h : x.db.diffReport? diffReportId = some r) :
    .diff r ∈ x.rows ∧ r.diffReportId = diffReportId :=
  ⟨List.mem_of_find?_eq_some h,by simpa using List.find?_some h⟩

theorem trendReport?_mem {trendReportId : String} {r : TrendReport}
    (h : trendReport? x.db trendReportId = some r) :
    .trend r ∈ x.rows ∧ r.trendReportId = trendReportId :=
  ⟨List.mem_of_find?_eq_some h,by simpa using List.find?_some h⟩

theorem report?_mem {documentId reportId : String} {r : AIReport}
    (h : x.db.report? documentId reportId = some r) :
    .report r ∈ x.rows ∧ r.reportId = reportId ∧ r.documentId = documentId := by
  have hfound := List.find?_some h
  rw [Bool.and_eq_true, decide_eq_true_eq, decide_eq_true_eq] at hfound
  exact ⟨List.mem_of_find?_eq_some h,hfound⟩

end Lookups

section Archive

/-- The backend is an archive: whatever requests are worked off, in whatever order their steps
come and wherever they fail, what is on record stays there under a name of its own, no name is
given twice, and what comes in is made of what was there before it. -/
theorem archive_of_run (hs : Reachable files s) (hrun : run (backend files) s es = some t) :
    Archive.Keyed Row.key t.shared.rows ∧ (∀ col, (t.shared.ids col).Nodup) ∧
    s.shared.rows ⊆ t.shared.rows ∧
    ∀ row ∈ t.shared.rows, row ∉ s.shared.rows → ∃ A, s.shared.rows ⊆ A ∧ row ∉ A ∧
      insert row A ⊆ t.shared.rows ∧ Justified files A row := by
  obtain ⟨ht,hgrows⟩ := hs.run hrun
  refine ⟨ht.holds.inv.keyed,ht.holds.inv.ids,Archive.Grows.subset hgrows,?_⟩
  intro row hrow hnew
  obtain ⟨A,hbefore,hafter,hrowA,hwhy⟩ := Archive.Grows.reason hgrows hrow hnew
  exact ⟨A,Archive.Grows.subset hbefore,hrowA,Archive.Grows.subset hafter,hwhy⟩

theorem archive_of_run_sample : ∃ s t row A, SampleRun s t ∧ row ∈ t.shared.rows ∧
    row ∉ s.shared.rows ∧ s.shared.rows ⊆ A ∧ Justified quarterFiles A row := by
  obtain ⟨s,t,sample⟩ := sample_run
  have hlater : "u12-3" ∈ t.shared.db.pdfChunks.map (·.chunkId) := by simp [sample.later]
  obtain ⟨c,hc,hid⟩ := List.mem_map.mp hlater
  have hrow : .chunk c.unlabelled ∈ t.shared.rows := List.mem_map_of_mem hc
  have hnew : .chunk c.unlabelled ∉ s.shared.rows := by
    intro hold
    have htaken : c.chunkId ∈ s.shared.db.pdfChunks.map (·.chunkId) := Store.key_mem_ids hold
    rw [sample.chunks, hid] at htaken
    exact absurd htaken (by decide)
  obtain ⟨-,-,-,hreasons⟩ := archive_of_run sample.reachable sample.run
  obtain ⟨A,hbefore,-,-,hwhy⟩ := hreasons _ hrow hnew
  exact ⟨s,t,_,A,sample,hrow,hnew,hbefore,hwhy⟩

end Archive

section Reads

/-- The routes that show a report to those who know its identifier. -/
inductive ReportRead where
  | summary (documentId reportId : String)
  | audit (documentId reportId : String)
  | diff (diffReportId : String)
  | diffAudit (diffReportId : String)
  | trend (trendReportId : String)

inductive Shown where
  | payload (fields : Payload)
  | audit (response : AuditResponse)

/-- `none` is the answer 404. -/
def ReportRead.shown (db : Database) : ReportRead → Option Shown
  | .summary documentId reportId => (getSummary db documentId reportId).map .payload
  | .audit documentId reportId =>
      (runAudit db documentId (some reportId)).toOption.map .audit
  | .diff diffReportId => (getDiffReport db diffReportId).map .payload
  | .diffAudit diffReportId => (runDiffAudit db diffReportId).toOption.map .audit
  | .trend trendReportId => (getTrend db trendReportId).toOption.map .payload

/-- Without an identifier the audit takes the latest report. -/
def ReportRead.Named : ReportRead → Prop
  | .audit _ reportId => reportId ≠ ""
  | _ => True

theorem auditedReport_named {db : Database} {documentId reportId : String} (h : reportId ≠ "") :
    auditedReport db documentId (some reportId) = db.report? documentId reportId := if_neg h

/-- What is shown depends on the one report that is named. -/
theorem ReportRead.shown_of_found {x y : Store} {read : ReportRead} (hnamed : read.Named)
    (hy : Consistent files y) (hxy : Grows files x y) {a : Shown}
    (h : read.shown x.db = some a) : read.shown y.db = some a := by
  have hreport : ∀ documentId reportId r, x.db.report? documentId reportId = some r →
      y.db.report? documentId reportId = some r := by
    intro documentId reportId r hr
    obtain ⟨hrow,rfl,rfl⟩ := report?_mem hr
    exact hy.report? (hxy.mem hrow)
  have hdiff : ∀ diffReportId r, x.db.diffReport? diffReportId = some r →
      y.db.diffReport? diffReportId = some r := by
    intro diffReportId r hr
    obtain ⟨hrow,rfl⟩ := diffReport?_mem hr
    exact hy.diffReport? (hxy.mem hrow)
  cases read with
  | summary documentId reportId =>
    obtain ⟨fields,hfields,rfl⟩ := Option.map_eq_some_iff.mp h
    obtain ⟨r,hr,rfl⟩ := Option.map_eq_some_iff.mp hfields
    rw [ReportRead.shown, getSummary, hreport _ _ r hr]
    rfl
  | audit documentId reportId =>
    cases hr : x.db.report? documentId reportId with
    | none =>
      rw [ReportRead.shown, runAudit, auditedReport_named hnamed, hr] at h
      contradiction
    | some r =>
      rw [ReportRead.shown, runAudit, auditedReport_named hnamed, hr] at h
      rw [ReportRead.shown, runAudit, auditedReport_named hnamed, hreport _ _ r hr]
      exact h
  | diff diffReportId =>
    obtain ⟨fields,hfields,rfl⟩ := Option.map_eq_some_iff.mp h
    obtain ⟨r,hr,rfl⟩ := Option.map_eq_some_iff.mp hfields
    rw [ReportRead.shown, getDiffReport, hdiff _ r hr]
    rfl
  | diffAudit diffReportId =>
    cases hr : x.db.diffReport? diffReportId with
    | none =>
      rw [ReportRead.shown, runDiffAudit, hr] at h
      contradiction
    | some r =>
      rw [ReportRead.shown, runDiffAudit, hr] at h
      rw [ReportRead.shown, runDiffAudit, hdiff _ r hr]
      exact h
  | trend trendReportId =>
    cases hr : trendReport? x.db trendReportId with
    | none =>
      rw [ReportRead.shown, getTrend, hr] at h
      contradiction
    | some r =>
      obtain ⟨hrow,rfl⟩ := trendReport?_mem hr
      rw [ReportRead.shown, getTrend, hr] at h
      rw [ReportRead.shown, getTrend, hy.trendReport? (hxy.mem hrow)]
      exact h

/-- A report that is shown is shown the same ever after, whatever else is requested. -/
theorem shown_ever_after (hs : Reachable files s) (hrun : run (backend files) s es = some t)
    {read : ReportRead} (hnamed : read.Named) {a : Shown}
    (h : read.shown s.shared.db = some a) : read.shown t.shared.db = some a := by
  obtain ⟨ht,hgrows⟩ := hs.run hrun
  exact read.shown_of_found hnamed ht.holds.inv hgrows h

theorem shown_ever_after_sample : ∃ s t a, SampleRun s t ∧
    (ReportRead.diff "x0").shown s.shared.db = some a ∧
    (ReportRead.diff "x0").shown t.shared.db = some a := by
  obtain ⟨s,t,sample⟩ := sample_run
  obtain ⟨r,hr,hid⟩ := List.mem_map.mp (sample.diffs ▸ List.mem_singleton_self "x0")
  have hfound : s.shared.db.diffReport? "x0" = some r :=
    hid ▸ sample.reachable.holds.inv.diffReport? hr
  have hshown : (ReportRead.diff "x0").shown s.shared.db = some (.payload r.serialize) := by
    rw [ReportRead.shown, getDiffReport, hfound]
    rfl
  have hnamed : (ReportRead.diff "x0").Named := trivial
  exact ⟨s,t,_,sample,hshown,shown_ever_after sample.reachable sample.run hnamed hshown⟩

end Reads

section Answers

end Answers

end FinancialPdfReader
