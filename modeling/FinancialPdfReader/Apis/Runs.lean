import FinancialPdfReader.Apis.Backend
import FinancialPdfReader.Apis.CallSteps
import FinancialPdfReader.Apis.JobSteps

namespace FinancialPdfReader

open Py Pool

/-- What holds of a call that has come in, whatever the others do. -/
def Call.Sound (files : Files) (x : Store) : Call → Prop
  | .ingest call => call.OnRecord files x
  | .extractTables call => call.OnRecord files x
  | .classify call => call.OnRecord x ∧ call.Counted
  | .overrideSection call => call.OnRecord x
  | .job _ rest => rest.Meets (Grows files) (Consistent files)
      (fun y r => ∀ answer, r = .ok answer → Answered y answer) x

/-- What the route has answered, if it has. -/
def Call.answer? : Call → Option Answer
  | .job _ (.done (.ok answer)) => some answer
  | _ => none

theorem Call.answer?_eq_some {call : Call} {answer : Answer} (h : call.answer? = some answer) :
    ∃ request, call = .job request (.done (.ok answer)) := by
  unfold Call.answer? at h
  split at h
  · obtain rfl := Option.some.inj h
    exact ⟨_,rfl⟩
  · contradiction

section Steps

variable {files : Files} {x y : Store} {call call' : Call}

theorem Call.Sound.stable (hxy : Grows files x y) (h : call.Sound files x) :
    call.Sound files y := by
  cases call with
  | ingest call => exact IngestCall.OnRecord.stable hxy h
  | extractTables call => exact ExtractCall.OnRecord.stable hxy h
  | classify call => exact ⟨ClassifyCall.OnRecord.stable hxy h.1,h.2⟩
  | overrideSection call => exact OverrideCall.OnRecord.stable hxy h
  | job request rest => exact Program.Meets.stable h hxy

theorem Request.call_sound (files : Files) (x : Store) (request : Request) :
    request.call.Sound files x := by
  cases request with
  | ingest documentId => exact .inr (.inl ⟨rfl,rfl⟩)
  | extractTables documentId => exact .inr (.inl ⟨rfl,rfl⟩)
  | classify documentId useLlmFallback =>
    exact ⟨(fun c hc => absurd hc List.not_mem_nil),trivial⟩
  | overrideSection chunkId sectionName => exact fun c hc => nomatch hc
  | job request => exact (sound_job files request x).run

/-- A step of a call keeps the store consistent, only adds to the record, and goes on as the call
began. -/
theorem CallMove.sound (h : CallMove files x call y call') (hx : Consistent files x)
    (hcall : call.Sound files x) :
    Consistent files y ∧ call'.Sound files y ∧ Grows files x y := by
  cases h with
  | ingest h =>
    obtain ⟨hy,hgrows⟩ := h.consistent hx hcall
    exact ⟨hy,h.onRecord hx hgrows hcall,hgrows⟩
  | extractTables h =>
    obtain ⟨hy,hgrows⟩ := h.consistent hx hcall
    exact ⟨hy,h.onRecord hx hgrows hcall,hgrows⟩
  | classify reply h =>
    obtain ⟨hy,hgrows⟩ := classifyStep_consistent h hx
    have honRecord := (classifyStep_onRecord h hcall.1).1.stable hgrows
    exact ⟨hy,⟨honRecord,classifyStep_counted h hcall.2⟩,hgrows⟩
  | overrideSection h =>
    obtain ⟨hy,hgrows⟩ := overrideStep_consistent h hx hcall
    exact ⟨hy,(overrideStep_onRecord h).1.stable hgrows,hgrows⟩
  | classifyFail message h =>
    exact ⟨hx,⟨(classifyFail_onRecord h).1,classifyFail_counted h⟩,.refl⟩
  | overrideFail message h => exact ⟨hx,(overrideFail_onRecord h).1,.refl⟩
  | job h =>
    obtain ⟨hy,hgrows,hrest⟩ := Program.Meets.step hcall hx h
    exact ⟨hy,hrest,hgrows⟩
  | jobFail message h => exact ⟨hx,RaisingProgram.meets_error.run,.refl⟩

theorem backend_outline (files : Files) :
    Outline (backend files) (Grows files) (Consistent files) (Call.Sound files) where
  call := fun x request _ => request.call_sound files x
  advance := fun _ _ _ _ _ h hx hcall => (advance_move h).sound hx hcall
  stable := fun _ _ _ hxy _ _ hcall => hcall.stable hxy

end Steps

section Runs

variable {files : Files} {s t : State Store Call} {es : List (Pool.Event Request Tick)}

/-- What the backend can come to, from an empty store. -/
def Reachable (files : Files) (s : State Store Call) : Prop :=
  ∃ es, run (backend files) (start Store.empty) es = some s

theorem grows_of_reflTransGen {x y : Store}
    (h : Relation.ReflTransGen (Grows files) x y) : Grows files x y := by
  induction h with
  | refl => exact .refl
  | tail _ hyz ih => exact ih.trans hyz

theorem Reachable.holds (h : Reachable files s) :
    Holds (Consistent files) (Call.Sound files) s := by
  obtain ⟨es,hrun⟩ := h
  exact ((backend_outline files).run (holds_start (consistent_empty files)) hrun).1

theorem Reachable.run (h : Reachable files s) (hrun : run (backend files) s es = some t) :
    Reachable files t ∧ Grows files s.shared t.shared := by
  have hgrows := ((backend_outline files).run h.holds hrun).2
  obtain ⟨before,hbefore⟩ := h
  have hboth : Pool.run (backend files) (start Store.empty) (before ++ es) = some t :=
    (Traces.run_append _ before es).trans (Option.bind_eq_some_iff.mpr ⟨s,hbefore,hrun⟩)
  exact ⟨⟨before ++ es,hboth⟩,grows_of_reflTransGen hgrows⟩

/-- Whatever was answered has been put on record. -/
theorem Reachable.answered (h : Reachable files s) {call : Call} (hcall : call ∈ s.calls)
    {answer : Answer} (hanswer : call.answer? = some answer) : Answered s.shared answer := by
  obtain ⟨request,rfl⟩ := Call.answer?_eq_some hanswer
  have hsound : Program.Meets (Grows files) (Consistent files)
      (fun y (r : Except PyError Answer) => ∀ a, r = .ok a → Answered y a) (.done (.ok answer))
      s.shared :=
    h.holds.sound _ hcall
  exact hsound.result h.holds.inv answer rfl

end Runs

section Sample

/-- Which kind of request an answer is to. -/
def Answer.kind : Answer → String
  | .refused _ => "refused"
  | .uploaded _ => "upload"
  | .summary _ => "summary"
  | .diff _ => "diff"
  | .trend _ => "trend"
  | .patterns _ _ => "patterns"
  | .coverage _ => "coverage"
  | .fetched _ => "fetched"

/-- The kind of answer that a call has got, if any. -/
def Call.answered (call : Call) : String := (call.answer?.map Answer.kind).getD ""

def onePage (text : String) : PdfFile := .ok [⟨.ok (some text),.ok []⟩]

/-- The reports of two quarters of one company. -/
def quarterFiles : Files := fun path =>
  if path = "uploads/d1_2330_2025Q4.pdf" then some (onePage "營業收入成長")
  else if path = "uploads/d2_2330_2026Q1.pdf" then some (onePage "毛利率下降")
  else none

def uploadQuarter (documentId fileName : String) : Pool.Event Request Tick :=
  .request (.job (.upload "uploads" documentId (.ok ())
    ⟨fileName,"2330","","","quarterly_report","general"⟩))

def requestJob (job : JobRequest) : Pool.Event Request Tick := .request (.job job)

/-- Step `k` of the call that came in at place `i`. -/
def goOn (i k : Nat) : Pool.Event Request Tick :=
  .advance i (.go ("u" ++ toString i ++ "-" ++ toString k) k (.ok "其他"))

def steps (i n : Nat) : List (Pool.Event Request Tick) := (List.range n).map (goOn i)

/-- Two ingestions in turns. -/
def bothIngested : List (Pool.Event Request Tick) :=
  [uploadQuarter "d1" "2330_2025Q4.pdf",uploadQuarter "d2" "2330_2026Q1.pdf"] ++
    steps 0 1 ++ steps 1 1 ++ [.request (.ingest "d1"),.request (.ingest "d2")] ++
    (List.range 5).flatMap (fun k => [goOn 2 k,goOn 3 k])

/-- The model finds what the management expects. -/
def expectation : ModelReply := .text ("\x7b\"claims\": [\x7b\"claim_id\": \"c1\", " ++
  "\"claim\": \"預期擴建廠房\", \"source_type\": \"management_expectation\", " ++
  "\"section_key\": \"pipeline\", \"evidence\": [\x7b\"page\": 1\x7d]\x7d]\x7d")

/-- A summary of each, and the other analyses. -/
def analysed : List (Pool.Event Request Tick) :=
  [requestJob (.summary (fun _ => "r1") 0 expectation "d1"),
    requestJob (.summary (fun _ => "r2") 0 (.text "{}") "d2")] ++ steps 4 3 ++ steps 5 3 ++
    [requestJob (.diff (fun s k => "x" ++ s ++ toString k) 0 (fun _ => .text "{}") "d2" "d1"),
      requestJob (.trend "t1" 0 ["d2","d1"] []),requestJob (.patterns "p1" 0 "d1"),
      requestJob (.coverage "c1" 0 (.ok "{}") "d1")] ++
    steps 6 5 ++ steps 7 6 ++ steps 8 3 ++ steps 9 3

/-- A section is corrected while one document is classified, and the other is ingested again. -/
def corrected : List (Pool.Event Request Tick) :=
  [.request (.classify "d1" true),.request (.overrideSection "u2-3" "營收"),
    .request (.ingest "d2")] ++ steps 10 1 ++ steps 11 2 ++ steps 10 2 ++ steps 12 4 ++
    [.advance 12 (.fail "connection lost")]

/-- What the two parts of the sample lead to. -/
structure SampleRun (s t : State Store Call) : Prop where
  reachable : Reachable quarterFiles s
  run : Pool.run (backend quarterFiles) s corrected = some t
  documents : s.shared.db.pdfDocuments.map
    (fun d => (d.documentId,decide (d.status = .completed))) = [("d1",true),("d2",true)]
  chunks : s.shared.db.pdfChunks.map (·.chunkId) = ["u2-3","u3-3"]
  reports : s.shared.db.aiReports.map (fun r => (r.documentId,r.reportId)) =
    [("d1","r1"),("d2","r2")]
  claims : s.shared.db.aiReports.flatMap (fun r => r.claims.map (·.claimId)) = ["c1"]
  diffs : s.shared.db.diffReports.map (·.diffReportId) = ["x0"]
  trends : s.shared.db.trendReports.map (·.trendReportId) = ["t1"]
  answers : s.calls.map Call.answered =
    ["upload","upload","","","summary","summary","diff","trend","patterns","coverage"]
  later : t.shared.db.pdfChunks.map (·.chunkId) = ["u2-3","u3-3","u12-3"]
  failed : ((t.shared.db.document? "d2").toList.filter (fun d => d.status = .failed)).map
    (·.filePath) = ["uploads/d2_2330_2026Q1.pdf"]

theorem exists_answer {s : State Store Call} (kind : String)
    (hkind : kind ∈ s.calls.map Call.answered) (hne : kind ≠ "") :
    ∃ call ∈ s.calls, ∃ answer, call.answer? = some answer ∧ answer.kind = kind := by
  obtain ⟨call,hcall,rfl⟩ := List.mem_map.mp hkind
  cases hanswer : call.answer? with
  | none => simp [Call.answered, hanswer] at hne
  | some answer =>
    exact ⟨call,hcall,answer,hanswer,by simp [Call.answered, hanswer]⟩

theorem sample_run : ∃ s t, SampleRun s t := by
  have hrun : ((Pool.run (backend quarterFiles) (start Store.empty) (bothIngested ++ analysed)).bind
      (fun s => (Pool.run (backend quarterFiles) s corrected).map (fun t =>
        (s.shared.db.pdfDocuments.map (fun d => (d.documentId,decide (d.status = .completed))),
          s.shared.db.aiReports.map (fun r => (r.documentId,r.reportId)),
          [s.calls.map Call.answered,s.shared.db.pdfChunks.map (·.chunkId),
            s.shared.db.aiReports.flatMap (fun r => r.claims.map (·.claimId)),
            s.shared.db.diffReports.map (·.diffReportId),
            s.shared.db.trendReports.map (·.trendReportId),
            t.shared.db.pdfChunks.map (·.chunkId),
            ((t.shared.db.document? "d2").toList.filter (fun d => d.status = .failed)).map
              (·.filePath)])))) =
      some ([("d1",true),("d2",true)],[("d1","r1"),("d2","r2")],
        [["upload","upload","","","summary","summary","diff","trend","patterns","coverage"],
          ["u2-3","u3-3"],["c1"],["x0"],["t1"],["u2-3","u3-3","u12-3"],
          ["uploads/d2_2330_2026Q1.pdf"]]) := by
    decide +kernel
  obtain ⟨s,hs,hrun⟩ := Option.bind_eq_some_iff.mp hrun
  obtain ⟨t,ht,hsame⟩ := Option.map_eq_some_iff.mp hrun
  simp only [Prod.mk.injEq, List.cons.injEq, and_true] at hsame
  obtain ⟨hdocuments,hreports,hanswers,hchunks,hclaims,hdiffs,htrends,hlater,hfailed⟩ := hsame
  exact ⟨s,t,⟨_,hs⟩,ht,hdocuments,hchunks,hreports,hclaims,hdiffs,htrends,hanswers,hlater,
    hfailed⟩

end Sample

end FinancialPdfReader
