import FinancialPdfReader.Services.Summarization.Generate

namespace FinancialPdfReader

open Py

theorem ingestedDocument_eq_ok {db : Database} {documentId : String} {doc : PDFDocument}
    (h : ingestedDocument db documentId = .ok doc) :
    db.document? documentId = some doc ∧ doc.status = .completed := by
  rw [ingestedDocument] at h
  split at h
  · contradiction
  · rename_i found hfound
    split at h
    · rename_i hstatus
      cases h
      exact ⟨hfound,hstatus⟩
    · contradiction

/-- What a successful run read, and the one report that it added. -/
structure SummaryRun (uuid4 : Nat → String) (now : Nat) (reply : ModelReply) (db : Database)
    (documentId : String) where
  doc : PDFDocument
  rawText : String
  rawJson : Json
  tv : TemporalValidation
  parsed : List (AIClaim Json)
  claims : List (AIClaim String)
  report : AIReport
  ingested : ingestedDocument db documentId = .ok doc
  read : readReply reply = .ok (rawText,rawJson)
  temporal : validateTemporal rawJson doc.period = .ok tv
  parse : parseClaims uuid4 rawJson documentId tv.temporalConsistent.truthy = .ok parsed
  validated : parsed.mapM AIClaim.validate = .ok claims
  fresh : ∀ s ∈ db.aiReports, s.reportId ≠ report.reportId
  built : ∃ chunks note summary, report =
    summaryReport (uuid4 parsed.length) now doc chunks rawText tv note summary claims []

/-- A run either raises or adds one report, whose dashboard has no errors, and answers with it.
The pages that the report names are those of the chunks that were sent. -/
theorem generateSummary_reads {uuid4 : Nat → String} {now : Nat} {reply : ModelReply}
    {db saved : Database} {documentId : String} {post : List (String × Json)}
    (h : generateSummary uuid4 now reply db documentId = .ok (saved,post)) :
    ∃ (run : SummaryRun uuid4 now reply db documentId) (chunks : List PDFChunk),
      ingestedChunks db documentId = .ok chunks ∧ run.report.pagesCovered = pagesCovered chunks ∧
      saved = { db with aiReports := db.aiReports ++ [run.report] } ∧
      post = serializeSummaryResponse run.report run.tv.documentPeriod
        run.tv.requestedPeriod := by
  obtain ⟨doc,hdoc,h⟩ := bind_eq_ok.mp h
  obtain ⟨chunks,hchunks,h⟩ := bind_eq_ok.mp h
  obtain ⟨⟨rawText,rawJson⟩,hread,h⟩ := bind_eq_ok.mp h
  obtain ⟨tv,htv,h⟩ := bind_eq_ok.mp h
  obtain ⟨executiveSummary,-,h⟩ := bind_eq_ok.mp h
  obtain ⟨parsed,hparse,h⟩ := bind_eq_ok.mp h
  obtain ⟨claims,hclaims,h⟩ := bind_eq_ok.mp h
  obtain ⟨errors,herrors,h⟩ := bind_eq_ok.mp h
  obtain ⟨note,-,h⟩ := bind_eq_ok.mp h
  obtain ⟨summary,-,h⟩ := bind_eq_ok.mp h
  obtain ⟨after,hsave,h⟩ := bind_eq_ok.mp h
  obtain ⟨rfl,rfl⟩ := Prod.mk.inj (Except.ok.inj h)
  obtain ⟨hfresh,rfl⟩ := Database.saveReport_eq_ok hsave
  have hvalid : errors = [] := by
    have haccepted := validate_buildDashboardPayload
      (claims.filter (fun c => !c.contaminated)) claims tv.temporalConsistent
      (assess claims tv.temporalConsistent).narrativeFlag
      (assess claims tv.temporalConsistent).narrativeDensityScore
      (assess claims tv.temporalConsistent).narrativeDensityWeightedScore
    exact Except.ok.inj (herrors.symm.trans haccepted)
  subst hvalid
  exact ⟨⟨doc,rawText,rawJson,tv,parsed,claims,_,hdoc,hread,htv,hparse,hclaims,hfresh,
    chunks,note,summary,rfl⟩,chunks,hchunks,rfl,rfl,rfl⟩

theorem generateSummary_eq_ok {uuid4 : Nat → String} {now : Nat} {reply : ModelReply}
    {db saved : Database} {documentId : String} {post : List (String × Json)}
    (h : generateSummary uuid4 now reply db documentId = .ok (saved,post)) :
    ∃ run : SummaryRun uuid4 now reply db documentId,
      saved = { db with aiReports := db.aiReports ++ [run.report] } ∧
      post = serializeSummaryResponse run.report run.tv.documentPeriod
        run.tv.requestedPeriod := by
  obtain ⟨run,chunks,-,-,hsaved,hpost⟩ := generateSummary_reads h
  exact ⟨run,hsaved,hpost⟩

/-- A run that succeeds had a reply with a list of items to read. -/
theorem generateSummary_items {uuid4 : Nat → String} {now : Nat} {reply : ModelReply}
    {db saved : Database} {documentId : String} {post : List (String × Json)}
    (h : generateSummary uuid4 now reply db documentId = .ok (saved,post)) :
    ∃ rawText rawJson items, readReply reply = .ok (rawText,rawJson) ∧
      claimItems rawJson = .ok items := by
  obtain ⟨run,-,-⟩ := generateSummary_eq_ok h
  obtain ⟨items,hitems,-⟩ := bind_eq_ok.mp run.parse
  exact ⟨run.rawText,run.rawJson,items,run.read,hitems⟩

/-- Every saved claim is what the guards made of the item at its place. -/
theorem SummaryRun.claims_governed {uuid4 : Nat → String} {now : Nat} {reply : ModelReply}
    {db : Database} {documentId : String} (run : SummaryRun uuid4 now reply db documentId)
    {items : List Json} (hitems : claimItems run.rawJson = .ok items) :
    List.Forall₂ (fun item (c : AIClaim String) => ∃ uuid raw implied terms,
      raw.IsReadFrom uuid documentId item ∧
      c.map Json.str = governed run.tv.temporalConsistent.truthy raw implied terms)
      items run.report.claims := by
  obtain ⟨chunks,note,summary,hreport⟩ := run.built
  have hclaims : run.report.claims = run.claims := congrArg AIReport.claims hreport
  rw [hclaims]
  have hparsed := parseClaims_eq_ok hitems run.parse
  have hboth := forall₂_comp hparsed (mapM_eq_ok.mp run.validated)
  apply hboth.imp
  intro item c hparts
  obtain ⟨built,⟨uuid,raw,hraw,hgovern⟩,hvalid⟩ := hparts
  obtain ⟨implied,terms,-,-,rfl⟩ := govern_eq_ok hgovern
  exact ⟨uuid,raw,implied,terms,hraw,(AIClaim.validate_eq_ok hvalid).symm⟩

/-- Every dashboard that is built meets the contract, and so every report that is saved says. -/
theorem dashboards_valid :
    (∀ (cleanClaims allClaims : List (AIClaim String)) (temporalConsistent : Json)
      (narrativeFlag : Bool) (score weighted : ℚ),
      validateDashboardContractV1 (buildDashboardPayload cleanClaims allClaims
        temporalConsistent narrativeFlag score weighted).toJson = .ok []) ∧
    ∀ (uuid4 : Nat → String) (now : Nat) (reply : ModelReply) (db saved : Database)
      (documentId : String) (post : List (String × Json)),
      generateSummary uuid4 now reply db documentId = .ok (saved,post) →
      ∃ report, saved.aiReports = db.aiReports ++ [report] ∧
        report.dashboardContractValid = true ∧ report.dashboardContractErrors = [] := by
  refine ⟨validate_buildDashboardPayload,?_⟩
  intro uuid4 now reply db saved documentId post h
  obtain ⟨run,rfl,-⟩ := generateSummary_eq_ok h
  obtain ⟨chunks,note,summary,hreport⟩ := run.built
  refine ⟨run.report,rfl,?_,?_⟩ <;> rw [hreport] <;> rfl

/-- One ingested document of one page. -/
def ingestedDb : Database := { Database.empty with
  pdfDocuments := [⟨"d1","2330","2026Q1","d1.pdf",1,.completed,some 0⟩]
  pdfChunks := [⟨"k1","d1","2330","2026Q1",1,"營收","營收成長",4⟩] }

/-- The model found the report of an earlier quarter. -/
def earlierPeriodReply : ModelReply :=
  .text "\x7b\"temporal_validation\": \x7b\"document_period\": \"2025Q4\"\x7d\x7d"

theorem dashboards_valid_ingestedDb : ∃ saved post,
    generateSummary (fun _ => "r1") 0 earlierPeriodReply ingestedDb "d1" = .ok (saved,post) ∧
      ∃ report, saved.aiReports = [] ++ [report] ∧ report.dashboardContractValid = true ∧
        report.dashboardContractErrors = [] := by
  obtain ⟨⟨saved,post⟩,h⟩ := exists_ok_of_isOk
    (x := generateSummary (fun _ => "r1") 0 earlierPeriodReply ingestedDb "d1")
    (by decide +kernel)
  exact ⟨saved,post,h,dashboards_valid.2 _ _ _ _ _ _ _ h⟩

theorem SummaryRun.report_document {uuid4 : Nat → String} {now : Nat} {reply : ModelReply}
    {db : Database} {documentId : String} (run : SummaryRun uuid4 now reply db documentId) :
    run.report.documentId = documentId ∧ run.report.period = run.doc.period := by
  obtain ⟨chunks,note,summary,hreport⟩ := run.built
  have hdoc := (Database.document?_eq_some (ingestedDocument_eq_ok run.ingested).1).2
  exact ⟨(congrArg AIReport.documentId hreport).trans hdoc,congrArg AIReport.period hreport⟩

/-- What the model says of the periods is nothing but what the document says. -/
structure PeriodsDefault (tv : Json) (period : String) : Prop where
  documentPeriod : (tv.getD "document_period" (.str period)).truthy = false ∨
    tv.getD "document_period" (.str period) = .str period
  requestedPeriod : requestedMissing (tv.getD "requested_period" (.str period)) = true ∨
    (tv.getD "requested_period" (.str period)).truthy = false ∨
    tv.getD "requested_period" (.str period) = .str period

private theorem orElse_eq_iff (x : Json) (period : String) :
    x.orElse (.str period) = .str period ↔ x.truthy = false ∨ x = .str period := by
  rw [Json.orElse]
  cases htruthy : x.truthy with
  | false => simp
  | true => simp

/-- A requested period that is missing takes the model's view of the time axis away. -/
theorem validateTemporal_eq_ok {rawJson : Json} {period : String} {tv : TemporalValidation}
    (h : validateTemporal rawJson period = .ok tv) :
    let given := rawJson.getD "temporal_validation" (.obj [])
    let documentPeriod := given.getD "document_period" (.str period)
    let requestedPeriod := given.getD "requested_period" (.str period)
    tv = if requestedMissing requestedPeriod then
      ⟨.bool true,.str "",documentPeriod,documentPeriod⟩
    else ⟨given.getD "is_consistent" (.bool true),given.getD "mismatch_note" (.str ""),
      documentPeriod,requestedPeriod⟩ := by
  intro given documentPeriod requestedPeriod
  obtain ⟨tv',htv,h⟩ := bind_eq_ok.mp h
  obtain ⟨consistent,hconsistent,h⟩ := bind_eq_ok.mp h
  obtain ⟨note,hnote,h⟩ := bind_eq_ok.mp h
  obtain ⟨document,hdocument,h⟩ := bind_eq_ok.mp h
  obtain ⟨requested,hrequested,h⟩ := bind_eq_ok.mp h
  obtain ⟨-,rfl⟩ := Json.get_eq_ok.mp htv
  obtain ⟨-,rfl⟩ := Json.get_eq_ok.mp hconsistent
  obtain ⟨-,rfl⟩ := Json.get_eq_ok.mp hnote
  obtain ⟨-,rfl⟩ := Json.get_eq_ok.mp hdocument
  obtain ⟨-,rfl⟩ := Json.get_eq_ok.mp hrequested
  split at h
  · rename_i hmissing
    rw [if_pos hmissing]
    exact (Except.ok.inj h).symm
  · rename_i hpresent
    rw [if_neg hpresent]
    exact (Except.ok.inj h).symm

private theorem validateTemporal_periods {rawJson : Json} {period : String}
    {tv : TemporalValidation} (h : validateTemporal rawJson period = .ok tv) :
    (tv.documentPeriod.orElse (.str period) = .str period ∧
      tv.requestedPeriod.orElse (.str period) = .str period) ↔
      PeriodsDefault (rawJson.getD "temporal_validation" (.obj [])) period := by
  rw [validateTemporal_eq_ok h]
  split
  · rename_i hmissing
    simp only [orElse_eq_iff, and_self]
    exact ⟨fun hdoc => ⟨hdoc,Or.inl hmissing⟩,fun hdefault => hdefault.documentPeriod⟩
  · rename_i hgivenPeriod
    simp only [orElse_eq_iff]
    constructor
    · intro hparts
      obtain ⟨hdoc,hreq⟩ := hparts
      exact ⟨hdoc,Or.inr hreq⟩
    · intro hdefault
      exact ⟨hdefault.documentPeriod,hdefault.requestedPeriod.resolve_left hgivenPeriod⟩

private theorem lookup_concat_of_ne {fields : List (String × Json)} {key added : String}
    {value : Json} (h : key ≠ added) :
    (fields ++ [(added,value)]).lookup key = fields.lookup key := by
  induction fields with
  | nil =>
    have hbeq : (key == added) = false := by simpa using h
    simp [List.lookup_cons, hbeq]
  | cons e es ih =>
    obtain ⟨k,v⟩ := e
    rw [List.cons_append, List.lookup_cons, List.lookup_cons, ih]

/-- Two answers about one report agree exactly when they agree in the two periods, which are
the only fields that do not come from the report. -/
private theorem serialize_agree_iff (report : AIReport) (documentPeriod requestedPeriod : Json) :
    (∀ key, key ≠ "created_at" →
      (serializeSummaryResponse report documentPeriod requestedPeriod).lookup key =
        (serializeSummaryResponse report .null .null ++
          [("created_at",Json.str (toString report.createdAt))]).lookup key) ↔
      documentPeriod.orElse (.str report.period) = .str report.period ∧
        requestedPeriod.orElse (.str report.period) = .str report.period := by
  constructor
  · intro h
    constructor
    · exact Option.some.inj (h "document_period" (by decide))
    · exact Option.some.inj (h "requested_period" (by decide))
  · intro hparts key hkey
    obtain ⟨hdocument,hrequested⟩ := hparts
    rw [lookup_concat_of_ne hkey, serializeSummaryResponse, hdocument, hrequested]
    rfl

/-- The answer to the request that made a report and the one given for it later, whatever was
saved in between, agree in every field but the time exactly when the model repeats the
document's own period or leaves it open. -/
theorem summary_post_get_agree_iff {uuid4 : Nat → String} {now : Nat} {reply : ModelReply}
    {db saved later : Database} {documentId rawText : String} {doc : PDFDocument}
    {rawJson : Json} {post : List (String × Json)} {more : List AIReport}
    (hdoc : db.document? documentId = some doc)
    (hreply : readReply reply = .ok (rawText,rawJson))
    (h : generateSummary uuid4 now reply db documentId = .ok (saved,post))
    (hlater : later.aiReports = saved.aiReports ++ more) :
    ∃ reportId got, post.lookup "report_id" = some (.str reportId) ∧
      getSummary later documentId reportId = some got ∧
      ((∀ key, key ≠ "created_at" → post.lookup key = got.lookup key) ↔
        PeriodsDefault (rawJson.getD "temporal_validation" (.obj [])) doc.period) := by
  obtain ⟨run,rfl,rfl⟩ := generateSummary_eq_ok h
  obtain rfl : run.doc = doc :=
    Option.some.inj ((ingestedDocument_eq_ok run.ingested).1.symm.trans hdoc)
  obtain ⟨rfl,rfl⟩ : run.rawText = rawText ∧ run.rawJson = rawJson :=
    Prod.mk.inj (Except.ok.inj (run.read.symm.trans hreply))
  obtain ⟨hdocumentId,hperiod⟩ := run.report_document
  have hfound : later.report? documentId run.report.reportId = some run.report := by
    have happend : { db with aiReports := db.aiReports ++ run.report :: more }.report?
        run.report.documentId run.report.reportId = some run.report :=
      Database.report?_append run.fresh
    rw [hdocumentId] at happend
    simpa [Database.report?, hlater] using happend
  refine ⟨run.report.reportId,_,rfl,by rw [getSummary, hfound]; rfl,?_⟩
  rw [serialize_agree_iff, hperiod]
  exact validateTemporal_periods run.temporal

theorem summary_post_get_agree_iff_ingestedDb : ∃ rawText rawJson saved post reportId got,
    readReply earlierPeriodReply = .ok (rawText,rawJson) ∧
    generateSummary (fun _ => "r1") 0 earlierPeriodReply ingestedDb "d1" = .ok (saved,post) ∧
    getSummary saved "d1" reportId = some got ∧
    ((∀ key, key ≠ "created_at" → post.lookup key = got.lookup key) ↔
      PeriodsDefault (rawJson.getD "temporal_validation" (.obj [])) "2026Q1") := by
  obtain ⟨⟨rawText,rawJson⟩,hreply⟩ := exists_ok_of_isOk (x := readReply earlierPeriodReply)
    (by decide +kernel)
  obtain ⟨⟨saved,post⟩,h⟩ := exists_ok_of_isOk
    (x := generateSummary (fun _ => "r1") 0 earlierPeriodReply ingestedDb "d1")
    (by decide +kernel)
  obtain ⟨reportId,got,-,hgot,hagree⟩ := summary_post_get_agree_iff
    (show ingestedDb.document? "d1" = some ⟨"d1","2330","2026Q1","d1.pdf",1,.completed,some 0⟩
      by decide) hreply h (List.append_nil _).symm
  exact ⟨rawText,rawJson,saved,post,reportId,got,hreply,h,hgot,hagree⟩

/-- The answer to the request names the quarter that the model found, the later one that of the
document. -/
theorem summary_post_get_differ :
    ¬ ∀ saved post got,
      generateSummary (fun _ => "r1") 0 earlierPeriodReply ingestedDb "d1" = .ok (saved,post) →
      getSummary saved "d1" "r1" = some got →
      ∀ key, key ≠ "created_at" → post.lookup key = got.lookup key := by
  have hrun : (fun r => (r.2.lookup "document_period",
      (getSummary r.1 "d1" "r1").map (·.lookup "document_period"))) <$>
      generateSummary (fun _ => "r1") 0 earlierPeriodReply ingestedDb "d1" =
        .ok (some (.str "2025Q4"),some (some (.str "2026Q1"))) := by decide +kernel
  obtain ⟨⟨saved,post⟩,h,hboth⟩ := map_eq_ok.mp hrun
  obtain ⟨hpost,hlater⟩ := Prod.mk.inj hboth
  obtain ⟨got,hgot,hperiod⟩ := Option.map_eq_some_iff.mp hlater
  intro hall
  have heq := hall saved post got h hgot "document_period" (by decide)
  rw [show post.lookup "document_period" = some (.str "2025Q4") from hpost, hperiod] at heq
  exact absurd heq (by decide)

end FinancialPdfReader
