import FinancialPdfReader.Apis.StoredContent
import FinancialPdfReader.Python.Number
import FinancialPdfReader.Python.Sorted
import FinancialPdfReader.Services.Summarization.Saved

namespace FinancialPdfReader

open Py

/-- How much of a document the model got to see for a report. -/
structure Coverage where
  reportId : String
  documentId : String
  totalPages : Nat
  pagesCovered : List Nat
  coveragePct : ℚ
  chunksUsed : Nat
  totalChunks : Nat
  uncoveredPages : List Nat

/-- What the route makes of a report, of the pages that its document is said to have, and of the
chunks that are stored of it. -/
def coverageOf (report : AIReport) (totalPages totalChunks : Nat) : Coverage :=
  let coveredSet := report.pagesCovered.dedup
  { reportId := report.reportId
    documentId := report.documentId
    totalPages
    pagesCovered := coveredSet.insertionSort (· ≤ ·)
    coveragePct :=
      if 0 < totalPages then roundTo 1 (coveredSet.length / totalPages * 100) else 0
    chunksUsed := report.chunksUsed.length
    totalChunks
    uncoveredPages :=
      if 0 < totalPages then
        (List.range' 1 totalPages).filter (fun p => !coveredSet.contains p)
      else [] }

/-- The route for the coverage of a report, found by the two ids that the answer repeats; `none`
is the answer 404. -/
def getCoverage (db : Database) (documentId reportId : String) : Option Coverage :=
  (db.report? documentId reportId).map (fun report =>
    coverageOf report (((db.document? documentId).map (·.totalPages)).getD 0)
      (db.chunksOf documentId).length)

def WithinPages (n : Nat) (pages : List Nat) : Prop := ∀ p ∈ pages, 1 ≤ p ∧ p ≤ n

/-- The pages of a file of `n` pages, told apart into those that were read for the report and the
others. -/
structure Coverage.Splits (c : Coverage) (report : AIReport) (n : Nat) : Prop where
  totalPages : c.totalPages = n
  covered : ∀ p, p ∈ c.pagesCovered ↔ p ∈ report.pagesCovered
  coveredStrict : c.pagesCovered.Pairwise (· < ·)
  coveredWithin : WithinPages n c.pagesCovered
  uncoveredStrict : c.uncoveredPages.Pairwise (· < ·)
  complement : ∀ p, p ∈ c.uncoveredPages ↔ 1 ≤ p ∧ p ≤ n ∧ p ∉ c.pagesCovered
  lengths : c.pagesCovered.length + c.uncoveredPages.length = n
  percent : 0 ≤ c.coveragePct ∧ c.coveragePct ≤ 100

private theorem mem_pageRange {n p : Nat} : p ∈ List.range' 1 n ↔ 1 ≤ p ∧ p ≤ n := by
  rw [List.mem_range'_1]
  omega

/-- A document without pages needs no case of its own. -/
theorem coverageOf_uncoveredPages (report : AIReport) (n totalChunks : Nat) :
    (coverageOf report n totalChunks).uncoveredPages =
      (List.range' 1 n).filter (fun p => !report.pagesCovered.dedup.contains p) := by
  cases n with
  | zero => rfl
  | succ n => rfl

section Splits

variable {report : AIReport} {n : Nat} (h : WithinPages n report.pagesCovered)
include h

private theorem coverageOf_lengths (totalChunks : Nat) :
    report.pagesCovered.dedup.length + (coverageOf report n totalChunks).uncoveredPages.length =
      n := by
  have hrange : (List.range' 1 n).Nodup := List.nodup_range'
  have hlengths := length_add_length_left (List.nodup_dedup report.pagesCovered) hrange
    (fun p hp => mem_pageRange.mpr (h p (List.mem_dedup.mp hp)))
  rwa [List.length_range', ← coverageOf_uncoveredPages report n totalChunks] at hlengths

private theorem coverageOf_percent (totalChunks : Nat) :
    0 ≤ (coverageOf report n totalChunks).coveragePct ∧
      (coverageOf report n totalChunks).coveragePct ≤ 100 := by
  rw [coverageOf]
  dsimp only
  split
  · rename_i hpos
    have htotal : (0 : ℚ) < n := by exact_mod_cast hpos
    have hle : (report.pagesCovered.dedup.length : ℚ) ≤ n := by
      exact_mod_cast Nat.le.intro (coverageOf_lengths h totalChunks)
    have hshare : (report.pagesCovered.dedup.length : ℚ) / n ≤ 1 := (div_le_one htotal).mpr hle
    have hlow : ((0 : Int) : ℚ) ≤ report.pagesCovered.dedup.length / n * 100 := by
      push_cast
      positivity
    have hhigh : (report.pagesCovered.dedup.length : ℚ) / n * 100 ≤ ((100 : Int) : ℚ) := by
      push_cast
      linarith
    exact_mod_cast roundTo_between 1 hlow hhigh
  · norm_num

/-- The route takes for granted that the pages of a report are pages of its document. -/
theorem coverageOf_splits (totalChunks : Nat) :
    (coverageOf report n totalChunks).Splits report n := by
  have hsorted : ∀ p, p ∈ (coverageOf report n totalChunks).pagesCovered ↔
      p ∈ report.pagesCovered := by
    intro p
    exact (List.mem_insertionSort _).trans List.mem_dedup
  refine {
    totalPages := rfl
    covered := hsorted
    coveredStrict := sorted_set_strict report.pagesCovered
    coveredWithin := fun p hp => h p ((hsorted p).mp hp)
    uncoveredStrict := ?strict
    complement := ?complement
    lengths := ?lengths
    percent := coverageOf_percent h totalChunks }
  case strict =>
    rw [coverageOf_uncoveredPages]
    exact (List.pairwise_lt_range' 1).filter _
  case complement =>
    intro p
    rw [coverageOf_uncoveredPages, List.mem_filter, mem_pageRange, hsorted]
    simp [and_assoc]
  case lengths =>
    have hlength : (coverageOf report n totalChunks).pagesCovered.length =
        report.pagesCovered.dedup.length := List.length_insertionSort _ _
    rw [hlength]
    exact coverageOf_lengths h totalChunks

end Splits

/-- What users set off: requests that the server works off step by step, and summaries, which it
makes in one go. -/
inductive UserEvent where
  | request (e : Event)
  | summary (uuid4 : Nat → String) (now : Nat) (reply : ModelReply) (documentId : String)

namespace Server

variable {files : Files} {doc : PDFDocument} {pages : List PdfPage} {s t : Server}

/-- A summary that raises leaves nothing behind. -/
def userStep (files : Files) (s : Server) : UserEvent → Option Server
  | .request e => step files s e
  | .summary uuid4 now reply documentId =>
      match generateSummary uuid4 now reply s.db documentId with
      | .ok (db,_) => some { s with db }
      | .error _ => some s

/-- The events one after the other; `none` when one of them cannot happen. -/
def userRun (files : Files) : Server → List UserEvent → Option Server
  | s, [] => some s
  | s, e :: es => (userStep files s e).bind (userRun files · es)

/-- What every move and every summary keeps, every run keeps. -/
theorem userRun_invariant {P : Server → Prop}
    (hmove : ∀ s t, Move files s t → P s → P t)
    (hsummary : ∀ (s : Server) (saved : Database) uuid4 now reply documentId post,
      generateSummary uuid4 now reply s.db documentId = .ok (saved,post) → P s →
        P { s with db := saved })
    {es : List UserEvent} (hrun : userRun files s es = some t) (hs : P s) : P t := by
  induction es generalizing s with
  | nil =>
    obtain rfl := Option.some.inj hrun
    exact hs
  | cons e es ih =>
    obtain ⟨u,hstep,hrest⟩ := Option.bind_eq_some_iff.mp hrun
    apply ih hrest
    cases e with
    | request e => exact hmove s u (step_move hstep) hs
    | summary uuid4 now reply documentId =>
      rw [userStep] at hstep
      split at hstep
      · rename_i db post hgenerated
        obtain rfl := Option.some.inj hstep
        exact hsummary s db uuid4 now reply documentId post hgenerated hs
      · obtain rfl := Option.some.inj hstep
        exact hs

/-- All that is on record of a document of `n` pages is about these pages. The document itself
knows how many it has once it has been ingested, and no report is made before. -/
structure Paged (files : Files) (doc : PDFDocument) (n : Nat) (s : Server) : Prop where
  sound : Sound files doc s
  counts : ∀ call ∈ s.ingestsOf doc.documentId, call.Counts n
  total : ∃ d, s.db.document? doc.documentId = some d ∧ (d.totalPages = n ∨
    d.status ≠ .completed ∧ ∀ r ∈ s.db.aiReports, r.documentId ≠ doc.documentId)
  chunks : ∀ c ∈ s.storedChunks doc.documentId, 1 ≤ c.page ∧ c.page ≤ n
  reports : ∀ r ∈ s.db.aiReports, r.documentId = doc.documentId → WithinPages n r.pagesCovered
  named : ∀ r ∈ s.db.aiReports, ∀ r' ∈ s.db.aiReports, r.documentId = doc.documentId →
    r'.documentId = doc.documentId → r.reportId = r'.reportId → r = r'

theorem Paged.ingestMove {db db' : Database} {before after : List IngestCall}
    {call call' : IngestCall} {extracts : List ExtractCall}
    (hfile : files doc.filePath = some (.ok pages))
    (hs : Paged files doc pages.length ⟨db,before ++ call :: after,extracts⟩)
    (h : IngestMove files db call db' call') :
    Paged files doc pages.length ⟨db',before ++ call' :: after,extracts⟩ := by
  have hcall : ∀ hid : call.documentId = doc.documentId,
      call ∈ ingestsOf ⟨db,before ++ call :: after,extracts⟩ doc.documentId :=
    fun hid => mem_ingestsOf.mpr ⟨by simp,hid⟩
  refine ⟨hs.sound.ingestMove h,?_,?_,?_,?_,?_⟩
  · apply forall_ingestsOf_move h.documentId hs.counts
    intro hid hcounts
    exact h.counts hfile (hs.sound.ingests call (hcall hid)) hcounts
  · obtain ⟨d,hd,htotal⟩ := hs.total
    obtain ⟨d',hd',hcount⟩ := h.totalPages hd (fun hid => hs.counts call (hcall hid))
    refine ⟨d',hd',?_⟩
    rcases hcount with hcount | ⟨hsame,hcompleted⟩
    · exact Or.inl hcount
    · rcases htotal with hcount | ⟨hopen,hnone⟩
      · exact Or.inl (hsame.trans hcount)
      · refine Or.inr ⟨fun hstatus => hopen (hcompleted hstatus),?_⟩
        change ∀ r ∈ db'.aiReports, _
        rw [h.aiReports]
        exact hnone
  · by_cases hid : call.documentId = doc.documentId
    · rcases h.chunks hid (hs.sound.ingests call (hcall hid)) with
        ⟨hsame,-⟩ | ⟨chunk,hchunk,hstored,-⟩
      · simp only [storedChunks, Database.chunksOf, hsame]
        exact hs.chunks
      · intro c hc
        rw [storedChunks, hstored] at hc
        rcases List.mem_append.mp hc with hc | hc
        · exact hs.chunks c hc
        · obtain rfl := List.mem_singleton.mp hc
          exact page_of_mem_documentChunks hfile (List.mem_of_getElem? hchunk)
    · rw [storedChunks, h.chunks_other hid]
      exact hs.chunks
  · change ∀ r ∈ db'.aiReports, _
    rw [h.aiReports]
    exact hs.reports
  · change ∀ r ∈ db'.aiReports, ∀ r' ∈ db'.aiReports, _
    rw [h.aiReports]
    exact hs.named

theorem Paged.extractMove {db db' : Database} {before after : List ExtractCall}
    {call call' : ExtractCall} {ingests : List IngestCall} {n : Nat}
    (hs : Paged files doc n ⟨db,ingests,before ++ call :: after⟩)
    (h : ExtractMove files db call db' call') :
    Paged files doc n ⟨db',ingests,before ++ call' :: after⟩ := by
  obtain ⟨hdocuments,hchunks⟩ := h.frame
  refine ⟨hs.sound.extractMove h,hs.counts,?_,?_,?_,?_⟩
  · obtain ⟨d,hd,htotal⟩ := hs.total
    refine ⟨d,?_,?_⟩
    · simp only [Database.document?, hdocuments]
      exact hd
    · simp only [h.aiReports]
      exact htotal
  · simp only [storedChunks, Database.chunksOf, hchunks]
    exact hs.chunks
  · simp only [h.aiReports]
    exact hs.reports
  · simp only [h.aiReports]
    exact hs.named

theorem Paged.move (hfile : files doc.filePath = some (.ok pages))
    (hs : Paged files doc pages.length s) (h : Move files s t) :
    Paged files doc pages.length t := by
  have hsound := hs.sound.move h
  cases h with
  | ingest documentId =>
    exact ⟨hsound,forall_ingestsOf_join hs.counts trivial,hs.total,hs.chunks,hs.reports,
      hs.named⟩
  | ingestMove extracts hmove => exact hs.ingestMove hfile hmove
  | extract documentId => exact ⟨hsound,hs.counts,hs.total,hs.chunks,hs.reports,hs.named⟩
  | extractMove ingests hmove => exact hs.extractMove hmove

/-- A summary reads chunks of a document that is "completed", and names their pages. -/
theorem Paged.summary {n : Nat} {saved : Database} {uuid4 : Nat → String} {now : Nat}
    {reply : ModelReply} {documentId : String} {post : List (String × Json)}
    (h : generateSummary uuid4 now reply s.db documentId = .ok (saved,post))
    (hs : Paged files doc n s) : Paged files doc n { s with db := saved } := by
  obtain ⟨run,chunks,hsent,hpages,rfl,-⟩ := generateSummary_reads h
  obtain ⟨hdoc,hcompleted⟩ := ingestedDocument_eq_ok run.ingested
  have hreportId := run.report_document.1
  refine ⟨⟨hs.sound.document,hs.sound.ingests,hs.sound.extracts⟩,hs.counts,?_,hs.chunks,?_,?_⟩
  · obtain ⟨d,hd,htotal⟩ := hs.total
    refine ⟨d,hd,?_⟩
    rcases htotal with hcount | ⟨hopen,hnone⟩
    · exact Or.inl hcount
    · have hother : documentId ≠ doc.documentId := by
        intro heq
        rw [← heq] at hd
        rw [Option.some.inj (hd.symm.trans hdoc)] at hopen
        exact hopen hcompleted
      refine Or.inr ⟨hopen,?_⟩
      intro r hr
      rcases List.mem_append.mp hr with hr | hr
      · exact hnone r hr
      · obtain rfl := List.mem_singleton.mp hr
        exact fun heq => hother (hreportId.symm.trans heq)
  · intro r hr hmine
    rcases List.mem_append.mp hr with hr | hr
    · exact hs.reports r hr hmine
    · obtain rfl := List.mem_singleton.mp hr
      rw [hpages]
      intro p hp
      obtain ⟨c,hc,rfl⟩ := mem_pagesCovered.mp hp
      obtain ⟨hstored,hdocument⟩ := mem_of_ingestedChunks hsent hc
      have hchunk : c ∈ s.db.chunksOf doc.documentId := by
        rw [Database.chunksOf, List.mem_filter, decide_eq_true_eq]
        exact ⟨hstored,hdocument.trans (hreportId.symm.trans hmine)⟩
      exact hs.chunks c.content (List.mem_map_of_mem hchunk)
  · intro r hr r' hr' hmine hmine' hid
    rcases List.mem_append.mp hr with hr | hr
    · rcases List.mem_append.mp hr' with hr' | hr'
      · exact hs.named r hr r' hr' hmine hmine' hid
      · rw [List.mem_singleton.mp hr'] at hid
        exact absurd hid (run.fresh r hr)
    · rw [List.mem_singleton.mp hr] at hid ⊢
      rcases List.mem_append.mp hr' with hr' | hr'
      · exact absurd hid.symm (run.fresh r' hr')
      · rw [List.mem_singleton.mp hr']

/-- Whatever happens to a document from the first ingestion of its file on, and however often it
is ingested, the coverage of each of its reports splits the pages of the file into those of the
report and the others. -/
theorem coverage_of_run {db : Database} {es : List UserEvent}
    (hdoc : db.document? doc.documentId = some doc) (hstatus : doc.status ≠ .completed)
    (hchunks : db.chunksOf doc.documentId = [])
    (hreports : ∀ r ∈ db.aiReports, r.documentId ≠ doc.documentId)
    (hfile : files doc.filePath = some (.ok pages))
    (hrun : userRun files (start db) es = some s) :
    ∀ r ∈ s.db.aiReports, r.documentId = doc.documentId →
      ∃ c, getCoverage s.db doc.documentId r.reportId = some c ∧ c.Splits r pages.length := by
  have hstart : Paged files doc pages.length (start db) := by
    refine ⟨sound_start hdoc hstatus,?_,⟨doc,hdoc,Or.inr ⟨hstatus,hreports⟩⟩,?_,?_,?_⟩
    · intro call hcall
      exact absurd (mem_ingestsOf.mp hcall).1 List.not_mem_nil
    · intro c hc
      rw [storedChunks, start, hchunks] at hc
      contradiction
    · intro r hr hmine
      exact absurd hmine (hreports r hr)
    · intro r hr _ _ hmine
      exact absurd hmine (hreports r hr)
  have hs : Paged files doc pages.length s :=
    userRun_invariant (fun _ _ hmove hu => hu.move hfile hmove)
      (fun _ _ _ _ _ _ _ hgenerated hu => hu.summary hgenerated) hrun hstart
  intro r hr hmine
  obtain ⟨found,hfound⟩ : ∃ found, s.db.report? doc.documentId r.reportId = some found := by
    apply Option.isSome_iff_exists.mp
    rw [Database.report?, List.find?_isSome]
    exact ⟨r,hr,by simp [hmine]⟩
  obtain ⟨hmem,hfoundId⟩ := Database.report?_eq_some hfound
  have hnamed := List.find?_some hfound
  rw [Bool.and_eq_true, decide_eq_true_eq] at hnamed
  obtain rfl := hs.named found hmem r hr hfoundId hmine hnamed.1
  obtain ⟨d,hd,htotal⟩ := hs.total
  have hcount : d.totalPages = pages.length := by
    rcases htotal with hcount | ⟨-,hnone⟩
    · exact hcount
    · exact absurd hmine (hnone found hmem)
  refine ⟨_,by rw [getCoverage, hfound, Option.map_some],?_⟩
  rw [hd, Option.map_some, Option.getD_some, hcount]
  exact coverageOf_splits (hs.reports found hmem hmine) _

/-- The one page is ingested twice and then summarised. -/
def onePageUse : List UserEvent :=
  (onePageRequests 0 ("c1","t1") ++ onePageRequests 1 ("c2","t2")).map .request ++
    [.summary (fun _ => "r1") 0 (.text "\x7b\x7d") "d1"]

theorem coverage_of_run_onePage :
    ∃ s r c, userRun onePageFiles (start onePageDb) onePageUse = some s ∧
      r ∈ s.db.aiReports ∧ getCoverage s.db "d1" r.reportId = some c ∧ c.Splits r 1 := by
  have hend : (userRun onePageFiles (start onePageDb) onePageUse).map
      (fun s => s.db.aiReports.map (·.documentId)) = some ["d1"] := by
    decide +kernel
  obtain ⟨s,hrun,hreports⟩ := Option.map_eq_some_iff.mp hend
  obtain ⟨r,hr,hmine⟩ := List.map_eq_singleton_iff.mp hreports
  have hmem : r ∈ s.db.aiReports := by simp [hr]
  have hdoc : onePageDb.document? onePageDoc.documentId = some onePageDoc := by decide
  obtain ⟨c,hc,hsplits⟩ := coverage_of_run hdoc (by decide) rfl
    (fun _ h => absurd h List.not_mem_nil) rfl hrun r hmem hmine
  exact ⟨s,r,c,hrun,hmem,hc,hsplits⟩

end Server

end FinancialPdfReader
