import FinancialPdfReader.Apis.Consistent
import FinancialPdfReader.Apis.JobsAlone
import FinancialPdfReader.Apis.Uploads
import FinancialPdfReader.Services.DiffItems
import FinancialPdfReader.Services.DiffPages
import FinancialPdfReader.Services.Summarization.ReadingOrder

namespace FinancialPdfReader

open Py RaisingProgram Job

/-- What a client may rely on once it has an answer: what it was told is on record. -/
def Answered (y : Store) : Answer → Prop
  | .refused _ => True
  | .uploaded documentId => ∃ doc, .document doc ∈ y.rows ∧ doc.documentId = documentId
  | .summary fields => ∃ report documentPeriod requestedPeriod, .report report ∈ y.rows ∧
      fields = serializeSummaryResponse report documentPeriod requestedPeriod
  | .diff fields => ∃ report, .diff report ∈ y.rows ∧ fields = report.serialize
  | .trend fields => ∃ report, .trend report ∈ y.rows ∧ fields = report.serialize
  | .patterns run views => .patternRun run ∈ y.rows ∧ ∃ report, .report report ∈ y.rows ∧
      report.documentId = run.documentId ∧
      run.results = patternRegistry.map (patternResult report.cleanClaims) ∧
      views = patternViews report run
  | .coverage fields => ∃ report, .coverage report ∈ y.rows ∧ fields = coverageAnswer report
  | .fetched _ => True

/-- Among other calls, every step of a job keeps the store consistent and only adds to the
record. -/
abbrev SoundJob (files : Files) {α : Type} (promised : Store → α → Prop) (job : Job α)
    (x : Store) : Prop :=
  RaisingProgram.Meets (Grows files) (Consistent files) promised job x

/-- A save that adds one row, under an identifier that is not taken, and has no part in any
ingestion. -/
def Saves (row : Row) (f : Store → Except PyError Store) : Prop :=
  ∀ y z, f y = .ok z → y.Adds z row ∧ row.key.2 ∉ y.ids row.key.1 ∧
    (z.db.pdfChunks = y.db.pdfChunks ∧ z.db.pdfTables = y.db.pdfTables) ∧
    ∀ d ∈ z.db.pdfDocuments, d.status = .completed → d ∈ y.db.pdfDocuments

section Rules

variable {files : Files} {x : Store} {α : Type}

/-- A row is saved for a reason that is there when it is saved. -/
theorem sound_save_bind {row : Row} {f : Store → Except PyError Store} (hsaves : Saves row f)
    {promised : Store → α → Prop} {k : Unit → Job α}
    (hwhy : ∀ y, Grows files x y → Justified files y.rows row)
    (hk : ∀ z, Grows files x z → row ∈ z.rows → SoundJob files promised (k ()) z) :
    SoundJob files promised (save f >>= k) x := by
  refine meets_save_bind (fun y z hxy hy hz => ?_)
  obtain ⟨hadds,hfresh,⟨hchunks,htables⟩,hdocs⟩ := hsaves y z hz
  have hlabels : Labelled z.db := by
    rw [Labelled, hchunks]
    exact hy.labels
  obtain ⟨hz,hyz⟩ := hy.add hadds hfresh (hwhy y hxy)
    (fun d hd hstatus => .inl (hdocs d hd hstatus)) (hy.tables_insert hadds hfresh htables) hlabels
  have hrow : row ∈ z.rows := by
    rw [hadds.rows]
    exact Set.mem_insert row _
  exact ⟨hz,hyz,hk z (hxy.trans hyz) hrow⟩

end Rules

section Saved

theorem saves_document {doc : PDFDocument} (hstatus : doc.status ≠ .completed) :
    Saves (.document doc.registered)
      (fun x => (fun db => { x with db }) <$> saveNewDocument x.db doc) := by
  intro y z h
  obtain ⟨db,hsave,rfl⟩ := map_eq_ok.mp h
  obtain ⟨rows,hrows,rfl⟩ := map_eq_ok.mp hsave
  obtain ⟨hfresh,rfl⟩ := Database.saveNew_eq_ok.mp hrows
  refine ⟨Store.adds_document doc,not_mem_ids hfresh,⟨rfl,rfl⟩,?_⟩
  intro d hd hcompleted
  rcases List.mem_append.mp hd with hd | hd
  · exact hd
  · rw [List.mem_singleton.mp hd] at hcompleted
    exact absurd hcompleted hstatus

theorem saves_report (r : AIReport) :
    Saves (.report r) (fun x => (fun db => { x with db }) <$> x.db.saveReport r) := by
  intro y z h
  obtain ⟨db,hsave,rfl⟩ := map_eq_ok.mp h
  obtain ⟨hfresh,rfl⟩ := Database.saveReport_eq_ok hsave
  exact ⟨Store.adds_report r,not_mem_ids hfresh,⟨rfl,rfl⟩,fun _ hd _ => hd⟩

theorem saves_diff (r : DiffReport) :
    Saves (.diff r) (fun x => (fun db => { x with db }) <$> x.db.saveDiffReport r) := by
  intro y z h
  obtain ⟨db,hsave,rfl⟩ := map_eq_ok.mp h
  obtain ⟨hfresh,rfl⟩ := Database.saveDiffReport_eq_ok hsave
  exact ⟨Store.adds_diff r,not_mem_ids hfresh,⟨rfl,rfl⟩,fun _ hd _ => hd⟩

theorem saves_trend (r : TrendReport) :
    Saves (.trend r) (fun x => (fun db => { x with db }) <$> x.db.saveTrendReport r) := by
  intro y z h
  obtain ⟨db,hsave,rfl⟩ := map_eq_ok.mp h
  obtain ⟨hfresh,rfl⟩ := Database.saveTrendReport_eq_ok.mp hsave
  exact ⟨Store.adds_trend r,not_mem_ids hfresh,⟨rfl,rfl⟩,fun _ hd _ => hd⟩

theorem saves_patternRun (r : PatternRunReport) : Saves (.patternRun r)
    (fun x => (fun patternRuns => { x with patternRuns }) <$>
      Database.saveNew x.patternRuns (·.runId) "run_id" r) := by
  intro y z h
  obtain ⟨rows,hsave,rfl⟩ := map_eq_ok.mp h
  obtain ⟨hfresh,rfl⟩ := Database.saveNew_eq_ok.mp hsave
  exact ⟨Store.adds_patternRun r,not_mem_ids hfresh,⟨rfl,rfl⟩,fun _ hd _ => hd⟩

theorem saves_coverage (r : DisclosureCoverageReport) : Saves (.coverage r)
    (fun x => (fun coverageReports => { x with coverageReports }) <$>
      Database.saveNew x.coverageReports (·.coverageId) "coverage_id" r) := by
  intro y z h
  obtain ⟨rows,hsave,rfl⟩ := map_eq_ok.mp h
  obtain ⟨hfresh,rfl⟩ := Database.saveNew_eq_ok.mp hsave
  exact ⟨Store.adds_coverage r,not_mem_ids hfresh,⟨rfl,rfl⟩,fun _ hd _ => hd⟩

theorem saves_record (r : ExternalDataRecord) : Saves (.record r)
    (fun x => (fun external => { x with external }) <$>
      Database.saveNew x.external (·.recordId) "record_id" r) := by
  intro y z h
  obtain ⟨rows,hsave,rfl⟩ := map_eq_ok.mp h
  obtain ⟨hfresh,rfl⟩ := Database.saveNew_eq_ok.mp hsave
  exact ⟨Store.adds_record r,not_mem_ids hfresh,⟨rfl,rfl⟩,fun _ hd _ => hd⟩

end Saved

section Upload

theorem sound_uploadDocument (files : Files) (x : Store) (uploadDir documentId : String)
    (disk : Except PyError Unit) (form : UploadForm) :
    SoundJob files Answered (uploadDocument uploadDir documentId disk form) x := by
  rw [uploadDocument]
  split
  · exact meets_pure (fun _ _ _ => trivial)
  · rename_i hname
    have hpdf : isPdfName form.fileName = true := by simpa using hname
    refine meets_give_bind (fun _ _ => meets_give_bind (fun _ _ => ?_))
    have hstatus : (uploadedDocument uploadDir documentId form).status ≠ .completed := by
      intro hcompleted
      cases hcompleted
    refine sound_save_bind (saves_document hstatus)
      (fun _ _ => uploadedDocument_grounds uploadDir documentId hpdf) (fun y _ hsaved => ?_)
    exact meets_pure (fun z hyz _ => ⟨_,hyz.mem hsaved,rfl⟩)

end Upload

section Summary

variable {files : Files}

theorem eq_of_chunkId {x : Store} (hx : Consistent files x) {c d : PDFChunk}
    (hc : c ∈ x.db.pdfChunks) (hd : d ∈ x.db.pdfChunks) (h : c.chunkId = d.chunkId) : c = d :=
  List.inj_on_of_nodup_map (hx.ids .chunks) hc hd h

/-- The chunks that are sent to the model are stored chunks of the document, each once. -/
theorem ingestedChunks_distinct {x : Store} (hx : Consistent files x) {documentId : String}
    {chunks : List PDFChunk} (h : ingestedChunks x.db documentId = .ok chunks) :
    chunks ≠ [] ∧ (chunks.map (·.chunkId)).Nodup := by
  have hmem : ∀ c ∈ chunks, c ∈ x.db.pdfChunks := fun c hc => (mem_of_ingestedChunks h hc).1
  unfold ingestedChunks at h
  dsimp only at h
  split at h
  · contradiction
  · rename_i hsome
    obtain rfl := Except.ok.inj h
    refine ⟨by simpa using hsome,?_⟩
    have hnodup : (retrieveChunksSectionAware x.db documentId 60).Nodup := by
      rw [retrieve_eq]
      exact (sortBy_perm _ _).nodup_iff.mpr (nodup_selectedChunks (hx.ids .chunks))
    refine List.Nodup.map_on (fun c hc d hd hid => ?_) hnodup
    exact eq_of_chunkId hx (hmem c hc) (hmem d hd) hid

/-- What a job makes of a document and of chunks that it read at two times, the service makes of
them in one go: of a database with the one and the other. -/
theorem generatedReport_of_summaryOf {uuid4 : Nat → String} {now : Nat} {reply : ModelReply}
    {documentId : String} {doc : PDFDocument} {chunks : List PDFChunk}
    (hdoc : ∃ db, ingestedDocument db documentId = .ok doc)
    (hchunks : ∃ db, ingestedChunks db documentId = .ok chunks) {report : AIReport}
    {fields : List (String × Json)}
    (h : summaryOf uuid4 now reply documentId doc chunks = .ok (report,fields)) :
    GeneratedReport report := by
  obtain ⟨before,hdoc⟩ := hdoc
  obtain ⟨after,hchunks⟩ := hchunks
  let db : Database := { after with pdfDocuments := before.pdfDocuments, aiReports := [] }
  have hboth : generateSummary uuid4 now reply db documentId =
      .ok ({ db with aiReports := [] ++ [report] },fields) := by
    have hdoc' : ingestedDocument db documentId = .ok doc := hdoc
    have hchunks' : ingestedChunks db documentId = .ok chunks := hchunks
    have hsave : db.saveReport report = .ok { db with aiReports := [] ++ [report] } := rfl
    rw [generateSummary_eq, hdoc', ok_bind, hchunks', ok_bind, h, ok_bind]
    simp only [hsave, ok_bind, pure_eq_ok]
  obtain ⟨run,hsaved,-⟩ := generateSummary_eq_ok hboth
  have hreport : [report] = [run.report] := congrArg Database.aiReports hsaved
  exact ⟨uuid4,now,reply,db,documentId,run,(List.cons.inj hreport).1.symm⟩

/-- The report names the document and the chunks that it was made of. -/
theorem summaryOf_names {uuid4 : Nat → String} {now : Nat} {reply : ModelReply}
    {documentId : String} {doc : PDFDocument} {chunks : List PDFChunk} {report : AIReport}
    {fields : List (String × Json)}
    (h : summaryOf uuid4 now reply documentId doc chunks = .ok (report,fields)) :
    (report.documentId = doc.documentId ∧ report.stockId = doc.stockId ∧
      report.period = doc.period) ∧
    (report.chunksUsed = chunks.map (·.chunkId) ∧ report.pagesCovered = pagesCovered chunks) ∧
    ∃ documentPeriod requestedPeriod,
      fields = serializeSummaryResponse report documentPeriod requestedPeriod := by
  obtain ⟨⟨rawText,rawJson⟩,-,h⟩ := bind_eq_ok.mp h
  obtain ⟨tv,-,h⟩ := bind_eq_ok.mp h
  obtain ⟨executiveSummary,-,h⟩ := bind_eq_ok.mp h
  obtain ⟨parsed,-,h⟩ := bind_eq_ok.mp h
  obtain ⟨claims,-,h⟩ := bind_eq_ok.mp h
  obtain ⟨errors,-,h⟩ := bind_eq_ok.mp h
  obtain ⟨note,-,h⟩ := bind_eq_ok.mp h
  obtain ⟨summary,-,h⟩ := bind_eq_ok.mp h
  obtain ⟨rfl,rfl⟩ := Prod.mk.inj (Except.ok.inj h)
  exact ⟨⟨rfl,rfl,rfl⟩,⟨rfl,rfl⟩,_,_,rfl⟩

theorem sound_createSummary (x : Store) (uuid4 : Nat → String) (now : Nat) (reply : ModelReply)
    (documentId : String) :
    SoundJob files Answered (createSummary uuid4 now reply documentId) x := by
  refine meets_look_bind (fun doc y₁ _ _ hdoc => ?_)
  obtain ⟨hdocument,hid⟩ := Store.document_of_document? (ingestedDocument_eq_ok hdoc).1
  refine meets_look_bind (fun chunks y₂ h₁₂ hy₂ hchunks => ?_)
  obtain ⟨hne,hdistinct⟩ := ingestedChunks_distinct hy₂ hchunks
  refine meets_give_bind (fun r hbuilt => ?_)
  obtain ⟨report,fields⟩ := r
  obtain ⟨⟨hdocumentId,hstock,hperiod⟩,⟨hused,hpages⟩,documentPeriod,requestedPeriod,hfields⟩ :=
    summaryOf_names hbuilt
  have hgenerated := generatedReport_of_summaryOf ⟨_,hdoc⟩ ⟨_,hchunks⟩ hbuilt
  refine sound_save_bind (saves_report report) (fun z hz => ?_) (fun z _ hsaved => ?_)
  · have hunder : SavedUnder z.rows report.documentId report.stockId report.period
        doc.registered :=
      ⟨hz.mem (h₁₂.mem hdocument),hdocumentId.symm,hstock.symm,hperiod.symm⟩
    have hstored : ∀ c ∈ chunks, .chunk c.unlabelled ∈ z.rows ∧
        c.documentId = report.documentId := by
      intro c hc
      obtain ⟨hmem,hmine⟩ := mem_of_ingestedChunks hchunks hc
      exact ⟨hz.mem (List.mem_map_of_mem hmem),hmine.trans (hdocumentId.trans hid).symm⟩
    exact ⟨⟨_,hunder⟩,⟨chunks,hne,hstored,hdistinct,hused,hpages⟩,hgenerated⟩
  · exact meets_pure (fun w hzw _ => ⟨report,_,_,hzw.mem hsaved,hfields⟩)

end Summary

section Diff

variable {files : Files}

theorem validate_quoted {i : DiffItem Json} {v : DiffItem String} (h : i.validate = .ok v) :
    i.evidence.currentQuoted = .str v.evidence.currentQuoted ∧
      i.evidence.previousQuoted = .str v.evidence.previousQuoted := by
  obtain ⟨_,-,h⟩ := bind_eq_ok.mp h
  obtain ⟨_,-,h⟩ := bind_eq_ok.mp h
  obtain ⟨_,-,h⟩ := bind_eq_ok.mp h
  obtain ⟨_,-,h⟩ := bind_eq_ok.mp h
  obtain ⟨evidence,hevidence,h⟩ := bind_eq_ok.mp h
  obtain ⟨current,hcurrent,hevidence⟩ := bind_eq_ok.mp hevidence
  obtain ⟨previous,hprevious,hevidence⟩ := bind_eq_ok.mp hevidence
  obtain rfl := Except.ok.inj hevidence
  obtain rfl := Except.ok.inj h
  exact ⟨validString_eq_ok.mp hcurrent,validString_eq_ok.mp hprevious⟩

/-- A chunk that stands under a section is a stored chunk of the document. -/
theorem chunk_of_entry {db : Database} {documentId : String} {e : String × List PDFChunk}
    {c : PDFChunk} (he : e ∈ (getSectionChunks db documentId).entries) (hc : c ∈ e.2.head?) :
    c ∈ db.pdfChunks ∧ c.documentId = documentId := by
  have hmem := List.mem_of_mem_head? hc
  rw [Dict.entry_group he, List.mem_filter, List.mem_filter] at hmem
  exact Database.mem_chunksByPage.mp hmem.1.1

theorem comparedPair_eq_ok {currentDocumentId previousDocumentId : String}
    {current previous : Option PDFDocument} {c p : PDFDocument}
    (h : comparedPair currentDocumentId previousDocumentId current previous = .ok (c,p)) :
    current = some c ∧ previous = some p ∧ c.stockId = p.stockId := by
  unfold comparedPair at h
  split at h
  · contradiction
  · contradiction
  · split_ifs at h with hstock hstatus
    obtain ⟨rfl,rfl⟩ := Prod.mk.inj (Except.ok.inj h)
    exact ⟨rfl,rfl,not_not.mp hstock⟩

theorem mem_sorted {s : String} {texts : List String} : s ∈ sortTexts texts ↔ s ∈ texts :=
  (List.perm_insertionSort _ texts).mem_iff

section Items

variable {A : Set Row} {uuid4 : String → Nat → String} {now : Nat} {reply : String → SectionReply}
  {currentDocumentId previousDocumentId : String} {report : DiffReport}

/-- An item of a shared section names a document where it names a page, and it names one. -/
theorem sharedItem_grounds {sections : List String} {i : DiffItem Json}
    (hi : i ∈ sharedItems uuid4 reply currentDocumentId previousDocumentId sections) :
    i.sectionName ∈ sections ∧
      NamedWithPage i.evidence.currentDocumentId i.evidence.currentPage currentDocumentId ∧
      NamedWithPage i.evidence.previousDocumentId i.evidence.previousPage previousDocumentId ∧
      (i.evidence.currentPage ≠ "" ∨ i.evidence.previousPage ≠ "") := by
  obtain ⟨s,hs,found,hfound,hi⟩ := mem_sharedItems.mp hi
  obtain ⟨items,hitems,-⟩ := bind_eq_ok.mp hfound
  obtain ⟨e,-,hturn⟩ := (mem_diffSection hitems hfound).mp hi
  have hname := (diffItem_some hturn).1
  obtain ⟨evData,-,hturn⟩ := bind_eq_ok.mp hturn
  obtain ⟨presence,-,hturn⟩ := bind_eq_ok.mp hturn
  obtain ⟨cPage,-,hturn⟩ := bind_eq_ok.mp hturn
  obtain ⟨pPage,-,hturn⟩ := bind_eq_ok.mp hturn
  split_ifs at hturn with hblank
  · cases hturn
  obtain ⟨read,hread,hsame⟩ := bind_eq_ok.mp hturn
  obtain rfl := Option.some.inj (Except.ok.inj hsame)
  obtain ⟨currentQuoted,-,hread⟩ := bind_eq_ok.mp hread
  obtain ⟨previousQuoted,-,hread⟩ := bind_eq_ok.mp hread
  obtain ⟨diffType,-,hread⟩ := bind_eq_ok.mp hread
  obtain ⟨diffId,-,hread⟩ := bind_eq_ok.mp hread
  obtain ⟨description,-,hread⟩ := bind_eq_ok.mp hread
  obtain ⟨currentSummary,-,hread⟩ := bind_eq_ok.mp hread
  obtain ⟨previousSummary,-,hread⟩ := bind_eq_ok.mp hread
  obtain ⟨toneOnly,-,hread⟩ := bind_eq_ok.mp hread
  obtain ⟨requiresHumanReview,-,hread⟩ := bind_eq_ok.mp hread
  obtain rfl := Except.ok.inj hread
  refine ⟨hs,rfl,rfl,?_⟩
  rw [Bool.and_eq_true, decide_eq_true_eq, decide_eq_true_eq, not_and_or] at hblank
  exact hblank

/-- Every item of a report goes back to a page or to a chunk. -/
theorem diffOf_items {x y : Store} {current previous : PDFDocument}
    (h : diffOf uuid4 now reply currentDocumentId previousDocumentId current previous
      (getSectionChunks x.db currentDocumentId) (getSectionChunks y.db previousDocumentId) =
        .ok report)
    (hx : x.rows ⊆ A) (hy : y.rows ⊆ A) {v : DiffItem String} (hv : v ∈ report.items) :
    ItemGrounds A report v := by
  obtain ⟨items,hitems,h⟩ := bind_eq_ok.mp h
  obtain rfl := Except.ok.inj h
  obtain ⟨i,hi,hvalid⟩ := mapM_mem hitems hv
  have hsaved := DiffItem.validate_eq_ok hvalid
  obtain ⟨hcurrentQuoted,hpreviousQuoted⟩ := validate_quoted hvalid
  rw [List.mem_append, List.mem_append] at hi
  rcases hi with (hi | hi) | hi
  · obtain ⟨hsection,hcurrent,hprevious,hpage⟩ := sharedItem_grounds hi
    refine .compared ?_ ?_ ?_ ?_
    · rw [hsaved.sectionName]
      exact hsection
    · rw [hsaved.currentDocumentId, hsaved.currentPage]
      exact hcurrent
    · rw [hsaved.previousDocumentId, hsaved.previousPage]
      exact hprevious
    · rw [hsaved.currentPage, hsaved.previousPage]
      exact hpage
  · obtain ⟨e,he,c,hc,rfl⟩ := mem_onlyItems.mp hi
    obtain ⟨hmem,hmine⟩ := chunk_of_entry (List.mem_filter.mp he).1 hc
    refine .onlyCurrent ?_ hsaved.currentDocumentId
      ⟨c.unlabelled,hx (List.mem_map_of_mem hmem),hmine,hsaved.currentPage,?_⟩
      hsaved.previousPage
    · rw [hsaved.sectionName]
      exact mem_sorted.mpr (List.mem_map_of_mem he)
    · exact (Json.str.inj hcurrentQuoted).symm
  · obtain ⟨e,he,c,hc,rfl⟩ := mem_onlyItems.mp hi
    obtain ⟨hmem,hmine⟩ := chunk_of_entry (List.mem_filter.mp he).1 hc
    refine .onlyPrevious ?_ hsaved.previousDocumentId
      ⟨c.unlabelled,hy (List.mem_map_of_mem hmem),hmine,hsaved.previousPage,?_⟩
      hsaved.currentPage
    · rw [hsaved.sectionName]
      exact mem_sorted.mpr (List.mem_map_of_mem he)
    · exact (Json.str.inj hpreviousQuoted).symm

end Items

section Listed

theorem onlyOf_keys (these others : SectionChunks) : (onlyOf these others).map Prod.fst =
    these.keys.filter (fun s => !others.keys.contains s) :=
  (List.filter_map (p := fun s => !others.keys.contains s)).symm

theorem perm_sorted (texts : List String) : (sortTexts texts).Perm texts :=
  List.perm_insertionSort _ texts

/-- The three lists together are the sections of the one document and those that only the other
has. -/
theorem listed_perm (current previous : SectionChunks) :
    (sharedOf current previous ++ (sortTexts ((onlyOf current previous).map Prod.fst) ++
      sortTexts ((onlyOf previous current).map Prod.fst))).Perm
        (current.keys ++ previous.keys.filter (fun s => !current.keys.contains s)) := by
  have hsplit : (current.keys.filter (fun s => previous.keys.contains s) ++
      current.keys.filter (fun s => !previous.keys.contains s)).Perm current.keys :=
    List.filter_append_perm _ _
  rw [onlyOf_keys, onlyOf_keys, ← List.append_assoc]
  exact (((perm_sorted _).append (perm_sorted _)).trans hsplit).append (perm_sorted _)

theorem known_of_labelled {db : Database} (h : Labelled db) (documentId : String) :
    ∀ s ∈ (getSectionChunks db documentId).keys, s ∈ sections := by
  intro s hs
  obtain ⟨⟨-,hknown⟩,c,hc,rfl⟩ := mem_keys_sectionChunks.mp hs
  exact (h c (Database.mem_chunksByPage.mp hc).1).mem_sections hknown

theorem diffOf_listed {uuid4 : String → Nat → String} {now : Nat} {reply : String → SectionReply}
    {currentDocumentId previousDocumentId : String} {report : DiffReport} {c p : PDFDocument}
    {current previous : SectionChunks}
    (h : diffOf uuid4 now reply currentDocumentId previousDocumentId c p current previous =
      .ok report)
    (hcurrent : ∀ s ∈ current.keys, s ∈ sections) (hprevious : ∀ s ∈ previous.keys, s ∈ sections) :
    ListedOnce report := by
  obtain ⟨items,-,h⟩ := bind_eq_ok.mp h
  obtain rfl := Except.ok.inj h
  have hperm := listed_perm current previous
  constructor
  · intro s hs
    rcases List.mem_append.mp (hperm.mem_iff.mp hs) with hmine | hother
    · exact hcurrent s hmine
    · exact hprevious s (List.mem_filter.mp hother).1
  · refine hperm.nodup_iff.mpr (List.nodup_append.mpr ⟨current.nodup,?_,?_⟩)
    · exact previous.nodup.filter _
    · intro s hmine t hother heq
      subst heq
      simp [hmine] at hother

end Listed

theorem sound_createDiffReport (x : Store) (uuid4 : String → Nat → String) (now : Nat)
    (reply : String → SectionReply) (currentDocumentId previousDocumentId : String) :
    SoundJob files Answered
      (createDiffReport uuid4 now reply currentDocumentId previousDocumentId) x := by
  refine meets_look_bind (fun current y₁ _ _ hcurrent => ?_)
  refine meets_look_bind (fun previous y₂ h₁₂ _ hprevious => ?_)
  refine meets_give_bind (fun pair hpair => ?_)
  obtain ⟨c,p⟩ := pair
  obtain ⟨rfl,rfl,hstock⟩ := comparedPair_eq_ok hpair
  obtain ⟨hc,hcid⟩ := Store.document_of_document? (Except.ok.inj hcurrent)
  obtain ⟨hp,hpid⟩ := Store.document_of_document? (Except.ok.inj hprevious)
  refine meets_look_bind (fun currentBySection y₃ h₂₃ hy₃ hthese => ?_)
  refine meets_look_bind (fun previousBySection y₄ h₃₄ hy₄ hothers => ?_)
  obtain rfl := Except.ok.inj hthese
  obtain rfl := Except.ok.inj hothers
  refine meets_give_bind (fun report hbuilt => ?_)
  refine sound_save_bind (saves_diff report) (fun z hz => ?_) (fun z _ hsaved => ?_)
  · have hitems : ∀ i ∈ report.items, ItemGrounds z.rows report i := fun i hi =>
      diffOf_items hbuilt (Archive.Grows.subset (h₃₄.trans hz)) (Archive.Grows.subset hz) hi
    have hlisted := diffOf_listed hbuilt (known_of_labelled hy₃.labels _)
      (known_of_labelled hy₄.labels _)
    obtain ⟨items,-,hreport⟩ := bind_eq_ok.mp hbuilt
    obtain rfl := Except.ok.inj hreport
    refine ⟨⟨c.registered,hz.mem (h₃₄.mem (h₂₃.mem (h₁₂.mem hc))),hcid,rfl,rfl⟩,
      ⟨p.registered,hz.mem (h₃₄.mem (h₂₃.mem hp)),hpid,hstock.symm,rfl⟩,hitems,hlisted⟩
  · exact meets_pure (fun w hzw _ => ⟨_,hzw.mem hsaved,rfl⟩)

end Diff

section Trend

variable {files : Files}

theorem latestReport?_mem {db : Database} {documentId : String} {report : AIReport}
    (h : db.latestReport? documentId = some report) :
    report ∈ db.aiReports ∧ report.documentId = documentId := by
  have hmem := (List.mem_insertionSort _).mp (List.mem_of_mem_head? h)
  obtain ⟨hmem,hid⟩ := List.mem_filter.mp hmem
  exact ⟨hmem,of_decide_eq_true hid⟩

/-- What was read of one period. -/
def PeriodRead (z : Store) (documentId : String) (entry : PeriodEntry) : Prop :=
  ∃ doc report, .document doc ∈ z.rows ∧ .report report ∈ z.rows ∧ doc.documentId = documentId ∧
    report.documentId = documentId ∧ doc.period ≠ "" ∧ GeneratedReport report ∧
    entry = entryOf documentId doc report

theorem sound_gatherPeriod (x : Store) (documentId : String) :
    SoundJob files (fun z entry => PeriodRead z documentId entry) (gatherPeriod documentId) x := by
  refine meets_look_bind (fun doc y₁ _ hy₁ hdoc => ?_)
  refine meets_look_bind (fun report y₂ h₁₂ hy₂ hreport => ?_)
  have hfound : y₁.db.document? documentId = some doc := by
    rw [trendDocument] at hdoc
    split at hdoc
    · contradiction
    · rename_i found hfound
      exact Except.ok.inj hdoc ▸ hfound
  have hlatest : y₂.db.latestReport? documentId = some report := by
    rw [trendSource] at hreport
    split at hreport
    · contradiction
    · rename_i found hfound
      exact Except.ok.inj hreport ▸ hfound
  obtain ⟨hmem,hid⟩ := Store.document_of_document? hfound
  obtain ⟨hstored,hmine⟩ := latestReport?_mem hlatest
  have hperiod : doc.period ≠ "" := (hy₁.grounded _ hmem : DocumentGrounds _).period
  have hgenerated : GeneratedReport report :=
    (hy₂.grounded (.report report) hstored : ReportGrounds _ _).generated
  exact meets_pure (fun z hz _ => ⟨doc.registered,report,hz.mem (h₁₂.mem hmem),
    hz.mem (hstored : (Row.report report) ∈ y₂.rows),hid,hmine,hperiod,hgenerated,rfl⟩)

/-- A summary that the trend can be read from has no indicator to show. -/
theorem points_of_generated {report : AIReport} (hgenerated : GeneratedReport report)
    {documentId period : String} {points : Dict String TrendPoint}
    (h : extractKpiPoints documentId period (report.dashboard.orElse (.obj [])) = .ok points) :
    points = Dict.empty ∧ NoMetricClaims report := by
  have hnone := (extract_generated_iff hgenerated documentId period).mp ⟨points,h⟩
  refine ⟨?_,hnone⟩
  obtain ⟨uuid4,now,reply,db,docId,run,rfl⟩ := hgenerated
  obtain ⟨chunks,note,summary,hreport⟩ := run.built
  have hdashboard : run.report.dashboard.orElse (.obj []) =
      (assess run.claims run.tv.temporalConsistent).dashboard.toJson :=
    congrArg (fun r : AIReport => r.dashboard.orElse (.obj [])) hreport
  rw [hdashboard] at h
  have hmetrics := extractKpiPoints_metrics h
  have hempty := extractKpiPoints_empty documentId period (whatChanged_eq_nil hmetrics) hmetrics
  exact Except.ok.inj (h.symm.trans hempty)

theorem kpiSeries_empty {points : List (Dict String TrendPoint)}
    (h : ∀ found ∈ points, found = Dict.empty) (kpi : String) : kpiSeries points kpi = [] := by
  rw [kpiSeries, List.filterMap_eq_nil_iff]
  intro found hfound
  rw [h found hfound]
  rfl

theorem entryOf_period {doc : PDFDocument} (hperiod : doc.period ≠ "") (documentId : String)
    (report : AIReport) : (entryOf documentId doc report).period = doc.period :=
  if_neg hperiod

theorem trendReport_grounds {z : Store} (hz : Consistent files z) {documentIds : List String}
    (hmany : 2 ≤ documentIds.length) {found : List PeriodEntry}
    (hfound : List.Forall₂ (PeriodRead z) documentIds found)
    {points : List (Dict String TrendPoint)}
    (hpoints : (found.insertionSort (fun a b => a.period ≤ b.period)).mapM
      (fun e => extractKpiPoints e.documentId e.period e.dashboard) = .ok points)
    (trendReportId : String) (now : Nat) (kpiList : List String) :
    TrendGrounds z.rows (trendReport trendReportId now z.db kpiList
      (found.insertionSort (fun a b => a.period ≤ b.period)) points) := by
  have hread : ∀ e ∈ found.insertionSort (fun a b => a.period ≤ b.period),
      PeriodRead z e.documentId e := by
    intro e he
    obtain ⟨id,-,hid⟩ := forall₂_mem_right hfound ((List.mem_insertionSort _).mp he)
    have hname : e.documentId = id := by
      obtain ⟨doc,report,-,-,-,-,-,-,rfl⟩ := hid
      rfl
    exact hname ▸ hid
  have hlength : (found.insertionSort (fun a b => a.period ≤ b.period)).length =
      documentIds.length := (List.length_insertionSort _ _).trans hfound.length_eq.symm
  have hsorted : (found.insertionSort (fun a b => a.period ≤ b.period)).Pairwise
      (fun a b => a.period ≤ b.period) := sortBy_pairwise (fun e : PeriodEntry => e.period) found
  generalize found.insertionSort (fun a b => a.period ≤ b.period) = entries at *
  have hmade : ∀ e ∈ entries, ∀ got,
      extractKpiPoints e.documentId e.period e.dashboard = .ok got →
        got = Dict.empty ∧ PeriodGrounds z.rows e.documentId e.period := by
    intro e he got hgot
    obtain ⟨doc,report,hdoc,hreport,hid,hmine,hperiod,hgenerated,hentry⟩ := hread e he
    have heperiod : e.period = doc.period := by
      rw [hentry]
      exact entryOf_period hperiod _ _
    have hdashboard : e.dashboard = report.dashboard.orElse (.obj []) := by
      rw [hentry]
      rfl
    rw [hdashboard] at hgot
    obtain ⟨hempty,hnone⟩ := points_of_generated hgenerated hgot
    exact ⟨hempty,doc,report,hdoc,hreport,hid,hmine,heperiod.symm,hnone⟩
  have hperiods : ∀ e ∈ entries, PeriodGrounds z.rows e.documentId e.period := by
    intro e he
    obtain ⟨got,-,hgot⟩ := mapM_mem_left hpoints he
    exact (hmade e he got hgot).2
  have hnone : ∀ got ∈ points, got = Dict.empty := by
    intro got hgot
    obtain ⟨e,he,hpoint⟩ := mapM_mem hpoints hgot
    exact (hmade e he got hpoint).1
  have hkpis : ((trackedOf kpiList).map (fun kpi => (kpi,kpiSeries points kpi))).filter
      (fun e => !e.2.isEmpty) = [] := by
    simp [kpiSeries_empty hnone]
  refine ⟨?_,?_,List.pairwise_map.mpr hsorted,?_,hkpis,?_⟩
  · simpa [trendReport, hlength] using hmany
  · refine List.forall₂_map_left_iff.mpr (List.forall₂_map_right_iff.mpr ?_)
    exact List.forall₂_same.mpr hperiods
  · cases entries with
    | nil =>
      rw [List.length_nil] at hlength
      omega
    | cons e rest =>
      obtain ⟨doc,-,hdoc,-,hid,-⟩ := hread e (by simp)
      obtain ⟨d,hd,rfl⟩ := hz.document? hdoc
      refine ⟨d.registered,hdoc,congrArg some hid.symm,?_⟩
      change d.stockId = (((z.db.document? e.documentId).map (·.stockId)).getD "")
      rw [← hid, hd]
      rfl
  · simp [trendReport, hlength]

theorem sound_createTrendReport (x : Store) (trendReportId : String) (now : Nat)
    (documentIds kpiList : List String) :
    SoundJob files Answered (createTrendReport trendReportId now documentIds kpiList) x := by
  unfold createTrendReport
  split
  · exact meets_pure (fun _ _ _ => trivial)
  · rename_i hfew
    have hmany : 2 ≤ documentIds.length := by omega
    refine meets_bind (meets_mapM (fun documentId _ y _ => sound_gatherPeriod y documentId)) ?_
    intro found y _ hfound
    refine meets_give_bind (fun points hpoints => ?_)
    refine meets_look_bind (fun report z hyz hz hreport => ?_)
    obtain rfl := Except.ok.inj hreport
    have hgrounds := trendReport_grounds hz hmany (hfound z hyz hz) hpoints trendReportId now
      kpiList
    refine sound_save_bind (saves_trend _) (fun w hzw => ?_) (fun w _ hsaved => ?_)
    · exact lasting_justified files _ _ _ (Archive.Grows.subset hzw) hgrounds
    · exact meets_pure (fun v hwv _ => ⟨_,hwv.mem hsaved,rfl⟩)

end Trend

section Patterns

variable {files : Files}

theorem analysedDocument_eq_ok {db : Database} {documentId : String} {doc : PDFDocument}
    (h : analysedDocument documentId db = .ok doc) : db.document? documentId = some doc := by
  unfold analysedDocument at h
  split at h
  · contradiction
  · rename_i found hfound
    split_ifs at h with hstatus
    exact Except.ok.inj h ▸ hfound

theorem analysedReport_eq_ok {db : Database} {documentId : String} {report : AIReport}
    (h : analysedReport documentId db = .ok report) :
    db.latestReport? documentId = some report := by
  unfold analysedReport at h
  split at h
  · contradiction
  · rename_i found hfound
    exact Except.ok.inj h ▸ hfound

theorem sound_runPatterns (x : Store) (runId : String) (now : Nat) (documentId : String) :
    SoundJob files Answered (runPatterns runId now documentId) x := by
  refine meets_look_bind (fun doc y₁ _ _ hdoc => ?_)
  refine meets_look_bind (fun report y₂ h₁₂ _ hreport => ?_)
  obtain ⟨hdocument,hid⟩ := Store.document_of_document? (analysedDocument_eq_ok hdoc)
  obtain ⟨hstored,hmine⟩ := latestReport?_mem (analysedReport_eq_ok hreport)
  have hrecord : .report report ∈ y₂.rows := hstored
  refine sound_save_bind (saves_patternRun _) (fun z hz => ?_) (fun z hz hsaved => ?_)
  · exact ⟨⟨doc.registered,hz.mem (h₁₂.mem hdocument),hid,rfl,rfl⟩,
      ⟨report,hz.mem hrecord,hmine,rfl⟩,⟨rfl,rfl,rfl⟩⟩
  · exact meets_pure (fun w hzw _ =>
      ⟨hzw.mem hsaved,report,hzw.mem (hz.mem hrecord),hmine,rfl,rfl⟩)

end Patterns

section Disclosures

variable {files : Files}

theorem auditedDocument_eq_ok {db : Database} {documentId : String} {doc : PDFDocument}
    (h : auditedDocument db documentId = .ok doc) : db.document? documentId = some doc := by
  unfold auditedDocument at h
  split at h
  · contradiction
  · rename_i found hfound
    split_ifs at h with hstatus
    exact Except.ok.inj h ▸ hfound

theorem coverageFrom_eq_ok {coverageId : String} {now : Nat} {reply : Except PyError String}
    {documentId : String} {doc : PDFDocument} {report : DisclosureCoverageReport}
    (h : coverageFrom coverageId now reply documentId doc = .ok report) :
    (report.documentId = documentId ∧ report.stockId = doc.stockId ∧
      report.period = doc.period) ∧ CompleteReport report ∧ CountedItems report := by
  obtain ⟨rawText,-,h⟩ := bind_eq_ok.mp h
  obtain ⟨rawJson,hread,h⟩ := bind_eq_ok.mp h
  obtain ⟨drafts,hdrafts,h⟩ := bind_eq_ok.mp h
  obtain ⟨items,hitems,h⟩ := bind_eq_ok.mp h
  obtain rfl := Except.ok.inj h
  have hobject : ∃ fields, rawJson = .obj fields := by
    unfold readCoverage at hread
    split at hread
    · contradiction
    · rename_i found hfound
      exact Except.ok.inj hread ▸ object_of_jsonBlock hfound
  have hcomplete := completeReport hobject hdrafts hitems coverageId now doc documentId
  have htotal : items.length = 14 := by
    have hlength := congrArg List.length hcomplete.items
    rw [List.length_map] at hlength
    exact hlength
  exact ⟨⟨rfl,rfl,rfl⟩,hcomplete,statusCount_eq hitems _,statusCount_eq hitems _,
    statusCount_eq hitems _,htotal.symm⟩

theorem sound_createDisclosureCoverage (x : Store) (coverageId : String) (now : Nat)
    (reply : Except PyError String) (documentId : String) :
    SoundJob files Answered (createDisclosureCoverage coverageId now reply documentId) x := by
  refine meets_look_bind (fun doc y₁ _ _ hdoc => ?_)
  refine meets_look_bind (fun _ y₂ h₁₂ _ _ => ?_)
  refine meets_give_bind (fun report hbuilt => ?_)
  obtain ⟨hdocument,hid⟩ := Store.document_of_document? (auditedDocument_eq_ok hdoc)
  obtain ⟨hnames,hcomplete,hcounted⟩ := coverageFrom_eq_ok hbuilt
  refine sound_save_bind (saves_coverage report) (fun z hz => ?_) (fun z _ hsaved => ?_)
  · exact ⟨⟨doc.registered,hz.mem (h₁₂.mem hdocument),hid.trans hnames.1.symm,
      hnames.2.1.symm,hnames.2.2.symm⟩,hcomplete,hcounted⟩
  · exact meets_pure (fun w hzw _ => ⟨report,hzw.mem hsaved,rfl⟩)

end Disclosures

section Fetches

variable {files : Files}

theorem sound_fetchLoop {record : Stamp → Json → Except PyError ExternalDataRecord}
    (hrecord : ∀ stamp row r, record stamp row = .ok r → RecordGrounds r) (columns : List String)
    (stamps : Nat → Stamp) (rows : List (Json × Nat)) (x : Store) :
    SoundJob files (fun _ _ => True) (fetchLoop record columns stamps rows) x := by
  induction rows generalizing x with
  | nil => exact meets_pure (fun _ _ _ => trivial)
  | cons head rows ih =>
    obtain ⟨row,i⟩ := head
    refine meets_give_bind (fun kept hkept => ?_)
    refine sound_save_bind (saves_record kept) (fun _ _ => hrecord _ _ _ hkept) (fun y _ _ => ?_)
    refine meets_give_bind (fun entry _ => ?_)
    exact meets_bind (ih y) (fun _ _ _ _ => meets_pure (fun _ _ _ => trivial))

theorem sound_fetchJob {record : Stamp → Json → Except PyError ExternalDataRecord}
    (hrecord : ∀ stamp row r, record stamp row = .ok r → RecordGrounds r) (columns : List String)
    (fetched : Except PyError (List Json)) (stamps : Nat → Stamp) (x : Store) :
    SoundJob files Answered (fetchJob fetched record columns stamps) x := by
  refine meets_give_bind (fun rows _ => ?_)
  refine meets_bind (sound_fetchLoop hrecord columns stamps rows.zipIdx x) ?_
  exact fun _ _ _ _ => meets_pure (fun _ _ _ => trivial)

theorem revenueRecord_grounds {stockId : String} {stamp : Stamp} {row : Json}
    {r : ExternalDataRecord} (h : revenueRecord stockId stamp row = .ok r) : RecordGrounds r := by
  obtain ⟨date,-,h⟩ := bind_eq_ok.mp h
  obtain ⟨payload,-,h⟩ := bind_eq_ok.mp h
  obtain rfl := Except.ok.inj h
  exact ⟨rfl,Or.inl ⟨rfl,rfl⟩⟩

theorem statementRecord_grounds {stockId period : String} {stamp : Stamp} {row : Json}
    {r : ExternalDataRecord} (h : statementRecord stockId period stamp row = .ok r) :
    RecordGrounds r := by
  obtain ⟨payload,-,h⟩ := bind_eq_ok.mp h
  obtain rfl := Except.ok.inj h
  exact ⟨rfl,Or.inr ⟨rfl,rfl⟩⟩

theorem sound_fetchRevenue (api : FinMind) (stamps : Nat → Stamp) (stockId period : String)
    (x : Store) : SoundJob files Answered (fetchRevenue api stamps stockId period) x := by
  have hrecord : ∀ stamp row r, revenueRecord stockId stamp row = .ok r → RecordGrounds r :=
    fun _ _ _ => revenueRecord_grounds
  unfold fetchRevenue
  exact sound_fetchJob hrecord _ _ stamps x

theorem sound_fetchFinancials (api : FinMind) (stamps : Nat → Stamp) (stockId period : String)
    (x : Store) : SoundJob files Answered (fetchFinancials api stamps stockId period) x := by
  have hrecord : ∀ stamp row r, statementRecord stockId period stamp row = .ok r →
      RecordGrounds r := fun _ _ _ => statementRecord_grounds
  unfold fetchFinancials
  exact sound_fetchJob hrecord _ _ stamps x

end Fetches

theorem sound_job (files : Files) (request : JobRequest) (x : Store) :
    SoundJob files Answered request.job x := by
  unfold JobRequest.job
  cases request with
  | upload uploadDir documentId disk form =>
    exact sound_uploadDocument files x uploadDir documentId disk form
  | summary uuid4 now reply documentId => exact sound_createSummary x uuid4 now reply documentId
  | diff uuid4 now reply currentDocumentId previousDocumentId =>
    exact sound_createDiffReport x uuid4 now reply currentDocumentId previousDocumentId
  | trend trendReportId now documentIds kpiList =>
    exact sound_createTrendReport x trendReportId now documentIds kpiList
  | patterns runId now documentId => exact sound_runPatterns x runId now documentId
  | coverage coverageId now reply documentId =>
    exact sound_createDisclosureCoverage x coverageId now reply documentId
  | revenue api stamps stockId period =>
    exact sound_fetchRevenue api stamps stockId period x
  | financials api stamps stockId period =>
    exact sound_fetchFinancials api stamps stockId period x

end FinancialPdfReader
