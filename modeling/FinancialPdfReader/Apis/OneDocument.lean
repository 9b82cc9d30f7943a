import FinancialPdfReader.Apis.Runs
import FinancialPdfReader.Concurrency.Isolation

namespace FinancialPdfReader

open Py RaisingProgram Job

section Rows

variable {α : Type} (owner : α → String) (documentId : String)

/-- The rows of one document. -/
def ownRows (rows : List α) : List α := rows.filter (fun r => owner r = documentId)

variable {owner documentId}

@[simp] theorem mem_ownRows {rows : List α} {r : α} :
    r ∈ ownRows owner documentId rows ↔ r ∈ rows ∧ owner r = documentId := by
  simp [ownRows]

theorem ownRows_append (rows : List α) {r : α} (h : owner r = documentId) :
    ownRows owner documentId (rows ++ [r]) = ownRows owner documentId rows ++ [r] := by
  simp [ownRows, h]

theorem ownRows_append_other (rows : List α) {r : α} (h : owner r ≠ documentId) :
    ownRows owner documentId (rows ++ [r]) = ownRows owner documentId rows := by
  simp [ownRows, h]

theorem ownRows_map {f : α → α} (hf : ∀ r, owner (f r) = owner r) (rows : List α) :
    ownRows owner documentId (rows.map f) = (ownRows owner documentId rows).map f := by
  have hsame : (fun r => decide (owner r = documentId)) ∘ f =
      fun r => decide (owner r = documentId) := by
    funext r
    simp [hf]
  rw [ownRows, List.filter_map, hsame, ownRows]

theorem ownRows_twice (rows : List α) :
    ownRows owner documentId (ownRows owner documentId rows) =
      ownRows owner documentId rows := by
  simp [ownRows]

/-- An identifier that is new among all rows is new among those of one document. -/
theorem saveNew_ownRows {key : α → String} {field : String} {rows rows' : List α} {row : α}
    (h : Database.saveNew rows key field row = .ok rows') (hrow : owner row = documentId) :
    Database.saveNew (ownRows owner documentId rows) key field row =
      .ok (ownRows owner documentId rows') := by
  obtain ⟨hfresh,rfl⟩ := Database.saveNew_eq_ok.mp h
  refine Database.saveNew_eq_ok.mpr ⟨fun s hs => hfresh s (mem_ownRows.mp hs).1,?_⟩
  exact ownRows_append rows hrow

theorem saveNew_ownRows_other {key : α → String} {field : String} {rows rows' : List α} {row : α}
    (h : Database.saveNew rows key field row = .ok rows') (hrow : owner row ≠ documentId) :
    ownRows owner documentId rows' = ownRows owner documentId rows := by
  obtain ⟨-,rfl⟩ := Database.saveNew_eq_ok.mp h
  exact ownRows_append_other rows hrow

end Rows

def Database.ofDocument (documentId : String) (db : Database) : Database :=
  { pdfDocuments := ownRows (·.documentId) documentId db.pdfDocuments
    pdfChunks := ownRows (·.documentId) documentId db.pdfChunks
    pdfTables := ownRows (·.documentId) documentId db.pdfTables
    aiReports := ownRows (·.documentId) documentId db.aiReports
    diffReports := []
    trendReports := [] }

/-- What is saved of one document, as a store of its own. -/
def Store.ofDocument (documentId : String) (x : Store) : Store :=
  { db := x.db.ofDocument documentId
    patternRuns := ownRows (·.documentId) documentId x.patternRuns
    coverageReports := ownRows (·.documentId) documentId x.coverageReports
    external := [] }

namespace Database

section Lookups

variable (documentId : String) (db : Database)

@[simp] theorem ofDocument_document? :
    (db.ofDocument documentId).document? documentId = db.document? documentId := by
  simp [ofDocument, document?, ownRows, List.find?_filter]

@[simp] theorem ofDocument_chunksByPage :
    (db.ofDocument documentId).chunksByPage documentId = db.chunksByPage documentId :=
  congrArg (List.insertionSort _) (ownRows_twice db.pdfChunks)

@[simp] theorem ofDocument_latestReport? :
    (db.ofDocument documentId).latestReport? documentId = db.latestReport? documentId :=
  congrArg (fun rows : List AIReport => (rows.insertionSort _).head?)
    (ownRows_twice db.aiReports)

end Lookups

section Changes

variable {documentId : String} {db db' : Database}

theorem ofDocument_saveDocument {f : PDFDocument → PDFDocument}
    (hf : ∀ d, (f d).documentId = d.documentId) (savedId : String) :
    (db.saveDocument savedId f).ofDocument documentId =
      (db.ofDocument documentId).saveDocument savedId f := by
  have hkeeps : ∀ d : PDFDocument,
      (if d.documentId = savedId then f d else d).documentId = d.documentId := by
    intro d
    split_ifs
    · exact hf d
    · rfl
  simp only [ofDocument, saveDocument, ownRows_map hkeeps]

theorem ofDocument_saveDocument_other {f : PDFDocument → PDFDocument}
    (hf : ∀ d, (f d).documentId = d.documentId) {savedId : String} (hid : savedId ≠ documentId) :
    (db.saveDocument savedId f).ofDocument documentId = db.ofDocument documentId := by
  rw [ofDocument_saveDocument hf, saveDocument]
  have hnone : (db.ofDocument documentId).pdfDocuments.map
      (fun d => if d.documentId = savedId then f d else d) =
        (db.ofDocument documentId).pdfDocuments := by
    refine (List.map_congr_left (fun d hd => ?_)).trans (List.map_id _)
    have hmine : d.documentId = documentId := (mem_ownRows.mp hd).2
    exact if_neg (fun hsaved => hid (hsaved.symm.trans hmine))
  rw [hnone]

theorem ofDocument_saveStatus (doc : PDFDocument) (savedId : String) (status : Status) :
    (saveStatus db doc savedId status).ofDocument documentId =
      saveStatus (db.ofDocument documentId) doc savedId status := by
  simp only [saveStatus]
  split
  · rfl
  · exact ofDocument_saveDocument (f := fun d => { d with status }) (fun _ => rfl) savedId

theorem ofDocument_saveStatus_other (doc : PDFDocument) {savedId : String}
    (hid : savedId ≠ documentId) (status : Status) :
    (saveStatus db doc savedId status).ofDocument documentId = db.ofDocument documentId := by
  rw [saveStatus]
  split
  · rfl
  · exact ofDocument_saveDocument_other (f := fun d => { d with status }) (fun _ => rfl) hid

theorem ofDocument_saveChunk {c : PDFChunk} (h : db.saveChunk c = .ok db')
    (hmine : c.documentId = documentId) :
    (db.ofDocument documentId).saveChunk c = .ok (db'.ofDocument documentId) := by
  obtain ⟨rows,hrows,rfl⟩ := map_eq_ok.mp h
  exact map_eq_ok.mpr ⟨_,saveNew_ownRows hrows hmine,rfl⟩

theorem ofDocument_saveTable {t : PDFTable} (h : db.saveTable t = .ok db')
    (hmine : t.documentId = documentId) :
    (db.ofDocument documentId).saveTable t = .ok (db'.ofDocument documentId) := by
  obtain ⟨rows,hrows,rfl⟩ := map_eq_ok.mp h
  exact map_eq_ok.mpr ⟨_,saveNew_ownRows hrows hmine,rfl⟩

theorem ofDocument_saveSection (chunk : PDFChunk) (sectionName : String) :
    (saveSection db chunk sectionName).ofDocument documentId =
      saveSection (db.ofDocument documentId) chunk sectionName := by
  have hkeeps : ∀ c : PDFChunk,
      (if c.chunkId = chunk.chunkId then { c with sectionName } else c).documentId =
        c.documentId := by
    intro c
    split_ifs <;> rfl
  simp only [saveSection]
  split
  · rfl
  · simp only [ofDocument, setSection, ownRows_map hkeeps]

/-- The section of a chunk is no matter of a document that has no chunk of that name. -/
theorem ofDocument_saveSection_other {chunk : PDFChunk}
    (hother : ∀ c ∈ db.pdfChunks, c.documentId = documentId → c.chunkId ≠ chunk.chunkId)
    (sectionName : String) :
    (saveSection db chunk sectionName).ofDocument documentId = db.ofDocument documentId := by
  rw [ofDocument_saveSection, saveSection]
  split
  · rfl
  · have hnone : (db.ofDocument documentId).pdfChunks.map
        (fun c => if c.chunkId = chunk.chunkId then { c with sectionName } else c) =
          (db.ofDocument documentId).pdfChunks := by
      refine (List.map_congr_left (fun c hc => ?_)).trans (List.map_id _)
      obtain ⟨hmem,hmine⟩ := mem_ownRows.mp hc
      exact if_neg (hother c hmem hmine)
    rw [setSection, hnone]

end Changes

end Database

section Saves

/-- A save of something that belongs to a document, or to none: in the store of its document it is
saved as well, in the stores of all others it does not show. -/
structure SavesFor (owner : Option String) (f : Store → Except PyError Store) : Prop where
  own : ∀ documentId x y, owner = some documentId → f x = .ok y →
    f (x.ofDocument documentId) = .ok (y.ofDocument documentId)
  others : ∀ documentId x y, owner ≠ some documentId → f x = .ok y →
    y.ofDocument documentId = x.ofDocument documentId

/-- All saves are alike but for the collection. -/
theorem savesFor_row {α : Type} {owner key : α → String} {field : String} {row : α}
    (rows : Store → List α) (put : Store → List α → Store) {f : Store → Except PyError Store}
    (hf : ∀ x, f x = put x <$> Database.saveNew (rows x) key field row)
    (hrows : ∀ documentId x, rows (x.ofDocument documentId) = ownRows owner documentId (rows x))
    (hput : ∀ documentId x rs, (put x rs).ofDocument documentId =
      put (x.ofDocument documentId) (ownRows owner documentId rs))
    (hsame : ∀ x, put x (rows x) = x) : SavesFor (some (owner row)) f := by
  refine ⟨fun documentId x y howner h => ?_,fun documentId x y howner h => ?_⟩
  · rw [hf] at h
    obtain ⟨rows',hsave,rfl⟩ := map_eq_ok.mp h
    rw [hf, hrows, saveNew_ownRows hsave (Option.some.inj howner), hput]
    rfl
  · rw [hf] at h
    obtain ⟨rows',hsave,rfl⟩ := map_eq_ok.mp h
    have hother : owner row ≠ documentId := fun heq => howner (congrArg some heq)
    rw [hput, saveNew_ownRows_other hsave hother, ← hput, hsame]

/-- A collection that no document has a part in. -/
theorem savesFor_none {f : Store → Except PyError Store}
    (h : ∀ documentId x y, f x = .ok y → y.ofDocument documentId = x.ofDocument documentId) :
    SavesFor none f :=
  ⟨(fun _ _ _ howner => nomatch howner),fun documentId x y _ => h documentId x y⟩

theorem savesFor_document (doc : PDFDocument) : SavesFor (some doc.documentId)
    (fun x => (fun db => { x with db }) <$> saveNewDocument x.db doc) :=
  savesFor_row (fun x => x.db.pdfDocuments)
    (fun x rows => { x with db := { x.db with pdfDocuments := rows } })
    (fun _ => Functor.map_map _ _ _) (fun _ _ => rfl) (fun _ _ _ => rfl) (fun _ => rfl)

theorem savesFor_report (r : AIReport) : SavesFor (some r.documentId)
    (fun x => (fun db => { x with db }) <$> x.db.saveReport r) :=
  savesFor_row (fun x => x.db.aiReports)
    (fun x rows => { x with db := { x.db with aiReports := rows } })
    (fun _ => Functor.map_map _ _ _) (fun _ _ => rfl) (fun _ _ _ => rfl) (fun _ => rfl)

theorem savesFor_patternRun (r : PatternRunReport) : SavesFor (some r.documentId)
    (fun x => (fun patternRuns => { x with patternRuns }) <$>
      Database.saveNew x.patternRuns (·.runId) "run_id" r) :=
  savesFor_row (fun x => x.patternRuns) (fun x rows => { x with patternRuns := rows })
    (fun _ => rfl) (fun _ _ => rfl) (fun _ _ _ => rfl) (fun _ => rfl)

theorem savesFor_coverage (r : DisclosureCoverageReport) : SavesFor (some r.documentId)
    (fun x => (fun coverageReports => { x with coverageReports }) <$>
      Database.saveNew x.coverageReports (·.coverageId) "coverage_id" r) :=
  savesFor_row (fun x => x.coverageReports) (fun x rows => { x with coverageReports := rows })
    (fun _ => rfl) (fun _ _ => rfl) (fun _ _ _ => rfl) (fun _ => rfl)

theorem savesFor_diff (r : DiffReport) : SavesFor none
    (fun x => (fun db => { x with db }) <$> x.db.saveDiffReport r) := by
  refine savesFor_none (fun documentId x y h => ?_)
  obtain ⟨db,hsave,rfl⟩ := map_eq_ok.mp h
  obtain ⟨-,rfl⟩ := Database.saveDiffReport_eq_ok hsave
  rfl

theorem savesFor_trend (r : TrendReport) : SavesFor none
    (fun x => (fun db => { x with db }) <$> x.db.saveTrendReport r) := by
  refine savesFor_none (fun documentId x y h => ?_)
  obtain ⟨db,hsave,rfl⟩ := map_eq_ok.mp h
  obtain ⟨-,rfl⟩ := Database.saveTrendReport_eq_ok.mp hsave
  rfl

theorem savesFor_record (r : ExternalDataRecord) : SavesFor none
    (fun x => (fun external => { x with external }) <$>
      Database.saveNew x.external (·.recordId) "record_id" r) := by
  refine savesFor_none (fun documentId x y h => ?_)
  obtain ⟨rows,-,rfl⟩ := map_eq_ok.mp h
  rfl

end Saves

section Jobs

/-- A job that is about one document, or about none: it does in the store of its document what it
does in the whole, and to the stores of all others nothing. -/
structure JobFor (owner : Option String) {α : Type} (job : Job α) : Prop where
  own : ∀ documentId, owner = some documentId → Insulated (Store.ofDocument documentId) job
  others : ∀ documentId, owner ≠ some documentId → Hidden (Store.ofDocument documentId) job

variable {owner : Option String} {α β : Type}

theorem jobFor_pure {a : α} : JobFor owner (pure a : Job α) :=
  ⟨fun _ _ => insulated_pure,fun _ _ => hidden_pure⟩

theorem jobFor_give_bind {r : Except PyError α} {k : α → Job β}
    (h : ∀ a, r = .ok a → JobFor owner (k a)) : JobFor owner (give r >>= k) :=
  ⟨fun documentId howner => insulated_give_bind (fun a ha => (h a ha).own documentId howner),
    fun documentId howner => hidden_give_bind (fun a ha => (h a ha).others documentId howner)⟩

theorem jobFor_lookDb_bind {f : Database → Except PyError α} {k : α → Job β}
    (hf : ∀ documentId (x : Store), owner = some documentId →
      f (x.db.ofDocument documentId) = f x.db)
    (h : ∀ db a, f db = .ok a → JobFor owner (k a)) : JobFor owner (lookDb f >>= k) :=
  ⟨fun documentId howner => insulated_look_bind (fun x => hf documentId x howner)
      (fun x a ha => (h x.db a ha).own documentId howner),
    fun documentId howner => hidden_look_bind
      (fun x a ha => (h x.db a ha).others documentId howner)⟩

theorem jobFor_save_bind {f : Store → Except PyError Store} {k : Unit → Job β}
    (hf : SavesFor owner f) (h : JobFor owner (k ())) : JobFor owner (save f >>= k) :=
  ⟨fun documentId howner => insulated_save_bind (fun x y => hf.own documentId x y howner)
      (h.own documentId howner),
    fun documentId howner => hidden_save_bind (fun x y => hf.others documentId x y howner)
      (h.others documentId howner)⟩

/-- Where no document is concerned, what is looked at does not matter. -/
theorem jobFor_none_bind {p : Job α} {k : α → Job β} (hp : JobFor none p)
    (hk : ∀ a, JobFor none (k a)) : JobFor none (p >>= k) :=
  ⟨(fun _ howner => nomatch howner),fun documentId howner =>
    hidden_bind (hp.others documentId howner) (fun a => (hk a).others documentId howner)⟩

theorem jobFor_none_mapM {f : α → Job β} (hf : ∀ a, JobFor none (f a)) (as : List α) :
    JobFor none (as.mapM f) :=
  ⟨(fun _ howner => nomatch howner),fun documentId howner =>
    hidden_mapM (fun a => (hf a).others documentId howner) as⟩

theorem jobFor_uploadDocument (uploadDir documentId : String) (disk : Except PyError Unit)
    (form : UploadForm) :
    JobFor (some documentId) (uploadDocument uploadDir documentId disk form) := by
  unfold uploadDocument
  split
  · exact jobFor_pure
  · refine jobFor_give_bind (fun _ _ => jobFor_give_bind (fun _ _ => ?_))
    exact jobFor_save_bind (savesFor_document (uploadedDocument uploadDir documentId form))
      jobFor_pure

theorem jobFor_createSummary (uuid4 : Nat → String) (now : Nat) (reply : ModelReply)
    (documentId : String) :
    JobFor (some documentId) (createSummary uuid4 now reply documentId) := by
  refine jobFor_lookDb_bind (fun _ x howner => ?_) (fun db doc hdoc => ?_)
  · obtain rfl := Option.some.inj howner
    simp only [ingestedDocument, Database.ofDocument_document?]
  refine jobFor_lookDb_bind (fun _ x howner => ?_) (fun _ chunks _ => ?_)
  · obtain rfl := Option.some.inj howner
    have hsame : retrieveChunksSectionAware (x.db.ofDocument documentId) documentId 60 =
        retrieveChunksSectionAware x.db documentId 60 := by
      rw [retrieveChunksSectionAware, Database.ofDocument_chunksByPage]
      rfl
    rw [ingestedChunks, hsame]
    rfl
  refine jobFor_give_bind (fun r hbuilt => ?_)
  obtain ⟨report,fields⟩ := r
  have hid : report.documentId = documentId :=
    (summaryOf_names hbuilt).1.1.trans
      (Database.document?_eq_some (ingestedDocument_eq_ok hdoc).1).2
  exact jobFor_save_bind (hid ▸ savesFor_report report) jobFor_pure

theorem jobFor_runPatterns (runId : String) (now : Nat) (documentId : String) :
    JobFor (some documentId) (runPatterns runId now documentId) := by
  refine jobFor_lookDb_bind (fun _ x howner => ?_) (fun _ doc _ => ?_)
  · obtain rfl := Option.some.inj howner
    simp only [analysedDocument, Database.ofDocument_document?]
  refine jobFor_lookDb_bind (fun _ x howner => ?_) (fun _ report _ => ?_)
  · obtain rfl := Option.some.inj howner
    simp only [analysedReport, Database.ofDocument_latestReport?]
  exact jobFor_save_bind (savesFor_patternRun (patternRunOf runId now documentId doc report))
    jobFor_pure

theorem jobFor_createDisclosureCoverage (coverageId : String) (now : Nat)
    (reply : Except PyError String) (documentId : String) :
    JobFor (some documentId) (createDisclosureCoverage coverageId now reply documentId) := by
  refine jobFor_lookDb_bind (fun _ x howner => ?_) (fun _ doc _ => ?_)
  · obtain rfl := Option.some.inj howner
    simp only [auditedDocument, Database.ofDocument_document?]
  refine jobFor_lookDb_bind (fun _ x howner => ?_) (fun _ _ _ => ?_)
  · obtain rfl := Option.some.inj howner
    simp only [auditedChunks, Database.ofDocument_chunksByPage]
  refine jobFor_give_bind (fun report hbuilt => ?_)
  have hid : report.documentId = documentId := (coverageFrom_eq_ok hbuilt).1.1
  exact jobFor_save_bind (hid ▸ savesFor_coverage report) jobFor_pure

/-- A comparison looks at two documents and belongs to neither. -/
theorem jobFor_createDiffReport (uuid4 : String → Nat → String) (now : Nat)
    (reply : String → SectionReply) (currentDocumentId previousDocumentId : String) :
    JobFor none (createDiffReport uuid4 now reply currentDocumentId previousDocumentId) := by
  refine jobFor_lookDb_bind (fun _ _ howner => nomatch howner) (fun _ current _ => ?_)
  refine jobFor_lookDb_bind (fun _ _ howner => nomatch howner) (fun _ previous _ => ?_)
  refine jobFor_give_bind (fun pair _ => ?_)
  refine jobFor_lookDb_bind (fun _ _ howner => nomatch howner) (fun _ currentBySection _ => ?_)
  refine jobFor_lookDb_bind (fun _ _ howner => nomatch howner) (fun _ previousBySection _ => ?_)
  refine jobFor_give_bind (fun report _ => ?_)
  exact jobFor_save_bind (savesFor_diff report) jobFor_pure

theorem jobFor_createTrendReport (trendReportId : String) (now : Nat)
    (documentIds kpiList : List String) :
    JobFor none (createTrendReport trendReportId now documentIds kpiList) := by
  unfold createTrendReport
  split
  · exact jobFor_pure
  · have hgather : ∀ documentId, JobFor none (gatherPeriod documentId) := by
      intro documentId
      refine jobFor_lookDb_bind (fun _ _ howner => nomatch howner) (fun _ doc _ => ?_)
      refine jobFor_lookDb_bind (fun _ _ howner => nomatch howner) (fun _ report _ => ?_)
      exact jobFor_pure
    refine jobFor_none_bind (jobFor_none_mapM hgather documentIds) (fun found => ?_)
    refine jobFor_give_bind (fun points _ => ?_)
    refine jobFor_lookDb_bind (fun _ _ howner => nomatch howner) (fun _ report _ => ?_)
    exact jobFor_save_bind (savesFor_trend report) jobFor_pure

theorem jobFor_fetchJob (fetched : Except PyError (List Json))
    (record : Stamp → Json → Except PyError ExternalDataRecord) (columns : List String)
    (stamps : Nat → Stamp) : JobFor none (fetchJob fetched record columns stamps) := by
  have hloop : ∀ rows, JobFor none (fetchLoop record columns stamps rows) := by
    intro rows
    induction rows with
    | nil => exact jobFor_pure
    | cons row rows ih =>
      refine jobFor_give_bind (fun kept _ => jobFor_save_bind (savesFor_record kept) ?_)
      refine jobFor_give_bind (fun entry _ => ?_)
      exact jobFor_none_bind ih (fun rest => jobFor_pure)
  refine jobFor_give_bind (fun rows _ => ?_)
  exact jobFor_none_bind (hloop rows.zipIdx) (fun shown => jobFor_pure)

/-- The document that a request is about. -/
def JobRequest.documentId? : JobRequest → Option String
  | .upload _ documentId _ _ => some documentId
  | .summary _ _ _ documentId => some documentId
  | .patterns _ _ documentId => some documentId
  | .coverage _ _ _ documentId => some documentId
  | .diff _ _ _ _ _ => none
  | .trend _ _ _ _ => none
  | .revenue _ _ _ _ => none
  | .financials _ _ _ _ => none

theorem jobFor_job (request : JobRequest) : JobFor request.documentId? request.job := by
  cases request with
  | upload uploadDir documentId disk form =>
    exact jobFor_uploadDocument uploadDir documentId disk form
  | summary uuid4 now reply documentId => exact jobFor_createSummary uuid4 now reply documentId
  | patterns runId now documentId => exact jobFor_runPatterns runId now documentId
  | coverage coverageId now reply documentId =>
    exact jobFor_createDisclosureCoverage coverageId now reply documentId
  | diff uuid4 now reply currentDocumentId previousDocumentId =>
    exact jobFor_createDiffReport uuid4 now reply currentDocumentId previousDocumentId
  | trend trendReportId now documentIds kpiList =>
    exact jobFor_createTrendReport trendReportId now documentIds kpiList
  | revenue api stamps stockId period => exact jobFor_fetchJob _ _ _ stamps
  | financials api stamps stockId period => exact jobFor_fetchJob _ _ _ stamps

end Jobs

end FinancialPdfReader
