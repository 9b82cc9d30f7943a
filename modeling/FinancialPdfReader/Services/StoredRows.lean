import FinancialPdfReader.Services.TextExtraction

namespace FinancialPdfReader

open Py

/-- Records of one report, whatever has become of its ingestion. -/
def SameReport (a b : PDFDocument) : Prop :=
  a.stockId = b.stockId ∧ a.period = b.period ∧ a.filePath = b.filePath

/-- A chunk without the name it was given when it was saved. -/
def PDFChunk.content (c : PDFChunk) : PDFChunk := { c with chunkId := "" }

def PDFTable.content (t : PDFTable) : PDFTable := { t with tableId := "" }

def documentPages (files : Files) (doc : PDFDocument) : List PageData :=
  match files doc.filePath with
  | none => []
  | some file => (extractPages file).toOption.getD []

/-- The chunks of all pages of a document's file, each once. -/
def documentChunks (files : Files) (doc : PDFDocument) : List PDFChunk :=
  (pageChunks (documentPages files doc)).map (newChunk "" doc.documentId doc)

/-- The tables of all pages of a document's file, each once. -/
def documentTables (files : Files) (doc : PDFDocument) : List PDFTable :=
  match files doc.filePath with
  | some (.ok pages) => (pageTables pages).map (newTable "" doc.documentId doc)
  | _ => []

/-- Every chunk is on a page of the file. -/
theorem page_of_mem_documentChunks {files : Files} {doc : PDFDocument} {pages : List PdfPage}
    (hfile : files doc.filePath = some (.ok pages)) {c : PDFChunk}
    (hc : c ∈ documentChunks files doc) : 1 ≤ c.page ∧ c.page ≤ pages.length := by
  obtain ⟨chunkData,hdata,rfl⟩ := List.mem_map.mp hc
  obtain ⟨pageData,hpage,hchunk⟩ := List.mem_flatMap.mp hdata
  obtain ⟨text,-,rfl⟩ := List.mem_map.mp hchunk
  rw [documentPages, hfile] at hpage
  cases hfound : extractPages (.ok pages) with
  | error message =>
    simp only [hfound] at hpage
    contradiction
  | ok found =>
    simp only [hfound] at hpage
    exact page_of_mem_extractPages hfound hpage

namespace SameReport

variable {a b c : PDFDocument}

theorem refl (a : PDFDocument) : SameReport a a := ⟨rfl,rfl,rfl⟩

theorem trans (h : SameReport a b) (g : SameReport b c) : SameReport a c :=
  ⟨h.1.trans g.1,h.2.1.trans g.2.1,h.2.2.trans g.2.2⟩

end SameReport

/-- A call is working on what the document's file holds. -/
def IngestCall.Sound (files : Files) (doc : PDFDocument) (call : IngestCall) : Prop :=
  match call.stage with
  | .called => True
  | .loaded d => SameReport d doc
  | .ingesting d file => SameReport d doc ∧ files doc.filePath = some file
  | .saving d pages => SameReport d doc ∧ pages = documentPages files doc
  | .returned _ => (documentChunks files doc).length ≤ call.chunksCreated
  | .raised _ => True

/-- A call that has the pages of its document has `n` of them. -/
def IngestCall.Counts (n : Nat) (call : IngestCall) : Prop :=
  match call.stage with
  | .saving _ pages => pages.length = n
  | _ => True

def ExtractCall.Sound (files : Files) (doc : PDFDocument) (call : ExtractCall) : Prop :=
  match call.stage with
  | .called => True
  | .saving d pages => SameReport d doc ∧ files doc.filePath = some (.ok pages)
  | .returned _ => (documentTables files doc).length ≤ call.tablesCreated
  | .raised _ => True

/-- A document that is saved keeps its report: only what was set is new. -/
private theorem document?_saved {f : PDFDocument → PDFDocument} {db : Database}
    (savedId : String) {documentId : String} {d : PDFDocument}
    (hf : ∀ d, (f d).documentId = d.documentId ∧ SameReport (f d) d)
    (hd : db.document? documentId = some d) :
    ∃ d', (db.saveDocument savedId f).document? documentId = some d' ∧ SameReport d' d ∧
      (d' = d ∨ savedId = documentId ∧ d' = f d) := by
  rw [Database.document?_saveDocument (fun d => (hf d).1), hd, Option.map_some]
  by_cases hid : d.documentId = savedId
  · have hsaved : savedId = documentId := hid.symm.trans (Database.document?_eq_some hd).2
    exact ⟨f d,by rw [if_pos hid],(hf d).2,Or.inr ⟨hsaved,rfl⟩⟩
  · exact ⟨d,by rw [if_neg hid],SameReport.refl d,Or.inl rfl⟩

private theorem document?_saveStatus {db : Database} (loaded : PDFDocument) (savedId : String)
    {documentId : String} {status : Status} {d : PDFDocument}
    (hstatus : status ≠ .completed) (hd : db.document? documentId = some d) :
    ∃ d', (saveStatus db loaded savedId status).document? documentId = some d' ∧
      SameReport d' d ∧ d'.totalPages = d.totalPages ∧
      (d'.status = .completed → d.status = .completed) := by
  rw [saveStatus]
  split
  · exact ⟨d,hd,SameReport.refl d,rfl,id⟩
  · obtain ⟨d',hd',hsame,hset⟩ := document?_saved savedId
      (f := fun d => { d with status }) (fun d => ⟨rfl,SameReport.refl d⟩) hd
    rcases hset with rfl | ⟨-,rfl⟩
    · exact ⟨d',hd',hsame,rfl,id⟩
    · exact ⟨_,hd',hsame,rfl,fun hcompleted => absurd hcompleted hstatus⟩

namespace IngestMove

variable {files : Files} {db db' : Database} {call call' : IngestCall} {doc : PDFDocument}

theorem documentId (h : IngestMove files db call db' call') :
    call'.documentId = call.documentId := by
  cases h <;> rfl

theorem not_completed (h : IngestMove files db call db' call') : ¬ call.Completed := by
  intro hparts
  obtain ⟨n,hreturned⟩ := hparts
  cases h with
  | fail error total hstage =>
    rcases hstage with ⟨d,file,hstage,-⟩ | ⟨d,pages,hstage,-⟩
    · rw [hreturned] at hstage
      contradiction
    · rw [hreturned] at hstage
      contradiction
  | noDocument error hstage | load d hstage | noFile d error hstage | begin d file hstage
  | extract d file pages hstage | save d pages chunkData uuid hstage
  | complete d pages now hstage =>
    rw [hreturned] at hstage
    contradiction

theorem pdfTables (h : IngestMove files db call db' call') : db'.pdfTables = db.pdfTables := by
  cases h with
  | noFile d | begin d => exact saveStatus_pdfTables db d call.documentId _
  | noDocument | load | extract | save | complete | fail => rfl

theorem aiReports (h : IngestMove files db call db' call') : db'.aiReports = db.aiReports := by
  cases h with
  | noFile d | begin d => exact saveStatus_aiReports db d call.documentId _
  | noDocument | load | extract | save | complete | fail => rfl

/-- A document stays where it is; it becomes "completed" only by the call that returns. -/
theorem document (h : IngestMove files db call db' call') {documentId : String}
    {d : PDFDocument} (hd : db.document? documentId = some d) :
    ∃ d', db'.document? documentId = some d' ∧ SameReport d' d ∧
      (d'.status = .completed →
        d.status = .completed ∨ call.documentId = documentId ∧ call'.Completed) := by
  cases h with
  | noDocument | load | extract | save => exact ⟨d,hd,SameReport.refl d,Or.inl⟩
  | noFile loaded error hstage hfile =>
    obtain ⟨d',hd',hsame,-,hcompleted⟩ := document?_saveStatus loaded call.documentId
      (show Status.failed ≠ .completed by decide) hd
    exact ⟨d',hd',hsame,fun h => Or.inl (hcompleted h)⟩
  | begin loaded file hstage hfile =>
    obtain ⟨d',hd',hsame,-,hcompleted⟩ := document?_saveStatus loaded call.documentId
      (show Status.ingesting ≠ .completed by decide) hd
    exact ⟨d',hd',hsame,fun h => Or.inl (hcompleted h)⟩
  | complete loaded pages now hstage hend =>
    obtain ⟨d',hd',hsame,hset⟩ := document?_saved call.documentId
      (f := fun d => { d with
        status := .completed
        totalPages := pages.length
        ingestedAt := some now }) (fun d => ⟨rfl,SameReport.refl d⟩) hd
    refine ⟨d',hd',hsame,fun hcompleted => ?_⟩
    rcases hset with rfl | ⟨hid,-⟩
    · exact Or.inl hcompleted
    · exact Or.inr ⟨hid,pages.length,rfl⟩
  | fail error total hstage =>
    obtain ⟨d',hd',hsame,hset⟩ := document?_saved call.documentId
      (f := fun d => { d with
        status := .failed
        totalPages := total d }) (fun d => ⟨rfl,SameReport.refl d⟩) hd
    refine ⟨d',hd',hsame,fun hcompleted => ?_⟩
    rcases hset with rfl | ⟨-,rfl⟩
    · exact Or.inl hcompleted
    · contradiction

/-- The pages of a document are counted again by its own calls, and by nobody else; without a
count it does not become "completed". -/
theorem totalPages (h : IngestMove files db call db' call') {documentId : String}
    {d : PDFDocument} {n : Nat} (hd : db.document? documentId = some d)
    (hcounts : call.documentId = documentId → call.Counts n) :
    ∃ d', db'.document? documentId = some d' ∧
      (d'.totalPages = n ∨ d'.totalPages = d.totalPages ∧
        (d'.status = .completed → d.status = .completed)) := by
  cases h with
  | noDocument | load | extract | save => exact ⟨d,hd,Or.inr ⟨rfl,id⟩⟩
  | noFile loaded error hstage hfile =>
    obtain ⟨d',hd',-,hsame⟩ := document?_saveStatus loaded call.documentId
      (show Status.failed ≠ .completed by decide) hd
    exact ⟨d',hd',Or.inr hsame⟩
  | begin loaded file hstage hfile =>
    obtain ⟨d',hd',-,hsame⟩ := document?_saveStatus loaded call.documentId
      (show Status.ingesting ≠ .completed by decide) hd
    exact ⟨d',hd',Or.inr hsame⟩
  | complete loaded pages now hstage hend =>
    obtain ⟨d',hd',-,hset⟩ := document?_saved call.documentId
      (f := fun d => { d with
        status := .completed
        totalPages := pages.length
        ingestedAt := some now }) (fun d => ⟨rfl,SameReport.refl d⟩) hd
    rcases hset with rfl | ⟨hid,rfl⟩
    · exact ⟨d',hd',Or.inr ⟨rfl,id⟩⟩
    · have hpages := hcounts hid
      rw [IngestCall.Counts, hstage] at hpages
      exact ⟨_,hd',Or.inl hpages⟩
  | fail error total hstage =>
    obtain ⟨d',hd',-,hset⟩ := document?_saved call.documentId
      (f := fun d => { d with
        status := .failed
        totalPages := total d }) (fun d => ⟨rfl,SameReport.refl d⟩) hd
    rcases hset with rfl | ⟨hid,rfl⟩
    · exact ⟨d',hd',Or.inr ⟨rfl,id⟩⟩
    · rcases hstage with ⟨loaded,file,hstage,rfl⟩ | ⟨loaded,pages,hstage,rfl⟩
      · exact ⟨_,hd',Or.inr ⟨rfl,fun hcompleted => by contradiction⟩⟩
      · have hpages := hcounts hid
        rw [IngestCall.Counts, hstage] at hpages
        exact ⟨_,hd',Or.inl hpages⟩

/-- A call goes on with the document it has loaded and with the pages of its file. -/
theorem sound (h : IngestMove files db call db' call') (hid : call.documentId = doc.documentId)
    {d : PDFDocument} (hd : db.document? doc.documentId = some d) (hsame : SameReport d doc)
    (hsound : call.Sound files doc) : call'.Sound files doc := by
  rw [IngestCall.Sound] at hsound
  cases h with
  | noDocument | noFile | fail => trivial
  | load loaded hstage hdoc =>
    rw [hid, hd] at hdoc
    obtain rfl := Option.some.inj hdoc
    exact hsame
  | begin loaded file hstage hfile =>
    simp only [hstage] at hsound
    rw [hsound.2.2] at hfile
    exact ⟨hsound,hfile⟩
  | extract loaded file pages hstage hpages =>
    simp only [hstage] at hsound
    refine ⟨hsound.1,?_⟩
    rw [documentPages, hsound.2]
    simp only [hpages]
    rfl
  | save loaded pages chunkData uuid hstage hnext hfresh =>
    simp only [hstage] at hsound
    rw [IngestCall.Sound, hstage]
    exact hsound
  | complete loaded pages now hstage hend =>
    simp only [hstage] at hsound
    show (documentChunks files doc).length ≤ call.chunksCreated
    rw [documentChunks, List.length_map, ← hsound.2]
    exact List.getElem?_eq_none_iff.mp hend

/-- A call finds as many pages as its document's file has. -/
theorem counts (h : IngestMove files db call db' call') {pages : List PdfPage}
    (hfile : files doc.filePath = some (.ok pages)) (hsound : call.Sound files doc)
    (hcounts : call.Counts pages.length) : call'.Counts pages.length := by
  cases h with
  | noDocument | load | noFile | begin | complete | fail => trivial
  | extract loaded file found hstage hfound =>
    rw [IngestCall.Sound, hstage] at hsound
    obtain rfl := Option.some.inj (hfile.symm.trans hsound.2)
    exact extractPages_length hfound
  | save => exact hcounts

/-- A call saves its next chunk or none; the chunks that were stored stay in front. -/
theorem appended (h : IngestMove files db call db' call')
    (hid : call.documentId = doc.documentId) (hsound : call.Sound files doc) :
    (db'.pdfChunks = db.pdfChunks ∧ call'.chunksCreated = call.chunksCreated) ∨
      ∃ chunk, db'.pdfChunks = db.pdfChunks ++ [chunk] ∧ chunk.documentId = doc.documentId ∧
        (documentChunks files doc)[call.chunksCreated]? = some chunk.content ∧
        call'.chunksCreated = call.chunksCreated + 1 := by
  rw [IngestCall.Sound] at hsound
  cases h with
  | noFile d | begin d => exact Or.inl ⟨saveStatus_pdfChunks db d call.documentId _,rfl⟩
  | noDocument | load | extract | complete | fail => exact Or.inl ⟨rfl,rfl⟩
  | save d pages chunkData uuid hstage hnext hfresh =>
    simp only [hstage] at hsound
    obtain ⟨hsame,rfl⟩ := hsound
    refine Or.inr ⟨newChunk uuid call.documentId d chunkData,rfl,hid,?_,rfl⟩
    rw [documentChunks, List.getElem?_map, hnext, Option.map_some]
    simp only [newChunk, PDFChunk.content, hid, hsame.1, hsame.2.1]

/-- What is stored of the call's document grows by its next chunk, or not at all. -/
theorem chunks (h : IngestMove files db call db' call') (hid : call.documentId = doc.documentId)
    (hsound : call.Sound files doc) :
    (db'.pdfChunks = db.pdfChunks ∧ call'.chunksCreated = call.chunksCreated) ∨
      ∃ chunk ∈ (documentChunks files doc)[call.chunksCreated]?,
        (db'.chunksOf doc.documentId).map PDFChunk.content =
          (db.chunksOf doc.documentId).map PDFChunk.content ++ [chunk] ∧
        call'.chunksCreated = call.chunksCreated + 1 := by
  rcases h.appended hid hsound with hsame | ⟨chunk,hstored,hmine,hnext,hcount⟩
  · exact Or.inl hsame
  · refine Or.inr ⟨chunk.content,hnext,?_,hcount⟩
    rw [Database.chunksOf, hstored, List.filter_append, List.map_append]
    simp [Database.chunksOf, hmine]

theorem chunks_other (h : IngestMove files db call db' call')
    (hid : call.documentId ≠ doc.documentId) :
    db'.chunksOf doc.documentId = db.chunksOf doc.documentId := by
  cases h with
  | noDocument | load | extract | complete | fail => rfl
  | noFile d | begin d => rw [Database.chunksOf, saveStatus_pdfChunks, Database.chunksOf]
  | save d pages chunkData uuid hstage hnext hfresh =>
    have hother : (newChunk uuid call.documentId d chunkData).documentId ≠ doc.documentId := hid
    rw [Database.chunksOf, List.filter_append]
    simp [Database.chunksOf, hother]

end IngestMove

namespace ExtractMove

variable {files : Files} {db db' : Database} {call call' : ExtractCall} {doc : PDFDocument}

theorem documentId (h : ExtractMove files db call db' call') :
    call'.documentId = call.documentId := by
  cases h <;> rfl

theorem aiReports (h : ExtractMove files db call db' call') : db'.aiReports = db.aiReports := by
  cases h <;> rfl

/-- Only tables are saved. -/
theorem frame (h : ExtractMove files db call db' call') :
    db'.pdfDocuments = db.pdfDocuments ∧ db'.pdfChunks = db.pdfChunks := by
  cases h <;> exact ⟨rfl,rfl⟩

theorem sound (h : ExtractMove files db call db' call') (hid : call.documentId = doc.documentId)
    {d : PDFDocument} (hd : db.document? doc.documentId = some d) (hsame : SameReport d doc)
    (hsound : call.Sound files doc) : call'.Sound files doc := by
  rw [ExtractCall.Sound] at hsound
  cases h with
  | fail error => trivial
  | load loaded pages hstage hdoc hfile =>
    rw [hid, hd] at hdoc
    obtain rfl := Option.some.inj hdoc
    rw [hsame.2.2] at hfile
    exact ⟨hsame,hfile⟩
  | save loaded pages tableData uuid hstage hnext hfresh =>
    simp only [hstage] at hsound
    rw [ExtractCall.Sound, hstage]
    exact hsound
  | complete loaded pages hstage hend =>
    simp only [hstage] at hsound
    show (documentTables files doc).length ≤ call.tablesCreated
    simp only [documentTables, hsound.2, List.length_map]
    exact List.getElem?_eq_none_iff.mp hend

/-- What is stored of the call's document grows by its next table, or not at all. -/
theorem tables (h : ExtractMove files db call db' call') (hid : call.documentId = doc.documentId)
    (hsound : call.Sound files doc) :
    (db'.pdfTables = db.pdfTables ∧ call'.tablesCreated = call.tablesCreated) ∨
      ∃ table ∈ (documentTables files doc)[call.tablesCreated]?,
        (db'.tablesOf doc.documentId).map PDFTable.content =
          (db.tablesOf doc.documentId).map PDFTable.content ++ [table] ∧
        call'.tablesCreated = call.tablesCreated + 1 := by
  rw [ExtractCall.Sound] at hsound
  cases h with
  | load | complete | fail => exact Or.inl ⟨rfl,rfl⟩
  | save d pages tableData uuid hstage hnext hfresh =>
    simp only [hstage] at hsound
    obtain ⟨hsame,hfile⟩ := hsound
    have hcontent : (newTable uuid call.documentId d tableData).content =
        newTable "" doc.documentId doc tableData := by
      simp only [newTable, PDFTable.content, hid, hsame.1, hsame.2.1]
    refine Or.inr ⟨newTable "" doc.documentId doc tableData,?_,?_,rfl⟩
    · simp only [documentTables, hfile, List.getElem?_map, hnext]
      rfl
    · have hmine : (newTable uuid call.documentId d tableData).documentId = doc.documentId := hid
      rw [Database.tablesOf, List.filter_append, List.map_append]
      simp [Database.tablesOf, hmine, hcontent]

theorem tables_other (h : ExtractMove files db call db' call')
    (hid : call.documentId ≠ doc.documentId) :
    db'.tablesOf doc.documentId = db.tablesOf doc.documentId := by
  cases h with
  | load | complete | fail => rfl
  | save d pages tableData uuid hstage hnext hfresh =>
    have hother : (newTable uuid call.documentId d tableData).documentId ≠ doc.documentId := hid
    rw [Database.tablesOf, List.filter_append]
    simp [Database.tablesOf, hother]

end ExtractMove

end FinancialPdfReader
