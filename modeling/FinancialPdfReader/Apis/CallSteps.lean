import FinancialPdfReader.Apis.Consistent

namespace FinancialPdfReader

open Py

section Ingest

/-- The first chunks of a document's file are stored. -/
def ChunksSaved (files : Files) (A : Set Row) (doc : PDFDocument) (n : Nat) : Prop :=
  ∀ c ∈ (documentChunks files doc).take n, Stored A c

theorem ChunksSaved.mono {files : Files} {A B : Set Row} (hAB : A ⊆ B) {doc : PDFDocument}
    {n : Nat} (h : ChunksSaved files A doc n) : ChunksSaved files B doc n :=
  fun c hc => (h c hc).mono hAB

theorem ChunksSaved.succ {files : Files} {A : Set Row} {doc : PDFDocument} {n : Nat}
    (h : ChunksSaved files A doc n) {c : PDFChunk} (hc : (documentChunks files doc)[n]? = some c)
    (hstored : Stored A c) : ChunksSaved files A doc (n + 1) := by
  intro d hd
  rw [List.take_add_one, hc, Option.toList_some, List.mem_append, List.mem_singleton] at hd
  rcases hd with hd | rfl
  · exact h d hd
  · exact hstored

/-- A call that has loaded its document works on what is on record of it, and what it has saved
so far is there. -/
def IngestCall.OnRecord (files : Files) (x : Store) (call : IngestCall) : Prop :=
  (∃ doc, .document doc ∈ x.rows ∧ doc.documentId = call.documentId ∧ call.Sound files doc ∧
      ChunksSaved files x.rows doc call.chunksCreated) ∨
    (call.stage = .called ∧ call.chunksCreated = 0) ∨ ∃ error, call.stage = .raised error

variable {files : Files} {x y : Store} {call call' : IngestCall} {db : Database}

theorem IngestCall.OnRecord.stable (h : Grows files x y) (hcall : call.OnRecord files x) :
    call.OnRecord files y := by
  rcases hcall with ⟨doc,hdoc,hid,hsound,hsaved⟩ | hstage
  · exact .inl ⟨doc,h.mem hdoc,hid,hsound,hsaved.mono (Archive.Grows.subset h)⟩
  · exact .inr hstage

theorem IngestMove.not_raised (h : IngestMove files x.db call db call') (error : PyError) :
    call.stage ≠ .raised error := by
  intro hraised
  cases h with
  | fail _ total hstage =>
    rcases hstage with ⟨d,file,hstage,-⟩ | ⟨d,pages,hstage,-⟩
    · cases hraised.symm.trans hstage
    · cases hraised.symm.trans hstage
  | noDocument _ hstage | load d hstage | noFile d _ hstage | begin d file hstage
  | extract d file pages hstage | save d pages chunkData uuid hstage
  | complete d pages now hstage => cases hraised.symm.trans hstage

/-- A chunk is what the file gives of it, whoever is told of the document. -/
theorem newChunk_content {loaded doc : PDFDocument} {documentId : String}
    (hid : doc.documentId = documentId) (hsame : SameReport loaded doc) (uuid : String)
    (chunkData : PageData) : (newChunk uuid documentId loaded chunkData).unlabelled.content =
      (newChunk "" doc.documentId doc chunkData).unlabelled := by
  simp only [newChunk, PDFChunk.unlabelled, PDFChunk.content, hid, hsame.1, hsame.2.1]

/-- What a call counts as created is stored. -/
theorem IngestMove.chunksSaved (h : IngestMove files x.db call db call')
    (hgrows : Grows files x { x with db }) {doc : PDFDocument}
    (hid : doc.documentId = call.documentId) (hsound : call.Sound files doc)
    (hsaved : ChunksSaved files x.rows doc call.chunksCreated) :
    ChunksSaved files { x with db }.rows doc call'.chunksCreated := by
  have hold := hsaved.mono (Archive.Grows.subset hgrows)
  cases h with
  | save loaded pages chunkData uuid hstage hnext hfresh =>
    rw [IngestCall.Sound, hstage] at hsound
    obtain ⟨hsame,rfl⟩ := hsound
    have hfound : (documentChunks files doc)[call.chunksCreated]? =
        some (newChunk "" doc.documentId doc chunkData) := by
      rw [documentChunks, List.getElem?_map, hnext]
      rfl
    refine hold.succ hfound ⟨_,?_,newChunk_content hid hsame uuid chunkData⟩
    rw [(Store.adds_chunk _).rows]
    exact Set.mem_insert _ _
  | noDocument | load | noFile | begin | extract | complete | fail => exact hold

/-- A step of an ingestion keeps to what is on record of its document. -/
theorem IngestMove.onRecord (h : IngestMove files x.db call db call') (hx : Consistent files x)
    (hgrows : Grows files x { x with db }) (hcall : call.OnRecord files x) :
    call'.OnRecord files { x with db } := by
  rcases hcall with ⟨doc,hdoc,hid,hsound,hsaved⟩ | ⟨hcalled,hnone⟩ | ⟨error,hraised⟩
  · obtain ⟨d,hd,hregistered⟩ := hx.document? hdoc
    have hsame : SameReport d doc := by
      rw [← hregistered]
      exact SameReport.refl d
    exact .inl ⟨doc,hgrows.mem hdoc,hid.trans h.documentId.symm,
      h.sound hid.symm hd hsame hsound,h.chunksSaved hgrows hid hsound hsaved⟩
  · cases h with
    | noDocument error => exact .inr (.inr ⟨error,rfl⟩)
    | load d hstage hd =>
      obtain ⟨hmem,hid⟩ := Store.document_of_document? hd
      refine .inl ⟨d.registered,hgrows.mem hmem,hid,SameReport.refl d,?_⟩
      intro c hc
      rw [hnone, List.take_zero] at hc
      exact absurd hc List.not_mem_nil
    | fail error total hstage =>
      rcases hstage with ⟨d,file,hstage,-⟩ | ⟨d,pages,hstage,-⟩
      · cases hcalled.symm.trans hstage
      · cases hcalled.symm.trans hstage
    | noFile d _ hstage | begin d file hstage | extract d file pages hstage
    | save d pages chunkData uuid hstage | complete d pages now hstage =>
      cases hcalled.symm.trans hstage
  · exact absurd hraised (h.not_raised error)

theorem newlyWhole_saveDocument {f : PDFDocument → PDFDocument} (documentId : String)
    (hf : ∀ d ∈ x.db.pdfDocuments, d.documentId = documentId → (f d).status = .completed →
      Whole files x.rows (f d)) :
    NewlyWhole files x { x with db := x.db.saveDocument documentId f } := by
  intro d hd hstatus
  obtain ⟨old,hold,rfl⟩ := List.mem_map.mp hd
  by_cases hid : old.documentId = documentId
  · rw [if_pos hid] at hstatus ⊢
    exact .inr (hf old hold hid hstatus)
  · rw [if_neg hid]
    exact .inl hold

theorem newlyWhole_saveStatus (doc : PDFDocument) (documentId : String) {status : Status}
    (h : status ≠ .completed) :
    NewlyWhole files x { x with db := saveStatus x.db doc documentId status } := by
  rw [saveStatus]
  split
  · exact newlyWhole_of_eq rfl
  · exact newlyWhole_saveDocument documentId (fun _ _ _ hstatus => absurd hstatus h)

/-- A step of an ingestion adds the next chunk of its file to the record, or nothing; it ends when
there is no next one. -/
theorem IngestMove.consistent (h : IngestMove files x.db call db call') (hx : Consistent files x)
    (hcall : call.OnRecord files x) :
    Consistent files { x with db } ∧ Grows files x { x with db } := by
  cases h with
  | noDocument | load | extract =>
    exact hx.same (.refl x) (newlyWhole_of_eq rfl) rfl hx.labels
  | noFile d | begin d =>
    refine hx.same (Store.keeps_saveStatus d call.documentId _)
      (newlyWhole_saveStatus d call.documentId (by decide)) (saveStatus_pdfTables _ d _ _) ?_
    rw [Labelled, saveStatus_pdfChunks]
    exact hx.labels
  | complete loaded pages now hstage hend =>
    refine hx.same (Store.keeps_saveDocument (f := fun d => { d with
      status := .completed
      totalPages := pages.length
      ingestedAt := some now }) (fun _ => rfl) call.documentId) ?_ rfl hx.labels
    refine newlyWhole_saveDocument call.documentId (fun d hd hid _ => ?_)
    rcases hcall with ⟨doc,hdoc,hdocId,hsound,hsaved⟩ | ⟨hcalled,-⟩ | ⟨error,hraised⟩
    · rw [IngestCall.Sound, hstage] at hsound
      obtain ⟨hsame,rfl⟩ := hsound
      have hrow : .document d.registered ∈ x.rows := List.mem_map_of_mem hd
      have hkey : (Row.document d.registered).key = (Row.document doc).key :=
        congrArg (Prod.mk _) (hid.trans hdocId.symm)
      obtain rfl := Row.document.inj (hx.keyed hrow hdoc hkey)
      have hall : (documentChunks files d.registered).length ≤ call.chunksCreated := by
        rw [documentChunks, List.length_map]
        exact List.getElem?_eq_none_iff.mp hend
      refine ⟨rfl,fun c hc => hsaved c ?_⟩
      rw [List.take_of_length_le hall]
      exact hc
    · cases hcalled.symm.trans hstage
    · cases hraised.symm.trans hstage
  | fail error total =>
    refine hx.same (Store.keeps_saveDocument (f := fun d => { d with
      status := .failed
      totalPages := total d }) (fun _ => rfl) call.documentId) ?_ rfl hx.labels
    refine newlyWhole_saveDocument call.documentId (fun d _ _ hstatus => ?_)
    cases hstatus
  | save loaded pages chunkData uuid hstage hnext hfresh =>
    rcases hcall with ⟨doc,hdoc,hid,hsound,-⟩ | ⟨hcalled,-⟩ | ⟨error,hraised⟩
    · rw [IngestCall.Sound, hstage] at hsound
      obtain ⟨hsame,rfl⟩ := hsound
      have hfound : newChunk "" doc.documentId doc chunkData ∈ documentChunks files doc :=
        List.mem_map_of_mem (List.mem_of_getElem? hnext)
      have hunder : SavedUnder x.rows call.documentId loaded.stockId loaded.period doc :=
        ⟨hdoc,hid,hsame.1.symm,hsame.2.1.symm⟩
      exact hx.add (Store.adds_chunk _) (not_mem_ids hfresh)
        ⟨doc,hunder,_,hfound,newChunk_content hid hsame uuid chunkData⟩ (newlyWhole_of_eq rfl)
        (hx.tables_insert (Store.adds_chunk _) (not_mem_ids hfresh) rfl)
        (hx.labels.append (classifyChunk_isLabel chunkData.text))
    · cases hcalled.symm.trans hstage
    · cases hraised.symm.trans hstage

end Ingest

section Extract

/-- The first tables of a document's file are stored, under whatever names. -/
def TablesSaved (files : Files) (A : Set Row) (doc : PDFDocument) (n : Nat) : Prop :=
  ∀ t ∈ (documentTables files doc).take n, ∃ stored, .table stored ∈ A ∧ stored.content = t

theorem TablesSaved.mono {files : Files} {A B : Set Row} (hAB : A ⊆ B) {doc : PDFDocument}
    {n : Nat} (h : TablesSaved files A doc n) : TablesSaved files B doc n := by
  intro t ht
  obtain ⟨stored,hstored,hcontent⟩ := h t ht
  exact ⟨stored,hAB hstored,hcontent⟩

def ExtractCall.OnRecord (files : Files) (x : Store) (call : ExtractCall) : Prop :=
  (∃ doc, .document doc ∈ x.rows ∧ doc.documentId = call.documentId ∧ call.Sound files doc ∧
      TablesSaved files x.rows doc call.tablesCreated) ∨
    (call.stage = .called ∧ call.tablesCreated = 0) ∨ ∃ error, call.stage = .raised error

variable {files : Files} {x y : Store} {call call' : ExtractCall} {db : Database}

theorem ExtractCall.OnRecord.stable (h : Grows files x y) (hcall : call.OnRecord files x) :
    call.OnRecord files y := by
  rcases hcall with ⟨doc,hdoc,hid,hsound,hsaved⟩ | hstage
  · exact .inl ⟨doc,h.mem hdoc,hid,hsound,hsaved.mono (Archive.Grows.subset h)⟩
  · exact .inr hstage

/-- A table is what the file gives of it, whoever is told of the document. -/
theorem newTable_content {loaded doc : PDFDocument} {documentId : String}
    (hid : doc.documentId = documentId) (hsame : SameReport loaded doc) (uuid : String)
    (tableData : TableData) : (newTable uuid documentId loaded tableData).content =
      newTable "" doc.documentId doc tableData := by
  simp only [newTable, PDFTable.content, hid, hsame.1, hsame.2.1]

theorem documentId_of_documentTables {doc : PDFDocument} {t : PDFTable}
    (h : t ∈ documentTables files doc) : t.documentId = doc.documentId := by
  rw [documentTables] at h
  split at h
  · obtain ⟨tableData,-,rfl⟩ := List.mem_map.mp h
    rfl
  · exact absurd h List.not_mem_nil

/-- The table that a call saves next is the next one of the file. -/
theorem documentTables_next {doc : PDFDocument} {pages : List PdfPage}
    (hfile : files doc.filePath = some (.ok pages)) {n : Nat} {tableData : TableData}
    (hnext : (pageTables pages)[n]? = some tableData) :
    (documentTables files doc)[n]? = some (newTable "" doc.documentId doc tableData) := by
  rw [documentTables, hfile]
  change ((pageTables pages).map _)[n]? = _
  rw [List.getElem?_map, hnext]
  rfl

/-- What a call counts as created is stored. -/
theorem ExtractMove.tablesSaved (h : ExtractMove files x.db call db call')
    (hgrows : Grows files x { x with db }) {doc : PDFDocument}
    (hid : doc.documentId = call.documentId) (hsound : call.Sound files doc)
    (hsaved : TablesSaved files x.rows doc call.tablesCreated) :
    TablesSaved files { x with db }.rows doc call'.tablesCreated := by
  have hold := hsaved.mono (Archive.Grows.subset hgrows)
  cases h with
  | save loaded pages tableData uuid hstage hnext hfresh =>
    rw [ExtractCall.Sound, hstage] at hsound
    obtain ⟨hsame,hfile⟩ := hsound
    intro t ht
    rw [List.take_add_one, documentTables_next hfile hnext, Option.toList_some, List.mem_append,
      List.mem_singleton] at ht
    rcases ht with ht | rfl
    · exact hold t ht
    · refine ⟨_,?_,newTable_content hid hsame uuid tableData⟩
      rw [(Store.adds_table _).rows]
      exact Set.mem_insert _ _
  | load | complete | fail => exact hold

theorem ExtractMove.onRecord (h : ExtractMove files x.db call db call')
    (hx : Consistent files x) (hgrows : Grows files x { x with db })
    (hcall : call.OnRecord files x) : call'.OnRecord files { x with db } := by
  rcases hcall with ⟨doc,hdoc,hid,hsound,hsaved⟩ | ⟨hcalled,hnone⟩ | ⟨error,hraised⟩
  · obtain ⟨d,hd,hregistered⟩ := hx.document? hdoc
    have hsame : SameReport d doc := by
      rw [← hregistered]
      exact SameReport.refl d
    exact .inl ⟨doc,hgrows.mem hdoc,hid.trans h.documentId.symm,
      h.sound hid.symm hd hsame hsound,h.tablesSaved hgrows hid hsound hsaved⟩
  · cases h with
    | load d pages hstage hd hfile =>
      obtain ⟨hmem,hid⟩ := Store.document_of_document? hd
      refine .inl ⟨d.registered,hgrows.mem hmem,hid,⟨SameReport.refl d,hfile⟩,?_⟩
      intro t ht
      rw [hnone, List.take_zero] at ht
      exact absurd ht List.not_mem_nil
    | fail error => exact .inr (.inr ⟨error,rfl⟩)
    | save d pages tableData uuid hstage | complete d pages hstage =>
      cases hcalled.symm.trans hstage
  · cases h with
    | fail error => exact .inr (.inr ⟨error,rfl⟩)
    | load d pages hstage | save d pages tableData uuid hstage | complete d pages hstage =>
      cases hraised.symm.trans hstage

/-- A table that comes in next keeps the tables of its document in order, and is none of any
other's. -/
theorem Consistent.tables_append (hx : Consistent files x) {doc : PDFDocument}
    (hdoc : .document doc ∈ x.rows) {table : PDFTable} (hmine : table.documentId = doc.documentId)
    {n : Nat} (hnext : (documentTables files doc)[n]? = some table.content)
    (hsaved : TablesSaved files x.rows doc n) :
    TablesInOrder files { x with db := { x.db with pdfTables := x.db.pdfTables ++ [table] } } := by
  intro other hother
  rw [(Store.adds_table _).rows, Set.mem_insert_iff, or_iff_right (by simp)] at hother
  change SharedLog.Follows _
    (((x.db.pdfTables ++ [table]).filter (fun t => t.documentId = other.documentId)).map _)
  rw [List.filter_append, List.map_append]
  by_cases hid : other.documentId = doc.documentId
  · have hkey : (Row.document other).key = (Row.document doc).key := congrArg (Prod.mk _) hid
    obtain rfl := Row.document.inj (hx.keyed hother hdoc hkey)
    have hin : [table].filter (fun t => t.documentId = other.documentId) = [table] := by
      simp [hmine]
    rw [hin]
    refine (hx.tables other hother).append hnext (fun t ht => ?_)
    obtain ⟨stored,hstored,hcontent⟩ := hsaved t ht
    have hstoredId : stored.content.documentId = other.documentId := by
      rw [hcontent]
      exact documentId_of_documentTables (List.mem_of_mem_take ht)
    have hmem : stored ∈ x.db.tablesOf other.documentId :=
      List.mem_filter.mpr ⟨hstored,decide_eq_true hstoredId⟩
    exact hcontent ▸ List.mem_map_of_mem hmem
  · have hout : [table].filter (fun t => t.documentId = other.documentId) = [] := by
      simp [hmine, Ne.symm hid]
    rw [hout, List.map_nil, List.append_nil]
    exact hx.tables other hother

/-- A step of an extraction adds the next table of its file to the record, or nothing. -/
theorem ExtractMove.consistent (h : ExtractMove files x.db call db call')
    (hx : Consistent files x) (hcall : call.OnRecord files x) :
    Consistent files { x with db } ∧ Grows files x { x with db } := by
  cases h with
  | load | complete | fail => exact hx.same (.refl x) (newlyWhole_of_eq rfl) rfl hx.labels
  | save loaded pages tableData uuid hstage hnext hfresh =>
    rcases hcall with ⟨doc,hdoc,hid,hsound,hsaved⟩ | ⟨hcalled,-⟩ | ⟨error,hraised⟩
    · rw [ExtractCall.Sound, hstage] at hsound
      obtain ⟨hsame,hfile⟩ := hsound
      have hunder : SavedUnder x.rows call.documentId loaded.stockId loaded.period doc :=
        ⟨hdoc,hid,hsame.1.symm,hsame.2.1.symm⟩
      have hfound := documentTables_next hfile hnext
      rw [← newTable_content hid hsame uuid tableData] at hfound
      exact hx.add (Store.adds_table _) (not_mem_ids hfresh)
        ⟨doc,hunder,List.mem_of_getElem? hfound⟩ (newlyWhole_of_eq rfl)
        (hx.tables_append hdoc hid.symm hfound hsaved) hx.labels
    · cases hcalled.symm.trans hstage
    · cases hraised.symm.trans hstage

end Extract

section Sections

variable {files : Files} {x : Store}

theorem Consistent.sectionSaved (hx : Consistent files x) (chunk : PDFChunk)
    {sectionName : String} (hlabel : IsLabel sectionName) :
    Consistent files { x with db := saveSection x.db chunk sectionName } ∧
      Grows files x { x with db := saveSection x.db chunk sectionName } := by
  have hdocs : (saveSection x.db chunk sectionName).pdfDocuments = x.db.pdfDocuments := by
    rw [saveSection]
    split <;> rfl
  have htables : (saveSection x.db chunk sectionName).pdfTables = x.db.pdfTables := by
    rw [saveSection]
    split <;> rfl
  exact hx.same (Store.keeps_saveSection chunk sectionName) (newlyWhole_of_eq hdocs) htables
    (hx.labels.saveSection chunk hlabel)

/-- The chunks that a classification has still to label are stored ones of its document. -/
def ClassifyCall.OnRecord (x : Store) (call : ClassifyCall) : Prop :=
  ∀ c ∈ call.todo, .chunk c.unlabelled ∈ x.rows ∧ c.documentId = call.documentId

def OverrideCall.OnRecord (x : Store) (call : OverrideCall) : Prop :=
  ∀ c, call.stage = .loaded c → (.chunk c.unlabelled ∈ x.rows ∧ c.chunkId = call.chunkId) ∧
    IsLabel call.sectionName

theorem ClassifyCall.OnRecord.stable {y : Store} (h : Grows files x y) {call : ClassifyCall}
    (hcall : call.OnRecord x) : call.OnRecord y :=
  fun c hc => ⟨h.mem (hcall c hc).1,(hcall c hc).2⟩

theorem OverrideCall.OnRecord.stable {y : Store} (h : Grows files x y) {call : OverrideCall}
    (hcall : call.OnRecord x) : call.OnRecord y :=
  fun c hc => ⟨⟨h.mem (hcall c hc).1.1,(hcall c hc).1.2⟩,(hcall c hc).2⟩

theorem classifyStep_onRecord {reply : ModelText} {call call' : ClassifyCall} {db : Database}
    (h : classifyStep reply x.db call = some (db,call')) (hcall : call.OnRecord x) :
    call'.OnRecord x ∧ call'.documentId = call.documentId := by
  rw [classifyStep] at h
  cases hstage : call.stage with
  | called =>
    simp only [hstage] at h
    cases hchunks : x.db.chunksByPage call.documentId with
    | nil =>
      simp only [hchunks] at h
      obtain ⟨-,rfl⟩ := Prod.mk.inj (Option.some.inj h)
      exact ⟨fun c hc => absurd hc List.not_mem_nil,rfl⟩
    | cons chunk chunks =>
      simp only [hchunks] at h
      obtain ⟨-,rfl⟩ := Prod.mk.inj (Option.some.inj h)
      refine ⟨fun c hc => ?_,rfl⟩
      have hloaded : c ∈ x.db.chunksByPage call.documentId := hchunks ▸ hc
      obtain ⟨hmem,hid⟩ := Database.mem_chunksByPage.mp hloaded
      exact ⟨List.mem_map_of_mem hmem,hid⟩
  | classifying todo found =>
    cases todo with
    | nil =>
      simp only [hstage] at h
      obtain ⟨-,rfl⟩ := Prod.mk.inj (Option.some.inj h)
      exact ⟨fun c hc => absurd hc List.not_mem_nil,rfl⟩
    | cons chunk todo =>
      simp only [hstage] at h
      obtain ⟨-,rfl⟩ := Prod.mk.inj (Option.some.inj h)
      refine ⟨fun c hc => hcall c ?_,rfl⟩
      rw [ClassifyCall.todo, hstage]
      exact List.mem_cons_of_mem chunk hc
  | returned result => simp [hstage] at h
  | raised error => simp [hstage] at h

theorem overrideStep_onRecord {call call' : OverrideCall} {db : Database}
    (h : overrideStep x.db call = some (db,call')) :
    call'.OnRecord x ∧ call'.chunkId = call.chunkId := by
  have hlabel : ∀ c, call'.stage = .loaded c → IsLabel call'.sectionName :=
    fun c => overrideStep_isLabel h
  rw [overrideStep] at h
  cases hstage : call.stage with
  | called =>
    simp only [hstage] at h
    split at h
    · obtain ⟨-,rfl⟩ := Prod.mk.inj (Option.some.inj h)
      exact ⟨(fun c hc => by cases hc),rfl⟩
    · split at h
      · obtain ⟨-,rfl⟩ := Prod.mk.inj (Option.some.inj h)
        exact ⟨(fun c hc => by cases hc),rfl⟩
      · next chunk hfound =>
        obtain ⟨-,rfl⟩ := Prod.mk.inj (Option.some.inj h)
        refine ⟨fun c hc => ?_,rfl⟩
        obtain rfl := OverrideStage.loaded.inj hc
        have hid : chunk.chunkId = call.chunkId := by simpa using List.find?_some hfound
        exact ⟨⟨List.mem_map_of_mem (List.mem_of_find?_eq_some hfound),hid⟩,hlabel chunk rfl⟩
  | loaded chunk =>
    simp only [hstage] at h
    obtain ⟨-,rfl⟩ := Prod.mk.inj (Option.some.inj h)
    exact ⟨(fun c hc => by cases hc),rfl⟩
  | returned oldSection => simp [hstage] at h
  | raised error => simp [hstage] at h

theorem classifyFail_onRecord {message : String} {call call' : ClassifyCall}
    (h : classifyFail message call = some call') :
    call'.OnRecord x ∧ call'.documentId = call.documentId := by
  refine ⟨fun c hc => ?_,?_⟩
  · rw [classifyFail_todo h] at hc
    exact absurd hc List.not_mem_nil
  · rw [classifyFail] at h
    split at h
    · rw [← Option.some.inj h]
    · rw [← Option.some.inj h]
    · contradiction
    · contradiction

theorem overrideFail_onRecord {message : String} {call call' : OverrideCall}
    (h : overrideFail message call = some call') :
    call'.OnRecord x ∧ call'.chunkId = call.chunkId := by
  rw [overrideFail] at h
  split at h
  · obtain rfl := Option.some.inj h
    exact ⟨(fun c hc => nomatch hc),rfl⟩
  · obtain rfl := Option.some.inj h
    exact ⟨(fun c hc => nomatch hc),rfl⟩
  · contradiction
  · contradiction

theorem classifyStep_consistent {reply : ModelText} {call call' : ClassifyCall} {db : Database}
    (h : classifyStep reply x.db call = some (db,call')) (hx : Consistent files x) :
    Consistent files { x with db } ∧ Grows files x { x with db } := by
  cases classifyStep_move h with
  | other => exact ⟨hx,.refl⟩
  | save chunk => exact hx.sectionSaved chunk (classifyChunkWith_isLabel _ _ reply)

theorem overrideStep_consistent {call call' : OverrideCall} {db : Database}
    (h : overrideStep x.db call = some (db,call')) (hx : Consistent files x)
    (hcall : call.OnRecord x) :
    Consistent files { x with db } ∧ Grows files x { x with db } := by
  rcases overrideStep_db h with ⟨chunk,hstage,rfl⟩ | ⟨-,rfl⟩
  · exact hx.sectionSaved chunk (hcall chunk hstage).2
  · exact ⟨hx,.refl⟩

end Sections

end FinancialPdfReader
