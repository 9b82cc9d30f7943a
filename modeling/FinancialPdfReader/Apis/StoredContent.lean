import FinancialPdfReader.Apis.Requests
import FinancialPdfReader.Services.StoredRows

namespace FinancialPdfReader

open Py

namespace Server

variable {files : Files} {doc : PDFDocument} {s t : Server}

def ingestsOf (s : Server) (documentId : String) : List IngestCall :=
  s.ingests.filter (fun call => call.documentId = documentId)

def extractsOf (s : Server) (documentId : String) : List ExtractCall :=
  s.extracts.filter (fun call => call.documentId = documentId)

/-- The document is still on record, its calls work on its file, and only a call that has
returned has made it "completed". -/
structure Sound (files : Files) (doc : PDFDocument) (s : Server) : Prop where
  document : ∃ d, s.db.document? doc.documentId = some d ∧ SameReport d doc ∧
    (d.status = .completed → ∃ call ∈ s.ingestsOf doc.documentId, call.Completed)
  ingests : ∀ call ∈ s.ingestsOf doc.documentId, call.Sound files doc
  extracts : ∀ call ∈ s.extractsOf doc.documentId, call.Sound files doc

def storedChunks (s : Server) (documentId : String) : List PDFChunk :=
  (s.db.chunksOf documentId).map PDFChunk.content

def storedTables (s : Server) (documentId : String) : List PDFTable :=
  (s.db.tablesOf documentId).map PDFTable.content

def chunkWriter (files : Files) (doc : PDFDocument) (call : IngestCall) :
    SharedLog.Writer PDFChunk :=
  ⟨documentChunks files doc,call.chunksCreated⟩

def tableWriter (files : Files) (doc : PDFDocument) (call : ExtractCall) :
    SharedLog.Writer PDFTable :=
  ⟨documentTables files doc,call.tablesCreated⟩

/-- The stored chunks of a document as a log that the calls to `ingest_pdf` write. -/
def chunkLog (files : Files) (doc : PDFDocument) (s : Server) : SharedLog.State PDFChunk :=
  SharedLog.ofProcesses (fun call : IngestCall => call.documentId = doc.documentId)
    (chunkWriter files doc) (s.storedChunks doc.documentId) s.ingests

/-- The stored tables of a document as a log that the calls to `extract_tables` write. -/
def tableLog (files : Files) (doc : PDFDocument) (s : Server) : SharedLog.State PDFTable :=
  SharedLog.ofProcesses (fun call : ExtractCall => call.documentId = doc.documentId)
    (tableWriter files doc) (s.storedTables doc.documentId) s.extracts

theorem mem_ingestsOf {documentId : String} {call : IngestCall} :
    call ∈ s.ingestsOf documentId ↔ call ∈ s.ingests ∧ call.documentId = documentId := by
  simp [ingestsOf]

theorem mem_extractsOf {documentId : String} {call : ExtractCall} :
    call ∈ s.extractsOf documentId ↔ call ∈ s.extracts ∧ call.documentId = documentId := by
  simp [extractsOf]

/-- When one call has moved, what holds of all calls for a document has to be checked for it
alone. -/
theorem forall_ingestsOf_move {P : IngestCall → Prop} {db db' : Database}
    {before after : List IngestCall} {call call' : IngestCall} {extracts : List ExtractCall}
    {documentId : String} (hid : call'.documentId = call.documentId)
    (hall : ∀ c ∈ ingestsOf ⟨db,before ++ call :: after,extracts⟩ documentId, P c)
    (hmoved : call.documentId = documentId → P call → P call') :
    ∀ c ∈ ingestsOf ⟨db',before ++ call' :: after,extracts⟩ documentId, P c := by
  intro c hc
  rw [mem_ingestsOf, List.mem_append, List.mem_cons] at hc
  rcases hc with ⟨hc | rfl | hc,hmine⟩
  · exact hall c (mem_ingestsOf.mpr ⟨by simp [hc],hmine⟩)
  · have hcall : call.documentId = documentId := hid.symm.trans hmine
    exact hmoved hcall (hall call (mem_ingestsOf.mpr ⟨by simp,hcall⟩))
  · exact hall c (mem_ingestsOf.mpr ⟨by simp [hc],hmine⟩)

/-- A new call joins those for its document. -/
theorem forall_ingestsOf_join {P : IngestCall → Prop} {documentId : String} {call : IngestCall}
    (hall : ∀ c ∈ s.ingestsOf documentId, P c) (hnew : P call) :
    ∀ c ∈ ingestsOf { s with ingests := s.ingests ++ [call] } documentId, P c := by
  intro c hc
  obtain ⟨hc,hmine⟩ := mem_ingestsOf.mp hc
  rcases List.mem_append.mp hc with hc | hc
  · exact hall c (mem_ingestsOf.mpr ⟨hc,hmine⟩)
  · obtain rfl := List.mem_singleton.mp hc
    exact hnew

theorem Sound.ingestMove {db db' : Database} {before after : List IngestCall}
    {call call' : IngestCall} {extracts : List ExtractCall}
    (hs : Sound files doc ⟨db,before ++ call :: after,extracts⟩)
    (h : IngestMove files db call db' call') :
    Sound files doc ⟨db',before ++ call' :: after,extracts⟩ := by
  obtain ⟨d,hd,hsame,hcompleted⟩ := hs.document
  obtain ⟨d',hd',hsame',hset⟩ := h.document hd
  refine ⟨⟨d',hd',hsame'.trans hsame,?_⟩,?_,hs.extracts⟩
  · intro hstatus
    rcases hset hstatus with hold | ⟨hid,hnew⟩
    · obtain ⟨c,hc,hreturned⟩ := hcompleted hold
      have hne : c ≠ call := fun heq => h.not_completed (heq ▸ hreturned)
      rw [mem_ingestsOf, List.mem_append, List.mem_cons] at hc
      refine ⟨c,?_,hreturned⟩
      rw [mem_ingestsOf, List.mem_append, List.mem_cons]
      rcases hc with ⟨hc | hc | hc,hmine⟩
      · exact ⟨Or.inl hc,hmine⟩
      · exact absurd hc hne
      · exact ⟨Or.inr (Or.inr hc),hmine⟩
    · refine ⟨call',?_,hnew⟩
      rw [mem_ingestsOf]
      exact ⟨by simp,h.documentId.trans hid⟩
  · apply forall_ingestsOf_move h.documentId hs.ingests
    intro hid hsound
    exact h.sound hid hd hsame hsound

theorem Sound.extractMove {db db' : Database} {before after : List ExtractCall}
    {call call' : ExtractCall} {ingests : List IngestCall}
    (hs : Sound files doc ⟨db,ingests,before ++ call :: after⟩)
    (h : ExtractMove files db call db' call') :
    Sound files doc ⟨db',ingests,before ++ call' :: after⟩ := by
  obtain ⟨d,hd,hsame,hcompleted⟩ := hs.document
  have hd' : db'.document? doc.documentId = some d := by
    rw [Database.document?, h.frame.1]
    exact hd
  refine ⟨⟨d,hd',hsame,hcompleted⟩,hs.ingests,?_⟩
  intro c hc
  rw [mem_extractsOf, List.mem_append, List.mem_cons] at hc
  rcases hc with ⟨hc | rfl | hc,hmine⟩
  · exact hs.extracts c (mem_extractsOf.mpr ⟨by simp [hc],hmine⟩)
  · have hid : call.documentId = doc.documentId := h.documentId.symm.trans hmine
    exact h.sound hid hd hsame (hs.extracts call (mem_extractsOf.mpr ⟨by simp,hid⟩))
  · exact hs.extracts c (mem_extractsOf.mpr ⟨by simp [hc],hmine⟩)

theorem Sound.move (hs : Sound files doc s) (h : Move files s t) : Sound files doc t := by
  cases h with
  | ingest documentId =>
    obtain ⟨d,hd,hsame,hcompleted⟩ := hs.document
    refine ⟨⟨d,hd,hsame,fun hstatus => ?_⟩,?_,hs.extracts⟩
    · obtain ⟨c,hc,hreturned⟩ := hcompleted hstatus
      obtain ⟨hc,hmine⟩ := mem_ingestsOf.mp hc
      exact ⟨c,mem_ingestsOf.mpr ⟨List.mem_append_left _ hc,hmine⟩,hreturned⟩
    · exact forall_ingestsOf_join hs.ingests trivial
  | ingestMove extracts hmove => exact hs.ingestMove hmove
  | extract documentId =>
    refine ⟨hs.document,hs.ingests,?_⟩
    intro c hc
    obtain ⟨hc,hmine⟩ := mem_extractsOf.mp hc
    rcases List.mem_append.mp hc with hc | hc
    · exact hs.extracts c (mem_extractsOf.mpr ⟨hc,hmine⟩)
    · obtain rfl := List.mem_singleton.mp hc
      trivial
  | extractMove ingests hmove => exact hs.extractMove hmove

/-- A move writes one entry of the log, adds a writer, or does nothing that the log shows. -/
theorem chunkLog_move (hs : Sound files doc s) (h : Move files s t) :
    SharedLog.Run (chunkLog files doc s) (chunkLog files doc t) := by
  cases h with
  | ingest _ documentId => exact SharedLog.run_join _ _ _ _ (fun _ => rfl)
  | @ingestMove db db' before after call call' extracts hmove =>
    refine SharedLog.run_process _ _ before after ?_ ?_ ?_
    · rw [hmove.documentId]
    · intro hmine
      have hid : call.documentId = doc.documentId := of_decide_eq_true hmine
      have hsound : call.Sound files doc := hs.ingests call (mem_ingestsOf.mpr ⟨by simp,hid⟩)
      rcases hmove.chunks hid hsound with ⟨hstored,hcreated⟩ | ⟨chunk,hchunk,hstored,hcreated⟩
      · refine Or.inl ⟨?_,?_⟩
        · simp only [storedChunks, Database.chunksOf, hstored]
        · simp only [chunkWriter, hcreated]
      · refine Or.inr ⟨chunk,hchunk,hstored,?_⟩
        simp only [chunkWriter, SharedLog.Writer.next, hcreated]
    · intro hother
      rw [storedChunks, hmove.chunks_other (of_decide_eq_false hother), storedChunks]
  | extract => exact Relation.ReflTransGen.refl
  | @extractMove db db' before after call call' ingests hmove =>
    have hsame : chunkLog files doc ⟨db',ingests,before ++ call' :: after⟩ =
        chunkLog files doc ⟨db,ingests,before ++ call :: after⟩ := by
      simp only [chunkLog, storedChunks, Database.chunksOf, hmove.frame.2]
    rw [hsame]

theorem tableLog_move (hs : Sound files doc s) (h : Move files s t) :
    SharedLog.Run (tableLog files doc s) (tableLog files doc t) := by
  cases h with
  | ingest => exact Relation.ReflTransGen.refl
  | @ingestMove db db' before after call call' extracts hmove =>
    have hsame : tableLog files doc ⟨db',before ++ call' :: after,extracts⟩ =
        tableLog files doc ⟨db,before ++ call :: after,extracts⟩ := by
      simp only [tableLog, storedTables, Database.tablesOf, hmove.pdfTables]
    rw [hsame]
  | extract _ documentId => exact SharedLog.run_join _ _ _ _ (fun _ => rfl)
  | @extractMove db db' before after call call' ingests hmove =>
    refine SharedLog.run_process _ _ before after ?_ ?_ ?_
    · rw [hmove.documentId]
    · intro hmine
      have hid : call.documentId = doc.documentId := of_decide_eq_true hmine
      have hsound : call.Sound files doc := hs.extracts call (mem_extractsOf.mpr ⟨by simp,hid⟩)
      rcases hmove.tables hid hsound with ⟨hstored,hcreated⟩ | ⟨table,htable,hstored,hcreated⟩
      · refine Or.inl ⟨?_,?_⟩
        · simp only [storedTables, Database.tablesOf, hstored]
        · simp only [tableWriter, hcreated]
      · refine Or.inr ⟨table,htable,hstored,?_⟩
        simp only [tableWriter, SharedLog.Writer.next, hcreated]
    · intro hother
      rw [storedTables, hmove.tables_other (of_decide_eq_false hother), storedTables]

/-- The server refines two logs, one of chunks and one of tables, for every document. -/
theorem run_logs {es : List Event} (hrun : run files s es = some t) (hs : Sound files doc s) :
    Sound files doc t ∧ SharedLog.Run (chunkLog files doc s) (chunkLog files doc t) ∧
      SharedLog.Run (tableLog files doc s) (tableLog files doc t) := by
  refine run_invariant (P := fun u => Sound files doc u ∧
    SharedLog.Run (chunkLog files doc s) (chunkLog files doc u) ∧
    SharedLog.Run (tableLog files doc s) (tableLog files doc u)) ?_ hrun
    ⟨hs,Relation.ReflTransGen.refl,Relation.ReflTransGen.refl⟩
  intro u v hmove hparts
  obtain ⟨hu,hchunks,htables⟩ := hparts
  exact ⟨hu.move hmove,hchunks.trans (chunkLog_move hu hmove),
    htables.trans (tableLog_move hu hmove)⟩

theorem sound_start {db : Database} (hdoc : db.document? doc.documentId = some doc)
    (hstatus : doc.status ≠ .completed) : Sound files doc (start db) := by
  refine ⟨⟨doc,hdoc,SameReport.refl doc,fun h => absurd h hstatus⟩,?_,?_⟩
  · intro call hcall
    exact absurd (mem_ingestsOf.mp hcall).1 List.not_mem_nil
  · intro call hcall
    exact absurd (mem_extractsOf.mp hcall).1 List.not_mem_nil

theorem Sound.finished_chunkWriter (hs : Sound files doc s) {call : IngestCall}
    (hcall : call ∈ s.ingestsOf doc.documentId) (hcompleted : call.Completed) :
    (chunkWriter files doc call).Finished := by
  obtain ⟨pagesExtracted,hstage⟩ := hcompleted
  have hsound := hs.ingests call hcall
  rw [IngestCall.Sound, hstage] at hsound
  exact hsound

theorem Sound.finished_tableWriter (hs : Sound files doc s) {call : ExtractCall}
    (hcall : call ∈ s.extractsOf doc.documentId) (hcompleted : call.Completed) :
    (tableWriter files doc call).Finished := by
  obtain ⟨summary,hstage⟩ := hcompleted
  have hsound := hs.extracts call hcall
  rw [ExtractCall.Sound, hstage] at hsound
  exact hsound

/-- What is stored of a document after any run: every call has added the chunks it has got to,
in whole if it completed, so that a document that is "completed" lacks none; each is there once
if one call was made, and once more for every further call that completes. -/
theorem stored_of_run {db : Database} {es : List Event}
    (hdoc : db.document? doc.documentId = some doc) (hstatus : doc.status ≠ .completed)
    (hchunks : db.chunksOf doc.documentId = []) (htables : db.tablesOf doc.documentId = [])
    (hrun : run files (start db) es = some s) :
    ((s.storedChunks doc.documentId).Perm ((s.ingestsOf doc.documentId).flatMap
      (fun call => (documentChunks files doc).take call.chunksCreated)) ∧
    ∀ call ∈ s.ingestsOf doc.documentId, call.Completed →
      (documentChunks files doc).length ≤ call.chunksCreated) ∧
    (∀ d, s.db.document? doc.documentId = some d → d.status = .completed →
      (documentChunks files doc).Subperm (s.storedChunks doc.documentId) ∧
      ((s.ingestsOf doc.documentId).length = 1 →
        (s.storedChunks doc.documentId).Perm (documentChunks files doc))) ∧
    ((s.storedTables doc.documentId).Perm ((s.extractsOf doc.documentId).flatMap
      (fun call => (documentTables files doc).take call.tablesCreated)) ∧
    ∀ call ∈ s.extractsOf doc.documentId, call.Completed →
      (documentTables files doc).length ≤ call.tablesCreated) ∧
    ∀ call ∈ s.extractsOf doc.documentId, call.Completed →
      (documentTables files doc).Subperm (s.storedTables doc.documentId) ∧
      ((s.extractsOf doc.documentId).length = 1 →
        (s.storedTables doc.documentId).Perm (documentTables files doc)) := by
  obtain ⟨hs,hchunkRun,htableRun⟩ := run_logs hrun (sound_start hdoc hstatus)
  have hchunkStart : chunkLog files doc (start db) = ⟨[],[]⟩ := by
    simp [chunkLog, SharedLog.ofProcesses, storedChunks, start, hchunks]
  have htableStart : tableLog files doc (start db) = ⟨[],[]⟩ := by
    simp [tableLog, SharedLog.ofProcesses, storedTables, start, htables]
  rw [hchunkStart] at hchunkRun
  rw [htableStart] at htableRun
  have hchunkLog := (SharedLog.accounted_start []).run hchunkRun
  have htableLog := (SharedLog.accounted_start []).run htableRun
  refine ⟨⟨hchunkLog.perm_written,?_⟩,?_,⟨htableLog.perm_written,?_⟩,?_⟩
  · intro call hcall hcompleted
    exact hs.finished_chunkWriter hcall hcompleted
  · intro d hd hcompleted
    obtain ⟨d',hd',-,hcall⟩ := hs.document
    obtain rfl := Option.some.inj (hd.symm.trans hd')
    obtain ⟨call,hcall,hreturned⟩ := hcall hcompleted
    exact hchunkLog.finished hcall (hs.finished_chunkWriter hcall hreturned)
  · intro call hcall hcompleted
    exact hs.finished_tableWriter hcall hcompleted
  · intro call hcall hcompleted
    exact htableLog.finished hcall (hs.finished_tableWriter hcall hcompleted)

/-- A document of one page, with one text and one table on it. -/
def onePageDoc : PDFDocument := ⟨"d1","2330","2026Q1","/uploads/d1.pdf",0,.uploaded,none⟩

def onePageDb : Database := { Database.empty with pdfDocuments := [onePageDoc] }

def onePageFiles : Files := fun path =>
  if path = "/uploads/d1.pdf" then
    some (.ok [⟨.ok (some "營業收入 120 億元\n"),
      .ok [[[some "項目",some "金額"],[some "營收",some "120"]]]⟩])
  else none

/-- One request of each kind, each worked off from beginning to end. -/
def onePageRequests (i : Nat) (uuids : String × String) : List Event :=
  [.ingest "d1",.ingestStep i "" 0,.ingestStep i "" 0,.ingestStep i "" 0,
    .ingestStep i uuids.1 0,.ingestStep i "" 0,
    .extract "d1",.extractStep i "",.extractStep i uuids.2,.extractStep i ""]

/-- With one request of each kind every chunk is stored once. -/
theorem stored_of_run_onePage :
    ∃ s, run onePageFiles (start onePageDb) (onePageRequests 0 ("c1","t1")) = some s ∧
      (s.storedChunks "d1").Perm (documentChunks onePageFiles onePageDoc) := by
  have hend : (run onePageFiles (start onePageDb) (onePageRequests 0 ("c1","t1"))).map
      (fun s => ((s.db.document? "d1").map (·.status),(s.ingestsOf "d1").length)) =
      some (some .completed,1) := by
    decide +kernel
  obtain ⟨s,hrun,hs⟩ := Option.map_eq_some_iff.mp hend
  obtain ⟨hstatus,hone⟩ := Prod.mk.inj hs
  obtain ⟨d,hd,hcompleted⟩ := Option.map_eq_some_iff.mp hstatus
  have hdoc : onePageDb.document? onePageDoc.documentId = some onePageDoc := by decide
  have hstored := stored_of_run hdoc (by decide) rfl rfl hrun
  exact ⟨s,hrun,(hstored.2.1 d hd hcompleted).2 hone⟩

/-- When both requests are made again, every chunk and every table is stored a second time. -/
theorem run_again_duplicates :
    ∃ s, run onePageFiles (start onePageDb)
        (onePageRequests 0 ("c1","t1") ++ onePageRequests 1 ("c2","t2")) = some s ∧
      (s.db.document? "d1").map (·.status) = some .completed ∧
      ¬ (s.storedChunks "d1").Perm (documentChunks onePageFiles onePageDoc) ∧
      ¬ (s.storedTables "d1").Perm (documentTables onePageFiles onePageDoc) := by
  have hend : (run onePageFiles (start onePageDb)
      (onePageRequests 0 ("c1","t1") ++ onePageRequests 1 ("c2","t2"))).map
      (fun s => ((s.db.document? "d1").map (·.status),(s.storedChunks "d1").length,
        (s.storedTables "d1").length)) = some (some .completed,2,2) := by
    decide +kernel
  obtain ⟨s,hrun,hs⟩ := Option.map_eq_some_iff.mp hend
  obtain ⟨hstatus,hlengths⟩ := Prod.mk.inj hs
  obtain ⟨hchunks,htables⟩ := Prod.mk.inj hlengths
  have hchunkCount : (documentChunks onePageFiles onePageDoc).length = 1 := by decide +kernel
  have htableCount : (documentTables onePageFiles onePageDoc).length = 1 := by decide +kernel
  refine ⟨s,hrun,hstatus,?_,?_⟩
  · intro hperm
    have hlength := hperm.length_eq
    omega
  · intro hperm
    have hlength := hperm.length_eq
    omega

end Server

end FinancialPdfReader
