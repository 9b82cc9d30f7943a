import FinancialPdfReader.Apis.StoredContent
import FinancialPdfReader.Concurrency.Traces

namespace FinancialPdfReader

open Py

/-- What happens to a call that nothing else runs beside: it goes on, or it fails. -/
inductive IngestEvent where
  | next (uuid : String) (now : Nat)
  | fail (message : String)

def ingestEvent (files : Files) (s : Database × IngestCall) : IngestEvent →
    Option (Database × IngestCall)
  | .next uuid now => ingestStep files uuid now s.1 s.2
  | .fail message => ingestFail message s.1 s.2

/-- What the call has raised, if it has. -/
def IngestCall.error? (call : IngestCall) : Option PyError :=
  match call.stage with
  | .raised error => some error
  | _ => none

/-- A call to `ingest_pdf` and the database, compared with the database before the call. -/
structure OneIngest (files : Files) (doc : PDFDocument) (before : Database)
    (s : Database × IngestCall) : Prop where
  documentId : s.2.documentId = doc.documentId
  document : ∃ d, s.1.document? doc.documentId = some d ∧ SameReport d doc
  sound : s.2.Sound files doc
  appended : ∃ saved, s.1.pdfChunks = before.pdfChunks ++ saved ∧
    saved.map PDFChunk.content = (documentChunks files doc).take s.2.chunksCreated
  created : s.2.chunksCreated ≤ (documentChunks files doc).length
  failed : ∀ error ∈ s.2.error?,
    (∃ message, error = .runtimeError ("Ingestion failed: " ++ message)) ∧
      (s.1.document? doc.documentId).map (·.status) = some .failed

variable {files : Files} {doc : PDFDocument} {before : Database} {s t : Database × IngestCall}

theorem ingestEvent_move {e : IngestEvent} (h : ingestEvent files s e = some t) :
    IngestMove files s.1 s.2 t.1 t.2 := by
  cases e with
  | next uuid now => exact ingestStep_move h
  | fail message => exact ingestFail_move h

/-- What a call can raise: there is no such document, there is no such file, or the ingestion
fails and marks the document. -/
theorem ingestEvent_error {e : IngestEvent} (h : ingestEvent files s e = some t)
    {error : PyError} (herror : t.2.error? = some error) :
    (s.2.stage = .called ∧ s.1.document? s.2.documentId = none) ∨
    (∃ d, s.2.stage = .loaded d ∧ files d.filePath = none) ∨
    (∃ message, error = .runtimeError ("Ingestion failed: " ++ message)) ∧
      ∃ f, t.1 = s.1.saveDocument s.2.documentId f ∧
        ∀ d, (f d).documentId = d.documentId ∧ (f d).status = .failed := by
  cases e with
  | fail message =>
    refine Or.inr (Or.inr ?_)
    rw [ingestEvent, ingestFail] at h
    split at h
    · rw [← Option.some.inj h] at herror ⊢
      exact ⟨⟨message,(Option.some.inj herror).symm⟩,_,rfl,fun d => ⟨rfl,rfl⟩⟩
    · rw [← Option.some.inj h] at herror ⊢
      exact ⟨⟨message,(Option.some.inj herror).symm⟩,_,rfl,fun d => ⟨rfl,rfl⟩⟩
    · exact absurd h.symm (Option.some_ne_none _)
  | next uuid now =>
    have hstep : ingestStep files uuid now s.1 s.2 = some t := h
    rw [ingestStep] at hstep
    split at hstep
    · rename_i hstage
      split at hstep
      · rename_i hdoc
        exact Or.inl ⟨hstage,hdoc⟩
      · rw [← Option.some.inj hstep] at herror
        exact absurd herror.symm (Option.some_ne_none _)
    · rename_i d hstage
      split at hstep
      · rename_i hfile
        exact Or.inr (Or.inl ⟨d,hstage,hfile⟩)
      · rw [← Option.some.inj hstep] at herror
        exact absurd herror.symm (Option.some_ne_none _)
    · split at hstep
      · rename_i message hpages
        rw [← Option.some.inj hstep] at herror ⊢
        exact Or.inr (Or.inr ⟨⟨message,(Option.some.inj herror).symm⟩,_,rfl,
          fun d => ⟨rfl,rfl⟩⟩)
      · rw [← Option.some.inj hstep] at herror
        exact absurd herror.symm (Option.some_ne_none _)
    · rename_i hstage
      split at hstep
      · split at hstep
        · exact absurd hstep.symm (Option.some_ne_none _)
        · rw [← Option.some.inj hstep] at herror
          simp [IngestCall.error?, hstage] at herror
      · rw [← Option.some.inj hstep] at herror
        exact absurd herror.symm (Option.some_ne_none _)
    · exact absurd hstep.symm (Option.some_ne_none _)
    · exact absurd hstep.symm (Option.some_ne_none _)

namespace OneIngest

variable {file : PdfFile}

theorem start (hdoc : before.document? doc.documentId = some doc) :
    OneIngest files doc before (before,⟨doc.documentId,0,.called⟩) where
  documentId := rfl
  document := ⟨doc,hdoc,SameReport.refl doc⟩
  sound := trivial
  appended := ⟨[],by simp,by simp⟩
  created := Nat.zero_le _
  failed := fun error herror => absurd herror.symm (Option.some_ne_none _)

/-- A document that exists and whose file exists fails only by a failure of the ingestion. -/
theorem failed_next (hfile : files doc.filePath = some file) (hs : OneIngest files doc before s)
    {e : IngestEvent} (h : ingestEvent files s e = some t) :
    ∀ error ∈ t.2.error?,
      (∃ message, error = .runtimeError ("Ingestion failed: " ++ message)) ∧
        (t.1.document? doc.documentId).map (·.status) = some .failed := by
  intro error herror
  obtain ⟨d,hd,hsame⟩ := hs.document
  rcases ingestEvent_error h herror with ⟨-,hnone⟩ | ⟨loaded,hstage,hnone⟩ | ⟨hmessage,f,hdb,hf⟩
  · rw [hs.documentId, hd] at hnone
    exact absurd hnone (Option.some_ne_none _)
  · have hsound := hs.sound
    rw [IngestCall.Sound, hstage] at hsound
    rw [hsound.2.2, hfile] at hnone
    exact absurd hnone (Option.some_ne_none _)
  · refine ⟨hmessage,?_⟩
    have hid : d.documentId = doc.documentId := (Database.document?_eq_some hd).2
    rw [hdb, hs.documentId, Database.document?_saveDocument (fun d => (hf d).1), hd,
      Option.map_some, Option.map_some, if_pos hid, (hf d).2]

theorem next (hfile : files doc.filePath = some file) (hs : OneIngest files doc before s)
    {e : IngestEvent} (h : ingestEvent files s e = some t) : OneIngest files doc before t := by
  have hmove := ingestEvent_move h
  obtain ⟨d,hd,hsame⟩ := hs.document
  obtain ⟨d',hd',hsame',-⟩ := hmove.document hd
  obtain ⟨saved,hsaved,hcontent⟩ := hs.appended
  have hcreated := hs.created
  have hfailed := hs.failed_next hfile h
  have hnew : ∃ saved, t.1.pdfChunks = before.pdfChunks ++ saved ∧
      saved.map PDFChunk.content = (documentChunks files doc).take t.2.chunksCreated ∧
      t.2.chunksCreated ≤ (documentChunks files doc).length := by
    rcases hmove.appended hs.documentId hs.sound with
      ⟨hsame,hcount⟩ | ⟨chunk,hchunk,-,hnext,hcount⟩
    · rw [hsame, hcount]
      exact ⟨saved,hsaved,hcontent,hcreated⟩
    · obtain ⟨hlt,-⟩ := List.getElem?_eq_some_iff.mp hnext
      refine ⟨saved ++ [chunk],?_,?_,?_⟩
      · rw [hchunk, hsaved, List.append_assoc]
      · rw [List.map_append, hcontent, hcount, List.take_add_one, hnext]
        rfl
      · rw [hcount]
        exact hlt
  obtain ⟨saved',hsaved',hcontent',hcreated'⟩ := hnew
  exact ⟨hmove.documentId.trans hs.documentId,⟨d',hd',hsame'.trans hsame⟩,
    hmove.sound hs.documentId hd hsame hs.sound,⟨saved',hsaved',hcontent'⟩,hcreated',hfailed⟩

/-- The step and then the run. -/
theorem run {es : List IngestEvent} (hfile : files doc.filePath = some file)
    (hs : OneIngest files doc before s) (hrun : Traces.run (ingestEvent files) s es = some t) :
    OneIngest files doc before t :=
  Traces.run_invariant (fun _ _ _ hstep hs => hs.next hfile hstep) hrun hs

/-- What is stored of the document: the chunks from before the call, and behind them as many of
the document's chunks as the call has saved. -/
theorem chunksOf (hs : OneIngest files doc before s) :
    ∃ saved, s.1.chunksOf doc.documentId = before.chunksOf doc.documentId ++ saved ∧
      saved.map PDFChunk.content = (documentChunks files doc).take s.2.chunksCreated ∧
      saved.length = s.2.chunksCreated := by
  obtain ⟨saved,hsaved,hcontent⟩ := hs.appended
  refine ⟨saved,?_,hcontent,?_⟩
  · have hown : saved.filter (fun c => c.documentId = doc.documentId) = saved := by
      rw [List.filter_eq_self]
      intro c hc
      have hmem : c.content ∈ (documentChunks files doc).take s.2.chunksCreated :=
        hcontent ▸ List.mem_map_of_mem hc
      obtain ⟨chunkData,-,hchunk⟩ := List.mem_map.mp (List.mem_of_mem_take hmem)
      have hid : c.content.documentId = doc.documentId := by rw [← hchunk]; rfl
      exact decide_eq_true hid
    rw [Database.chunksOf, hsaved, List.filter_append, hown, Database.chunksOf]
  · have hlength := congrArg List.length hcontent
    rw [List.length_map, List.length_take] at hlength
    have hcreated := hs.created
    omega

end OneIngest

/-- However a call fails once its document and file are found, it raises the error of a failed
ingestion and marks the document; the chunks that it had saved stay stored behind those from
before the call, so that nothing is left of it only if it had saved none. -/
theorem failedIngest_chunks {es : List IngestEvent} {file : PdfFile} {error : PyError}
    (hdoc : before.document? doc.documentId = some doc)
    (hfile : files doc.filePath = some file)
    (hrun : Traces.run (ingestEvent files) (before,⟨doc.documentId,0,.called⟩) es = some t)
    (herror : t.2.error? = some error) :
    (∃ message, error = .runtimeError ("Ingestion failed: " ++ message)) ∧
    (t.1.document? doc.documentId).map (·.status) = some .failed ∧
    (∃ saved, t.1.chunksOf doc.documentId = before.chunksOf doc.documentId ++ saved ∧
      saved.map PDFChunk.content = (documentChunks files doc).take t.2.chunksCreated) ∧
    (t.1.chunksOf doc.documentId = before.chunksOf doc.documentId ↔ t.2.chunksCreated = 0) := by
  have hs := (OneIngest.start hdoc).run hfile hrun
  obtain ⟨hmessage,hstatus⟩ := hs.failed error herror
  obtain ⟨saved,hsaved,hcontent,hlength⟩ := hs.chunksOf
  refine ⟨hmessage,hstatus,⟨saved,hsaved,hcontent⟩,?_⟩
  rw [hsaved, List.append_right_eq_self, ← hlength, List.length_eq_zero_iff]

/-- The ingestion of a document of one page fails after its chunk is saved. -/
def failsAtTheEnd : List IngestEvent :=
  [.next "" 0,.next "" 0,.next "" 0,.next "c1" 0,.fail "connection lost"]

theorem failedIngest_chunks_onePage :
    ∃ t, Traces.run (ingestEvent Server.onePageFiles) (Server.onePageDb,⟨"d1",0,.called⟩)
        failsAtTheEnd = some t ∧
      (t.1.document? "d1").map (·.status) = some .failed ∧
      (t.1.chunksOf "d1" = Server.onePageDb.chunksOf "d1" ↔ t.2.chunksCreated = 0) := by
  have hend : (Traces.run (ingestEvent Server.onePageFiles)
      (Server.onePageDb,⟨"d1",0,.called⟩) failsAtTheEnd).map (fun t => t.2.error?) =
        some (some (.runtimeError "Ingestion failed: connection lost")) := by decide +kernel
  obtain ⟨t,hrun,herror⟩ := Option.map_eq_some_iff.mp hend
  have hdoc : Server.onePageDb.document? Server.onePageDoc.documentId =
      some Server.onePageDoc := by decide
  obtain ⟨file,hfile⟩ : ∃ file, Server.onePageFiles Server.onePageDoc.filePath = some file :=
    ⟨_,if_pos rfl⟩
  have hfailed := failedIngest_chunks hdoc hfile hrun herror
  exact ⟨t,hrun,hfailed.2.1,hfailed.2.2.2⟩

theorem failedIngest_leaves_chunk :
    ∃ t, Traces.run (ingestEvent Server.onePageFiles) (Server.onePageDb,⟨"d1",0,.called⟩)
        failsAtTheEnd = some t ∧
      t.2.error? = some (.runtimeError "Ingestion failed: connection lost") ∧
      t.1.chunksOf "d1" ≠ Server.onePageDb.chunksOf "d1" := by
  have hend : (Traces.run (ingestEvent Server.onePageFiles)
      (Server.onePageDb,⟨"d1",0,.called⟩) failsAtTheEnd).map
        (fun t => (t.2.error?,decide (t.1.chunksOf "d1" = Server.onePageDb.chunksOf "d1"))) =
        some (some (.runtimeError "Ingestion failed: connection lost"),false) := by
    decide +kernel
  obtain ⟨t,hrun,ht⟩ := Option.map_eq_some_iff.mp hend
  obtain ⟨herror,hchunks⟩ := Prod.mk.inj ht
  exact ⟨t,hrun,herror,of_decide_eq_false hchunks⟩

end FinancialPdfReader
