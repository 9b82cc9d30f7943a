import FinancialPdfReader.Apis.Tables
import Mathlib.Data.Fintype.EquivFin

namespace FinancialPdfReader

open Py Pool

variable {files : Files} {x : Store}

theorem exists_fresh (ids : List String) : ∃ uuid, uuid ∉ ids := by
  obtain ⟨uuid,hfresh⟩ := Infinite.exists_notMem_finset ids.toFinset
  exact ⟨uuid,fun h => hfresh (List.mem_toFinset.mpr h)⟩

/-- What the call has raised, if it has. -/
def Call.error? : Call → Option PyError
  | .ingest ⟨_,_,.raised error⟩ => some error
  | .extractTables ⟨_,_,.raised error⟩ => some error
  | .classify ⟨_,_,.raised error⟩ => some error
  | .overrideSection ⟨_,_,.raised error⟩ => some error
  | .job _ (.done (.error error)) => some error
  | _ => none

/-- A call that has raised does nothing more. -/
theorem advance_raised {call : Call} (h : call.error? ≠ none) (e : Tick) :
    advance files e x call = none := by
  unfold Call.error? at h
  split at h
  · cases e <;> rfl
  · cases e <;> rfl
  · cases e <;> rfl
  · cases e <;> rfl
  · cases e <;> rfl
  · contradiction

theorem error?_ingest {call : IngestCall} :
    (Call.ingest call).error? = none ↔ ∀ error, call.stage ≠ .raised error := by
  obtain ⟨documentId,chunksCreated,stage⟩ := call
  cases stage <;> simp [Call.error?]

theorem error?_extractTables {call : ExtractCall} :
    (Call.extractTables call).error? = none ↔ ∀ error, call.stage ≠ .raised error := by
  obtain ⟨documentId,tablesCreated,stage⟩ := call
  cases stage <;> simp [Call.error?]

section Ingest

/-- A call to ingest a document that has not failed. -/
structure IngestCall.Going (files : Files) (doc : PDFDocument) (x : Store) (call : IngestCall) :
    Prop where
  consistent : Consistent files x
  onRecord : call.OnRecord files x
  document : .document doc ∈ x.rows
  documentId : doc.documentId = call.documentId
  going : ∀ error, call.stage ≠ .raised error
  completed : call.Completed → ∃ d, x.db.document? doc.documentId = some d ∧ d.status = .completed

/-- What is still to be done of `chunks` chunks. -/
def IngestCall.rank (chunks : Nat) (call : IngestCall) : Nat :=
  match call.stage with
  | .called => chunks + 4
  | .loaded _ => chunks + 3
  | .ingesting _ _ => chunks + 2
  | .saving _ _ => chunks - call.chunksCreated + 1
  | .returned _ => 0
  | .raised _ => 0

variable {doc : PDFDocument} {call call' : IngestCall} {db : Database}

theorem IngestCall.Going.sound (h : call.Going files doc x) (hcalled : call.stage ≠ .called) :
    call.Sound files doc := by
  rcases h.onRecord with ⟨other,hother,hid,hsound,-⟩ | ⟨hstage,-⟩ | ⟨error,hraised⟩
  · have hkey : (Row.document other).key = (Row.document doc).key :=
      congrArg (Prod.mk _) (hid.trans h.documentId.symm)
    obtain rfl := Row.document.inj (h.consistent.keyed hother h.document hkey)
    exact hsound
  · exact absurd hstage hcalled
  · exact absurd hraised (h.going error)

theorem IngestCall.Going.move (h : call.Going files doc x)
    (hmove : IngestMove files x.db call db call') (hgoing : ∀ error, call'.stage ≠ .raised error) :
    call'.Going files doc { x with db } := by
  obtain ⟨hy,hgrows⟩ := hmove.consistent h.consistent h.onRecord
  refine ⟨hy,hmove.onRecord h.consistent hgrows h.onRecord,hgrows.mem h.document,
    h.documentId.trans hmove.documentId.symm,hgoing,?_⟩
  rintro ⟨n,hreturned⟩
  cases hmove with
  | complete loaded found now hstage hend =>
    obtain ⟨d,hd,-⟩ := h.consistent.document? h.document
    rw [h.documentId]
    rw [h.documentId] at hd
    refine ⟨{ d with
      status := .completed
      totalPages := found.length
      ingestedAt := some now },?_,rfl⟩
    rw [Database.document?_saveDocument, hd, Option.map_some,
      if_pos (Database.document?_eq_some hd).2]
    exact fun _ => rfl
  | save loaded found chunkData uuid hstage => cases hstage.symm.trans hreturned
  | noDocument | load | noFile | begin | extract | fail => cases hreturned

/-- What a call is saving are the pages of the file. -/
theorem IngestCall.Going.pages {file : PdfFile} {pages found : List PageData} {loaded : PDFDocument}
    (hfile : files doc.filePath = some file) (hpages : extractPages file = .ok pages)
    (h : call.Going files doc x) (hstage : call.stage = .saving loaded found) : found = pages := by
  have hsound := h.sound (by simp [hstage])
  rw [IngestCall.Sound, hstage] at hsound
  rw [hsound.2, documentPages, hfile]
  simp only [hpages]
  rfl

theorem IngestCall.Going.rank_lt {file : PdfFile} {pages : List PageData}
    (hfile : files doc.filePath = some file) (hpages : extractPages file = .ok pages)
    (h : call.Going files doc x) (hmove : IngestMove files x.db call db call')
    (hgoing : ∀ error, call'.stage ≠ .raised error) :
    call'.rank (pageChunks pages).length < call.rank (pageChunks pages).length := by
  cases hmove with
  | noDocument error | noFile loaded error | fail error => exact absurd rfl (hgoing error)
  | load loaded hstage | begin loaded file hstage =>
    simp [IngestCall.rank, hstage]
  | extract loaded file found hstage =>
    simp only [IngestCall.rank, hstage]
    omega
  | save loaded found chunkData uuid hstage hnext =>
    obtain rfl := h.pages hfile hpages hstage
    obtain ⟨hlt,-⟩ := List.getElem?_eq_some_iff.mp hnext
    simp only [IngestCall.rank, hstage]
    omega
  | complete loaded found now hstage =>
    simp only [IngestCall.rank, hstage]
    omega

/-- Where its file can be read, a call can go on until it has returned. -/
theorem IngestCall.Going.next {file : PdfFile} {pages : List PageData}
    (hfile : files doc.filePath = some file) (hpages : extractPages file = .ok pages)
    (h : call.Going files doc x) : call.Completed ∨
      ∃ uuid now db call', ingestStep files uuid now x.db call = some (db,call') ∧
        ∀ error, call'.stage ≠ .raised error := by
  obtain ⟨d,hd,-⟩ := h.consistent.document? h.document
  rw [h.documentId] at hd
  cases hstage : call.stage with
  | called =>
    have hstep : ingestStep files "" 0 x.db call =
        some (x.db,{ call with stage := .loaded d }) := by
      simp only [ingestStep, hstage, hd]
    exact .inr ⟨"",0,_,_,hstep,by simp⟩
  | loaded loaded =>
    have hsound := h.sound (by simp [hstage])
    rw [IngestCall.Sound, hstage] at hsound
    have hfile' : files loaded.filePath = some file := by rw [hsound.2.2, hfile]
    have hstep : ingestStep files "" 0 x.db call =
        some (saveStatus x.db loaded call.documentId .ingesting,
          { call with stage := .ingesting loaded file }) := by
      simp only [ingestStep, hstage, hfile']
    exact .inr ⟨"",0,_,_,hstep,by simp⟩
  | ingesting loaded opened =>
    have hsound := h.sound (by simp [hstage])
    rw [IngestCall.Sound, hstage] at hsound
    obtain rfl : file = opened := Option.some.inj (hfile.symm.trans hsound.2)
    have hstep : ingestStep files "" 0 x.db call =
        some (x.db,{ call with stage := .saving loaded pages }) := by
      simp only [ingestStep, hstage, hpages]
    exact .inr ⟨"",0,_,_,hstep,by simp⟩
  | saving loaded found =>
    cases hnext : (pageChunks found)[call.chunksCreated]? with
    | none =>
      have hstep : ingestStep files "" 0 x.db call = some (x.db.saveDocument call.documentId
          (fun d => { d with
            status := .completed
            totalPages := found.length
            ingestedAt := some 0 }),{ call with stage := .returned found.length }) := by
        simp only [ingestStep, hstage, hnext]
      exact .inr ⟨"",0,_,_,hstep,by simp⟩
    | some chunkData =>
      obtain ⟨uuid,hfresh⟩ := exists_fresh (x.db.pdfChunks.map (·.chunkId))
      have hsave : ∃ saved, x.db.saveChunk (newChunk uuid call.documentId loaded chunkData) =
          .ok saved := by
        refine ⟨_,map_eq_ok.mpr ⟨_,Database.saveNew_eq_ok.mpr ⟨fun c hc hid => ?_,rfl⟩,rfl⟩⟩
        exact hfresh (List.mem_map.mpr ⟨c,hc,hid⟩)
      obtain ⟨saved,hsave⟩ := hsave
      have hstep : ingestStep files uuid 0 x.db call =
          some (saved,{ call with chunksCreated := call.chunksCreated + 1 }) := by
        simp only [ingestStep, hstage, hnext, hsave]
      exact .inr ⟨uuid,0,_,_,hstep,by simp [hstage]⟩
  | returned n => exact .inl ⟨n,hstage⟩
  | raised error => exact absurd hstage (h.going error)

/-- What a call that has returned leaves behind. -/
theorem IngestCall.Going.whole (h : call.Going files doc x) (hdone : call.Completed) :
    ∃ d, x.db.document? doc.documentId = some d ∧ d.status = .completed ∧
      Whole files x.rows d := by
  obtain ⟨d,hd,hstatus⟩ := h.completed hdone
  exact ⟨d,hd,hstatus,h.consistent.completed d (Database.document?_eq_some hd).1 hstatus⟩

/-- The ingestion of a document, with the steps that its file asks for. -/
theorem ingest_nears {file : PdfFile} {pages : List PageData}
    (hfile : files doc.filePath = some file) (hpages : extractPages file = .ok pages) :
    Nears (backend files) (fun x c => ∃ call, c = .ingest call ∧ call.Going files doc x)
      (fun c => ∃ call, c = .ingest call ∧ call.Completed) (·.error? ≠ none)
      (fun c => match c with
        | .ingest call => call.rank (pageChunks pages).length
        | _ => 0) where
  sound := by
    rintro x c ⟨call,rfl,hcall⟩ hfailed
    exact hfailed (error?_ingest.mpr hcall.going)
  next := by
    rintro x c ⟨call,rfl,hcall⟩
    rcases hcall.next hfile hpages with hdone | ⟨uuid,now,db,call',hstep,hgoing⟩
    · exact .inl ⟨call,rfl,hdone⟩
    · refine .inr ⟨.go uuid now (.ok ""),_,_,onDb_eq_some.mpr ⟨db,call',hstep,rfl,rfl⟩,?_⟩
      exact not_not.mpr (error?_ingest.mpr hgoing)
  nearer := by
    rintro e x c y d hadvance ⟨call,rfl,hcall⟩ hfailed
    cases advance_move hadvance with
    | ingest hmove =>
      have hgoing := error?_ingest.mp (not_not.mp hfailed)
      exact ⟨⟨_,rfl,hcall.move hmove hgoing⟩,hcall.rank_lt hfile hpages hmove hgoing⟩
  stuck := fun e _ _ hfailed => advance_raised hfailed e

end Ingest

section Extract

structure ExtractCall.Going (files : Files) (doc : PDFDocument) (x : Store) (call : ExtractCall) :
    Prop where
  consistent : Consistent files x
  onRecord : call.OnRecord files x
  document : .document doc ∈ x.rows
  documentId : doc.documentId = call.documentId
  going : ∀ error, call.stage ≠ .raised error

def ExtractCall.rank (tables : Nat) (call : ExtractCall) : Nat :=
  match call.stage with
  | .called => tables + 2
  | .saving _ _ => tables - call.tablesCreated + 1
  | .returned _ => 0
  | .raised _ => 0

variable {doc : PDFDocument} {call call' : ExtractCall} {db : Database}

theorem ExtractCall.Going.move (h : call.Going files doc x)
    (hmove : ExtractMove files x.db call db call')
    (hgoing : ∀ error, call'.stage ≠ .raised error) : call'.Going files doc { x with db } := by
  obtain ⟨hy,hgrows⟩ := hmove.consistent h.consistent h.onRecord
  exact ⟨hy,hmove.onRecord h.consistent hgrows h.onRecord,hgrows.mem h.document,
    h.documentId.trans hmove.documentId.symm,hgoing⟩

theorem ExtractCall.Going.sound (h : call.Going files doc x) (hcalled : call.stage ≠ .called) :
    call.Sound files doc := by
  rcases h.onRecord with ⟨other,hother,hid,hsound,-⟩ | ⟨hstage,-⟩ | ⟨error,hraised⟩
  · have hkey : (Row.document other).key = (Row.document doc).key :=
      congrArg (Prod.mk _) (hid.trans h.documentId.symm)
    obtain rfl := Row.document.inj (h.consistent.keyed hother h.document hkey)
    exact hsound
  · exact absurd hstage hcalled
  · exact absurd hraised (h.going error)

/-- What a call is saving are the tables of the file. -/
theorem ExtractCall.Going.pages {pages found : List PdfPage} {loaded : PDFDocument}
    (hfile : files doc.filePath = some (.ok pages)) (h : call.Going files doc x)
    (hstage : call.stage = .saving loaded found) : found = pages := by
  have hsound := h.sound (by simp [hstage])
  rw [ExtractCall.Sound, hstage] at hsound
  exact Except.ok.inj (Option.some.inj (hsound.2.symm.trans hfile))

theorem ExtractCall.Going.rank_lt {pages : List PdfPage}
    (hfile : files doc.filePath = some (.ok pages)) (h : call.Going files doc x)
    (hmove : ExtractMove files x.db call db call')
    (hgoing : ∀ error, call'.stage ≠ .raised error) :
    call'.rank (pageTables pages).length < call.rank (pageTables pages).length := by
  cases hmove with
  | load loaded found hstage =>
    simp only [ExtractCall.rank, hstage]
    omega
  | save loaded found tableData uuid hstage hnext =>
    obtain rfl := h.pages hfile hstage
    obtain ⟨hlt,-⟩ := List.getElem?_eq_some_iff.mp hnext
    simp only [ExtractCall.rank, hstage]
    omega
  | complete loaded found hstage =>
    simp only [ExtractCall.rank, hstage]
    omega
  | fail error => exact absurd rfl (hgoing error)

theorem ExtractCall.Going.next {pages : List PdfPage}
    (hfile : files doc.filePath = some (.ok pages)) (h : call.Going files doc x) :
    call.Completed ∨ ∃ uuid db call', extractStep files uuid x.db call = some (db,call') ∧
      ∀ error, call'.stage ≠ .raised error := by
  obtain ⟨d,hd,rfl⟩ := h.consistent.document? h.document
  rw [h.documentId] at hd
  cases hstage : call.stage with
  | called =>
    have hfile' : files d.filePath = some (.ok pages) := hfile
    have hstep : extractStep files "" x.db call =
        some (x.db,{ call with stage := .saving d pages }) := by
      simp only [extractStep, hstage, hd, hfile']
    exact .inr ⟨"",_,_,hstep,by simp⟩
  | saving loaded found =>
    cases hnext : (pageTables found)[call.tablesCreated]? with
    | none =>
      have hstep : extractStep files "" x.db call = some (x.db,{ call with
          stage := .returned ⟨call.tablesCreated,tablesFailed found,pagesWithTables found⟩ }) := by
        simp only [extractStep, hstage, hnext]
      exact .inr ⟨"",_,_,hstep,by simp⟩
    | some tableData =>
      obtain ⟨uuid,hfresh⟩ := exists_fresh (x.db.pdfTables.map (·.tableId))
      have hsave : ∃ saved, x.db.saveTable (newTable uuid call.documentId loaded tableData) =
          .ok saved := by
        refine ⟨_,map_eq_ok.mpr ⟨_,Database.saveNew_eq_ok.mpr ⟨fun t ht hid => ?_,rfl⟩,rfl⟩⟩
        exact hfresh (List.mem_map.mpr ⟨t,ht,hid⟩)
      obtain ⟨saved,hsave⟩ := hsave
      have hstep : extractStep files uuid x.db call =
          some (saved,{ call with tablesCreated := call.tablesCreated + 1 }) := by
        simp only [extractStep, hstage, hnext, hsave]
      exact .inr ⟨uuid,_,_,hstep,by simp [hstage]⟩
  | returned summary => exact .inl ⟨summary,hstage⟩
  | raised error => exact absurd hstage (h.going error)

theorem extract_nears {pages : List PdfPage} (hfile : files doc.filePath = some (.ok pages)) :
    Nears (backend files) (fun x c => ∃ call, c = .extractTables call ∧ call.Going files doc x)
      (fun c => ∃ call, c = .extractTables call ∧ call.Completed) (·.error? ≠ none)
      (fun c => match c with
        | .extractTables call => call.rank (pageTables pages).length
        | _ => 0) where
  sound := by
    rintro x c ⟨call,rfl,hcall⟩ hfailed
    exact hfailed (error?_extractTables.mpr hcall.going)
  next := by
    rintro x c ⟨call,rfl,hcall⟩
    rcases hcall.next hfile with hdone | ⟨uuid,db,call',hstep,hgoing⟩
    · exact .inl ⟨call,rfl,hdone⟩
    · refine .inr ⟨.go uuid 0 (.ok ""),_,_,onDb_eq_some.mpr ⟨db,call',hstep,rfl,rfl⟩,?_⟩
      exact not_not.mpr (error?_extractTables.mpr hgoing)
  nearer := by
    rintro e x c y d hadvance ⟨call,rfl,hcall⟩ hfailed
    cases advance_move hadvance with
    | extractTables hmove =>
      have hgoing := error?_extractTables.mp (not_not.mp hfailed)
      exact ⟨⟨_,rfl,hcall.move hmove hgoing⟩,hcall.rank_lt hfile hmove hgoing⟩
  stuck := fun e _ _ hfailed => advance_raised hfailed e

end Extract

section Runs

/-- However the call of a new request has gone on by steps of its own, as long as it has not
raised: some more of them, at most `n` in all, bring it and the store to what is described. -/
def EndsWithin (files : Files) (s : State Store Call) (request : Request) (n : Nat)
    (P : Call → Store → Prop) : Prop :=
  ∀ (ticks : List Tick) (t : State Store Call),
    run (backend files) s (.request request :: ticks.map (.advance s.calls.length)) = some t →
    (∀ call, t.calls[s.calls.length]? = some call → call.error? = none) →
      ∃ (more : List Tick) (u : State Store Call) (call : Call),
        run (backend files) t (more.map (.advance s.calls.length)) = some u ∧
        ticks.length + more.length ≤ n ∧ u.calls[s.calls.length]? = some call ∧ P call u.shared

variable {s : State Store Call} {documentId : String} {doc : PDFDocument} {file : List PdfPage}
  {pages : List PageData}

/-- Whatever has become of a document, and whatever else is going on: as long as nothing fails, one
more call to ingest it has at most so many steps to take until it is completed, and one to extract
its tables until it returns, once its file can be read. -/
theorem document_recovers (hs : Reachable files s)
    (hdoc : s.shared.db.document? documentId = some doc)
    (hfile : files doc.filePath = some (.ok file)) (hpages : extractPages (.ok file) = .ok pages) :
    EndsWithin files s (.ingest documentId) ((pageChunks pages).length + 4) (fun call x =>
      (∃ c, call = .ingest c ∧ c.Completed) ∧
        ∃ d, x.db.document? documentId = some d ∧ d.status = .completed ∧
          Whole files x.rows d) ∧
    EndsWithin files s (.extractTables documentId) ((pageTables file).length + 2) (fun call _ =>
      ∃ c, call = .extractTables c ∧ c.documentId = documentId ∧ c.Completed) := by
  obtain ⟨hrow,rfl⟩ := Store.document_of_document? hdoc
  have hfile' : files doc.registered.filePath = some (.ok file) := hfile
  constructor
  · intro ticks t hrun hkept
    have hgoing : IngestCall.Going files doc.registered s.shared ⟨doc.documentId,0,.called⟩ :=
      ⟨hs.holds.inv,.inr (.inl ⟨rfl,rfl⟩),hrow,rfl,by simp,by simp [IngestCall.Completed]⟩
    obtain ⟨more,u,b,hmore,hcalls,⟨call,rfl,hend⟩,⟨other,hsame,hdone⟩,hlength⟩ :=
      (ingest_nears hfile' hpages).request_finishes ⟨_,rfl,hgoing⟩ hrun
        (fun c hc => not_not.mpr (hkept c hc))
    obtain rfl := Call.ingest.inj hsame
    exact ⟨more,u,.ingest call,hmore,hlength,by simp [hcalls],⟨call,rfl,hdone⟩,hend.whole hdone⟩
  · intro ticks t hrun hkept
    have hgoing : ExtractCall.Going files doc.registered s.shared ⟨doc.documentId,0,.called⟩ :=
      ⟨hs.holds.inv,.inr (.inl ⟨rfl,rfl⟩),hrow,rfl,by simp⟩
    obtain ⟨more,u,b,hmore,hcalls,⟨call,rfl,hend⟩,⟨other,hsame,hdone⟩,hlength⟩ :=
      (extract_nears hfile').request_finishes ⟨_,rfl,hgoing⟩ hrun
        (fun c hc => not_not.mpr (hkept c hc))
    obtain rfl := Call.extractTables.inj hsame
    exact ⟨more,u,.extractTables call,hmore,hlength,by simp [hcalls],call,rfl,
      hend.documentId.symm,hdone⟩

/-- The second document is left failed, and can be ingested all the same, also where the new call
has begun. -/
theorem document_recovers_sample : ∃ (s t t' : State Store Call) (doc : PDFDocument)
    (first : Tick) (ticks : List Tick), SampleRun s t ∧
    t.shared.db.document? "d2" = some doc ∧ doc.status = .failed ∧
    run (backend quarterFiles) t
      (.request (.ingest "d2") :: (first :: ticks).map (.advance t.calls.length)) = some t' ∧
    ∃ d, t'.shared.db.document? "d2" = some d ∧ d.status = .completed := by
  obtain ⟨s,t,sample⟩ := sample_run
  obtain ⟨doc,hmem,hpath⟩ := List.mem_map.mp (sample.failed ▸ List.mem_singleton_self _)
  obtain ⟨hdoc,hfailed⟩ := List.mem_filter.mp hmem
  have hfile : quarterFiles doc.filePath = some (onePage "毛利率下降") := by
    rw [hpath]
    rfl
  have hloaded : t.shared.db.document? "d2" = some doc := Option.mem_toList.mp hdoc
  -- the new call has loaded the document when the theorem is put to use
  have hbegun : run (backend quarterFiles) t (.request (.ingest "d2") ::
      [Tick.go "" 0 (.ok "")].map (.advance t.calls.length)) =
        some ⟨t.shared,t.calls ++ [.ingest ⟨"d2",0,.loaded doc⟩]⟩ := by
    rw [run_request_alone]
    simp [Traces.run, backend, advance, Request.call, ingestStep, hloaded, onDb]
  have hreach := (sample.reachable.run sample.run).1
  obtain ⟨ticks,t',-,hrun,-,-,-,d,hd,hstatus,-⟩ :=
    (document_recovers hreach hloaded hfile rfl).1 _ _ hbegun (by simp [Call.error?])
  refine ⟨s,t,t',doc,.go "" 0 (.ok ""),ticks,sample,hloaded,of_decide_eq_true hfailed,?_,d,hd,
    hstatus⟩
  have hall : run (backend quarterFiles) t ((.request (.ingest "d2") ::
      [Tick.go "" 0 (.ok "")].map (.advance t.calls.length)) ++
        ticks.map (.advance t.calls.length)) = some t' :=
    (Traces.run_append t _ _).trans (Option.bind_eq_some_iff.mpr ⟨_,hbegun,hrun⟩)
  exact hall

end Runs

end FinancialPdfReader
