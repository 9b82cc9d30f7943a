import FinancialPdfReader.Apis.OneDocument

namespace FinancialPdfReader

open Py Pool

section Steps

variable {files : Files} {db db' : Database} {documentId : String}

theorem ingestStep_ofDocument {uuid : String} {now : Nat} {call call' : IngestCall}
    (h : ingestStep files uuid now db call = some (db',call'))
    (hid : call.documentId = documentId) :
    ingestStep files uuid now (db.ofDocument documentId) call =
      some (db'.ofDocument documentId,call') := by
  subst hid
  rw [ingestStep] at h ⊢
  cases hstage : call.stage with
  | called =>
    simp only [hstage, Database.ofDocument_document?] at h ⊢
    cases hdoc : db.document? call.documentId with
    | none =>
      simp only [hdoc] at h ⊢
      cases h
      rfl
    | some doc =>
      simp only [hdoc] at h ⊢
      cases h
      rfl
  | loaded doc =>
    simp only [hstage, ← Database.ofDocument_saveStatus] at h ⊢
    cases hfile : files doc.filePath with
    | none =>
      simp only [hfile] at h ⊢
      cases h
      rfl
    | some file =>
      simp only [hfile] at h ⊢
      cases h
      rfl
  | ingesting doc file =>
    simp only [hstage] at h ⊢
    cases hpages : extractPages file with
    | error message =>
      simp only [hpages] at h ⊢
      cases h
      rw [Database.ofDocument_saveDocument]
      exact fun _ => rfl
    | ok pages =>
      simp only [hpages] at h ⊢
      cases h
      rfl
  | saving doc pages =>
    simp only [hstage] at h ⊢
    cases hnext : (pageChunks pages)[call.chunksCreated]? with
    | none =>
      simp only [hnext] at h ⊢
      cases h
      rw [Database.ofDocument_saveDocument]
      exact fun _ => rfl
    | some chunkData =>
      simp only [hnext] at h ⊢
      cases hsave : db.saveChunk (newChunk uuid call.documentId doc chunkData) with
      | error e => simp [hsave] at h
      | ok saved =>
        simp only [hsave] at h
        cases h
        have hmine : (newChunk uuid call.documentId doc chunkData).documentId =
          call.documentId := rfl
        rw [Database.ofDocument_saveChunk hsave hmine]
  | returned n => simp [hstage] at h
  | raised e => simp [hstage] at h

theorem ingestFail_ofDocument {message : String} {call call' : IngestCall}
    (h : ingestFail message db call = some (db',call')) (hid : call.documentId = documentId) :
    ingestFail message (db.ofDocument documentId) call =
      some (db'.ofDocument documentId,call') := by
  subst hid
  rw [ingestFail] at h ⊢
  cases hstage : call.stage with
  | ingesting doc file =>
    simp only [hstage] at h ⊢
    cases h
    rw [Database.ofDocument_saveDocument]
    exact fun _ => rfl
  | saving doc pages =>
    simp only [hstage] at h ⊢
    cases h
    rw [Database.ofDocument_saveDocument]
    exact fun _ => rfl
  | called => simp [hstage] at h
  | loaded doc => simp [hstage] at h
  | returned n => simp [hstage] at h
  | raised e => simp [hstage] at h

theorem IngestMove.ofDocument_other {call call' : IngestCall}
    (h : IngestMove files db call db' call') (hid : call.documentId ≠ documentId) :
    db'.ofDocument documentId = db.ofDocument documentId := by
  cases h with
  | noDocument | load | extract => rfl
  | noFile d | begin d => exact Database.ofDocument_saveStatus_other d hid _
  | complete | fail =>
    refine Database.ofDocument_saveDocument_other ?_ hid
    exact fun _ => rfl
  | save doc pages chunkData uuid =>
    have hother : (newChunk uuid call.documentId doc chunkData).documentId ≠ documentId := hid
    simp only [Database.ofDocument, ownRows_append_other db.pdfChunks hother]

theorem extractStep_ofDocument {uuid : String} {call call' : ExtractCall}
    (h : extractStep files uuid db call = some (db',call'))
    (hid : call.documentId = documentId) :
    extractStep files uuid (db.ofDocument documentId) call =
      some (db'.ofDocument documentId,call') := by
  subst hid
  rw [extractStep] at h ⊢
  cases hstage : call.stage with
  | called =>
    simp only [hstage, Database.ofDocument_document?] at h ⊢
    cases hdoc : db.document? call.documentId with
    | none =>
      simp only [hdoc] at h ⊢
      cases h
      rfl
    | some doc =>
      simp only [hdoc] at h ⊢
      cases hfile : files doc.filePath with
      | none =>
        simp only [hfile] at h ⊢
        cases h
        rfl
      | some file =>
        cases file with
        | error message =>
          simp only [hfile] at h ⊢
          cases h
          rfl
        | ok pages =>
          simp only [hfile] at h ⊢
          cases h
          rfl
  | saving doc pages =>
    simp only [hstage] at h ⊢
    cases hnext : (pageTables pages)[call.tablesCreated]? with
    | none =>
      simp only [hnext] at h ⊢
      cases h
      rfl
    | some tableData =>
      simp only [hnext] at h ⊢
      cases hsave : db.saveTable (newTable uuid call.documentId doc tableData) with
      | error e => simp [hsave] at h
      | ok saved =>
        simp only [hsave] at h
        cases h
        have hmine : (newTable uuid call.documentId doc tableData).documentId =
          call.documentId := rfl
        rw [Database.ofDocument_saveTable hsave hmine]
  | returned summary => simp [hstage] at h
  | raised e => simp [hstage] at h

theorem extractFail_ofDocument {message : String} {call call' : ExtractCall}
    (h : extractFail message db call = some (db',call')) :
    extractFail message (db.ofDocument documentId) call =
      some (db'.ofDocument documentId,call') := by
  rw [extractFail] at h ⊢
  split at h
  · cases h
    rfl
  · contradiction

theorem ExtractMove.ofDocument_other {call call' : ExtractCall}
    (h : ExtractMove files db call db' call') (hid : call.documentId ≠ documentId) :
    db'.ofDocument documentId = db.ofDocument documentId := by
  cases h with
  | load | complete | fail => rfl
  | save doc pages tableData uuid =>
    have hother : (newTable uuid call.documentId doc tableData).documentId ≠ documentId := hid
    simp only [Database.ofDocument, ownRows_append_other db.pdfTables hother]

theorem classifyStep_ofDocument {reply : ModelText} {call call' : ClassifyCall}
    (h : classifyStep reply db call = some (db',call')) (hid : call.documentId = documentId) :
    classifyStep reply (db.ofDocument documentId) call =
      some (db'.ofDocument documentId,call') := by
  subst hid
  rw [classifyStep] at h ⊢
  cases hstage : call.stage with
  | called =>
    simp only [hstage, Database.ofDocument_chunksByPage] at h ⊢
    cases hchunks : db.chunksByPage call.documentId with
    | nil =>
      simp only [hchunks] at h ⊢
      cases h
      rfl
    | cons chunk chunks =>
      simp only [hchunks] at h ⊢
      cases h
      rfl
  | classifying todo found =>
    cases todo with
    | nil =>
      simp only [hstage] at h ⊢
      cases h
      rfl
    | cons chunk todo =>
      simp only [hstage] at h ⊢
      generalize classifyChunkWith chunk.text call.useLlmFallback reply = label at h ⊢
      cases h
      rw [Database.ofDocument_saveSection]
  | returned result => simp [hstage] at h
  | raised error => simp [hstage] at h

/-- The chunks of one name belong to one document. -/
def ChunkOf (db : Database) (chunkId documentId : String) : Prop :=
  ∀ c ∈ db.pdfChunks, c.chunkId = chunkId → c.documentId = documentId

instance (db : Database) (chunkId documentId : String) :
    Decidable (ChunkOf db chunkId documentId) :=
  inferInstanceAs (Decidable (∀ c ∈ db.pdfChunks, _))

theorem find?_ownRows {chunkId : String} (h : ChunkOf db chunkId documentId) :
    (db.ofDocument documentId).pdfChunks.find? (fun c => c.chunkId = chunkId) =
      db.pdfChunks.find? (fun c => c.chunkId = chunkId) := by
  change (ownRows _ documentId db.pdfChunks).find? _ = _
  rw [ownRows, List.find?_filter]
  refine List.find?_congr (fun c hc => ?_)
  by_cases hid : c.chunkId = chunkId
  · simp [hid, h c hc hid]
  · simp [hid]

theorem overrideStep_ofDocument {call call' : OverrideCall}
    (h : overrideStep db call = some (db',call')) (hown : ChunkOf db call.chunkId documentId) :
    overrideStep (db.ofDocument documentId) call =
      some (db'.ofDocument documentId,call') := by
  rw [overrideStep] at h ⊢
  cases hstage : call.stage with
  | called =>
    simp only [hstage, find?_ownRows hown] at h ⊢
    split at h
    · next hinvalid =>
      rw [if_pos hinvalid]
      cases h
      rfl
    · next hvalid =>
      rw [if_neg hvalid]
      cases hfound : db.pdfChunks.find? (fun c => c.chunkId = call.chunkId) with
      | none =>
        simp only [hfound] at h ⊢
        cases h
        rfl
      | some chunk =>
        simp only [hfound] at h ⊢
        cases h
        rfl
  | loaded chunk =>
    simp only [hstage] at h ⊢
    cases h
    rw [Database.ofDocument_saveSection]
  | returned oldSection => simp [hstage] at h
  | raised error => simp [hstage] at h

end Steps

section Calls

variable {files : Files} {x y : Store} {documentId : String} {call call' : Call}

/-- The calls about a document: its own, and those that correct a chunk of no other. -/
def Call.About (documentId : String) (x : Store) : Call → Prop
  | .ingest call => call.documentId = documentId
  | .extractTables call => call.documentId = documentId
  | .classify call => call.documentId = documentId
  | .overrideSection call => ChunkOf x.db call.chunkId documentId
  | .job request _ => request.documentId? = some documentId

instance (documentId : String) (x : Store) (call : Call) : Decidable (call.About documentId x) :=
  match call with
  | .ingest call => inferInstanceAs (Decidable (call.documentId = documentId))
  | .extractTables call => inferInstanceAs (Decidable (call.documentId = documentId))
  | .classify call => inferInstanceAs (Decidable (call.documentId = documentId))
  | .overrideSection call => inferInstanceAs (Decidable (ChunkOf x.db call.chunkId documentId))
  | .job request _ => inferInstanceAs (Decidable (request.documentId? = some documentId))

/-- What is left of a job keeps to the document that it is about. -/
def Call.Apart : Call → Prop
  | .job request rest => JobFor request.documentId? (rest : Job Answer)
  | _ => True

theorem JobFor.step {owner : Option String} {job rest : Job Answer} (h : JobFor owner job)
    (hstep : job.run.step x = some (y,rest)) :
    JobFor owner rest ∧
      (∀ documentId, owner = some documentId →
        job.run.step (x.ofDocument documentId) = some (y.ofDocument documentId,rest)) ∧
      ∀ documentId, owner ≠ some documentId →
        y.ofDocument documentId = x.ofDocument documentId := by
  refine ⟨⟨fun documentId howner => ⟨?_⟩,fun documentId howner => ⟨?_⟩⟩,
    fun documentId howner => ?_,fun documentId howner => ?_⟩
  · exact ((h.own documentId howner).run.step hstep).2
  · exact ((h.others documentId howner).run.step hstep).2
  · exact ((h.own documentId howner).run.step hstep).1
  · exact ((h.others documentId howner).run.step hstep).1

theorem jobFor_raised (owner : Option String) (error : PyError) :
    JobFor owner (Program.done (.error error) : Program Store (Except PyError Answer)) :=
  ⟨fun _ _ => ⟨trivial⟩,fun _ _ => ⟨trivial⟩⟩

theorem CallMove.apart (h : CallMove files x call y call') (hcall : call.Apart) :
    call'.Apart := by
  cases h with
  | job h => exact (JobFor.step hcall h).1
  | jobFail message h => exact jobFor_raised _ _
  | ingest | extractTables | classify | classifyFail | overrideSection | overrideFail => trivial

/-- A chunk keeps its name and its document. -/
theorem chunkOf_of_grows (h : Grows files x y) {chunkId : String}
    (hy : ChunkOf y.db chunkId documentId) : ChunkOf x.db chunkId documentId := by
  intro c hc hid
  have hrow : .chunk c.unlabelled ∈ x.rows := List.mem_map_of_mem hc
  obtain ⟨c',hc',hsame⟩ := List.mem_map.mp (h.mem hrow)
  have hid' : c'.chunkId = chunkId := (congrArg PDFChunk.chunkId hsame).trans hid
  exact (congrArg PDFChunk.documentId hsame).symm.trans (hy c' hc' hid')

theorem CallMove.about (h : CallMove files x call y call') (hcall : call.Sound files x)
    (hgrows : Grows files x y) (habout : call'.About documentId y) :
    call.About documentId x := by
  cases h with
  | ingest h => exact h.documentId.symm.trans habout
  | extractTables h => exact h.documentId.symm.trans habout
  | classify reply h =>
    exact (classifyStep_onRecord h hcall.1).2.symm.trans habout
  | classifyFail message h => exact (classifyFail_onRecord (x := x) h).2.symm.trans habout
  | overrideSection h =>
    rw [Call.About, (overrideStep_onRecord h).2] at habout
    exact chunkOf_of_grows hgrows habout
  | overrideFail message h =>
    rw [Call.About, (overrideFail_onRecord (x := x) h).2] at habout
    exact habout
  | job | jobFail => exact habout

/-- No two documents have chunks of one name. -/
theorem chunkId_ne_of_other (hx : Consistent files x) {chunk : PDFChunk}
    (hstored : .chunk chunk.unlabelled ∈ x.rows) (hother : chunk.documentId ≠ documentId) :
    ∀ c ∈ x.db.pdfChunks, c.documentId = documentId → c.chunkId ≠ chunk.chunkId := by
  intro c hc hmine hid
  obtain ⟨stored,hmem,hsame⟩ := List.mem_map.mp hstored
  have hid' : c.chunkId = stored.chunkId := hid.trans (congrArg PDFChunk.chunkId hsame).symm
  obtain rfl := eq_of_chunkId hx hc hmem hid'
  exact hother ((congrArg PDFChunk.documentId hsame).symm.trans hmine)

/-- A call that is not about a document leaves it as it is. -/
theorem CallMove.ofDocument_other (h : CallMove files x call y call') (hx : Consistent files x)
    (hcall : call.Sound files x) (hapart : call.Apart) (hother : ¬ call.About documentId x) :
    y.ofDocument documentId = x.ofDocument documentId := by
  have hdb : ∀ {db : Database}, db.ofDocument documentId = x.db.ofDocument documentId →
      { x with db }.ofDocument documentId = x.ofDocument documentId := by
    intro db hsame
    simp only [Store.ofDocument, hsame]
  cases h with
  | ingest h => exact hdb (h.ofDocument_other hother)
  | extractTables h => exact hdb (h.ofDocument_other hother)
  | classify reply h =>
    cases classifyStep_move h with
    | other => rfl
    | save chunk todo found call' hstage htodo =>
      obtain ⟨hstored,hmine⟩ := hcall.1 chunk (by simp [ClassifyCall.todo, hstage])
      have hother' : chunk.documentId ≠ documentId := fun hid => hother (hmine.symm.trans hid)
      exact hdb (Database.ofDocument_saveSection_other
        (chunkId_ne_of_other hx hstored hother') _)
  | overrideSection h =>
    rcases overrideStep_db h with ⟨chunk,hstage,rfl⟩ | ⟨-,rfl⟩
    · obtain ⟨⟨hstored,hid⟩,-⟩ := hcall chunk hstage
      refine hdb (Database.ofDocument_saveSection_other (chunkId_ne_of_other hx hstored ?_) _)
      intro hmine
      refine hother (fun c hc hname => ?_)
      obtain ⟨stored,hmem,hsame⟩ := List.mem_map.mp hstored
      have hid' : c.chunkId = stored.chunkId :=
        hname.trans (hid.symm.trans (congrArg PDFChunk.chunkId hsame).symm)
      obtain rfl := eq_of_chunkId hx hc hmem hid'
      exact (congrArg PDFChunk.documentId hsame).trans hmine
    · rfl
  | job h => exact (JobFor.step hapart h).2.2 documentId hother
  | classifyFail | overrideFail | jobFail => rfl

/-- A call that is about a document does in the store of the document what it does. -/
theorem advance_ofDocument {e : Tick} (h : advance files e x call = some (y,call'))
    (hapart : call.Apart) (habout : call.About documentId x) :
    advance files e (x.ofDocument documentId) call = some (y.ofDocument documentId,call') := by
  cases e with
  | go uuid now reply =>
    cases call with
    | ingest call =>
      obtain ⟨db,c,hstep,rfl,rfl⟩ := onDb_eq_some.mp h
      exact onDb_eq_some.mpr ⟨_,c,ingestStep_ofDocument hstep habout,rfl,rfl⟩
    | extractTables call =>
      obtain ⟨db,c,hstep,rfl,rfl⟩ := onDb_eq_some.mp h
      exact onDb_eq_some.mpr ⟨_,c,extractStep_ofDocument hstep habout,rfl,rfl⟩
    | classify call =>
      obtain ⟨db,c,hstep,rfl,rfl⟩ := onDb_eq_some.mp h
      exact onDb_eq_some.mpr ⟨_,c,classifyStep_ofDocument hstep habout,rfl,rfl⟩
    | overrideSection call =>
      obtain ⟨db,c,hstep,rfl,rfl⟩ := onDb_eq_some.mp h
      exact onDb_eq_some.mpr ⟨_,c,overrideStep_ofDocument hstep habout,rfl,rfl⟩
    | job request rest =>
      obtain ⟨⟨z,rest'⟩,hstep,hsame⟩ := Option.map_eq_some_iff.mp h
      obtain ⟨rfl,rfl⟩ := Prod.mk.inj hsame
      exact Option.map_eq_some_iff.mpr
        ⟨_,(JobFor.step hapart hstep).2.1 documentId habout,rfl⟩
  | fail message =>
    cases call with
    | ingest call =>
      obtain ⟨db,c,hstep,rfl,rfl⟩ := onDb_eq_some.mp h
      exact onDb_eq_some.mpr ⟨_,c,ingestFail_ofDocument hstep habout,rfl,rfl⟩
    | extractTables call =>
      obtain ⟨db,c,hstep,rfl,rfl⟩ := onDb_eq_some.mp h
      exact onDb_eq_some.mpr ⟨_,c,extractFail_ofDocument hstep,rfl,rfl⟩
    | classify call =>
      obtain ⟨c,hstep,hsame⟩ := Option.map_eq_some_iff.mp h
      obtain ⟨rfl,rfl⟩ := Prod.mk.inj hsame
      exact Option.map_eq_some_iff.mpr ⟨c,hstep,rfl⟩
    | overrideSection call =>
      obtain ⟨c,hstep,hsame⟩ := Option.map_eq_some_iff.mp h
      obtain ⟨rfl,rfl⟩ := Prod.mk.inj hsame
      exact Option.map_eq_some_iff.mpr ⟨c,hstep,rfl⟩
    | job request rest =>
      obtain ⟨rest',hstep,hsame⟩ := Option.map_eq_some_iff.mp h
      obtain ⟨rfl,rfl⟩ := Prod.mk.inj hsame
      exact Option.map_eq_some_iff.mpr ⟨rest',hstep,rfl⟩

end Calls

section Runs

variable {files : Files} {s t : State Store Call} {es : List (Pool.Event Request Tick)}

/-- What holds of a call in itself, and that it keeps to its document. -/
def Call.SoundApart (files : Files) (x : Store) (call : Call) : Prop :=
  call.Sound files x ∧ call.Apart

theorem Request.call_apart (request : Request) : request.call.Apart := by
  cases request with
  | job request => exact jobFor_job request
  | ingest | extractTables | classify | overrideSection => trivial

theorem backend_outline_apart (files : Files) :
    Outline (backend files) (Grows files) (Consistent files) (Call.SoundApart files) where
  call := fun x request _ => ⟨request.call_sound files x,request.call_apart⟩
  advance := by
    intro e x call x' call' h hx hcall
    have hmove := advance_move h
    obtain ⟨hx',hcall',hgrows⟩ := hmove.sound hx hcall.1
    exact ⟨hx',⟨hcall',hmove.apart hcall.2⟩,hgrows⟩
  stable := fun _ _ _ hxy _ _ hcall => ⟨hcall.1.stable hxy,hcall.2⟩

theorem backend_projection (files : Files) (documentId : String) :
    Projection (backend files) (Call.About documentId) (Store.ofDocument documentId)
      (Grows files) (Consistent files) (Call.SoundApart files) where
  others := by
    intro e x call x' call' h hx hcall hother
    have hmove := advance_move h
    have hgrows := (hmove.sound hx hcall.1).2.2
    exact ⟨hmove.ofDocument_other hx hcall.1 hcall.2 hother,
      fun habout => hother (hmove.about hcall.1 hgrows habout)⟩
  own := fun _ _ _ _ _ h _ hcall habout => advance_ofDocument h hcall.2 habout
  stays := by
    intro x x' call hgrows _ _ _ habout
    cases call with
    | overrideSection call => exact chunkOf_of_grows hgrows habout
    | ingest | extractTables | classify | job => exact habout

/-- No document has a part in what becomes of another: what a run saves of one document, and what
it answers to the calls about it, is what it comes to if these are the only calls that are worked
on. -/
theorem document_apart (hrun : run (backend files) (start Store.empty) es = some s)
    (documentId : String) :
    ∃ t, run (backend files) (start Store.empty)
        (restrict (backend files) (Call.About documentId) (start Store.empty) es) = some t ∧
      t.shared = s.shared.ofDocument documentId ∧
      ∀ (i : Nat) (call : Call), s.calls[i]? = some call → call.About documentId s.shared →
        t.calls[i]? = some call := by
  have hstart : Projected (Call.About documentId) (Store.ofDocument documentId)
      (start Store.empty : State Store Call) (start Store.empty) :=
    ⟨rfl,rfl,fun i call hcall _ => hcall⟩
  obtain ⟨t,hrun',hend⟩ := (backend_projection files documentId).run
    (backend_outline_apart files) (holds_start (consistent_empty files)) hstart hrun
  exact ⟨t,hrun',hend.shared,hend.calls⟩

/-- Without the second document the first has the summary that it has beside it. -/
theorem document_apart_sample : ∃ s₀ t₀ s t es, SampleRun s₀ t₀ ∧
    run (backend quarterFiles) (start Store.empty) es = some s ∧ s = s₀ ∧
    run (backend quarterFiles) (start Store.empty)
      (restrict (backend quarterFiles) (Call.About "d1") (start Store.empty) es) = some t ∧
    t.shared.db.aiReports.map (fun r => (r.documentId,r.reportId)) = [("d1","r1")] := by
  obtain ⟨s,t₀,sample⟩ := sample_run
  obtain ⟨es,hrun⟩ := sample.reachable
  obtain ⟨t,hrun',hshared,-⟩ := document_apart hrun "d1"
  refine ⟨s,t₀,s,t,es,sample,hrun,rfl,hrun',?_⟩
  have hreports : t.shared.db.aiReports =
      s.shared.db.aiReports.filter (fun r => r.documentId = "d1") :=
    congrArg (fun x => x.db.aiReports) hshared
  have hmap := congrArg (List.filter (fun r => r.1 = "d1")) sample.reports
  rw [List.filter_map] at hmap
  rw [hreports]
  exact hmap

end Runs

end FinancialPdfReader
