import FinancialPdfReader.Models.Database
import FinancialPdfReader.Services.Classification

namespace FinancialPdfReader

open Py

structure PageData where
  page : Nat
  text : String
  deriving DecidableEq

/-- The text of every page, counted from one. -/
def extractPages (file : PdfFile) : Except String (List PageData) := do
  let pages ← file
  (pages.zipIdx 1).mapM (fun (page,i) => do
    let text ← page.extractText
    pure ⟨i,strip (text.getD "")⟩)

theorem extractPages_length {pages : List PdfPage} {found : List PageData}
    (h : extractPages (.ok pages) = .ok found) : found.length = pages.length := by
  rw [mapM_length h, List.length_zipIdx]

/-- The pages are numbered from one. -/
theorem page_of_mem_extractPages {pages : List PdfPage} {found : List PageData}
    (h : extractPages (.ok pages) = .ok found) {p : PageData} (hp : p ∈ found) :
    1 ≤ p.page ∧ p.page ≤ pages.length := by
  obtain ⟨⟨page,i⟩,hmem,hread⟩ := mapM_mem h hp
  obtain ⟨text,-,hread⟩ := bind_eq_ok.mp hread
  cases hread
  have hlow : 1 ≤ i := List.le_snd_of_mem_zipIdx hmem
  have hhigh : i < 1 + pages.length := List.snd_lt_add_of_mem_zipIdx hmem
  exact ⟨hlow,Nat.lt_one_add_iff.mp hhigh⟩

/-- Where a text that is too long is cut: at its last newline, unless that is in the first half. -/
def breakAt (maxChars : Nat) (cs : List Char) : Nat :=
  let segment := cs.take maxChars
  if segment.contains '\n' then
    let i := segment.length - 1 - segment.reverse.idxOf '\n'
    -- `break_at < max_chars * 0.5`
    if 2 * i < maxChars then maxChars else i
  else maxChars

theorem breakAt_pos (maxChars : Nat) [NeZero maxChars] (cs : List Char) :
    0 < breakAt maxChars cs := by
  have hmax : 0 < maxChars := Nat.pos_of_neZero maxChars
  rw [breakAt]
  split
  · dsimp only
    split
    · exact hmax
    · omega
  · exact hmax

def chunkTexts (maxChars : Nat) [NeZero maxChars] (cs : List Char) : List (List Char) :=
  if _ : maxChars < cs.length then
    let segment := stripBy isSpace (cs.take (breakAt maxChars cs))
    let rest := chunkTexts maxChars (stripBy isSpace (cs.drop (breakAt maxChars cs)))
    if segment.isEmpty then rest else segment :: rest
  else if cs.isEmpty then [] else [cs]
termination_by cs.length
decreasing_by
  have hcut := breakAt_pos maxChars cs
  have hstrip := length_stripBy_le isSpace (cs.drop (breakAt maxChars cs))
  rw [List.length_drop] at hstrip
  omega

/-- The chunks of one page; at least one character is allowed to each, or none would ever end. -/
def chunkPage (pageNum : Nat) (text : String) (maxChars : Nat := 1500) [NeZero maxChars] :
    List PageData :=
  (chunkTexts maxChars text.toList).map (fun cs => ⟨pageNum,String.ofList cs⟩)

def newChunk (chunkId documentId : String) (doc : PDFDocument) (chunkData : PageData) :
    PDFChunk :=
  { chunkId
    documentId
    stockId := doc.stockId
    period := doc.period
    page := chunkData.page
    sectionName := (classifyChunk chunkData.text).1
    text := chunkData.text
    charCount := chunkData.text.length }

/-- What the pages are saved as, in the order of the two loops. -/
def pageChunks (pages : List PageData) : List PageData :=
  pages.flatMap (fun pageData => chunkPage pageData.page pageData.text)

/-- How far a call to `ingest_pdf` has got; it works on the document as it was loaded. -/
inductive IngestStage where
  | called
  | loaded (doc : PDFDocument)
  | ingesting (doc : PDFDocument) (file : PdfFile)
  | saving (doc : PDFDocument) (pages : List PageData)
  | returned (pagesExtracted : Nat)
  | raised (error : PyError)

/-- One call; what it has saved so far stays saved when it fails. -/
structure IngestCall where
  documentId : String
  chunksCreated : Nat
  stage : IngestStage

/-- The call that came back with the status "completed". -/
def IngestCall.Completed (call : IngestCall) : Prop :=
  ∃ pagesExtracted, call.stage = .returned pagesExtracted

/-- Setting a field to the value it has leaves nothing to save. -/
def saveStatus (db : Database) (doc : PDFDocument) (documentId : String) (status : Status) :
    Database :=
  if doc.status = status then db
  else db.saveDocument documentId (fun d => { d with status })

@[simp] theorem saveStatus_pdfChunks (db : Database) (doc : PDFDocument) (documentId : String)
    (status : Status) : (saveStatus db doc documentId status).pdfChunks = db.pdfChunks := by
  rw [saveStatus]
  split <;> rfl

@[simp] theorem saveStatus_pdfTables (db : Database) (doc : PDFDocument) (documentId : String)
    (status : Status) : (saveStatus db doc documentId status).pdfTables = db.pdfTables := by
  rw [saveStatus]
  split <;> rfl

@[simp] theorem saveStatus_aiReports (db : Database) (doc : PDFDocument) (documentId : String)
    (status : Status) : (saveStatus db doc documentId status).aiReports = db.aiReports := by
  rw [saveStatus]
  split <;> rfl

/-- The files on the disk; they do not change. -/
abbrev Files := String → Option PdfFile

/-- The next thing a call does to the database. `uuid` names the chunk if it saves one, and a
name that is taken is refused: the call cannot go on, only fail. -/
def ingestStep (files : Files) (uuid : String) (now : Nat) (db : Database) (call : IngestCall) :
    Option (Database × IngestCall) :=
  let documentId := call.documentId
  match call.stage with
  | .called => match db.document? documentId with
    | none => some (db,{ call with
        stage := .raised (.valueError ("Document not found: " ++ documentId)) })
    | some doc => some (db,{ call with stage := .loaded doc })
  | .loaded doc => match files doc.filePath with
    | none => some (saveStatus db doc documentId .failed,{ call with
        stage := .raised (.fileNotFoundError ("PDF file missing: " ++ doc.filePath)) })
    | some file => some (saveStatus db doc documentId .ingesting,{ call with
        stage := .ingesting doc file })
  | .ingesting doc file => match extractPages file with
    | .error message => some (db.saveDocument documentId (fun d => { d with status := .failed }),
        { call with stage := .raised (.runtimeError ("Ingestion failed: " ++ message)) })
    | .ok pages => some (db,{ call with stage := .saving doc pages })
  | .saving doc pages => match (pageChunks pages)[call.chunksCreated]? with
    | some chunkData => match db.saveChunk (newChunk uuid documentId doc chunkData) with
      | .error _ => none
      | .ok saved => some (saved,{ call with chunksCreated := call.chunksCreated + 1 })
    | none => some
        (db.saveDocument documentId (fun d => { d with
          status := .completed
          totalPages := pages.length
          ingestedAt := some now }),
        { call with stage := .returned pages.length })
  | .returned _ => none
  | .raised _ => none

/-- `except Exception`: whatever goes wrong after the status was set to "ingesting". -/
def ingestFail (message : String) (db : Database) (call : IngestCall) :
    Option (Database × IngestCall) :=
  let failed : IngestCall :=
    { call with stage := .raised (.runtimeError ("Ingestion failed: " ++ message)) }
  match call.stage with
  | .ingesting _ _ =>
      some (db.saveDocument call.documentId (fun d => { d with status := .failed }),failed)
  | .saving _ pages =>
      some (db.saveDocument call.documentId (fun d => { d with
        status := .failed
        totalPages := pages.length }),failed)
  | _ => none

/-- What a call can do, guards included: one case for each way on, and one for every failure
once the status is "ingesting". -/
inductive IngestMove (files : Files) (db : Database) (call : IngestCall) :
    Database → IngestCall → Prop where
  | noDocument (error : PyError) (hstage : call.stage = .called)
      (hdoc : db.document? call.documentId = none) :
      IngestMove files db call db { call with stage := .raised error }
  | load (doc : PDFDocument) (hstage : call.stage = .called)
      (hdoc : db.document? call.documentId = some doc) :
      IngestMove files db call db { call with stage := .loaded doc }
  | noFile (doc : PDFDocument) (error : PyError) (hstage : call.stage = .loaded doc)
      (hfile : files doc.filePath = none) :
      IngestMove files db call (saveStatus db doc call.documentId .failed)
        { call with stage := .raised error }
  | begin (doc : PDFDocument) (file : PdfFile) (hstage : call.stage = .loaded doc)
      (hfile : files doc.filePath = some file) :
      IngestMove files db call (saveStatus db doc call.documentId .ingesting)
        { call with stage := .ingesting doc file }
  | extract (doc : PDFDocument) (file : PdfFile) (pages : List PageData)
      (hstage : call.stage = .ingesting doc file) (hpages : extractPages file = .ok pages) :
      IngestMove files db call db { call with stage := .saving doc pages }
  | save (doc : PDFDocument) (pages : List PageData) (chunkData : PageData) (uuid : String)
      (hstage : call.stage = .saving doc pages)
      (hnext : (pageChunks pages)[call.chunksCreated]? = some chunkData)
      (hfresh : ∀ c ∈ db.pdfChunks, c.chunkId ≠ uuid) :
      IngestMove files db call
        { db with pdfChunks := db.pdfChunks ++ [newChunk uuid call.documentId doc chunkData] }
        { call with chunksCreated := call.chunksCreated + 1 }
  | complete (doc : PDFDocument) (pages : List PageData) (now : Nat)
      (hstage : call.stage = .saving doc pages)
      (hend : (pageChunks pages)[call.chunksCreated]? = none) :
      IngestMove files db call
        (db.saveDocument call.documentId (fun d => { d with
          status := .completed
          totalPages := pages.length
          ingestedAt := some now }))
        { call with stage := .returned pages.length }
  | fail (error : PyError) (total : PDFDocument → Nat)
      (hstage : (∃ doc file, call.stage = .ingesting doc file ∧ total = (·.totalPages)) ∨
        ∃ doc pages, call.stage = .saving doc pages ∧ total = fun _ => pages.length) :
      IngestMove files db call
        (db.saveDocument call.documentId (fun d => { d with
          status := .failed
          totalPages := total d }))
        { call with stage := .raised error }

theorem ingestStep_move {files : Files} {uuid : String} {now : Nat} {db db' : Database}
    {call call' : IngestCall} (h : ingestStep files uuid now db call = some (db',call')) :
    IngestMove files db call db' call' := by
  rw [ingestStep] at h
  cases hstage : call.stage with
  | called =>
    simp only [hstage] at h
    cases hdoc : db.document? call.documentId with
    | none =>
      simp only [hdoc] at h
      cases h
      exact .noDocument _ hstage hdoc
    | some doc =>
      simp only [hdoc] at h
      cases h
      exact .load doc hstage hdoc
  | loaded doc =>
    simp only [hstage] at h
    cases hfile : files doc.filePath with
    | none =>
      simp only [hfile] at h
      cases h
      exact .noFile doc _ hstage hfile
    | some file =>
      simp only [hfile] at h
      cases h
      exact .begin doc file hstage hfile
  | ingesting doc file =>
    simp only [hstage] at h
    cases hpages : extractPages file with
    | error message =>
      simp only [hpages] at h
      cases h
      exact .fail _ (·.totalPages) (.inl ⟨doc,file,hstage,rfl⟩)
    | ok pages =>
      simp only [hpages] at h
      cases h
      exact .extract doc file pages hstage hpages
  | saving doc pages =>
    simp only [hstage] at h
    cases hnext : (pageChunks pages)[call.chunksCreated]? with
    | none =>
      simp only [hnext] at h
      cases h
      exact .complete doc pages now hstage hnext
    | some chunkData =>
      simp only [hnext] at h
      cases hsave : db.saveChunk (newChunk uuid call.documentId doc chunkData) with
      | error e => simp [hsave] at h
      | ok saved =>
        simp only [hsave] at h
        cases h
        obtain ⟨hfresh,rfl⟩ := Database.saveChunk_eq_ok hsave
        rw [← hstage]
        exact .save doc pages chunkData uuid hstage hnext hfresh
  | returned n => simp [hstage] at h
  | raised e => simp [hstage] at h

theorem ingestFail_move {files : Files} {message : String} {db db' : Database}
    {call call' : IngestCall} (h : ingestFail message db call = some (db',call')) :
    IngestMove files db call db' call' := by
  rw [ingestFail] at h
  cases hstage : call.stage with
  | ingesting doc file =>
    simp only [hstage] at h
    cases h
    exact .fail _ (·.totalPages) (.inl ⟨doc,file,hstage,rfl⟩)
  | saving doc pages =>
    simp only [hstage] at h
    cases h
    exact .fail _ (fun _ => pages.length) (.inr ⟨doc,pages,hstage,rfl⟩)
  | called => simp [hstage] at h
  | loaded doc => simp [hstage] at h
  | returned n => simp [hstage] at h
  | raised e => simp [hstage] at h

end FinancialPdfReader
