import FinancialPdfReader.Models.Database
import FinancialPdfReader.Services.Classification

namespace FinancialPdfReader

open Py

def sections : List String := [
  "營收","毛利率","營業利益","淨利","EPS","存貨","應收帳款","現金流","資本支出","負債",
  "匯率影響","產能","稼動率","客戶需求","產業展望","風險因素","重大會計估計","會計政策變更",
  "管理層展望","董事會說明"]

/-- What the model answers, or the text of the exception that is raised. -/
abbrev ModelText := Except String String

def classifyByLlm (reply : ModelText) : String :=
  match reply with
  | .ok text => if sections.contains (strip text) then strip text else "unknown"
  | .error _ => "unknown"

/-- `classify_chunk(text, use_llm_fallback)`: the section and the method. -/
def classifyChunkWith (text : String) (useLlmFallback : Bool) (reply : ModelText) :
    String × String :=
  match classifyByRule text with
  | some sectionName => (sectionName,"rule")
  | none => if useLlmFallback then (classifyByLlm reply,"llm") else ("unknown","fallback")

/-- What `classify_document` returns. -/
structure ClassificationResult where
  documentId : String
  totalChunks : Nat
  rule : Nat
  llm : Nat
  fallback : Nat
  unknown : Nat
  sectionDistribution : List (String × Nat)

/-- The sections in the order in which they were found first, those of more chunks in front. -/
def sectionDistribution (found : List String) : List (String × Nat) :=
  (found.eraseDups.map (fun sectionName => (sectionName,found.count sectionName))).insertionSort
    (fun a b => b.2 ≤ a.2)

def classificationResult (documentId : String) (found : List (String × String)) :
    ClassificationResult :=
  { documentId
    totalChunks := found.length
    rule := (found.map (·.2)).count "rule"
    llm := (found.map (·.2)).count "llm"
    fallback := (found.map (·.2)).count "fallback"
    unknown := (found.map (·.1)).count "unknown"
    sectionDistribution := sectionDistribution (found.map (·.1)) }

def Database.setSection (db : Database) (chunkId sectionName : String) : Database :=
  let updated := db.pdfChunks.map
    (fun c => if c.chunkId = chunkId then { c with sectionName } else c)
  { db with pdfChunks := updated }

/-- `chunk.save()`: a section that is the one that was loaded is not written. -/
def saveSection (db : Database) (chunk : PDFChunk) (sectionName : String) : Database :=
  if chunk.sectionName = sectionName then db else db.setSection chunk.chunkId sectionName

/-- How far a call to `classify_document` has got; it works on the chunks as they were loaded. -/
inductive ClassifyStage where
  | called
  | classifying (todo : List PDFChunk) (found : List (String × String))
  | returned (result : ClassificationResult)
  | raised (error : PyError)

structure ClassifyCall where
  documentId : String
  useLlmFallback : Bool
  stage : ClassifyStage

/-- The next thing a call does to the database; `reply` is what the model says if it is asked. -/
def classifyStep (reply : ModelText) (db : Database) (call : ClassifyCall) :
    Option (Database × ClassifyCall) :=
  match call.stage with
  | .called => match db.chunksByPage call.documentId with
    | [] => some (db,{ call with
        stage := .raised (.valueError ("No chunks found for document " ++ call.documentId)) })
    | chunk :: chunks => some (db,{ call with stage := .classifying (chunk :: chunks) [] })
  | .classifying (chunk :: todo) found =>
      let (sectionName,method) := classifyChunkWith chunk.text call.useLlmFallback reply
      some (saveSection db chunk sectionName,
        { call with stage := .classifying todo (found ++ [(sectionName,method)]) })
  | .classifying [] found =>
      some (db,{ call with stage := .returned (classificationResult call.documentId found) })
  | .returned _ => none
  | .raised _ => none

/-- What the database raises ends a call at any point; a failing model does not. -/
def classifyFail (message : String) (call : ClassifyCall) : Option ClassifyCall :=
  match call.stage with
  | .called => some { call with stage := .raised (.libraryError message) }
  | .classifying _ _ => some { call with stage := .raised (.libraryError message) }
  | .returned _ => none
  | .raised _ => none

inductive OverrideStage where
  | called
  | loaded (chunk : PDFChunk)
  | returned (oldSection : String)
  | raised (error : PyError)

/-- A call to `manual_override`. -/
structure OverrideCall where
  chunkId : String
  sectionName : String
  stage : OverrideStage

def invalidSection (sectionName : String) : PyError :=
  .valueError ("Invalid section: " ++ sectionName ++ ". Must be one of " ++
    (Json.arr ((sections ++ ["unknown"]).map Json.str)).repr)

def overrideStep (db : Database) (call : OverrideCall) : Option (Database × OverrideCall) :=
  match call.stage with
  | .called =>
      if !sections.contains call.sectionName && call.sectionName != "unknown" then
        some (db,{ call with stage := .raised (invalidSection call.sectionName) })
      else match db.pdfChunks.find? (fun c => c.chunkId = call.chunkId) with
        | none => some (db,{ call with
            stage := .raised (.valueError ("Chunk not found: " ++ call.chunkId)) })
        | some chunk => some (db,{ call with stage := .loaded chunk })
  | .loaded chunk => some (saveSection db chunk call.sectionName,
      { call with stage := .returned chunk.sectionName })
  | .returned _ => none
  | .raised _ => none

def overrideFail (message : String) (call : OverrideCall) : Option OverrideCall :=
  match call.stage with
  | .called => some { call with stage := .raised (.libraryError message) }
  | .loaded _ => some { call with stage := .raised (.libraryError message) }
  | .returned _ => none
  | .raised _ => none

/-- The chunks that a call has loaded and not come to yet. -/
def ClassifyCall.todo (call : ClassifyCall) : List PDFChunk :=
  match call.stage with
  | .classifying todo _ => todo
  | _ => []

/-- What a step of `classify_document` can do: it loads chunks, or it goes on to the next of
those that it has loaded, or it ends. -/
inductive ClassifyMove (reply : ModelText) (db : Database) (call : ClassifyCall) :
    Database → ClassifyCall → Prop where
  | other (call' : ClassifyCall) (hnext : call.todo = [])
      (htodo : ∀ chunk ∈ call'.todo, chunk ∈ db.pdfChunks) : ClassifyMove reply db call db call'
  | save (chunk : PDFChunk) (todo : List PDFChunk) (found : List (String × String))
      (call' : ClassifyCall) (hstage : call.stage = .classifying (chunk :: todo) found)
      (htodo : call'.todo = todo) :
      ClassifyMove reply db call
        (saveSection db chunk (classifyChunkWith chunk.text call.useLlmFallback reply).1) call'

theorem classifyStep_move {reply : ModelText} {db db' : Database} {call call' : ClassifyCall}
    (h : classifyStep reply db call = some (db',call')) :
    ClassifyMove reply db call db' call' := by
  rw [classifyStep] at h
  cases hstage : call.stage with
  | called =>
    have hnone : call.todo = [] := by rw [ClassifyCall.todo, hstage]
    simp only [hstage] at h
    cases hchunks : db.chunksByPage call.documentId with
    | nil =>
      simp only [hchunks] at h
      obtain ⟨rfl,rfl⟩ := Prod.mk.inj (Option.some.inj h)
      exact .other _ hnone (by simp [ClassifyCall.todo])
    | cons chunk chunks =>
      simp only [hchunks] at h
      obtain ⟨rfl,rfl⟩ := Prod.mk.inj (Option.some.inj h)
      refine .other _ hnone ?_
      intro c hc
      have hloaded : c ∈ db.chunksByPage call.documentId := hchunks ▸ hc
      exact (Database.mem_chunksByPage.mp hloaded).1
  | classifying todo found =>
    cases todo with
    | nil =>
      simp only [hstage] at h
      obtain ⟨rfl,rfl⟩ := Prod.mk.inj (Option.some.inj h)
      exact .other _ (by rw [ClassifyCall.todo, hstage]) (by simp [ClassifyCall.todo])
    | cons chunk todo =>
      simp only [hstage] at h
      obtain ⟨rfl,rfl⟩ := Prod.mk.inj (Option.some.inj h)
      exact .save chunk todo found _ hstage rfl
  | returned result => simp [hstage] at h
  | raised error => simp [hstage] at h

theorem classifyFail_todo {message : String} {call call' : ClassifyCall}
    (h : classifyFail message call = some call') : call'.todo = [] := by
  rw [classifyFail] at h
  split at h
  · rw [← Option.some.inj h]
    rfl
  · rw [← Option.some.inj h]
    rfl
  · exact absurd h.symm (Option.some_ne_none _)
  · exact absurd h.symm (Option.some_ne_none _)

/-- A step of `manual_override` saves the section once the chunk is loaded, and nothing before. -/
theorem overrideStep_db {db db' : Database} {call call' : OverrideCall}
    (h : overrideStep db call = some (db',call')) :
    (∃ chunk, call.stage = .loaded chunk ∧ db' = saveSection db chunk call.sectionName) ∨
      (call.stage = .called ∧ db' = db) := by
  rw [overrideStep] at h
  cases hstage : call.stage with
  | called =>
    refine .inr ⟨rfl,?_⟩
    simp only [hstage] at h
    split at h
    · exact (Prod.mk.inj (Option.some.inj h)).1.symm
    · split at h
      · exact (Prod.mk.inj (Option.some.inj h)).1.symm
      · exact (Prod.mk.inj (Option.some.inj h)).1.symm
  | loaded chunk =>
    simp only [hstage] at h
    exact .inl ⟨chunk,rfl,(Prod.mk.inj (Option.some.inj h)).1.symm⟩
  | returned oldSection => simp [hstage] at h
  | raised error => simp [hstage] at h

theorem setSection_chunks (db : Database) (chunkId sectionName : String) :
    (db.setSection chunkId sectionName).pdfChunks =
      db.pdfChunks.map (fun c => if c.chunkId = chunkId then { c with sectionName } else c) := rfl

/-- The section of a chunk after a save: a chunk with another identifier keeps its own. -/
theorem mem_setSection {db : Database} {chunkId sectionName : String} {c : PDFChunk}
    (h : c ∈ (db.setSection chunkId sectionName).pdfChunks) :
    (c.chunkId = chunkId ∧ c.sectionName = sectionName) ∨
      (c.chunkId ≠ chunkId ∧ c ∈ db.pdfChunks) := by
  rw [setSection_chunks] at h
  obtain ⟨old,hold,rfl⟩ := List.mem_map.mp h
  by_cases hid : old.chunkId = chunkId
  · rw [if_pos hid]
    exact .inl ⟨hid,rfl⟩
  · rw [if_neg hid]
    exact .inr ⟨hid,hold⟩

/-- The identifiers that are stored stay the same. -/
theorem setSection_ids (db : Database) (chunkId sectionName : String) :
    (db.setSection chunkId sectionName).pdfChunks.map (·.chunkId) =
      db.pdfChunks.map (·.chunkId) := by
  rw [setSection_chunks, List.map_map]
  apply List.map_congr_left
  intro c _
  by_cases hid : c.chunkId = chunkId
  · simp [hid]
  · simp [hid]

theorem saveSection_ids (db : Database) (chunk : PDFChunk) (sectionName : String) :
    (saveSection db chunk sectionName).pdfChunks.map (·.chunkId) =
      db.pdfChunks.map (·.chunkId) := by
  rw [saveSection]
  split
  · rfl
  · exact setSection_ids db chunk.chunkId sectionName

example : sections = sectionKeywords.map (·.1) := by decide

end FinancialPdfReader
