import FinancialPdfReader.Concurrency.Traces
import FinancialPdfReader.Services.Classification.Calls

namespace FinancialPdfReader

open Py

/-- The calls that set sections, and for each chunk that was overridden the values that it was
given by hand, the last one first. -/
structure Labelling where
  db : Database
  classifies : List ClassifyCall
  overrides : List OverrideCall
  overridden : List (String × String)

/-- A request comes in, or one of the calls goes on, or the database or the service fails it. -/
inductive LabelEvent where
  | classify (documentId : String) (useLlmFallback : Bool)
  | classifyStep (i : Nat) (reply : ModelText)
  | classifyFail (i : Nat) (message : String)
  | override (chunkId sectionName : String)
  | overrideStep (i : Nat)
  | overrideFail (i : Nat) (message : String)

/-- A section on its way into a chunk as it was loaded. -/
structure SectionSave where
  chunk : PDFChunk
  sectionName : String
  byHand : Bool

namespace Labelling

def start (db : Database) : Labelling := ⟨db,[],[],[]⟩

/-- What an event saves, if it gets as far as that. -/
def saves (s : Labelling) : LabelEvent → Option SectionSave
  | .classifyStep i reply => s.classifies[i]?.bind (fun call => call.todo.head?.map (fun chunk =>
      { chunk
        sectionName := (classifyChunkWith chunk.text call.useLlmFallback reply).1
        byHand := false }))
  | .overrideStep i => s.overrides[i]?.bind (fun call => match call.stage with
    | .loaded chunk => some { chunk, sectionName := call.sectionName, byHand := true }
    | _ => none)
  | _ => none

def savedDb (db : Database) : Option SectionSave → Database
  | some save => saveSection db save.chunk save.sectionName
  | none => db

def noteOverride (overridden : List (String × String)) : Option SectionSave →
    List (String × String)
  | some save =>
      if save.byHand then (save.chunk.chunkId,save.sectionName) :: overridden else overridden
  | none => overridden

def step (s : Labelling) (e : LabelEvent) : Option Labelling :=
  match e with
  | .classify documentId useLlmFallback => some
      { s with classifies := s.classifies ++ [⟨documentId,useLlmFallback,.called⟩] }
  | .classifyStep i reply => do
      let call ← s.classifies[i]?
      let (db,call) ← FinancialPdfReader.classifyStep reply s.db call
      pure { s with db, classifies := s.classifies.set i call }
  | .classifyFail i message => do
      let call ← s.classifies[i]?
      let call ← FinancialPdfReader.classifyFail message call
      pure { s with classifies := s.classifies.set i call }
  | .override chunkId sectionName => some
      { s with overrides := s.overrides ++ [⟨chunkId,sectionName,.called⟩] }
  | .overrideStep i => do
      let call ← s.overrides[i]?
      let (db,call) ← FinancialPdfReader.overrideStep s.db call
      pure { s with
        db
        overrides := s.overrides.set i call
        overridden := noteOverride s.overridden (s.saves e) }
  | .overrideFail i message => do
      let call ← s.overrides[i]?
      let call ← FinancialPdfReader.overrideFail message call
      pure { s with overrides := s.overrides.set i call }

/-- Every chunk that was ever overridden has the section that it was given by hand last. -/
def Kept (s : Labelling) : Prop :=
  ∀ c ∈ s.db.pdfChunks, ∀ v ∈ s.overridden.lookup c.chunkId, c.sectionName = v

instance (s : Labelling) : Decidable s.Kept :=
  inferInstanceAs (Decidable (∀ c ∈ s.db.pdfChunks, ∀ v ∈ s.overridden.lookup c.chunkId,
    c.sectionName = v))

/-- What is classified differs from what was loaded only where the chunk was not overridden or
is given the value it was overridden with; and an override finds the chunk with its own value
already only where that is still stored. -/
def KeepsOverrides (s : Labelling) (e : LabelEvent) : Prop :=
  ∀ save ∈ s.saves e,
    (save.byHand = false → save.chunk.sectionName ≠ save.sectionName →
      ∀ v ∈ s.overridden.lookup save.chunk.chunkId, save.sectionName = v) ∧
    (save.byHand = true → save.chunk.sectionName = save.sectionName →
      ∀ c ∈ s.db.pdfChunks, c.chunkId = save.chunk.chunkId → c.sectionName = save.sectionName)

/-- What the calls have loaded is still stored. -/
def Loaded (s : Labelling) : Prop :=
  ∀ call ∈ s.classifies, ∀ chunk ∈ call.todo, chunk.chunkId ∈ s.db.pdfChunks.map (·.chunkId)

variable {s t : Labelling} {e : LabelEvent}

/-- All that an event does to the sections is the save that it makes. -/
theorem step_effect (h : step s e = some t) :
    t.db = savedDb s.db (s.saves e) ∧ t.overridden = noteOverride s.overridden (s.saves e) := by
  cases e with
  | classify documentId useLlmFallback =>
    obtain rfl := Option.some.inj h
    exact ⟨rfl,rfl⟩
  | override chunkId sectionName =>
    obtain rfl := Option.some.inj h
    exact ⟨rfl,rfl⟩
  | classifyFail i message =>
    obtain ⟨call,-,h⟩ := Option.bind_eq_some_iff.mp h
    obtain ⟨call',-,h⟩ := Option.bind_eq_some_iff.mp h
    obtain rfl := Option.some.inj h
    exact ⟨rfl,rfl⟩
  | overrideFail i message =>
    obtain ⟨call,-,h⟩ := Option.bind_eq_some_iff.mp h
    obtain ⟨call',-,h⟩ := Option.bind_eq_some_iff.mp h
    obtain rfl := Option.some.inj h
    exact ⟨rfl,rfl⟩
  | classifyStep i reply =>
    obtain ⟨call,hcall,h⟩ := Option.bind_eq_some_iff.mp h
    obtain ⟨⟨db,call'⟩,hstep,h⟩ := Option.bind_eq_some_iff.mp h
    obtain rfl := Option.some.inj h
    cases classifyStep_move hstep with
    | other call' hnext htodo =>
      have hnone : s.saves (.classifyStep i reply) = none := by simp [saves, hcall, hnext]
      rw [hnone]
      exact ⟨rfl,rfl⟩
    | save chunk todo found call' hstage htodo =>
      have hsave : s.saves (.classifyStep i reply) = some
          { chunk
            sectionName := (classifyChunkWith chunk.text call.useLlmFallback reply).1
            byHand := false } := by
        simp [saves, hcall, ClassifyCall.todo, hstage]
      simp [hsave, savedDb, noteOverride]
  | overrideStep i =>
    obtain ⟨call,hcall,h⟩ := Option.bind_eq_some_iff.mp h
    obtain ⟨⟨db,call'⟩,hstep,h⟩ := Option.bind_eq_some_iff.mp h
    obtain rfl := Option.some.inj h
    refine ⟨?_,rfl⟩
    rcases overrideStep_db hstep with ⟨chunk,hstage,rfl⟩ | ⟨hstage,rfl⟩
    · simp [saves, hcall, hstage, savedDb]
    · simp [saves, hcall, hstage, savedDb]

private theorem saved_ids (db : Database) (save : Option SectionSave) :
    (savedDb db save).pdfChunks.map (·.chunkId) = db.pdfChunks.map (·.chunkId) := by
  cases save with
  | none => rfl
  | some save => exact saveSection_ids db save.chunk save.sectionName

/-- A call that is new or moves has loaded what is stored; the others are as they were. -/
theorem step_todo (h : step s e = some t) {call : ClassifyCall} (hcall : call ∈ t.classifies) :
    call ∈ s.classifies ∨ (∀ chunk ∈ call.todo, chunk ∈ s.db.pdfChunks) ∨
      ∃ old ∈ s.classifies, ∀ chunk ∈ call.todo, chunk ∈ old.todo := by
  cases e with
  | classify documentId useLlmFallback =>
    obtain rfl := Option.some.inj h
    rcases List.mem_append.mp hcall with hold | hnew
    · exact .inl hold
    · rw [List.mem_singleton.mp hnew]
      exact .inr (.inl (by simp [ClassifyCall.todo]))
  | override chunkId sectionName =>
    obtain rfl := Option.some.inj h
    exact .inl hcall
  | classifyFail i message =>
    obtain ⟨old,-,h⟩ := Option.bind_eq_some_iff.mp h
    obtain ⟨failed,hfail,h⟩ := Option.bind_eq_some_iff.mp h
    obtain rfl := Option.some.inj h
    rcases List.mem_or_eq_of_mem_set hcall with hold | rfl
    · exact .inl hold
    · exact .inr (.inl (by simp [classifyFail_todo hfail]))
  | overrideFail i message =>
    obtain ⟨old,-,h⟩ := Option.bind_eq_some_iff.mp h
    obtain ⟨failed,-,h⟩ := Option.bind_eq_some_iff.mp h
    obtain rfl := Option.some.inj h
    exact .inl hcall
  | classifyStep i reply =>
    obtain ⟨old,hold,h⟩ := Option.bind_eq_some_iff.mp h
    obtain ⟨⟨db,moved⟩,hstep,h⟩ := Option.bind_eq_some_iff.mp h
    obtain rfl := Option.some.inj h
    rcases List.mem_or_eq_of_mem_set hcall with hkept | rfl
    · exact .inl hkept
    · cases classifyStep_move hstep with
      | other call' hnext htodo => exact .inr (.inl htodo)
      | save chunk todo found call' hstage htodo =>
        refine .inr (.inr ⟨old,List.mem_of_getElem? hold,?_⟩)
        intro c hc
        rw [ClassifyCall.todo, hstage]
        exact List.mem_cons_of_mem chunk (htodo ▸ hc)
  | overrideStep i =>
    obtain ⟨old,-,h⟩ := Option.bind_eq_some_iff.mp h
    obtain ⟨⟨db,moved⟩,-,h⟩ := Option.bind_eq_some_iff.mp h
    obtain rfl := Option.some.inj h
    exact .inl hcall

theorem Loaded.step (hs : s.Loaded) (h : step s e = some t) : t.Loaded := by
  intro call hcall chunk hchunk
  rw [(step_effect h).1, saved_ids]
  rcases step_todo h hcall with hold | hstored | ⟨old,hold,hsub⟩
  · exact hs call hold chunk hchunk
  · exact List.mem_map_of_mem (hstored chunk hchunk)
  · exact hs old hold chunk (hsub chunk hchunk)

theorem Loaded.stored (hs : s.Loaded) {save : SectionSave} (h : save ∈ s.saves e)
    (hrule : save.byHand = false) :
    ∃ c ∈ s.db.pdfChunks, c.chunkId = save.chunk.chunkId := by
  cases e with
  | classifyStep i reply =>
    obtain ⟨call,hcall,h⟩ := Option.bind_eq_some_iff.mp h
    obtain ⟨chunk,hhead,rfl⟩ := Option.map_eq_some_iff.mp h
    have hmem := hs call (List.mem_of_getElem? hcall) chunk (List.mem_of_mem_head? hhead)
    exact List.mem_map.mp hmem
  | overrideStep i =>
    obtain ⟨call,hcall,h⟩ := Option.bind_eq_some_iff.mp h
    split at h
    · rw [← Option.some.inj h] at hrule
      exact absurd hrule.symm Bool.false_ne_true
    · exact absurd h.symm (Option.some_ne_none _)
  | classify documentId useLlmFallback => exact absurd h.symm (Option.some_ne_none _)
  | classifyFail i message => exact absurd h.symm (Option.some_ne_none _)
  | override chunkId sectionName => exact absurd h.symm (Option.some_ne_none _)
  | overrideFail i message => exact absurd h.symm (Option.some_ne_none _)

private theorem lookup_note {chunkId sectionName : String} {overridden : List (String × String)}
    (other : String) : ((chunkId,sectionName) :: overridden).lookup other =
      if other = chunkId then some sectionName else overridden.lookup other := by
  rw [List.lookup_cons]
  by_cases h : other = chunkId
  · simp [h]
  · simp [h, beq_false_of_ne h]

/-- A save by rule or model keeps the overrides exactly when it writes nothing else into an
overridden chunk. -/
private theorem kept_classify_iff (hkept : s.Kept) {chunk : PDFChunk} (sectionName : String)
    (hstored : ∃ c ∈ s.db.pdfChunks, c.chunkId = chunk.chunkId) :
    (∀ c ∈ (saveSection s.db chunk sectionName).pdfChunks,
      ∀ v ∈ s.overridden.lookup c.chunkId, c.sectionName = v) ↔
    (chunk.sectionName ≠ sectionName →
      ∀ v ∈ s.overridden.lookup chunk.chunkId, sectionName = v) := by
  by_cases hsame : chunk.sectionName = sectionName
  · rw [saveSection, if_pos hsame]
    simp only [hsame, ne_eq, not_true_eq_false, false_implies, iff_true]
    exact hkept
  · rw [saveSection, if_neg hsame]
    simp only [hsame, ne_eq, not_false_eq_true, true_implies]
    constructor
    · intro hall v hv
      obtain ⟨c,hc,hid⟩ := hstored
      have hmem : { c with sectionName } ∈
          (s.db.setSection chunk.chunkId sectionName).pdfChunks := by
        rw [setSection_chunks]
        exact List.mem_map.mpr ⟨c,hc,if_pos hid⟩
      exact hall _ hmem v (hid ▸ hv)
    · intro hvalue c hc v hv
      rcases mem_setSection hc with ⟨hid,hsection⟩ | ⟨-,hold⟩
      · rw [hid] at hv
        rw [hsection]
        exact hvalue v hv
      · exact hkept c hold v hv

/-- A save by hand is lost exactly when there is nothing to write and something else is stored. -/
private theorem kept_override_iff (hkept : s.Kept) (chunk : PDFChunk) (sectionName : String) :
    (∀ c ∈ (saveSection s.db chunk sectionName).pdfChunks,
      ∀ v ∈ ((chunk.chunkId,sectionName) :: s.overridden).lookup c.chunkId, c.sectionName = v) ↔
    (chunk.sectionName = sectionName →
      ∀ c ∈ s.db.pdfChunks, c.chunkId = chunk.chunkId → c.sectionName = sectionName) := by
  by_cases hsame : chunk.sectionName = sectionName
  · rw [saveSection, if_pos hsame]
    simp only [hsame, true_implies]
    constructor
    · intro hall c hc hid
      apply hall c hc
      rw [lookup_note, if_pos hid]
      rfl
    · intro hvalue c hc v hv
      rw [lookup_note] at hv
      split at hv
      · rename_i hid
        rw [← Option.some.inj hv]
        exact hvalue c hc hid
      · exact hkept c hc v hv
  · rw [saveSection, if_neg hsame]
    simp only [hsame, false_implies, iff_true]
    intro c hc v hv
    rw [lookup_note] at hv
    rcases mem_setSection hc with ⟨hid,hsection⟩ | ⟨hid,hold⟩
    · rw [if_pos hid] at hv
      rw [← Option.some.inj hv]
      exact hsection
    · rw [if_neg hid] at hv
      exact hkept c hold v hv

/-- One event keeps the overrides exactly when it is one of those that do. -/
theorem kept_step_iff (hloaded : s.Loaded) (hkept : s.Kept) (h : step s e = some t) :
    t.Kept ↔ s.KeepsOverrides e := by
  obtain ⟨hdb,hoverridden⟩ := step_effect h
  rw [Kept, KeepsOverrides, hdb, hoverridden]
  cases hsave : s.saves e with
  | none =>
    have hall : ∀ c ∈ s.db.pdfChunks, ∀ v ∈ s.overridden.lookup c.chunkId, c.sectionName = v :=
      hkept
    simpa [savedDb, noteOverride] using hall
  | some save =>
    cases hhand : save.byHand with
    | false =>
      have hiff := kept_classify_iff hkept save.sectionName (hloaded.stored hsave hhand)
      simpa [savedDb, noteOverride, hhand] using hiff
    | true =>
      have hiff := kept_override_iff hkept save.chunk save.sectionName
      simpa [savedDb, noteOverride, hhand] using hiff

theorem loaded_start (db : Database) : (start db).Loaded := by
  intro call hcall
  exact absurd hcall List.not_mem_nil

theorem kept_start (db : Database) : (start db).Kept := by
  intro c _ v hv
  exact absurd hv.symm (Option.some_ne_none _)

/-- Along any events the overrides are kept throughout exactly when every event keeps them. -/
theorem overrides_kept_iff (db : Database) (es : List LabelEvent) :
    Traces.Always step Kept (start db) es ↔ Traces.Each step KeepsOverrides (start db) es :=
  Traces.always_iff_each (I := Loaded) (fun _ _ _ h hloaded => hloaded.step h)
    (fun _ _ _ h hloaded hkept => kept_step_iff hloaded hkept h) (loaded_start db) (kept_start db)

/-- A chunk is put right by hand, and after that the document is classified. -/
def classifiedAfterwards : List LabelEvent := [
  .override "c1" "存貨",.overrideStep 0,.overrideStep 0,
  .classify "d1" true,.classifyStep 0 (.ok ""),.classifyStep 0 (.ok "")]

def revenueDb : Database := { Database.empty with
  pdfChunks := [
    { chunkId := "c1"
      documentId := "d1"
      stockId := "2330"
      period := "2026Q1"
      page := 1
      sectionName := "營收"
      text := "營業收入與存貨"
      charCount := 7 }] }

theorem override_undone : ¬Traces.Always step Kept (start revenueDb) classifiedAfterwards := by
  intro hall
  have hlost : (Traces.run step (start revenueDb) classifiedAfterwards).all
      (fun t => decide t.Kept) = false := by decide +kernel
  cases hrun : Traces.run step (start revenueDb) classifiedAfterwards with
  | none =>
    rw [hrun] at hlost
    exact absurd hlost (by simp)
  | some t =>
    rw [hrun] at hlost
    have hkept : t.Kept := hall classifiedAfterwards [] t (by simp) hrun
    exact absurd hkept (by simpa using hlost)

end Labelling

end FinancialPdfReader
