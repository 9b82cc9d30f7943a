import FinancialPdfReader.Concurrency.SharedLog
import FinancialPdfReader.Services.TextExtraction

namespace FinancialPdfReader

open Py

/-- The database and every request that has come in so far, at whatever point it is. -/
structure Server where
  db : Database
  ingests : List IngestCall
  extracts : List ExtractCall

/-- What happens next: a request comes in, or one of the calls goes on or fails. -/
inductive Event where
  | ingest (documentId : String)
  | ingestStep (i : Nat) (uuid : String) (now : Nat)
  | ingestFail (i : Nat) (message : String)
  | extract (documentId : String)
  | extractStep (i : Nat) (uuid : String)
  | extractFail (i : Nat) (message : String)

namespace Server

/-- No request has come in yet. -/
def start (db : Database) : Server := ⟨db,[],[]⟩

def step (files : Files) (s : Server) : Event → Option Server
  | .ingest documentId => some { s with ingests := s.ingests ++ [⟨documentId,0,.called⟩] }
  | .ingestStep i uuid now => do
      let call ← s.ingests[i]?
      let (db,call) ← FinancialPdfReader.ingestStep files uuid now s.db call
      pure { s with db, ingests := s.ingests.set i call }
  | .ingestFail i message => do
      let call ← s.ingests[i]?
      let (db,call) ← FinancialPdfReader.ingestFail message s.db call
      pure { s with db, ingests := s.ingests.set i call }
  | .extract documentId => some { s with extracts := s.extracts ++ [⟨documentId,0,.called⟩] }
  | .extractStep i uuid => do
      let call ← s.extracts[i]?
      let (db,call) ← FinancialPdfReader.extractStep files uuid s.db call
      pure { s with db, extracts := s.extracts.set i call }
  | .extractFail i message => do
      let call ← s.extracts[i]?
      let (db,call) ← FinancialPdfReader.extractFail message s.db call
      pure { s with db, extracts := s.extracts.set i call }

/-- The events one after the other; `none` when one of them cannot happen. -/
def run (files : Files) : Server → List Event → Option Server
  | s, [] => some s
  | s, e :: es => (step files s e).bind (run files · es)

/-- One call moves and the others stay as they are. -/
inductive Move (files : Files) : Server → Server → Prop where
  | ingest (s : Server) (documentId : String) :
      Move files s { s with ingests := s.ingests ++ [⟨documentId,0,.called⟩] }
  | ingestMove {db db' : Database} {before after : List IngestCall} {call call' : IngestCall}
      (extracts : List ExtractCall) (h : IngestMove files db call db' call') :
      Move files ⟨db,before ++ call :: after,extracts⟩ ⟨db',before ++ call' :: after,extracts⟩
  | extract (s : Server) (documentId : String) :
      Move files s { s with extracts := s.extracts ++ [⟨documentId,0,.called⟩] }
  | extractMove {db db' : Database} {before after : List ExtractCall}
      {call call' : ExtractCall} (ingests : List IngestCall)
      (h : ExtractMove files db call db' call') :
      Move files ⟨db,ingests,before ++ call :: after⟩ ⟨db',ingests,before ++ call' :: after⟩

/-- The call at `i` has moved; those before it and those after it are as they were. -/
private theorem moved_call {C : Type} {calls : List C} {i : Nat}
    {f : C → Option (Database × C)} {g : Database → List C → Server} {t : Server}
    (h : (do
      let call ← calls[i]?
      let (db,call) ← f call
      pure (g db (calls.set i call))) = some t) :
    ∃ before call after db' call', calls = before ++ call :: after ∧
      f call = some (db',call') ∧ t = g db' (before ++ call' :: after) := by
  obtain ⟨call,hcall,h⟩ := Option.bind_eq_some_iff.mp h
  obtain ⟨⟨db',call'⟩,hf,h⟩ := Option.bind_eq_some_iff.mp h
  obtain rfl := Option.some.inj h
  obtain ⟨hi,rfl⟩ := List.getElem?_eq_some_iff.mp hcall
  have hparts : ∃ before after, calls = before ++ calls[i] :: after ∧ before.length = i ∧
      calls.set i call' = before ++ call' :: after := List.exists_of_set hi
  obtain ⟨before,after,hcalls,-,hset⟩ := hparts
  exact ⟨before,calls[i],after,db',call',hcalls,hf,by rw [hset]⟩

private theorem move_ingests {files : Files} {s t : Server} {i : Nat}
    {f : Database → IngestCall → Option (Database × IngestCall)}
    (hmove : ∀ db call db' call', f db call = some (db',call') →
      IngestMove files db call db' call')
    (h : (do
      let call ← s.ingests[i]?
      let (db,call) ← f s.db call
      pure { s with db, ingests := s.ingests.set i call }) = some t) : Move files s t := by
  obtain ⟨before,call,after,db',call',hcalls,hf,rfl⟩ := moved_call
    (g := fun db calls => { s with db, ingests := calls }) h
  obtain ⟨db,ingests,extracts⟩ := s
  subst hcalls
  exact .ingestMove extracts (hmove _ _ _ _ hf)

private theorem move_extracts {files : Files} {s t : Server} {i : Nat}
    {f : Database → ExtractCall → Option (Database × ExtractCall)}
    (hmove : ∀ db call db' call', f db call = some (db',call') →
      ExtractMove files db call db' call')
    (h : (do
      let call ← s.extracts[i]?
      let (db,call) ← f s.db call
      pure { s with db, extracts := s.extracts.set i call }) = some t) : Move files s t := by
  obtain ⟨before,call,after,db',call',hcalls,hf,rfl⟩ := moved_call
    (g := fun db calls => { s with db, extracts := calls }) h
  obtain ⟨db,ingests,extracts⟩ := s
  subst hcalls
  exact .extractMove ingests (hmove _ _ _ _ hf)

theorem step_move {files : Files} {s t : Server} {e : Event} (h : step files s e = some t) :
    Move files s t := by
  cases e with
  | ingest documentId =>
    obtain rfl := Option.some.inj h
    exact .ingest s documentId
  | ingestStep i uuid now => exact move_ingests (fun _ _ _ _ => ingestStep_move) h
  | ingestFail i message => exact move_ingests (fun _ _ _ _ => ingestFail_move) h
  | extract documentId =>
    obtain rfl := Option.some.inj h
    exact .extract s documentId
  | extractStep i uuid => exact move_extracts (fun _ _ _ _ => extractStep_move) h
  | extractFail i message => exact move_extracts (fun _ _ _ _ => extractFail_move) h

/-- What every move keeps, every run keeps. -/
theorem run_invariant {files : Files} {P : Server → Prop}
    (hmove : ∀ s t, Move files s t → P s → P t) {s t : Server} {es : List Event}
    (hrun : run files s es = some t) (hs : P s) : P t := by
  induction es generalizing s with
  | nil =>
    obtain rfl := Option.some.inj hrun
    exact hs
  | cons e es ih =>
    obtain ⟨u,hstep,hrest⟩ := Option.bind_eq_some_iff.mp hrun
    exact ih hrest (hmove s u (step_move hstep) hs)

end Server

end FinancialPdfReader
