import FinancialPdfReader.Apis.Grounds
import FinancialPdfReader.Concurrency.Pool

namespace FinancialPdfReader

open Py

/-- What can be asked of the backend. -/
inductive Request where
  | ingest (documentId : String)
  | extractTables (documentId : String)
  | classify (documentId : String) (useLlmFallback : Bool)
  | overrideSection (chunkId sectionName : String)
  | job (request : JobRequest)

/-- A request that has come in, at whatever point it is. -/
inductive Call where
  | ingest (call : IngestCall)
  | extractTables (call : ExtractCall)
  | classify (call : ClassifyCall)
  | overrideSection (call : OverrideCall)
  | job (request : JobRequest) (rest : Program Store (Except PyError Answer))

/-- A call takes its next step, or the database or a library raises something at it. -/
inductive Tick where
  | go (uuid : String) (now : Nat) (reply : ModelText)
  | fail (message : String)

def Request.call : Request → Call
  | .ingest documentId => .ingest ⟨documentId,0,.called⟩
  | .extractTables documentId => .extractTables ⟨documentId,0,.called⟩
  | .classify documentId useLlmFallback => .classify ⟨documentId,useLlmFallback,.called⟩
  | .overrideSection chunkId sectionName => .overrideSection ⟨chunkId,sectionName,.called⟩
  | .job request => .job request request.job.run

/-- A step that a call to one of the services takes on the database. -/
def onDb {C : Type} (wrap : C → Call) (x : Store) (r : Option (Database × C)) :
    Option (Store × Call) :=
  r.map (fun r => ({ x with db := r.1 },wrap r.2))

def failJob (message : String) : Program Store (Except PyError Answer) →
    Option (Program Store (Except PyError Answer))
  | .done _ => none
  | .act _ _ => some (.done (.error (.libraryError message)))

def advance (files : Files) : Tick → Store → Call → Option (Store × Call)
  | .go uuid now _, x, .ingest call => onDb .ingest x (ingestStep files uuid now x.db call)
  | .go uuid _ _, x, .extractTables call =>
      onDb .extractTables x (extractStep files uuid x.db call)
  | .go _ _ reply, x, .classify call => onDb .classify x (classifyStep reply x.db call)
  | .go _ _ _, x, .overrideSection call => onDb .overrideSection x (overrideStep x.db call)
  | .go _ _ _, x, .job request rest => (rest.step x).map (fun r => (r.1,.job request r.2))
  | .fail message, x, .ingest call => onDb .ingest x (ingestFail message x.db call)
  | .fail message, x, .extractTables call =>
      onDb .extractTables x (extractFail message x.db call)
  | .fail message, x, .classify call => (classifyFail message call).map (fun c => (x,.classify c))
  | .fail message, x, .overrideSection call =>
      (overrideFail message call).map (fun c => (x,.overrideSection c))
  | .fail message, x, .job request rest =>
      (failJob message rest).map (fun rest => (x,.job request rest))

/-- The routes, each call to them worked off in single steps on the one store. -/
def backend (files : Files) : Pool.Service Store Request Call Tick := ⟨Request.call,advance files⟩

/-- What a call can do in one step. -/
inductive CallMove (files : Files) (x : Store) : Call → Store → Call → Prop where
  | ingest {call call' : IngestCall} {db : Database}
      (h : IngestMove files x.db call db call') :
      CallMove files x (.ingest call) { x with db } (.ingest call')
  | extractTables {call call' : ExtractCall} {db : Database}
      (h : ExtractMove files x.db call db call') :
      CallMove files x (.extractTables call) { x with db } (.extractTables call')
  | classify (reply : ModelText) {call call' : ClassifyCall} {db : Database}
      (h : classifyStep reply x.db call = some (db,call')) :
      CallMove files x (.classify call) { x with db } (.classify call')
  | classifyFail (message : String) {call call' : ClassifyCall}
      (h : classifyFail message call = some call') :
      CallMove files x (.classify call) x (.classify call')
  | overrideSection {call call' : OverrideCall} {db : Database}
      (h : overrideStep x.db call = some (db,call')) :
      CallMove files x (.overrideSection call) { x with db } (.overrideSection call')
  | overrideFail (message : String) {call call' : OverrideCall}
      (h : overrideFail message call = some call') :
      CallMove files x (.overrideSection call) x (.overrideSection call')
  | job {request : JobRequest} {rest rest' : Program Store (Except PyError Answer)} {y : Store}
      (h : rest.step x = some (y,rest')) :
      CallMove files x (.job request rest) y (.job request rest')
  | jobFail {request : JobRequest} {rest : Program Store (Except PyError Answer)}
      (message : String) (h : ∃ effect next, rest = .act effect next) :
      CallMove files x (.job request rest) x
        (.job request (.done (.error (.libraryError message))))

theorem onDb_eq_some {C : Type} {wrap : C → Call} {x y : Store} {call : Call}
    {r : Option (Database × C)} : onDb wrap x r = some (y,call) ↔
      ∃ db c, r = some (db,c) ∧ { x with db } = y ∧ wrap c = call := by
  rw [onDb, Option.map_eq_some_iff]
  constructor
  · intro hparts
    obtain ⟨⟨db,c⟩,hr,hsame⟩ := hparts
    obtain ⟨hy,hcall⟩ := Prod.mk.inj hsame
    exact ⟨db,c,hr,hy,hcall⟩
  · intro hparts
    obtain ⟨db,c,hr,rfl,rfl⟩ := hparts
    exact ⟨(db,c),hr,rfl⟩

theorem advance_move {files : Files} {e : Tick} {x y : Store} {call call' : Call}
    (h : advance files e x call = some (y,call')) : CallMove files x call y call' := by
  cases e with
  | go uuid now reply =>
    cases call with
    | ingest call =>
      obtain ⟨db,c,hstep,rfl,rfl⟩ := onDb_eq_some.mp h
      exact .ingest (ingestStep_move hstep)
    | extractTables call =>
      obtain ⟨db,c,hstep,rfl,rfl⟩ := onDb_eq_some.mp h
      exact .extractTables (extractStep_move hstep)
    | classify call =>
      obtain ⟨db,c,hstep,rfl,rfl⟩ := onDb_eq_some.mp h
      exact .classify reply hstep
    | overrideSection call =>
      obtain ⟨db,c,hstep,rfl,rfl⟩ := onDb_eq_some.mp h
      exact .overrideSection hstep
    | job request rest =>
      obtain ⟨⟨z,rest'⟩,hstep,hsame⟩ := Option.map_eq_some_iff.mp h
      obtain ⟨rfl,rfl⟩ := Prod.mk.inj hsame
      exact .job hstep
  | fail message =>
    cases call with
    | ingest call =>
      obtain ⟨db,c,hstep,rfl,rfl⟩ := onDb_eq_some.mp h
      exact .ingest (ingestFail_move hstep)
    | extractTables call =>
      obtain ⟨db,c,hstep,rfl,rfl⟩ := onDb_eq_some.mp h
      exact .extractTables (extractFail_move hstep)
    | classify call =>
      obtain ⟨c,hstep,hsame⟩ := Option.map_eq_some_iff.mp h
      obtain ⟨rfl,rfl⟩ := Prod.mk.inj hsame
      exact .classifyFail message hstep
    | overrideSection call =>
      obtain ⟨c,hstep,hsame⟩ := Option.map_eq_some_iff.mp h
      obtain ⟨rfl,rfl⟩ := Prod.mk.inj hsame
      exact .overrideFail message hstep
    | job request rest =>
      cases rest with
      | done result => contradiction
      | act effect next =>
        obtain ⟨rfl,rfl⟩ := Prod.mk.inj (Option.some.inj h)
        exact .jobFail message ⟨effect,next,rfl⟩

end FinancialPdfReader
