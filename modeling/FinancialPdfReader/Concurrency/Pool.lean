import FinancialPdfReader.Concurrency.Traces
import Mathlib.Data.List.Forall2
import Mathlib.Logic.Relation

/- Calls to one service, worked off step by step over a state that they share, in any order. -/

namespace Pool

variable {σ ρ κ ε : Type}

/-- What a request becomes, and the next thing that its call does; `none` when it cannot go on. -/
structure Service (σ ρ κ ε : Type) where
  call : ρ → κ
  advance : ε → σ → κ → Option (σ × κ)

/-- The shared state, and the calls in the order in which their requests came in. -/
structure State (σ κ : Type) where
  shared : σ
  calls : List κ

inductive Event (ρ ε : Type) where
  | request (r : ρ)
  | advance (i : Nat) (e : ε)

/-- No request has come in yet. -/
def start (x : σ) : State σ κ := ⟨x,[]⟩

variable (svc : Service σ ρ κ ε)

def step (s : State σ κ) : Event ρ ε → Option (State σ κ)
  | .request r => some { s with calls := s.calls ++ [svc.call r] }
  | .advance i e => do
      let call ← s.calls[i]?
      let (shared,call) ← svc.advance e s.shared call
      pure ⟨shared,s.calls.set i call⟩

/-- The events one after the other; `none` when one of them cannot happen. -/
abbrev run : State σ κ → List (Event ρ ε) → Option (State σ κ) := Traces.run (step svc)

section Steps

variable {svc} {s t : State σ κ}

theorem step_advance_iff {i : Nat} {e : ε} : step svc s (.advance i e) = some t ↔
    ∃ call call', s.calls[i]? = some call ∧ svc.advance e s.shared call = some (t.shared,call') ∧
      t = ⟨t.shared,s.calls.set i call'⟩ := by
  constructor
  · intro h
    obtain ⟨call,hcall,h⟩ := Option.bind_eq_some_iff.mp h
    obtain ⟨⟨shared,call'⟩,hmove,h⟩ := Option.bind_eq_some_iff.mp h
    obtain rfl := Option.some.inj h
    exact ⟨call,call',hcall,hmove,rfl⟩
  · intro hparts
    obtain ⟨call,call',hcall,hmove,ht⟩ := hparts
    exact Option.bind_eq_some_iff.mpr ⟨call,hcall,
      Option.bind_eq_some_iff.mpr ⟨_,hmove,congrArg some ht.symm⟩⟩

/-- The call at its place moves, those before it and those after it are as they were. -/
theorem step_advance {i : Nat} {e : ε} (h : step svc s (.advance i e) = some t) :
    ∃ before call after call', s = ⟨s.shared,before ++ call :: after⟩ ∧ before.length = i ∧
      svc.advance e s.shared call = some (t.shared,call') ∧
      t = ⟨t.shared,before ++ call' :: after⟩ := by
  obtain ⟨call,call',hcall,hmove,ht⟩ := step_advance_iff.mp h
  obtain ⟨hi,rfl⟩ := List.getElem?_eq_some_iff.mp hcall
  have hparts : ∃ before after, s.calls = before ++ s.calls[i] :: after ∧ before.length = i ∧
      s.calls.set i call' = before ++ call' :: after := List.exists_of_set hi
  obtain ⟨before,after,hcalls,hlength,hset⟩ := hparts
  refine ⟨before,s.calls[i],after,call',?_,hlength,hmove,?_⟩
  · rw [← hcalls]
  · rw [← hset]
    exact ht

end Steps

section Outlines

/-- A proof outline: what holds of the shared state, what holds of each call beside it, and what
the steps of one call leave for all the others to rely on. -/
structure Outline (guarantee : σ → σ → Prop) (inv : σ → Prop) (sound : σ → κ → Prop) : Prop where
  call : ∀ x r, inv x → sound x (svc.call r)
  advance : ∀ e x c x' c', svc.advance e x c = some (x',c') → inv x → sound x c →
    inv x' ∧ sound x' c' ∧ guarantee x x'
  stable : ∀ x x' c, guarantee x x' → inv x → inv x' → sound x c → sound x' c

/-- The outline's assertions, about the state and about every call. -/
structure Holds (inv : σ → Prop) (sound : σ → κ → Prop) (s : State σ κ) : Prop where
  inv : inv s.shared
  sound : ∀ c ∈ s.calls, sound s.shared c

variable {svc} {guarantee : σ → σ → Prop} {inv : σ → Prop} {sound : σ → κ → Prop}
  {s t : State σ κ}

theorem holds_start {x : σ} (h : inv x) : Holds inv sound (start x : State σ κ) :=
  ⟨h,fun _ hc => absurd hc List.not_mem_nil⟩

theorem Outline.step (outline : Outline svc guarantee inv sound) (hs : Holds inv sound s)
    {e : Event ρ ε} (h : step svc s e = some t) :
    Holds inv sound t ∧ Relation.ReflGen guarantee s.shared t.shared := by
  cases e with
  | request r =>
    obtain rfl := Option.some.inj h
    refine ⟨⟨hs.inv,?_⟩,.refl⟩
    intro c hc
    rcases List.mem_append.mp hc with hc | hc
    · exact hs.sound c hc
    · rw [List.mem_singleton.mp hc]
      exact outline.call s.shared r hs.inv
  | advance i e =>
    obtain ⟨before,call,after,call',hs',-,hmove,ht⟩ := step_advance h
    have hcalls : s.calls = before ++ call :: after := congrArg State.calls hs'
    have hmine : sound s.shared call := hs.sound call (by simp [hcalls])
    obtain ⟨hinv,hcall',hgrows⟩ := outline.advance e _ call _ call' hmove hs.inv hmine
    refine ⟨⟨hinv,?_⟩,.single hgrows⟩
    intro c hc
    have hcalls' : t.calls = before ++ call' :: after := congrArg State.calls ht
    rw [hcalls', List.mem_append, List.mem_cons] at hc
    have hother : c ∈ s.calls → sound t.shared c := fun hmem =>
      outline.stable _ _ c hgrows hs.inv hinv (hs.sound c hmem)
    rcases hc with hc | rfl | hc
    · exact hother (by simp [hcalls, hc])
    · exact hcall'
    · exact hother (by simp [hcalls, hc])

/-- What an outline says holds in every state that is reached, and what the steps guarantee leads
from the first state to the last. -/
theorem Outline.run (outline : Outline svc guarantee inv sound) (hs : Holds inv sound s)
    {es : List (Event ρ ε)} (h : run svc s es = some t) :
    Holds inv sound t ∧ Relation.ReflTransGen guarantee s.shared t.shared := by
  refine Traces.run_invariant (P := fun u => Holds inv sound u ∧
    Relation.ReflTransGen guarantee s.shared u.shared) ?_ h ⟨hs,.refl⟩
  intro u e v hstep hparts
  obtain ⟨hu,hreach⟩ := hparts
  obtain ⟨hv,hgrows⟩ := outline.step hu hstep
  exact ⟨hv,hreach.trans hgrows.to_reflTransGen⟩

end Outlines

section Alone

/-- One call and nobody else, step after step. -/
abbrev alone : σ × κ → List ε → Option (σ × κ) := Traces.run (fun xc e => svc.advance e xc.1 xc.2)

/-- What brings a call to its end: until it is finished it can take a step that does not fail, and
each such step brings it nearer. -/
structure Nears (going : σ → κ → Prop) (finished failed : κ → Prop) (rank : κ → Nat) : Prop where
  sound : ∀ x c, going x c → ¬failed c
  next : ∀ x c, going x c → finished c ∨ ∃ e y d, svc.advance e x c = some (y,d) ∧ ¬failed d
  nearer : ∀ e x c y d, svc.advance e x c = some (y,d) → going x c → ¬failed d →
    going y d ∧ rank d < rank c
  stuck : ∀ e x c, failed c → svc.advance e x c = none

variable {svc}

/-- Among other calls that take no step, a call does what it does alone. -/
theorem run_alone (x : σ) (call : κ) (before after : List κ) (es : List ε) :
    run svc ⟨x,before ++ call :: after⟩ (es.map (.advance before.length)) =
      (alone svc (x,call) es).map (fun r => ⟨r.1,before ++ r.2 :: after⟩) := by
  induction es generalizing x call with
  | nil => rfl
  | cons e es ih =>
    have hset : ∀ call', (before ++ call :: after).set before.length call' =
        before ++ call' :: after := by simp
    have hstep : step svc ⟨x,before ++ call :: after⟩ (.advance before.length e) =
        (svc.advance e x call).map (fun r => ⟨r.1,before ++ r.2 :: after⟩) := by
      simp only [step, List.getElem?_append_right (Nat.le_refl _), Nat.sub_self,
        List.getElem?_cons_zero, Option.bind_eq_bind, Option.bind_some, hset]
      cases svc.advance e x call with
      | none => rfl
      | some r => rfl
    rw [List.map_cons, run, Traces.run, hstep, alone, Traces.run]
    cases svc.advance e x call with
    | none => rfl
    | some r => exact ih r.1 r.2

/-- A request that comes in now, and whose call is the only one to go on. -/
theorem run_request_alone (s : State σ κ) (r : ρ) (es : List ε) :
    run svc s (.request r :: es.map (.advance s.calls.length)) =
      (alone svc (s.shared,svc.call r) es).map (fun q => ⟨q.1,s.calls ++ [q.2]⟩) := by
  have hrequest : step svc s (.request r : Event ρ ε) =
    some ⟨s.shared,s.calls ++ svc.call r :: []⟩ := rfl
  exact (Traces.run_cons _ hrequest).trans (run_alone _ _ _ _ _)

section Nears

variable {going : σ → κ → Prop} {finished failed : κ → Prop} {rank : κ → Nat}
  (nears : Nears svc going finished failed rank) {x y : σ} {c d : κ} {es : List ε}
include nears

/-- As long as it has not failed, every step that a call has taken counts. -/
theorem Nears.alone (hc : going x c) (h : alone svc (x,c) es = some (y,d)) (hd : ¬failed d) :
    going y d ∧ es.length + rank d ≤ rank c := by
  induction es generalizing x c with
  | nil =>
    obtain ⟨rfl,rfl⟩ := Prod.mk.inj (Option.some.inj h)
    exact ⟨hc,by simp⟩
  | cons e es ih =>
    obtain ⟨⟨z,b⟩,hmove,hrest⟩ := Option.bind_eq_some_iff.mp h
    -- a call that had failed would not have gone on
    have hb : ¬failed b := by
      intro hfailed
      cases es with
      | nil =>
        obtain ⟨-,rfl⟩ := Prod.mk.inj (Option.some.inj hrest)
        exact hd hfailed
      | cons e' es =>
        obtain ⟨r,hmove',-⟩ := Option.bind_eq_some_iff.mp hrest
        exact absurd ((nears.stuck e' z b hfailed).symm.trans hmove') (Option.some_ne_none r).symm
    obtain ⟨hgoing,hless⟩ := nears.nearer e x c z b hmove hc hb
    obtain ⟨hend,hlength⟩ := ih hgoing hrest
    refine ⟨hend,?_⟩
    rw [List.length_cons]
    omega

/-- A call comes to its end if it always can come nearer. -/
theorem Nears.finishes (hc : going x c) :
    ∃ es y d, Pool.alone svc (x,c) es = some (y,d) ∧ going y d ∧ finished d := by
  generalize hrank : rank c = n
  induction n using Nat.strongRecOn generalizing x c with
  | ind n ih =>
    rcases nears.next x c hc with hdone | ⟨e,y,d,hmove,hd⟩
    · exact ⟨[],x,c,rfl,hc,hdone⟩
    · obtain ⟨hy,hless⟩ := nears.nearer e x c y d hmove hc hd
      obtain ⟨es,z,b,halone,hz,hdone⟩ := ih (rank d) (hrank ▸ hless) hy rfl
      exact ⟨e :: es,z,b,(Traces.run_cons es hmove).trans halone,hz,hdone⟩

/-- However the call of a new request has gone on by steps of its own, as long as it has not failed
it can be brought to its end, and takes no more steps than its rank. -/
theorem Nears.request_finishes {s t : State σ κ} {r : ρ} (hcall : going s.shared (svc.call r))
    (hrun : run svc s (.request r :: es.map (.advance s.calls.length)) = some t)
    (ht : ∀ c, t.calls[s.calls.length]? = some c → ¬failed c) :
    ∃ (more : List ε) (u : State σ κ) (b : κ),
      run svc t (more.map (.advance s.calls.length)) = some u ∧ u.calls = s.calls ++ [b] ∧
      going u.shared b ∧ finished b ∧ es.length + more.length ≤ rank (svc.call r) := by
  rw [run_request_alone, Option.map_eq_some_iff] at hrun
  obtain ⟨⟨y,d⟩,halone,rfl⟩ := hrun
  have hd : ¬failed d := ht d (by simp)
  obtain ⟨hy,hlength⟩ := nears.alone hcall halone hd
  obtain ⟨more,z,b,hmore,hz,hdone⟩ := nears.finishes hy
  obtain ⟨-,hlength'⟩ := nears.alone hy hmore (nears.sound z b hz)
  refine ⟨more,⟨z,s.calls ++ [b]⟩,b,?_,rfl,hz,hdone,by omega⟩
  rw [run_alone, hmore]
  rfl

end Nears

end Alone

end Pool
