import Mathlib.Data.List.Basic

/- Runs of a machine that takes one event after the other, and what holds along them. -/

namespace Traces

variable {σ ε : Type} (step : σ → ε → Option σ)

/-- The events one after the other; `none` when one of them cannot happen. -/
def run : σ → List ε → Option σ
  | s, [] => some s
  | s, e :: es => (step s e).bind (run · es)

/-- In every state that is reached along the events. -/
def Always (P : σ → Prop) (s : σ) (es : List ε) : Prop :=
  ∀ before after t, es = before ++ after → run step s before = some t → P t

/-- Of every event, in the state in which it happens. -/
def Each (G : σ → ε → Prop) (s : σ) (es : List ε) : Prop :=
  ∀ before e after t u, es = before ++ e :: after → run step s before = some t →
    step t e = some u → G t e

variable {step} {P : σ → Prop} {G : σ → ε → Prop}

theorem run_append (s : σ) (es es' : List ε) :
    run step s (es ++ es') = (run step s es).bind (run step · es') := by
  induction es generalizing s with
  | nil => rfl
  | cons e es ih =>
    rw [List.cons_append, run, run, Option.bind_assoc]
    congr 1
    funext t
    exact ih t

theorem run_cons {s t : σ} {e : ε} (es : List ε) (h : step s e = some t) :
    run step s (e :: es) = run step t es := by
  rw [run, h]
  rfl

theorem always_nil {s : σ} : Always step P s [] ↔ P s := by
  constructor
  · intro h
    exact h [] [] s rfl rfl
  · intro hs before after t hsplit hrun
    obtain ⟨rfl,-⟩ := List.append_eq_nil_iff.mp hsplit.symm
    obtain rfl := Option.some.inj hrun
    exact hs

theorem always_cons {s : σ} {e : ε} {es : List ε} :
    Always step P s (e :: es) ↔ P s ∧ ∀ t, step s e = some t → Always step P t es := by
  constructor
  · intro h
    refine ⟨h [] (e :: es) s rfl rfl,?_⟩
    intro t ht before after u hsplit hrun
    apply h (e :: before) after u
    · rw [hsplit, List.cons_append]
    · rw [run_cons before ht]
      exact hrun
  · intro hparts before after u hsplit hrun
    obtain ⟨hs,hrest⟩ := hparts
    cases before with
    | nil =>
      obtain rfl := Option.some.inj hrun
      exact hs
    | cons first before =>
      obtain ⟨rfl,hes⟩ := List.cons.inj hsplit
      obtain ⟨t,ht,hrun⟩ := Option.bind_eq_some_iff.mp hrun
      exact hrest t ht before after u hes hrun

theorem each_nil {s : σ} : Each step G s [] := by
  intro before e after t u hsplit
  simp at hsplit

theorem each_cons {s : σ} {e : ε} {es : List ε} :
    Each step G s (e :: es) ↔ ∀ t, step s e = some t → G s e ∧ Each step G t es := by
  constructor
  · intro h t ht
    refine ⟨h [] e es s t rfl rfl ht,?_⟩
    intro before e' after u v hsplit hrun hu
    apply h (e :: before) e' after u v
    · rw [hsplit, List.cons_append]
    · rw [run_cons before ht]
      exact hrun
    · exact hu
  · intro h before e' after u v hsplit hrun hu
    cases before with
    | nil =>
      obtain rfl := Option.some.inj hrun
      obtain ⟨rfl,rfl⟩ := List.cons.inj hsplit
      exact (h v hu).1
    | cons first before =>
      obtain ⟨rfl,hes⟩ := List.cons.inj hsplit
      obtain ⟨t,ht,hrun⟩ := Option.bind_eq_some_iff.mp hrun
      exact (h t ht).2 before e' after u v hes hrun hu

/-- What every step keeps, every run keeps. -/
theorem run_invariant (hstep : ∀ s e t, step s e = some t → P s → P t) {s t : σ} {es : List ε}
    (hrun : run step s es = some t) (hs : P s) : P t := by
  induction es generalizing s with
  | nil =>
    obtain rfl := Option.some.inj hrun
    exact hs
  | cons e es ih =>
    obtain ⟨u,hu,hrest⟩ := Option.bind_eq_some_iff.mp hrun
    exact ih hrest (hstep s e u hu hs)

variable {I : σ → Prop}

/-- Where a step keeps a property exactly when it is a good one, a run keeps it throughout
exactly when all of its steps are good. -/
theorem always_iff_each (hinv : ∀ s e t, step s e = some t → I s → I t)
    (hstep : ∀ s e t, step s e = some t → I s → P s → (P t ↔ G s e)) {s : σ} {es : List ε}
    (hI : I s) (hP : P s) : Always step P s es ↔ Each step G s es := by
  induction es generalizing s with
  | nil => exact ⟨fun _ => each_nil,fun _ => always_nil.mpr hP⟩
  | cons e es ih =>
    rw [always_cons, each_cons]
    constructor
    · intro h t ht
      have hPt : P t := by
        cases es with
        | nil => exact always_nil.mp (h.2 t ht)
        | cons e' es => exact (always_cons.mp (h.2 t ht)).1
      exact ⟨(hstep s e t ht hI hP).mp hPt,(ih (hinv s e t ht hI) hPt).mp (h.2 t ht)⟩
    · intro h
      refine ⟨hP,?_⟩
      intro t ht
      obtain ⟨hG,hrest⟩ := h t ht
      have hPt : P t := (hstep s e t ht hI hP).mpr hG
      exact (ih (hinv s e t ht hI) hPt).mpr hrest

end Traces
