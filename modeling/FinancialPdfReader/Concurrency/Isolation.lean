import FinancialPdfReader.Concurrency.Pool
import FinancialPdfReader.Concurrency.Programs

/- What the calls that concern one part of a shared state do to it, with and without all others. -/

namespace Program

variable {σ α β : Type} (view : σ → σ)

/-- On a part of the state alone, the program does what it does on the whole. -/
def Insulated : Program σ α → Prop
  | .done _ => True
  | .act effect next => ∀ x y, effect x = some y →
      effect (view x) = some (view y) ∧ next (view x) = next x ∧ (next x).Insulated

/-- The program leaves the part as it is. -/
def Hidden : Program σ α → Prop
  | .done _ => True
  | .act effect next => ∀ x y, effect x = some y → view y = view x ∧ (next x).Hidden

variable {view} {p q : Program σ α} {x y : σ}

theorem Insulated.step (h : p.Insulated view) (hstep : p.step x = some (y,q)) :
    p.step (view x) = some (view y,q) ∧ q.Insulated view := by
  cases p with
  | done a => contradiction
  | act effect next =>
    obtain ⟨z,hz,hparts⟩ := Option.map_eq_some_iff.mp hstep
    obtain ⟨rfl,rfl⟩ := Prod.mk.inj hparts
    obtain ⟨hview,hnext,hrest⟩ := h x z hz
    refine ⟨?_,hrest⟩
    rw [Program.step, hview, hnext]
    rfl

theorem Hidden.step (h : p.Hidden view) (hstep : p.step x = some (y,q)) :
    view y = view x ∧ q.Hidden view := by
  cases p with
  | done a => contradiction
  | act effect next =>
    obtain ⟨z,hz,hparts⟩ := Option.map_eq_some_iff.mp hstep
    obtain ⟨rfl,rfl⟩ := Prod.mk.inj hparts
    exact h x z hz

theorem Hidden.bind {k : α → Program σ β} (h : p.Hidden view) (hk : ∀ a, (k a).Hidden view) :
    (p >>= k).Hidden view := by
  induction p with
  | done a => exact hk a
  | act effect next ih =>
    intro x y hxy
    obtain ⟨hview,hnext⟩ := h x y hxy
    exact ⟨hview,ih x hnext⟩

end Program

namespace RaisingProgram

variable {σ ε α β : Type} (view : σ → σ)

structure Insulated (p : RaisingProgram σ ε α) : Prop where
  run : p.run.Insulated view

structure Hidden (p : RaisingProgram σ ε α) : Prop where
  run : p.run.Hidden view

variable {view}

theorem insulated_pure {a : α} : Insulated view (pure a : RaisingProgram σ ε α) := ⟨trivial⟩

theorem insulated_give_bind {r : Except ε α} {k : α → RaisingProgram σ ε β}
    (h : ∀ a, r = .ok a → Insulated view (k a)) : Insulated view (give r >>= k) := by
  cases r with
  | error e => exact ⟨trivial⟩
  | ok a => exact h a rfl

/-- What is looked at is in the part. -/
theorem insulated_look_bind {f : σ → Except ε α} {k : α → RaisingProgram σ ε β}
    (hf : ∀ x, f (view x) = f x) (h : ∀ x a, f x = .ok a → Insulated view (k a)) :
    Insulated view (look f >>= k) := by
  refine ⟨fun x y hxy => ?_⟩
  obtain rfl := Option.some.inj hxy
  refine ⟨rfl,?_,?_⟩
  · change Program.bind (.done (f (view x))) _ = Program.bind (.done (f x)) _
    rw [hf]
  · change Program.Insulated view (Program.bind (.done (f x)) _)
    rw [Program.bind]
    cases hfound : f x with
    | error e => trivial
    | ok a => exact (h x a hfound).run

theorem insulated_save_bind {f : σ → Except ε σ} {k : Unit → RaisingProgram σ ε β}
    (hf : ∀ x y, f x = .ok y → f (view x) = .ok (view y)) (h : Insulated view (k ())) :
    Insulated view (save f >>= k) := by
  refine ⟨fun x y hxy => ⟨?_,rfl,h.run⟩⟩
  exact toOption_eq_some.mpr (hf x y (toOption_eq_some.mp hxy))

theorem hidden_pure {a : α} : Hidden view (pure a : RaisingProgram σ ε α) := ⟨trivial⟩

theorem hidden_give_bind {r : Except ε α} {k : α → RaisingProgram σ ε β}
    (h : ∀ a, r = .ok a → Hidden view (k a)) : Hidden view (give r >>= k) := by
  cases r with
  | error e => exact ⟨trivial⟩
  | ok a => exact h a rfl

theorem hidden_look_bind {f : σ → Except ε α} {k : α → RaisingProgram σ ε β}
    (h : ∀ x a, f x = .ok a → Hidden view (k a)) : Hidden view (look f >>= k) := by
  refine ⟨fun x y hxy => ?_⟩
  obtain rfl := Option.some.inj hxy
  refine ⟨rfl,?_⟩
  change Program.Hidden view (Program.bind (.done (f x)) _)
  rw [Program.bind]
  cases hfound : f x with
  | error e => trivial
  | ok a => exact (h x a hfound).run

/-- What is saved is not in the part. -/
theorem hidden_save_bind {f : σ → Except ε σ} {k : Unit → RaisingProgram σ ε β}
    (hf : ∀ x y, f x = .ok y → view y = view x) (h : Hidden view (k ())) :
    Hidden view (save f >>= k) :=
  ⟨fun x y hxy => ⟨hf x y (toOption_eq_some.mp hxy),h.run⟩⟩

theorem hidden_bind {p : RaisingProgram σ ε α} {k : α → RaisingProgram σ ε β}
    (h : Hidden view p) (hk : ∀ a, Hidden view (k a)) : Hidden view (p >>= k) := by
  refine ⟨Program.Hidden.bind h.run (fun r => ?_)⟩
  cases r with
  | error e => trivial
  | ok a => exact (hk a).run

theorem hidden_mapM {f : α → RaisingProgram σ ε β} (hf : ∀ a, Hidden view (f a)) (as : List α) :
    Hidden view (as.mapM f) := by
  induction as with
  | nil => exact hidden_pure
  | cons a as ih =>
    rw [List.mapM_cons]
    exact hidden_bind (hf a) (fun b => hidden_bind ih (fun bs => hidden_pure))

end RaisingProgram

namespace Pool

variable {σ ρ κ ε : Type} (svc : Service σ ρ κ ε) (about : σ → κ → Prop) (view : σ → σ)

/-- `view` is the part of the state that some calls are about. They do on it what they do on the
whole state, and all others leave it as it is. -/
structure Projection (guarantee : σ → σ → Prop) (inv : σ → Prop) (sound : σ → κ → Prop) :
    Prop where
  others : ∀ e x c x' c', svc.advance e x c = some (x',c') → inv x → sound x c → ¬ about x c →
    view x' = view x ∧ ¬ about x' c'
  own : ∀ e x c x' c', svc.advance e x c = some (x',c') → inv x → sound x c → about x c →
    svc.advance e (view x) c = some (view x',c')
  stays : ∀ x x' c, guarantee x x' → inv x → inv x' → sound x c → about x' c → about x c

/-- A state and its part, with the calls that are about it at the same places. -/
structure Projected (s t : State σ κ) : Prop where
  shared : t.shared = view s.shared
  length : t.calls.length = s.calls.length
  calls : ∀ (i : Nat) (c : κ), s.calls[i]? = some c → about s.shared c → t.calls[i]? = some c

section Steps

variable {svc about view} {guarantee : σ → σ → Prop} {inv : σ → Prop} {sound : σ → κ → Prop}
  {s s' t : State σ κ}

theorem Projected.request (h : Projected about view s t) (r : ρ) :
    Projected about view { s with calls := s.calls ++ [svc.call r] }
      { t with calls := t.calls ++ [svc.call r] } := by
  refine ⟨h.shared,?_,?_⟩
  · rw [List.length_append, List.length_append, h.length]
  · intro i c hc habout
    by_cases hi : i < s.calls.length
    · rw [List.getElem?_append_left hi] at hc
      rw [List.getElem?_append_left (h.length.symm ▸ hi)]
      exact h.calls i c hc habout
    · rw [List.getElem?_append_right (Nat.le_of_not_lt hi)] at hc
      rw [List.getElem?_append_right (h.length.symm ▸ Nat.le_of_not_lt hi), h.length]
      exact hc

/-- A call that is about something else is not missed. -/
theorem Projection.step_others (projection : Projection svc about view guarantee inv sound)
    (outline : Outline svc guarantee inv sound) (hs : Holds inv sound s)
    (hst : Projected about view s t) {i : Nat} {e : ε} {c : κ}
    (hstep : step svc s (.advance i e) = some s') (hc : s.calls[i]? = some c)
    (hother : ¬ about s.shared c) : Projected about view s' t := by
  obtain ⟨call,call',hcall,hmove,hs'⟩ := step_advance_iff.mp hstep
  obtain rfl := Option.some.inj (hc.symm.trans hcall)
  have hsound := hs.sound c (List.mem_of_getElem? hc)
  obtain ⟨hview,hother'⟩ := projection.others e _ c _ call' hmove hs.inv hsound hother
  obtain ⟨hinv,-,hgrows⟩ := outline.advance e _ c _ call' hmove hs.inv hsound
  have hcalls : s'.calls = s.calls.set i call' := congrArg State.calls hs'
  refine ⟨hst.shared.trans hview.symm,by rw [hcalls, List.length_set, hst.length],?_⟩
  intro j d hd habout
  rw [hcalls, List.getElem?_set] at hd
  split_ifs at hd with hij hlt
  · rw [← Option.some.inj hd] at habout
    exact absurd habout hother'
  · have hd' := hs.sound d (List.mem_of_getElem? hd)
    exact hst.calls j d hd (projection.stays _ _ d hgrows hs.inv hinv hd' habout)

/-- A call that is about the part takes the same step on it. -/
theorem Projection.step_own (projection : Projection svc about view guarantee inv sound)
    (outline : Outline svc guarantee inv sound) (hs : Holds inv sound s)
    (hst : Projected about view s t) {i : Nat} {e : ε} {c : κ}
    (hstep : step svc s (.advance i e) = some s') (hc : s.calls[i]? = some c)
    (howns : about s.shared c) :
    ∃ t', step svc t (.advance i e) = some t' ∧ Projected about view s' t' := by
  obtain ⟨call,call',hcall,hmove,hs'⟩ := step_advance_iff.mp hstep
  obtain rfl := Option.some.inj (hc.symm.trans hcall)
  have hsound := hs.sound c (List.mem_of_getElem? hc)
  have htc := hst.calls i c hc howns
  have hmove' := projection.own e _ c _ call' hmove hs.inv hsound howns
  rw [← hst.shared] at hmove'
  obtain ⟨hinv,-,hgrows⟩ := outline.advance e _ c _ call' hmove hs.inv hsound
  have hcalls : s'.calls = s.calls.set i call' := congrArg State.calls hs'
  refine ⟨⟨_,t.calls.set i call'⟩,step_advance_iff.mpr ⟨c,call',htc,hmove',rfl⟩,rfl,?_,?_⟩
  · rw [hcalls, List.length_set, List.length_set, hst.length]
  · intro j d hd habout
    rw [hcalls, List.getElem?_set] at hd
    rw [List.getElem?_set]
    split_ifs at hd with hij hlt
    · rw [if_pos hij, if_pos (hst.length.symm ▸ hlt)]
      exact hd
    · rw [if_neg hij]
      have hd' := hs.sound d (List.mem_of_getElem? hd)
      exact hst.calls j d hd (projection.stays _ _ d hgrows hs.inv hinv hd' habout)

end Steps

section Restrict

variable [∀ x c, Decidable (about x c)]

/-- Every request comes in, but only the calls that are about the part are worked on. -/
def restrict : State σ κ → List (Event ρ ε) → List (Event ρ ε)
  | _, [] => []
  | s, e :: es =>
      let rest := (step svc s e).elim [] (restrict · es)
      match e with
      | .request r => .request r :: rest
      | .advance i e =>
          if s.calls[i]?.any (fun c => about s.shared c) then .advance i e :: rest else rest

variable {svc about view} {guarantee : σ → σ → Prop} {inv : σ → Prop} {sound : σ → κ → Prop}
  {s s' t : State σ κ}

/-- What a run makes of the part is what the calls that are about it make of the part alone, if no
other call takes a step. -/
theorem Projection.run (projection : Projection svc about view guarantee inv sound)
    (outline : Outline svc guarantee inv sound) {es : List (Event ρ ε)} (hs : Holds inv sound s)
    (hst : Projected about view s t) (hrun : run svc s es = some s') :
    ∃ t', Pool.run svc t (restrict svc about s es) = some t' ∧ Projected about view s' t' := by
  induction es generalizing s t with
  | nil =>
    obtain rfl := Option.some.inj hrun
    exact ⟨t,rfl,hst⟩
  | cons e es ih =>
    obtain ⟨u,hstep,hrest⟩ := Option.bind_eq_some_iff.mp hrun
    have hu := (outline.step hs hstep).1
    cases e with
    | request r =>
      obtain rfl := Option.some.inj hstep
      have hstep' : Pool.step svc t (.request r : Event ρ ε) =
        some { t with calls := t.calls ++ [svc.call r] } := rfl
      obtain ⟨t',hrun',hend⟩ := ih hu (hst.request r) hrest
      exact ⟨t',(Traces.run_cons _ hstep').trans hrun',hend⟩
    | advance i e =>
      obtain ⟨c,c',hc,-⟩ := step_advance_iff.mp hstep
      rw [restrict, hstep, hc, Option.any_some]
      by_cases howns : about s.shared c
      · rw [if_pos (decide_eq_true howns)]
        obtain ⟨v,hstep',hv⟩ := projection.step_own outline hs hst hstep hc howns
        obtain ⟨t',hrun',hend⟩ := ih hu hv hrest
        exact ⟨t',(Traces.run_cons _ hstep').trans hrun',hend⟩
      · rw [if_neg (by simpa using howns)]
        exact ih hu (projection.step_others outline hs hst hstep hc howns) hrest

end Restrict

end Pool
