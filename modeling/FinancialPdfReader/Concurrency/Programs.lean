import Mathlib.Control.Lawful
import Mathlib.Data.List.Forall2
import Mathlib.Order.Defs.Unbundled

/- Programs that act on a state they share with others, one action at a time, and what can be
said of them whatever the others do in between. -/

/-- An action reads the state or changes it in one go, and then the program goes on with what it
has found; an action that is refused does not happen. -/
inductive Program (σ α : Type) where
  | done (result : α)
  | act (effect : σ → Option σ) (next : σ → Program σ α)

namespace Program

variable {σ α β : Type}

def bind : Program σ α → (α → Program σ β) → Program σ β
  | .done a, k => k a
  | .act effect next, k => .act effect (fun x => (next x).bind k)

instance : Monad (Program σ) where
  pure := .done
  bind := bind

theorem bind_done (p : Program σ α) : p.bind .done = p := by
  induction p with
  | done a => rfl
  | act effect next ih =>
    rw [bind]
    congr 1
    funext x
    exact ih x

theorem bind_assoc {γ : Type} (p : Program σ α) (f : α → Program σ β) (g : β → Program σ γ) :
    (p.bind f).bind g = p.bind (fun a => (f a).bind g) := by
  induction p with
  | done a => rfl
  | act effect next ih =>
    rw [bind, bind, bind]
    congr 1
    funext x
    exact ih x

instance : LawfulMonad (Program σ) :=
  LawfulMonad.mk' (Program σ) bind_done (fun _ _ => rfl) bind_assoc

/-- What is found is looked at once. -/
def read (f : σ → α) : Program σ α := .act some (fun x => .done (f x))

def change (f : σ → Option σ) : Program σ Unit := .act f (fun _ => .done ())

/-- The next action of a program; `none` when it is done, or when the action is refused. -/
def step : Program σ α → σ → Option (σ × Program σ α)
  | .done _, _ => none
  | .act effect next, x => (effect x).map (fun y => (y,next x))

section Alone

/-- All actions in a row, with nobody else in between. -/
def exec : Program σ α → σ → Option (σ × α)
  | .done a, x => some (x,a)
  | .act effect next, x => (effect x).bind (fun y => (next x).exec y)

theorem exec_bind (p : Program σ α) (k : α → Program σ β) (x : σ) :
    (p >>= k).exec x = (p.exec x).bind (fun r => (k r.2).exec r.1) := by
  induction p generalizing x with
  | done a => rfl
  | act effect next ih =>
    change (effect x).bind (fun y => ((next x).bind k).exec y) =
      ((effect x).bind (fun y => (next x).exec y)).bind _
    rw [Option.bind_assoc]
    congr 1
    funext y
    exact ih x y

end Alone

section Meets

/-- Whatever the others do, as far as `rely` allows, every action keeps the invariant and is
itself one that the others can rely on, and a result is as it was promised. -/
def Meets (rely : σ → σ → Prop) (inv : σ → Prop) (promised : σ → α → Prop) :
    Program σ α → σ → Prop
  | .done a, x => ∀ y, rely x y → inv y → promised y a
  | .act effect next, x => ∀ y z, rely x y → inv y → effect y = some z →
      inv z ∧ rely y z ∧ (next y).Meets rely inv promised z

variable {rely : σ → σ → Prop} {inv : σ → Prop} {promised : σ → α → Prop}
  {promised' : σ → β → Prop} {p : Program σ α} {x y : σ}

/-- What the others do before it goes on is nothing to a program. -/
theorem Meets.stable [IsTrans σ rely] (h : p.Meets rely inv promised x) (hxy : rely x y) :
    p.Meets rely inv promised y := by
  cases p with
  | done a => exact fun z hz => h z (trans_of rely hxy hz)
  | act effect next => exact fun z z' hz => h z z' (trans_of rely hxy hz)

theorem Meets.result [Std.Refl rely] {a : α} (h : (done a).Meets rely inv promised x)
    (hx : inv x) : promised x a := h x (refl_of rely x) hx

theorem Meets.step [Std.Refl rely] {q : Program σ α} (h : p.Meets rely inv promised x)
    (hx : inv x) (hstep : p.step x = some (y,q)) :
    inv y ∧ rely x y ∧ q.Meets rely inv promised y := by
  cases p with
  | done a => contradiction
  | act effect next =>
    obtain ⟨z,hz,hparts⟩ := Option.map_eq_some_iff.mp hstep
    obtain ⟨rfl,rfl⟩ := Prod.mk.inj hparts
    exact h x z (refl_of rely x) hx hz

theorem Meets.bind [IsTrans σ rely] {k : α → Program σ β}
    (h : p.Meets rely inv promised x)
    (hk : ∀ a y, rely x y → (∀ z, rely y z → inv z → promised z a) →
      (k a).Meets rely inv promised' y) (hrefl : ∀ y, rely y y) :
    (p >>= k).Meets rely inv promised' x := by
  induction p generalizing x with
  | done a => exact hk a x (hrefl x) h
  | act effect next ih =>
    intro y z hxy hy hz
    obtain ⟨hinv,hyz,hnext⟩ := h y z hxy hy hz
    refine ⟨hinv,hyz,?_⟩
    refine ih y hnext ?_
    intro a w hzw hpromised
    exact hk a w (trans_of rely (trans_of rely hxy hyz) hzw) hpromised

end Meets

end Program

/-- A program that may raise an exception. -/
abbrev RaisingProgram (σ ε α : Type) := ExceptT ε (Program σ) α

namespace RaisingProgram

variable {σ ε α β : Type}

/-- What is found is looked at once, and may be an error. -/
def look (f : σ → Except ε α) : RaisingProgram σ ε α := ExceptT.mk (Program.read f)

/-- A change that is refused does not happen. -/
def save (f : σ → Except ε σ) : RaisingProgram σ ε Unit :=
  ExceptT.mk (.act (fun x => (f x).toOption) (fun _ => .done (.ok ())))

/-- What needs no look at the state. -/
def give (r : Except ε α) : RaisingProgram σ ε α := ExceptT.mk (.done r)

theorem toOption_eq_some {r : Except ε α} {a : α} : r.toOption = some a ↔ r = .ok a := by
  cases r with
  | error e => simp [Except.toOption]
  | ok b => simp [Except.toOption]

section Alone

variable {x y : σ}

theorem exec_bind (p : RaisingProgram σ ε α) (k : α → RaisingProgram σ ε β) (x : σ) :
    (p >>= k).run.exec x = (p.run.exec x).bind (fun r => match r.2 with
      | .ok a => (k a).run.exec r.1
      | .error e => some (r.1,.error e)) := by
  refine (Program.exec_bind p.run _ x).trans ?_
  congr 1
  funext r
  cases r.2 <;> rfl

/-- A result takes a result of each part. -/
theorem exec_bind_eq_ok {p : RaisingProgram σ ε α} {k : α → RaisingProgram σ ε β} {b : β} :
    (p >>= k).run.exec x = some (y,.ok b) ↔
      ∃ a z, p.run.exec x = some (z,.ok a) ∧ (k a).run.exec z = some (y,.ok b) := by
  rw [exec_bind, Option.bind_eq_some_iff]
  constructor
  · intro hparts
    obtain ⟨⟨z,r⟩,hp,hk⟩ := hparts
    cases r with
    | error e => cases hk
    | ok a => exact ⟨a,z,hp,hk⟩
  · intro hparts
    obtain ⟨a,z,hp,hk⟩ := hparts
    exact ⟨(z,.ok a),hp,hk⟩

@[simp] theorem exec_look_eq_ok {f : σ → Except ε α} {a : α} :
    (look f).run.exec x = some (y,.ok a) ↔ f x = .ok a ∧ x = y := by
  change some (x,f x) = some (y,Except.ok a) ↔ _
  rw [Option.some.injEq, Prod.mk.injEq, and_comm]

@[simp] theorem exec_give_eq_ok {r : Except ε α} {a : α} :
    (give r : RaisingProgram σ ε α).run.exec x = some (y,.ok a) ↔ r = .ok a ∧ x = y := by
  change some (x,r) = some (y,Except.ok a) ↔ _
  rw [Option.some.injEq, Prod.mk.injEq, and_comm]

@[simp] theorem exec_pure_eq_ok {a b : α} :
    (pure a : RaisingProgram σ ε α).run.exec x = some (y,.ok b) ↔ a = b ∧ x = y := by
  change some (x,Except.ok a) = some (y,Except.ok b) ↔ _
  simp [and_comm]

@[simp] theorem exec_save_eq_ok {f : σ → Except ε σ} {u : Unit} :
    (save f).run.exec x = some (y,.ok u) ↔ f x = .ok y := by
  change (f x).toOption.bind (fun z => some (z,Except.ok ())) = some (y,Except.ok u) ↔ _
  rw [← toOption_eq_some, Option.bind_eq_some_iff]
  simp

/-- A loop that only looks finds what a loop over the state as it is finds. -/
theorem exec_mapM_eq_ok {γ : Type} {f : α → RaisingProgram σ ε γ} {g : σ → α → Except ε γ}
    (hlook : ∀ a x y c, (f a).run.exec x = some (y,.ok c) ↔ g x a = .ok c ∧ x = y)
    {as : List α} {cs : List γ} :
    (as.mapM f).run.exec x = some (y,.ok cs) ↔ as.mapM (g x) = .ok cs ∧ x = y := by
  induction as generalizing cs with
  | nil =>
    rw [List.mapM_nil, List.mapM_nil, exec_pure_eq_ok]
    exact and_congr_left' ⟨congrArg Except.ok,Except.ok.inj⟩
  | cons a as ih =>
    rw [List.mapM_cons, List.mapM_cons]
    constructor
    · intro h
      obtain ⟨c,z,hfirst,h⟩ := exec_bind_eq_ok.mp h
      obtain ⟨hc,rfl⟩ := (hlook _ _ _ _).mp hfirst
      obtain ⟨rest,z,hothers,h⟩ := exec_bind_eq_ok.mp h
      obtain ⟨hdone,rfl⟩ := exec_pure_eq_ok.mp h
      obtain ⟨hrest,rfl⟩ := ih.mp hothers
      rw [hc, hrest, ← hdone]
      exact ⟨rfl,rfl⟩
    · intro hparts
      obtain ⟨h,rfl⟩ := hparts
      cases hc : g x a with
      | error e =>
        rw [hc] at h
        cases h
      | ok c =>
        cases hrest : as.mapM (g x) with
        | error e =>
          rw [hc, hrest] at h
          cases h
        | ok rest =>
          rw [hc, hrest] at h
          have hdone : c :: rest = cs := Except.ok.inj h
          exact exec_bind_eq_ok.mpr ⟨c,x,(hlook _ _ _ _).mpr ⟨hc,rfl⟩,exec_bind_eq_ok.mpr
            ⟨rest,x,ih.mpr ⟨hrest,rfl⟩,exec_pure_eq_ok.mpr ⟨hdone,rfl⟩⟩⟩

end Alone

section Meets

variable (rely : σ → σ → Prop) (inv : σ → Prop)

/-- Something is promised of a result only. -/
structure Meets (promised : σ → α → Prop) (p : RaisingProgram σ ε α) (x : σ) : Prop where
  run : p.run.Meets rely inv (fun y r => ∀ a, r = .ok a → promised y a) x

variable {rely inv} {promised : σ → α → Prop} {promised' : σ → β → Prop} {x : σ}

theorem meets_pure {a : α} (h : ∀ y, rely x y → inv y → promised y a) :
    Meets rely inv promised (pure a : RaisingProgram σ ε α) x := by
  refine ⟨fun y hxy hy b hb => ?_⟩
  obtain rfl := Except.ok.inj hb
  exact h y hxy hy

theorem meets_error {e : ε} :
    Meets rely inv promised (Program.done (.error e) : Program σ (Except ε α)) x :=
  ⟨fun _ _ _ _ hb => nomatch hb⟩

theorem meets_give_bind {r : Except ε α} {k : α → RaisingProgram σ ε β}
    (h : ∀ a, r = .ok a → Meets rely inv promised' (k a) x) :
    Meets rely inv promised' (give r >>= k) x := by
  cases r with
  | error e => exact meets_error
  | ok a => exact h a rfl

/-- What is found was there at some time since. -/
theorem meets_look_bind [Std.Refl rely] {f : σ → Except ε α} {k : α → RaisingProgram σ ε β}
    (h : ∀ a y, rely x y → inv y → f y = .ok a → Meets rely inv promised' (k a) y) :
    Meets rely inv promised' (look f >>= k) x := by
  refine ⟨fun y z hxy hy hz => ?_⟩
  obtain rfl := Option.some.inj hz
  refine ⟨hy,refl_of rely y,?_⟩
  change Program.Meets rely inv _ (Program.bind (.done (f y)) _) y
  rw [Program.bind]
  cases hfound : f y with
  | error e => exact meets_error.run
  | ok a => exact (h a y hxy hy hfound).run

theorem meets_save_bind {f : σ → Except ε σ} {k : Unit → RaisingProgram σ ε β}
    (h : ∀ y z, rely x y → inv y → f y = .ok z → inv z ∧ rely y z ∧
      Meets rely inv promised' (k ()) z) : Meets rely inv promised' (save f >>= k) x := by
  refine ⟨fun y z hxy hy hz => ?_⟩
  obtain ⟨hz,hyz,hk⟩ := h y z hxy hy (toOption_eq_some.mp hz)
  exact ⟨hz,hyz,hk.run⟩

theorem meets_bind [Std.Refl rely] [IsTrans σ rely] {p : RaisingProgram σ ε α}
    {k : α → RaisingProgram σ ε β} (h : Meets rely inv promised p x)
    (hk : ∀ a y, rely x y → (∀ z, rely y z → inv z → promised z a) →
      Meets rely inv promised' (k a) y) : Meets rely inv promised' (p >>= k) x := by
  refine ⟨Program.Meets.bind h.run ?_ (refl_of rely)⟩
  intro r y hxy hr
  cases r with
  | error e => exact meets_error.run
  | ok a => exact (hk a y hxy (fun z hyz hz => hr z hyz hz a rfl)).run

/-- A loop promises of all it finds what its turns promise of each. -/
theorem meets_mapM [Std.Refl rely] [IsTrans σ rely] {f : α → RaisingProgram σ ε β}
    {promised : σ → α → β → Prop} {as : List α}
    (hf : ∀ a ∈ as, ∀ y, rely x y → Meets rely inv (fun z b => promised z a b) (f a) y) :
    Meets rely inv (fun z bs => List.Forall₂ (promised z) as bs) (as.mapM f) x := by
  induction as generalizing x with
  | nil => exact meets_pure (fun _ _ _ => .nil)
  | cons a as ih =>
    rw [List.mapM_cons]
    refine meets_bind (hf a (by simp) x (refl_of rely x)) ?_
    intro b y hxy hb
    refine meets_bind (ih (fun a' ha' z hyz => hf a' (by simp [ha']) z
      (trans_of rely hxy hyz))) ?_
    intro bs z hyz hbs
    exact meets_pure (fun w hzw hw => .cons (hb w (trans_of rely hyz hzw) hw) (hbs w hzw hw))

end Meets

end RaisingProgram
