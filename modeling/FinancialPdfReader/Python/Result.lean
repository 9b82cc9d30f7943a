import Mathlib.Data.List.Forall2

namespace Py

/-- The exceptions a run can raise; those the interpreter raises itself carry no message. -/
inductive PyError where
  | typeError
  | attributeError
  | keyError
  | indexError
  | valueError (message : String)
  | runtimeError (message : String)
  | fileNotFoundError (message : String)
  | validationError (field : String)
  | notUniqueError (field : String)
  | libraryError (message : String)
  deriving DecidableEq, Repr

section Bind

variable {ε α β γ : Type}

/-- A computation in sequence succeeds exactly when both of its parts do. -/
theorem bind_eq_ok {x : Except ε α} {f : α → Except ε β} {b : β} :
    x >>= f = .ok b ↔ ∃ a, x = .ok a ∧ f a = .ok b := by
  cases x with
  | error e => simp [bind, Except.bind]
  | ok a => simp [bind, Except.bind]

@[simp] theorem ok_bind (a : α) (f : α → Except ε β) : (Except.ok a >>= f) = f a := rfl

@[simp] theorem error_bind (e : ε) (f : α → Except ε β) :
    (Except.error e >>= f) = .error e := rfl

@[simp] theorem pure_eq_ok (a : α) : (pure a : Except ε α) = .ok a := rfl

theorem map_eq_ok {x : Except ε α} {f : α → β} {b : β} :
    f <$> x = .ok b ↔ ∃ a, x = .ok a ∧ f a = b := by
  cases x with
  | error e => simp [Functor.map, Except.map]
  | ok a => simp [Functor.map, Except.map]

theorem map_bind_eq_ok {x : Except ε α} {f : α → Except ε β} {g : β → γ} {c : γ} :
    g <$> (x >>= f) = .ok c ↔ ∃ a b, x = .ok a ∧ f a = .ok b ∧ g b = c := by
  rw [map_eq_ok]
  constructor
  · intro hparts
    obtain ⟨b,h,hc⟩ := hparts
    obtain ⟨a,ha,hb⟩ := bind_eq_ok.mp h
    exact ⟨a,b,ha,hb,hc⟩
  · intro hparts
    obtain ⟨a,b,ha,hb,hc⟩ := hparts
    exact ⟨b,bind_eq_ok.mpr ⟨a,ha,hb⟩,hc⟩

/-- A loop that fills a list succeeds exactly when every turn does, in order. -/
theorem mapM_eq_ok {f : α → Except ε β} {xs : List α} {ys : List β} :
    xs.mapM f = .ok ys ↔ List.Forall₂ (fun x y => f x = .ok y) xs ys := by
  induction xs generalizing ys with
  | nil => simp [eq_comm]
  | cons x xs ih =>
    rw [List.mapM_cons, bind_eq_ok]
    constructor
    · intro hparts
      obtain ⟨y,hy,h⟩ := hparts
      obtain ⟨ys',hys,hok⟩ := bind_eq_ok.mp h
      cases hok
      exact List.Forall₂.cons hy (ih.mp hys)
    · intro h
      cases h with
      | cons hy hys => exact ⟨_,hy,bind_eq_ok.mpr ⟨_,ih.mpr hys,rfl⟩⟩

/-- Where a function succeeds on the values with a property, a list of them is mapped. -/
theorem mapM_eq_ok_map {f : α → Except ε β} {g : α → β} {P : α → Prop} {xs : List α} {ys : List β}
    (h : ∀ x y, f x = .ok y ↔ P x ∧ y = g x) :
    xs.mapM f = .ok ys ↔ (∀ x ∈ xs, P x) ∧ ys = xs.map g := by
  rw [mapM_eq_ok]
  constructor
  · intro hall
    have hboth : List.Forall₂ (fun x y => P x ∧ y = g x) xs ys :=
      hall.imp (fun x y hxy => (h x y).mp hxy)
    obtain ⟨hP,hsame⟩ := (List.forall₂_and_left _ _).mp hboth
    have hmap : List.Forall₂ (· = ·) (xs.map g) ys :=
      List.forall₂_map_left_iff.mpr (hsame.imp (fun _ _ hy => hy.symm))
    rw [List.forall₂_eq_eq_eq] at hmap
    exact ⟨hP,hmap.symm⟩
  · intro hparts
    obtain ⟨hP,rfl⟩ := hparts
    rw [List.forall₂_map_right_iff, List.forall₂_same]
    exact fun x hx => (h x (g x)).mpr ⟨hP x hx,rfl⟩

theorem exists_ok_of_isOk {x : Except ε α} (h : x.isOk = true) : ∃ a, x = .ok a := by
  cases x with
  | error e => contradiction
  | ok a => exact ⟨a,rfl⟩

theorem mapM_length {f : α → Except ε β} {xs : List α} {ys : List β}
    (h : xs.mapM f = .ok ys) : ys.length = xs.length :=
  (mapM_eq_ok.mp h).length_eq.symm

theorem mapM_mem {f : α → Except ε β} {xs : List α} {ys : List β} (h : xs.mapM f = .ok ys)
    {y : β} (hy : y ∈ ys) : ∃ x ∈ xs, f x = .ok y := by
  have hall := mapM_eq_ok.mp h
  induction hall with
  | nil => simp at hy
  | @cons x z xs ys hz _ ih =>
    rcases List.mem_cons.mp hy with rfl | hy
    · exact ⟨x,by simp,hz⟩
    · obtain ⟨w,hw,hf⟩ := ih (mapM_eq_ok.mpr ‹_›) hy
      exact ⟨w,by simp [hw],hf⟩

theorem mapM_mem_left {f : α → Except ε β} {xs : List α} {ys : List β} (h : xs.mapM f = .ok ys)
    {x : α} (hx : x ∈ xs) : ∃ y ∈ ys, f x = .ok y := by
  have hall := mapM_eq_ok.mp h
  induction hall with
  | nil => simp at hx
  | @cons z y xs ys hz _ ih =>
    rcases List.mem_cons.mp hx with rfl | hx
    · exact ⟨y,by simp,hz⟩
    · obtain ⟨w,hw,hf⟩ := ih (mapM_eq_ok.mpr ‹_›) hx
      exact ⟨w,by simp [hw],hf⟩

/-- A loop over turns that all succeed succeeds. -/
theorem mapM_of_forall {f : α → Except ε β} {xs : List α} (h : ∀ x ∈ xs, ∃ y, f x = .ok y) :
    ∃ ys, xs.mapM f = .ok ys := by
  induction xs with
  | nil => exact ⟨[],rfl⟩
  | cons x xs ih =>
    obtain ⟨y,hy⟩ := h x (by simp)
    obtain ⟨ys,hys⟩ := ih (fun z hz => h z (by simp [hz]))
    exact ⟨y :: ys,by rw [List.mapM_cons, hy, ok_bind, hys]; rfl⟩

/-- A loop succeeds exactly when each of its turns does. -/
theorem mapM_isOk_iff {f : α → Except ε β} {xs : List α} :
    (∃ ys, xs.mapM f = .ok ys) ↔ ∀ x ∈ xs, ∃ y, f x = .ok y := by
  constructor
  · intro hparts x hx
    obtain ⟨ys,h⟩ := hparts
    obtain ⟨y,-,hy⟩ := mapM_mem_left h hx
    exact ⟨y,hy⟩
  · exact mapM_of_forall

theorem mapM_eq_map {f : α → Except ε β} {g : α → β} {xs : List α}
    (h : ∀ x ∈ xs, f x = .ok (g x)) : xs.mapM f = .ok (xs.map g) := by
  induction xs with
  | nil => rfl
  | cons x xs ih =>
    rw [List.mapM_cons, h x (by simp), ok_bind, ih (fun z hz => h z (by simp [hz]))]
    rfl

/-- Of what a loop fills, the part that a test takes is made of the part that the corresponding
test takes of what it ran over. -/
theorem mapM_filter {f : α → Except ε β} {p : α → Bool} {q : β → Bool} {xs : List α}
    {ys : List β} (h : xs.mapM f = .ok ys) (hpq : ∀ x y, f x = .ok y → p x = q y) :
    (xs.filter p).mapM f = .ok (ys.filter q) := by
  rw [mapM_eq_ok] at h ⊢
  induction h with
  | nil => exact .nil
  | @cons x y xs ys hxy _ ih =>
    rw [List.filter_cons, List.filter_cons, hpq x y hxy]
    cases q y with
    | true => exact .cons hxy ih
    | false => exact ih

/-- A loop whose turns succeed or fail whatever was gathered before succeeds exactly when each
of its turns does. -/
theorem foldlM_isOk_iff {f : β → α → Except ε β} {P : α → Prop}
    (h : ∀ b x, (∃ b', f b x = .ok b') ↔ P x) {xs : List α} {start : β} :
    (∃ b, xs.foldlM f start = .ok b) ↔ ∀ x ∈ xs, P x := by
  induction xs generalizing start with
  | nil => simp
  | cons x xs ih =>
    rw [List.forall_mem_cons, ← h start x]
    constructor
    · intro hparts
      obtain ⟨b,hrun⟩ := hparts
      obtain ⟨next,hnext,hrest⟩ := bind_eq_ok.mp hrun
      exact ⟨⟨next,hnext⟩,ih.mp ⟨b,hrest⟩⟩
    · intro hparts
      obtain ⟨⟨next,hnext⟩,hrest⟩ := hparts
      obtain ⟨b,hrun⟩ := ih.mpr hrest
      exact ⟨b,bind_eq_ok.mpr ⟨next,hnext,hrun⟩⟩

/-- Whatever a computation raises has a property. -/
def Raises (P : ε → Prop) (x : Except ε α) : Prop := ∀ e, x = .error e → P e

theorem Raises.imp {P Q : ε → Prop} {x : Except ε α} (h : Raises P x) (hPQ : ∀ e, P e → Q e) :
    Raises Q x := fun e he => hPQ e (h e he)

theorem Raises.bind {P : ε → Prop} {x : Except ε α} {f : α → Except ε β} (h : Raises P x)
    (hf : ∀ a, Raises P (f a)) : Raises P (x >>= f) := by
  intro e he
  cases x with
  | error e' =>
    rw [error_bind] at he
    exact h e (congrArg Except.error (Except.error.inj he))
  | ok a => exact hf a e he

theorem raises_ok {P : ε → Prop} (a : α) : Raises P (Except.ok a : Except ε α) := by
  intro e he
  contradiction

theorem raises_mapM {P : ε → Prop} {f : α → Except ε β} (hf : ∀ x, Raises P (f x)) (xs : List α) :
    Raises P (xs.mapM f) := by
  induction xs with
  | nil => exact raises_ok []
  | cons x xs ih =>
    rw [List.mapM_cons]
    exact (hf x).bind (fun y => ih.bind (fun ys => raises_ok (y :: ys)))

end Bind

/-- A correspondence may use that what it relates stands in the first list. -/
theorem forall₂_of_mem {α β : Type} {R S : α → β → Prop} {xs : List α} {ys : List β}
    (h : List.Forall₂ R xs ys) (hRS : ∀ x y, x ∈ xs → R x y → S x y) : List.Forall₂ S xs ys := by
  induction h with
  | nil => exact .nil
  | cons hxy _ ih =>
    exact .cons (hRS _ _ (by simp) hxy) (ih (fun x y hx => hRS x y (by simp [hx])))

theorem forall₂_mem_right {α β : Type} {R : α → β → Prop} {xs : List α} {ys : List β}
    (h : List.Forall₂ R xs ys) {y : β} (hy : y ∈ ys) : ∃ x ∈ xs, R x y := by
  induction h with
  | nil => contradiction
  | @cons x _ xs _ hxy _ ih =>
    rcases List.mem_cons.mp hy with rfl | hy
    · exact ⟨x,by simp,hxy⟩
    · obtain ⟨x',hx',hR⟩ := ih hy
      exact ⟨x',by simp [hx'],hR⟩

theorem forall₂_comp {α β γ : Type} {R : α → β → Prop} {S : β → γ → Prop} {xs : List α}
    {ys : List β} {zs : List γ} (h : List.Forall₂ R xs ys) (h' : List.Forall₂ S ys zs) :
    List.Forall₂ (fun x z => ∃ y, R x y ∧ S y z) xs zs := by
  induction h generalizing zs with
  | nil => cases h'; exact .nil
  | cons hxy _ ih =>
    cases h' with
    | cons hyz htail => exact .cons ⟨_,hxy,hyz⟩ (ih htail)

/-- Along two lists that correspond, another correspondence holds exactly when what it says of
the first list does. -/
theorem forall₂_iff_of_forall₂ {α β : Type} {R S : α → β → Prop} {P : α → Prop} {xs : List α}
    {ys : List β} (h : List.Forall₂ R xs ys) (hS : ∀ x y, R x y → (S x y ↔ P x)) :
    List.Forall₂ S xs ys ↔ ∀ x ∈ xs, P x := by
  induction h with
  | nil => simp
  | cons hxy _ ih => rw [List.forall₂_cons, List.forall_mem_cons, hS _ _ hxy, ih]

/-- Along two lists that correspond, a property holds of all of one exactly when the property
that corresponds to it holds of all of the other. -/
theorem forall_mem_iff_of_forall₂ {α β : Type} {R : α → β → Prop} {P : α → Prop} {Q : β → Prop}
    {xs : List α} {ys : List β} (h : List.Forall₂ R xs ys) (hPQ : ∀ x y, R x y → (P x ↔ Q y)) :
    (∀ x ∈ xs, P x) ↔ ∀ y ∈ ys, Q y := by
  induction h with
  | nil => simp
  | cons hxy _ ih => rw [List.forall_mem_cons, List.forall_mem_cons, hPQ _ _ hxy, ih]

/-- Along two lists that correspond, what a test takes of one is no more than what another takes
of the other where each item that it takes corresponds to one that the other takes. -/
theorem countP_le_of_forall₂ {α β : Type} {p : α → Bool} {q : β → Bool} {xs : List α}
    {ys : List β} (h : List.Forall₂ (fun x y => q y = true → p x = true) xs ys) :
    ys.countP q ≤ xs.countP p := by
  induction h with
  | nil => simp
  | @cons x y xs ys hxy _ ih =>
    rw [List.countP_cons, List.countP_cons]
    cases hq : q y with
    | false => simp; omega
    | true => simp [hxy hq, ih]

theorem countP_eq_of_forall₂ {α β : Type} {p : α → Bool} {q : β → Bool} {xs : List α}
    {ys : List β} (h : List.Forall₂ (fun x y => q y = p x) xs ys) :
    ys.countP q = xs.countP p := by
  induction h with
  | nil => rfl
  | cons hxy _ ih => rw [List.countP_cons, List.countP_cons, hxy, ih]

/-- In `enumerate(xs)` every item of `xs` has its place. -/
theorem exists_zipIdx_of_mem {α : Type} {xs : List α} {x : α} (h : x ∈ xs) :
    ∃ e ∈ xs.zipIdx, e.1 = x := by
  have hmap : x ∈ xs.zipIdx.map Prod.fst := by simpa using h
  exact List.mem_map.mp hmap

/-- What corresponds to `enumerate(xs)` whatever the places corresponds to `xs`. -/
theorem forall₂_of_zipIdx {α β : Type} {R : α → β → Prop} {xs : List α} {ys : List β}
    (h : List.Forall₂ (fun e y => R e.1 y) xs.zipIdx ys) : List.Forall₂ R xs ys := by
  have hfst : xs = xs.zipIdx.map Prod.fst := by simp
  rw [hfst, List.forall₂_map_left_iff]
  exact h

end Py
