import FinancialPdfReader.Python.Unicode

namespace Py

section Scan

variable {α : Type} (matchAt : Option α → List α → Option Nat) (replacement : List α)

/-- `re.search`: the first match, given for each place how many items match there; a match may
depend on the item in front of it. -/
def reSearch : Option α → List α → Option (List α)
  | before, [] => (matchAt before []).map (fun _ => [])
  | before, x :: xs => match matchAt before (x :: xs) with
    | some n => some ((x :: xs).take n)
    | none => reSearch (some x) xs

/-- `re.sub`, for a pattern that does not match the empty text; the counter is what is left of the
match that is being replaced. -/
def reSubFrom : Nat → Option α → List α → List α
  | _, _, [] => []
  | left + 1, _, x :: xs => reSubFrom left (some x) xs
  | 0, before, x :: xs => match matchAt before (x :: xs) with
    | some (n + 1) => replacement ++ reSubFrom n (some x) xs
    | _ => x :: reSubFrom 0 (some x) xs

def reSub (xs : List α) : List α := reSubFrom matchAt replacement 0 none xs

/-- The item in front of what comes after `xs`. -/
def lastSeen (before : Option α) (xs : List α) : Option α := xs.foldl (fun _ x => some x) before

/-- No match begins in `xs`, with `rest` behind it. -/
def Unmatched : Option α → List α → List α → Prop
  | _, [], _ => True
  | before, x :: xs, rest => matchAt before (x :: xs ++ rest) = none ∧ Unmatched (some x) xs rest

variable {matchAt replacement} {before : Option α} {xs ys rest : List α} {x : α}

@[simp] theorem lastSeen_nil : lastSeen before [] = before := rfl

@[simp] theorem lastSeen_cons : lastSeen before (x :: xs) = lastSeen (some x) xs := rfl

theorem unmatched_append : Unmatched matchAt before (xs ++ ys) rest ↔
    Unmatched matchAt before xs (ys ++ rest) ∧ Unmatched matchAt (lastSeen before xs) ys rest := by
  induction xs generalizing before with
  | nil => simp [Unmatched]
  | cons x xs ih =>
    simp only [List.cons_append, Unmatched, List.append_assoc, lastSeen_cons, ih, and_assoc]

/-- Items at which no match begins whatever surrounds them. -/
theorem unmatched_of_forall (h : ∀ x ∈ xs, ∀ before ys, matchAt before (x :: ys) = none) :
    Unmatched matchAt before xs rest := by
  induction xs generalizing before with
  | nil => trivial
  | cons x xs ih =>
    exact ⟨h x List.mem_cons_self before (xs ++ rest),
      ih (fun y hy => h y (List.mem_cons_of_mem x hy))⟩

/-- What is found is what matches at its place. -/
theorem reSearch_eq_some {found : List α} (h : reSearch matchAt before xs = some found) :
    ∃ before' ys n, matchAt before' ys = some n ∧ found = ys.take n := by
  induction xs generalizing before with
  | nil =>
    obtain ⟨n,hn,rfl⟩ := Option.map_eq_some_iff.mp h
    exact ⟨before,[],n,hn,List.take_nil.symm⟩
  | cons x xs ih =>
    rw [reSearch] at h
    cases hmatch : matchAt before (x :: xs) with
    | none =>
      simp only [hmatch] at h
      exact ih h
    | some n =>
      simp only [hmatch] at h
      exact ⟨before,x :: xs,n,hmatch,(Option.some.inj h).symm⟩

theorem reSearch_unmatched (h : Unmatched matchAt before xs rest) :
    reSearch matchAt before (xs ++ rest) = reSearch matchAt (lastSeen before xs) rest := by
  induction xs generalizing before with
  | nil => rfl
  | cons x xs ih =>
    obtain ⟨hx,hxs⟩ := h
    rw [List.cons_append] at hx ⊢
    rw [reSearch, hx]
    exact ih hxs

theorem reSearch_matched (h : matchAt before (xs ++ rest) = some xs.length) (hne : xs ≠ []) :
    reSearch matchAt before (xs ++ rest) = some xs := by
  cases xs with
  | nil => exact absurd rfl hne
  | cons x xs =>
    rw [List.cons_append] at h ⊢
    rw [reSearch, h]
    simp

theorem reSubFrom_unmatched (h : Unmatched matchAt before xs rest) :
    reSubFrom matchAt replacement 0 before (xs ++ rest) =
      xs ++ reSubFrom matchAt replacement 0 (lastSeen before xs) rest := by
  induction xs generalizing before with
  | nil => rfl
  | cons x xs ih =>
    obtain ⟨hx,hxs⟩ := h
    rw [List.cons_append] at hx ⊢
    rw [reSubFrom, hx]
    exact congrArg (x :: ·) (ih hxs)

/-- What is left of a match goes without further replacements. -/
theorem reSubFrom_skip : reSubFrom matchAt replacement xs.length before (xs ++ rest) =
    reSubFrom matchAt replacement 0 (lastSeen before xs) rest := by
  induction xs generalizing before with
  | nil => rfl
  | cons x xs ih => exact ih

theorem reSubFrom_matched (h : matchAt before (xs ++ rest) = some xs.length) (hne : xs ≠ []) :
    reSubFrom matchAt replacement 0 before (xs ++ rest) =
      replacement ++ reSubFrom matchAt replacement 0 (lastSeen before xs) rest := by
  cases xs with
  | nil => exact absurd rfl hne
  | cons x xs =>
    rw [List.cons_append] at h ⊢
    rw [reSubFrom, h]
    exact congrArg (replacement ++ ·) reSubFrom_skip

end Scan

section Words

/-- `\b` between two characters or at an end of the text. -/
def isBoundary (before after : Option Char) : Bool := before.any isWord != after.any isWord

/-- `\d` -/
def isDecimal (c : Char) : Bool := (digitValue? c).isSome

theorem isWord_of_isDecimal {c : Char} (h : isDecimal c = true) : isWord c = true := by
  rw [isDecimal] at h
  rw [isWord, h, Bool.or_true, Bool.true_or]

/-- A digit is at most nine above a zero. -/
theorem zero_of_isDecimal {c : Char} (h : isDecimal c = true) :
    ∃ z ∈ digitZeros, z ≤ c.toNat ∧ c.toNat < z + 10 := by
  rw [isDecimal, digitValue?] at h
  split_ifs at h with hascii hdigit
  · rw [Bool.and_eq_true, decide_eq_true_eq, decide_eq_true_eq] at hdigit
    have hlow : '0'.toNat ≤ c.toNat := hdigit.1
    have hhigh : c.toNat ≤ '9'.toNat := hdigit.2
    exact ⟨0x30,by decide,hlow,Nat.lt_succ_of_le hhigh⟩
  · exact absurd h Bool.false_ne_true
  · exact absurd h Bool.false_ne_true
  · rw [Option.isSome_map, List.find?_isSome] at h
    obtain ⟨z,hz,hin⟩ := h
    rw [Bool.and_eq_true, decide_eq_true_eq, decide_eq_true_eq] at hin
    exact ⟨z,hz,hin⟩

theorem toUpper_of_isDecimal {c : Char} (h : isDecimal c = true) : c.toUpper = c := by
  obtain ⟨z,hz,hle,hlt⟩ := zero_of_isDecimal h
  have hzeros : ∀ z ∈ digitZeros, z = 0x30 ∨ 122 < z := by decide
  unfold Char.toUpper
  split
  · rename_i hlower
    have hlow : 97 ≤ c.toNat := hlower.1
    have hhigh : c.toNat ≤ 122 := hlower.2
    rcases hzeros z hz with heq | hgt <;> omega
  · rfl

theorem not_isWord_of_isSpace {c : Char} (h : isSpace c = true) : isWord c = false := by
  have hcode : c.toNat ≠ '_'.toNat ∧ (∀ z ∈ digitZeros, ¬ (z ≤ c.toNat ∧ c.toNat < z + 10)) ∧
      alphaRuns.any (fun r => r.1 ≤ c.toNat && c.toNat ≤ r.2) = false := by
    have hmem := of_decide_eq_true h
    revert hmem
    generalize c.toNat = n
    revert n
    decide +kernel
  obtain ⟨hne,hzeros,hruns⟩ := hcode
  have hdecimal : isDecimal c = false := by
    by_contra hdecimal
    obtain ⟨z,hz,hin⟩ := zero_of_isDecimal (by simpa using hdecimal)
    exact hzeros z hz hin
  have hunderscore : (c == '_') = false := by
    rw [beq_eq_false_iff_ne]
    exact fun heq => hne (congrArg Char.toNat heq)
  rw [isDecimal] at hdecimal
  rw [isWord, hunderscore, hdecimal, hruns]
  rfl

end Words

end Py
