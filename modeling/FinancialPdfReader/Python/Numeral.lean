import Mathlib.Tactic.Positivity
import FinancialPdfReader.Python.Number

namespace Py

/-- A decimal numeral without a sign: digits, and behind a point some more. -/
structure Numeral where
  whole : List (Fin 10)
  fraction : List (Fin 10)
  whole_ne : whole ≠ []

def digitChar (d : Fin 10) : Char := Char.ofNat (0x30 + d)

/-- The characters of a numeral. -/
def numeric (c : Char) : Bool := (digitValue? c).isSome || c == '.'

namespace Numeral

def chars (n : Numeral) : List Char :=
  n.whole.map digitChar ++ if n.fraction = [] then [] else '.' :: n.fraction.map digitChar

def text (n : Numeral) : String := String.ofList n.chars

def value (n : Numeral) : ℚ :=
  digitsValue (n.whole.map (·.val)) + digitsValue (n.fraction.map (·.val)) / 10^n.fraction.length

end Numeral

theorem digitValue?_digitChar : ∀ d : Fin 10, digitValue? (digitChar d) = some d.val := by decide

theorem lowerChar_digitChar : ∀ d : Fin 10, lowerChar (digitChar d) = [digitChar d] := by decide

/-- All the digits in front are read, up to what is none. -/
theorem spanDigits_append (digits : List (Fin 10)) {rest : List Char}
    (hrest : rest.head?.bind digitValue? = none) :
    spanDigits (digits.map digitChar ++ rest) = (digits.map (·.val),rest) := by
  induction digits with
  | nil =>
    cases rest with
    | nil => rfl
    | cons c rest =>
      have hc : digitValue? c = none := hrest
      simp [spanDigits, hc]
  | cons d digits ih =>
    rw [List.map_cons, List.cons_append, spanDigits, digitValue?_digitChar]
    simp only [ih, List.map_cons]

theorem digitsValue_nonneg (digits : List Nat) : 0 ≤ digitsValue digits := by
  have hfold : ∀ value : ℚ, 0 ≤ value →
      0 ≤ digits.foldl (fun n d => 10 * n + (d : ℚ)) value := by
    induction digits with
    | nil => exact fun value hvalue => hvalue
    | cons d ds ih =>
      intro value hvalue
      exact ih _ (by positivity)
  exact hfold 0 le_rfl

namespace Numeral

variable (n : Numeral)

theorem value_nonneg : 0 ≤ n.value :=
  add_nonneg (digitsValue_nonneg _) (div_nonneg (digitsValue_nonneg _) (by positivity))

theorem mem_chars {c : Char} (h : c ∈ n.chars) : (∃ d, c = digitChar d) ∨ c = '.' := by
  have hdigits : ∀ digits : List (Fin 10), c ∈ digits.map digitChar → ∃ d, c = digitChar d := by
    intro digits hmem
    obtain ⟨d,-,rfl⟩ := List.mem_map.mp hmem
    exact ⟨d,rfl⟩
  rw [chars, List.mem_append] at h
  split_ifs at h with hfraction
  · exact Or.inl (hdigits n.whole (h.resolve_right List.not_mem_nil))
  · rw [List.mem_cons] at h
    rcases h with h | hpoint | h
    · exact Or.inl (hdigits n.whole h)
    · exact Or.inr hpoint
    · exact Or.inl (hdigits n.fraction h)

theorem numeric_of_mem {c : Char} (h : c ∈ n.chars) : numeric c = true := by
  rcases n.mem_chars h with ⟨d,rfl⟩ | rfl
  · rw [numeric, digitValue?_digitChar]
    rfl
  · rfl

theorem lowerChar_of_mem {c : Char} (h : c ∈ n.chars) : lowerChar c = [c] := by
  rcases n.mem_chars h with ⟨d,rfl⟩ | rfl
  · exact lowerChar_digitChar d
  · decide

end Numeral

section Grouped

/-- Digits with a separator between groups of three, counted from the last. -/
def grouped (sep : Char) : List Char → List Char
  | [] => []
  | c :: cs =>
      if cs.length % 3 = 0 ∧ cs ≠ [] then c :: sep :: grouped sep cs else c :: grouped sep cs

variable {sep : Char} {cs : List Char}

theorem mem_grouped {c : Char} (h : c ∈ grouped sep cs) : c = sep ∨ c ∈ cs := by
  induction cs with
  | nil => contradiction
  | cons d ds ih =>
    rw [grouped] at h
    split at h
    · simp only [List.mem_cons] at h ⊢
      rcases h with h | h | h
      · exact Or.inr (Or.inl h)
      · exact Or.inl h
      · exact (ih h).imp_right Or.inr
    · rcases List.mem_cons.mp h with rfl | h
      · exact Or.inr List.mem_cons_self
      · exact (ih h).imp_right (List.mem_cons_of_mem d)

/-- The digits come back where the separators are dropped. -/
theorem filter_grouped {p : Char → Bool} (hsep : p sep = false) :
    (grouped sep cs).filter p = cs.filter p := by
  induction cs with
  | nil => rfl
  | cons c cs ih =>
    rw [grouped]
    split
    · simp only [List.filter_cons, hsep, ih, Bool.false_eq_true, if_false]
    · simp only [List.filter_cons, ih]

theorem head?_grouped : (grouped sep cs).head? = cs.head? := by
  cases cs with
  | nil => rfl
  | cons c cs =>
    rw [grouped]
    split
    · rfl
    · rfl

theorem getLast?_grouped : (grouped sep cs).getLast? = cs.getLast? := by
  induction cs with
  | nil => rfl
  | cons c cs ih =>
    rw [grouped]
    cases cs with
    | nil => rfl
    | cons d ds =>
      have hne : grouped sep (d :: ds) ≠ [] := by
        intro hnil
        have hhead : (grouped sep (d :: ds)).head? = some d := head?_grouped
        rw [hnil] at hhead
        contradiction
      obtain ⟨e,es,hes⟩ := List.exists_cons_of_ne_nil hne
      rw [hes] at ih ⊢
      split
      · rw [List.getLast?_cons_cons, List.getLast?_cons_cons, ih, List.getLast?_cons_cons]
      · rw [List.getLast?_cons_cons, ih, List.getLast?_cons_cons]

end Grouped

section Repr

/-- A character of a number that is written without an exponent. -/
def ofNumber (c : Char) : Bool := c.isDigit || c == '-' || c == '.'

theorem toString_nat_digits {n : Nat} {c : Char} (hc : c ∈ (toString n).toList) :
    c.isDigit = true := by
  rw [Nat.toString_eq_ofList_toDigits, String.toList_ofList] at hc
  exact Nat.isDigit_of_mem_toDigits (by decide) (by decide) hc

theorem toString_nat_inj {m n : Nat} (h : toString m = toString n) : m = n := by
  rw [Nat.toString_eq_ofList_toDigits, Nat.toString_eq_ofList_toDigits, String.ofList_inj] at h
  rw [← Nat.ofDigitChars_ten_toDigits (n := m), h, Nat.ofDigitChars_ten_toDigits]

theorem toString_int_chars {n : Int} {c : Char} (hc : c ∈ (toString n).toList) :
    ofNumber c = true := by
  cases n with
  | ofNat n => simp [ofNumber, toString_nat_digits (n := n) hc]
  | negSucc n =>
    change c ∈ ("-" ++ toString (n + 1)).toList at hc
    rw [String.toList_append, List.mem_append] at hc
    rcases hc with hc | hc
    · obtain rfl := List.mem_singleton.mp hc
      rfl
    · simp [ofNumber, toString_nat_digits hc]

theorem fractionDigits_digits {den fuel rest : Nat} (hrest : rest < den) {c : Char}
    (hc : c ∈ fractionDigits den fuel rest) : c.isDigit = true := by
  have hdigit : ∀ d : Fin 10, (Nat.digitChar d).isDigit = true := by decide
  induction fuel generalizing rest with
  | zero => contradiction
  | succ fuel ih =>
    rw [fractionDigits] at hc
    split at hc
    · contradiction
    · rcases List.mem_cons.mp hc with rfl | hc
      · exact hdigit ⟨_,Nat.div_lt_of_lt_mul (by omega)⟩
      · exact ih (Nat.mod_lt _ (by omega)) hc

theorem repr_finite_chars {q : ℚ} {c : Char} (hc : c ∈ (PyFloat.finite q).repr.toList) :
    ofNumber c = true := by
  have hdecimal : ∀ q : ℚ, c ∈ (decimalRepr q).toList → ofNumber c = true := by
    intro q hc
    rw [decimalRepr, String.toList_ofList, List.mem_append, List.mem_cons] at hc
    rcases hc with hc | rfl | hc
    · simp [ofNumber, Nat.isDigit_of_mem_toDigits (by decide) (by decide) hc]
    · rfl
    · split at hc
      · obtain rfl := List.mem_singleton.mp hc
        rfl
      · simp [ofNumber, fractionDigits_digits (Nat.mod_lt _ q.den_pos) hc]
  rw [PyFloat.repr] at hc
  split at hc
  · rw [String.toList_append, List.mem_append] at hc
    rcases hc with hc | hc
    · obtain rfl := List.mem_singleton.mp hc
      rfl
    · exact hdecimal _ hc
  · exact hdecimal q hc

end Repr

end Py
