import FinancialPdfReader.Python.Text

namespace Py

/-- The scripts without cases, that of the ideographs among them. -/
def caseless (c : Char) : Bool := decide (0x2E80 ≤ c.toNat) && decide (c.toNat < 0xA640)

theorem caseless_iff {c : Char} : caseless c = true ↔ 0x2E80 ≤ c.toNat ∧ c.toNat < 0xA640 := by
  rw [caseless, Bool.and_eq_true, decide_eq_true_eq, decide_eq_true_eq]

theorem lowerChar_of_caseless {c : Char} (h : caseless c = true) : lowerChar c = [c] := by
  obtain ⟨hlow,hhigh⟩ := caseless_iff.mp h
  have hascii : ¬ c.toNat < 0x80 := by omega
  simp [lowerChar, hascii, hlow, hhigh]

theorem lowerChar_ne_nil (c : Char) : lowerChar c ≠ [] := by
  rw [lowerChar]
  split_ifs <;> simp

private theorem toLower_ascii {c : Char} (h : c.toNat < 0x80) : c.toLower.toNat < 0x80 := by
  have hall : ∀ n : Fin 0x80, (Char.ofNat n).toLower.toNat < 0x80 := by decide +kernel
  have hc := hall ⟨c.toNat,h⟩
  rwa [Char.ofNat_toNat] at hc

/-- No run of the table leads into the scripts without cases. -/
private theorem lowerCode_caseless {n : Nat} (hlow : 0x2E80 ≤ lowerCode n)
    (hhigh : lowerCode n < 0xA640) : 0x2E80 ≤ n ∧ n < 0xA640 := by
  have hruns : ∀ r ∈ lowerRuns, (r.2.1 : Int) + r.2.2.2 < 0x2E80 ∨
      0xA640 ≤ (r.1 : Int) + r.2.2.2 := by decide +kernel
  cases hfind : lowerRuns.find?
      (fun r => r.1 ≤ n && n ≤ r.2.1 && (n - r.1) % r.2.2.1 == 0) with
  | none =>
    simp only [lowerCode, hfind] at hlow hhigh
    exact ⟨hlow,hhigh⟩
  | some r =>
    simp only [lowerCode, hfind] at hlow hhigh
    have hrun := hruns r (List.mem_of_find?_eq_some hfind)
    have hin := List.find?_some hfind
    simp only [Bool.and_eq_true, decide_eq_true_eq] at hin
    omega

/-- A number that is no code point stands for the character zero. -/
private theorem toNat_ofNat (n : Nat) :
    (Char.ofNat n).toNat = n ∨ (Char.ofNat n).toNat = 0 := by
  by_cases hvalid : n.isValidChar
  · have hchar : Char.ofNat n = Char.ofNatAux n hvalid := dif_pos hvalid
    rw [hchar]
    exact Or.inl UInt32.toNat_ofNatLT
  · have hchar : Char.ofNat n = Char.ofNat 0 := dif_neg hvalid
    rw [hchar]
    exact Or.inr rfl

/-- Such a character is the image of itself alone. -/
theorem caseless_of_mem_lowerChar {c d : Char} (hd : d ∈ lowerChar c)
    (hcaseless : caseless d = true) : caseless c = true := by
  obtain ⟨hlow,hhigh⟩ := caseless_iff.mp hcaseless
  rw [lowerChar] at hd
  split_ifs at hd with hascii hscript hdotted
  · obtain rfl := List.mem_singleton.mp hd
    have hlower := toLower_ascii hascii
    omega
  · obtain rfl := List.mem_singleton.mp hd
    exact hcaseless
  · rw [List.mem_cons, List.mem_singleton] at hd
    rcases hd with rfl | rfl
    · exact absurd hcaseless (by decide)
    · exact absurd hcaseless (by decide)
  · obtain rfl := List.mem_singleton.mp hd
    rcases toNat_ofNat (lowerCode c.toNat) with hcode | hzero
    · rw [hcode] at hlow hhigh
      exact caseless_iff.mpr (lowerCode_caseless hlow hhigh)
    · omega

section Images

variable {α : Type} {f : α → List α} {p : α → Bool}

/-- A word of other characters does not begin before the end of a stretch. -/
private theorem infix_append_of_none {word : List α} (hne : word ≠ [])
    (hword : ∀ a ∈ word, p a = true) {stretch : List α} (hstretch : ∀ a ∈ stretch, p a = false)
    (rest : List α) : word <:+: stretch ++ rest ↔ word <:+: rest := by
  induction stretch with
  | nil => rw [List.nil_append]
  | cons a stretch ih =>
    have hno : ¬ word <+: a :: (stretch ++ rest) := by
      intro hfront
      cases word with
      | nil => exact hne rfl
      | cons w word =>
        obtain ⟨rfl,-⟩ := List.cons_prefix_cons.mp hfront
        have hw := hword w List.mem_cons_self
        rw [hstretch w List.mem_cons_self] at hw
        contradiction
    have hrest := ih (fun b hb => hstretch b (List.mem_cons_of_mem a hb))
    rw [List.cons_append, List.infix_cons_iff, or_iff_right hno, hrest]

variable (hkept : ∀ a, p a = true → f a = [a])
  (hown : ∀ a, ∀ b ∈ f a, p b = true → p a = true) (hne : ∀ a, f a ≠ [])
include hkept hown hne

private theorem prefix_flatMap_iff {word : List α} (hword : ∀ a ∈ word, p a = true)
    (text : List α) : word <+: text.flatMap f ↔ word <+: text := by
  induction word generalizing text with
  | nil => simp
  | cons w word ih =>
    have hw := hword w List.mem_cons_self
    have htail := ih (fun a ha => hword a (List.mem_cons_of_mem w ha))
    cases text with
    | nil => simp
    | cons a text =>
      cases hfa : f a with
      | nil => exact absurd hfa (hne a)
      | cons b rest =>
        rw [List.flatMap_cons, hfa, List.cons_append, List.cons_prefix_cons,
          List.cons_prefix_cons]
        constructor
        · intro hparts
          obtain ⟨rfl,hfront⟩ := hparts
          have hself := hkept a (hown a w (by simp [hfa]) hw)
          obtain ⟨rfl,rfl⟩ := List.cons.inj (hfa.symm.trans hself)
          exact ⟨rfl,(htail text).mp hfront⟩
        · intro hparts
          obtain ⟨rfl,hfront⟩ := hparts
          obtain ⟨rfl,rfl⟩ := List.cons.inj (hfa.symm.trans (hkept w hw))
          exact ⟨rfl,(htail text).mpr hfront⟩

/-- The images of a text hold a word of characters that do not change exactly where the text
does. -/
theorem infix_flatMap_iff {word : List α} (hword : ∀ a ∈ word, p a = true) (text : List α) :
    word <:+: text.flatMap f ↔ word <:+: text := by
  by_cases hnil : word = []
  · simp [hnil]
  · induction text with
    | nil => simp
    | cons a text ih =>
      have htext : word <:+: text.flatMap f ↔ word <:+: text := ih
      by_cases ha : p a = true
      · have hfront := prefix_flatMap_iff hkept hown hne hword (a :: text)
        rw [List.flatMap_cons, hkept a ha, List.singleton_append] at hfront ⊢
        rw [List.infix_cons_iff, List.infix_cons_iff, hfront, htext]
      · have hself : ∀ b ∈ [a], p b = false := by simpa using ha
        have himage : ∀ b ∈ f a, p b = false := by
          intro b hb
          by_contra hpb
          exact ha (hown a b hb (by simpa using hpb))
        have hskip := infix_append_of_none hnil hword hself text
        rw [List.singleton_append] at hskip
        rw [List.flatMap_cons, infix_append_of_none hnil hword himage, htext, hskip]

end Images

/-- A word of such characters is in the lower-cased text exactly where it is in the text. -/
theorem isIn_lower {word : String} (hword : ∀ c ∈ word.toList, caseless c = true)
    (text : String) : isIn word (lower text) = isIn word text := by
  rw [isIn, isIn, lower, String.toList_ofList, decide_eq_decide]
  exact infix_flatMap_iff (fun _ => lowerChar_of_caseless)
    (fun _ _ hb => caseless_of_mem_lowerChar hb) lowerChar_ne_nil hword text.toList

end Py
