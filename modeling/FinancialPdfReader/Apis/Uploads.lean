import FinancialPdfReader.Apis.Grounds

namespace FinancialPdfReader

open Py

theorem ofList_ne_empty {cs : List Char} (h : cs ≠ []) : String.ofList cs ≠ "" := by
  intro hempty
  have hlist := congrArg String.toList hempty
  rw [String.toList_ofList] at hlist
  exact h hlist

/-- What a pattern of four digits finds is not empty. -/
theorem FourDigits.found_ne_nil {matchAt : Option Char → List Char → Option Nat}
    (h : FourDigits matchAt) (hpos : ∀ before cs n, matchAt before cs = some n → 0 < n)
    {stem found : List Char} (hfound : reSearch matchAt none stem = some found) :
    ∃ c rest, found = c :: rest ∧ isDecimal c = true := by
  obtain ⟨before,cs,n,hmatch,rfl⟩ := reSearch_eq_some hfound
  obtain ⟨hlength,hdigits⟩ := h before cs n hmatch
  have hn := hpos before cs n hmatch
  match cs with
  | [] => simp at hlength
  | c :: cs =>
    obtain ⟨m,rfl⟩ := Nat.exists_eq_succ_of_ne_zero (Nat.ne_of_gt hn)
    exact ⟨c,cs.take m,rfl,hdigits c (by simp)⟩

theorem matchStock_pos (before : Option Char) (cs : List Char) (n : Nat)
    (h : matchStock before cs = some n) : 0 < n := by
  unfold matchStock at h
  split at h
  · split_ifs at h
    exact Option.some.inj h ▸ Nat.zero_lt_succ 3
  · contradiction

theorem matchPeriod_pos (before : Option Char) (cs : List Char) (n : Nat)
    (h : matchPeriod before cs = some n) : 0 < n := by
  unfold matchPeriod at h
  split at h
  · split at h
    · split_ifs at h
      rw [← Option.some.inj h]
      omega
    · contradiction
  · contradiction

theorem inferredStock_ne_empty (stem : List Char) : inferredStock stem ≠ "" := by
  rw [inferredStock]
  split
  · rename_i found hfound
    obtain ⟨c,rest,rfl,-⟩ := fourDigits_matchStock.found_ne_nil matchStock_pos hfound
    exact ofList_ne_empty (List.cons_ne_nil c rest)
  · decide

theorem inferredPeriod_ne_empty (stem : List Char) : inferredPeriod stem ≠ "" := by
  rw [inferredPeriod]
  split
  · rename_i found hfound
    obtain ⟨c,rest,rfl,hdigit⟩ := fourDigits_matchPeriod.found_ne_nil matchPeriod_pos hfound
    have hkept : c ≠ ' ' := by
      rintro rfl
      exact absurd hdigit (by decide)
    apply ofList_ne_empty
    rw [upperPeriod, List.filter_cons, if_pos (decide_eq_true hkept)]
    exact List.cons_ne_nil _ _
  · decide

/-- Neither the stock nor the period of an upload is left blank. -/
theorem uploadedDocument_grounds (uploadDir documentId : String) {form : UploadForm}
    (hname : isPdfName form.fileName = true) :
    DocumentGrounds (uploadedDocument uploadDir documentId form) := by
  refine ⟨?_,?_,uploadDir,form.fileName,hname,rfl⟩
  · change (if strip form.stockId = "" then _ else _) ≠ ""
    split
    · exact inferredStock_ne_empty _
    · assumption
  · change (if strip form.period = "" then _ else _) ≠ ""
    split
    · exact inferredPeriod_ne_empty _
    · assumption

end FinancialPdfReader
