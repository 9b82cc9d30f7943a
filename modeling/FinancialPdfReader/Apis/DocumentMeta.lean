import FinancialPdfReader.Python.Regex
import FinancialPdfReader.Python.Search
import FinancialPdfReader.Python.Text

namespace FinancialPdfReader

open Py

section Patterns

/-- `\b\d{4}\b` -/
def matchStock : Option Char → List Char → Option Nat
  | before, a :: b :: c :: d :: rest =>
      if isBoundary before (some a) && [a,b,c,d].all isDecimal && isBoundary (some d) rest.head?
      then some 4 else none
  | _, _ => none

/-- `20\d{2}\s*[Qq][1-4]` -/
def matchPeriod : Option Char → List Char → Option Nat
  | _, '2' :: '0' :: a :: b :: rest => match rest.dropWhile isSpace with
    | q :: n :: _ =>
        if [a,b].all isDecimal && (q == 'Q' || q == 'q') && ['1','2','3','4'].contains n
        then some (6 + (rest.takeWhile isSpace).length) else none
    | _ => none
  | _, _ => none

/-- `[_\-\s]` -/
def isTokenSeparator (c : Char) : Bool := c == '_' || c == '-' || isSpace c

/-- `[_\-\s]+` -/
def matchSeparators (_before : Option Char) (cs : List Char) : Option Nat :=
  let run := cs.takeWhile isTokenSeparator
  if run.isEmpty then none else some run.length

end Patterns

section Inference

/-- `name.rsplit(".", 1)[0]` -/
def stemOf (name : List Char) : List Char :=
  if '.' ∈ name then (name.rdropWhile (fun c => c ≠ '.')).dropLast else name

/-- `str.upper` on digits, blanks and the letter of the quarter. -/
def upperPeriod (cs : List Char) : List Char := (cs.filter (fun c => c ≠ ' ')).map Char.toUpper

def inferredStock (stem : List Char) : String :=
  match reSearch matchStock none stem with
  | some found => String.ofList found
  | none => "UNKNOWN"

def inferredPeriod (stem : List Char) : String :=
  match reSearch matchPeriod none stem with
  | some found => String.ofList (upperPeriod found)
  | none => "UNKNOWN"

/-- What is left of the name without the usual tokens. -/
def inferredCompany (stem : List Char) : String :=
  let candidate := stripBy isSpace (reSub matchSeparators [' ']
    (reSub matchStock [] (reSub matchPeriod [] stem)))
  if candidate.isEmpty then "未命名公司" else String.ofList candidate

/-- `_infer_document_meta`: what a form field leaves open is read off the file name. -/
def inferDocumentMeta (fileName stockId companyName period : String) : String × String × String :=
  let stem := stemOf fileName.toList
  (if strip stockId = "" then inferredStock stem else strip stockId,
    if strip companyName = "" then inferredCompany stem else strip companyName,
    if strip period = "" then inferredPeriod stem else strip period)

end Inference

section Tokens

theorem not_isDecimal_of_isTokenSeparator {c : Char} (h : isTokenSeparator c = true) :
    isDecimal c = false := by
  by_contra hdecimal
  have hword := isWord_of_isDecimal (by simpa using hdecimal : isDecimal c = true)
  rw [isTokenSeparator, Bool.or_eq_true, Bool.or_eq_true, beq_iff_eq, beq_iff_eq] at h
  rcases h with (rfl | rfl) | hspace
  · exact absurd hdecimal (by decide)
  · exact absurd hdecimal (by decide)
  · rw [not_isWord_of_isSpace hspace] at hword
    contradiction

/-- Of the separators only the underscore is part of a word. -/
theorem isWord_of_isTokenSeparator {c : Char} (h : isTokenSeparator c = true) :
    isWord c = true ↔ c = '_' := by
  constructor
  · intro hword
    rw [isTokenSeparator, Bool.or_eq_true, Bool.or_eq_true, beq_iff_eq, beq_iff_eq] at h
    rcases h with (heq | rfl) | hspace
    · exact heq
    · exact absurd hword (by decide +kernel)
    · rw [not_isWord_of_isSpace hspace] at hword
      contradiction
  · intro heq
    rw [heq]
    decide

variable {matchAt : Option Char → List Char → Option Nat}

/-- A pattern that begins with four digits. -/
def FourDigits (matchAt : Option Char → List Char → Option Nat) : Prop :=
  ∀ before cs n, matchAt before cs = some n →
    4 ≤ cs.length ∧ ∀ c ∈ cs.take 4, isDecimal c = true

theorem fourDigits_matchStock : FourDigits matchStock := by
  intro before cs n h
  match cs with
  | a :: b :: c :: d :: rest =>
    rw [matchStock] at h
    split_ifs at h with hcond
    simp only [Bool.and_eq_true] at hcond
    refine ⟨by simp,?_⟩
    exact List.all_eq_true.mp hcond.1.2
  | [] => contradiction
  | [_] => contradiction
  | [_,_] => contradiction
  | [_,_,_] => contradiction

theorem matchPeriod_inv {before : Option Char} {cs : List Char} {n : Nat}
    (h : matchPeriod before cs = some n) : ∃ a b blanks q d rest,
      cs = '2' :: '0' :: a :: b :: (blanks ++ q :: d :: rest) ∧
        isDecimal a = true ∧ isDecimal b = true ∧ (∀ c ∈ blanks, isSpace c = true) ∧
        (q = 'Q' ∨ q = 'q') ∧ d ∈ ['1','2','3','4'] := by
  unfold matchPeriod at h
  split at h
  · rename_i a b rest
    split at h
    · rename_i q d tail hdrop
      split_ifs at h with hcond
      simp only [List.all_cons, List.all_nil, Bool.and_true, Bool.and_eq_true, Bool.or_eq_true,
        beq_iff_eq, List.contains_iff_mem] at hcond
      refine ⟨a,b,rest.takeWhile isSpace,q,d,tail,?_,hcond.1.1.1,hcond.1.1.2,?_,hcond.1.2,
        hcond.2⟩
      · rw [← hdrop, List.takeWhile_append_dropWhile]
      · exact fun c hc => List.mem_takeWhile_imp hc
    · contradiction
  · contradiction

theorem fourDigits_matchPeriod : FourDigits matchPeriod := by
  intro before cs n h
  obtain ⟨a,b,blanks,q,d,rest,rfl,ha,hb,-,-,-⟩ := matchPeriod_inv h
  have htwo : isDecimal '2' = true := by decide
  have hzero : isDecimal '0' = true := by decide
  simp [htwo, hzero, ha, hb]

/-- No match begins shortly before an item that is no digit. -/
theorem FourDigits.unmatched_short (h : FourDigits matchAt) {before : Option Char}
    {cs rest : List Char} (hlength : cs.length ≤ 3)
    (hrest : ∀ c ∈ rest.head?, isDecimal c = false) :
    Unmatched matchAt before cs rest := by
  induction cs generalizing before with
  | nil => trivial
  | cons c cs ih =>
    rw [List.length_cons] at hlength
    refine ⟨?_,ih (by omega)⟩
    cases hmatch : matchAt before (c :: cs ++ rest) with
    | none => rfl
    | some n =>
      obtain ⟨hfour,hdigits⟩ := h _ _ _ hmatch
      cases rest with
      | nil =>
        rw [List.append_nil, List.length_cons] at hfour
        omega
      | cons d rest =>
        have hmem : d ∈ (c :: cs ++ d :: rest).take 4 := by
          rw [List.take_append, List.mem_append]
          refine Or.inr ?_
          obtain ⟨k,hk⟩ : ∃ k, 4 - (c :: cs).length = k + 1 :=
            ⟨3 - (c :: cs).length,by rw [List.length_cons]; omega⟩
          rw [hk, List.take_succ_cons]
          exact List.mem_cons_self
        have hnot := hrest d rfl
        rw [hdigits d hmem] at hnot
        contradiction

/-- No match begins where there is no digit. -/
theorem FourDigits.unmatched_plain (h : FourDigits matchAt) {before : Option Char}
    {cs rest : List Char} (hplain : ∀ c ∈ cs, isDecimal c = false) :
    Unmatched matchAt before cs rest := by
  apply unmatched_of_forall
  intro c hc before' ys
  cases hmatch : matchAt before' (c :: ys) with
  | none => rfl
  | some n =>
    have hdecimal := (h _ _ _ hmatch).2 c (by simp)
    rw [hplain c hc] at hdecimal
    contradiction

/-- Four digits within a word are no stock code. -/
theorem unmatched_word {before : Option Char} {cs rest : List Char} {c : Char}
    (hlength : cs.length = 4) (hdigits : ∀ d ∈ cs, isDecimal d = true) (hword : isWord c = true)
    (hplain : isDecimal c = false) : Unmatched matchStock before cs (c :: rest) := by
  match cs, hlength with
  | [a,b,d,e], _ =>
    have hinside : isBoundary (some e) (some c) = false := by
      simp [isBoundary, hword, isWord_of_isDecimal (hdigits e (by simp))]
    refine ⟨?_,fourDigits_matchStock.unmatched_short (by simp) (by simp [hplain])⟩
    rw [List.cons_append, List.cons_append, List.cons_append, List.cons_append, List.nil_append,
      matchStock, List.head?_cons, hinside, Bool.and_false]
    rfl

/-- Four digits with nothing in front and no word behind are one. -/
theorem matchStock_of_not_isWord {cs rest : List Char} {c : Char} (hlength : cs.length = 4)
    (hdigits : ∀ d ∈ cs, isDecimal d = true) (hword : isWord c = false) :
    matchStock none (cs ++ c :: rest) = some cs.length := by
  match cs, hlength with
  | [a,b,d,e], _ =>
    have hend : isBoundary (some e) (some c) = true := by
      simp [isBoundary, hword, isWord_of_isDecimal (hdigits e (by simp))]
    have hstart : isBoundary none (some a) = true := by
      simp [isBoundary, isWord_of_isDecimal (hdigits a (by simp))]
    have hall : [a,b,d,e].all isDecimal = true := List.all_eq_true.mpr hdigits
    rw [List.cons_append, List.cons_append, List.cons_append, List.cons_append, List.nil_append,
      matchStock, List.head?_cons, hstart, hall, hend]
    rfl

end Tokens

/-- A file named by a stock code, a company and a quarter with one separator between them. -/
structure NamedFile where
  stock : List Char
  company : List Char
  period : List Char
  separator : Char
  fourDigits : stock.length = 4 ∧ ∀ c ∈ stock, isDecimal c = true
  named : company ≠ []
  plain : ∀ c ∈ company, isDecimal c = false ∧ isTokenSeparator c = false
  quarter : ∃ y z q, period = ['2','0',y,z,'Q',q] ∧ isDecimal y = true ∧ isDecimal z = true ∧
    q ∈ ['1','2','3','4']
  separates : isTokenSeparator separator = true

namespace NamedFile

variable (f : NamedFile)

/-- The name up to the quarter. -/
def front : List Char := f.stock ++ f.separator :: (f.company ++ [f.separator])

def fileName : String := String.ofList (f.front ++ f.period ++ ".pdf".toList)

theorem stemOf_fileName : stemOf f.fileName.toList = f.front ++ f.period := by
  have hdot : (fun c : Char => decide (c ≠ '.')) '.' = false := by decide
  have hsplit : f.front ++ f.period ++ ".pdf".toList =
      f.front ++ f.period ++ '.' :: ['p','d','f'] :=
    rfl
  rw [fileName, String.toList_ofList, stemOf, if_pos (by simp), hsplit, rdropWhile_append_kept hdot]
  have hnone : ['p','d','f'].rdropWhile (fun c => c ≠ '.') = [] := by decide
  rw [hnone, List.dropLast_concat]

theorem separator_plain : isDecimal f.separator = false :=
  not_isDecimal_of_isTokenSeparator f.separates

theorem decimal_of_quarter {q : Char} (h : q ∈ ['1','2','3','4']) : isDecimal q = true := by
  have hall : ['1','2','3','4'].all isDecimal = true := by decide
  exact List.all_eq_true.mp hall q h

theorem front_eq : f.front = f.stock ++ f.separator :: (f.company ++ [f.separator]) := rfl

/-- Behind the code no digit stands in front of the quarter. -/
theorem plain_behind : ∀ c ∈ f.separator :: (f.company ++ [f.separator]), isDecimal c = false := by
  intro c hc
  rcases List.mem_cons.mp hc with rfl | hc
  · exact f.separator_plain
  · rcases List.mem_append.mp hc with hc | hc
    · exact (f.plain c hc).1
    · rw [List.mem_singleton.mp hc]
      exact f.separator_plain

theorem noblank : ∀ c ∈ f.company, isSpace c = false := by
  intro c hc
  have hplain := (f.plain c hc).2
  rw [isTokenSeparator, Bool.or_eq_false_iff] at hplain
  exact hplain.2

/-- The code is not taken for a year: the quarter would stand behind the company, with nothing but
blanks before it. -/
theorem matchPeriod_stock : matchPeriod none (f.front ++ f.period) = none := by
  cases hmatch : matchPeriod none (f.front ++ f.period) with
  | none => rfl
  | some n =>
    obtain ⟨a,b,blanks,q,d,rest,hsplit,-,-,hblanks,-,hd⟩ := matchPeriod_inv hmatch
    have hfour : f.stock.length = ['2','0',a,b].length := f.fourDigits.1
    rw [front_eq, List.append_assoc] at hsplit
    have hbehind := (List.append_inj hsplit hfour).2
    have hdigit : d ∉ f.separator :: (f.company ++ [f.separator]) := by
      intro hmem
      have hplain := f.plain_behind d hmem
      rw [decimal_of_quarter hd] at hplain
      exact absurd hplain.symm Bool.false_ne_true
    have hprefix := dropLast_prefix_of_append hbehind hdigit
    obtain ⟨x,xs,hcompany⟩ := List.exists_cons_of_ne_nil f.named
    have hx : x ∈ f.company := by simp [hcompany]
    have hblank : isSpace x = true := by
      apply hblanks x
      apply hprefix.subset
      rw [← List.cons_append, List.dropLast_concat]
      exact List.mem_cons_of_mem _ hx
    have hnoblank := f.noblank x hx
    rw [hblank] at hnoblank
    exact absurd hnoblank.symm Bool.false_ne_true

theorem unmatched_front : Unmatched matchPeriod none f.front f.period := by
  have hfirst := f.matchPeriod_stock
  obtain ⟨hfour,hdigits⟩ := f.fourDigits
  rw [front_eq] at hfirst ⊢
  rw [unmatched_append]
  refine ⟨?_,fourDigits_matchPeriod.unmatched_plain f.plain_behind⟩
  match hstock : f.stock, hfour with
  | [a,b,c,d], _ =>
    rw [hstock, List.append_assoc] at hfirst
    refine ⟨hfirst,fourDigits_matchPeriod.unmatched_short (by simp) ?_⟩
    simp [f.separator_plain]

theorem period_ne_nil : f.period ≠ [] := by
  obtain ⟨y,z,q,hperiod,-⟩ := f.quarter
  rw [hperiod]
  exact List.cons_ne_nil _ _

theorem matchPeriod_period (before : Option Char) :
    matchPeriod before (f.period ++ []) = some f.period.length := by
  obtain ⟨y,z,q,hperiod,hy,hz,hq⟩ := f.quarter
  have hblank : isSpace 'Q' = false := by decide
  rw [List.mem_cons, List.mem_cons, List.mem_cons, List.mem_singleton] at hq
  rw [hperiod]
  rcases hq with rfl | rfl | rfl | rfl <;> simp [matchPeriod, hblank, hy, hz]

theorem upperPeriod_period : upperPeriod f.period = f.period := by
  obtain ⟨y,z,q,hperiod,hy,hz,hq⟩ := f.quarter
  have hkept : ∀ c, isDecimal c = true → c ≠ ' ' ∧ c.toUpper = c := by
    intro c hc
    refine ⟨?_,toUpper_of_isDecimal hc⟩
    rintro rfl
    exact absurd hc (by decide)
  have hdecimal := decimal_of_quarter hq
  have hQ : 'Q'.toUpper = 'Q' := by decide
  have htwo := hkept '2' (by decide)
  have hzero := hkept '0' (by decide)
  rw [hperiod, upperPeriod]
  simp [hkept y hy, hkept z hz, hkept q hdecimal, htwo, hzero, hQ]

theorem inferredPeriod_eq : inferredPeriod (f.front ++ f.period) = String.ofList f.period := by
  have hfound : reSearch matchPeriod none (f.front ++ f.period) = some f.period := by
    rw [reSearch_unmatched f.unmatched_front, ← List.append_nil f.period,
      reSearch_matched (f.matchPeriod_period _) f.period_ne_nil, List.append_nil]
  rw [inferredPeriod, hfound]
  exact congrArg String.ofList f.upperPeriod_period

theorem stock_ne_nil : f.stock ≠ [] := by
  intro hnil
  have hfour := f.fourDigits.1
  rw [hnil] at hfour
  contradiction

theorem matchStock_stock (hsep : f.separator ≠ '_') (rest : List Char) :
    matchStock none (f.stock ++ f.separator :: rest) = some f.stock.length := by
  apply matchStock_of_not_isWord f.fourDigits.1 f.fourDigits.2
  by_contra hword
  exact hsep ((isWord_of_isTokenSeparator f.separates).mp (by simpa using hword))

theorem inferredStock_eq (hsep : f.separator ≠ '_') :
    inferredStock (f.front ++ f.period) = String.ofList f.stock := by
  have hsplit : f.front ++ f.period =
      f.stock ++ f.separator :: (f.company ++ f.separator :: f.period) := by simp [front]
  rw [inferredStock, hsplit, reSearch_matched (f.matchStock_stock hsep _) f.stock_ne_nil]

/-- Behind an underscore the code is part of a longer word; the year of the quarter always is. -/
theorem inferredStock_underscore (hsep : f.separator = '_') :
    inferredStock (f.front ++ f.period) = "UNKNOWN" := by
  obtain ⟨y,z,q,hperiod,hy,hz,hq⟩ := f.quarter
  have hword : isWord f.separator = true := (isWord_of_isTokenSeparator f.separates).mpr hsep
  have hyear : ∀ d ∈ ['2','0',y,z], isDecimal d = true := by
    have htwo : isDecimal '2' = true := by decide
    have hzero : isDecimal '0' = true := by decide
    simp [htwo, hzero, hy, hz]
  have hperiod' : ∀ before, Unmatched matchStock before f.period [] := by
    intro before
    have hsplit : f.period = ['2','0',y,z] ++ ['Q',q] := hperiod
    rw [hsplit, unmatched_append]
    exact ⟨unmatched_word rfl hyear (by decide +kernel) (by decide),
      fourDigits_matchStock.unmatched_short (by simp) (by simp)⟩
  have hfront : ∀ rest, Unmatched matchStock none f.front rest := by
    intro rest
    rw [front_eq, unmatched_append]
    exact ⟨unmatched_word f.fourDigits.1 f.fourDigits.2 hword f.separator_plain,
      fourDigits_matchStock.unmatched_plain f.plain_behind⟩
  have hnone : reSearch matchStock none (f.front ++ f.period) = none := by
    rw [reSearch_unmatched (hfront _), ← List.append_nil f.period, reSearch_unmatched (hperiod' _)]
    rfl
  rw [inferredStock, hnone]

/-- A single separator is a run of its own where none follows. -/
theorem matchSeparators_single {before : Option Char} {rest : List Char}
    (hrest : ∀ c ∈ rest.head?, isTokenSeparator c = false) :
    matchSeparators before ([f.separator] ++ rest) = some [f.separator].length := by
  have hrun : ([f.separator] ++ rest).takeWhile isTokenSeparator = [f.separator] := by
    rw [List.singleton_append, List.takeWhile_cons_of_pos f.separates]
    cases rest with
    | nil => rfl
    | cons c rest => rw [List.takeWhile_cons_of_neg (by simp [hrest c rfl])]
  rw [matchSeparators, hrun]
  rfl

theorem reSub_separators :
    reSub matchSeparators [' '] ([f.separator] ++ (f.company ++ [f.separator])) =
      ' ' :: f.company ++ [' '] := by
  have hcompany : Unmatched matchSeparators (some f.separator) f.company [f.separator] := by
    apply unmatched_of_forall
    intro c hc before ys
    rw [matchSeparators, List.takeWhile_cons_of_neg (by simp [(f.plain c hc).2])]
    rfl
  have hhead : ∀ c ∈ (f.company ++ [f.separator]).head?, isTokenSeparator c = false := by
    obtain ⟨x,xs,hsplit⟩ := List.exists_cons_of_ne_nil f.named
    intro c hc
    rw [hsplit, List.cons_append, List.head?_cons, Option.mem_some_iff] at hc
    exact (f.plain c (by simp [hsplit, hc])).2
  have hlast : reSubFrom matchSeparators [' '] 0 (lastSeen (some f.separator) f.company)
      [f.separator] = [' '] := by
    rw [← List.append_nil [f.separator],
      reSubFrom_matched (f.matchSeparators_single (by simp)) (List.cons_ne_nil _ _)]
    rfl
  rw [reSub, reSubFrom_matched (f.matchSeparators_single hhead) (List.cons_ne_nil _ _),
    lastSeen_cons, lastSeen_nil, reSubFrom_unmatched hcompany, hlast]
  rfl

/-- The tokens are cut out and what is left loses its separators. -/
theorem inferredCompany_eq (hsep : f.separator ≠ '_') :
    inferredCompany (f.front ++ f.period) = String.ofList f.company := by
  have hperiod : reSub matchPeriod [] (f.front ++ f.period) = f.front := by
    rw [reSub, reSubFrom_unmatched f.unmatched_front, ← List.append_nil f.period,
      reSubFrom_matched (f.matchPeriod_period _) f.period_ne_nil]
    simp [reSubFrom]
  have hbehind : reSubFrom matchStock [] 0 (lastSeen none f.stock)
      (f.separator :: (f.company ++ [f.separator]) ++ []) =
        f.separator :: (f.company ++ [f.separator]) ++ [] :=
    reSubFrom_unmatched (fourDigits_matchStock.unmatched_plain f.plain_behind)
  have hstock : reSub matchStock [] f.front = [f.separator] ++ (f.company ++ [f.separator]) := by
    rw [List.append_nil] at hbehind
    rw [reSub, front_eq, reSubFrom_matched (f.matchStock_stock hsep _) f.stock_ne_nil, hbehind]
    rfl
  have hstrip : stripBy isSpace (' ' :: f.company ++ [' ']) = f.company := by
    rw [stripBy_wrap (by decide) (by decide)]
    apply stripBy_eq_self
    · exact fun c hc => f.noblank c (List.mem_of_mem_head? hc)
    · exact fun c hc => f.noblank c (List.mem_of_mem_getLast? hc)
  rw [inferredCompany, hperiod, hstock, reSub_separators, hstrip]
  simp [f.named]

end NamedFile

/-- A name without form fields beside it is read as it is written unless underscores separate its
parts. -/
theorem inferDocumentMeta_eq_iff (f : NamedFile) : inferDocumentMeta f.fileName "" "" "" =
    (String.ofList f.stock,String.ofList f.company,String.ofList f.period) ↔
      f.separator ≠ '_' := by
  have hblank : strip "" = "" := by decide
  have hread : inferDocumentMeta f.fileName "" "" "" = (inferredStock (f.front ++ f.period),
      inferredCompany (f.front ++ f.period),inferredPeriod (f.front ++ f.period)) := by
    rw [inferDocumentMeta, f.stemOf_fileName, if_pos hblank, if_pos hblank, if_pos hblank]
  rw [hread]
  constructor
  · intro heq hsep
    have hstock : inferredStock (f.front ++ f.period) = String.ofList f.stock :=
      congrArg Prod.fst heq
    have hcode : "UNKNOWN".toList = f.stock := by
      rw [← f.inferredStock_underscore hsep, hstock, String.toList_ofList]
    have hletter : 'U' ∈ f.stock := hcode ▸ (by decide)
    exact absurd (f.fourDigits.2 'U' hletter) (by decide)
  · intro hsep
    rw [f.inferredStock_eq hsep, f.inferredCompany_eq hsep, f.inferredPeriod_eq]

def underscoredFile : NamedFile where
  stock := ['2','3','3','0']
  company := ['台','積','電']
  period := ['2','0','2','6','Q','1']
  separator := '_'
  fourDigits := by
    have hall : ['2','3','3','0'].all isDecimal = true := by decide
    exact ⟨rfl,List.all_eq_true.mp hall⟩
  named := List.cons_ne_nil _ _
  plain := by
    have hall : ['台','積','電'].all (fun c => !isDecimal c && !isTokenSeparator c) = true := by
      decide
    intro c hc
    simpa using List.all_eq_true.mp hall c hc
  quarter := ⟨'2','6','1',rfl,by decide,by decide,by decide⟩
  separates := by decide

/-- The code is missed and left in the name of the company. -/
theorem underscoredFile_misread :
    inferDocumentMeta underscoredFile.fileName "" "" "" = ("UNKNOWN","2330 台積電","2026Q1") ∧
      inferDocumentMeta underscoredFile.fileName "" "" "" ≠
        (String.ofList underscoredFile.stock,String.ofList underscoredFile.company,
          String.ofList underscoredFile.period) := by
  have hread : inferDocumentMeta underscoredFile.fileName "" "" "" =
      ("UNKNOWN","2330 台積電","2026Q1") := by decide +kernel
  refine ⟨hread,?_⟩
  rw [hread]
  decide

end FinancialPdfReader
