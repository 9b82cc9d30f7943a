import FinancialPdfReader.Python.Lower
import FinancialPdfReader.Python.Numeral
import FinancialPdfReader.Services.Summarization.Metrics

namespace FinancialPdfReader

open Py

/-- The first percentage of a text, as it is written. -/
def percentage (claimText : String) : Option ℚ := searchDelta (lower claimText).toList

/-- The words of a fall that turn a percentage downwards. -/
def saysFall (claimText : String) : Bool :=
  anyIn ["下降","減少"] claimText || anyIn ["drop","down"] (lower claimText)

/-- Those of a rise, which are only looked for where there is none of a fall. -/
def saysRise (claimText : String) : Bool :=
  anyIn ["增加","成長"] claimText || isIn "up" (lower claimText)

theorem extractDelta_eq (claimText : String) : extractDelta claimText =
    (percentage claimText).map (fun value =>
      if saysFall claimText then -|value| else if saysRise claimText then |value| else value) := by
  rw [extractDelta, percentage]
  cases searchDelta (lower claimText).toList with
  | none => rfl
  | some value =>
    change (if saysFall claimText then some (-|value|)
      else if saysRise claimText then some |value| else some value) = _
    cases saysFall claimText <;> cases saysRise claimText <;> rfl

section Directions

variable {claimText : String}

/-- Without a number the words of a fall go before those of a rise. -/
theorem directionFromText_none :
    (directionFromText claimText none = .down ↔
      saysFall claimText = true ∨ isIn "衰退" claimText = true) ∧
    (directionFromText claimText none = .up ↔
      saysFall claimText = false ∧ isIn "衰退" claimText = false ∧
        (saysRise claimText = true ∨ isIn "提升" claimText = true ∨
          isIn "increase" (lower claimText) = true)) := by
  have hword : ∀ word ∈ ["下降","減少","衰退","增加","成長","提升"],
      isIn word (lower claimText) = isIn word claimText := by
    have hcaseless : ∀ word ∈ ["下降","減少","衰退","增加","成長","提升"],
        word.toList.all caseless = true := by decide
    intro word hword
    exact isIn_lower (List.all_eq_true.mp (hcaseless word hword)) claimText
  have hfall : anyIn ["下降","減少","衰退","drop","down"] (lower claimText) =
      (saysFall claimText || isIn "衰退" claimText) := by
    simp only [anyIn, List.any_cons, List.any_nil, saysFall, Bool.or_false,
      hword "下降" (by decide), hword "減少" (by decide), hword "衰退" (by decide)]
    simp only [Bool.or_assoc, Bool.or_comm, Bool.or_left_comm]
  have hrise : anyIn ["增加","成長","提升","up","increase"] (lower claimText) =
      (saysRise claimText || (isIn "提升" claimText || isIn "increase" (lower claimText))) := by
    simp only [anyIn, List.any_cons, List.any_nil, saysRise, Bool.or_false,
      hword "增加" (by decide), hword "成長" (by decide), hword "提升" (by decide)]
    simp only [Bool.or_assoc, Bool.or_comm, Bool.or_left_comm]
  rw [directionFromText, hfall, hrise]
  cases saysFall claimText with
  | true => simp
  | false =>
    cases isIn "衰退" claimText with
    | true => simp
    | false =>
      simp only [Bool.false_or, Bool.or_eq_true, Bool.false_eq_true, if_false, or_self, true_and]
      split
      · rename_i hrises
        simp [hrises]
      · rename_i hrises
        simp [hrises]

/-- The number never turns what the words say around. -/
def DirectionsAgree (claimText : String) : Prop :=
  (directionFromText claimText none = .down →
    directionFromText claimText (extractDelta claimText) ≠ .up) ∧
  (directionFromText claimText none = .up →
    directionFromText claimText (extractDelta claimText) ≠ .down)

/-- The words that only the path without a number knows come with percentages that agree with
them: 衰退 with none that is read as a rise, 提升 and increase with none below zero. -/
structure NumberFollowsWords (claimText : String) (value : ℚ) : Prop where
  fall : isIn "衰退" claimText = true → saysFall claimText = false →
    value ≤ 0 ∧ (saysRise claimText = true → value = 0)
  rise : isIn "提升" claimText = true ∨ isIn "increase" (lower claimText) = true →
    saysFall claimText = false → isIn "衰退" claimText = false → saysRise claimText = false →
    0 ≤ value

theorem directionsAgree_iff (claimText : String) : DirectionsAgree claimText ↔
    ∀ value, percentage claimText = some value → NumberFollowsWords claimText value := by
  rw [DirectionsAgree, extractDelta_eq]
  cases percentage claimText with
  | none =>
    simp only [Option.map_none, reduceCtorEq, false_imp_iff, forall_const, iff_true]
    constructor
    · intro hdown
      simp [hdown]
    · intro hup
      simp [hup]
  | some value =>
    simp only [Option.map_some, Option.some_inj, forall_eq', ne_eq, directionFromText_some,
      directionFromText_none]
    cases hfall : saysFall claimText with
    | true =>
      simp only [if_true, true_or, forall_const, Bool.true_eq_false, false_and, false_imp_iff,
        and_true, Left.neg_pos_iff]
      constructor
      · intro _
        exact ⟨by simp [hfall],by simp [hfall]⟩
      · intro _
        exact not_lt.mpr (abs_nonneg value)
    | false =>
      simp only [Bool.false_eq_true, if_false, false_or, true_and]
      cases hrise : saysRise claimText with
      | true =>
        simp only [if_true, true_or, and_true, abs_pos, not_lt, abs_nonneg, implies_true, ne_eq,
          not_not]
        constructor
        · intro hzero
          exact ⟨fun hword _ => ⟨(hzero hword).le,fun _ => hzero hword⟩,by simp [hrise]⟩
        · intro hfollows hword
          exact (hfollows.fall hword hfall).2 hrise
      | false =>
        simp only [Bool.false_eq_true, if_false, false_or, not_lt]
        constructor
        · intro hparts
          obtain ⟨hdown,hup⟩ := hparts
          exact ⟨fun hword _ => ⟨hdown hword,by simp [hrise]⟩,
            fun hword _ hnone _ => hup ⟨hnone,hword⟩⟩
        · intro hfollows
          exact ⟨fun hword => (hfollows.fall hword hfall).1,
            fun hparts => hfollows.rise hparts.2 hfall hparts.1 hrise⟩

/-- Without the number the revenue shrinks, with it it grows. -/
theorem shrinking_grows : directionFromText "營收衰退 5%" none = .down ∧
    directionFromText "營收衰退 5%" (extractDelta "營收衰退 5%") = .up ∧
    ¬ DirectionsAgree "營收衰退 5%" := by
  have hdown : directionFromText "營收衰退 5%" none = .down := by decide +kernel
  have hup : directionFromText "營收衰退 5%" (extractDelta "營收衰退 5%") = .up := by
    decide +kernel
  exact ⟨hdown,hup,fun h => h.1 hdown hup⟩

end Directions

section Sign

theorem spanNumber_nonneg {cs rest : List Char} {value : ℚ}
    (h : spanNumber cs = some (value,rest)) : 0 ≤ value := by
  rw [spanNumber] at h
  split at h
  · contradiction
  · split at h
    · cases h
      exact digitsValue_nonneg _
    · cases h
      exact add_nonneg (digitsValue_nonneg _) (div_nonneg (digitsValue_nonneg _) (by positivity))
  · cases h
    exact digitsValue_nonneg _

/-- The match without a sign. -/
def matchUnsigned (cs : List Char) : Option ℚ :=
  (spanNumber cs).bind (fun e => if hasUnit e.2 then some e.1 else none)

theorem matchUnsigned_nonneg {cs : List Char} {value : ℚ} (h : matchUnsigned cs = some value) :
    0 ≤ value := by
  obtain ⟨e,he,hunit⟩ := Option.bind_eq_some_iff.mp h
  split at hunit
  · obtain rfl := Option.some.inj hunit
    exact spanNumber_nonneg he
  · contradiction

theorem matchDelta_minus (cs : List Char) :
    matchDelta ('-' :: cs) = (matchUnsigned cs).map (fun value => -value) := by
  rw [matchDelta, matchUnsigned]
  cases spanNumber cs with
  | none => rfl
  | some e =>
    obtain ⟨value,rest⟩ := e
    cases hunit : hasUnit rest <;> simp [hunit]

theorem matchDelta_plain {cs : List Char} (hplus : cs.head? ≠ some '+')
    (hminus : cs.head? ≠ some '-') : matchDelta cs = matchUnsigned cs := by
  rw [matchDelta.eq_def, matchUnsigned]
  split
  rename_i negative rest hsign
  split at hsign
  · exact absurd rfl hplus
  · exact absurd rfl hminus
  · cases hsign
    cases spanNumber cs with
    | none => rfl
    | some e => rfl

theorem matchDelta_plus (cs : List Char) : matchDelta ('+' :: cs) = matchUnsigned cs := by
  rw [matchDelta, matchUnsigned]
  cases spanNumber cs with
  | none => rfl
  | some e => rfl

/-- A match is below zero only with a minus in front, and with one it is never above zero. -/
theorem matchDelta_sign {cs : List Char} {value : ℚ} (h : matchDelta cs = some value) :
    (value < 0 → cs.head? = some '-') ∧ (cs.head? = some '-' → value ≤ 0) := by
  by_cases hminus : cs.head? = some '-'
  · obtain ⟨rest,rfl⟩ := List.head?_eq_some_iff.mp hminus
    rw [matchDelta_minus] at h
    obtain ⟨size,hsize,rfl⟩ := Option.map_eq_some_iff.mp h
    have hnonneg := matchUnsigned_nonneg hsize
    exact ⟨fun _ => hminus,fun _ => by linarith⟩
  · have hnonneg : 0 ≤ value := by
      by_cases hplus : cs.head? = some '+'
      · obtain ⟨rest,rfl⟩ := List.head?_eq_some_iff.mp hplus
        rw [matchDelta_plus] at h
        exact matchUnsigned_nonneg h
      · rw [matchDelta_plain hplus hminus] at h
        exact matchUnsigned_nonneg h
    exact ⟨fun hneg => absurd hneg (not_lt.mpr hnonneg),fun h => absurd h hminus⟩

theorem searchDelta_eq_search (cs : List Char) : searchDelta cs = search matchDelta cs := by
  induction cs with
  | nil => rfl
  | cons c cs ih =>
    rw [searchDelta, search, ih]
    cases matchDelta (c :: cs) <;> rfl

/-- A minus directly after a digit belongs to a range; elsewhere it is a sign. -/
def IsSign (before rest : List Char) : Prop :=
  rest.head? = some '-' ∧ before.getLast?.bind digitValue? = none

/-- The percentage that is matched has a minus sign. -/
def GenuineMinus (claimText : String) : Prop :=
  ∃ before rest value,
    Leftmost matchDelta (lower claimText).toList before rest value ∧ IsSign before rest

/-- The sign of what is extracted is that of the text: it is below zero only where a fall is told
or the percentage has a minus sign, and never above zero with a minus sign. -/
structure SignJustified (claimText : String) : Prop where
  below : ∀ delta, extractDelta claimText = some delta → delta < 0 →
    saysFall claimText = true ∨ GenuineMinus claimText
  genuine : GenuineMinus claimText → ∀ delta, extractDelta claimText = some delta → ¬ 0 < delta

theorem GenuineMinus.value_le {claimText : String} (h : GenuineMinus claimText) {value : ℚ}
    (hvalue : percentage claimText = some value) : value ≤ 0 := by
  obtain ⟨before,rest,value',hleft,hsign,-⟩ := h
  have hfound : percentage claimText = some value' := by
    rw [percentage, searchDelta_eq_search]
    exact search_eq_some_iff.mpr ⟨before,rest,hleft⟩
  obtain rfl := Option.some.inj (hvalue.symm.trans hfound)
  exact (matchDelta_sign hleft.found).2 hsign

/-- Where no fall is told and the percentage is read with a minus, that minus has to be a sign
exactly where no rise is told: a rise takes the minus away. -/
theorem signJustified_iff (claimText : String) : SignJustified claimText ↔
    ∀ value, percentage claimText = some value → value < 0 → saysFall claimText = false →
      (GenuineMinus claimText ↔ saysRise claimText = false) := by
  constructor
  · intro h value hvalue hneg hfall
    have hdelta : extractDelta claimText =
        some (if saysRise claimText then |value| else value) := by
      rw [extractDelta_eq, hvalue, hfall]
      rfl
    constructor
    · intro hgenuine
      by_contra hrise
      rw [Bool.not_eq_false] at hrise
      rw [if_pos hrise] at hdelta
      exact h.genuine hgenuine _ hdelta (abs_pos.mpr hneg.ne)
    · intro hrise
      rw [hrise] at hdelta
      rcases h.below _ hdelta hneg with htold | hgenuine
      · exact absurd (hfall.symm.trans htold) Bool.false_ne_true
      · exact hgenuine
  · intro h
    have hextract : ∀ delta, extractDelta claimText = some delta →
        ∃ value, percentage claimText = some value ∧
          delta = if saysFall claimText then -|value|
            else if saysRise claimText then |value| else value := by
      intro delta hdelta
      rw [extractDelta_eq, Option.map_eq_some_iff] at hdelta
      obtain ⟨value,hvalue,heq⟩ := hdelta
      exact ⟨value,hvalue,heq.symm⟩
    constructor
    · intro delta hdelta hneg
      obtain ⟨value,hvalue,rfl⟩ := hextract delta hdelta
      cases hfall : saysFall claimText with
      | true => exact Or.inl rfl
      | false =>
        right
        rw [if_neg (by simp [hfall])] at hneg
        cases hrise : saysRise claimText with
        | true =>
          rw [if_pos hrise] at hneg
          exact absurd hneg (not_lt.mpr (abs_nonneg value))
        | false =>
          rw [if_neg (by simp [hrise])] at hneg
          exact (h value hvalue hneg hfall).mpr hrise
    · intro hgenuine delta hdelta hpos
      obtain ⟨value,hvalue,rfl⟩ := hextract delta hdelta
      have hle := hgenuine.value_le hvalue
      split_ifs at hpos with hfall hrise
      · linarith [abs_nonneg value]
      · have hneg : value < 0 := lt_of_le_of_ne hle (abs_pos.mp hpos)
        have hnone := (h value hvalue hneg (by simpa using hfall)).mp hgenuine
        exact absurd (hnone.symm.trans hrise) Bool.false_ne_true
      · linarith

/-- Whether the match has a minus sign, scanned with the character in front. -/
def genuineMinus : Option Char → List Char → Bool
  | _, [] => false
  | previous, c :: cs =>
      if (matchDelta (c :: cs)).isSome then c == '-' && (previous.bind digitValue?).isNone
      else genuineMinus (some c) cs

theorem genuineMinus_iff {previous : Option Char} {cs : List Char} :
    genuineMinus previous cs = true ↔ ∃ before rest value,
      Leftmost matchDelta cs before rest value ∧ rest.head? = some '-' ∧
        (before.getLast?.or previous).bind digitValue? = none := by
  induction cs generalizing previous with
  | nil =>
    constructor
    · intro h
      contradiction
    · intro hparts
      obtain ⟨before,rest,value,hleft,hminus,-⟩ := hparts
      obtain ⟨-,rfl⟩ := List.append_eq_nil_iff.mp hleft.split.symm
      contradiction
  | cons c cs ih =>
    rw [genuineMinus]
    cases hc : matchDelta (c :: cs) with
    | some found =>
      simp only [Option.isSome_some, if_true, Bool.and_eq_true, beq_iff_eq,
        Option.isNone_iff_eq_none]
      constructor
      · intro hparts
        obtain ⟨rfl,hdigit⟩ := hparts
        exact ⟨[],_,found,leftmost_here hc,rfl,hdigit⟩
      · intro hparts
        obtain ⟨before,rest,value,hleft,hminus,hdigit⟩ := hparts
        obtain rfl := hleft.nil_of_some hc
        obtain rfl : c :: cs = rest := hleft.split
        exact ⟨Option.some.inj hminus,hdigit⟩
    | none =>
      have hlast : ∀ before : List Char, ((c :: before).getLast?.or previous) =
          before.getLast?.or (some c) := by
        intro before
        rw [List.getLast?_cons]
        cases before.getLast? <;> rfl
      rw [if_neg (by simp), ih]
      constructor
      · intro hparts
        obtain ⟨before,rest,value,hleft,hminus,hdigit⟩ := hparts
        exact ⟨c :: before,rest,value,hleft.cons hc,hminus,by rwa [hlast]⟩
      · intro hparts
        obtain ⟨before,rest,value,hleft,hminus,hdigit⟩ := hparts
        obtain ⟨before',rfl,hleft'⟩ := hleft.tail hc
        exact ⟨before',rest,value,hleft',hminus,by rwa [← hlast]⟩

instance (claimText : String) : Decidable (GenuineMinus claimText) :=
  decidable_of_iff (genuineMinus none (lower claimText).toList = true) <| by
    rw [genuineMinus_iff, GenuineMinus]
    simp only [IsSign, Option.or_none]

/-- The hyphen of a range is taken for a minus, and the letters of another word for a rise that
takes a minus away. -/
theorem range_group_misread : extractDelta "毛利率約 10-15%" = some (-15) ∧
    ¬ SignJustified "毛利率約 10-15%" ∧
    extractDelta "Group revenue -5%" = some 5 ∧ ¬ SignJustified "Group revenue -5%" := by
  have hrange : extractDelta "毛利率約 10-15%" = some (-15) := by decide +kernel
  have hgroup : extractDelta "Group revenue -5%" = some 5 := by decide +kernel
  have hhyphen : ¬ GenuineMinus "毛利率約 10-15%" := by decide +kernel
  have hminus : GenuineMinus "Group revenue -5%" := by decide +kernel
  have hnofall : saysFall "毛利率約 10-15%" = false := by decide +kernel
  refine ⟨hrange,?_,hgroup,?_⟩
  · intro h
    rcases h.below (-15) hrange (by norm_num) with hfall | hgenuine
    · exact absurd (hnofall.symm.trans hfall) Bool.false_ne_true
    · exact hhyphen hgenuine
  · intro h
    exact h.genuine hminus 5 hgroup (by norm_num)

end Sign

end FinancialPdfReader
