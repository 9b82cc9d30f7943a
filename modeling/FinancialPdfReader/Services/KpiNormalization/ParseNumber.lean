import FinancialPdfReader.Python.Numeral
import FinancialPdfReader.Services.KpiNormalization

namespace FinancialPdfReader

open Py

/-- What stands in a cell that has no number. -/
def placeholders : List String := ["-", "—", "－", "–", "N/A", "n/a", "--", "＊"]

/-- `t[1:-1]` for a text in brackets of one kind, and whether there are any. -/
def unbracketed (t : List Char) : List Char × Bool :=
  if t.head? = some '(' ∧ t.getLast? = some ')' then (t.tail.dropLast,true)
  else if t.head? = some '（' ∧ t.getLast? = some '）' then (t.tail.dropLast,true)
  else (t,false)

def isPercentOrBlank (c : Char) : Bool := c == '%' || c == ' ' || c == '％'

def isComma (c : Char) : Bool := c == ',' || c == '，'

/-- `t.rstrip("% ％").strip()`, without commas. -/
def withoutSuffix (t : List Char) : List Char :=
  (stripBy isSpace (t.rdropWhile isPercentOrBlank)).filter (fun c => !isComma c)

/-- `-?` -/
def spanMinus : List Char → Bool × List Char
  | '-' :: cs => (true,cs)
  | cs => (false,cs)

/-- `(?:\.\d+)?`, the digits only. -/
def fractionInFront : List Char → List Nat
  | '.' :: cs => (spanDigits cs).1
  | _ => []

/-- The number that `^(-?\d+(?:\.\d+)?)` matches. -/
def numberInFront (t : List Char) : Option ℚ :=
  let (minus,ds) := spanMinus t
  let (whole,rest) := spanDigits ds
  if whole.isEmpty then none
  else
    let fraction := fractionInFront rest
    let value := digitsValue whole + digitsValue fraction / 10^fraction.length
    some (if minus then -value else value)

/-- `parse_number`, its floats read as exact rationals. -/
def parseNumber (text : String) : Option ℚ :=
  let t := strip text
  if t = "" || placeholders.contains t then none
  else
    let (t,negative) := unbracketed t.toList
    (numberInFront (withoutSuffix t)).map (fun value => if negative then -value else value)

section Digits

/-- A character that does not go on with a numeral. -/
def EndsNumeral (c : Char) : Prop := digitValue? c = none ∧ c ≠ '.'

/-- A sign in front of a numeral. -/
def signChars (minus : Bool) : List Char := if minus then ['-'] else []

theorem endsNumeral_of_isSpace {c : Char} (h : isSpace c = true) : EndsNumeral c := by
  have hall : ∀ n ∈ [0x9, 0xa, 0xb, 0xc, 0xd, 0x1c, 0x1d, 0x1e, 0x1f, 0x20, 0x85, 0xa0, 0x1680,
      0x2000, 0x2001, 0x2002, 0x2003, 0x2004, 0x2005, 0x2006, 0x2007, 0x2008, 0x2009, 0x200a,
      0x2028, 0x2029, 0x202f, 0x205f, 0x3000],
      digitValue? (Char.ofNat n) = none ∧ Char.ofNat n ≠ '.' := by decide
  have hc := hall c.toNat (by simpa [isSpace] using h)
  rwa [Char.ofNat_toNat] at hc

theorem EndsNumeral.head {rest : List Char} (hrest : ∀ c ∈ rest, EndsNumeral c) :
    rest.head?.bind digitValue? = none := by
  cases rest with
  | nil => rfl
  | cons c rest => exact (hrest c List.mem_cons_self).1

theorem fractionInFront_ends {rest : List Char} (hrest : ∀ c ∈ rest, EndsNumeral c) :
    fractionInFront rest = [] := by
  unfold fractionInFront
  split
  · exact absurd rfl (hrest '.' List.mem_cons_self).2
  · rfl

theorem digitChar_ne : ∀ d : Fin 10, digitChar d ≠ '-' ∧ digitChar d ≠ '+' ∧ digitChar d ≠ '(' ∧
    digitChar d ≠ '（' ∧ isSpace (digitChar d) = false ∧ isPercentOrBlank (digitChar d) = false ∧
    isComma (digitChar d) = false := by decide

variable (n : Numeral) (minus : Bool)

theorem spanMinus_signChars (rest : List Char) :
    spanMinus (signChars minus ++ n.chars ++ rest) = (minus,n.chars ++ rest) := by
  cases minus with
  | true => rfl
  | false =>
    obtain ⟨d,ds,hwhole⟩ := List.exists_cons_of_ne_nil n.whole_ne
    have hchars : signChars false ++ n.chars ++ rest = n.chars ++ rest := rfl
    have hfirst : ∃ tail, n.chars ++ rest = digitChar d :: tail := by
      rw [Numeral.chars, hwhole]
      exact ⟨_,rfl⟩
    obtain ⟨tail,htail⟩ := hfirst
    rw [hchars, htail]
    unfold spanMinus
    split
    · rename_i heq
      exact absurd (List.cons.inj heq).1 (digitChar_ne d).1
    · rfl

/-- The numeral in front is read, whatever follows that is none of it. -/
theorem numberInFront_append {rest : List Char} (hrest : ∀ c ∈ rest, EndsNumeral c) :
    numberInFront (signChars minus ++ n.chars ++ rest) =
      some (if minus then -n.value else n.value) := by
  have hspan : spanDigits (n.chars ++ rest) = (n.whole.map (·.val),
      (if n.fraction = [] then [] else '.' :: n.fraction.map digitChar) ++ rest) := by
    rw [Numeral.chars, List.append_assoc]
    apply spanDigits_append
    split_ifs
    · exact EndsNumeral.head hrest
    · rfl
  have hfraction : fractionInFront
      ((if n.fraction = [] then [] else '.' :: n.fraction.map digitChar) ++ rest) =
        n.fraction.map (·.val) := by
    split_ifs with hnone
    · rw [List.nil_append, fractionInFront_ends hrest, hnone, List.map_nil]
    · have hdigits := spanDigits_append n.fraction (EndsNumeral.head hrest)
      exact congrArg Prod.fst hdigits
  have hwhole : (n.whole.map (·.val)).isEmpty = false := by
    simpa using n.whole_ne
  rw [numberInFront, spanMinus_signChars]
  simp only [hspan, hfraction, hwhole, Bool.false_eq_true, if_false, Numeral.value,
    List.length_map]

end Digits

inductive Grouping where
  | plain | commas | fullWidthCommas
  deriving DecidableEq, Repr

def Grouping.digits : Grouping → List Char → List Char
  | .plain, cs => cs
  | .commas, cs => grouped ',' cs
  | .fullWidthCommas, cs => grouped '，' cs

inductive Brackets where
  | ascii | fullWidth
  deriving DecidableEq, Repr

def Brackets.opening : Brackets → Char
  | .ascii => '('
  | .fullWidth => '（'

def Brackets.closing : Brackets → Char
  | .ascii => ')'
  | .fullWidth => '）'

/-- The characters of a numeral whose whole part is written in groups. -/
def writtenChars (g : Grouping) (n : Numeral) : List Char :=
  g.digits (n.whole.map digitChar) ++
    if n.fraction = [] then [] else '.' :: n.fraction.map digitChar

section Written

variable (g : Grouping) (n : Numeral) (minus : Bool) (b : Brackets)

theorem filter_writtenChars : (writtenChars g n).filter (fun c => !isComma c) = n.chars := by
  have hdigits : ∀ digits : List (Fin 10),
      (digits.map digitChar).filter (fun c => !isComma c) = digits.map digitChar := by
    intro digits
    rw [List.filter_eq_self]
    intro c hc
    obtain ⟨d,-,rfl⟩ := List.mem_map.mp hc
    simp [(digitChar_ne d).2.2.2.2.2.2]
  have hwhole : (g.digits (n.whole.map digitChar)).filter (fun c => !isComma c) =
      n.whole.map digitChar := by
    cases g with
    | plain => exact hdigits n.whole
    | commas => exact (filter_grouped (by decide)).trans (hdigits n.whole)
    | fullWidthCommas => exact (filter_grouped (by decide)).trans (hdigits n.whole)
  rw [writtenChars, List.filter_append, hwhole, Numeral.chars]
  split_ifs
  · rfl
  · rw [List.filter_cons_of_pos (by decide), hdigits]

theorem writtenChars_head : ∃ d tail, writtenChars g n = digitChar d :: tail := by
  obtain ⟨d,ds,hwhole⟩ := List.exists_cons_of_ne_nil n.whole_ne
  have hhead : (g.digits (n.whole.map digitChar)).head? = some (digitChar d) := by
    rw [hwhole]
    cases g with
    | plain => rfl
    | commas => exact head?_grouped
    | fullWidthCommas => exact head?_grouped
  obtain ⟨tail,htail⟩ := List.head?_eq_some_iff.mp hhead
  exact ⟨d,_,by rw [writtenChars, htail, List.cons_append]⟩

theorem writtenChars_last : ∃ front d, writtenChars g n = front ++ [digitChar d] := by
  have hlast : ∃ d, (writtenChars g n).getLast? = some (digitChar d) := by
    rw [writtenChars]
    split_ifs with hnone
    · have hwhole : (n.whole.map digitChar).getLast? =
          some (digitChar (n.whole.getLast n.whole_ne)) := by
        rw [List.getLast?_map, List.getLast?_eq_getLast_of_ne_nil n.whole_ne, Option.map_some]
      rw [List.append_nil]
      refine ⟨n.whole.getLast n.whole_ne,?_⟩
      cases g with
      | plain => exact hwhole
      | commas => exact getLast?_grouped.trans hwhole
      | fullWidthCommas => exact getLast?_grouped.trans hwhole
    · refine ⟨n.fraction.getLast hnone,?_⟩
      rw [List.getLast?_append_of_ne_nil _ (List.cons_ne_nil _ _), List.getLast?_cons,
        List.getLast?_map, List.getLast?_eq_getLast_of_ne_nil hnone]
      rfl
  obtain ⟨d,hd⟩ := hlast
  obtain ⟨front,hfront⟩ := List.getLast?_eq_some_iff.mp hd
  exact ⟨front,d,hfront⟩

theorem signed_head : ∃ c tail, signChars minus ++ writtenChars g n = c :: tail ∧
    isSpace c = false ∧ c ≠ '(' ∧ c ≠ '（' := by
  cases minus with
  | true => exact ⟨'-',writtenChars g n,rfl,by decide,by decide,by decide⟩
  | false =>
    obtain ⟨d,tail,hwritten⟩ := writtenChars_head g n
    obtain ⟨-,-,hascii,hfull,hspace,-⟩ := digitChar_ne d
    exact ⟨digitChar d,tail,hwritten,hspace,hascii,hfull⟩

/-- What stays of a text with a numeral in front: the numeral without its commas, and perhaps
some of what follows. -/
theorem withoutSuffix_numeral {lead tail : List Char} (hlead : ∀ c ∈ lead, isSpace c = true)
    (htail : ∀ c ∈ tail, EndsNumeral c) : ∃ rest, (∀ c ∈ rest, EndsNumeral c) ∧
    withoutSuffix (lead ++ (signChars minus ++ writtenChars g n ++ tail)) =
      signChars minus ++ n.chars ++ rest := by
  obtain ⟨front,d,hlast⟩ := writtenChars_last g n
  obtain ⟨-,-,-,-,hspace,hsuffix,-⟩ := digitChar_ne d
  obtain ⟨c,more,hhead,hc,-⟩ := signed_head g n minus
  have hpercent : (lead ++ (signChars minus ++ writtenChars g n ++ tail)).rdropWhile
      isPercentOrBlank =
        lead ++ (signChars minus ++ writtenChars g n ++ tail.rdropWhile isPercentOrBlank) := by
    have hkept := rdropWhile_append_kept hsuffix (lead ++ (signChars minus ++ front)) tail
    simpa [hlast] using hkept
  have hstrip : ∀ later : List Char,
      stripBy isSpace (lead ++ (signChars minus ++ writtenChars g n ++ later)) =
        signChars minus ++ writtenChars g n ++ later.rdropWhile isSpace := by
    intro later
    have hfront : (lead ++ (signChars minus ++ writtenChars g n ++ later)).dropWhile isSpace =
        signChars minus ++ writtenChars g n ++ later := by
      rw [List.dropWhile_append_of_pos hlead, hhead, List.cons_append,
        List.dropWhile_cons_of_neg (by simp [hc])]
    have hkept := rdropWhile_append_kept hspace (signChars minus ++ front) later
    rw [stripBy, hfront]
    simpa [hlast] using hkept
  refine ⟨((tail.rdropWhile isPercentOrBlank).rdropWhile isSpace).filter (fun c => !isComma c),
    ?_,?_⟩
  · intro c hc
    have hin := (List.rdropWhile_prefix isSpace _).subset (List.mem_filter.mp hc).1
    exact htail c ((List.rdropWhile_prefix isPercentOrBlank _).subset hin)
  · have hsign : (signChars minus).filter (fun c => !isComma c) = signChars minus := by
      cases minus <;> rfl
    rw [withoutSuffix, hpercent, hstrip, List.filter_append, List.filter_append, hsign,
      filter_writtenChars]

/-- The number of a text with a numeral in front. -/
theorem numberInFront_withoutSuffix {lead tail : List Char}
    (hlead : ∀ c ∈ lead, isSpace c = true) (htail : ∀ c ∈ tail, EndsNumeral c) :
    numberInFront (withoutSuffix (lead ++ (signChars minus ++ writtenChars g n ++ tail))) =
      some (if minus then -n.value else n.value) := by
  obtain ⟨rest,hrest,hkept⟩ := withoutSuffix_numeral g n minus hlead htail
  rw [hkept, numberInFront_append n minus hrest]

end Written

section Cell

variable (g : Grouping) (n : Numeral) (minus : Bool) (b : Brackets)

/-- A text with a digit in it is neither empty nor a placeholder. -/
theorem placeholder_of_digit {t : List Char} {d : Char} (hd : d ∈ t)
    (hdigit : (digitValue? d).isSome = true) :
    (String.ofList t = "" || placeholders.contains (String.ofList t)) = false := by
  have hnone : ("" :: placeholders).all (fun p => p.toList.all
      (fun c => (digitValue? c).isNone)) = true := by decide
  have hnot : String.ofList t ∉ "" :: placeholders := by
    intro hmem
    have hno : (digitValue? d).isNone = true :=
      List.all_eq_true.mp (List.all_eq_true.mp hnone _ hmem) d (by simpa using hd)
    rw [Option.isNone_iff_eq_none.mp hno] at hdigit
    exact Bool.false_ne_true hdigit
  rw [List.mem_cons, not_or] at hnot
  simp [hnot.1, hnot.2]

theorem unbracketed_wrap (cs : List Char) :
    unbracketed (b.opening :: (cs ++ [b.closing])) = (cs,true) := by
  have hlast : (b.opening :: (cs ++ [b.closing])).getLast? = some b.closing := by
    rw [← List.cons_append, List.getLast?_concat]
  have hinner : (b.opening :: (cs ++ [b.closing])).tail.dropLast = cs := by
    rw [List.tail_cons, List.dropLast_concat]
  cases b with
  | ascii => rw [unbracketed, if_pos ⟨rfl,hlast⟩, hinner]
  | fullWidth =>
    rw [unbracketed, if_neg (fun h => absurd (Option.some.inj h.1) (by decide)),
      if_pos ⟨rfl,hlast⟩, hinner]

theorem unbracketed_of_head {c : Char} {tail : List Char} (hascii : c ≠ '(') (hfull : c ≠ '（') :
    unbracketed (c :: tail) = (c :: tail,false) := by
  rw [unbracketed, if_neg (fun h => hascii (Option.some.inj h.1)),
    if_neg (fun h => hfull (Option.some.inj h.1))]

theorem unbracketed_of_last {t : List Char} {last : Char} (hlast : t.getLast? = some last)
    (hopen : last ≠ ')' ∧ last ≠ '）') : unbracketed t = (t,false) := by
  rw [unbracketed, hlast, if_neg (fun h => hopen.1 (Option.some.inj h.2)),
    if_neg (fun h => hopen.2 (Option.some.inj h.2))]

/-- A stripped text with a digit in it is read for the number in front. -/
theorem parseNumber_stripped {t : List Char} (hstrip : stripBy isSpace t = t) {d : Fin 10}
    (hd : digitChar d ∈ t) {inner : List Char} {negative : Bool}
    (hinner : unbracketed t = (inner,negative)) :
    parseNumber (String.ofList t) = (numberInFront (withoutSuffix inner)).map
      (fun value => if negative then -value else value) := by
  have hkept : strip (String.ofList t) = String.ofList t := by
    rw [strip, String.toList_ofList, hstrip]
  unfold parseNumber
  rw [hkept]
  have hdigit : (digitValue? (digitChar d)).isSome = true := by
    rw [digitValue?_digitChar]
    rfl
  simp only [placeholder_of_digit hd hdigit, String.toList_ofList, hinner, Bool.false_eq_true,
    if_false]

/-- A numeral ends in a digit, or in what follows it. -/
theorem writtenChars_append_last {tail : List Char}
    (hlast : ∀ c ∈ tail.getLast?, isSpace c = false) :
    ∃ front last, writtenChars g n ++ tail = front ++ [last] ∧ isSpace last = false := by
  rcases List.eq_nil_or_concat' tail with rfl | ⟨more,last,rfl⟩
  · obtain ⟨front,d,hfront⟩ := writtenChars_last g n
    exact ⟨front,digitChar d,by rw [List.append_nil, hfront],(digitChar_ne d).2.2.2.2.1⟩
  · exact ⟨writtenChars g n ++ more,last,by rw [List.append_assoc],
      hlast last (by rw [List.getLast?_concat]; rfl)⟩

theorem stripBy_first_last {first last : Char} (cs : List Char) (hfirst : isSpace first = false)
    (hlast : isSpace last = false) :
    stripBy isSpace (first :: (cs ++ [last])) = first :: (cs ++ [last]) := by
  apply stripBy_eq_self
  · intro c hc
    obtain rfl := Option.some.inj hc
    exact hfirst
  · intro c hc
    rw [← List.cons_append, List.getLast?_concat] at hc
    obtain rfl := Option.some.inj hc
    exact hlast

/-- A numeral without brackets is read, whatever follows that is none of it. -/
theorem parseNumber_numeral {tail : List Char} (htail : ∀ c ∈ tail, EndsNumeral c)
    (hlast : ∀ c ∈ tail.getLast?, isSpace c = false) :
    parseNumber (String.ofList (signChars minus ++ writtenChars g n ++ tail)) =
      some (if minus then -n.value else n.value) := by
  obtain ⟨d,more,hwritten⟩ := writtenChars_head g n
  obtain ⟨c,rest,hhead,hc,hascii,hfull⟩ := signed_head g n minus
  have hdigit : digitChar d ∈ signChars minus ++ writtenChars g n ++ tail := by simp [hwritten]
  have hstrip : stripBy isSpace (signChars minus ++ writtenChars g n ++ tail) =
      signChars minus ++ writtenChars g n ++ tail := by
    obtain ⟨front,last,hfront,hkept⟩ := writtenChars_append_last g n hlast
    apply stripBy_eq_self
    · rw [hhead]
      intro e he
      obtain rfl := Option.some.inj he
      exact hc
    · intro e he
      rw [List.append_assoc, hfront, ← List.append_assoc, List.getLast?_concat] at he
      obtain rfl := Option.some.inj he
      exact hkept
  have hinner : unbracketed (signChars minus ++ writtenChars g n ++ tail) =
      (signChars minus ++ writtenChars g n ++ tail,false) := by
    rw [hhead]
    exact unbracketed_of_head hascii hfull
  have hnumber := numberInFront_withoutSuffix g n minus
    (fun (c : Char) (hc : c ∈ []) => absurd hc List.not_mem_nil) htail
  rw [parseNumber_stripped hstrip hdigit hinner]
  rw [List.nil_append] at hnumber
  rw [hnumber]
  rfl

/-- A numeral in brackets is read as below zero. -/
theorem parseNumber_bracketed {lead tail : List Char} (hlead : ∀ c ∈ lead, isSpace c = true)
    (htail : ∀ c ∈ tail, EndsNumeral c) :
    parseNumber (String.ofList (b.opening ::
      (lead ++ (writtenChars g n ++ tail) ++ [b.closing]))) = some (-n.value) := by
  obtain ⟨d,more,hwritten⟩ := writtenChars_head g n
  have hdigit : digitChar d ∈ b.opening :: (lead ++ (writtenChars g n ++ tail) ++ [b.closing]) := by
    simp [hwritten]
  have hbrackets : isSpace b.opening = false ∧ isSpace b.closing = false := by
    cases b <;> decide
  have hstrip := stripBy_first_last (lead ++ (writtenChars g n ++ tail)) hbrackets.1 hbrackets.2
  rw [parseNumber_stripped hstrip hdigit (unbracketed_wrap b _)]
  have hnumber := numberInFront_withoutSuffix g n false hlead htail
  rw [signChars, if_neg Bool.false_ne_true, List.nil_append] at hnumber
  rw [hnumber]
  rfl

/-- A character with which no number begins, and which is not removed. -/
structure StandsInFront (c : Char) : Prop where
  kept : isSpace c = false ∧ isPercentOrBlank c = false ∧ isComma c = false
  noSign : c ≠ '-'
  noDigit : digitValue? c = none

/-- Nothing is read where a text without outer brackets begins with no number. -/
theorem parseNumber_no_number {first last : Char} (cs : List Char) (hfirst : StandsInFront first)
    (hlast : isSpace last = false)
    (hinner : unbracketed (first :: (cs ++ [last])) = (first :: (cs ++ [last]),false)) :
    parseNumber (String.ofList (first :: (cs ++ [last]))) = none := by
  obtain ⟨⟨hspace,hsuffix,hcomma⟩,hminus,hdigit⟩ := hfirst
  have hfront : ∀ rest : List Char, numberInFront (first :: rest) = none := by
    intro rest
    have hsign : spanMinus (first :: rest) = (false,first :: rest) := by
      unfold spanMinus
      split
      · rename_i heq
        exact absurd (List.cons.inj heq).1 hminus
      · rfl
    rw [numberInFront, hsign]
    simp [spanDigits, hdigit]
  have hkept : ∃ rest, withoutSuffix (first :: (cs ++ [last])) = first :: rest := by
    have hpercent := rdropWhile_append_kept hsuffix [] (cs ++ [last])
    rw [List.nil_append, List.nil_append] at hpercent
    have hblank := rdropWhile_append_kept hspace [] ((cs ++ [last]).rdropWhile isPercentOrBlank)
    rw [List.nil_append, List.nil_append] at hblank
    refine ⟨(((cs ++ [last]).rdropWhile isPercentOrBlank).rdropWhile isSpace).filter
      (fun c => !isComma c),?_⟩
    rw [withoutSuffix, hpercent, stripBy, List.dropWhile_cons_of_neg (by simp [hspace]), hblank,
      List.filter_cons_of_pos (by simp [hcomma])]
  have htext : strip (String.ofList (first :: (cs ++ [last]))) =
      String.ofList (first :: (cs ++ [last])) := by
    rw [strip, String.toList_ofList, stripBy_first_last cs hspace hlast]
  obtain ⟨rest,hrest⟩ := hkept
  unfold parseNumber
  rw [htext]
  simp only [String.toList_ofList, hinner, hrest, hfront, Option.map_none, ite_self]

/-- Nothing is read where something other than a blank stands behind the brackets. -/
theorem parseNumber_behind_brackets (cs : List Char) {last : Char} (hkept : isSpace last = false)
    (hopen : last ≠ ')' ∧ last ≠ '）') :
    parseNumber (String.ofList (b.opening :: (cs ++ [last]))) = none := by
  apply parseNumber_no_number cs ?_ hkept
  · exact unbracketed_of_last (by rw [← List.cons_append, List.getLast?_concat]) hopen
  · cases b with
    | ascii => exact ⟨by decide,by decide,by decide⟩
    | fullWidth => exact ⟨by decide,by decide,by decide⟩

end Cell

section Begins

/-- A digit stands in front, perhaps behind a minus. -/
def startsNumber (cs : List Char) : Bool :=
  (spanMinus cs).2.head?.any (fun c => (digitValue? c).isSome)

/-- Without the blanks and the brackets around it, and without commas, the text begins with a
digit, perhaps behind a minus. -/
def BeginsWithNumber (text : String) : Prop :=
  startsNumber (((unbracketed (strip text).toList).1.dropWhile isSpace).filter
    (fun c => !isComma c)) = true

theorem numberInFront_isSome_iff (cs : List Char) :
    (numberInFront cs).isSome = true ↔ startsNumber cs = true := by
  rw [numberInFront, startsNumber]
  obtain ⟨minus,ds⟩ := spanMinus cs
  cases ds with
  | nil => simp [spanDigits]
  | cons c rest =>
    cases hdigit : digitValue? c with
    | none => simp [spanDigits, hdigit]
    | some d => simp [spanDigits, hdigit]

/-- No digit is removed from a text. -/
theorem digit_kept {d : Char} (hd : (digitValue? d).isSome = true) :
    d ≠ '-' ∧ isSpace d = false ∧ isPercentOrBlank d = false ∧ isComma d = false := by
  have hnot : ∀ c : Char, digitValue? c = none → d ≠ c := by
    intro c hc heq
    rw [heq, hc] at hd
    exact Bool.false_ne_true hd
  refine ⟨hnot '-' (by decide),?_,?_,?_⟩
  · by_contra hspace
    exact hnot d (endsNumeral_of_isSpace (by simpa using hspace)).1 rfl
  · simp [isPercentOrBlank, hnot '%' (by decide), hnot ' ' (by decide), hnot '％' (by decide)]
  · simp [isComma, hnot ',' (by decide), hnot '，' (by decide)]

theorem startsNumber_iff {cs : List Char} : startsNumber cs = true ↔
    ∃ minus d rest, (digitValue? d).isSome = true ∧ cs = signChars minus ++ d :: rest := by
  constructor
  · intro hstarts
    have hspan : ∃ minus, cs = signChars minus ++ (spanMinus cs).2 := by
      unfold spanMinus
      split
      · exact ⟨true,rfl⟩
      · exact ⟨false,rfl⟩
    obtain ⟨minus,hcs⟩ := hspan
    rw [startsNumber, Option.any_eq_true] at hstarts
    obtain ⟨d,hhead,hd⟩ := hstarts
    obtain ⟨rest,hrest⟩ := List.head?_eq_some_iff.mp hhead
    rw [hrest] at hcs
    exact ⟨minus,d,rest,hd,hcs⟩
  · intro hparts
    obtain ⟨minus,d,rest,hd,rfl⟩ := hparts
    have hspan : spanMinus (signChars minus ++ d :: rest) = (minus,d :: rest) := by
      cases minus with
      | true => rfl
      | false =>
        unfold spanMinus
        split
        · rename_i heq
          exact absurd (List.cons.inj heq).1 (digit_kept hd).1
        · rfl
    rw [startsNumber, hspan]
    exact hd

/-- The commas in front of the digit count no more than those behind it. -/
theorem startsNumber_filter_iff {cs : List Char} :
    startsNumber (cs.filter (fun c => !isComma c)) = true ↔
      ∃ minus front d rest, (digitValue? d).isSome = true ∧ cs = front ++ d :: rest ∧
        front.filter (fun c => !isComma c) = signChars minus := by
  rw [startsNumber_iff]
  constructor
  · intro hparts
    obtain ⟨minus,d,rest,hd,hfilter⟩ := hparts
    obtain ⟨front,behind,rfl,hfront,hbehind⟩ := List.filter_eq_append_iff.mp hfilter
    obtain ⟨commas,later,rfl,hcommas,-,-⟩ := List.filter_eq_cons_iff.mp hbehind
    refine ⟨minus,front ++ commas,d,later,hd,by rw [List.append_assoc],?_⟩
    rw [List.filter_append, hfront, List.filter_eq_nil_iff.mpr hcommas, List.append_nil]
  · intro hparts
    obtain ⟨minus,front,d,rest,hd,rfl,hfront⟩ := hparts
    refine ⟨minus,d,rest.filter (fun c => !isComma c),hd,?_⟩
    rw [List.filter_append, hfront, List.filter_cons_of_pos (by simp [(digit_kept hd).2.2.2])]

theorem prefix_dropWhile {p : Char → Bool} {cs ds : List Char} (h : cs <+: ds) :
    cs.dropWhile p <+: ds.dropWhile p := by
  obtain ⟨rest,rfl⟩ := h
  rw [List.dropWhile_append]
  split_ifs with hempty
  · rw [List.isEmpty_iff.mp hempty]
    exact List.nil_prefix
  · exact List.prefix_append _ _

/-- What is removed from the end leaves a number in front alone. -/
theorem startsNumber_withoutSuffix_iff (cs : List Char) : startsNumber (withoutSuffix cs) = true ↔
    startsNumber ((cs.dropWhile isSpace).filter (fun c => !isComma c)) = true := by
  rw [withoutSuffix, startsNumber_filter_iff, startsNumber_filter_iff]
  constructor
  · intro hparts
    obtain ⟨minus,front,d,rest,hd,hcs,hfront⟩ := hparts
    have hprefix : stripBy isSpace (cs.rdropWhile isPercentOrBlank) <+: cs.dropWhile isSpace :=
      (List.rdropWhile_prefix isSpace _).trans
        (prefix_dropWhile (List.rdropWhile_prefix isPercentOrBlank cs))
    obtain ⟨more,hmore⟩ := hprefix
    refine ⟨minus,front,d,rest ++ more,hd,?_,hfront⟩
    rw [← hmore, hcs, List.append_assoc, List.cons_append]
  · intro hparts
    obtain ⟨minus,front,d,rest,hd,hcs,hfront⟩ := hparts
    obtain ⟨-,hspace,hsuffix,-⟩ := digit_kept hd
    refine ⟨minus,front,d,(rest.rdropWhile isPercentOrBlank).rdropWhile isSpace,hd,?_,hfront⟩
    have hsplit : cs = cs.takeWhile isSpace ++ front ++ d :: rest := by
      rw [List.append_assoc, ← hcs, List.takeWhile_append_dropWhile]
    have hblanks : ∀ c ∈ cs.takeWhile isSpace, isSpace c = true :=
      fun c hc => List.mem_takeWhile_imp hc
    have hlead : ∀ tail, (front ++ d :: tail).dropWhile isSpace = front ++ d :: tail := by
      intro tail
      cases front with
      | nil => exact List.dropWhile_cons_of_neg (by simp [hspace])
      | cons c front =>
        have hhead := List.head?_dropWhile_not isSpace cs
        rw [hcs] at hhead
        exact List.dropWhile_cons_of_neg (by simpa using hhead)
    calc stripBy isSpace (cs.rdropWhile isPercentOrBlank)
        = stripBy isSpace (cs.takeWhile isSpace ++ front ++
            d :: rest.rdropWhile isPercentOrBlank) := by
          rw [← rdropWhile_append_kept hsuffix, ← hsplit]
      _ = (front ++ d :: rest.rdropWhile isPercentOrBlank).rdropWhile isSpace := by
          rw [stripBy, List.append_assoc, List.dropWhile_append_of_pos hblanks, hlead]
      _ = front ++ d :: (rest.rdropWhile isPercentOrBlank).rdropWhile isSpace :=
          rdropWhile_append_kept hspace front _

theorem unbracketed_subset (t : List Char) : (unbracketed t).1 ⊆ t := by
  have hinner : t.tail.dropLast ⊆ t :=
    fun _ hc => List.tail_subset t (List.dropLast_subset t.tail hc)
  rw [unbracketed]
  split_ifs
  · exact hinner
  · exact hinner
  · exact fun c hc => hc

theorem BeginsWithNumber.digit {text : String} (h : BeginsWithNumber text) :
    ∃ d ∈ (strip text).toList, (digitValue? d).isSome = true := by
  obtain ⟨-,front,d,rest,hd,hsplit,-⟩ := startsNumber_filter_iff.mp h
  have hmem : d ∈ (unbracketed (strip text).toList).1.dropWhile isSpace := by simp [hsplit]
  exact ⟨d,unbracketed_subset _ ((List.dropWhile_suffix isSpace).subset hmem),hd⟩

/-- A text is read exactly when it begins with a number. -/
theorem parseNumber_isSome_iff (text : String) :
    (parseNumber text).isSome = true ↔ BeginsWithNumber text := by
  by_cases hplaceholder : (strip text = "" || placeholders.contains (strip text)) = true
  · have hnone : parseNumber text = none := if_pos hplaceholder
    rw [hnone]
    refine iff_of_false Bool.false_ne_true ?_
    intro hbegins
    obtain ⟨d,hmem,hd⟩ := hbegins.digit
    have hnot := placeholder_of_digit hmem hd
    rw [String.ofList_toList] at hnot
    rw [hnot] at hplaceholder
    exact Bool.false_ne_true hplaceholder
  · have hsome : (parseNumber text).isSome =
        (numberInFront (withoutSuffix (unbracketed (strip text).toList).1)).isSome := by
      unfold parseNumber
      dsimp only
      rw [if_neg hplaceholder, Option.isSome_map]
    rw [hsome, numberInFront_isSome_iff, startsNumber_withoutSuffix_iff, BeginsWithNumber]

end Begins

inductive PercentSign where
  | ascii | fullWidth
  deriving DecidableEq, Repr

def PercentSign.char : PercentSign → Char
  | .ascii => '%'
  | .fullWidth => '％'

theorem percentSign_char (p : PercentSign) :
    EndsNumeral p.char ∧ isSpace p.char = false ∧ p.char ≠ ')' ∧ p.char ≠ '）' := by
  cases p <;> exact ⟨⟨by decide,by decide⟩,by decide,by decide,by decide⟩

inductive Negation where
  | none | minus | brackets (b : Brackets)
  deriving DecidableEq, Repr

/-- A numeral as the tables print it. -/
structure StyledNumeral where
  numeral : Numeral
  grouping : Grouping
  negation : Negation
  percent : Option PercentSign

namespace StyledNumeral

def percentChars (s : StyledNumeral) : List Char := (s.percent.map PercentSign.char).toList

def text (s : StyledNumeral) : String :=
  String.ofList <| match s.negation with
  | .none => writtenChars s.grouping s.numeral ++ s.percentChars
  | .minus => '-' :: writtenChars s.grouping s.numeral ++ s.percentChars
  | .brackets b => b.opening :: (writtenChars s.grouping s.numeral ++ [b.closing]) ++ s.percentChars

def value (s : StyledNumeral) : ℚ :=
  match s.negation with
  | .none => s.numeral.value
  | _ => -s.numeral.value

/-- The percent sign stands behind brackets. -/
def PercentBehindBrackets (s : StyledNumeral) : Prop :=
  (∃ b, s.negation = .brackets b) ∧ s.percent ≠ none

end StyledNumeral

/-- A numeral as it is printed is read back as its value, but for a percent sign behind
brackets. -/
theorem parseNumber_text_iff (s : StyledNumeral) :
    parseNumber s.text = some s.value ↔ ¬s.PercentBehindBrackets := by
  obtain ⟨n,g,negation,percent⟩ := s
  have hends : ∀ c ∈ (percent.map PercentSign.char).toList, EndsNumeral c := by
    intro c hc
    obtain ⟨p,-,rfl⟩ := Option.map_eq_some_iff.mp (Option.mem_toList.mp hc)
    exact (percentSign_char p).1
  have hlast : ∀ c ∈ (percent.map PercentSign.char).toList.getLast?, isSpace c = false := by
    intro c hc
    obtain ⟨p,-,rfl⟩ := Option.map_eq_some_iff.mp
      (Option.mem_toList.mp (List.mem_of_getLast? hc))
    exact (percentSign_char p).2.1
  cases negation with
  | none =>
    refine iff_of_true (parseNumber_numeral g n false hends hlast) ?_
    intro hbehind
    obtain ⟨⟨b,hb⟩,-⟩ := hbehind
    cases hb
  | minus =>
    refine iff_of_true (parseNumber_numeral g n true hends hlast) ?_
    intro hbehind
    obtain ⟨⟨b,hb⟩,-⟩ := hbehind
    cases hb
  | brackets b =>
    cases percent with
    | none =>
      refine iff_of_true ?_ (fun hbehind => hbehind.2 rfl)
      have hread := parseNumber_bracketed g n b
        (fun (c : Char) (hc : c ∈ []) => absurd hc List.not_mem_nil)
        (fun (c : Char) (hc : c ∈ []) => absurd hc List.not_mem_nil)
      simpa [StyledNumeral.text, StyledNumeral.percentChars, StyledNumeral.value] using hread
    | some p =>
      refine iff_of_false ?_ (fun hnot => hnot ⟨⟨b,rfl⟩,by simp⟩)
      have hunread := parseNumber_behind_brackets b (writtenChars g n ++ [b.closing])
        (percentSign_char p).2.1 (percentSign_char p).2.2
      have htext : StyledNumeral.text ⟨n,g,.brackets b,some p⟩ =
          String.ofList (b.opening :: (writtenChars g n ++ [b.closing] ++ [p.char])) := rfl
      rw [htext, hunread]
      exact nofun

/-- `(12.5)%` -/
def bracketedPercent : StyledNumeral where
  numeral := ⟨[⟨1,by decide⟩,⟨2,by decide⟩],[⟨5,by decide⟩],by decide⟩
  grouping := .plain
  negation := .brackets .ascii
  percent := some .ascii

/-- A negative percentage in brackets is not read. -/
theorem bracketedPercent_unread : bracketedPercent.text = "(12.5)%" ∧
    bracketedPercent.value = -25/2 ∧ parseNumber bracketedPercent.text = none ∧
    parseNumber bracketedPercent.text ≠ some bracketedPercent.value := by
  refine ⟨by decide +kernel,by decide +kernel,by decide +kernel,?_⟩
  have hnone : parseNumber bracketedPercent.text = none := by decide +kernel
  rw [hnone]
  exact nofun

end FinancialPdfReader
