import FinancialPdfReader.Services.KpiNormalization.ParseNumber

namespace FinancialPdfReader

open Py

/-- The cells in which a row is searched for a value: from the second on, if the label has one of
the keywords. -/
def valueCells (keywords : List String) : (row : List String) → List String
  | label :: raw :: cells => if keywords.any (isIn · label) then raw :: cells else []
  | _ => []

/-- The first cell that is read, and its number. -/
def firstNumber (cells : List String) : Option (ℚ × String) :=
  cells.findSome? (fun raw => (parseNumber raw).map (fun value => (value,raw)))

def extractKpiFromMarkdown (markdown : String) (keywords : List String) : Option ℚ × String :=
  match (parseMarkdownRows markdown).findSome? (fun row => firstNumber (valueCells keywords row))
  with
  | some (value,raw) => (some value,raw)
  | none => (none,"")

/-- A cell of a table with its place, row and column counted from zero. -/
structure TableCell where
  row : Nat
  col : Nat
  raw : String
  deriving DecidableEq

/-- The cells searched in a table, in order. -/
def searchedCells (markdown : String) (keywords : List String) : List TableCell :=
  (parseMarkdownRows markdown).zipIdx.flatMap (fun e =>
    ((valueCells keywords e.1).zipIdx 1).map (fun c => ⟨e.2,c.2,c.1⟩))

/-- The cell that a value comes from. -/
def sourceCell (markdown : String) (keywords : List String) : Option TableCell :=
  (searchedCells markdown keywords).find? (fun cell => (parseNumber cell.raw).isSome)

/-- What a cell stands for in its table, which its text alone does not tell: `2025` may be an
amount or a year, `(6)` a loss or the number of a note. -/
inductive CellMeaning where
  | value | periodLabel | date | range | footnoteReference
  deriving DecidableEq, Repr

/-- Digits of any script. -/
structure DigitRun where
  chars : List Char
  ne : chars ≠ []
  digit : ∀ c ∈ chars, (digitValue? c).isSome = true

structure Blanks where
  chars : List Char
  blank : ∀ c ∈ chars, isSpace c = true

def isHan (c : Char) : Bool :=
  (0x3400 ≤ c.toNat && c.toNat ≤ 0x4DBF) || (0x4E00 ≤ c.toNat && c.toNat ≤ 0x9FFF)

/-- A unit in Chinese characters. -/
structure ChineseUnit where
  chars : List Char
  ne : chars ≠ []
  han : ∀ c ∈ chars, isHan c = true

/-- What may stand behind the digits, or behind the brackets, each perhaps some blanks away. -/
structure NumeralSuffix where
  percent : Option (Blanks × PercentSign)
  unit : Option (Blanks × ChineseUnit)

def NumeralSuffix.chars (s : NumeralSuffix) : List Char :=
  (match s.percent with
  | none => []
  | some (blanks,p) => blanks.chars ++ [p.char]) ++
  match s.unit with
  | none => []
  | some (blanks,u) => blanks.chars ++ u.chars

inductive CellSign where
  | none | plus | minus
  | brackets (b : Brackets) (lead trail : Blanks) (behind : NumeralSuffix)

/-- A cell that is as a whole a numeral. -/
structure NumeralCell where
  whole : DigitRun
  grouping : Grouping
  fraction : Option DigitRun
  sign : CellSign
  suffix : NumeralSuffix

namespace NumeralCell

def fractionChars (cell : NumeralCell) : List Char :=
  match cell.fraction with
  | none => []
  | some digits => '.' :: digits.chars

/-- The digits and what follows them. -/
def body (cell : NumeralCell) : List Char :=
  cell.grouping.digits cell.whole.chars ++ cell.fractionChars ++ cell.suffix.chars

def chars (cell : NumeralCell) : List Char :=
  match cell.sign with
  | .none => cell.body
  | .plus => '+' :: cell.body
  | .minus => '-' :: cell.body
  | .brackets b lead trail behind =>
      b.opening :: (lead.chars ++ (cell.body ++ trail.chars) ++ [b.closing]) ++ behind.chars

/-- Neither a plus nor anything behind the brackets. -/
def Readable (cell : NumeralCell) : Prop :=
  match cell.sign with
  | .plus => False
  | .brackets _ _ _ behind => behind.chars = []
  | _ => True

end NumeralCell

/-- Optional sign or brackets, digits with optional commas and decimals, optional percent sign,
optional unit. -/
def WholeNumeral (raw : String) : Prop := ∃ cell : NumeralCell, String.ofList cell.chars = raw

/-- A numeral of a form that is read. -/
def ReadNumeral (raw : String) : Prop :=
  ∃ cell : NumeralCell, String.ofList cell.chars = raw ∧ cell.Readable

/-- The cell is as a whole a numeral and stands for a value, not for a period, a date, a range or
a footnote. -/
def HoldsValue (meaning : Nat → Nat → CellMeaning) (cell : TableCell) : Prop :=
  WholeNumeral cell.raw ∧ meaning cell.row cell.col = .value

/-- Whatever is returned comes from a cell that holds a value. -/
def ReturnsValues (meaning : Nat → Nat → CellMeaning) (markdown : String)
    (keywords : List String) : Prop :=
  ∀ value raw, extractKpiFromMarkdown markdown keywords = (some value,raw) →
    ∃ cell, sourceCell markdown keywords = some cell ∧ cell.raw = raw ∧ HoldsValue meaning cell

section Ends

/-- A character that neither is stripped nor closes brackets. -/
def EndsCell (c : Char) : Prop := isSpace c = false ∧ c ≠ ')' ∧ c ≠ '）'

theorem endsCell_of_isHan {c : Char} (h : isHan c = true) : EndsCell c := by
  have hrange : 0x3400 ≤ c.toNat ∧ c.toNat ≤ 0x9FFF := by
    simp only [isHan, Bool.or_eq_true, Bool.and_eq_true, decide_eq_true_eq] at h
    omega
  refine ⟨?_,?_,?_⟩
  · simp only [isSpace, List.mem_cons, List.not_mem_nil, or_false, decide_eq_false_iff_not]
    omega
  · rintro rfl
    exact absurd hrange (by decide)
  · rintro rfl
    exact absurd hrange (by decide)

theorem NumeralSuffix.last (s : NumeralSuffix) : ∀ c ∈ s.chars.getLast?, EndsCell c := by
  obtain ⟨percent,unit⟩ := s
  intro c hc
  cases unit with
  | some unit =>
    obtain ⟨blanks,u⟩ := unit
    simp only [NumeralSuffix.chars] at hc
    rw [← List.append_assoc, List.getLast?_append_of_ne_nil _ u.ne] at hc
    exact endsCell_of_isHan (u.han c (List.mem_of_getLast? hc))
  | none =>
    cases percent with
    | none => simp [NumeralSuffix.chars] at hc
    | some percent =>
      obtain ⟨blanks,p⟩ := percent
      simp only [NumeralSuffix.chars, List.append_nil, List.getLast?_concat] at hc
      obtain rfl := Option.some.inj hc
      exact (percentSign_char p).2

end Ends

namespace NumeralCell

variable (cell : NumeralCell)

theorem body_head : ∃ d tail, cell.body = d :: tail ∧ (digitValue? d).isSome = true := by
  obtain ⟨d,ds,hwhole⟩ := List.exists_cons_of_ne_nil cell.whole.ne
  have hhead : (cell.grouping.digits cell.whole.chars).head? = some d := by
    rw [hwhole]
    cases cell.grouping with
    | plain => rfl
    | commas => exact head?_grouped
    | fullWidthCommas => exact head?_grouped
  obtain ⟨tail,htail⟩ := List.head?_eq_some_iff.mp hhead
  refine ⟨d,tail ++ cell.fractionChars ++ cell.suffix.chars,?_,?_⟩
  · rw [body, htail, List.cons_append, List.cons_append]
  · exact cell.whole.digit d (by rw [hwhole]; exact List.mem_cons_self)

theorem body_ne : cell.body ≠ [] := by
  obtain ⟨d,tail,hbody,-⟩ := cell.body_head
  rw [hbody]
  exact List.cons_ne_nil d tail

theorem body_last : ∀ c ∈ cell.body.getLast?, isSpace c = false := by
  have hdigit : ∀ digits : DigitRun, ∀ c ∈ digits.chars.getLast?, isSpace c = false :=
    fun digits c hc => (digit_kept (digits.digit c (List.mem_of_getLast? hc))).2.1
  intro c hc
  rcases eq_or_ne cell.suffix.chars [] with hsuffix | hsuffix
  · rw [body, hsuffix, List.append_nil, fractionChars] at hc
    cases hfraction : cell.fraction with
    | none =>
      have hwhole : (cell.grouping.digits cell.whole.chars).getLast? =
          cell.whole.chars.getLast? := by
        cases cell.grouping with
        | plain => rfl
        | commas => exact getLast?_grouped
        | fullWidthCommas => exact getLast?_grouped
      rw [hfraction, List.append_nil, hwhole] at hc
      exact hdigit cell.whole c hc
    | some digits =>
      rw [hfraction, List.append_cons, List.getLast?_append_of_ne_nil _ digits.ne] at hc
      exact hdigit digits c hc
  · rw [body, List.getLast?_append_of_ne_nil _ hsuffix] at hc
    exact (cell.suffix.last c hc).1

theorem strip_body (front : List Char)
    (hfront : ∀ c ∈ (front ++ cell.body).head?, isSpace c = false) :
    stripBy isSpace (front ++ cell.body) = front ++ cell.body := by
  refine stripBy_eq_self hfront ?_
  rw [List.getLast?_append_of_ne_nil _ cell.body_ne]
  exact cell.body_last

/-- With nothing to strip, the brackets are looked at first. -/
theorem begins_iff {t inner : List Char} {negative : Bool} (hstrip : stripBy isSpace t = t)
    (hinner : unbracketed t = (inner,negative)) : BeginsWithNumber (String.ofList t) ↔
      startsNumber ((inner.dropWhile isSpace).filter (fun c => !isComma c)) = true := by
  rw [BeginsWithNumber, strip, String.toList_ofList, String.toList_ofList, hstrip, hinner]

theorem begins_signed (minus : Bool) :
    BeginsWithNumber (String.ofList (signChars minus ++ cell.body)) := by
  obtain ⟨d,tail,hbody,hd⟩ := cell.body_head
  have hhead : ∃ c rest, signChars minus ++ cell.body = c :: rest ∧ isSpace c = false ∧
      c ≠ '(' ∧ c ≠ '（' := by
    cases minus with
    | true => exact ⟨'-',cell.body,rfl,by decide,by decide,by decide⟩
    | false =>
      refine ⟨d,tail,hbody,(digit_kept hd).2.1,?_,?_⟩
      · rintro rfl
        exact absurd hd (by decide)
      · rintro rfl
        exact absurd hd (by decide)
  obtain ⟨c,rest,hcs,hc,hascii,hfull⟩ := hhead
  have hstrip : stripBy isSpace (signChars minus ++ cell.body) = signChars minus ++ cell.body := by
    apply cell.strip_body
    rw [hcs]
    intro e he
    obtain rfl := Option.some.inj he
    exact hc
  have hinner : unbracketed (signChars minus ++ cell.body) =
      (signChars minus ++ cell.body,false) := by
    rw [hcs]
    exact unbracketed_of_head hascii hfull
  have hkept : (signChars minus ++ cell.body).dropWhile isSpace =
      signChars minus ++ cell.body := by
    rw [hcs]
    exact List.dropWhile_cons_of_neg (by simp [hc])
  rw [begins_iff hstrip hinner, hkept, startsNumber_filter_iff]
  refine ⟨minus,signChars minus,d,tail,hd,by rw [hbody],?_⟩
  cases minus with
  | true => rfl
  | false => rfl

theorem not_begins_plus : ¬BeginsWithNumber (String.ofList ('+' :: cell.body)) := by
  have hstrip : stripBy isSpace ('+' :: cell.body) = '+' :: cell.body := by
    refine cell.strip_body ['+'] ?_
    intro c hc
    obtain rfl := Option.some.inj hc
    decide
  rw [begins_iff hstrip (unbracketed_of_head (by decide) (by decide)),
    List.dropWhile_cons_of_neg (by decide), List.filter_cons_of_pos (by decide)]
  exact Bool.false_ne_true

theorem begins_bracketed (b : Brackets) (lead trail : Blanks) :
    BeginsWithNumber (String.ofList
      (b.opening :: (lead.chars ++ (cell.body ++ trail.chars) ++ [b.closing]))) := by
  obtain ⟨d,tail,hbody,hd⟩ := cell.body_head
  have hbrackets : isSpace b.opening = false ∧ isSpace b.closing = false := by
    cases b <;> decide
  have hkept : (lead.chars ++ (cell.body ++ trail.chars)).dropWhile isSpace =
      d :: (tail ++ trail.chars) := by
    rw [List.dropWhile_append_of_pos lead.blank, hbody, List.cons_append]
    exact List.dropWhile_cons_of_neg (by simp [(digit_kept hd).2.1])
  rw [begins_iff (stripBy_first_last _ hbrackets.1 hbrackets.2) (unbracketed_wrap b _), hkept,
    startsNumber_filter_iff]
  exact ⟨false,[],d,tail ++ trail.chars,hd,rfl,rfl⟩

/-- What stands behind the brackets keeps them from being taken off. -/
theorem not_begins_behind (b : Brackets) (cs : List Char) {behind : List Char}
    (hne : behind ≠ []) (hlast : ∀ c ∈ behind.getLast?, EndsCell c) :
    ¬BeginsWithNumber (String.ofList (b.opening :: cs ++ behind)) := by
  obtain ⟨front,last,rfl⟩ := (List.eq_nil_or_concat' behind).resolve_left hne
  obtain ⟨hkept,hopen⟩ := hlast last (by rw [List.getLast?_concat]; rfl)
  have hchars : b.opening :: cs ++ (front ++ [last]) = b.opening :: (cs ++ front ++ [last]) := by
    simp
  rw [← parseNumber_isSome_iff, hchars, parseNumber_behind_brackets b _ hkept hopen]
  exact Bool.false_ne_true

/-- A cell that is a numeral is read exactly when it is of a form that is. -/
theorem begins_chars_iff : BeginsWithNumber (String.ofList cell.chars) ↔ cell.Readable := by
  cases hsign : cell.sign with
  | none =>
    simp only [chars, Readable, hsign, iff_true]
    exact cell.begins_signed false
  | minus =>
    simp only [chars, Readable, hsign, iff_true]
    exact cell.begins_signed true
  | plus =>
    simp only [chars, Readable, hsign, iff_false]
    exact cell.not_begins_plus
  | brackets b lead trail behind =>
    simp only [chars, Readable, hsign]
    constructor
    · intro hbegins
      by_contra hne
      exact not_begins_behind b _ hne behind.last hbegins
    · intro hnil
      rw [hnil, List.append_nil]
      exact cell.begins_bracketed b lead trail

end NumeralCell

section Source

variable {markdown : String} {keywords : List String}

private theorem findSome?_flatMap {α β γ : Type} (f : β → Option γ) (cells : α → List β)
    (rows : List α) :
    rows.findSome? (fun row => (cells row).findSome? f) = (rows.flatMap cells).findSome? f := by
  induction rows with
  | nil => rfl
  | cons row rows ih =>
    rw [List.findSome?_cons, List.flatMap_cons, List.findSome?_append, ih]
    cases (cells row).findSome? f <;> rfl

/-- The places aside, the cells searched are those of the rows with a keyword. -/
theorem searchedCells_raw : (searchedCells markdown keywords).map (·.raw) =
    (parseMarkdownRows markdown).flatMap (valueCells keywords) := by
  have hrow : ∀ (row : Nat) (cells : List String),
      ((cells.zipIdx 1).map (fun c => (⟨row,c.2,c.1⟩ : TableCell))).map (·.raw) = cells := by
    intro row cells
    rw [List.map_map]
    exact List.zipIdx_map_fst 1 cells
  rw [searchedCells, List.map_flatMap]
  simp only [hrow]
  rw [← List.flatMap_map, List.zipIdx_map_fst]

theorem sourceCell_eq_some {cell : TableCell} : sourceCell markdown keywords = some cell ↔
    BeginsWithNumber cell.raw ∧ ∃ before after,
      searchedCells markdown keywords = before ++ cell :: after ∧
        ∀ earlier ∈ before, ¬BeginsWithNumber earlier.raw := by
  rw [sourceCell, List.find?_eq_some_iff_append, parseNumber_isSome_iff]
  simp only [Bool.not_eq_true', ← Bool.not_eq_true, parseNumber_isSome_iff]

/-- What is returned is read off the first of the cells searched that begins with a number. -/
theorem extractKpi_eq_sourceCell : extractKpiFromMarkdown markdown keywords =
    match sourceCell markdown keywords with
    | some cell => (parseNumber cell.raw,cell.raw)
    | none => (none,"") := by
  have hfirst : ∀ cells : List TableCell, firstNumber (cells.map (·.raw)) =
      (cells.find? (fun cell => (parseNumber cell.raw).isSome)).bind
        (fun cell => (parseNumber cell.raw).map (fun value => (value,cell.raw))) := by
    intro cells
    induction cells with
    | nil => rfl
    | cons cell cells ih =>
      rw [List.map_cons, firstNumber, List.findSome?_cons, List.find?_cons]
      cases hread : parseNumber cell.raw with
      | none => exact ih
      | some value => simp [hread]
  have hsearch : (parseMarkdownRows markdown).findSome?
      (fun row => firstNumber (valueCells keywords row)) =
        firstNumber ((searchedCells markdown keywords).map (·.raw)) := by
    rw [searchedCells_raw]
    exact findSome?_flatMap _ _ _
  rw [extractKpiFromMarkdown, hsearch, hfirst, ← sourceCell]
  cases hsource : sourceCell markdown keywords with
  | none => rfl
  | some cell =>
    obtain ⟨value,hvalue⟩ := Option.isSome_iff_exists.mp
      ((parseNumber_isSome_iff _).mpr (sourceCell_eq_some.mp hsource).1)
    simp [hvalue]

theorem returnsValues_iff_sourceCell {meaning : Nat → Nat → CellMeaning} :
    ReturnsValues meaning markdown keywords ↔
      ∀ cell, sourceCell markdown keywords = some cell → HoldsValue meaning cell := by
  constructor
  · intro hreturns cell hsource
    obtain ⟨value,hvalue⟩ := Option.isSome_iff_exists.mp
      ((parseNumber_isSome_iff _).mpr (sourceCell_eq_some.mp hsource).1)
    have hfound : extractKpiFromMarkdown markdown keywords = (some value,cell.raw) := by
      rw [extractKpi_eq_sourceCell, hsource]
      exact congrArg (fun read => (read,cell.raw)) hvalue
    obtain ⟨source,hsame,-,hholds⟩ := hreturns value cell.raw hfound
    obtain rfl := Option.some.inj (hsource.symm.trans hsame)
    exact hholds
  · intro hholds value raw hfound
    rw [extractKpi_eq_sourceCell] at hfound
    cases hsource : sourceCell markdown keywords with
    | none =>
      rw [hsource] at hfound
      cases hfound
    | some cell =>
      rw [hsource] at hfound
      exact ⟨cell,rfl,(Prod.mk.inj hfound).2,hholds cell hsource⟩

end Source

/-- What is found holds a value exactly when, among the cells searched, each that begins with a
number without holding one stands behind a numeral that is read and does. -/
theorem extractKpi_values_iff (markdown : String) (keywords : List String)
    (meaning : Nat → Nat → CellMeaning) : ReturnsValues meaning markdown keywords ↔
    ∀ before cell after, searchedCells markdown keywords = before ++ cell :: after →
      BeginsWithNumber cell.raw → ¬HoldsValue meaning cell →
        ∃ earlier ∈ before, ReadNumeral earlier.raw ∧ meaning earlier.row earlier.col = .value := by
  rw [returnsValues_iff_sourceCell]
  constructor
  · intro hholds before cell after hcells hbegins hnot
    cases hfirst : before.find? (fun cell => (parseNumber cell.raw).isSome) with
    | none =>
      -- nothing stands before it that is read, so it is the source itself
      have hnone : ∀ earlier ∈ before, ¬BeginsWithNumber earlier.raw := by
        intro earlier hmem
        rw [← parseNumber_isSome_iff]
        exact List.find?_eq_none.mp hfirst earlier hmem
      exact absurd (hholds cell (sourceCell_eq_some.mpr ⟨hbegins,before,after,hcells,hnone⟩)) hnot
    | some earlier =>
      have hsource : sourceCell markdown keywords = some earlier := by
        rw [sourceCell, hcells, List.find?_append, hfirst]
        rfl
      obtain ⟨⟨numeral,hraw⟩,hvalue⟩ := hholds earlier hsource
      refine ⟨earlier,List.mem_of_find?_eq_some hfirst,⟨numeral,hraw,?_⟩,hvalue⟩
      rw [← numeral.begins_chars_iff, hraw]
      exact (sourceCell_eq_some.mp hsource).1
  · intro hbehind cell hsource
    obtain ⟨hbegins,before,after,hcells,hnone⟩ := sourceCell_eq_some.mp hsource
    by_contra hnot
    obtain ⟨earlier,hmem,⟨numeral,hraw,hreadable⟩,-⟩ :=
      hbehind before cell after hcells hbegins hnot
    apply hnone earlier hmem
    rw [← hraw]
    exact numeral.begins_chars_iff.mpr hreadable

section Characters

/-- The characters of which cells with a numeral are made. -/
def cellChar (c : Char) : Bool :=
  (digitValue? c).isSome || isSpace c || isHan c ||
    c ∈ ['.', ',', '，', '+', '-', '(', ')', '（', '）', '%', '％']

theorem Grouping.digits_cellChar (g : Grouping) (digits : DigitRun) :
    ∀ c ∈ g.digits digits.chars, cellChar c = true := by
  have hdigit : ∀ c ∈ digits.chars, cellChar c = true := by
    intro c hc
    simp [cellChar, digits.digit c hc]
  intro c hc
  cases g with
  | plain => exact hdigit c hc
  | commas =>
    rcases mem_grouped hc with rfl | hc
    · decide +kernel
    · exact hdigit c hc
  | fullWidthCommas =>
    rcases mem_grouped hc with rfl | hc
    · decide +kernel
    · exact hdigit c hc

theorem Blanks.cellChar (blanks : Blanks) :
    ∀ c ∈ blanks.chars, FinancialPdfReader.cellChar c = true := by
  intro c hc
  simp [FinancialPdfReader.cellChar, blanks.blank c hc]

theorem NumeralSuffix.cellChar (s : NumeralSuffix) :
    ∀ c ∈ s.chars, FinancialPdfReader.cellChar c = true := by
  obtain ⟨percent,unit⟩ := s
  intro c hc
  rcases List.mem_append.mp hc with hc | hc
  · cases percent with
    | none => contradiction
    | some percent =>
      rcases List.mem_append.mp hc with hc | hc
      · exact percent.1.cellChar c hc
      · rw [List.mem_singleton.mp hc]
        cases percent.2 <;> decide +kernel
  · cases unit with
    | none => contradiction
    | some unit =>
      rcases List.mem_append.mp hc with hc | hc
      · exact unit.1.cellChar c hc
      · simp [FinancialPdfReader.cellChar, unit.2.han c hc]

theorem NumeralCell.body_cellChar (cell : NumeralCell) :
    ∀ c ∈ cell.body, cellChar c = true := by
  intro c hc
  rcases List.mem_append.mp hc with hc | hc
  · rcases List.mem_append.mp hc with hc | hc
    · exact cell.grouping.digits_cellChar cell.whole c hc
    · rw [fractionChars] at hc
      cases hfraction : cell.fraction with
      | none =>
        rw [hfraction] at hc
        contradiction
      | some digits =>
        rw [hfraction] at hc
        rcases List.mem_cons.mp hc with rfl | hc
        · decide +kernel
        · exact Grouping.plain.digits_cellChar digits c hc
  · exact cell.suffix.cellChar c hc

theorem NumeralCell.cellChar (cell : NumeralCell) :
    ∀ c ∈ cell.chars, FinancialPdfReader.cellChar c = true := by
  intro c hc
  cases hsign : cell.sign with
  | none =>
    rw [chars, hsign] at hc
    exact cell.body_cellChar c hc
  | plus =>
    rw [chars, hsign] at hc
    rcases List.mem_cons.mp hc with rfl | hc
    · decide +kernel
    · exact cell.body_cellChar c hc
  | minus =>
    rw [chars, hsign] at hc
    rcases List.mem_cons.mp hc with rfl | hc
    · decide +kernel
    · exact cell.body_cellChar c hc
  | brackets b lead trail behind =>
    have hbrackets : FinancialPdfReader.cellChar b.opening = true ∧
        FinancialPdfReader.cellChar b.closing = true := by
      cases b <;> decide +kernel
    rw [chars, hsign] at hc
    simp only [List.cons_append, List.mem_cons, List.mem_append, List.not_mem_nil,
      or_false] at hc
    rcases hc with rfl | ((hc | hc | hc) | rfl) | hc
    · exact hbrackets.1
    · exact lead.cellChar c hc
    · exact cell.body_cellChar c hc
    · exact trail.cellChar c hc
    · exact hbrackets.2
    · exact behind.cellChar c hc

end Characters

/-- A table of the revenue with one column more, and what stands for it there. -/
def headedTable (heading cell : String) : String :=
  "| 項目 | " ++ heading ++ " | 金額 |\n| --- | --- | --- |\n| 營業收入 | " ++ cell ++ " | 1,234 |"

/-- What the cells of this table stand for, below its headings. -/
def secondColumn (meaning : CellMeaning) : Nat → Nat → CellMeaning
  | _,1 => meaning
  | _,_ => .value

/-- The label of a period, a bare year as one, and the number of a note are taken for the
revenue. -/
theorem headedTable_labels :
    ¬ReturnsValues (secondColumn .periodLabel) (headedTable "期間" "2025Q4") ["營業收入"] ∧
      ¬WholeNumeral "2025Q4" ∧
      ¬ReturnsValues (secondColumn .periodLabel) (headedTable "期間" "2025") ["營業收入"] ∧
      ¬ReturnsValues (secondColumn .footnoteReference) (headedTable "附註" "(6)") ["營業收入"] := by
  have hreturned : ∀ meaning markdown, meaning ≠ .value →
      (sourceCell markdown ["營業收入"]).map (·.col) = some 1 →
        ¬ReturnsValues (secondColumn meaning) markdown ["營業收入"] := by
    intro meaning markdown hmeaning hsecond hreturns
    obtain ⟨⟨row,col,raw⟩,hsource,hcol⟩ := Option.map_eq_some_iff.mp hsecond
    obtain rfl : col = 1 := hcol
    exact hmeaning (returnsValues_iff_sourceCell.mp hreturns _ hsource).2
  refine ⟨hreturned _ _ (by decide) ?_,?_,hreturned _ _ (by decide) ?_,
    hreturned _ _ (by decide) ?_⟩
  · decide +kernel
  · intro hwhole
    obtain ⟨cell,hcell⟩ := hwhole
    have hin : 'Q' ∈ cell.chars := by
      rw [← String.toList_ofList (l := cell.chars), hcell]
      decide
    exact absurd (cell.cellChar 'Q' hin) (by decide +kernel)
  · decide +kernel
  · decide +kernel

end FinancialPdfReader
