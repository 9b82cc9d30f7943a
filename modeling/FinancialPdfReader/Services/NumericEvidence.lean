import FinancialPdfReader.Services.TextExtraction

namespace FinancialPdfReader

open Py

/-- `[,\s]` -/
def isSeparator (c : Char) : Bool := c = ',' || isSpace c

/-- `re.sub(r"[,\s]", "", text)` -/
def withoutSeparators (cs : List Char) : List Char := cs.filter (fun c => !isSeparator c)

structure NumericMatch where
  tableId : String
  page : Nat
  sectionName : String
  extractionQuality : Quality
  requiresHumanReview : Bool
  markdownSnippet : String
  deriving DecidableEq

/-- `table_markdown.split("\n")` -/
def markdownLines (markdown : String) : List (List Char) := markdown.toList.splitOn '\n'

/-- A line may not come to nothing, for nothing would be found in it. -/
def lineHits (cleanNum line : List Char) : Bool :=
  !(withoutSeparators line).isEmpty && decide (cleanNum <:+: withoutSeparators line)

/-- `line.strip()[:120]` -/
def snippetLine (line : List Char) : String := String.ofList ((stripBy isSpace line).take 120)

/-- The first line in which the number is found. -/
def evidenceLine (cleanNum : List Char) (markdown : String) : Option (List Char) :=
  (markdownLines markdown).find? (lineHits cleanNum)

def markdownSnippet (cleanNum : List Char) (markdown : String) : String :=
  match evidenceLine cleanNum markdown with
  | some line => snippetLine line
  | none => ""

/-- Here the lines are run together. -/
def tableHits (cleanNum : List Char) (t : PDFTable) : Bool :=
  decide (cleanNum <:+: withoutSeparators t.tableMarkdown.toList)

def numericMatch (cleanNum : List Char) (t : PDFTable) : NumericMatch :=
  { tableId := t.tableId
    page := t.page
    sectionName := t.sectionName
    extractionQuality := t.extractionQuality
    requiresHumanReview := t.requiresHumanReview
    markdownSnippet := markdownSnippet cleanNum t.tableMarkdown }

def findNumericEvidence (db : Database) (documentId numberStr : String) : List NumericMatch :=
  let cleanNum := withoutSeparators numberStr.toList
  ((db.tablesOf documentId).filter (tableHits cleanNum)).map (numericMatch cleanNum)

inductive NumericVerdict where
  | confirmed | unreliable
  deriving DecidableEq, Repr

structure NumericCheck where
  numberQueried : String
  matchesFound : Nat
  evidence : List NumericMatch
  verdict : NumericVerdict
  note : String

/-- The route for the check of a number; an error is its status code and its text. -/
def numericCrossCheck (db : Database) (documentId number : String) :
    Except (Nat × String) NumericCheck :=
  if number = "" then .error (400,"number 參數不可為空")
  else
    let found := findNumericEvidence db documentId number
    .ok
      { numberQueried := number
        matchesFound := found.length
        evidence := found
        verdict := if found.isEmpty then .unreliable else .confirmed
        note :=
          if found.isEmpty then "無法在已抽取表格中確認此數字，請人工核實"
          else "數字在表格中找到來源" }

/-- Whether a number that ends here goes on with these characters: with a digit, or with a point
and a digit. -/
def runsOn : List Char → Bool
  | '.' :: c :: _ => (digitValue? c).isSome
  | c :: _ => (digitValue? c).isSome
  | [] => false

/-- The number stands within the first `n` characters of the text, and neither side of it is part
of a longer one. -/
def NumeralWithin (n : Nat) (num cs : List Char) : Prop :=
  num ≠ [] ∧ ∃ i ∈ List.range (n + 1), i + num.length ≤ n ∧ num <+: cs.drop i ∧
    runsOn (cs.take i).reverse = false ∧ runsOn (cs.drop (i + num.length)) = false

instance (n : Nat) (num cs : List Char) : Decidable (NumeralWithin n num cs) :=
  inferInstanceAs (Decidable (_ ∧ _))

def CompleteNumeral (num cs : List Char) : Prop := NumeralWithin cs.length num cs

instance (num cs : List Char) : Decidable (CompleteNumeral num cs) :=
  inferInstanceAs (Decidable (NumeralWithin _ _ _))

/-- One of the cells of the line has the number. -/
def LineHolds (number : String) (line : List Char) : Prop :=
  ∃ cell ∈ line.splitOn '|',
    CompleteNumeral (withoutSeparators number.toList) (withoutSeparators cell)

instance (number : String) (line : List Char) : Decidable (LineHolds number line) :=
  inferInstanceAs (Decidable (∃ cell ∈ line.splitOn '|', _))

/-- What the first 120 characters have of each cell of the line, beside the cell. -/
def shownCells (line : List Char) : List (List Char × List Char) :=
  (((stripBy isSpace line).take 120).splitOn '|').zip ((stripBy isSpace line).splitOn '|')

/-- One of the cells of the line has the number, and has it within the first 120 characters of
the line: a longer number that is cut off there does not count. -/
def LineShows (number : String) (line : List Char) : Prop :=
  ∃ e ∈ shownCells line, NumeralWithin (withoutSeparators e.1).length
    (withoutSeparators number.toList) (withoutSeparators e.2)

instance (number : String) (line : List Char) : Decidable (LineShows number line) :=
  inferInstanceAs (Decidable (∃ e ∈ shownCells line, _))

/-- The table has the number in one of its cells. -/
def HoldsNumeral (number : String) (t : PDFTable) : Prop :=
  ∃ line ∈ markdownLines t.tableMarkdown, LineHolds number line

instance (number : String) (t : PDFTable) : Decidable (HoldsNumeral number t) :=
  inferInstanceAs (Decidable (∃ line ∈ markdownLines t.tableMarkdown, _))

/-- The snippet is not empty, has the number in one of its cells, and is the beginning of a line
that has it there. -/
structure SnippetShows (number : String) (t : PDFTable) : Prop where
  nonempty : markdownSnippet (withoutSeparators number.toList) t.tableMarkdown ≠ ""
  holds : LineHolds number
    (markdownSnippet (withoutSeparators number.toList) t.tableMarkdown).toList
  line : ∃ line, evidenceLine (withoutSeparators number.toList) t.tableMarkdown = some line ∧
    markdownSnippet (withoutSeparators number.toList) t.tableMarkdown = snippetLine line ∧
    LineShows number line

/-- The tables returned are those with the number, each with a snippet that shows it. -/
structure ConfirmsNumeral (db : Database) (documentId number : String) : Prop where
  returned : findNumericEvidence db documentId number =
    ((db.tablesOf documentId).filter (HoldsNumeral number ·)).map
      (numericMatch (withoutSeparators number.toList))
  shown : ∀ t ∈ db.tablesOf documentId, tableHits (withoutSeparators number.toList) t = true →
    SnippetShows number t
  confirmed : ∀ check, numericCrossCheck db documentId number = .ok check →
    (check.verdict = .confirmed ↔ ∃ t ∈ db.tablesOf documentId, HoldsNumeral number t)

/-- A table in whose text the number comes up at all has a line in which it does, and the first
such line has it in a cell, not in a longer number, within its first 120 characters. -/
def HitsNumeral (number : String) (t : PDFTable) : Prop :=
  withoutSeparators number.toList <:+: withoutSeparators t.tableMarkdown.toList →
    ∃ before line after, markdownLines t.tableMarkdown = before ++ line :: after ∧
      LineShows number line ∧
      ∀ earlier ∈ before, ¬withoutSeparators number.toList <:+: withoutSeparators earlier

section Numeral

variable {n : Nat} {num cs : List Char} {number : String} {line : List Char}

theorem NumeralWithin.mono {m : Nat} (h : NumeralWithin n num cs) (hle : n ≤ m) :
    NumeralWithin m num cs := by
  obtain ⟨hne,i,hi,hfits,hsides⟩ := h
  refine ⟨hne,i,?_,by omega,hsides⟩
  rw [List.mem_range] at hi ⊢
  omega

theorem NumeralWithin.isInfix (h : NumeralWithin n num cs) : num <:+: cs := by
  obtain ⟨-,i,-,-,hstarts,-,-⟩ := h
  exact hstarts.isInfix.trans (List.drop_suffix i cs).isInfix

/-- A number that goes on in a text goes on in every longer one. -/
theorem runsOn_of_prefix {front : List Char} (h : front <+: cs) (hruns : runsOn cs = false) :
    runsOn front = false := by
  obtain ⟨rest,rfl⟩ := h
  match front with
  | [] => rfl
  | [c] =>
    by_cases hpoint : c = '.'
    · subst hpoint
      decide
    · simpa [runsOn, hpoint] using hruns
  | c :: d :: front =>
    by_cases hpoint : c = '.'
    · subst hpoint
      exact hruns
    · simpa [runsOn, hpoint] using hruns

/-- What stands within the front of a text, as seen in the whole of it, stands in the front. -/
theorem NumeralWithin.front {front : List Char} (h : NumeralWithin front.length num cs)
    (hfront : front <+: cs) : CompleteNumeral num front := by
  obtain ⟨rest,rfl⟩ := hfront
  obtain ⟨hne,i,hi,hfits,hstarts,hleft,hright⟩ := h
  have hinside : i ≤ front.length := by omega
  refine ⟨hne,i,hi,hfits,?_,?_,?_⟩
  · rw [List.drop_append_of_le_length hinside] at hstarts
    exact List.prefix_of_prefix_length_le hstarts (List.prefix_append _ _)
      (by rw [List.length_drop]; omega)
  · rwa [List.take_append_of_le_length hinside] at hleft
  · rw [List.drop_append_of_le_length hfits] at hright
    exact runsOn_of_prefix (List.prefix_append _ _) hright

theorem withoutSeparators_stripBy (line : List Char) :
    withoutSeparators (stripBy isSpace line) = withoutSeparators line := by
  have hdrop : ∀ cs : List Char,
      withoutSeparators (cs.dropWhile isSpace) = withoutSeparators cs := by
    intro cs
    induction cs with
    | nil => rfl
    | cons c cs ih =>
      cases hspace : isSpace c with
      | true =>
        have hout : (!isSeparator c) = false := by simp [isSeparator, hspace]
        rw [List.dropWhile_cons_of_pos hspace, ih, withoutSeparators, withoutSeparators,
          List.filter_cons_of_neg (by simp [hout])]
      | false => rw [List.dropWhile_cons_of_neg (by simp [hspace])]
  have hreverse : ∀ cs : List Char,
      withoutSeparators cs.reverse = (withoutSeparators cs).reverse :=
    fun _ => List.filter_reverse
  rw [stripBy, List.rdropWhile, hreverse, hdrop, hreverse, hdrop, List.reverse_reverse]

/-- No line end or bar is taken away, so the cells stay apart. -/
theorem splitOn_withoutSeparators (line : List Char) :
    (line.splitOn '|').map withoutSeparators = (withoutSeparators line).splitOn '|' :=
  (splitOn_filter (by decide) line).symm

theorem LineShows.holds (h : LineShows number line) : LineHolds number line := by
  obtain ⟨e,he,hnumeral⟩ := h
  have hfront : withoutSeparators e.1 <+: withoutSeparators e.2 :=
    (prefix_of_mem_zip_splitOn (List.take_prefix 120 _) e he).filter _
  have hcell : withoutSeparators e.2 ∈ (line.splitOn '|').map withoutSeparators := by
    rw [splitOn_withoutSeparators, ← withoutSeparators_stripBy, ← splitOn_withoutSeparators]
    exact List.mem_map_of_mem (List.of_mem_zip he).2
  obtain ⟨cell,hmem,hsame⟩ := List.mem_map.mp hcell
  refine ⟨cell,hmem,?_⟩
  rw [hsame]
  exact hnumeral.mono hfront.length_le

theorem LineShows.snippet (h : LineShows number line) :
    LineHolds number (snippetLine line).toList := by
  obtain ⟨e,he,hnumeral⟩ := h
  have hfront : withoutSeparators e.1 <+: withoutSeparators e.2 :=
    (prefix_of_mem_zip_splitOn (List.take_prefix 120 _) e he).filter _
  rw [snippetLine, String.toList_ofList]
  exact ⟨e.1,(List.of_mem_zip he).1,hnumeral.front hfront⟩

theorem LineHolds.isInfix (h : LineHolds number line) :
    withoutSeparators number.toList <:+: withoutSeparators line := by
  obtain ⟨cell,hcell,hnumeral⟩ := h
  exact hnumeral.isInfix.trans ((infix_of_mem_splitOn hcell).filter _)

theorem LineHolds.ne_nil (h : LineHolds number line) :
    withoutSeparators number.toList ≠ [] := by
  obtain ⟨-,-,hne,-⟩ := h
  exact hne

/-- For a number, the check for lines that come to nothing is idle. -/
theorem lineHits_iff (hne : num ≠ []) (line : List Char) :
    lineHits num line = true ↔ num <:+: withoutSeparators line := by
  rw [lineHits, Bool.and_eq_true, decide_eq_true_eq, Bool.not_eq_true',
    List.isEmpty_eq_false_iff, and_iff_right_iff_imp]
  intro hinfix hempty
  rw [hempty] at hinfix
  exact hne (List.infix_nil.mp hinfix)

end Numeral

section Tables

variable {number : String} {t : PDFTable}

/-- No table with the number is missed. -/
theorem tableHits_of_holdsNumeral (h : HoldsNumeral number t) :
    tableHits (withoutSeparators number.toList) t = true := by
  obtain ⟨line,hline,hholds⟩ := h
  exact decide_eq_true (hholds.isInfix.trans ((infix_of_mem_splitOn hline).filter _))

/-- Separators alone come up in every table, and none has them for a number. -/
theorem not_hitsNumeral_of_blank (h : withoutSeparators number.toList = []) (t : PDFTable) :
    ¬ HitsNumeral number t := by
  intro hhits
  have hfound : withoutSeparators number.toList <:+: withoutSeparators t.tableMarkdown.toList := by
    rw [h]
    exact List.nil_infix
  obtain ⟨-,line,-,-,hshows,-⟩ := hhits hfound
  exact hshows.holds.ne_nil h

theorem snippetLine_ne_empty {cleanNum line : List Char} (h : lineHits cleanNum line = true) :
    snippetLine line ≠ "" := by
  rw [lineHits, Bool.and_eq_true, Bool.not_eq_true', List.isEmpty_eq_false_iff] at h
  obtain ⟨c,hc⟩ := List.exists_mem_of_ne_nil _ h.1
  obtain ⟨hmem,hkept⟩ := List.mem_filter.mp hc
  rw [Bool.not_eq_true', isSeparator, Bool.or_eq_false_iff] at hkept
  have hne : stripBy isSpace line ≠ [] := stripBy_ne_nil hmem hkept.2
  intro hempty
  have hnil : (stripBy isSpace line).take 120 = [] := by
    have htoList := congrArg String.toList hempty
    rwa [snippetLine, String.toList_ofList] at htoList
  rw [List.take_eq_nil_iff] at hnil
  exact hnil.elim (by decide) hne

/-- The search stops at the first of the lines that have the number. -/
theorem evidenceLine_eq_some {num line : List Char} {markdown : String} (hne : num ≠ []) :
    evidenceLine num markdown = some line ↔ num <:+: withoutSeparators line ∧
      ∃ before after, markdownLines markdown = before ++ line :: after ∧
        ∀ earlier ∈ before, ¬num <:+: withoutSeparators earlier := by
  rw [evidenceLine, List.find?_eq_some_iff_append, lineHits_iff hne]
  simp only [Bool.not_eq_true', ← Bool.not_eq_true, lineHits_iff hne]

theorem SnippetShows.hits (h : SnippetShows number t) : HitsNumeral number t := by
  intro _
  obtain ⟨line,hfound,-,hshows⟩ := h.line
  obtain ⟨-,before,after,hlines,hearlier⟩ :=
    (evidenceLine_eq_some hshows.holds.ne_nil).mp hfound
  exact ⟨before,line,after,hlines,hshows,hearlier⟩

theorem HitsNumeral.snippetShows (h : HitsNumeral number t)
    (hhits : tableHits (withoutSeparators number.toList) t = true) : SnippetShows number t := by
  obtain ⟨before,line,after,hlines,hshows,hearlier⟩ := h (of_decide_eq_true hhits)
  have hne := hshows.holds.ne_nil
  have hfound : evidenceLine (withoutSeparators number.toList) t.tableMarkdown = some line :=
    (evidenceLine_eq_some hne).mpr ⟨hshows.holds.isInfix,before,after,hlines,hearlier⟩
  have hsnippet : markdownSnippet (withoutSeparators number.toList) t.tableMarkdown =
      snippetLine line := by rw [markdownSnippet, hfound]
  refine ⟨?_,?_,line,hfound,hsnippet,hshows⟩
  · rw [hsnippet]
    exact snippetLine_ne_empty ((lineHits_iff hne line).mpr hshows.holds.isInfix)
  · rw [hsnippet]
    exact hshows.snippet

theorem SnippetShows.holdsNumeral (h : SnippetShows number t) : HoldsNumeral number t := by
  obtain ⟨line,hfound,-,hshows⟩ := h.line
  exact ⟨line,List.mem_of_find?_eq_some hfound,hshows.holds⟩

end Tables

/-- Text is searched, not numbers: the answer is right exactly where the number comes up in no
table but as one, and early enough in its line. -/
theorem confirmsNumeral_iff (db : Database) (documentId number : String) :
    ConfirmsNumeral db documentId number ↔
      ∀ t ∈ db.tablesOf documentId, HitsNumeral number t := by
  constructor
  · intro h t ht hhits
    exact (h.shown t ht (decide_eq_true hhits)).hits hhits
  · intro h
    have hshown : ∀ t ∈ db.tablesOf documentId,
        tableHits (withoutSeparators number.toList) t = true → SnippetShows number t :=
      fun t ht => (h t ht).snippetShows
    have hsame : ∀ t ∈ db.tablesOf documentId,
        tableHits (withoutSeparators number.toList) t = decide (HoldsNumeral number t) := by
      intro t ht
      rw [Bool.eq_iff_iff, decide_eq_true_eq]
      exact ⟨fun hhits => (hshown t ht hhits).holdsNumeral,tableHits_of_holdsNumeral⟩
    have hreturned : findNumericEvidence db documentId number =
        ((db.tablesOf documentId).filter (HoldsNumeral number ·)).map
          (numericMatch (withoutSeparators number.toList)) := by
      rw [findNumericEvidence, List.filter_congr hsame]
    refine ⟨hreturned,hshown,?_⟩
    intro check hcheck
    rw [numericCrossCheck] at hcheck
    split at hcheck
    · contradiction
    · obtain rfl := Except.ok.inj hcheck
      rw [hreturned]
      simp

/-- A table with a year for a number, and with a cell of two lines. -/
def yearTable : PDFTable :=
  let rows : RawTable := [[some "年度",some "2012"],[some "營收",some "3\n4"]]
  ⟨"t1","d1","2330","2026Q1",1,"營收",0,rowsToMarkdown rows,2,2,assessQuality rows,false⟩

def yearDb : Database := { Database.empty with pdfTables := [yearTable] }

private theorem misconfirmed {db : Database} {documentId number : String}
    (hfound : number ≠ "" ∧ (findNumericEvidence db documentId number).isEmpty = false ∧
      ¬ ∃ t ∈ db.tablesOf documentId, HoldsNumeral number t) :
    ¬ ConfirmsNumeral db documentId number := by
  obtain ⟨hne,hsome,hnone⟩ := hfound
  intro hconfirms
  have hcheck : ∃ check, numericCrossCheck db documentId number = .ok check ∧
      check.verdict = .confirmed := by
    refine ⟨_,by rw [numericCrossCheck, if_neg hne],?_⟩
    simp [hsome]
  obtain ⟨check,hok,hverdict⟩ := hcheck
  exact hnone ((hconfirms.confirmed check hok).mp hverdict)

/-- A label that takes up the whole snippet. -/
def longLabel : List Char := .replicate 120 '註'

/-- A table with a row in which the number comes too late for the snippet. -/
def longTable : PDFTable :=
  let rows : RawTable := [[some "項目",some "金額"],[some (String.ofList longLabel),some "2012"]]
  ⟨"t1","d1","2330","2026Q1",1,"營收",0,rowsToMarkdown rows,2,2,assessQuality rows,false⟩

def longDb : Database := { Database.empty with pdfTables := [longTable] }

def longRow : List Char := ['|',' '] ++ longLabel ++ " | 2012 |".toList

private theorem longTable_lines : markdownLines longTable.tableMarkdown =
    ["| 項目 | 金額 |".toList,"| --- | --- |".toList,longRow] := by
  have hcells : [[some "項目",some "金額"],[some (String.ofList longLabel),some "2012"]].map
      (·.map cleanCell) = [["項目","金額"],[String.ofList longLabel,"2012"]] := by
    have hlabel : cleanCell (some (String.ofList longLabel)) = String.ofList longLabel := by
      have hstripped : stripBy isSpace longLabel = longLabel := by decide +kernel
      rw [cleanCell, strip, String.toList_ofList, hstripped]
    have hshort : cleanCell (some "項目") = "項目" ∧ cleanCell (some "金額") = "金額" ∧
        cleanCell (some "2012") = "2012" := by decide +kernel
    simp only [List.map_cons, List.map_nil, hlabel, hshort]
  have hrow : markdownLine (padRow 2 [String.ofList longLabel,"2012"]) = longRow := by
    simp [markdownLine, padRow, longRow]
  have hmarkdown : longTable.tableMarkdown = String.ofList (['\n'].intercalate
      ["| 項目 | 金額 |".toList,"| --- | --- |".toList,longRow]) := by
    have hfixed : markdownLine ["項目","金額"] = "| 項目 | 金額 |".toList ∧
        markdownLine (List.replicate 2 "---") = "| --- | --- |".toList := by decide +kernel
    simp only [longTable, rowsToMarkdown, hcells]
    change String.ofList (['\n'].intercalate [markdownLine ["項目","金額"],
      markdownLine (List.replicate 2 "---"),
      markdownLine (padRow 2 [String.ofList longLabel,"2012"])]) = _
    rw [hfixed.1, hfixed.2, hrow]
  rw [markdownLines, hmarkdown, String.toList_ofList]
  exact List.splitOn_intercalate '\n' (by decide +kernel) (by simp)

/-- A part of the year, the digits of two lines run together, and a lone comma: all of them are
confirmed. A number at the end of a long row is not shown. -/
theorem yearDb_confirms_anything : ¬ ConfirmsNumeral yearDb "d1" "12" ∧
    ¬ ConfirmsNumeral yearDb "d1" "34" ∧ ¬ ConfirmsNumeral yearDb "d1" "," ∧
    ¬ ConfirmsNumeral longDb "d1" "2012" := by
  refine ⟨misconfirmed ?_,misconfirmed ?_,misconfirmed ?_,?_⟩
  · decide +kernel
  · decide +kernel
  · decide +kernel
  · intro hconfirms
    have hrow : LineHolds "2012" longRow ∧ ¬LineShows "2012" longRow ∧
        ["| 項目 | 金額 |".toList,"| --- | --- |".toList,longRow].find?
          (lineHits (withoutSeparators "2012".toList)) = some longRow := by
      decide +kernel
    have hhits : tableHits (withoutSeparators "2012".toList) longTable = true :=
      tableHits_of_holdsNumeral ⟨longRow,by simp [longTable_lines],hrow.1⟩
    obtain ⟨line,hfound,-,hshows⟩ :=
      (hconfirms.shown longTable (by simp [longDb, Database.tablesOf, longTable]) hhits).line
    rw [evidenceLine, longTable_lines, hrow.2.2] at hfound
    obtain rfl := Option.some.inj hfound
    exact hrow.2.1 hshows

end FinancialPdfReader
