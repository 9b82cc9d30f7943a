import FinancialPdfReader.Services.KpiNormalization
import FinancialPdfReader.Services.TextExtraction

namespace FinancialPdfReader

open Py

/-- The table as it should come back: cells cleaned, rows of the width of the header. -/
def tableRows (rows : RawTable) : List (List String) :=
  match rows.map (·.map cleanCell) with
  | [] => []
  | header :: data => header :: data.map (padRow header.length)

/-- A cell text that the markdown can hold: no pipe in it, and no end of a line. -/
def PlainText (cell : String) : Prop :=
  '|' ∉ cell.toList ∧ ∀ c ∈ cell.toList, isLineBreak c = false

instance (cell : String) : Decidable (PlainText cell) :=
  decidable_of_iff (cell.toList.all (fun c => c != '|' && !isLineBreak c) = true) <| by
    simp only [List.all_eq_true, Bool.and_eq_true, bne_iff_ne, Bool.not_eq_true', PlainText]
    constructor
    · intro h
      exact ⟨fun hpipe => (h '|' hpipe).1 rfl,fun c hc => (h c hc).2⟩
    · intro hparts c hc
      obtain ⟨hpipe,hbreak⟩ := hparts
      exact ⟨fun heq => hpipe (heq ▸ hc),hbreak c hc⟩

/-- Empty, or nothing but the characters of a separator line. -/
def DashLike (cell : String) : Prop := cell.toList.all isSeparatorChar = true

instance (cell : String) : Decidable (DashLike cell) := by
  unfold DashLike
  infer_instance

def spacedCell (cell : String) : List Char := ' ' :: cell.toList ++ [' ']

/-- Between its outer pipes a line holds the spaced cells, with pipes between them. -/
private theorem markdownLine_eq {cells : List String} (h : cells ≠ []) :
    markdownLine cells = '|' :: ['|'].intercalate (cells.map spacedCell) ++ ['|'] := by
  have hspaced : ' ' :: [' ','|',' '].intercalate (cells.map String.toList) ++ [' '] =
      ['|'].intercalate (cells.map spacedCell) := by
    induction cells with
    | nil => contradiction
    | cons c cs ih =>
      cases cs with
      | nil => simp [spacedCell]
      | cons d ds =>
        have htail := ih (List.cons_ne_nil d ds)
        simp only [List.map_cons] at htail ⊢
        rw [List.intercalate_cons_cons, List.intercalate_cons_cons, ← htail]
        simp [spacedCell]
  rw [← hspaced, markdownLine]
  simp

private theorem strip_spacedCell {cell : String} (h : strip cell = cell) :
    stripBy isSpace (spacedCell cell) = cell.toList := by
  rw [spacedCell, stripBy_wrap (by decide) (by decide)]
  have hlist := congrArg String.toList h
  rwa [strip, String.toList_ofList] at hlist

/-- The spaced cells begin and end with a blank, so that no pipe of theirs is stripped. -/
private theorem stripBy_spaced {cells : List String} (h : cells ≠ []) :
    stripBy (· == '|') (['|'].intercalate (cells.map spacedCell)) =
      ['|'].intercalate (cells.map spacedCell) := by
  have hhead : ∀ cs : List String, cs ≠ [] →
      (['|'].intercalate (cs.map spacedCell)).head? = some ' ' := by
    intro cs hcs
    cases cs with
    | nil => contradiction
    | cons c cs =>
      cases cs with
      | nil => simp [spacedCell]
      | cons d ds =>
        rw [List.map_cons, List.map_cons, List.intercalate_cons_cons]
        simp [spacedCell]
  have hlast : (['|'].intercalate (cells.map spacedCell)).getLast? = some ' ' := by
    induction cells with
    | nil => contradiction
    | cons c cs ih =>
      cases cs with
      | nil =>
        rw [List.map_singleton, List.intercalate_singleton, spacedCell]
        exact List.getLast?_concat
      | cons d ds =>
        have htail := ih (List.cons_ne_nil d ds)
        rw [List.map_cons] at htail
        rw [List.map_cons, List.map_cons, List.intercalate_cons_cons, List.append_assoc,
          List.getLast?_append, List.getLast?_append, htail]
        rfl
  apply stripBy_eq_self
  · intro c hc
    rw [hhead cells h] at hc
    obtain rfl := Option.mem_some_iff.mp hc
    decide
  · intro c hc
    rw [hlast] at hc
    obtain rfl := Option.mem_some_iff.mp hc
    decide

/-- A line is read back as the cells it was written from, or passed over as a separator. -/
private theorem parseMarkdownLine_markdownLine {cells : List String} (hne : cells ≠ [])
    (hpipe : ∀ c ∈ cells, '|' ∉ c.toList) (hstrip : ∀ c ∈ cells, strip c = c) :
    parseMarkdownLine (markdownLine cells) =
      if ∀ c ∈ cells, DashLike c then none else some cells := by
  have hline : stripBy isSpace (markdownLine cells) = markdownLine cells := by
    rw [markdownLine_eq hne]
    apply stripBy_eq_self
    · intro c hc
      obtain rfl : '|' = c := by simpa using hc
      decide
    · intro c hc
      rw [List.getLast?_concat] at hc
      obtain rfl := Option.mem_some_iff.mp hc
      decide
  have hsplit : (stripBy (· == '|') (markdownLine cells)).splitOn '|' = cells.map spacedCell := by
    rw [markdownLine_eq hne, stripBy_wrap (by decide) (by decide), stripBy_spaced hne]
    refine List.splitOn_intercalate '|' ?_ (by simpa using hne)
    intro l hl
    obtain ⟨c,hc,rfl⟩ := List.mem_map.mp hl
    simp [spacedCell, hpipe c hc]
  have hcells : (cells.map spacedCell).map (stripBy isSpace) = cells.map String.toList := by
    rw [List.map_map]
    exact List.map_congr_left fun c hc => strip_spacedCell (hstrip c hc)
  have hpresent : ((markdownLine cells).isEmpty || !(markdownLine cells).contains '|') = false := by
    simp [markdownLine]
  have hdash : (cells.map String.toList).all (·.all isSeparatorChar) = true ↔
      ∀ c ∈ cells, DashLike c := by
    simp [DashLike]
  have hback : (cells.map String.toList).map String.ofList = cells := by
    simp [Function.comp_def]
  rw [parseMarkdownLine, hline]
  simp only [hpresent, hsplit, hcells, hdash, hback, Bool.false_eq_true, if_false]

/-- The cells of a row that are kept: as many as the header has. -/
def retainedCells (rows : RawTable) (row : List (Option String)) : List String :=
  (row.take (rows.headD []).length).map cleanCell

private theorem padRow_clean (width : Nat) (row : List (Option String)) :
    padRow width (row.map cleanCell) =
      (row.take width).map cleanCell ++ List.replicate (width - row.length) "" := by
  rw [padRow, List.length_map, List.take_append, List.length_map, List.map_take]
  simp

/-- All rows alike keep their cells and are filled up with empty ones. -/
private theorem tableRows_eq_map (rows : RawTable) : tableRows rows = rows.map (fun row =>
    retainedCells rows row ++ List.replicate ((rows.headD []).length - row.length) "") := by
  cases rows with
  | nil => rfl
  | cons header data =>
    simp only [tableRows, List.map_cons, List.map_map, List.length_map, retainedCells,
      List.headD_cons]
    congr 1
    · simp
    · exact List.map_congr_left fun row _ => padRow_clean header.length row

private theorem mem_tableRow {rows : RawTable} {row : List (Option String)} {cell : String}
    (h : cell ∈ retainedCells rows row ++
      List.replicate ((rows.headD []).length - row.length) "") :
    cell ∈ retainedCells rows row ∨ cell = "" := by
  rcases List.mem_append.mp h with h | h
  · exact Or.inl h
  · exact Or.inr (List.eq_of_mem_replicate h)

private theorem strip_cleanCell (cell : Option String) :
    strip (cleanCell cell) = cleanCell cell := by
  cases cell with
  | none => decide
  | some s => rw [cleanCell, strip, strip, String.toList_ofList, stripBy_stripBy]

private theorem tableRows_stripped {rows : RawTable} :
    ∀ row ∈ tableRows rows, ∀ cell ∈ row, strip cell = cell := by
  rw [tableRows_eq_map, List.forall_mem_map]
  intro row _ cell hcell
  rcases mem_tableRow hcell with hcell | rfl
  · obtain ⟨raw,-,rfl⟩ := List.mem_map.mp hcell
    exact strip_cleanCell raw
  · decide

/-- Whatever a table holds, no pipe and no end of a line comes back out of its markdown. -/
private theorem parseMarkdownRows_plain (markdown : String) :
    ∀ row ∈ parseMarkdownRows markdown, ∀ cell ∈ row, PlainText cell := by
  intro row hrow cell hcell
  obtain ⟨line,hline,hparse⟩ := List.mem_filterMap.mp hrow
  simp only [parseMarkdownLine] at hparse
  split at hparse
  · contradiction
  · split at hparse
    · contradiction
    · obtain rfl := Option.some.inj hparse
      obtain ⟨stripped,hstripped,rfl⟩ := List.mem_map.mp hcell
      obtain ⟨field,hfield,rfl⟩ := List.mem_map.mp hstripped
      rw [PlainText, String.toList_ofList]
      constructor
      · exact fun hpipe => not_mem_of_mem_splitOn hfield (mem_of_mem_stripBy hpipe)
      · intro c hc
        have hsplit : c ∈ stripBy (· == '|') (stripBy isSpace line) :=
          (infix_of_mem_splitOn hfield).subset (mem_of_mem_stripBy hc)
        exact isLineBreak_of_mem_splitLines hline c
          (mem_of_mem_stripBy (mem_of_mem_stripBy hsplit))

private theorem markdownLine_no_break {cells : List String}
    (hplain : ∀ cell ∈ cells, PlainText cell) :
    ∀ c ∈ markdownLine cells, isLineBreak c = false := by
  have hframe : ∀ c ∈ [' ','|'], isLineBreak c = false := by
    intro c hc
    rcases List.mem_pair.mp hc with rfl | rfl <;> decide
  intro c hc
  rw [markdownLine, List.mem_append, List.mem_append] at hc
  rcases hc with (hc | hc) | hc
  · exact hframe c (by simpa [or_comm] using hc)
  · rcases mem_of_mem_intercalate hc with hc | ⟨l,hl,hc⟩
    · have hmem : c ∈ [' ','|'] := by
        simp only [List.mem_cons, List.not_mem_nil, or_false] at hc ⊢
        rcases hc with hc | hc | hc
        · exact Or.inl hc
        · exact Or.inr hc
        · exact Or.inl hc
      exact hframe c hmem
    · obtain ⟨cell,hcell,rfl⟩ := List.mem_map.mp hl
      exact (hplain cell hcell).2 c hc
  · exact hframe c hc

private theorem length_of_mem_tableRows {rows : RawTable} {row : List String}
    (h : row ∈ tableRows rows) : row.length = (rows.headD []).length := by
  rw [tableRows_eq_map] at h
  obtain ⟨raw,-,rfl⟩ := List.mem_map.mp h
  rw [List.length_append, retainedCells, List.length_map, List.length_take,
    List.length_replicate]
  omega

private theorem filterMap_notDashLike (table : List (List String)) :
    table.filterMap (fun cells => if ∀ c ∈ cells, DashLike c then none else some cells) =
      table.filter (fun cells => !decide (∀ c ∈ cells, DashLike c)) := by
  rw [← List.filterMap_eq_filter]
  refine List.filterMap_congr fun cells _ => ?_
  by_cases hall : ∀ c ∈ cells, DashLike c
  · rw [if_pos hall, Option.guard, decide_eq_true hall]
    rfl
  · rw [if_neg hall, Option.guard, decide_eq_false hall]
    rfl

/-- A table of plain texts comes back without the rows that look like separators. -/
private theorem parse_rowsToMarkdown {rows : RawTable} (hwidth : rows.headD [] ≠ [])
    (hplain : ∀ row ∈ tableRows rows, ∀ cell ∈ row, PlainText cell) :
    parseMarkdownRows (rowsToMarkdown rows) =
      (tableRows rows).filter (fun row => !decide (∀ cell ∈ row, DashLike cell)) := by
  cases rows with
  | nil => contradiction
  | cons header data =>
    let dashes := List.replicate header.length "---"
    let width := (header.map cleanCell).length
    let body := (data.map (·.map cleanCell)).map (padRow width)
    have htable : tableRows (header :: data) = header.map cleanCell :: body := rfl
    have hlines : (rowsToMarkdown (header :: data)).toList =
        ['\n'].intercalate ((header.map cleanCell :: dashes :: body).map markdownLine) := by
      simp [rowsToMarkdown, body, width, dashes, Function.comp_def]
    have hheader : header ≠ [] := hwidth
    have hdashes : ∀ cell ∈ dashes, cell = "---" := fun _ => List.eq_of_mem_replicate
    have hdash : PlainText "---" ∧ DashLike "---" ∧ strip "---" = "---" := by decide
    have hall : ∀ cells ∈ header.map cleanCell :: dashes :: body,
        cells ≠ [] ∧ (∀ c ∈ cells, PlainText c) ∧ ∀ c ∈ cells, strip c = c := by
      intro cells hcells
      have hwide : ∀ row ∈ tableRows (header :: data), row ≠ [] := fun row hrow hnil => by
        have hlength := length_of_mem_tableRows hrow
        rw [hnil] at hlength
        exact hheader (List.length_eq_zero_iff.mp hlength.symm)
      rcases List.mem_cons.mp hcells with rfl | hcells
      · have hmem : header.map cleanCell ∈ tableRows (header :: data) := by
          rw [htable]
          exact List.mem_cons_self
        exact ⟨hwide _ hmem,hplain _ hmem,tableRows_stripped _ hmem⟩
      · rcases List.mem_cons.mp hcells with rfl | hcells
        · have hreplicate : dashes ≠ [] := by
            rw [ne_eq, List.replicate_eq_nil_iff, List.length_eq_zero_iff]
            exact hheader
          refine ⟨hreplicate,?_,?_⟩
          · intro c hc
            exact hdashes c hc ▸ hdash.1
          · intro c hc
            exact hdashes c hc ▸ hdash.2.2
        · have hmem : cells ∈ tableRows (header :: data) := by
            rw [htable]
            exact List.mem_cons_of_mem _ hcells
          exact ⟨hwide _ hmem,hplain _ hmem,tableRows_stripped _ hmem⟩
    have hsplit : splitLines (rowsToMarkdown (header :: data)).toList =
        (header.map cleanCell :: dashes :: body).map markdownLine := by
      rw [hlines]
      apply splitLines_intercalate
      · rw [List.forall_mem_map]
        intro cells _
        simp [markdownLine]
      · rw [List.forall_mem_map]
        intro cells hcells
        exact markdownLine_no_break (hall cells hcells).2.1
    have hparse : ∀ cells ∈ header.map cleanCell :: dashes :: body,
        parseMarkdownLine (markdownLine cells) =
          if ∀ c ∈ cells, DashLike c then none else some cells := fun cells hcells =>
      parseMarkdownLine_markdownLine (hall cells hcells).1
        (fun c hc => ((hall cells hcells).2.1 c hc).1) (hall cells hcells).2.2
    have hskip : ∀ c ∈ dashes, DashLike c := fun c hc => hdashes c hc ▸ hdash.2.1
    have hread : ((header.map cleanCell :: dashes :: body).map markdownLine).filterMap
        parseMarkdownLine = (header.map cleanCell :: dashes :: body).filterMap
          (fun cells => if ∀ c ∈ cells, DashLike c then none else some cells) := by
      rw [List.filterMap_map]
      exact List.filterMap_congr hparse
    have hdrop : (!decide (∀ c ∈ dashes, DashLike c)) = false := by
      rw [decide_eq_true hskip]
      rfl
    rw [parseMarkdownRows, hsplit, hread, htable, filterMap_notDashLike, List.filter_cons,
      List.filter_cons, List.filter_cons, hdrop]
    rfl

/-- A table comes back from its markdown exactly when every cell that is kept is plain text and
every row keeps a cell that does not look like a separator. -/
theorem parse_rowsToMarkdown_iff {rows : RawTable} (hne : rows ≠ [])
    (hrows : ∀ row ∈ rows, ∃ cell ∈ row, ¬ DashLike (cleanCell cell)) :
    parseMarkdownRows (rowsToMarkdown rows) = tableRows rows ↔
      (∀ row ∈ rows, ∀ cell ∈ retainedCells rows row, PlainText cell) ∧
        ∀ row ∈ rows, ∃ cell ∈ retainedCells rows row, ¬ DashLike cell := by
  have hwidth : rows.headD [] ≠ [] := by
    cases rows with
    | nil => contradiction
    | cons header data =>
      obtain ⟨cell,hcell,-⟩ := hrows header (by simp)
      exact List.ne_nil_of_mem hcell
  have hempty : PlainText "" ∧ DashLike "" := by
    constructor
    · simp [PlainText]
    · decide
  have hplainIff : (∀ row ∈ tableRows rows, ∀ cell ∈ row, PlainText cell) ↔
      ∀ row ∈ rows, ∀ cell ∈ retainedCells rows row, PlainText cell := by
    rw [tableRows_eq_map, List.forall_mem_map]
    refine forall₂_congr fun row _ => ⟨?_,?_⟩
    · intro h cell hcell
      exact h cell (List.mem_append_left _ hcell)
    · intro h cell hcell
      rcases mem_tableRow hcell with hcell | rfl
      · exact h cell hcell
      · exact hempty.1
  have hdashIff : (∀ row ∈ tableRows rows, ¬ ∀ cell ∈ row, DashLike cell) ↔
      ∀ row ∈ rows, ∃ cell ∈ retainedCells rows row, ¬ DashLike cell := by
    rw [tableRows_eq_map, List.forall_mem_map]
    refine forall₂_congr fun row _ => ⟨?_,?_⟩
    · intro h
      by_contra hall
      refine h fun cell hcell => ?_
      rcases mem_tableRow hcell with hcell | rfl
      · by_contra hnot
        exact hall ⟨cell,hcell,hnot⟩
      · exact hempty.2
    · intro hparts hall
      obtain ⟨cell,hcell,hnot⟩ := hparts
      exact hnot (hall cell (List.mem_append_left _ hcell))
  rw [← hplainIff, ← hdashIff]
  constructor
  · intro heq
    have hplain : ∀ row ∈ tableRows rows, ∀ cell ∈ row, PlainText cell :=
      heq ▸ parseMarkdownRows_plain (rowsToMarkdown rows)
    rw [parse_rowsToMarkdown hwidth hplain, List.filter_eq_self] at heq
    exact ⟨hplain,fun row hrow => by simpa using heq row hrow⟩
  · intro hparts
    obtain ⟨hplain,hdash⟩ := hparts
    rw [parse_rowsToMarkdown hwidth hplain, List.filter_eq_self]
    intro row hrow
    simpa using hdash row hrow

/-- A short row, a long row and a missing cell. -/
def revenueTable : RawTable :=
  [[some "項目",some "金額"],[some "營業收入"],[some " 毛利 ",none,some "備註"]]

/-- The table comes back with its rows filled up and cut off. -/
theorem parse_rowsToMarkdown_iff_revenueTable :
    parseMarkdownRows (rowsToMarkdown revenueTable) =
      [["項目","金額"],["營業收入",""],["毛利",""]] := by
  have hback : parseMarkdownRows (rowsToMarkdown revenueTable) = tableRows revenueTable :=
    (parse_rowsToMarkdown_iff (by decide) (by decide)).mpr (by decide)
  rw [hback]
  decide

/-- A label that runs over two lines comes back as two rows. -/
theorem parse_rowsToMarkdown_brokenLabel :
    ∃ rows : RawTable, rows ≠ [] ∧ (∀ row ∈ rows, ∃ cell ∈ row, ¬ DashLike (cleanCell cell)) ∧
      parseMarkdownRows (rowsToMarkdown rows) ≠ tableRows rows ∧
      (parseMarkdownRows (rowsToMarkdown rows)).length ≠ rows.length :=
  ⟨[[some "項目",some "金額"],[some "營業收入\n合計",some "5"]],
    by decide,by decide,by decide,by decide⟩

end FinancialPdfReader
