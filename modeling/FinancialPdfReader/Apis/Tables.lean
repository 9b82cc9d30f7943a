import FinancialPdfReader.Apis.Runs
import FinancialPdfReader.Services.KpiNormalization.ExtractKpis
import FinancialPdfReader.Services.NumericEvidence
import Mathlib.Data.Prod.Lex

namespace FinancialPdfReader

open Py Pool

/-- `?page=18` and `?section=存貨`, each of which may be left out. -/
structure TableQuery where
  page : Option Int
  sectionName : Option String

/-- An empty section counts as none. -/
def TableQuery.allows (query : TableQuery) (t : PDFTable) : Bool :=
  (match query.page with
  | none => true
  | some page => decide ((t.page : Int) = page)) &&
  match query.sectionName with
  | none | some "" => true
  | some sectionName => t.sectionName = sectionName

/-- `order_by("page", "table_index")` -/
def tableOrder (t : PDFTable) : Nat ×ₗ Nat := toLex (t.page,t.tableIndex)

def queriedTables (db : Database) (documentId : String) (query : TableQuery) : List PDFTable :=
  sortBy tableOrder ((db.tablesOf documentId).filter query.allows)

structure TableView where
  tableId : String
  page : Nat
  sectionName : String
  tableIndex : Nat
  rowCount : Nat
  colCount : Nat
  extractionQuality : Quality
  requiresHumanReview : Bool
  tableMarkdown : String
  deriving DecidableEq

def PDFTable.view (t : PDFTable) : TableView :=
  { tableId := t.tableId
    page := t.page
    sectionName := t.sectionName
    tableIndex := t.tableIndex
    rowCount := t.rowCount
    colCount := t.colCount
    extractionQuality := t.extractionQuality
    requiresHumanReview := t.requiresHumanReview
    tableMarkdown := t.tableMarkdown }

/-- An error is its status code and its text. -/
def viewsOf (tables : List PDFTable) : Except (Nat × String) (List TableView) :=
  if tables.isEmpty then .error (404,"No tables found. Run /extract-tables first.")
  else .ok (tables.map PDFTable.view)

/-- The route for the tables of a document. -/
def getTables (db : Database) (documentId : String) (query : TableQuery) :
    Except (Nat × String) (List TableView) :=
  viewsOf (queriedTables db documentId query)

/-- The view without the name that the table was given. -/
def TableView.unnamed (view : TableView) : TableView := { view with tableId := "" }

def TableView.order (view : TableView) : Nat ×ₗ Nat := toLex (view.page,view.tableIndex)

section File

variable {files : Files}

theorem pairwise_zipIdx {α : Type} (xs : List α) (n : Nat) :
    (xs.zipIdx n).Pairwise (fun a b => a.2 < b.2) := by
  rw [← List.pairwise_map, List.zipIdx_map_snd]
  exact List.pairwise_lt_range'

theorem tablesOfPage_order (page : PdfPage) (pageNum : Nat) :
    (tablesOfPage page pageNum).Pairwise (fun a b => a.tableIndex < b.tableIndex) ∧
      ∀ tableData ∈ tablesOfPage page pageNum, tableData.page = pageNum := by
  rw [tablesOfPage]
  split
  · exact ⟨.nil,fun _ h => absurd h List.not_mem_nil⟩
  · constructor
    · exact List.pairwise_map.mpr ((pairwise_zipIdx _ 0).filter _)
    · intro tableData hmem
      obtain ⟨e,-,rfl⟩ := List.mem_map.mp hmem
      rfl

/-- The tables of a file come page by page, and on a page by their numbers. -/
theorem documentTables_order (files : Files) (doc : PDFDocument) :
    (documentTables files doc).Pairwise (fun a b => tableOrder a < tableOrder b) := by
  rw [documentTables]
  split
  · next pages _ =>
    refine List.pairwise_map.mpr (List.pairwise_flatMap.mpr ⟨?_,?_⟩)
    · intro e _
      obtain ⟨hindices,hpage⟩ := tablesOfPage_order e.1 e.2
      refine hindices.imp_of_mem (fun ha hb hlt => Prod.Lex.toLex_lt_toLex.mpr (.inr ⟨?_,hlt⟩))
      exact (hpage _ ha).trans (hpage _ hb).symm
    · refine (pairwise_zipIdx pages 1).imp (fun hlt a ha b hb => ?_)
      refine Prod.Lex.toLex_lt_toLex.mpr (.inl ?_)
      change a.page < b.page
      rw [(tablesOfPage_order _ _).2 a ha, (tablesOfPage_order _ _).2 b hb]
      exact hlt
  · exact .nil

theorem documentTables_pages (files : Files) (doc : PDFDocument) :
    (documentTables files doc).Pairwise (fun a b => a.page ≤ b.page) := by
  refine (documentTables_order files doc).imp (fun hlt => ?_)
  rcases Prod.Lex.toLex_lt_toLex.mp hlt with hpage | hpage
  · exact hpage.le
  · exact hpage.1.le

end File

section Extracted

variable {files : Files} {x : Store} {s : State Store Call} {documentId : String}

/-- Some call to extract the tables of the document has returned. -/
def Extracted (s : State Store Call) (documentId : String) : Prop :=
  ∃ call, .extractTables call ∈ s.calls ∧ call.documentId = documentId ∧
    ∃ summary, call.stage = .returned summary

/-- The tables of the document, as they are stored, are those of its file. -/
structure TablesComplete (files : Files) (x : Store) (doc : PDFDocument) : Prop where
  follows : SharedLog.Follows (documentTables files doc)
    ((x.db.tablesOf doc.documentId).map PDFTable.content)
  mem : ∀ t, t ∈ (x.db.tablesOf doc.documentId).map PDFTable.content ↔ t ∈ documentTables files doc

theorem TablesSaved.stored {doc : PDFDocument} {n : Nat} (h : TablesSaved files x.rows doc n)
    {t : PDFTable} (ht : t ∈ (documentTables files doc).take n) :
    t ∈ (x.db.tablesOf doc.documentId).map PDFTable.content := by
  obtain ⟨stored,hstored,hcontent⟩ := h t ht
  have hmine : stored.content.documentId = doc.documentId := by
    rw [hcontent]
    exact documentId_of_documentTables (List.mem_of_mem_take ht)
  exact List.mem_map.mpr ⟨stored,List.mem_filter.mpr ⟨hstored,decide_eq_true hmine⟩,hcontent⟩

/-- Whatever else went on, one call that has returned has seen to all tables. -/
theorem Extracted.complete (hs : Reachable files s) (hdone : Extracted s documentId) :
    ∃ doc, s.shared.db.document? documentId = some doc ∧ TablesComplete files s.shared doc := by
  obtain ⟨call,hcall,rfl,summary,hstage⟩ := hdone
  have hx := hs.holds.inv
  rcases hs.holds.sound _ hcall with ⟨doc,hdoc,hid,hsound,hsaved⟩ | ⟨hcalled,-⟩ | ⟨error,hraised⟩
  · obtain ⟨d,hd,rfl⟩ := hx.document? hdoc
    have hfollows := hx.tables _ hdoc
    rw [ExtractCall.Sound, hstage] at hsound
    refine ⟨d,hid ▸ hd,hfollows,fun t => ⟨hfollows.mem,fun ht => hsaved.stored ?_⟩⟩
    rw [List.take_of_length_le hsound]
    exact ht
  · cases hstage.symm.trans hcalled
  · cases hstage.symm.trans hraised

/-- What has no part in the order may be left out before the sort or after it. -/
theorem sortBy_map {α β κ : Type} [LinearOrder κ] {f : α → β} {key : α → κ} {key' : β → κ}
    (hkey : ∀ a, key' (f a) = key a) (xs : List α) :
    (sortBy key xs).map f = sortBy key' (xs.map f) := by
  refine List.map_insertionSort _ _ _ _ (fun a _ b _ => ?_)
  rw [hkey, hkey]

variable {doc : PDFDocument}

theorem TablesComplete.kpis (h : TablesComplete files x doc) (documentId period : String) :
    (kpisOf documentId period (sortBy (·.page) (x.db.tablesOf doc.documentId))).map
        KpiReport.unnamed =
      kpisOf documentId period (documentTables files doc) := by
  rw [← kpisOf_unnamed]
  have hsorted : (sortBy (·.page) (x.db.tablesOf doc.documentId)).map PDFTable.content =
      sortBy (·.page) ((x.db.tablesOf doc.documentId).map PDFTable.content) := by
    apply sortBy_map
    exact fun _ => rfl
  change kpisOf documentId period ((sortBy _ _).map PDFTable.content) = _
  rw [hsorted]
  have hmem : ∀ t, t ∈ sortBy (·.page) ((x.db.tablesOf doc.documentId).map PDFTable.content) ↔
      t ∈ documentTables files doc := by
    intro t
    rw [(sortBy_perm _ _).mem_iff, h.mem]
  apply kpisOf_congr
  · rw [Bool.eq_iff_iff, List.isEmpty_iff, List.isEmpty_iff, List.eq_nil_iff_forall_not_mem,
      List.eq_nil_iff_forall_not_mem]
    exact forall_congr' (fun t => not_congr (hmem t))
  · intro keywords
    exact (h.follows.sortBy (documentTables_pages files doc)).findSome?
      (fun t ht => (hmem t).mpr ht) _

/-- The route lists the tables of the file, repetitions apart, or finds none where the file has
none. -/
theorem TablesComplete.getTables (h : TablesComplete files x doc) (query : TableQuery) :
    (FinancialPdfReader.getTables x.db doc.documentId query).map
        (fun views => (views.map TableView.unnamed).dedup) =
      viewsOf ((documentTables files doc).filter query.allows) := by
  have hstored : ∀ t, t ∈ (x.db.tablesOf doc.documentId).filter query.allows →
      t.content ∈ (documentTables files doc).filter query.allows := by
    intro t ht
    obtain ⟨hmem,hallows⟩ := List.mem_filter.mp ht
    exact List.mem_filter.mpr ⟨(h.mem _).mp (List.mem_map_of_mem hmem),hallows⟩
  have hviews : ((queriedTables x.db doc.documentId query).map
      (fun t => t.view.unnamed)).dedup =
        ((documentTables files doc).filter query.allows).map PDFTable.view := by
    have hsorted : (queriedTables x.db doc.documentId query).map (fun t => t.view.unnamed) =
        sortBy TableView.order
          (((x.db.tablesOf doc.documentId).filter query.allows).map (fun t => t.view.unnamed)) := by
      apply sortBy_map
      exact fun _ => rfl
    rw [hsorted]
    refine SharedLog.dedup_sortBy ?_ (fun view => ?_)
    · exact List.pairwise_map.mpr ((documentTables_order files doc).filter _)
    · rw [List.mem_map, List.mem_map]
      constructor
      · intro hview
        obtain ⟨t,ht,rfl⟩ := hview
        exact ⟨t.content,hstored t ht,rfl⟩
      · intro hview
        obtain ⟨t,ht,rfl⟩ := hview
        obtain ⟨hmem,hallows⟩ := List.mem_filter.mp ht
        obtain ⟨stored,hin,rfl⟩ := List.mem_map.mp ((h.mem t).mpr hmem)
        exact ⟨stored,List.mem_filter.mpr ⟨hin,hallows⟩,rfl⟩
  have hnone : (queriedTables x.db doc.documentId query).isEmpty =
      ((documentTables files doc).filter query.allows).isEmpty := by
    rw [Bool.eq_iff_iff, List.isEmpty_iff, List.isEmpty_iff]
    have hempty := congrArg (· = []) hviews
    simpa [List.dedup_eq_nil] using hempty
  rw [FinancialPdfReader.getTables, viewsOf, viewsOf, hnone, ← hviews]
  split
  · rfl
  · rw [Except.map, List.map_map]
    rfl

theorem TablesComplete.numericCheck (h : TablesComplete files x doc) {number : String}
    {check : NumericCheck} (hcheck : numericCrossCheck x.db doc.documentId number = .ok check) :
    check.verdict = .confirmed ↔
      ∃ t ∈ documentTables files doc, tableHits (withoutSeparators number.toList) t = true := by
  have hfound : (findNumericEvidence x.db doc.documentId number).isEmpty = false ↔
      ∃ t ∈ documentTables files doc, tableHits (withoutSeparators number.toList) t = true := by
    rw [List.isEmpty_eq_false_iff_exists_mem]
    constructor
    · intro hmatch
      obtain ⟨found,hmatch⟩ := hmatch
      obtain ⟨t,ht,-⟩ := List.mem_map.mp hmatch
      obtain ⟨hmem,hhit⟩ := List.mem_filter.mp ht
      exact ⟨t.content,(h.mem _).mp (List.mem_map_of_mem hmem),hhit⟩
    · intro htable
      obtain ⟨t,ht,hhit⟩ := htable
      obtain ⟨stored,hstored,rfl⟩ := List.mem_map.mp ((h.mem t).mpr ht)
      exact ⟨_,List.mem_map_of_mem (List.mem_filter.mpr ⟨hstored,hhit⟩)⟩
  rw [numericCrossCheck] at hcheck
  split at hcheck
  · contradiction
  · obtain rfl := Except.ok.inj hcheck
    rw [← hfound]
    cases (findNumericEvidence x.db doc.documentId number).isEmpty <;> simp

/-- Once the tables of a document have been extracted, every route over them answers as the file
says, however many calls have extracted them at once and whatever was saved in between. -/
theorem extracted_as_file (hs : Reachable files s) (hdone : Extracted s documentId) :
    ∃ doc, s.shared.db.document? documentId = some doc ∧
      (extractKpis s.shared.db documentId).map KpiReport.unnamed =
        kpisOf documentId doc.period (documentTables files doc) ∧
      (∀ query, (getTables s.shared.db documentId query).map
          (fun views => (views.map TableView.unnamed).dedup) =
        viewsOf ((documentTables files doc).filter query.allows)) ∧
      ∀ number check, numericCrossCheck s.shared.db documentId number = .ok check →
        (check.verdict = .confirmed ↔
          ∃ t ∈ documentTables files doc,
            tableHits (withoutSeparators number.toList) t = true) := by
  obtain ⟨doc,hdoc,hcomplete⟩ := hdone.complete hs
  obtain ⟨-,rfl⟩ := Database.document?_eq_some hdoc
  refine ⟨doc,hdoc,?_,hcomplete.getTables,fun number check => hcomplete.numericCheck⟩
  rw [extractKpis, hdoc]
  exact hcomplete.kpis _ _

/-- A report with the table of its revenue. -/
def tableFile : Files := fun path =>
  if path = "uploads/d1_2330_2025Q4.pdf" then
    some (.ok [⟨.ok none,.ok [[[some "項目",some "金額"],[some "營業收入",some "1,234"]]]⟩])
  else none

/-- Its tables are extracted twice, in turns, and the first call returns. -/
def extractedTwice : List (Pool.Event Request Tick) :=
  [uploadQuarter "d1" "2330_2025Q4.pdf",goOn 0 0,.request (.extractTables "d1"),
    .request (.extractTables "d1")] ++
    (List.range 2).flatMap (fun k => [goOn 1 k,goOn 2 k]) ++ [goOn 1 2]

theorem extracted_as_file_sample : ∃ s doc, Reachable tableFile s ∧
    s.shared.db.pdfTables.map (·.tableId) = ["u1-1","u2-1"] ∧
    s.shared.db.document? "d1" = some doc ∧
    (extractKpis s.shared.db "d1").map KpiReport.unnamed =
      kpisOf "d1" doc.period (documentTables tableFile doc) ∧
    (getTables s.shared.db "d1" ⟨some 1,none⟩).map
        (fun views => (views.map TableView.unnamed).dedup) =
      viewsOf ((documentTables tableFile doc).filter (TableQuery.allows ⟨some 1,none⟩)) := by
  have hrun : (Pool.run (backend tableFile) (start Store.empty) extractedTwice).map (fun s =>
      (s.shared.db.pdfTables.map (·.tableId),s.calls.map (fun call => match call with
        | .extractTables ⟨"d1",_,.returned _⟩ => true
        | _ => false))) = some (["u1-1","u2-1"],[false,true,false]) := by
    decide +kernel
  obtain ⟨s,hs,hsame⟩ := Option.map_eq_some_iff.mp hrun
  obtain ⟨htables,hcalls⟩ := Prod.mk.inj hsame
  have hdone : Extracted s "d1" := by
    have hlast : ∃ call ∈ s.calls, (match call with
        | .extractTables ⟨"d1",_,.returned _⟩ => true
        | _ => false) = true := List.mem_map.mp (hcalls ▸ by simp)
    obtain ⟨call,hcall,hreturned⟩ := hlast
    split at hreturned
    · exact ⟨_,hcall,rfl,_,rfl⟩
    · contradiction
  obtain ⟨doc,hdoc,hkpis,htablesRead,-⟩ := extracted_as_file ⟨_,hs⟩ hdone
  exact ⟨s,doc,⟨_,hs⟩,htables,hdoc,hkpis,htablesRead _⟩

end Extracted

end FinancialPdfReader
