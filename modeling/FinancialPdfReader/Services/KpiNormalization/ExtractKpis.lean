import FinancialPdfReader.Models.Database
import FinancialPdfReader.Python.Order
import FinancialPdfReader.Services.KpiNormalization.ExtractKpi

namespace FinancialPdfReader

open Py

/-- Each indicator and what it may be called. -/
def kpiKeywords : List (String × List String) := [
  ("revenue",["營業收入","收入淨額","銷貨收入","營收合計","Revenue","Net Revenue","Net Sales"]),
  ("gross_margin",["毛利率","銷貨毛利率","Gross Margin","Gross Profit Margin"]),
  ("operating_income",["營業利益","營業損益","營業利益（損失）","Operating Income","Operating Profit",
    "Income from Operations"]),
  ("net_income",["本期淨利","稅後淨利","本期稅後淨利","歸屬於母公司業主之淨利","Net Income","Net Profit",
    "Profit for the Period"]),
  ("eps",["每股盈餘","基本每股盈餘","每股淨利","EPS","Earnings Per Share","Basic EPS"]),
  ("cash_and_equiv",["現金及約當現金","現金與約當現金","期末現金及約當現金",
    "Cash and Cash Equivalents","Cash & Equivalents"]),
  ("total_debt",["短期借款","長期借款","應付公司債","一年內到期長期負債","Short-term Borrowings",
    "Long-term Debt","Borrowings"]),
  ("operating_cash_flow",["營業活動之現金流量","營業活動現金流量","來自營業活動之淨現金",
    "Operating Cash Flow","Net Cash from Operating Activities","Cash from Operations"])]

def unitHints : List String := ["千元","仟元","百萬元","億元","元","新台幣千元","USD thousands"]

/-- The first hint of the list, wherever in the table it stands. -/
def detectUnit (markdown : String) : Option String :=
  unitHints.find? (fun hint => isIn hint markdown)

/-- A value with the table it was found in. -/
structure KpiHit where
  value : ℚ
  rawText : String
  unitHint : Option String
  page : Nat
  tableId : String
  confidence : Confidence
  deriving DecidableEq

structure KpiReport where
  documentId : String
  period : String
  kpis : List (String × Option KpiHit)
  foundCount : Nat
  notFound : List String
  deriving DecidableEq

def kpiHit (keywords : List String) (table : PDFTable) : Option KpiHit :=
  match extractKpiFromMarkdown table.tableMarkdown keywords with
  | (some value,raw) => some
    { value
      rawText := raw
      unitHint := detectUnit table.tableMarkdown
      page := table.page
      tableId := table.tableId
      confidence := if table.extractionQuality = .high then .high else .medium }
  | (none,_) => none

/-- Of each indicator the first hit. -/
def kpisOf (documentId period : String) (tables : List PDFTable) : Except PyError KpiReport :=
  if tables.isEmpty then
    .error (.valueError
      ("No tables found for document " ++ documentId ++ ". Run /extract-tables first."))
  else
    let kpis := kpiKeywords.map (fun (kpiId,keywords) => (kpiId,tables.findSome? (kpiHit keywords)))
    .ok
      { documentId
        period
        kpis
        foundCount := (kpis.filter (fun kpi => kpi.2.isSome)).length
        notFound := (kpis.filter (fun kpi => kpi.2.isNone)).map Prod.fst }

def extractKpis (db : Database) (documentId : String) : Except PyError KpiReport :=
  match db.document? documentId with
  | none => .error (.valueError ("Document not found: " ++ documentId))
  | some doc => kpisOf documentId doc.period (sortBy (·.page) (db.tablesOf documentId))

section Unnamed

def KpiHit.unnamed (hit : KpiHit) : KpiHit := { hit with tableId := "" }

/-- The report but for the names that the tables were given. -/
def KpiReport.unnamed (report : KpiReport) : KpiReport :=
  { report with kpis := report.kpis.map (fun (kpiId,hit) => (kpiId,hit.map KpiHit.unnamed)) }

theorem kpiHit_unnamed (keywords : List String) (table : PDFTable) :
    kpiHit keywords { table with tableId := "" } =
      (kpiHit keywords table).map KpiHit.unnamed := by
  simp only [kpiHit]
  split <;> rfl

theorem findSome?_unnamed (keywords : List String) (tables : List PDFTable) :
    (tables.map (fun t => { t with tableId := "" })).findSome? (kpiHit keywords) =
      (tables.findSome? (kpiHit keywords)).map KpiHit.unnamed := by
  induction tables with
  | nil => rfl
  | cons table tables ih =>
    rw [List.map_cons, List.findSome?_cons, List.findSome?_cons, kpiHit_unnamed, ih]
    cases kpiHit keywords table <;> rfl

/-- The names have no part in what is found. -/
theorem kpisOf_unnamed (documentId period : String) (tables : List PDFTable) :
    kpisOf documentId period (tables.map (fun t => { t with tableId := "" })) =
      (kpisOf documentId period tables).map KpiReport.unnamed := by
  simp only [kpisOf, List.isEmpty_map, findSome?_unnamed]
  split
  · rfl
  · simp only [Except.map, KpiReport.unnamed, List.filter_map, List.map_map, List.length_map,
      Function.comp_def, Option.isSome_map, Option.isNone_map]

/-- Only the first hits matter. -/
theorem kpisOf_congr {documentId period : String} {tables tables' : List PDFTable}
    (hempty : tables.isEmpty = tables'.isEmpty)
    (hfirst : ∀ keywords, tables.findSome? (kpiHit keywords) =
      tables'.findSome? (kpiHit keywords)) :
    kpisOf documentId period tables = kpisOf documentId period tables' := by
  simp only [kpisOf, hempty, hfirst]

end Unnamed

end FinancialPdfReader
