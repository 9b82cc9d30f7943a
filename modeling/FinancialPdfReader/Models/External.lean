import FinancialPdfReader.Python.Newest
import FinancialPdfReader.Python.Sorted
import FinancialPdfReader.Models.Database

namespace FinancialPdfReader

open Py

inductive DataType where
  | monthlyRevenue | financialStatement | cashFlow
  deriving DecidableEq, Repr

instance : Choices DataType where
  all := [.monthlyRevenue,.financialStatement,.cashFlow]
  text
    | .monthlyRevenue => "monthly_revenue"
    | .financialStatement => "financial_statement"
    | .cashFlow => "cash_flow"
  mem_all a := by cases a <;> decide
  text_injective a b := by cases a <;> cases b <;> decide

/-- One row of what the data service answered; `payload` keeps all of its columns. -/
structure ExternalDataRecord where
  recordId : String
  stockId : String
  period : String
  dataType : DataType
  dataSource : String
  sourceUrl : String
  payload : List (String × Json)
  fetchedAt : Nat
  isAuxiliary : Bool
  deriving DecidableEq

/-- The collection, in the order in which its records were saved. -/
abbrev ExternalData := List ExternalDataRecord

namespace ExternalDataRecord

/-- `rec.payload.get(key, default)` -/
def payloadGet (rec : ExternalDataRecord) (key : String) (default : Json) : Json :=
  (Json.obj rec.payload).getD key default

def IsStatementOf (rec : ExternalDataRecord) (stockId : String) : Bool :=
  rec.stockId = stockId && rec.dataType = .financialStatement

end ExternalDataRecord

namespace ExternalData

def statements (store : ExternalData) (stockId : String) : List ExternalDataRecord :=
  store.filter (fun rec => rec.IsStatementOf stockId)

/-- What `.order_by("-fetched_at").limit(20)` may answer. -/
def LatestStatements (store : ExternalData) (stockId : String)
    (records : List ExternalDataRecord) : Prop :=
  NewestFirst (·.fetchedAt) 20 (store.statements stockId) records

/-- One of the answers. -/
def findLatest (store : ExternalData) (stockId : String) : List ExternalDataRecord :=
  (sortBy (·.fetchedAt) (store.statements stockId)).reverse.take 20

theorem latestStatements_findLatest (store : ExternalData) (stockId : String) :
    store.LatestStatements stockId (store.findLatest stockId) := by
  refine ⟨_,?_,?_,rfl⟩
  · exact (List.reverse_perm _).trans (sortBy_perm _ _)
  · exact List.pairwise_reverse.mpr (sortBy_pairwise _ _)

theorem mem_statements {store : ExternalData} {stockId : String} {rec : ExternalDataRecord} :
    rec ∈ store.statements stockId ↔ rec ∈ store ∧ rec.stockId = stockId ∧
      rec.dataType = .financialStatement := by
  simp [statements, ExternalDataRecord.IsStatementOf]

end ExternalData

end FinancialPdfReader
