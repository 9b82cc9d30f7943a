import FinancialPdfReader.Python.Json

namespace FinancialPdfReader

open Py

/-- What one period says of one indicator; the service builds it without saving it, so nothing
checks its fields. -/
structure TrendPoint where
  period : String
  documentId : String
  direction : Json
  deltaPct : Json
  claimText : Json
  sourceClaimId : Json
  governanceFlags : List String
  deriving DecidableEq

/-- The saved trend over several periods. -/
structure TrendReport where
  trendReportId : String
  stockId : String
  documentIds : List String
  periods : List String
  kpiTrends : List (String × List TrendPoint)
  r7Warning : Bool
  governanceFlags : List String
  createdAt : Nat
  deriving DecidableEq

end FinancialPdfReader
