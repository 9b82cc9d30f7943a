import FinancialPdfReader.Services.Summarization.MetricSources

namespace FinancialPdfReader

open Py

section Nodes

variable {cleanClaims : List (AIClaim String)}

end Nodes

end FinancialPdfReader
