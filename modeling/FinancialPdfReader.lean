import FinancialPdfReader.Python.Dict
import FinancialPdfReader.Python.JsonLoads
import FinancialPdfReader.Python.Sorted
import FinancialPdfReader.Services.DataSource.CrossCheck
import FinancialPdfReader.Services.Classification.Overrides
import FinancialPdfReader.Concurrency.SharedLog
import FinancialPdfReader.Models.Database
import FinancialPdfReader.Core.Governance
import FinancialPdfReader.Services.Audit
import FinancialPdfReader.Services.DashboardContract.Validator
import FinancialPdfReader.Services.Summarization.Discipline
import FinancialPdfReader.Services.Summarization.Saved
import FinancialPdfReader.HarnessGates
import FinancialPdfReader.Services.Summarization.AdviceScan
import FinancialPdfReader.Services.Summarization.TemporalGuard
import FinancialPdfReader.Services.Summarization.Isolation
import FinancialPdfReader.Services.Summarization.MetricNodes
import FinancialPdfReader.Services.Summarization.RiskRows
import FinancialPdfReader.Services.Summarization.ReadingOrder
import FinancialPdfReader.Services.Summarization.LevelAndChange
import FinancialPdfReader.Services.PageChunks
import FinancialPdfReader.Services.DiffSections
import FinancialPdfReader.Services.SourceClaims
import FinancialPdfReader.Static.NarrativeReasons
import FinancialPdfReader.Static.InvalidContract
import FinancialPdfReader.Services.TrendSeries
import FinancialPdfReader.Services.TableRoundtrip
import FinancialPdfReader.Services.NumericEvidence
import FinancialPdfReader.Apis.StoredContent
import FinancialPdfReader.Apis.Coverage
import FinancialPdfReader.Apis.FailedIngest
import FinancialPdfReader.Services.DataSource.Tolerance
import FinancialPdfReader.Services.DiffPages
import FinancialPdfReader.Services.DiffCompared
import FinancialPdfReader.Services.ReasoningPatterns.FxImpact
import FinancialPdfReader.Services.KpiNormalization.ExtractKpi
import FinancialPdfReader.Services.Summarization.Proportion
import FinancialPdfReader.Services.Summarization.NarrativeShare
import FinancialPdfReader.Services.AuditPassed
import FinancialPdfReader.Static.DisplayOrder
import FinancialPdfReader.Apis.DocumentMeta
import FinancialPdfReader.Models.Disclosures
import FinancialPdfReader.Services.DisclosureCoverage
import FinancialPdfReader.Apis.Isolated
import FinancialPdfReader.Apis.Recovery
import FinancialPdfReader.Apis.Audits
import FinancialPdfReader.Apis.Sections
import FinancialPdfReader.Apis.Pages
import FinancialPdfReader.Apis.AnalysisPages
import FinancialPdfReader.HarnessGates
