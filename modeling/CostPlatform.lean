import CostPlatform.Library.Runs
import CostPlatform.Library.KeyedTable
import CostPlatform.Library.ThreeValued
import CostPlatform.Library.Fallible
import CostPlatform.Library.Traced
import CostPlatform.Library.Ranking
import CostPlatform.Library.Grouping
import CostPlatform.Library.Streak
import CostPlatform.Library.PyString
import CostPlatform.Library.PyJson
import CostPlatform.Library.JsonText
import CostPlatform.Library.PyFloat
import CostPlatform.Library.Regex
import CostPlatform.Library.JsonQuotes
import CostPlatform.Library.Tiling
import CostPlatform.Library.Calendar
import CostPlatform.Library.Sieve
import CostPlatform.Library.WeightedMean
import CostPlatform.Library.SlidingWindow
import CostPlatform.Security.Principal
import CostPlatform.Security.Identity
import CostPlatform.Security.Authorization
import CostPlatform.Security.Scope
import CostPlatform.Security.ScopeFilter
import CostPlatform.Lifecycle.Store
import CostPlatform.Lifecycle.Service
import CostPlatform.Lifecycle.ActiveUnique
import CostPlatform.Lifecycle.Status
import CostPlatform.Lifecycle.Rollback
import CostPlatform.Lifecycle.Canary
import CostPlatform.Lifecycle.Versions
import CostPlatform.Lifecycle.AuditTrail
import CostPlatform.Lifecycle.Endpoints
import CostPlatform.Intelligence.Listing
import CostPlatform.Gateway.CircuitBreaker
import CostPlatform.Gateway.StaleCalls
import CostPlatform.Gateway.ResilientGateway
import CostPlatform.Gateway.CallerDefects
import CostPlatform.Gateway.BreakerInvariant
import CostPlatform.Gateway.RetryLoop
import CostPlatform.Gateway.RetryCeiling
import CostPlatform.Cost.Currency
import CostPlatform.Cost.Aggregation
import CostPlatform.Cost.Reporting
import CostPlatform.Cost.CostEngine
import CostPlatform.Cost.Totals
import CostPlatform.Cost.Dominance
import CostPlatform.Budget.Policy
import CostPlatform.Budget.Period
import CostPlatform.Budget.Service
import CostPlatform.Budget.Gate
import CostPlatform.Budget.Composition
import CostPlatform.Budget.Monotonicity
import CostPlatform.Budget.Endpoints
import CostPlatform.Budget.Invariants
import CostPlatform.Budget.ExceededStatus
import CostPlatform.Budget.PeriodTiling
import CostPlatform.Orchestrator.Classification
import CostPlatform.Orchestrator.QualityCheck
import CostPlatform.Orchestrator.Registry
import CostPlatform.Orchestrator.Plan
import CostPlatform.Orchestrator.Execute
import CostPlatform.Orchestrator.Approval
import CostPlatform.Orchestrator.Telemetry
import CostPlatform.Orchestrator.FallbackPolicy
import CostPlatform.Orchestrator.Ceilings
import CostPlatform.Orchestrator.Recorder
import CostPlatform.Orchestrator.ExecuteEndpoint
import CostPlatform.Orchestrator.TenantIsolation
import CostPlatform.Orchestrator.Selection
import CostPlatform.Orchestrator.Downgrade
import CostPlatform.Orchestrator.Unmeasured
import CostPlatform.Orchestrator.Vision
import CostPlatform.Orchestrator.Limits
import CostPlatform.Orchestrator.ModelListing
import CostPlatform.Orchestrator.RetryCount
import CostPlatform.Optimization.Simulation
import CostPlatform.Optimization.MixRisk
import CostPlatform.Optimization.Shares
import CostPlatform.Optimization.Units
import CostPlatform.Guardrails.InputScan
import CostPlatform.Guardrails.ContextGuard
import CostPlatform.Guardrails.ToolGuard
import CostPlatform.Guardrails.OutputPatterns
import CostPlatform.Guardrails.OutputGuard
import CostPlatform.Orchestrator.QualityParsing
import CostPlatform.Core.RateLimit
import CostPlatform.Core.ExecuteRateLimit
import CostPlatform.Intelligence.SensorAnomaly
import CostPlatform.Workloads.PredictiveMaintenance
import CostPlatform.Intelligence.CostAnomaly
import CostPlatform.Intelligence.CostInvestigation
import CostPlatform.Intelligence.Forecast
import CostPlatform.Library.Worklist
import CostPlatform.Library.LeastSquares
import CostPlatform.Library.Dict
import CostPlatform.Orchestrator.ComplexityGrowth
import CostPlatform.Gateway.Embeddings
import CostPlatform.Intelligence.ForecastLine
import CostPlatform.Library.StableSort
import CostPlatform.Intelligence.SupplyChain
import CostPlatform.Intelligence.SupplierSelection
import CostPlatform.Intelligence.SupplyChainTotals
import CostPlatform.Workloads.SupplyChainContext
import CostPlatform.Workloads.SupplyChain
import CostPlatform.Workloads.BlockedBudget
import CostPlatform.Workloads.FilteredRecords
import CostPlatform.Workloads.SupplyChainFiltering
import CostPlatform.Budget.Listing
import CostPlatform.Budget.StatusReport
import CostPlatform.Core.Redaction
import CostPlatform.Guardrails.ExecutionBudget
import CostPlatform.Library.Pages
import CostPlatform.Library.RegexSub
import CostPlatform.Orchestrator.LifecycleRouting
import CostPlatform.Orchestrator.SpendRuns
import CostPlatform.Security.RouteProtection
import CostPlatform.Gateway.ChatCompletion
import CostPlatform.Gateway.ErrorNormalizer
import CostPlatform.Orchestrator.ModelSeed
import CostPlatform.Library.TraceMonitor
import CostPlatform.Workloads.ExecutionService
import CostPlatform.Workloads.ServiceRuns
import CostPlatform.Optimization.Engine
import CostPlatform.Optimization.Analyses
import CostPlatform.Core.Configuration
import CostPlatform.Library.Unwinding
import CostPlatform.Security.TenantRuns
import CostPlatform.Workloads.QualityUpload
import CostPlatform.Core.LogLine
import CostPlatform.Intelligence.ForecastingJobs
import CostPlatform.Library.Binary64
import CostPlatform.Library.Stages
import CostPlatform.Intelligence.WorstAnomaly
