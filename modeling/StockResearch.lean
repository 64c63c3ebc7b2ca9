import StockResearch.Clock.DateTime
import StockResearch.Clock.Spelling
import StockResearch.Contracts.AgentExecution
import StockResearch.Contracts.Analysis
import StockResearch.Contracts.DisputeAudit
import StockResearch.Contracts.Errors
import StockResearch.Contracts.Evidence
import StockResearch.Contracts.FinalOutput
import StockResearch.Contracts.Parsing
import StockResearch.Contracts.Review
import StockResearch.Contracts.SourcePolicies
import StockResearch.Contracts.Wrapper
import StockResearch.Lib.History
import StockResearch.Lib.Lex
import StockResearch.Lib.Outcome
import StockResearch.Lib.Run
import StockResearch.Lib.SlidingWindow
import StockResearch.Lib.SqlConstraints
import StockResearch.Lib.Table
import StockResearch.Preparation.AcceptanceSoundness
import StockResearch.Preparation.ApprovalWindows
import StockResearch.Preparation.Bundle
import StockResearch.Preparation.MarketEvidence
import StockResearch.Preparation.PriceAcceptance
import StockResearch.Preparation.PriceRows
import StockResearch.Preparation.RequirementsSoundness
import StockResearch.Requests.AtMostOnceSend
import StockResearch.Requests.Attempts
import StockResearch.Requests.Coordinators
import StockResearch.Requests.Effects
import StockResearch.Requests.ExchangeClosed
import StockResearch.Requests.Fencing
import StockResearch.Requests.FlightFaults
import StockResearch.Requests.FlightSoundness
import StockResearch.Requests.FlightSteps
import StockResearch.Requests.Followers
import StockResearch.Requests.GateOccupancy
import StockResearch.Requests.GateSteps
import StockResearch.Requests.Generations
import StockResearch.Requests.LeaseSnapshots
import StockResearch.Requests.LiveAttempts
import StockResearch.Requests.LiveFlights
import StockResearch.Requests.LogicalResults
import StockResearch.Requests.Operation
import StockResearch.Requests.QueueBounds
import StockResearch.Requests.RateLimits
import StockResearch.Requests.Reconciliation
import StockResearch.Requests.RecoverableAttempts
import StockResearch.Requests.RecoveryOutcome
import StockResearch.Requests.RecoverySuccess
import StockResearch.Requests.SchedulableWork
import StockResearch.Requests.SchemaMigrations
import StockResearch.Requests.SchemaScripts
import StockResearch.Requests.Initialization
import StockResearch.Requests.InitializationRuns
import StockResearch.Requests.SourceBinding
import StockResearch.Requests.TransferredAttempts
import StockResearch.Requests.Transition
import StockResearch.Requests.Transport
import StockResearch.Sources.Transports
import StockResearch.Sources.ReceivedResponses
import StockResearch.Sources.RequestIdentity
import StockResearch.Lib.Decimal
import StockResearch.Preparation.FxEvidence
import StockResearch.Lib.RoundRobin
import StockResearch.Requests.SchedulerFairness
import StockResearch.Requests.OfflineCoordinator
import StockResearch.Requests.OfflineGates
import StockResearch.Sources.CoordinatedSession
import StockResearch.Sources.SessionLaws
import StockResearch.Preparation.AnnualCampaign
import StockResearch.Preparation.CampaignBudget
import StockResearch.Preparation.DecimalText
import StockResearch.Preparation.AnnualCoverage
import StockResearch.Preparation.CoverageMerge
import StockResearch.Contracts.Pointer
import StockResearch.Contracts.KeyScans
import StockResearch.Sources.NativeHistory
import StockResearch.Sources.HistoryThrottle
import StockResearch.Sources.Protocol
import StockResearch.Sources.DocumentList
import StockResearch.Sources.RetrievalPlan
import StockResearch.Lib.PosixPath
import StockResearch.Lib.DirectoryTree
import StockResearch.Preparation.Storage
import StockResearch.Preparation.StorageLaws
import StockResearch.Contracts.InstancePaths
import StockResearch.Sources.SourcePublication
import StockResearch.Sources.PublishedValues
import StockResearch.Lib.Xml
import StockResearch.Sources.PyExceptions
import StockResearch.Sources.CurrentList
import StockResearch.Lib.Walk
import StockResearch.Preparation.FinancialCandidates
import StockResearch.Lib.Related
import StockResearch.Sources.WorkbookLaw
import StockResearch.Sources.WorkbookRows
import StockResearch.Sources.XbrlNames
import StockResearch.Sources.Taxonomy
import StockResearch.Sources.TaxonomyLaw
import StockResearch.Lib.PlainDecimal
import StockResearch.Sources.DocumentArchive
import StockResearch.Sources.XbrlFacts
import StockResearch.Sources.XbrlFactsLaw
import StockResearch.Sources.XbrlDimensions
import StockResearch.Sources.BojSeries
import StockResearch.Sources.BojSeriesLaw
import StockResearch.Preparation.PlainNumbers
import StockResearch.Preparation.FinancialMapping
import StockResearch.Preparation.FinancialAdoption
import StockResearch.Preparation.PriceFxRun
import StockResearch.Preparation.PriceFxReadiness
import StockResearch.Preparation.PriceFxReplay
