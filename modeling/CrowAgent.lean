import CrowAgent.Policy.Exposure
import CrowAgent.Policy.LossGates
import CrowAgent.Policy.Tightening
import CrowAgent.Lib.HashChain
import CrowAgent.Lib.Hex
import CrowAgent.Lib.Act
import CrowAgent.Protocol.Primitives
import CrowAgent.Protocol.CanonicalJson
import CrowAgent.Protocol.KeyOrder
import CrowAgent.Protocol.RunEvent
import CrowAgent.Protocol.RemoteCommand
import CrowAgent.Protocol.Splits
import CrowAgent.Protocol.SignedManifest
import CrowAgent.Core.DecisionSummary
import CrowAgent.Core.DeliveryOrder
import CrowAgent.Core.Recording
import CrowAgent.Core.Dispatch
import CrowAgent.Core.VenueNumbers
import CrowAgent.Core.MarketableLevels
import CrowAgent.Core.CompanionMessage
import CrowAgent.Core.SealedVersion
import CrowAgent.Core.JournalHistory
import CrowAgent.Core.JournalChain
import CrowAgent.Core.CycleRuns
import CrowAgent.Core.Gateway
import CrowAgent.Core.ModelLoop
import CrowAgent.Dataset.Package
import CrowAgent.Dataset.Publisher
import CrowAgent.Dataset.Decimals
import CrowAgent.Backtest.FillPrices
import CrowAgent.Backtest.Static
import CrowAgent.Scoring.Ranks
import CrowAgent.Scoring.Percentiles
import CrowAgent.Scoring.Returns
import CrowAgent.Scoring.SquareRoot
import CrowAgent.Daemon.Schedule
import CrowAgent.Daemon.RemoteNonces
import CrowAgent.Daemon.CompanionReplay
import CrowAgent.Daemon.CompanionRules
import CrowAgent.Daemon.LiveGate
import CrowAgent.Daemon.LeasePair
import CrowAgent.Daemon.StopHeld
import CrowAgent.Daemon.OrderLimit
import CrowAgent.Daemon.Chains
import CrowAgent.Desktop.CompanionOrder
import CrowAgent.Desktop.CommandOrder
import CrowAgent.Desktop.JournalView
import CrowAgent.Desktop.CompanionSlot
import CrowAgent.Core.Receipts
import CrowAgent.Core.RequestBudget
import CrowAgent.Desktop.CredentialFrame
import CrowAgent.Lib.Rfc3339
import CrowAgent.Desktop.LocalRuns
import CrowAgent.Daemon.SoakRuns
import CrowAgent.Daemon.Watermarks
import CrowAgent.Lib.Grammar
import CrowAgent.Daemon.LoopRules
import CrowAgent.Daemon.ChainGrammar
import CrowAgent.Daemon.Charting
import CrowAgent.Daemon.ChartedRuns
import CrowAgent.Daemon.RiskLedger
import CrowAgent.Desktop.DeviceTokens
import CrowAgent.Lib.Paging
import CrowAgent.Protocol.DatasetDocument
import CrowAgent.Dataset.Publishing
import CrowAgent.Dataset.Histories
