import PullbackTrading.Json.Printer
import PullbackTrading.Json.Reader
import PullbackTrading.Csv.Printer
import PullbackTrading.Text.Lowercase
import PullbackTrading.Text.Width
import PullbackTrading.Market.Sheet
import PullbackTrading.Strategy.Signals
import PullbackTrading.Simulation.Run
import PullbackTrading.Performance.Ranking
import PullbackTrading.Document.Variant
import PullbackTrading.Document.Outcome
import PullbackTrading.Strategy.Standard
import PullbackTrading.Report.Overview
import PullbackTrading.Report.Files
import PullbackTrading.Report.Listing
import PullbackTrading.Document.Registry
import PullbackTrading.Command.Session
import PullbackTrading.Command.Memory
import PullbackTrading.Main
import PullbackTrading.Proofs.EntryRule
import PullbackTrading.Proofs.Book
import PullbackTrading.Proofs.Exits
import PullbackTrading.Proofs.Admission
import PullbackTrading.Proofs.Capacity
import PullbackTrading.Proofs.Prefix
import PullbackTrading.Proofs.Chronology
import PullbackTrading.Proofs.ClosingOrder
import PullbackTrading.Proofs.Lookup
import PullbackTrading.Proofs.Reading
import PullbackTrading.Proofs.Required
import PullbackTrading.Proofs.Lettercase
import PullbackTrading.Proofs.Registries
import PullbackTrading.Proofs.RowOrder
import PullbackTrading.Proofs.ReadBack
import PullbackTrading.Proofs.Exact
import PullbackTrading.Proofs.RiskBounds
import PullbackTrading.Proofs.PriceUnit
import PullbackTrading.Proofs.Selection
import PullbackTrading.Proofs.Resolution
import PullbackTrading.Proofs.Tightening
import PullbackTrading.Proofs.StopPlacement
import PullbackTrading.Proofs.Drawdown
import PullbackTrading.Proofs.Expectancy
import PullbackTrading.Proofs.RankOrder
import PullbackTrading.Proofs.TradeOrder
import PullbackTrading.Proofs.FirstFault
import PullbackTrading.Proofs.ColumnOrder
import PullbackTrading.Proofs.Building
import PullbackTrading.Proofs.Streaks
import PullbackTrading.Proofs.Numbering
import PullbackTrading.Proofs.Fallback
import PullbackTrading.Proofs.BoundedPass
import PullbackTrading.Proofs.BoundedRun
