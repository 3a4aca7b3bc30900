import RangeAudit.Main
import RangeAudit.Source.RawPlaces
import RangeAudit.Navigation.Replay
import RangeAudit.Report.Request
import RangeAudit.Session.Drill
import RangeAudit.Proofs.Text.Trimming
import RangeAudit.Proofs.Risk.CalledLines
import RangeAudit.Proofs.Domain.TextLength
import RangeAudit.Proofs.Navigation.Subscriptions
import RangeAudit.Proofs.Session.SelectedPath
import RangeAudit.Proofs.Interleaving.CoarsePaths
import RangeAudit.Proofs.Workbench.OpenedPath
import RangeAudit.Proofs.Interleaving.Change
import RangeAudit.Proofs.Interleaving.Provenance
import RangeAudit.Proofs.Interleaving.MemoCoherence
import RangeAudit.Proofs.Interleaving.SourceFreshness
import RangeAudit.Proofs.Interleaving.AnalysisFreshness
import RangeAudit.Proofs.Interleaving.LastSelection
import RangeAudit.Proofs.Interleaving.Unloading
import RangeAudit.Proofs.Entries.Grouping
import RangeAudit.Proofs.Domain.CanonicalText
import RangeAudit.Proofs.Domain.SameDomain
import RangeAudit.Proofs.Domain.Writing
import RangeAudit.Proofs.Domain.Verdict
import RangeAudit.Proofs.Domain.Narrowing
import RangeAudit.Proofs.Wire.Editing
import RangeAudit.Proofs.Margin.Refold
import RangeAudit.Proofs.Navigation.Coherence
import RangeAudit.Proofs.Entries.LastValue
import RangeAudit.Proofs.Entries.Passes
import RangeAudit.Proofs.Entries.FirstOfKey
import RangeAudit.Proofs.Risk.Placement
import RangeAudit.Proofs.Report.GateReach
import RangeAudit.Proofs.Report.Severity
import RangeAudit.Proofs.Report.RequestedLimits
import RangeAudit.Proofs.Session.Views
import RangeAudit.Proofs.Archive.Recall
import RangeAudit.Proofs.Session.Visit
import RangeAudit.Proofs.Session.AtRest
import RangeAudit.Proofs.Workbench.Visits
import RangeAudit.Proofs.Session.Arrival
import RangeAudit.Proofs.Workbench.History
import RangeAudit.Proofs.Workbench.Failure
import RangeAudit.Proofs.Workbench.ContextViews
import RangeAudit.Proofs.Archive.Answers
import RangeAudit.Proofs.Interleaving.Fencing
import RangeAudit.Proofs.Interleaving.DetailRequests
import RangeAudit.Proofs.Interleaving.BackgroundResults
import RangeAudit.Proofs.Workbench.Opening
import RangeAudit.Proofs.Risk.LineLevels
import RangeAudit.Proofs.CallGraph.Reachable
import RangeAudit.Proofs.Text.Lines
import RangeAudit.Proofs.Text.Order
import RangeAudit.Proofs.Tracker.Mentions
import RangeAudit.Proofs.Domain.ShortText
import RangeAudit.Proofs.Tracker.WatchPanel
import RangeAudit.Proofs.Tracker.Replay
import RangeAudit.Proofs.Tracker.LastChange
import RangeAudit.Proofs.Entries.FirstOccurrence
import RangeAudit.Proofs.CallGraph.Neighbours
import RangeAudit.Proofs.Source.LineIndex
import RangeAudit.Proofs.Margin.Badges
import RangeAudit.Proofs.Margin.MergedLines
import RangeAudit.Proofs.Report.LevelGates
import RangeAudit.Proofs.Domain.Nesting
import RangeAudit.Proofs.Report.TableRows
import RangeAudit.Proofs.Report.SummaryTexts
import RangeAudit.Proofs.Numeral.Grammar
import RangeAudit.Proofs.Interleaving.Tasks
import RangeAudit.Proofs.Interleaving.EventLoop
import RangeAudit.Proofs.Wire.NumberLength
import RangeAudit.Proofs.Tracker.Judgement
