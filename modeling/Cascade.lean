import Cascade.Main
import Cascade.Metrics.Changes
import Cascade.Rule.Load
import Cascade.Service.LogContext
import Cascade.Service.Router
import Cascade.WorkItem.Sample
import Cascade.Proofs.Engine.FirstMatch
import Cascade.Proofs.Engine.Shadowing
import Cascade.Proofs.Rule.Operands
import Cascade.Proofs.Rule.StrictGrammar
import Cascade.Proofs.Update.Tracker
import Cascade.Proofs.WorkItem.Tags
import Cascade.Proofs.Engine.Targets
import Cascade.Proofs.Engine.TagUpdates
import Cascade.Proofs.Rule.Scan
import Cascade.Proofs.Rule.Words
import Cascade.Proofs.Rule.Phrases
import Cascade.Proofs.Rule.Rendering
import Cascade.Proofs.Rule.OperandRoundTrip
import Cascade.Proofs.Rule.ActionRoundTrip
import Cascade.Proofs.Rule.Layout
import Cascade.Proofs.Rule.CodeLines
import Cascade.Proofs.Rule.RoundTrip
import Cascade.Proofs.Rule.Modes
import Cascade.Proofs.Update.Batching
import Cascade.Proofs.Update.Accounting
import Cascade.Proofs.Tracker.Requests
import Cascade.Proofs.Service.Handling
import Cascade.Proofs.Service.Gates
import Cascade.Proofs.Service.Passage
import Cascade.Proofs.Resilience.Lockout
import Cascade.Proofs.Resilience.Retrying
import Cascade.Proofs.Rule.Patterns
import Cascade.Proofs.Service.NetworkFailures
import Cascade.Proofs.Engine.Footprint
import Cascade.Proofs.Engine.Spelling
import Cascade.Proofs.Rule.CheckedPatterns
import Cascade.Proofs.Engine.Searches
import Cascade.Proofs.Engine.Refusals
import Cascade.Proofs.Rule.Composition
import Cascade.Proofs.Rule.Validity
import Cascade.Proofs.Engine.Notices
import Cascade.Proofs.Tracker.RequestCounts
import Cascade.Proofs.Engine.Blocks
import Cascade.Proofs.Engine.Selection
import Cascade.Proofs.Engine.TagChanges
import Cascade.Proofs.Update.Grouping
import Cascade.Proofs.Resilience.Attempts
import Cascade.Proofs.Rule.Respacing
import Cascade.Proofs.Rule.Placement
import Cascade.Proofs.Engine.WrittenSelectors
import Cascade.Proofs.Rule.LineBreaks
import Cascade.Proofs.Engine.Conjuncts
import Cascade.Proofs.Tracker.Children
import Cascade.Proofs.WorkItem.Dumps
import Cascade.Proofs.Check.Files
import Cascade.Proofs.Rule.TopLevel
import Cascade.Proofs.Rule.Pieces
import Cascade.Proofs.Rule.Operators
import Cascade.Proofs.Engine.Comparisons
