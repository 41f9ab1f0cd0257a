import Verdict.Main
import Verdict.Proofs.Resolution.Verdict
import Verdict.Proofs.Resolution.Wording
import Verdict.Proofs.Store.Concurrent
import Verdict.Proofs.Store.Behind
import Verdict.Proofs.Store.Updates
import Verdict.Proofs.Store.Edits
import Verdict.Proofs.Store.Puts
import Verdict.Proofs.Store.Refreshing
import Verdict.Proofs.Condition.Cache
import Verdict.Proofs.Condition.Joined
import Verdict.Proofs.Condition.Judged
import Verdict.Proofs.Resolution.Order
import Verdict.Proofs.Condition.Malformed
import Verdict.Proofs.Intel
import Verdict.Proofs.Engine.Judging
import Verdict.Proofs.Engine.DryRun
import Verdict.Proofs.Engine.Operation
import Verdict.Proofs.Engine.Transfer
import Verdict.Proofs.Engine.Import
import Verdict.Proofs.Engine.Patterns
import Verdict.Proofs.Dispatch.Execution
import Verdict.Proofs.Engine.Dispatch
import Verdict.Proofs.Bundle.Equality
import Verdict.Proofs.Bundle.Integrity
import Verdict.Proofs.Bundle.Reading
import Verdict.Proofs.Bundle.Readers
import Verdict.Proofs.Condition.Confidence
import Verdict.Proofs.Risk.Runs
import Verdict.Proofs.Risk.Monotone
import Verdict.Proofs.Risk.Multipliers
import Verdict.Proofs.Risk.Range
import Verdict.Proofs.Condition.Case
import Verdict.Proofs.Address.Coverage
import Verdict.Proofs.Address.Mapped
import Verdict.Proofs.Condition.Typed
import Verdict.Proofs.Condition.Opposites
import Verdict.Proofs.Condition.Numeric
import Verdict.Proofs.Context.Search
import Verdict.Proofs.Context.Fixed
import Verdict.Proofs.Dispatch.Payloads
import Verdict.Proofs.Dispatch.Keys
import Verdict.Proofs.Json.Canonical
import Verdict.Proofs.Context.Enriched
import Verdict.Proofs.Dispatch.Repeats
import Verdict.Proofs.Engine.Batch
import Verdict.Proofs.Store.Versions
import Verdict.Proofs.Condition.Restored
import Verdict.Proofs.Context.Body
import Verdict.Proofs.Condition.Names
