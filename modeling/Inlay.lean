import Inlay.Config.Loader
import Inlay.Render.Engine
import Inlay.Proofs.Grammar.Reprint
import Inlay.Proofs.Render.Failure
import Inlay.Proofs.Trim.Evaluation
import Inlay.Proofs.Render.Limit
import Inlay.Proofs.Render.Nesting
import Inlay.Proofs.Render.Inlining
import Inlay.Proofs.Render.Guards
import Inlay.Proofs.Grammar.Concatenation
import Inlay.Proofs.Store.Memoisation
import Inlay.Proofs.Store.Containment
import Inlay.Proofs.Render.Presence
import Inlay.Proofs.Config.Typing
import Inlay.Proofs.Config.Reloading
import Inlay.Proofs.Config.Refusal
import Inlay.Proofs.Trim.NormalForm
import Inlay.Proofs.Context.Callbacks
import Inlay.Proofs.Fault.Reports
import Inlay.Proofs.Fault.Suggestion
import Inlay.Proofs.Render.Steady
import Inlay.Proofs.Render.Reporting
import Inlay.Proofs.Config.Restoring
import Inlay.Proofs.Render.Verbatim
import Inlay.Proofs.Render.Unused
import Inlay.Proofs.Render.Interchange
import Inlay.Proofs.Trim.Reach
import Inlay.Proofs.Config.Totality
import Inlay.Proofs.Render.Observation
import Inlay.Proofs.Render.Repetition
import Inlay.Proofs.Value.Overlay
import Inlay.Proofs.Config.Resolution
import Inlay.Proofs.Config.Inertness
import Inlay.Proofs.Grammar.Totality
import Inlay.Proofs.Render.Closing
import Inlay.Proofs.Context.Mapping
import Inlay.Proofs.Store.Registration
import Inlay.Proofs.Store.Listing
import Inlay.Proofs.Store.Accounting
import Inlay.Proofs.Config.Document
